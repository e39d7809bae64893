/-!
Identifiers of the generated language. A name that is a keyword is written raw, with `r#` in front; the few
words that cannot be raw get an underscore at the end.
-/

namespace WireSchema.Name

def keywords : List String := [
  "abstract", "as", "async", "await", "become", "box", "break", "const", "continue", "crate", "do",
  "dyn", "else", "enum", "extern", "false", "final", "fn", "for", "gen", "if", "impl", "in", "let",
  "loop", "macro", "match", "mod", "move", "mut", "override", "priv", "pub", "ref", "return", "static",
  "struct", "super", "trait", "true", "try", "type", "typeof", "unsafe", "unsized", "use", "virtual",
  "where", "while", "yield"]

/-- Words that have no raw form. -/
def reserved : List String := ["crate", "self", "Self", "super"]

def identifier (name : String) : String :=
  if reserved.contains name then name ++ "_"
  else if keywords.contains name then "r#" ++ name
  else name

end WireSchema.Name
