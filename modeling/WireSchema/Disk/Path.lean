/-!
Paths as text. A path is a list of names with slashes between them; empty names and single dots say nothing.
-/

namespace WireSchema.Disk.Path

/-- The parts of a text between slashes. -/
def splitSlashes : List Char → List Char → List (List Char)
  | current, [] => [current.reverse]
  | current, c :: cs =>
    if c = '/' then current.reverse :: splitSlashes [] cs else splitSlashes (c :: current) cs

/-- The names that lead to the place a path means. -/
def names (path : String) : List String :=
  ((splitSlashes [] path.toList).map String.ofList).filter fun n => n != "" && n != "."

/-- A path that ends in a slash, or in a dot after one, can mean a folder only. -/
def meansFolder (path : String) : Bool :=
  match path.toList.reverse with
  | '/' :: _ => true
  | ['.'] => true
  | '.' :: '/' :: _ => true
  | _ => false

/-- The path of `name` inside the folder `base`. -/
def join (base name : String) : String :=
  if name.toList.head? = some '/' ∨ base = "" then name
  else if base.toList.getLast? = some '/' then base ++ name
  else base ++ "/" ++ name

end WireSchema.Disk.Path
