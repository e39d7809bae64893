import WireSchema.Text.Numeral

/-!
Settings files: one entry a line, a key and a string with an equals sign between them. Keys are bare or
quoted; strings are basic, with escapes, or literal, and either may span lines between three quotes. Other
kinds of values are no settings, so a file that has any is refused.
-/

namespace WireSchema.Settings

open WireSchema.Text

/-- Spaces and tabs are passed over inside a line. -/
def skipSpace (cs : List Char) : List Char :=
  cs.dropWhile fun c => c == ' ' || c == '\t'

/-- A character that may stand in a comment, and in a string unless it has a meaning there. -/
def isPlain (c : Char) : Bool :=
  c == '\t' || (0x20 ≤ c.toNat && c.toNat != 0x7F)

/-- The text after a line end; the end of the text is one too. -/
def afterLineEnd? : List Char → Option (List Char)
  | [] => some []
  | '\n' :: cs => some cs
  | '\r' :: '\n' :: cs => some cs
  | _ => none

/-- The rest of a line that holds at most a comment. -/
def afterLine? (cs : List Char) : Option (List Char) :=
  match skipSpace cs with
  | '#' :: cs => afterLineEnd? (cs.dropWhile isPlain)
  | cs => afterLineEnd? cs

/-- The value of hexadecimal digits. -/
def hexValue (cs : List Char) : Option Nat :=
  cs.foldl (fun acc c => acc.bind fun n => (Numeral.digitValue? 16 c).map (n * 16 + ·)) (some 0)

/-- A character given by `n` hexadecimal digits, and the text after them. -/
def codePoint (n : Nat) (cs : List Char) : Option (Char × List Char) :=
  let digits := cs.take n
  if digits.length = n then
    (hexValue digits).bind fun value =>
      if value.isValidChar then some (Char.ofNat value, cs.drop n) else none
  else none

/-- The character that an escape stands for, after its backslash. -/
def escaped : List Char → Option (Char × List Char)
  | 'b' :: cs => some ('\x08', cs)
  | 't' :: cs => some ('\t', cs)
  | 'n' :: cs => some ('\n', cs)
  | 'f' :: cs => some ('\x0c', cs)
  | 'r' :: cs => some ('\r', cs)
  | '"' :: cs => some ('"', cs)
  | '\\' :: cs => some ('\\', cs)
  | 'u' :: cs => codePoint 4 cs
  | 'U' :: cs => codePoint 8 cs
  | _ => none

/-- The rest of a basic string on one line, with the characters so far, last first. -/
def basicLine : Nat → List Char → List Char → Option (String × List Char)
  | 0, _, _ => none
  | _ + 1, _, [] => none
  | fuel + 1, done, c :: cs =>
    if c = '"' then some (String.ofList done.reverse, cs)
    else if c = '\\' then (escaped cs).bind fun (e, cs) => basicLine fuel (e :: done) cs
    else if isPlain c then basicLine fuel (c :: done) cs
    else none

/-- The rest of a literal string on one line. -/
def literalLine : List Char → List Char → Option (String × List Char)
  | _, [] => none
  | done, c :: cs =>
    if c = '\'' then some (String.ofList done.reverse, cs)
    else if isPlain c then literalLine (c :: done) cs
    else none

/-- The end of a string between three quotes: up to two more quotes belong to the string. -/
def closingQuotes (quote : Char) (done cs : List Char) : Option (String × List Char) :=
  let more := min 2 (cs.takeWhile (· == quote)).length
  some (String.ofList (List.replicate more quote ++ done).reverse, cs.drop more)

/-- The text after a line end inside a string, which stands for a line feed. -/
def afterBreak? : List Char → Option (List Char)
  | '\n' :: cs => some cs
  | '\r' :: '\n' :: cs => some cs
  | _ => none

/-- After a backslash at the end of a line, all blanks and line ends. -/
def afterFold : List Char → List Char
  | ' ' :: cs => afterFold cs
  | '\t' :: cs => afterFold cs
  | '\n' :: cs => afterFold cs
  | '\r' :: '\n' :: cs => afterFold cs
  | cs => cs

/-- The rest of a basic string between three quotes. -/
def basicLines : Nat → List Char → List Char → Option (String × List Char)
  | 0, _, _ => none
  | _ + 1, _, [] => none
  | _ + 1, done, '"' :: '"' :: '"' :: cs => closingQuotes '"' done cs
  | fuel + 1, done, '\\' :: cs =>
    match afterBreak? (skipSpace cs) with
    | some rest => basicLines fuel done (afterFold rest)
    | none => (escaped cs).bind fun (e, cs) => basicLines fuel (e :: done) cs
  | fuel + 1, done, c :: cs =>
    match afterBreak? (c :: cs) with
    | some rest => basicLines fuel ('\n' :: done) rest
    | none => if isPlain c then basicLines fuel (c :: done) cs else none

/-- The rest of a literal string between three quotes. -/
def literalLines : Nat → List Char → List Char → Option (String × List Char)
  | 0, _, _ => none
  | _ + 1, _, [] => none
  | _ + 1, done, '\'' :: '\'' :: '\'' :: cs => closingQuotes '\'' done cs
  | fuel + 1, done, c :: cs =>
    match afterBreak? (c :: cs) with
    | some rest => literalLines fuel ('\n' :: done) rest
    | none => if isPlain c then literalLines fuel (c :: done) cs else none

/-- A line end right after three quotes is not part of the string. -/
def afterFirstBreak (cs : List Char) : List Char :=
  (afterBreak? cs).getD cs

/-- A string value and the text after it. -/
def stringValue (cs : List Char) : Option (String × List Char) :=
  match cs with
  | '"' :: '"' :: '"' :: cs => basicLines (cs.length + 1) [] (afterFirstBreak cs)
  | '\'' :: '\'' :: '\'' :: cs => literalLines (cs.length + 1) [] (afterFirstBreak cs)
  | '"' :: cs => basicLine (cs.length + 1) [] cs
  | '\'' :: cs => literalLine [] cs
  | _ => none

def isBareKey (c : Char) : Bool :=
  ('a' ≤ c && c ≤ 'z') || ('A' ≤ c && c ≤ 'Z') || ('0' ≤ c && c ≤ '9') || c == '_' || c == '-'

/-- A key and the text after it. -/
def key (cs : List Char) : Option (String × List Char) :=
  match cs with
  | '"' :: cs => basicLine (cs.length + 1) [] cs
  | '\'' :: cs => literalLine [] cs
  | cs =>
    let bare := cs.takeWhile isBareKey
    if bare.isEmpty then none else some (String.ofList bare, cs.drop bare.length)

/-- An entry and the text after its line. -/
def entry (cs : List Char) : Option ((String × String) × List Char) := do
  let (name, cs) ← key cs
  match skipSpace cs with
  | '=' :: cs =>
    let (value, cs) ← stringValue (skipSpace cs)
    let rest ← afterLine? cs
    return ((name, value), rest)
  | _ => none

/-- The entries of a text. -/
def entriesFrom : Nat → List Char → Option (List (String × String))
  | 0, _ => none
  | fuel + 1, cs =>
    match skipSpace cs with
    | [] => some []
    | c :: rest =>
      match afterLine? (c :: rest) with
      | some rest => entriesFrom fuel rest
      | none => do
        let (e, rest) ← entry (c :: rest)
        let others ← entriesFrom fuel rest
        return e :: others

/-- A mark of byte order at the front is passed over. -/
def entries (text : String) : Option (List (String × String)) :=
  let cs := match text.toList with
    | '\ufeff' :: cs => cs
    | cs => cs
  entriesFrom (cs.length + 1) cs

end WireSchema.Settings
