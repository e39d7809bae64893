import WireSchema.Text.Letter

/-!
Names in the two spellings that a generator needs. In the snake form words are small and joined by
underscores; a capital begins a word after a small letter or a digit, and after another capital when a
small letter follows it, so an acronym stays one word. In the pascal form words begin with a capital and
are joined without a sign; of the separators only `-` and `_` count there.
-/

namespace WireSchema.Name

open WireSchema.Text

def isSeparator (c : Char) : Bool :=
  c == '-' || c == '_' || c == ' ' || c == '.'

/-- Whether `c` begins a word when `prev` and `next` are its neighbours in the name. -/
def beginsWord (prev : Option Char) (c : Char) (next : Option Char) : Bool :=
  isUppercase c &&
    match prev with
    | none => false
    | some p =>
      isLowercase p || p.isDigit || (isUppercase p && next.any isLowercase)

/-- An underscore, unless the result is empty or ends in one. The result is kept newest first. -/
def underscore : List Char → List Char
  | [] => []
  | '_' :: acc => '_' :: acc
  | acc => '_' :: acc

/-- Goes through a name with the character before it and the result so far, newest first. -/
def snakeFrom : Option Char → List Char → List Char → List Char
  | _, acc, [] => acc
  | prev, acc, c :: cs =>
    if isSeparator c then snakeFrom (some c) (underscore acc) cs
    else
      let acc := if beginsWord prev c cs.head? then underscore acc else acc
      snakeFrom (some c) ((lowercase c).reverse ++ acc) cs

/-- Drops one underscore in front. -/
def dropUnderscore : List Char → List Char
  | '_' :: acc => acc
  | acc => acc

def snakeChars (cs : List Char) : List Char :=
  (dropUnderscore (snakeFrom none [] cs)).reverse

def snake (name : String) : String :=
  String.ofList (snakeChars name.toList)

def capitalizeChars : List Char → List Char
  | [] => []
  | c :: cs => uppercase c ++ cs

def capitalize (name : String) : String :=
  String.ofList (capitalizeChars name.toList)

/-- The pascal form, with `start` at the beginning of a word. -/
def pascalFrom : Bool → List Char → List Char
  | _, [] => []
  | start, c :: cs =>
    if c = '-' ∨ c = '_' then pascalFrom true cs
    else (if start then uppercase c else [c]) ++ pascalFrom false cs

def pascal (name : String) : String :=
  String.ofList (pascalFrom true name.toList)

end WireSchema.Name
