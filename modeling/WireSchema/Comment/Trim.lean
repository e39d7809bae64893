import WireSchema.Text.Blank
import WireSchema.Text.Lines

/-!
The comment block of a document without its frame: the licence lines at the top go, and then the blank
comment lines at either end.
-/

namespace WireSchema.Comment

open WireSchema.Text

def licenceLines : Nat := 14

/-- What follows the first `n` line feeds, if there are so many. -/
def afterLines : Nat → List Char → Option (List Char)
  | 0, cs => some cs
  | _ + 1, [] => none
  | n + 1, c :: cs => if c = '\n' then afterLines n cs else afterLines (n + 1) cs

/-- Two slashes and nothing visible. -/
def isBlankLine : List Char → Bool
  | '/' :: '/' :: rest => rest.all isBlank
  | _ => false

def trimLines (lines : List (List Char)) : List (List Char) :=
  ((lines.dropWhile isBlankLine).reverse.dropWhile isBlankLine).reverse

/-- A block of fewer lines than the licence has is all licence. -/
def trimChars (cs : List Char) : List Char :=
  match afterLines licenceLines cs with
  | none => []
  | some rest => (trimLines (Lines.inclusive rest)).flatten

def trim (comments : String) : String :=
  String.ofList (trimChars comments.toList)

end WireSchema.Comment
