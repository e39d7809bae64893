import WireSchema.Source.Line
import WireSchema.Text.Lines

/-!
Cutting a source into its top-level pieces. A piece ends with a line at depth zero that is no comment and
ends in a closing brace or a semicolon; what follows the last such line is a piece too. Each piece comes
with the number of its first line.
-/

namespace WireSchema.Source

open WireSchema.Text

structure Item where
  firstLine : Nat
  text : List Char
  deriving DecidableEq, Repr

/-- The line ends a piece when it leaves no level open. -/
def endsItem (line : List Char) : Bool :=
  let t := trim line
  !isComment t && (t.getLast? == some '}' || t.getLast? == some ';')

/-- `number` is that of the next line, and `taken` the piece so far, which began at line `first`. -/
def itemsFrom (number first depth : Nat) (taken : List Char) : List (List Char) → List Item
  | [] => if taken.isEmpty then [] else [⟨first, taken⟩]
  | line :: rest =>
    let depth := (delta line).apply depth
    let taken := taken ++ line
    if depth = 0 ∧ endsItem line then
      ⟨first, taken⟩ :: itemsFrom (number + 1) (number + 1) depth [] rest
    else itemsFrom (number + 1) first depth taken rest

def items (source : List Char) : List Item :=
  itemsFrom 1 1 0 [] (Lines.inclusive source)

end WireSchema.Source
