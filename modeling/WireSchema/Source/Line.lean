import WireSchema.Text.Blank

/-!
What a finished line of source does to the nesting depth. A line that ends in an opening brace opens a
level and one that ends in a closing brace closes one. Comments, empty pairs of braces and lines that
close one block and open the next leave the depth alone.
-/

namespace WireSchema.Source

open WireSchema.Text

inductive Delta where
  | opens
  | closes
  | same
  deriving DecidableEq, Repr

def isComment (line : List Char) : Bool :=
  ['/', '/'].isPrefixOf line

/-- The effect of a line without blanks at its ends. -/
def deltaTrimmed (line : List Char) : Delta :=
  if isComment line || ['{', '}'].isSuffixOf line then .same
  else if line.getLast? = some '{' then
    if line.head? = some '}' then .same else .opens
  else if line.getLast? = some '}' then .closes
  else .same

def delta (line : List Char) : Delta :=
  deltaTrimmed (trim line)

/-- There is no level below zero. -/
def Delta.apply : Delta → Nat → Nat
  | .opens, depth => depth + 1
  | .closes, depth => depth - 1
  | .same, depth => depth

end WireSchema.Source
