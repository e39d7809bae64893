import WireSchema.Text.Blank
import WireSchema.Text.Lines
import WireSchema.Text.Numeral

/-!
A syntax error with the lines around it: the line before, the line itself, and a caret under the column.
The caret line repeats the leading blanks of its line, so the caret stands right under tabs too.
-/

namespace WireSchema.Source

open WireSchema.Text

/-- Lines count from one and columns from zero. -/
structure Diagnostic where
  path : String
  line : Nat
  column : Nat
  message : String
  context : List String
  deriving DecidableEq, Repr

namespace Diagnostic

def caretLine (line : List Char) (column : Nat) : List Char :=
  let indent := (line.takeWhile isBlank).take column
  indent ++ List.replicate (column - indent.length) ' ' ++ ['^']

def contextOf (source : String) (line column : Nat) : List String :=
  let lines := Lines.plain source.toList
  let before := if 2 ≤ line then lines[line - 2]?.toList else []
  let current := if 1 ≤ line then lines[line - 1]?.toList else []
  (before ++ current.flatMap fun l => [l, caretLine l column]).map String.ofList

def locate (path source : String) (line column : Nat) (message : String) : Diagnostic :=
  { path, line, column, message, context := contextOf source line column }

/-- Columns are shown from one. -/
def render (d : Diagnostic) : String :=
  d.path ++ ":" ++ Numeral.ofNat 10 d.line ++ ":" ++ Numeral.ofNat 10 (d.column + 1) ++ ": " ++
    d.message ++ String.join (d.context.map ("\n\t" ++ ·))

end Diagnostic

end WireSchema.Source
