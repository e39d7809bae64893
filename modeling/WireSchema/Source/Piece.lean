import WireSchema.Source.Error
import WireSchema.Source.Sheet

/-!
Source text in the making. A text is a sequence of pieces, and a piece that cannot be made is an error in
its place: what stands before it is written, what stands after it is not.
-/

namespace WireSchema.Source

abbrev Piece := Except Error String

abbrev Pieces := List Piece

def line (text : String) : Piece := .ok (text ++ "\n")

def blankLine : Piece := .ok "\n"

namespace Pieces

/-- The text before the first error, and that error. -/
def run : Pieces → String × Option Error
  | [] => ("", none)
  | .error e :: _ => ("", some e)
  | .ok text :: rest => (text ++ (run rest).1, (run rest).2)

/-- The first error. -/
def error? (ps : Pieces) : Option Error :=
  (run ps).2

end Pieces

/-- Writes pieces up to the first error. -/
def Sheet.writePieces (s : Sheet) : Pieces → Sheet × Option Error
  | [] => (s, none)
  | .error e :: _ => (s, some e)
  | .ok text :: rest => (s.write text).writePieces rest

end WireSchema.Source
