import WireSchema.Grammar.File
import WireSchema.Source.Error
import WireSchema.Source.Item
import WireSchema.Source.Sheet
import WireSchema.Text.Utf8

/-!
Checking a sheet before it is written. A sheet that is not well formed is looked at piece by piece, so that
every broken piece is reported; a fault that no piece shows by itself is reported for the whole.
-/

namespace WireSchema.Source

/-- What is said about a place where a text stops being well formed. -/
def faultMessage : String := "unexpected token"

/-- A fault in a text that begins at line `firstLine` of the source. -/
def reportFault (path source : String) (firstLine : Nat) (p : Grammar.Location) : Diagnostic :=
  Diagnostic.locate path source (p.line + (firstLine - 1)) p.column faultMessage

/-- Says where a text stops being well formed, if it does. Nothing else is asked of a parser. -/
class Parser where
  fault? : String → Option Grammar.Location

instance grammarParser : Parser where
  fault? := Grammar.fault?

variable [Parser]

def itemFaults (path source : String) : List Diagnostic :=
  (items source.toList).filterMap fun i =>
    (Parser.fault? (String.ofList i.text)).map (reportFault path source i.firstLine)

def faults (path source : String) : List Diagnostic :=
  match Parser.fault? source with
  | none => []
  | some p =>
    match itemFaults path source with
    | [] => [reportFault path source 1 p]
    | found => found

namespace Sheet

def check (s : Sheet) (path : String) : Except Error Unit :=
  match faults path s.text with
  | [] => .ok ()
  | found => .error (.malformed found)

/-- Checks a sheet and writes it to a disk. -/
def persist (s : Sheet) (path : String) (d : Disk) : Except Error Disk := do
  s.check path
  (d.replace path (Text.Utf8.encode s.text)).mapError (.unwritable path ·)

end Sheet

end WireSchema.Source
