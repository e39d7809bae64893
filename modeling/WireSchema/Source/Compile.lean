import WireSchema.Source.Codec

/-!
Messages to source. The comments of a message come first and then its structures, in the order in which
they are met.
-/

namespace WireSchema.Source

open WireSchema.Text WireSchema.Schema

/-- Each comment line keeps two slashes; an exclamation mark after them is set off by a space, so that no
line is a doc comment. -/
def commentPieces (comments : String) : Pieces :=
  (Lines.plain comments.toList).map fun l =>
    let text := l.dropWhile (· == '/')
    let gap := if text.head? = some '!' then [' '] else []
    line (String.ofList (['/', '/'] ++ gap ++ trimEnd text))

/-- The message, and after an empty line each of its other structures. -/
def messagePieces (m : Message) : Pieces :=
  let known := m.declaredNames
  blankLine :: commentPieces m.comments ++
    recordPieces known (messageOnlyPieces m) m.record ++
    m.innerRecords.flatMap fun r => blankLine :: recordPieces known [] r

/-- Writes a message; what was written before an error stays. -/
def compileMessage (s : Sheet) (m : Message) : Sheet × Option Error :=
  s.writePieces (messagePieces m)

/-- The opening lines of a file; `path` is where the codec's own types are found. -/
def preludeFor (path : String) : String :=
  "use " ++ path ++ "::\x7bCodecError, Decoder, Encoder, Message\x7d;\n" ++
    "use serde::\x7bDeserialize, Serialize\x7d;\n"

def defaultRuntimePath : String := "kafkagen_protocol"

def compileAll (s : Sheet) : List Message → Except Error Sheet
  | [] => .ok s
  | m :: ms =>
    match compileMessage s m with
    | (s, none) => compileAll s ms
    | (_, some e) => .error e

/-- A file with all the messages of a group. -/
def compileGroup (runtimePath : String) (messages : List Message) : Except Error Sheet :=
  compileAll (Sheet.withPrelude (preludeFor runtimePath)) messages

end WireSchema.Source
