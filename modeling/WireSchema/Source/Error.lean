import WireSchema.Disk.Store
import WireSchema.Schema.Error
import WireSchema.Source.Diagnostic

/-!
Why no source is written.
-/

namespace WireSchema.Source

open WireSchema.Text

inductive Error where
  | default (owner field : String) (cause : Schema.Error)
  | unknownStructure (owner field name : String)
  | malformed (errors : List Diagnostic)
  | unwritable (path : String) (trouble : Disk.Trouble)
  deriving DecidableEq, Repr

def Error.message : Error → String
  | .default owner field cause => owner ++ "." ++ field ++ ": " ++ cause.message
  | .unknownStructure owner field name =>
    owner ++ "." ++ field ++ ": unknown structure type " ++ Quoted.encode name
  | .malformed errors => String.intercalate "\n" (errors.map Diagnostic.render)
  | .unwritable path trouble => "failed to write " ++ path ++ ": " ++ trouble.message

end WireSchema.Source
