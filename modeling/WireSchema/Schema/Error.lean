import WireSchema.Json.Reader
import WireSchema.Version.Range

/-!
Why a schema document is refused.
-/

namespace WireSchema.Schema

open WireSchema.Text

/-- The types a default value can be asked for. -/
inductive DefaultKind where
  | boolean
  | integer
  | string
  deriving DecidableEq, Repr

def DefaultKind.name : DefaultKind → String
  | .boolean => "boolean"
  | .integer => "integer"
  | .string => "string"

/-- The document values that cannot be defaults. -/
inductive Unsupported where
  | null
  | array
  | object
  deriving DecidableEq, Repr

def Unsupported.name : Unsupported → String
  | .null => "null"
  | .array => "array"
  | .object => "object"

inductive Error where
  | unreadable (path reason : String)
  | document (path : String) (cause : Json.Cause) (position : Option Json.Position)
  | versionRange (text : String) (flaw : Version.Range.Flaw)
  | fieldType (text : String)
  | unknownPrimitive (token : String)
  | defaultMismatch (expected : DefaultKind)
  | invalidDefault (kind : DefaultKind) (text : String)
  | unsupportedDefault (found : Unsupported)
  | missingApiKey (name : String)
  deriving DecidableEq, Repr

/-- A cause with the position it is reported at. -/
def documentMessage (cause : Json.Cause) : Option Json.Position → String
  | none => cause.message
  | some p =>
    cause.message ++ " at line " ++ Numeral.ofNat 10 p.line ++ " column " ++
      Numeral.ofNat 10 p.column

def Error.message : Error → String
  | .unreadable path reason => "failed to read " ++ path ++ ": " ++ reason
  | .document path cause position => path ++ ": " ++ documentMessage cause position
  | .versionRange text flaw =>
    "invalid version range " ++ Quoted.encode text ++ ": " ++ flaw.message
  | .fieldType text => "invalid field type " ++ Quoted.encode text
  | .unknownPrimitive token => "unknown primitive type " ++ Quoted.encode token
  | .defaultMismatch expected => "default value is not a " ++ expected.name
  | .invalidDefault kind text => "invalid " ++ kind.name ++ " default " ++ Quoted.encode text
  | .unsupportedDefault found => "unsupported " ++ found.name ++ " default value"
  | .missingApiKey name => "message " ++ name ++ " has no apiKey"

end WireSchema.Schema
