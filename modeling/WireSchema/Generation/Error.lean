import WireSchema.Schema.Message
import WireSchema.Source.Error

/-!
What goes wrong while documents are turned into files.
-/

namespace WireSchema.Generation

open WireSchema.Text

/-- The half of a group that a message fills. -/
inductive Slot where
  | request
  | response
  deriving DecidableEq, Repr

def Slot.name : Slot → String
  | .request => "request"
  | .response => "response"

/-- A message that has no place in any group. -/
inductive Fault where
  | strayHeader (name : String) (key : Int16)
  | unexpectedHeader (name request response : String)
  | missingKey (kind : Schema.Kind) (name : String)
  deriving DecidableEq, Repr

def keyText (key : Int16) : String :=
  Numeral.ofInt 10 key.toInt

/-- How the group of an API is called. -/
def apiLabel (key : Int16) : String :=
  "api key " ++ keyText key

def headersLabel : String := "headers"

def Fault.message : Fault → String
  | .strayHeader name key => "header " ++ name ++ " routed to " ++ apiLabel key
  | .unexpectedHeader name request response =>
    "unexpected header " ++ name ++ " (expected " ++ request ++ " or " ++ response ++ ")"
  | .missingKey kind name => kind.name ++ " " ++ name ++ " has no api key"

inductive Error where
  | load (path : String) (cause : Schema.Error)
  | conflict (group : String) (slot : Slot) (existing incoming : String)
  | nameMismatch (key : Int16) (request response : String)
  | fault (cause : Fault)
  | compile (group : String) (cause : Source.Error)
  deriving DecidableEq, Repr

namespace Error

def message : Error → String
  | .load path cause => path ++ ": " ++ cause.message
  | .conflict group slot existing incoming =>
    group ++ ": " ++ slot.name ++ " slot already holds " ++ existing ++ ", rejecting " ++ incoming
  | .nameMismatch key request response =>
    apiLabel key ++ ": request base name " ++ Quoted.encode request ++
      " does not match response base name " ++ Quoted.encode response
  | .fault cause => "internal fault: " ++ cause.message
  | .compile group cause => group ++ ": " ++ cause.message

/-- The error ends a whole group and not one document. -/
def isGroupFatal : Error → Bool
  | .conflict .. | .nameMismatch .. | .fault .. => true
  | .load .. | .compile .. => false

end Error

end WireSchema.Generation
