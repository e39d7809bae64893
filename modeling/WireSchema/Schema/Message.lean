import WireSchema.Schema.Default
import WireSchema.Schema.FieldType

/-!
Message schemas. A message has fields, a field may declare the members of its structure type inline, and
structures used by several fields are declared beside the fields.
-/

namespace WireSchema.Schema

open WireSchema.Version (Range)

inductive Kind where
  | header
  | request
  | response
  deriving DecidableEq, Repr

namespace Kind

def name : Kind → String
  | .header => "header"
  | .request => "request"
  | .response => "response"

/-- What the names of such messages end in. -/
def ending? : Kind → Option String
  | .header => none
  | .request => some "Request"
  | .response => some "Response"

end Kind

structure Field where
  name : String
  about : String := ""
  type : FieldType
  versions : Option Range := none
  taggedVersions : Option Range := none
  nullableVersions : Option Range := none
  flexibleVersions : Option Range := none
  fields : List Field := []
  default : Default := .absent
  tag : Option Int := none
  entityType : String := ""
  mapKey : Bool := false
  ignorable : Bool := false
  deriving Repr

/-- The field declares its structure inline. -/
def Field.hasStructure (f : Field) : Bool :=
  f.type.element.structName?.isSome && !f.fields.isEmpty

/-- A structure declared beside the fields. -/
structure Structure where
  name : String
  versions : Option Range := none
  fields : List Field := []
  deriving Repr

structure Message where
  apiKey : Option Int16 := none
  kind : Kind
  name : String
  validVersions : Option Range := none
  flexibleVersions : Option Range := none
  fields : List Field := []
  structures : List Structure := []
  comments : String := ""
  deriving Repr

namespace Message

/-- Only requests and responses belong to an API. -/
def isApi (m : Message) : Bool :=
  match m.kind with
  | .header => false
  | _ => true

/-- The part of a name before `ending`, if the name ends so. -/
def dropEnding? (name ending : String) : Option String :=
  if ending.toList.isSuffixOf name.toList then
    some (String.ofList (name.toList.take (name.toList.length - ending.toList.length)))
  else none

/-- The name without the ending of its kind. -/
def baseName (m : Message) : String :=
  ((m.kind.ending?).bind (dropEnding? m.name)).getD m.name

/-- The first structure of that name. -/
def structure? (m : Message) (name : String) : Option Structure :=
  m.structures.find? (·.name == name)

end Message

end WireSchema.Schema
