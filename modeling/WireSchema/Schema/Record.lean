import WireSchema.Schema.Message

/-!
The structures of a message, in the order in which they are met: the message itself, then the structures
declared inline in its fields, each before those inside it, then every structure declared beside the fields
with its own inline structures.
-/

namespace WireSchema.Schema

open WireSchema.Version (Range)

/-- A structure with the versions at which it occurs. -/
structure Record where
  name : String
  fields : List Field
  versions : Option Range

mutual

/-- The structures declared inline in a field. -/
def inlineRecordsOf : Field → List Record
  | ⟨_, _, type, versions, _, _, _, fields, _, _, _, _, _⟩ =>
    match type.element with
    | .primitive _ => []
    | .struct name =>
      if fields.isEmpty then [] else ⟨name, fields, versions⟩ :: inlineRecords fields

def inlineRecords : List Field → List Record
  | [] => []
  | f :: fs => inlineRecordsOf f ++ inlineRecords fs

end

mutual

/-- The names of the structures declared inline below a field, also below a field whose own type is
primitive. -/
def inlineNamesOf : Field → List String
  | ⟨_, _, type, _, _, _, _, fields, _, _, _, _, _⟩ =>
    (match type.element with
      | .primitive _ => []
      | .struct name => if fields.isEmpty then [] else [name]) ++ inlineNames fields

def inlineNames : List Field → List String
  | [] => []
  | f :: fs => inlineNamesOf f ++ inlineNames fs

end

namespace Message

/-- The names that a field may refer to. -/
def declaredNames (m : Message) : List String :=
  inlineNames m.fields ++ m.structures.flatMap fun s => s.name :: inlineNames s.fields

/-- The message as a structure. -/
def record (m : Message) : Record :=
  ⟨m.name, m.fields, m.validVersions⟩

/-- All structures but the message itself. -/
def innerRecords (m : Message) : List Record :=
  inlineRecords m.fields ++
    m.structures.flatMap fun s => ⟨s.name, s.fields, s.versions⟩ :: inlineRecords s.fields

def records (m : Message) : List Record :=
  m.record :: m.innerRecords

end Message

end WireSchema.Schema
