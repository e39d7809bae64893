import WireSchema.Comment.Trim
import WireSchema.Name.Case
import WireSchema.Schema.Message

/-!
What is put right in every loaded message. The comments lose their frame. A few families of messages,
known by how their names begin, have structure names that clash with those of other messages, or field
names that do not begin with a capital; those are renamed, in the fields of the message at any depth.
-/

namespace WireSchema.Schema

/-- Applies `f` to a field after its members. -/
def Field.mapTree (f : Field → Field) : Field → Field
  | ⟨name, about, type, versions, taggedVersions, nullableVersions, flexibleVersions, fields, default,
      tag, entityType, mapKey, ignorable⟩ =>
    f ⟨name, about, type, versions, taggedVersions, nullableVersions, flexibleVersions,
      mapMembers fields, default, tag, entityType, mapKey, ignorable⟩
where
  mapMembers : List Field → List Field
    | [] => []
    | g :: gs => Field.mapTree f g :: mapMembers gs

/-- The structures of the incremental messages share their names with those of other messages. -/
def incrementalName (name : String) : String :=
  if name = "AlterConfigsResource" ∨ name = "AlterConfigsResourceResponse" then "Incremental" ++ name
  else if name = "AlterableConfig" then "Incrementally" ++ name
  else name

def renameStructure (f : Field) : Field :=
  match f.type.element with
  | .struct name => { f with type := { f.type with element := .struct (incrementalName name) } }
  | .primitive _ => f

def beginsSmall (name : String) : Bool :=
  name.toList.head?.any Char.isLower

def exportName (f : Field) : Field :=
  if beginsSmall f.name then { f with name := Name.pascal f.name } else f

/-- A change to the fields of the messages whose names begin with `start`. -/
structure Correction where
  start : String
  change : Field → Field

def corrections : List Correction := [
  ⟨"IncrementalAlterConfigs", renameStructure⟩,
  ⟨"CreateTopicsRequest", exportName⟩]

def Correction.apply (c : Correction) (m : Message) : Message :=
  if c.start.toList.isPrefixOf m.name.toList then
    { m with fields := m.fields.map (Field.mapTree c.change) }
  else m

def Message.normalize (m : Message) : Message :=
  corrections.foldl (fun m c => c.apply m) { m with comments := Comment.trim m.comments }

end WireSchema.Schema
