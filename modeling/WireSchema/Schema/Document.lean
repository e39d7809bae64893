import WireSchema.Json.Value
import WireSchema.Schema.Message

/-!
The document form of message schemas. The keys of each record are listed in the order in which a list
form holds them; a draft has a place for every key.
-/

namespace WireSchema.Schema

open WireSchema.Json WireSchema.Version

def readText : Json.Reader String :=
  Reader.text "a string"

/-- The range that a text spells. -/
def parseRange (text : String) : Except Error Range :=
  (Range.parse text).mapError (.versionRange text)

def readRange : Json.Reader (Option Range) :=
  Reader.orNull (Reader.textSuch "a string" fun s => (parseRange s).mapError Error.message)

def readFieldType : Json.Reader FieldType :=
  Reader.textSuch "a string" fun s => (FieldType.parse s).mapError Error.message

def readTag : Json.Reader (Option Int) :=
  Reader.orNull (Reader.integer "i32" (-2147483648) 2147483647)

def readApiKey : Json.Reader (Option Int16) :=
  Reader.orNull ((Int16.ofInt ·) <$> Reader.integer "i16" (-32768) 32767)

/-! ## Fields -/

inductive FieldKey where
  | name
  | about
  | type
  | versions
  | taggedVersions
  | nullableVersions
  | flexibleVersions
  | fields
  | default
  | tag
  | entityType
  | mapKey
  | ignorable
  deriving DecidableEq, Repr

namespace FieldKey

def all : List FieldKey := [
  .name, .about, .type, .versions, .taggedVersions, .nullableVersions, .flexibleVersions, .fields,
  .default, .tag, .entityType, .mapKey, .ignorable]

def text : FieldKey → String
  | .name => "name"
  | .about => "about"
  | .type => "type"
  | .versions => "versions"
  | .taggedVersions => "taggedVersions"
  | .nullableVersions => "nullableVersions"
  | .flexibleVersions => "flexibleVersions"
  | .fields => "fields"
  | .default => "default"
  | .tag => "tag"
  | .entityType => "entityType"
  | .mapKey => "mapKey"
  | .ignorable => "ignorable"

def required : FieldKey → Bool
  | .name | .type => true
  | _ => false

end FieldKey

structure FieldDraft where
  name : Option String := none
  about : Option String := none
  type : Option FieldType := none
  versions : Option (Option Range) := none
  taggedVersions : Option (Option Range) := none
  nullableVersions : Option (Option Range) := none
  flexibleVersions : Option (Option Range) := none
  fields : Option (List Field) := none
  default : Option Default := none
  tag : Option (Option Int) := none
  entityType : Option String := none
  mapKey : Option Bool := none
  ignorable : Option Bool := none

namespace FieldDraft

def isSet (d : FieldDraft) : FieldKey → Bool
  | .name => d.name.isSome
  | .about => d.about.isSome
  | .type => d.type.isSome
  | .versions => d.versions.isSome
  | .taggedVersions => d.taggedVersions.isSome
  | .nullableVersions => d.nullableVersions.isSome
  | .flexibleVersions => d.flexibleVersions.isSome
  | .fields => d.fields.isSome
  | .default => d.default.isSome
  | .tag => d.tag.isSome
  | .entityType => d.entityType.isSome
  | .mapKey => d.mapKey.isSome
  | .ignorable => d.ignorable.isSome

/-- Reads one member; `members` and `value` read the two that have parts. -/
def read (members : Json.Reader (List Field)) (value : Json.Reader Default) (d : FieldDraft) :
    FieldKey → Json.Reader FieldDraft
  | .name => do return { d with name := some (← readText) }
  | .about => do return { d with about := some (← readText) }
  | .type => do return { d with type := some (← readFieldType) }
  | .versions => do return { d with versions := some (← readRange) }
  | .taggedVersions => do return { d with taggedVersions := some (← readRange) }
  | .nullableVersions => do return { d with nullableVersions := some (← readRange) }
  | .flexibleVersions => do return { d with flexibleVersions := some (← readRange) }
  | .fields => do return { d with fields := some (← members) }
  | .default => do return { d with default := some (← value) }
  | .tag => do return { d with tag := some (← readTag) }
  | .entityType => do return { d with entityType := some (← readText) }
  | .mapKey => do return { d with mapKey := some (← Reader.boolean) }
  | .ignorable => do return { d with ignorable := some (← Reader.boolean) }

def finish (d : FieldDraft) : Json.Reader Field :=
  match d.name, d.type with
  | some name, some type =>
    return {
      name, type
      about := d.about.getD ""
      versions := d.versions.join
      taggedVersions := d.taggedVersions.join
      nullableVersions := d.nullableVersions.join
      flexibleVersions := d.flexibleVersions.join
      fields := d.fields.getD []
      default := d.default.getD .absent
      tag := d.tag.join
      entityType := d.entityType.getD ""
      mapKey := d.mapKey.getD false
      ignorable := d.ignorable.getD false }
  | none, _ => Reader.raise (.missingKey FieldKey.name.text)
  | _, none => Reader.raise (.missingKey FieldKey.type.text)

end FieldDraft

def fieldFormat (members : Json.Reader (List Field)) (room : Bool) :
    RecordFormat FieldKey FieldDraft where
  typeName := "Field"
  keys := FieldKey.all
  name := FieldKey.text
  required := FieldKey.required
  isSet k d := d.isSet k
  read k d := d.read members (Default.reader room) k
  empty := {}

def readDraft (format : Option (RecordFormat FieldKey FieldDraft)) : Json.Reader Field := do
  let d ← Reader.record "Field" format
  d.finish

/-- Reads a field where `depth` more brackets may be opened. A field with members takes two of them. -/
def readField : Nat → Json.Reader Field
  | 0 => readDraft none
  | 1 => readDraft (some (fieldFormat (Reader.listOf none) false))
  | depth + 2 => readDraft (some (fieldFormat (Reader.listOf (some (readField depth))) true))

/-- Reads a list of fields where `depth` more brackets may be opened. -/
def readFields : Nat → Json.Reader (List Field)
  | 0 => Reader.listOf none
  | depth + 1 => Reader.listOf (some (readField depth))

/-- To show something of the readers of fields and of their lists, show it of a list from its elements and of
a field from its members. -/
theorem readField_induction {R : Json.Reader Field → Prop} {S : Json.Reader (List Field) → Prop}
    (hlist : ∀ element, (∀ r, element = some r → R r) → S (Reader.listOf element))
    (hdraft : ∀ format, (∀ f, format = some f → ∃ members room, f = fieldFormat members room ∧ S members) →
      R (readDraft format)) :
    ∀ depth, R (readField depth)
  | 0 => hdraft none fun _ hf => by cases hf
  | 1 => by
      refine hdraft _ ?_
      rintro _ ⟨⟩
      exact ⟨_, _, rfl, hlist none fun _ hr => by cases hr⟩
  | depth + 2 => by
      have ih := readField_induction hlist hdraft depth
      refine hdraft _ ?_
      rintro _ ⟨⟩
      refine ⟨_, _, rfl, hlist _ ?_⟩
      rintro _ ⟨⟩
      exact ih

theorem readFields_induction {R : Json.Reader Field → Prop} {S : Json.Reader (List Field) → Prop}
    (hlist : ∀ element, (∀ r, element = some r → R r) → S (Reader.listOf element))
    (hdraft : ∀ format, (∀ f, format = some f → ∃ members room, f = fieldFormat members room ∧ S members) →
      R (readDraft format))
    (depth : Nat) : S (readFields depth) := by
  cases depth with
  | zero =>
      rw [readFields]
      exact hlist none fun _ hr => by cases hr
  | succ depth =>
      rw [readFields]
      refine hlist _ ?_
      rintro _ ⟨⟩
      exact readField_induction hlist hdraft depth

/-! ## Structures -/

inductive StructureKey where
  | name
  | versions
  | fields
  deriving DecidableEq, Repr

namespace StructureKey

def text : StructureKey → String
  | .name => "name"
  | .versions => "versions"
  | .fields => "fields"

end StructureKey

structure StructureDraft where
  name : Option String := none
  versions : Option (Option Range) := none
  fields : Option (List Field) := none

namespace StructureDraft

def isSet (d : StructureDraft) : StructureKey → Bool
  | .name => d.name.isSome
  | .versions => d.versions.isSome
  | .fields => d.fields.isSome

def read (members : Json.Reader (List Field)) (d : StructureDraft) :
    StructureKey → Json.Reader StructureDraft
  | .name => do return { d with name := some (← readText) }
  | .versions => do return { d with versions := some (← readRange) }
  | .fields => do return { d with fields := some (← members) }

def finish (d : StructureDraft) : Json.Reader Structure :=
  match d.name with
  | some name => return { name, versions := d.versions.join, fields := d.fields.getD [] }
  | none => Reader.raise (.missingKey StructureKey.name.text)

end StructureDraft

def structureFormat (depth : Nat) : RecordFormat StructureKey StructureDraft where
  typeName := "CommonStruct"
  keys := [.name, .versions, .fields]
  name := StructureKey.text
  required k := k == .name
  isSet k d := d.isSet k
  read k d := d.read (readFields depth) k
  empty := {}

/-- Reads a structure where `depth + 1` more brackets may be opened. -/
def readStructure (depth : Nat) : Json.Reader Structure := do
  let d ← Reader.record "CommonStruct" (some (structureFormat depth))
  d.finish

/-! ## Messages -/

inductive MessageKey where
  | apiKey
  | type
  | name
  | validVersions
  | flexibleVersions
  | fields
  | commonStructs
  deriving DecidableEq, Repr

namespace MessageKey

def all : List MessageKey := [
  .apiKey, .type, .name, .validVersions, .flexibleVersions, .fields, .commonStructs]

def text : MessageKey → String
  | .apiKey => "apiKey"
  | .type => "type"
  | .name => "name"
  | .validVersions => "validVersions"
  | .flexibleVersions => "flexibleVersions"
  | .fields => "fields"
  | .commonStructs => "commonStructs"

def required : MessageKey → Bool
  | .type | .name => true
  | _ => false

end MessageKey

structure MessageDraft where
  apiKey : Option (Option Int16) := none
  kind : Option Kind := none
  name : Option String := none
  validVersions : Option (Option Range) := none
  flexibleVersions : Option (Option Range) := none
  fields : Option (List Field) := none
  structures : Option (List Structure) := none

def kinds : List (String × Kind) :=
  [Kind.header, Kind.request, Kind.response].map fun k => (k.name, k)

namespace MessageDraft

def isSet (d : MessageDraft) : MessageKey → Bool
  | .apiKey => d.apiKey.isSome
  | .type => d.kind.isSome
  | .name => d.name.isSome
  | .validVersions => d.validVersions.isSome
  | .flexibleVersions => d.flexibleVersions.isSome
  | .fields => d.fields.isSome
  | .commonStructs => d.structures.isSome

def read (depth : Nat) (d : MessageDraft) : MessageKey → Json.Reader MessageDraft
  | .apiKey => do return { d with apiKey := some (← readApiKey) }
  | .type => do return { d with kind := some (← Reader.variant kinds) }
  | .name => do return { d with name := some (← readText) }
  | .validVersions => do return { d with validVersions := some (← readRange) }
  | .flexibleVersions => do return { d with flexibleVersions := some (← readRange) }
  | .fields => do return { d with fields := some (← readFields depth) }
  | .commonStructs => do
    return { d with structures := some (← Reader.listOf (some (readStructure (depth - 2)))) }

def finish (d : MessageDraft) : Json.Reader Message :=
  match d.kind, d.name with
  | some kind, some name =>
    return {
      kind, name
      apiKey := d.apiKey.join
      validVersions := d.validVersions.join
      flexibleVersions := d.flexibleVersions.join
      fields := d.fields.getD []
      structures := d.structures.getD [] }
  | none, _ => Reader.raise (.missingKey MessageKey.type.text)
  | _, none => Reader.raise (.missingKey MessageKey.name.text)

end MessageDraft

def messageFormat (depth : Nat) : RecordFormat MessageKey MessageDraft where
  typeName := "MessageData"
  keys := MessageKey.all
  name := MessageKey.text
  required := MessageKey.required
  isSet k d := d.isSet k
  read k d := d.read depth k
  empty := {}

def readMessage : Json.Reader Message := do
  let d ← Reader.record "MessageData" (some (messageFormat (nestingLimit - 1)))
  d.finish

/-- Reads a document that has no comments, as it stands. -/
def parseMessage (bytes : List UInt8) : Except Json.Failure Message :=
  (Reader.whole readMessage (Document.ofBytes bytes)).1

/-- Reads a single default value. -/
def parseDefault (bytes : List UInt8) : Except Json.Failure Default :=
  (Reader.whole (Default.reader true) (Document.ofBytes bytes)).1

/-- The default that a document value stands for. -/
def defaultOfValue : Json.Value → Except Json.Cause Default
  | .null => .error (Default.refuse .null)
  | .boolean b => .ok (.boolean b)
  | .number n => .ok (Default.ofNumber n)
  | .text s => .ok (.string s)
  | .list _ => .error (Default.refuse .array)
  | .object _ => .error (Default.refuse .object)

end WireSchema.Schema
