import WireSchema.Proofs.Json.Record
import WireSchema.Proofs.Schema.Load
import WireSchema.Proofs.Text.Utf8
import WireSchema.Proofs.Version.Range

/-!
What a loaded message is like. A request or response has an API key, every range anywhere in the message can
be written, and every type is a primitive or names a structure by a name that no primitive could have. All of
this is checked where a range, a type or the message is read, so it holds of what the readers yield, and the
corrections made after loading keep it: they change no range, and the names they give begin with a capital.
-/

namespace WireSchema.Schema

open WireSchema.Json WireSchema.Text WireSchema.Version

/-! ## Types -/

/-- A structure's name is not empty and does not begin with a small letter. -/
def Element.WellFormed : Element → Prop
  | .primitive _ => True
  | .struct name => ∃ b rest, Utf8.encode name = b :: rest ∧ ¬Utf8.IsSmallLetter b

theorem Element.wellFormed_of_parse {name : String} {e : Element} (h : Element.parse name = .ok e) :
    e.WellFormed := by
  rw [Element.parse] at h
  split at h
  · cases h
  · rename_i c cs hname
    split at h
    · cases hprimitive : Primitive.parse name with
      | error reason => rw [hprimitive] at h; cases h
      | ok p =>
          rw [hprimitive] at h
          cases h
          exact trivial
    · rename_i hupper
      cases h
      obtain ⟨b, rest, hfirst, hsmall⟩ := Utf8.encode_first hname
      exact ⟨b, rest, hfirst, fun hb => hupper (hsmall hb)⟩

theorem FieldType.wellFormed_of_parse {text : String} {t : FieldType} (h : FieldType.parse text = .ok t) :
    t.element.WellFormed := by
  have hmap : ∀ {name isArray}, (Element.parse name).map (⟨·, isArray⟩) = Except.ok t →
      t.element.WellFormed := by
    intro name isArray hparse
    cases helement : Element.parse name with
    | error reason => rw [helement] at hparse; cases hparse
    | ok e =>
        rw [helement] at hparse
        cases hparse
        exact Element.wellFormed_of_parse helement
  rw [FieldType.parse] at h
  split at h
  · cases h
  · exact hmap h
  · exact hmap h

/-! ## Fields at any depth -/

/-- The field is one of the fields or of the fields inside them, at any depth. -/
inductive Occurs (f : Field) : List Field → Prop where
  | here {fields : List Field} (h : f ∈ fields) : Occurs f fields
  | inside {fields : List Field} {g : Field} (hg : g ∈ fields) (h : Occurs f g.fields) : Occurs f fields

/-- The range is well formed, if there is one. -/
def OptionalRange (range : Option Range) : Prop :=
  ∀ r, range = some r → r.WellFormed

structure Field.WellFormed (f : Field) : Prop where
  type : f.type.element.WellFormed
  versions : OptionalRange f.versions
  taggedVersions : OptionalRange f.taggedVersions
  nullableVersions : OptionalRange f.nullableVersions
  flexibleVersions : OptionalRange f.flexibleVersions

/-- All fields are well formed, at any depth. -/
def AllWellFormed (fields : List Field) : Prop :=
  ∀ f, Occurs f fields → f.WellFormed

structure Structure.WellFormed (s : Structure) : Prop where
  versions : OptionalRange s.versions
  fields : AllWellFormed s.fields

structure Message.WellFormed (m : Message) : Prop where
  apiKey : m.kind = .request ∨ m.kind = .response → m.apiKey.isSome
  validVersions : OptionalRange m.validVersions
  flexibleVersions : OptionalRange m.flexibleVersions
  fields : AllWellFormed m.fields
  structures : ∀ s ∈ m.structures, s.WellFormed

theorem optionalRange_none : OptionalRange none := by
  intro r hr
  cases hr

theorem allWellFormed_nil : AllWellFormed [] := by
  intro f hf
  cases hf with
  | here h => exact absurd h List.not_mem_nil
  | inside hg _ => exact absurd hg List.not_mem_nil

theorem allWellFormed_of_mem {fields : List Field}
    (h : ∀ f ∈ fields, f.WellFormed ∧ AllWellFormed f.fields) : AllWellFormed fields := by
  intro f hf
  cases hf with
  | here hmem => exact (h f hmem).1
  | inside hmem hinside => exact (h _ hmem).2 f hinside

/-! ## What the readers yield -/

theorem mapError_eq_ok {ε ε' α : Type} {x : Except ε α} {f : ε → ε'} {a : α} (h : x.mapError f = .ok a) :
    x = .ok a := by
  cases x with
  | error e => cases h
  | ok b => exact congrArg Except.ok (Except.ok.inj h)

theorem readRange_yields : readRange.Yields OptionalRange :=
  (Reader.yields_textSuch _ fun _ _ h => Range.wellFormed_of_parse (mapError_eq_ok (mapError_eq_ok h))).orNull

theorem readFieldType_yields : readFieldType.Yields fun t => t.element.WellFormed :=
  Reader.yields_textSuch _ fun _ _ h => FieldType.wellFormed_of_parse (mapError_eq_ok h)

structure FieldDraft.WellFormed (d : FieldDraft) : Prop where
  type : ∀ t, d.type = some t → t.element.WellFormed
  versions : OptionalRange d.versions.join
  taggedVersions : OptionalRange d.taggedVersions.join
  nullableVersions : OptionalRange d.nullableVersions.join
  flexibleVersions : OptionalRange d.flexibleVersions.join
  fields : AllWellFormed (d.fields.getD [])

theorem FieldDraft.wellFormed_empty : FieldDraft.WellFormed {} where
  type _ h := by cases h
  versions := optionalRange_none
  taggedVersions := optionalRange_none
  nullableVersions := optionalRange_none
  flexibleVersions := optionalRange_none
  fields := allWellFormed_nil

theorem FieldDraft.read_yields {members : Json.Reader (List Field)} (hmembers : members.Yields AllWellFormed)
    (value : Json.Reader Default) {d : FieldDraft} (h : d.WellFormed) (k : FieldKey) :
    (d.read members value k).Yields FieldDraft.WellFormed := by
  cases k with
  | type =>
      refine readFieldType_yields.bind fun t ht => Reader.yields_pure { h with type := ?_ }
      intro t' ht'
      exact Option.some.inj ht' ▸ ht
  | versions => exact readRange_yields.bind fun r hr => Reader.yields_pure { h with versions := hr }
  | taggedVersions => exact readRange_yields.bind fun r hr => Reader.yields_pure { h with taggedVersions := hr }
  | nullableVersions =>
      exact readRange_yields.bind fun r hr => Reader.yields_pure { h with nullableVersions := hr }
  | flexibleVersions =>
      exact readRange_yields.bind fun r hr => Reader.yields_pure { h with flexibleVersions := hr }
  | fields => exact hmembers.bind fun fs hfs => Reader.yields_pure { h with fields := hfs }
  | _ => exact Reader.yields_bind fun a => Reader.yields_pure { h with }

theorem FieldDraft.finish_yields {d : FieldDraft} (h : d.WellFormed) :
    d.finish.Yields fun f => f.WellFormed ∧ AllWellFormed f.fields := by
  rw [FieldDraft.finish]
  split
  · rename_i name type _ htype
    exact Reader.yields_pure ⟨⟨h.type type htype, h.versions, h.taggedVersions, h.nullableVersions,
      h.flexibleVersions⟩, h.fields⟩
  · exact Reader.yields_raise _
  · exact Reader.yields_raise _

theorem readDraft_yields {format : Option (RecordFormat FieldKey FieldDraft)}
    (h : ∀ f, format = some f → ∃ members room, f = fieldFormat members room ∧ members.Yields AllWellFormed) :
    (readDraft format).Yields fun f => f.WellFormed ∧ AllWellFormed f.fields := by
  refine Reader.Yields.bind (Reader.yields_record_of_read "Field" ?_ ?_) fun d hd => d.finish_yields hd
  · intro f hf k draft hdraft
    obtain ⟨members, room, rfl, hmembers⟩ := h f hf
    exact draft.read_yields hmembers _ hdraft k
  · intro f hf
    obtain ⟨members, room, rfl, hmembers⟩ := h f hf
    exact FieldDraft.wellFormed_empty

theorem readFields_yields (depth : Nat) : (readFields depth).Yields AllWellFormed :=
  readFields_induction
    (fun _ helement => (Reader.yields_listOf helement).mono fun _ => allWellFormed_of_mem)
    (fun _ => readDraft_yields) depth

structure StructureDraft.WellFormed (d : StructureDraft) : Prop where
  versions : OptionalRange d.versions.join
  fields : AllWellFormed (d.fields.getD [])

theorem StructureDraft.read_yields {members : Json.Reader (List Field)}
    (hmembers : members.Yields AllWellFormed) {d : StructureDraft} (h : d.WellFormed) (k : StructureKey) :
    (d.read members k).Yields StructureDraft.WellFormed := by
  cases k with
  | name => exact Reader.yields_bind fun name => Reader.yields_pure { h with }
  | versions => exact readRange_yields.bind fun r hr => Reader.yields_pure { h with versions := hr }
  | fields => exact hmembers.bind fun fs hfs => Reader.yields_pure { h with fields := hfs }

theorem readStructure_yields (depth : Nat) : (readStructure depth).Yields Structure.WellFormed := by
  have hrecord : (Reader.record "CommonStruct" (some (structureFormat depth))).Yields
      StructureDraft.WellFormed := by
    refine Reader.yields_record_of_read "CommonStruct" ?_ ?_
    · rintro _ ⟨⟩ k draft hdraft
      exact draft.read_yields (readFields_yields depth) hdraft k
    · rintro _ ⟨⟩
      exact ⟨optionalRange_none, allWellFormed_nil⟩
  refine hrecord.bind fun d hd => ?_
  rw [StructureDraft.finish]
  split
  · exact Reader.yields_pure ⟨hd.versions, hd.fields⟩
  · exact Reader.yields_raise _

/-- The message as it is read, without the check of its API key. -/
structure Message.WellRead (m : Message) : Prop where
  validVersions : OptionalRange m.validVersions
  flexibleVersions : OptionalRange m.flexibleVersions
  fields : AllWellFormed m.fields
  structures : ∀ s ∈ m.structures, s.WellFormed

structure MessageDraft.WellFormed (d : MessageDraft) : Prop where
  validVersions : OptionalRange d.validVersions.join
  flexibleVersions : OptionalRange d.flexibleVersions.join
  fields : AllWellFormed (d.fields.getD [])
  structures : ∀ s ∈ d.structures.getD [], s.WellFormed

theorem MessageDraft.read_yields (depth : Nat) {d : MessageDraft} (h : d.WellFormed) (k : MessageKey) :
    (d.read depth k).Yields MessageDraft.WellFormed := by
  cases k with
  | validVersions => exact readRange_yields.bind fun r hr => Reader.yields_pure { h with validVersions := hr }
  | flexibleVersions =>
      exact readRange_yields.bind fun r hr => Reader.yields_pure { h with flexibleVersions := hr }
  | fields =>
      exact (readFields_yields depth).bind fun fs hfs => Reader.yields_pure { h with fields := hfs }
  | commonStructs =>
      refine (Reader.yields_listOf ?_).bind fun ss hss => Reader.yields_pure { h with structures := hss }
      rintro _ ⟨⟩
      exact readStructure_yields _
  | _ => exact Reader.yields_bind fun a => Reader.yields_pure { h with }

theorem readMessage_yields : readMessage.Yields Message.WellRead := by
  have hrecord : (Reader.record "MessageData" (some (messageFormat (nestingLimit - 1)))).Yields
      MessageDraft.WellFormed := by
    refine Reader.yields_record_of_read "MessageData" ?_ ?_
    · rintro _ ⟨⟩ k draft hdraft
      exact draft.read_yields _ hdraft k
    · rintro _ ⟨⟩
      exact ⟨optionalRange_none, optionalRange_none, allWellFormed_nil, fun s hs => absurd hs List.not_mem_nil⟩
  refine hrecord.bind fun d hd => ?_
  rw [MessageDraft.finish]
  split
  · exact Reader.yields_pure ⟨hd.validVersions, hd.flexibleVersions, hd.fields, hd.structures⟩
  · exact Reader.yields_raise _
  · exact Reader.yields_raise _

/-! ## What the corrections keep -/

theorem Field.mapMembers_eq_map (change : Field → Field) (fields : List Field) :
    Field.mapTree.mapMembers change fields = fields.map (Field.mapTree change) := by
  induction fields with
  | nil => rfl
  | cons f fields ih => rw [Field.mapTree.mapMembers, ih, List.map_cons]

theorem Field.mapTree_eq (change : Field → Field) (f : Field) :
    f.mapTree change = change { f with fields := f.fields.map (Field.mapTree change) } := by
  cases f
  rw [Field.mapTree, Field.mapMembers_eq_map]

theorem Field.mapTree_fields {change : Field → Field} (h : ∀ f, (change f).fields = f.fields) (f : Field) :
    (f.mapTree change).fields = f.fields.map (Field.mapTree change) := by
  rw [Field.mapTree_eq, h]

/-- The change leaves the tree of fields as it is and every field well formed. -/
structure KeepsForm (change : Field → Field) : Prop where
  fields : ∀ f, (change f).fields = f.fields
  wellFormed : ∀ f, f.WellFormed → (change f).WellFormed

theorem KeepsForm.mapTree_wellFormed {change : Field → Field} (h : KeepsForm change) {f : Field}
    (hf : f.WellFormed) : (f.mapTree change).WellFormed := by
  rw [Field.mapTree_eq]
  exact h.wellFormed _ { hf with }

/-- The fields of a changed tree are the changed fields of the tree. -/
theorem KeepsForm.of_occurs_map {change : Field → Field} (h : KeepsForm change) {fields : List Field}
    {g : Field} (hg : Occurs g (fields.map (Field.mapTree change))) :
    ∃ f, Occurs f fields ∧ g = f.mapTree change := by
  generalize hchanged : fields.map (Field.mapTree change) = changed at hg
  induction hg generalizing fields with
  | here hmem =>
      subst hchanged
      obtain ⟨f, hf, rfl⟩ := List.mem_map.1 hmem
      exact ⟨f, .here hf, rfl⟩
  | inside hmem _ ih =>
      subst hchanged
      obtain ⟨parent, hparent, rfl⟩ := List.mem_map.1 hmem
      obtain ⟨f, hf, rfl⟩ := ih (Field.mapTree_fields h.fields parent).symm
      exact ⟨f, .inside hparent hf, rfl⟩

theorem KeepsForm.allWellFormed_map {change : Field → Field} (h : KeepsForm change) {fields : List Field}
    (hfields : AllWellFormed fields) : AllWellFormed (fields.map (Field.mapTree change)) := by
  intro g hg
  obtain ⟨f, hf, rfl⟩ := h.of_occurs_map hg
  exact h.mapTree_wellFormed (hfields f hf)

/-- A name that is changed begins with a capital afterwards. -/
theorem Element.wellFormed_incrementalName {name : String} (h : (Element.struct name).WellFormed) :
    (Element.struct (incrementalName name)).WellFormed := by
  rw [incrementalName]
  split
  · rename_i hname
    obtain rfl | rfl := hname <;> exact ⟨0x49, _, rfl, by decide⟩
  · split
    · rename_i hname
      subst hname
      exact ⟨0x49, _, rfl, by decide⟩
    · exact h

theorem keepsForm_renameStructure : KeepsForm renameStructure where
  fields f := by
    rw [renameStructure]
    split <;> rfl
  wellFormed f hf := by
    rw [renameStructure]
    split
    · rename_i name hname
      have hstruct : (Element.struct name).WellFormed := hname ▸ hf.type
      exact { hf with type := Element.wellFormed_incrementalName hstruct }
    · exact hf

theorem keepsForm_exportName : KeepsForm exportName where
  fields f := by
    rw [exportName]
    split <;> rfl
  wellFormed f hf := by
    rw [exportName]
    split
    · exact { hf with }
    · exact hf

theorem keepsForm_of_mem_corrections : ∀ c ∈ corrections, KeepsForm c.change := by
  intro c hc
  rw [corrections, List.mem_cons, List.mem_singleton] at hc
  obtain rfl | rfl := hc
  · exact keepsForm_renameStructure
  · exact keepsForm_exportName

theorem Correction.apply_wellFormed {c : Correction} (hc : KeepsForm c.change) {m : Message}
    (h : m.WellFormed) : (c.apply m).WellFormed := by
  rw [Correction.apply]
  split
  · exact { h with fields := hc.allWellFormed_map h.fields }
  · exact h

theorem Message.WellFormed.normalize {m : Message} (h : m.WellFormed) : m.normalize.WellFormed := by
  have hrun : ∀ cs : List Correction, (∀ c ∈ cs, KeepsForm c.change) → ∀ m : Message, m.WellFormed →
      (cs.foldl (fun m c => c.apply m) m).WellFormed := by
    intro cs
    induction cs with
    | nil => exact fun _ m hm => hm
    | cons c cs ih =>
        intro hcs m hm
        rw [List.forall_mem_cons] at hcs
        exact ih hcs.2 _ (c.apply_wellFormed hcs.1 hm)
  exact hrun corrections keepsForm_of_mem_corrections _ { h with }

/-! ## Loading -/

theorem Message.WellRead.wellFormed {m : Message} (h : m.WellRead) (hkey : m.HasKey) : m.WellFormed := by
  refine { h with apiKey := fun hkind => ?_ }
  obtain hheader | hsome := hkey
  · rw [hheader] at hkind
    obtain ⟨⟨⟩⟩ | ⟨⟨⟩⟩ := hkind
  · exact hsome

theorem Message.WellFormed.withComments {m : Message} (h : m.WellFormed) (comments : String) :
    ({ m with comments } : Message).WellFormed :=
  { h with }

/-- Loading gives well-formed messages only, and they are so before the corrections as well as after. -/
theorem load_wellFormed (origin : String) (source : Comment.Source) (m : Message)
    (h : load origin source = .ok m) :
    m.WellFormed ∧ ∃ read : Message, read.WellFormed ∧ m = read.normalize := by
  obtain ⟨read, c, hrun, hkey, rfl⟩ := load_eq_ok.mp h
  have hread : read.WellFormed := (readMessage_yields.whole hrun).wellFormed hkey
  have hcommented := hread.withComments (Utf8.decodeLossy ((readerOf source).after c.taken).comments)
  exact ⟨hcommented.normalize, _, hcommented, rfl⟩

/-- A request whose structure is renamed. The message and the inner field are written as lists, the field
between them as an object. -/
def renamedDocument : List UInt8 :=
  Utf8.encode "[44,\"request\",\"IncrementalAlterConfigs\",null,null,[\x7b\"name\":\"Rs\",
\"type\":\"[]AlterConfigsResource\",\"versions\":\"0-1\",\"fields\":[[\"N\",\"\",\"string\",\"1+\"]]\x7d]]"

theorem load_wellFormed_renamed :
    ∃ m, load "Incremental.json" [.data renamedDocument] = .ok m ∧
      m.fields.map (·.type.render) = ["[]IncrementalAlterConfigsResource"] ∧
      m.WellFormed ∧ ∃ read : Message, read.WellFormed ∧ m = read.normalize := by
  have hload : ((load "Incremental.json" [.data renamedDocument]).toOption.map
      fun m => m.fields.map (·.type.render)) = some ["[]IncrementalAlterConfigsResource"] := by
    decide +kernel
  cases hm : load "Incremental.json" [.data renamedDocument] with
  | error e => rw [hm] at hload; cases hload
  | ok m =>
      rw [hm] at hload
      exact ⟨m, rfl, Option.some.inj hload, load_wellFormed _ _ m hm⟩

end WireSchema.Schema
