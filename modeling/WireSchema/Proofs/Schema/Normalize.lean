import WireSchema.Proofs.Address
import WireSchema.Proofs.Name.Case
import WireSchema.Proofs.Schema.Resolution

/-!
What the corrections leave alone. At most one correction is made in a message, since no name begins in two of the
given ways, and it goes through the tree of fields without changing its shape. A new name of a structure is not
changed again, and a field name that is put right begins with a capital, so a second pass finds nothing to do
but in the comments.
-/

namespace WireSchema.Schema

/-! ## Fields by address -/

/-- The field reached from one by going, level by level, into a member. -/
def Field.below? : Field → Address → Option Field
  | f, [] => some f
  | f, i :: p => f.fields[i]?.bind (below? · p)

/-- The fields of a message, at any depth. -/
def Message.fieldAt? (m : Message) : Address → Option Field
  | [] => none
  | i :: p => m.fields[i]?.bind (Field.below? · p)

theorem Field.with_fields {f : Field} {fields : List Field} (h : f.fields = fields) : { f with fields } = f := by
  cases f
  cases h
  rfl

/-! ## Changes of a tree -/

/-- The change does not touch the members of a field, and a second one does nothing. -/
structure Settles (change : Field → Field) : Prop where
  fields : ∀ f, (change f).fields = f.fields
  change : ∀ f, change (change f) = change f

namespace Settles

variable {change : Field → Field}

theorem mapTree_mapTree (h : Settles change) (f : Field) : (f.mapTree change).mapTree change = f.mapTree change := by
  induction f using Field.tree_induction with
  | h f ih =>
      have hmembers : (f.fields.map (Field.mapTree change)).map (Field.mapTree change) =
          f.fields.map (Field.mapTree change) := by
        rw [List.map_map]
        exact List.map_congr_left ih
      have hsecond : (f.mapTree change).mapTree change = change (f.mapTree change) := by
        rw [Field.mapTree_eq change (f.mapTree change), Field.mapTree_fields h.fields, hmembers,
          Field.with_fields (Field.mapTree_fields h.fields f)]
      rw [hsecond, Field.mapTree_eq, h.change]

theorem below?_mapTree (h : Settles change) (f : Field) (p : Address) :
    (f.mapTree change).below? p = (f.below? p).map (Field.mapTree change) := by
  induction p generalizing f with
  | nil => rfl
  | cons i p ih =>
      rw [Field.below?, Field.below?, Field.mapTree_fields h.fields, List.getElem?_map]
      cases f.fields[i]? with
      | none => rfl
      | some g => exact ih g

end Settles

theorem settles_id : Settles id where
  fields _ := rfl
  change _ := rfl

theorem settles_renameStructure : Settles renameStructure where
  fields := renames_renameStructure.fields
  change f := by
    cases helement : f.type.element with
    | primitive p =>
        have hkept : renameStructure f = f := by simp [renameStructure, helement]
        rw [hkept, hkept]
    | struct name => simp [renameStructure, helement, incrementalName_incrementalName]

/-- A name that begins with a small letter begins with a capital in the pascal form. -/
theorem beginsSmall_pascal {name : String} (h : beginsSmall name = true) :
    beginsSmall (Name.pascal name) = false := by
  rw [beginsSmall] at h
  rw [beginsSmall, Name.pascal, String.toList_ofList]
  cases hname : name.toList with
  | nil => rw [hname] at h; cases h
  | cons c cs =>
      rw [hname] at h
      have hc : c.isLower = true := h
      rw [Name.pascalFrom_of_isLower hc]
      exact (Name.toUpper_of_isLower hc).2

theorem settles_exportName : Settles exportName where
  fields := renames_exportName.fields
  change f := by
    by_cases hsmall : beginsSmall f.name = true
    · have hname : exportName f = { f with name := Name.pascal f.name } := if_pos hsmall
      rw [hname, exportName, beginsSmall_pascal hsmall]
      rfl
    · have hkept : exportName f = f := if_neg hsmall
      rw [hkept, hkept]

theorem Field.mapTree_id (f : Field) : f.mapTree id = f := by
  induction f using Field.tree_induction with
  | h f ih =>
      have hmembers : f.fields.map (Field.mapTree id) = f.fields := by
        rw [List.map_congr_left ih, List.map_id']
      rw [Field.mapTree_eq, hmembers]
      exact Field.with_fields rfl

/-! ## The one correction of a message -/

namespace Message

/-- The correction of field names that do not begin with a capital. -/
def exportCorrection : Correction :=
  ⟨"CreateTopicsRequest", exportName⟩

/-- What is changed in the fields of the message. -/
def correction (m : Message) : Field → Field :=
  if m.IsIncremental then renameStructure else if exportCorrection.Applies m then exportName else id

theorem settles_correction (m : Message) : Settles m.correction := by
  rw [correction]
  split
  · exact settles_renameStructure
  · split
    · exact settles_exportName
    · exact settles_id

/-- No name begins in both ways. -/
theorem not_applies_of_isIncremental {m : Message} (h : m.IsIncremental) : ¬ exportCorrection.Applies m := by
  intro h'
  have hboth : exportCorrection.start.toList <+: incrementalCorrection.start.toList :=
    List.prefix_of_prefix_length_le (List.isPrefixOf_iff_prefix.mp h') (List.isPrefixOf_iff_prefix.mp h) (by decide)
  exact absurd hboth (by decide)

theorem normalize_eq (m : Message) :
    m.normalize =
      { m with fields := m.fields.map (Field.mapTree m.correction), comments := Comment.trim m.comments } := by
  let commented : Message := { m with comments := Comment.trim m.comments }
  have hrun : m.normalize = exportCorrection.apply (incrementalCorrection.apply commented) := rfl
  rw [hrun, correction]
  -- where the first correction is made the second is not
  by_cases hincremental : m.IsIncremental
  · have hfirst : incrementalCorrection.apply commented =
        { commented with fields := m.fields.map (Field.mapTree renameStructure) } := if_pos hincremental
    rw [hfirst, if_pos hincremental]
    exact if_neg (not_applies_of_isIncremental hincremental)
  · have hfirst : incrementalCorrection.apply commented = commented := if_neg hincremental
    rw [hfirst, if_neg hincremental]
    by_cases hexport : exportCorrection.Applies m
    · rw [if_pos hexport]
      exact if_pos hexport
    · have hfields : m.fields.map (Field.mapTree id) = m.fields := by
        rw [List.map_congr_left fun f _ => f.mapTree_id, List.map_id']
      rw [if_neg hexport, hfields]
      exact if_neg hexport

theorem correction_normalize (m : Message) : m.normalize.correction = m.correction := by
  rw [normalize_eq]
  rfl

theorem fieldAt?_normalize (m : Message) (p : Address) :
    m.normalize.fieldAt? p = (m.fieldAt? p).map (Field.mapTree m.correction) := by
  rw [normalize_eq]
  cases p with
  | nil => rfl
  | cons i p =>
      rw [fieldAt?, fieldAt?, List.getElem?_map]
      cases m.fields[i]? with
      | none => rfl
      | some f => exact m.settles_correction.below?_mapTree f p

end Message

/-! ## What differs -/

/-- The second field is the first one corrected, its members aside. Its name is another one only if `exports` holds,
and then it does not begin with a small letter. The name of its structure is another one only if `retypes` holds,
and then it is none of those that are to be changed. Everything else is the same. -/
structure Field.Corrected (exports retypes : Prop) (f g : Field) : Prop where
  name : g.name = f.name ∨ exports
  exported : exports → beginsSmall g.name = false
  type : g.type = f.type ∨
    retypes ∧ ∃ old new, f.type.element = .struct old ∧ g.type = { f.type with element := .struct new }
  retyped : retypes → ∀ struct, g.type.element = .struct struct → struct ∉ changedNames
  others : g = { f with name := g.name, type := g.type, fields := g.fields }

theorem incrementalName_not_mem_changedNames (name : String) : incrementalName name ∉ changedNames :=
  fun h => incrementalName_ne h (incrementalName_incrementalName name)

namespace Field

variable {exports retypes : Prop}

theorem corrected_renameStructure (h : retypes) (hnot : ¬exports) (f : Field) (fields : List Field) :
    f.Corrected exports retypes (renameStructure { f with fields }) := by
  cases helement : f.type.element with
  | primitive p =>
      have hkept : renameStructure { f with fields } = { f with fields } := by simp [renameStructure, helement]
      rw [hkept]
      refine ⟨Or.inl rfl, fun h => absurd h hnot, Or.inl rfl, fun _ struct hstruct => ?_, rfl⟩
      cases helement.symm.trans hstruct
  | struct name =>
      have hnew : renameStructure { f with fields } =
          { f with fields, type := { f.type with element := .struct (incrementalName name) } } := by
        simp [renameStructure, helement]
      rw [hnew]
      refine ⟨Or.inl rfl, fun h => absurd h hnot, Or.inr ⟨h, name, incrementalName name, helement, rfl⟩,
        fun _ struct hstruct => ?_, rfl⟩
      cases hstruct
      exact incrementalName_not_mem_changedNames name

theorem corrected_exportName (h : exports) (hnot : ¬retypes) (f : Field) (fields : List Field) :
    f.Corrected exports retypes (exportName { f with fields }) := by
  rw [exportName]
  split
  · rename_i hsmall
    exact ⟨Or.inr h, fun _ => beginsSmall_pascal hsmall, Or.inl rfl, fun h => absurd h hnot, rfl⟩
  · rename_i hcapital
    exact ⟨Or.inl rfl, fun _ => Bool.eq_false_iff.mpr hcapital, Or.inl rfl, fun h => absurd h hnot, rfl⟩

end Field

namespace Message

theorem corrected_mapTree (m : Message) (f : Field) :
    f.Corrected ("CreateTopicsRequest".toList <+: m.name.toList) ("IncrementalAlterConfigs".toList <+: m.name.toList)
      (f.mapTree m.correction) := by
  rw [Field.mapTree_eq, correction]
  generalize f.fields.map _ = fields
  have hretypes : "IncrementalAlterConfigs".toList <+: m.name.toList ↔ m.IsIncremental :=
    List.isPrefixOf_iff_prefix.symm
  have hexports : "CreateTopicsRequest".toList <+: m.name.toList ↔ exportCorrection.Applies m :=
    List.isPrefixOf_iff_prefix.symm
  rw [hretypes, hexports]
  split
  · rename_i hincremental
    exact f.corrected_renameStructure hincremental (not_applies_of_isIncremental hincremental) fields
  · rename_i hincremental
    split
    · rename_i hexport
      exact f.corrected_exportName hexport hincremental fields
    · rename_i hexport
      exact ⟨Or.inl rfl, fun h => absurd h hexport, Or.inl rfl, fun h => absurd h hincremental, rfl⟩

/-- A second pass trims the comments and does nothing else. The first one keeps everything but the comments and the
fields, and of these the tree: at every address there is a field just when there was one before, and it differs at
most in its name, if the message is one about the creation of topics, or in the name of its structure, if the
message is one about incremental changes. -/
theorem normalize_names_only (m : Message) :
    m.normalize.normalize = { m.normalize with comments := Comment.trim m.normalize.comments } ∧
      m.normalize = { m with fields := m.normalize.fields, comments := m.normalize.comments } ∧
      ∀ p, Option.Rel
        (Field.Corrected ("CreateTopicsRequest".toList <+: m.name.toList)
          ("IncrementalAlterConfigs".toList <+: m.name.toList))
        (m.fieldAt? p) (m.normalize.fieldAt? p) := by
  refine ⟨?_, ?_, fun p => ?_⟩
  · have hfields : m.normalize.fields.map (Field.mapTree m.correction) = m.normalize.fields := by
      rw [normalize_eq, List.map_map]
      exact List.map_congr_left fun f _ => m.settles_correction.mapTree_mapTree f
    rw [m.normalize.normalize_eq, correction_normalize, hfields]
  · rw [normalize_eq]
  · rw [fieldAt?_normalize]
    cases m.fieldAt? p with
    | none => exact .none
    | some f => exact .some (m.corrected_mapTree f)

end Message

end WireSchema.Schema
