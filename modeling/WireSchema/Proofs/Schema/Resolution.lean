import WireSchema.Proofs.Schema.Record

/-!
References and the corrections. The messages about incremental changes get new names for some structures, in
the fields of the message at any depth: there a declaration and the fields that refer to it change together.
The structures declared beside the fields stay as they are, with their names and with all that is inside them.
So a reference is lost just when it leads from one of these two parts into the other, and nothing in its own
part, or under the new name, takes the place of the declaration.
-/

namespace WireSchema.Schema

/-! ## References at any depth -/

mutual

/-- The names that the types of a field and of all fields below it refer to. -/
def referredNamesOf : Field → List String
  | ⟨_, _, type, _, _, _, _, fields, _, _, _, _, _⟩ =>
    type.element.structName?.toList ++ referredNames fields

def referredNames : List Field → List String
  | [] => []
  | f :: fs => referredNamesOf f ++ referredNames fs

end

theorem referredNames_eq_flatMap (fields : List Field) :
    referredNames fields = fields.flatMap referredNamesOf := by
  induction fields with
  | nil => rfl
  | cons f fields ih => rw [referredNames, ih, List.flatMap_cons]

theorem referredNamesOf_eq (f : Field) :
    referredNamesOf f = f.type.element.structName?.toList ++ referredNames f.fields := by
  cases f
  rfl

theorem inlineNamesOf_eq_structName? (f : Field) :
    inlineNamesOf f =
      (if f.fields.isEmpty then [] else f.type.element.structName?.toList) ++ inlineNames f.fields := by
  rw [inlineNamesOf_eq]
  cases f.type.element <;> simp [Element.structName?]

namespace Message

/-- The names declared by the structures beside the fields. -/
def sharedNames (m : Message) : List String :=
  m.structures.flatMap fun s => s.name :: inlineNames s.fields

/-- The names that the structures beside the fields refer to. -/
def sharedReferences (m : Message) : List String :=
  m.structures.flatMap fun s => Schema.referredNames s.fields

def referredNames (m : Message) : List String :=
  Schema.referredNames m.fields ++ m.sharedReferences

/-- Every field with a structure type, at any depth and in any structure, refers to a declared name. -/
def Resolved (m : Message) : Prop :=
  ∀ name ∈ m.referredNames, name ∈ m.declaredNames

instance (m : Message) : Decidable m.Resolved :=
  List.decidableBAll (· ∈ m.declaredNames) m.referredNames

theorem mem_declaredNames (m : Message) (name : String) :
    name ∈ m.declaredNames ↔ name ∈ inlineNames m.fields ∨ name ∈ m.sharedNames :=
  List.mem_append

end Message

/-! ## Changes of names -/

/-- The change gives new names to the structures that fields refer to, and leaves the tree of fields as it is. -/
structure Renames (rename : String → String) (change : Field → Field) : Prop where
  fields : ∀ f, (change f).fields = f.fields
  structName? : ∀ f, (change f).type.element.structName? = f.type.element.structName?.map rename

namespace Renames

variable {rename : String → String} {change : Field → Field}

theorem mapTree_structName? (h : Renames rename change) (f : Field) :
    (f.mapTree change).type.element.structName? = f.type.element.structName?.map rename := by
  rw [Field.mapTree_eq, h.structName?]

theorem inlineNamesOf_mapTree (h : Renames rename change) (f : Field) :
    inlineNamesOf (f.mapTree change) = (inlineNamesOf f).map rename := by
  induction f using Field.tree_induction with
  | h f ih =>
      have hmembers : inlineNames (f.fields.map (Field.mapTree change)) = (inlineNames f.fields).map rename := by
        rw [inlineNames_eq_flatMap, inlineNames_eq_flatMap, List.flatMap_map, List.map_flatMap]
        exact List.flatMap_congr ih
      rw [inlineNamesOf_eq_structName?, inlineNamesOf_eq_structName?, Field.mapTree_fields h.fields,
        h.mapTree_structName?, hmembers, List.map_append, List.isEmpty_map, apply_ite (List.map rename),
        Option.toList_map, List.map_nil]

theorem inlineNames_map (h : Renames rename change) (fields : List Field) :
    inlineNames (fields.map (Field.mapTree change)) = (inlineNames fields).map rename := by
  rw [inlineNames_eq_flatMap, inlineNames_eq_flatMap, List.flatMap_map, List.map_flatMap]
  exact List.flatMap_congr fun f _ => h.inlineNamesOf_mapTree f

theorem referredNamesOf_mapTree (h : Renames rename change) (f : Field) :
    referredNamesOf (f.mapTree change) = (referredNamesOf f).map rename := by
  induction f using Field.tree_induction with
  | h f ih =>
      have hmembers : referredNames (f.fields.map (Field.mapTree change)) =
          (referredNames f.fields).map rename := by
        rw [referredNames_eq_flatMap, referredNames_eq_flatMap, List.flatMap_map, List.map_flatMap]
        exact List.flatMap_congr ih
      rw [referredNamesOf_eq, referredNamesOf_eq, Field.mapTree_fields h.fields, h.mapTree_structName?, hmembers,
        List.map_append, Option.toList_map]

theorem referredNames_map (h : Renames rename change) (fields : List Field) :
    referredNames (fields.map (Field.mapTree change)) = (referredNames fields).map rename := by
  rw [referredNames_eq_flatMap, referredNames_eq_flatMap, List.flatMap_map, List.map_flatMap]
  exact List.flatMap_congr fun f _ => h.referredNamesOf_mapTree f

end Renames

theorem renames_renameStructure : Renames incrementalName renameStructure where
  fields := keepsForm_renameStructure.fields
  structName? f := by
    rw [renameStructure]
    cases helement : f.type.element with
    | primitive p => simp [helement, Element.structName?]
    | struct name => rfl

theorem renames_exportName : Renames id exportName where
  fields := keepsForm_exportName.fields
  structName? f := by
    rw [exportName, Option.map_id]
    split <;> rfl

/-! ## The new names -/

/-- The names of the structures that get new ones. -/
def changedNames : List String :=
  ["AlterConfigsResource", "AlterConfigsResourceResponse", "AlterableConfig"]

theorem incrementalName_of_not_mem {name : String} (h : name ∉ changedNames) : incrementalName name = name := by
  simp only [changedNames, List.mem_cons, List.not_mem_nil, or_false, not_or] at h
  obtain ⟨hresource, hresponse, hconfig⟩ := h
  rw [incrementalName, if_neg (by simp [hresource, hresponse]), if_neg hconfig]

theorem incrementalName_ne {name : String} (h : name ∈ changedNames) : incrementalName name ≠ name := by
  revert name
  decide

/-- A new name is not changed again. -/
theorem incrementalName_incrementalName (name : String) :
    incrementalName (incrementalName name) = incrementalName name := by
  by_cases h : name ∈ changedNames
  · have hnew : ∀ name ∈ changedNames, incrementalName name ∉ changedNames := by decide
    exact incrementalName_of_not_mem (hnew name h)
  · rw [incrementalName_of_not_mem h, incrementalName_of_not_mem h]

/-- A changed name shares its new name only with a structure that is called so from the start. -/
theorem eq_or_eq_of_incrementalName_eq {name other : String} (hname : name ∈ changedNames)
    (h : incrementalName other = incrementalName name) : other = name ∨ other = incrementalName name := by
  by_cases hother : other ∈ changedNames
  · have hdistinct : ∀ name ∈ changedNames, ∀ other ∈ changedNames,
        incrementalName other = incrementalName name → other = name := by decide
    exact Or.inl (hdistinct name hname other hother h)
  · exact Or.inr ((incrementalName_of_not_mem hother).symm.trans h)

/-! ## The corrected message -/

/-- The correction is made in the message. -/
def Correction.Applies (c : Correction) (m : Message) : Prop :=
  c.start.toList.isPrefixOf m.name.toList = true

instance (c : Correction) (m : Message) : Decidable (c.Applies m) :=
  inferInstanceAs (Decidable (_ = true))

theorem Correction.apply_eq (c : Correction) (m : Message) :
    c.apply m = if c.Applies m then { m with fields := m.fields.map (Field.mapTree c.change) } else m :=
  rfl

/-- The correction that gives new names to structures. -/
def incrementalCorrection : Correction :=
  ⟨"IncrementalAlterConfigs", renameStructure⟩

namespace Message

/-- The message is one of those about incremental changes. -/
def IsIncremental (m : Message) : Prop :=
  incrementalCorrection.Applies m

instance (m : Message) : Decidable m.IsIncremental :=
  inferInstanceAs (Decidable (incrementalCorrection.Applies m))

/-- What a structure is called in the fields of the corrected message. -/
def correctedName (m : Message) : String → String :=
  if m.IsIncremental then incrementalName else id

/-- The second message is the first one with new names for the structures in its fields. -/
structure Renamed (rename : String → String) (m m' : Message) : Prop where
  inline : inlineNames m'.fields = (inlineNames m.fields).map rename
  referred : Schema.referredNames m'.fields = (Schema.referredNames m.fields).map rename
  structures : m'.structures = m.structures

theorem Renamed.keep {rename : String → String} {m m' m'' : Message} (h : m.Renamed rename m')
    (h' : m'.Renamed id m'') : m.Renamed rename m'' := by
  constructor
  case inline => rw [h'.inline, List.map_id, h.inline]
  case referred => rw [h'.referred, List.map_id, h.referred]
  case structures => rw [h'.structures, h.structures]

end Message

theorem Correction.renamed_apply {rename : String → String} {c : Correction} (h : Renames rename c.change)
    (m : Message) : m.Renamed (if c.Applies m then rename else id) (c.apply m) := by
  by_cases happlies : c.Applies m
  · rw [Correction.apply_eq, if_pos happlies, if_pos happlies]
    exact ⟨h.inlineNames_map m.fields, h.referredNames_map m.fields, rfl⟩
  · rw [Correction.apply_eq, if_neg happlies, if_neg happlies]
    exact ⟨(List.map_id _).symm, (List.map_id _).symm, rfl⟩

namespace Message

theorem renamed_normalize (m : Message) : m.Renamed m.correctedName m.normalize := by
  -- the first correction gives the new names, and the second one has no part in them
  let commented : Message := { m with comments := Comment.trim m.comments }
  have hfirst : m.Renamed m.correctedName (incrementalCorrection.apply commented) :=
    have happly := Correction.renamed_apply (c := incrementalCorrection) renames_renameStructure commented
    ⟨happly.inline, happly.referred, happly.structures⟩
  have hsecond := Correction.renamed_apply (c := ⟨"CreateTopicsRequest", exportName⟩) renames_exportName
    (incrementalCorrection.apply commented)
  rw [ite_self] at hsecond
  rw [normalize, corrections, List.foldl_cons, List.foldl_cons, List.foldl_nil]
  exact hfirst.keep hsecond

theorem mem_referredNames_normalize (m : Message) (name : String) :
    name ∈ m.normalize.referredNames ↔
      (∃ old ∈ Schema.referredNames m.fields, m.correctedName old = name) ∨ name ∈ m.sharedReferences := by
  rw [referredNames, sharedReferences, m.renamed_normalize.referred, m.renamed_normalize.structures,
    List.mem_append, List.mem_map, ← sharedReferences]

theorem mem_declaredNames_normalize (m : Message) (name : String) :
    name ∈ m.normalize.declaredNames ↔
      (∃ old ∈ inlineNames m.fields, m.correctedName old = name) ∨ name ∈ m.sharedNames := by
  rw [mem_declaredNames, sharedNames, m.renamed_normalize.inline, m.renamed_normalize.structures, List.mem_map,
    ← sharedNames]

/-! ## What stays resolved -/

variable {m : Message} {name : String}

theorem correctedName_of_isIncremental (h : m.IsIncremental) : m.correctedName = incrementalName :=
  if_pos h

/-- A field of the message refers to the new name afterwards. -/
theorem incrementalName_mem_declaredNames_normalize (hm : m.IsIncremental) (h : name ∈ m.declaredNames) :
    incrementalName name ∈ m.normalize.declaredNames ↔
      (name ∈ changedNames → name ∈ inlineNames m.fields ∨ incrementalName name ∈ m.declaredNames) := by
  rw [mem_declaredNames_normalize, correctedName_of_isIncremental hm]
  constructor
  · rintro (⟨other, hother, heq⟩ | hshared) hname
    · rcases eq_or_eq_of_incrementalName_eq hname heq with rfl | rfl
      · exact Or.inl hother
      · exact Or.inr ((m.mem_declaredNames _).mpr (Or.inl hother))
    · exact Or.inr ((m.mem_declaredNames _).mpr (Or.inr hshared))
  · intro hkept
    by_cases hname : name ∈ changedNames
    · rcases hkept hname with hinline | hnew
      · exact Or.inl ⟨name, hinline, rfl⟩
      · exact ((m.mem_declaredNames _).mp hnew).imp_left fun hinline =>
          ⟨incrementalName name, hinline, incrementalName_incrementalName name⟩
    · rcases (m.mem_declaredNames name).mp h with hinline | hshared
      · exact Or.inl ⟨name, hinline, rfl⟩
      · rw [incrementalName_of_not_mem hname]
        exact Or.inr hshared

/-- A field of a structure beside them refers to the same name as before. -/
theorem mem_declaredNames_normalize_of_isIncremental (hm : m.IsIncremental) (h : name ∈ m.declaredNames) :
    name ∈ m.normalize.declaredNames ↔ (name ∈ changedNames → name ∈ m.sharedNames) := by
  rw [mem_declaredNames_normalize, correctedName_of_isIncremental hm]
  constructor
  · rintro (⟨other, _, rfl⟩ | hshared) hname
    · exact absurd (incrementalName_incrementalName other) (incrementalName_ne hname)
    · exact hshared
  · intro hkept
    by_cases hname : name ∈ changedNames
    · exact Or.inr (hkept hname)
    · exact ((m.mem_declaredNames name).mp h).imp_left fun hinline =>
        ⟨name, hinline, incrementalName_of_not_mem hname⟩

/-- Whether the references of a resolved message stay resolved. Only a message about incremental changes can
lose one, and only a reference to a name that is changed. In the fields of the message this name has to be
declared inline there, or the new name has to be declared somewhere; in the structures beside the fields it has
to be declared by one of them. -/
theorem normalize_resolved_iff (h : m.Resolved) :
    m.normalize.Resolved ↔
      (m.IsIncremental → ∀ name ∈ changedNames,
        (name ∈ Schema.referredNames m.fields →
          name ∈ inlineNames m.fields ∨ incrementalName name ∈ m.declaredNames) ∧
        (name ∈ m.sharedReferences → name ∈ m.sharedNames)) := by
  have hfields : ∀ name ∈ Schema.referredNames m.fields, name ∈ m.declaredNames := fun name hname =>
    h name (List.mem_append_left _ hname)
  have hshared : ∀ name ∈ m.sharedReferences, name ∈ m.declaredNames := fun name hname =>
    h name (List.mem_append_right _ hname)
  simp only [Resolved, mem_referredNames_normalize]
  constructor
  · intro hresolved hm name hname
    refine ⟨fun hreferred => ?_, fun hreferred => ?_⟩
    · have hnew := hresolved _ (Or.inl ⟨name, hreferred, rfl⟩)
      rw [correctedName_of_isIncremental hm] at hnew
      exact (incrementalName_mem_declaredNames_normalize hm (hfields name hreferred)).mp hnew hname
    · exact (mem_declaredNames_normalize_of_isIncremental hm (hshared name hreferred)).mp
        (hresolved name (Or.inr hreferred)) hname
  · intro hkept name hname
    by_cases hm : m.IsIncremental
    · rcases hname with ⟨old, hreferred, rfl⟩ | hreferred
      · rw [correctedName_of_isIncremental hm]
        exact (incrementalName_mem_declaredNames_normalize hm (hfields old hreferred)).mpr
          fun hold => (hkept hm old hold).1 hreferred
      · exact (mem_declaredNames_normalize_of_isIncremental hm (hshared name hreferred)).mpr
          fun hname => (hkept hm name hname).2 hreferred
    · -- no name is changed
      have hcorrected : m.correctedName = id := if_neg hm
      simp only [hcorrected, id_eq, exists_eq_right, mem_declaredNames_normalize] at hname ⊢
      exact (m.mem_declaredNames name).mp (h name (List.mem_append.mpr hname))

/-- A field with the structure `struct` as its type. -/
def structField (name struct : String) (fields : List Field) : Field :=
  { name, type := ⟨.struct struct, true⟩, versions := some (.openFrom 0), fields }

def textField (name : String) : Field :=
  { name, type := ⟨.primitive .string, false⟩, versions := some (.openFrom 0) }

/-- Both parts declare the structure that they refer to. -/
def twiceDeclared : Message :=
  { kind := .request, apiKey := some 44, name := "IncrementalAlterConfigsRequest",
    fields := [structField "Resources" "AlterConfigsResource"
      [structField "Configs" "AlterableConfig" [textField "Name"], structField "Others" "AlterableConfig" []]],
    structures := [{ name := "Defaults", fields :=
      [structField "Configs" "AlterableConfig" [textField "Name"], structField "Others" "AlterableConfig" []] }] }

theorem normalize_resolved_twiceDeclared :
    twiceDeclared.Resolved ∧ twiceDeclared.IsIncremental ∧
      twiceDeclared.normalize.referredNames =
        ["IncrementalAlterConfigsResource", "IncrementallyAlterableConfig", "IncrementallyAlterableConfig",
          "AlterableConfig", "AlterableConfig"] ∧
      twiceDeclared.normalize.Resolved := by
  have hresolved : twiceDeclared.Resolved := by decide
  have hkept : ∀ name ∈ changedNames,
      (name ∈ Schema.referredNames twiceDeclared.fields →
        name ∈ inlineNames twiceDeclared.fields ∨ incrementalName name ∈ twiceDeclared.declaredNames) ∧
      (name ∈ twiceDeclared.sharedReferences → name ∈ twiceDeclared.sharedNames) := by decide
  exact ⟨hresolved, by decide, by decide +kernel, (normalize_resolved_iff hresolved).mpr fun _ => hkept⟩

/-- A reference of the fields to a structure beside them. -/
def acrossParts : Message :=
  { kind := .request, apiKey := some 44, name := "IncrementalAlterConfigsRequest",
    fields := [structField "Configs" "AlterableConfig" []],
    structures := [{ name := "AlterableConfig", versions := some (.openFrom 0), fields := [textField "Name"] }] }

theorem normalize_acrossParts :
    acrossParts.Resolved ∧
      acrossParts.normalize.referredNames = ["IncrementallyAlterableConfig"] ∧
      acrossParts.normalize.declaredNames = ["AlterableConfig"] ∧
      ¬acrossParts.normalize.Resolved := by
  refine ⟨by decide, by decide +kernel, by decide +kernel, by decide +kernel⟩

end Message

end WireSchema.Schema
