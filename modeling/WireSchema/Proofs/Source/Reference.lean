import WireSchema.Proofs.Source.Declaration

/-!
References between the structures of a message. A field may refer to each name that is declared anywhere in
the message, but a declaration below a field of a primitive type gives no type: the walk that collects the
names goes below such fields and the one that writes the types does not. So every reference of a message that
is compiled names one of its types or a declaration that is hidden in this way.
-/

namespace WireSchema.Schema

/-! ## Hidden declarations -/

mutual

/-- The names of the structures declared inline below a field of a primitive type. -/
def hiddenNamesOf : Field → List String
  | ⟨_, _, type, _, _, _, _, fields, _, _, _, _, _⟩ =>
    match type.element with
    | .primitive _ => inlineNames fields
    | .struct _ => hiddenNames fields

def hiddenNames : List Field → List String
  | [] => []
  | f :: fs => hiddenNamesOf f ++ hiddenNames fs

end

theorem hiddenNames_eq_flatMap (fields : List Field) :
    hiddenNames fields = fields.flatMap hiddenNamesOf := by
  induction fields with
  | nil => rfl
  | cons f fields ih => rw [hiddenNames, ih, List.flatMap_cons]

theorem hiddenNamesOf_eq (f : Field) :
    hiddenNamesOf f =
      match f.type.element with
      | .primitive _ => inlineNames f.fields
      | .struct _ => hiddenNames f.fields := by
  cases f
  rfl

/-- A declared name is that of a structure that is met, or hidden. -/
theorem mem_inlineNames_of_each {fields : List Field} {name : String}
    (h : ∀ f ∈ fields, name ∈ inlineNamesOf f ↔
      name ∈ (inlineRecordsOf f).map Record.name ∨ name ∈ hiddenNamesOf f) :
    name ∈ inlineNames fields ↔
      name ∈ (inlineRecords fields).map Record.name ∨ name ∈ hiddenNames fields := by
  rw [inlineNames_eq_flatMap, inlineRecords_eq_flatMap, hiddenNames_eq_flatMap, List.map_flatMap,
    List.mem_flatMap, List.mem_flatMap, List.mem_flatMap]
  constructor
  · rintro ⟨f, hf, hname⟩
    exact ((h f hf).mp hname).imp (⟨f, hf, ·⟩) (⟨f, hf, ·⟩)
  · rintro (⟨f, hf, hname⟩ | ⟨f, hf, hname⟩)
    · exact ⟨f, hf, (h f hf).mpr (Or.inl hname)⟩
    · exact ⟨f, hf, (h f hf).mpr (Or.inr hname)⟩

theorem mem_inlineNamesOf_iff (name : String) (f : Field) :
    name ∈ inlineNamesOf f ↔ name ∈ (inlineRecordsOf f).map Record.name ∨ name ∈ hiddenNamesOf f := by
  induction f using Field.tree_induction with
  | h f ih =>
      have hmembers := mem_inlineNames_of_each ih
      rw [inlineNamesOf_eq, inlineRecordsOf_eq, hiddenNamesOf_eq]
      cases f.type.element with
      | primitive p => simp
      | struct own =>
          cases hfields : f.fields with
          | nil => simp [inlineNames, hiddenNames]
          | cons g fields =>
              rw [← hfields]
              simp [hfields ▸ hmembers, hfields, or_assoc]

theorem mem_inlineNames_iff (name : String) (fields : List Field) :
    name ∈ inlineNames fields ↔
      name ∈ (inlineRecords fields).map Record.name ∨ name ∈ hiddenNames fields :=
  mem_inlineNames_of_each fun f _ => mem_inlineNamesOf_iff name f

namespace Message

/-- The names of the structures of a message that give no type. -/
def hiddenNames (m : Message) : List String :=
  Schema.hiddenNames m.fields ++ m.structures.flatMap fun s => Schema.hiddenNames s.fields

/-- The names of the structures declared in a message that do. -/
def innerNames (m : Message) : List String :=
  m.innerRecords.map Record.name

/-- A field of one of the structures has the structure of that name as the type of its elements. -/
def Refers (m : Message) (name : String) : Prop :=
  ∃ r ∈ m.records, ∃ f ∈ r.fields, f.type.element = .struct name

theorem mem_declaredNames_iff (m : Message) (name : String) :
    name ∈ m.declaredNames ↔ name ∈ m.innerNames ∨ name ∈ m.hiddenNames := by
  simp only [declaredNames, innerNames, innerRecords, hiddenNames, List.map_append, List.map_flatMap,
    List.mem_append, List.mem_flatMap, List.map_cons, List.mem_cons, mem_inlineNames_iff]
  constructor
  · rintro ((hrecord | hhidden) | ⟨s, hs, hown | hrecord | hhidden⟩)
    · exact Or.inl (Or.inl hrecord)
    · exact Or.inr (Or.inl hhidden)
    · exact Or.inl (Or.inr ⟨s, hs, Or.inl hown⟩)
    · exact Or.inl (Or.inr ⟨s, hs, Or.inr hrecord⟩)
    · exact Or.inr (Or.inr ⟨s, hs, hhidden⟩)
  · rintro ((hrecord | ⟨s, hs, hown | hrecord⟩) | hhidden | ⟨s, hs, hhidden⟩)
    · exact Or.inl (Or.inl hrecord)
    · exact Or.inr ⟨s, hs, Or.inl hown⟩
    · exact Or.inr ⟨s, hs, Or.inr (Or.inl hrecord)⟩
    · exact Or.inl (Or.inr hhidden)
    · exact Or.inr ⟨s, hs, Or.inr (Or.inr hhidden)⟩

end Message

end WireSchema.Schema

namespace WireSchema.Source

open WireSchema.Schema

/-! ## What the check lets through -/

theorem Pieces.ok_of_error?_eq_none {ps : Pieces} (h : ps.error? = none) {p : Piece} (hp : p ∈ ps) :
    ∃ text, p = .ok text := by
  induction ps with
  | nil => cases hp
  | cons q ps ih =>
      cases q with
      | error e => cases h
      | ok text =>
          rcases List.mem_cons.mp hp with rfl | hmem
          · exact ⟨text, rfl⟩
          · exact ih h hmem

/-- The references of a structure are all among the known names if it is written without an error. -/
theorem known_of_referencePieces {known : List String} {r : Record}
    (h : ∀ p ∈ referencePieces known r, ∃ text, p = .ok text) {f : Field} (hf : f ∈ r.fields)
    {name : String} (hname : f.type.element = .struct name) : name ∈ known := by
  by_contra hunknown
  have hmem : .error (.unknownStructure r.name f.name name) ∈ referencePieces known r := by
    refine List.mem_filterMap.mpr ⟨f, hf, ?_⟩
    simp [hname, hunknown]
  obtain ⟨text, htext⟩ := h _ hmem
  cases htext

theorem referencePieces_subset {m : Message} {r : Record} (hr : r ∈ m.records) :
    referencePieces m.declaredNames r ⊆ messagePieces m := by
  intro p hp
  rcases List.mem_cons.mp hr with rfl | hinner
  · refine List.mem_append_left _ (List.mem_append_right _ ?_)
    rw [recordPieces_eq]
    exact List.mem_append_left _ hp
  · refine List.mem_append_right _ (List.mem_flatMap.mpr ⟨r, hinner, List.mem_cons_of_mem _ ?_⟩)
    rw [recordPieces_eq]
    exact List.mem_append_left _ hp

theorem mem_declaredNames_of_refers {s : Sheet} {m : Message} (hok : (compileMessage s m).2 = none)
    {name : String} (h : m.Refers name) : name ∈ m.declaredNames := by
  obtain ⟨r, hr, f, hf, hname⟩ := h
  rw [compileMessage, Sheet.writePieces_snd] at hok
  refine known_of_referencePieces (fun p hp => ?_) hf hname
  exact Pieces.ok_of_error?_eq_none hok (referencePieces_subset hr hp)

theorem typeNames_message (m : Message) :
    (typesIn (messagePieces m)).map Prod.fst = m.name :: m.innerNames := by
  have htypes := declares_messagePieces m []
  rw [List.append_nil] at htypes
  rw [htypes, typesIn, List.append_nil, List.map_map]
  rfl

/-- A message that is compiled declares its own type and one for each structure that is met in it, and each of
its references names one of the latter just when that is so of the references to hidden declarations. -/
theorem compileMessage_closed_iff {s : Sheet} {m : Message} (h : (compileMessage s m).2 = none) :
    (typesIn (messagePieces m)).map Prod.fst = m.name :: m.innerNames ∧
      ((∀ name, m.Refers name → name ∈ m.innerNames) ↔
        ∀ name ∈ m.hiddenNames, m.Refers name → name ∈ m.innerNames) := by
  refine ⟨typeNames_message m, fun hclosed name _ hname => hclosed name hname, fun hhidden name hname => ?_⟩
  rcases (m.mem_declaredNames_iff name).mp (mem_declaredNames_of_refers h hname) with hinner | hbelow
  · exact hinner
  · exact hhidden name hbelow hname

/-- A field of a primitive type with a structure below it. -/
def coverField : Field :=
  { name := "A", type := ⟨.primitive .int32, false⟩, versions := some (.openFrom 0),
    fields := [pairField "B" "Foo" ["C"]] }

def referenceField : Field :=
  { name := "D", type := ⟨.struct "Foo", false⟩, versions := some (.openFrom 0) }

/-- The structure is declared a second time, where it gives a type. -/
def coveredHeader : Message :=
  { kind := .header, name := "H", fields := [coverField, referenceField, pairField "E" "Foo" ["F"]] }

theorem compileMessage_closed_coveredHeader :
    (compileMessage .empty coveredHeader).2 = none ∧ coveredHeader.hiddenNames = ["Foo"] ∧
      ∀ name, coveredHeader.Refers name → name ∈ coveredHeader.innerNames := by
  have hok : (compileMessage .empty coveredHeader).2 = none := rfl
  have hhidden : ∀ name ∈ coveredHeader.hiddenNames, name ∈ coveredHeader.innerNames := by decide
  exact ⟨hok, rfl, (compileMessage_closed_iff hok).2.mpr fun name hname _ => hhidden name hname⟩

/-- The only declaration of the structure is hidden. -/
def danglingHeader : Message :=
  { kind := .header, name := "H", fields := [coverField, referenceField] }

theorem compileMessage_danglingHeader :
    (compileMessage .empty danglingHeader).2 = none ∧ danglingHeader.Refers "Foo" ∧
      "Foo" ∉ (typesIn (messagePieces danglingHeader)).map Prod.fst := by
  refine ⟨rfl, ⟨danglingHeader.record, List.mem_cons_self, referenceField, ?_, rfl⟩, ?_⟩
  · exact List.mem_cons_of_mem _ List.mem_cons_self
  · rw [typeNames_message]
    decide

end WireSchema.Source
