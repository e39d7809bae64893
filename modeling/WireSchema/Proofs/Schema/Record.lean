import WireSchema.Proofs.Schema.WellFormed
import WireSchema.Schema.Record

/-!
The structures of a message as a tree. A field gives the structure that it declares inline, followed by those
of its members; the documentation of a message has no part in it.
-/

namespace WireSchema.Schema

/-- What holds of a field whenever it holds of its members holds of every field. -/
theorem Field.tree_induction {P : Field → Prop} (h : ∀ f : Field, (∀ g ∈ f.fields, P g) → P f) (f : Field) :
    P f :=
  h f fun g _hg => Field.tree_induction h g
termination_by sizeOf f
decreasing_by
  have hmember := List.sizeOf_lt_of_mem _hg
  cases f
  simp only [Field.mk.sizeOf_spec] at hmember ⊢
  omega

theorem inlineRecords_eq_flatMap (fields : List Field) :
    inlineRecords fields = fields.flatMap inlineRecordsOf := by
  induction fields with
  | nil => rfl
  | cons f fields ih => rw [inlineRecords, ih, List.flatMap_cons]

theorem inlineRecordsOf_eq (f : Field) :
    inlineRecordsOf f =
      match f.type.element with
      | .primitive _ => []
      | .struct name =>
        if f.fields.isEmpty then [] else ⟨name, f.fields, f.versions⟩ :: inlineRecords f.fields := by
  cases f
  rfl

theorem inlineNames_eq_flatMap (fields : List Field) :
    inlineNames fields = fields.flatMap inlineNamesOf := by
  induction fields with
  | nil => rfl
  | cons f fields ih => rw [inlineNames, ih, List.flatMap_cons]

theorem inlineNamesOf_eq (f : Field) :
    inlineNamesOf f =
      (match f.type.element with
        | .primitive _ => []
        | .struct name => if f.fields.isEmpty then [] else [name]) ++ inlineNames f.fields := by
  cases f
  rfl

/-! ## Documentation -/

/-- The field without its description and those of its members, at any depth. -/
def Field.withoutDocs : Field → Field :=
  Field.mapTree fun f => { f with about := "" }

def Record.withoutDocs (r : Record) : Record :=
  { r with fields := r.fields.map Field.withoutDocs }

def Structure.withoutDocs (s : Structure) : Structure :=
  { s with fields := s.fields.map Field.withoutDocs }

/-- The message without its comments and the descriptions of its fields. -/
def Message.withoutDocs (m : Message) : Message :=
  { m with
    comments := "", fields := m.fields.map Field.withoutDocs,
    structures := m.structures.map Structure.withoutDocs }

theorem Field.withoutDocs_eq (f : Field) :
    f.withoutDocs = { f with about := "", fields := f.fields.map Field.withoutDocs } :=
  Field.mapTree_eq _ f

theorem inlineRecordsOf_withoutDocs (f : Field) :
    inlineRecordsOf f.withoutDocs = (inlineRecordsOf f).map Record.withoutDocs := by
  induction f using Field.tree_induction with
  | h f ih =>
      have hmembers : inlineRecords (f.fields.map Field.withoutDocs) =
          (inlineRecords f.fields).map Record.withoutDocs := by
        rw [inlineRecords_eq_flatMap, inlineRecords_eq_flatMap, List.flatMap_map, List.map_flatMap]
        exact List.flatMap_congr ih
      rw [inlineRecordsOf_eq, inlineRecordsOf_eq, Field.withoutDocs_eq]
      cases f.type.element with
      | primitive p => rfl
      | struct name =>
          simp only [List.isEmpty_map, hmembers]
          split
          · rfl
          · rfl

theorem inlineRecords_withoutDocs (fields : List Field) :
    inlineRecords (fields.map Field.withoutDocs) = (inlineRecords fields).map Record.withoutDocs := by
  rw [inlineRecords_eq_flatMap, inlineRecords_eq_flatMap, List.flatMap_map, List.map_flatMap]
  exact List.flatMap_congr fun f _ => inlineRecordsOf_withoutDocs f

theorem inlineNamesOf_withoutDocs (f : Field) : inlineNamesOf f.withoutDocs = inlineNamesOf f := by
  induction f using Field.tree_induction with
  | h f ih =>
      have hmembers : inlineNames (f.fields.map Field.withoutDocs) = inlineNames f.fields := by
        rw [inlineNames_eq_flatMap, inlineNames_eq_flatMap, List.flatMap_map]
        exact List.flatMap_congr ih
      rw [inlineNamesOf_eq, inlineNamesOf_eq, Field.withoutDocs_eq]
      simp only [List.isEmpty_map, hmembers]

theorem inlineNames_withoutDocs (fields : List Field) :
    inlineNames (fields.map Field.withoutDocs) = inlineNames fields := by
  rw [inlineNames_eq_flatMap, inlineNames_eq_flatMap, List.flatMap_map]
  exact List.flatMap_congr fun f _ => inlineNamesOf_withoutDocs f

namespace Message

theorem declaredNames_withoutDocs (m : Message) : m.withoutDocs.declaredNames = m.declaredNames := by
  simp only [declaredNames, withoutDocs, inlineNames_withoutDocs, List.flatMap_map, Structure.withoutDocs]

theorem innerRecords_withoutDocs (m : Message) :
    m.withoutDocs.innerRecords = m.innerRecords.map Record.withoutDocs := by
  simp only [innerRecords, withoutDocs, inlineRecords_withoutDocs, List.flatMap_map, Structure.withoutDocs,
    List.map_append, List.map_flatMap, List.map_cons, Record.withoutDocs]

end Message

end WireSchema.Schema
