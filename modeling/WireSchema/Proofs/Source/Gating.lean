import WireSchema.Proofs.Version.Condition
import WireSchema.Proofs.Version.Formula
import WireSchema.Source.Compile

/-!
Which fields a version gets through to. The helpers of a field leave at once unless the version passes their
guard, and a guard tests only what the enclosing structure has not settled already. Along a chain of inline
structures the guards together decide whether the version lies in the range of every field of the chain. A
structure declared beside the fields is entered from fields of any range, so there a guard decides no more
than the bounds that the structure's own range does not have.
-/

namespace WireSchema.Source

open WireSchema.Schema WireSchema.Version

/-! ## What a guard lets through -/

/-- Leaves a helper when the test holds. -/
def leaveIf (test : String) : Pieces :=
  [braceLine ("if " ++ test), line "return Ok(());", closeLine]

/-- There is no guard, or its test is false at the version. -/
def LetsThrough (guard : Pieces) (v : Int16) : Prop :=
  guard = [] ∨ ∃ test f, guard = leaveIf test ∧ Formula.read? versionVar test = some f ∧ f.eval v = false

theorem leaveIf_injective {test test' : String} (h : leaveIf test = leaveIf test') : test = test' := by
  have hline : "if " ++ test ++ " \x7b" ++ "\n" = "if " ++ test' ++ " \x7b" ++ "\n" :=
    Except.ok.inj (List.cons.inj h).1
  rwa [String.append_left_inj, String.append_left_inj, String.append_right_inj] at hline

theorem guardPieces_of_ne_always {c : Condition} (h : c ≠ .always) :
    guardPieces c = leaveIf (c.renderNegated versionVar) := by
  cases c with
  | always => exact absurd rfl h
  | _ => rfl

theorem isVariable_versionVar : Formula.IsVariable versionVar := by
  have hrest : ['e', 'r', 's', 'i', 'o', 'n'].all Text.isIdentifierRest = true := by decide
  exact ⟨.plain ⟨'v', _, rfl, by decide, List.all_eq_true.mp hrest⟩, by decide⟩

theorem letsThrough_guardPieces (c : Condition) (v : Int16) :
    LetsThrough (guardPieces c) v ↔ c.holds v = true := by
  by_cases halways : c = .always
  · subst halways
    exact ⟨fun _ => rfl, fun _ => Or.inl rfl⟩
  · have hread := Condition.read?_renderNegated isVariable_versionVar c
    rw [guardPieces_of_ne_always halways]
    constructor
    · rintro (hnone | ⟨test, f, htest, hf, hfalse⟩)
      · cases hnone
      · rw [← leaveIf_injective htest, hread] at hf
        rw [← Option.some.inj hf, Condition.eval_negatedFormula] at hfalse
        simpa using hfalse
    · intro hholds
      refine Or.inr ⟨_, _, rfl, hread, ?_⟩
      rw [Condition.eval_negatedFormula, hholds]
      rfl

/-! ## What is written for a field -/

/-- The guard in the helpers of a field. -/
def fieldGuard (r : Record) (f : Field) : Pieces :=
  guardPieces (fieldCondition r f)

/-- The source of the message implements the structure, and there both helpers of the field begin with the
guard. -/
def Guards (m : Message) (r : Record) (f : Field) (guard : Pieces) : Prop :=
  ∃ extra, inherentPieces r extra <:+: messagePieces m ∧
    braceLine (decodeSignature ("decode_" ++ snakeOf f)) ::
      guard ++ decodeBody f ++ [line "Ok(())", closeLine] <:+: inherentPieces r extra ∧
    braceLine (encodeSignature ("encode_" ++ snakeOf f)) ::
      guard ++ encodeBody f ++ [line "Ok(())", closeLine] <:+: inherentPieces r extra

theorem helperPieces_infix_inherentPieces {r : Record} {f : Field} (hf : f ∈ r.fields) (extra : Pieces) :
    helperPieces r f <:+: inherentPieces r extra := by
  have hfields : helperPieces r f <:+: r.fields.flatMap (helperPieces r) :=
    List.infix_of_mem_flatten (List.mem_map_of_mem hf)
  exact hfields.trans (List.infix_append _ _ _)

theorem inherentPieces_infix_recordPieces (known : List String) (extra : Pieces) (r : Record) :
    inherentPieces r extra <:+: recordPieces known extra r := by
  rw [recordPieces]
  apply List.infix_append_of_infix_left
  apply List.infix_append_of_infix_right
  exact (List.suffix_cons _ _).isInfix

theorem recordPieces_infix_messagePieces {m : Message} {r : Record} (hr : r ∈ m.records) :
    ∃ extra, recordPieces m.declaredNames extra r <:+: messagePieces m := by
  rcases List.mem_cons.mp hr with rfl | hinner
  · exact ⟨_, List.infix_append _ _ _⟩
  · refine ⟨[], List.infix_append_of_infix_right ?_⟩
    have hblock : blankLine :: recordPieces m.declaredNames [] r <:+:
        m.innerRecords.flatMap fun r => blankLine :: recordPieces m.declaredNames [] r :=
      List.infix_of_mem_flatten (List.mem_map_of_mem hinner)
    exact (List.suffix_cons _ _).isInfix.trans hblock

theorem guards_fieldGuard {m : Message} {r : Record} {f : Field} (hr : r ∈ m.records)
    (hf : f ∈ r.fields) : Guards m r f (fieldGuard r f) := by
  obtain ⟨extra, hrecord⟩ := recordPieces_infix_messagePieces hr
  have hhelpers := helperPieces_infix_inherentPieces hf extra
  have hdecode : decodeHelper f (fieldCondition r f) <:+: helperPieces r f :=
    List.infix_append_of_infix_left (List.infix_cons List.infix_rfl)
  have hencode : encodeHelper f (fieldCondition r f) <:+: helperPieces r f :=
    List.infix_append_of_infix_right (List.infix_cons List.infix_rfl)
  exact ⟨extra, (inherentPieces_infix_recordPieces _ extra r).trans hrecord,
    hdecode.trans hhelpers, hencode.trans hhelpers⟩

theorem letsThrough_fieldGuard {r : Record} {v : Int16}
    (hr : ∀ range, r.versions = some range → range.contains v = true) (f : Field) :
    LetsThrough (fieldGuard r f) v ↔ f.versions.any (·.contains v) = true := by
  rw [fieldGuard, letsThrough_guardPieces]
  exact Condition.holds_within_of_contains hr f.versions

/-! ## Inline structures -/

/-- The structure that a field declares inline. -/
def inlineRecord (f : Field) (name : String) : Record :=
  ⟨name, f.fields, f.versions⟩

/-- A chain of fields that leads down from a structure: each field but the last declares inline the structure
to which the next one belongs. Each stands with its own structure. -/
inductive Descends : Record → List (Record × Field) → Prop
  | last {r : Record} {f : Field} (hf : f ∈ r.fields) : Descends r [(r, f)]
  | down {r : Record} {f : Field} {name : String} {path : List (Record × Field)} (hf : f ∈ r.fields)
      (hname : f.type.element = .struct name) (hpath : Descends (inlineRecord f name) path) :
      Descends r ((r, f) :: path)

theorem Descends.fields_ne_nil {r : Record} {path : List (Record × Field)} (hpath : Descends r path) :
    r.fields ≠ [] := by
  cases hpath with
  | last hf => exact List.ne_nil_of_mem hf
  | down hf => exact List.ne_nil_of_mem hf

theorem inlineRecordsOf_subset {f : Field} {fs : List Field} (hf : f ∈ fs) :
    inlineRecordsOf f ⊆ inlineRecords fs := by
  induction fs with
  | nil => cases hf
  | cons g fs ih =>
      rw [inlineRecords]
      rcases List.mem_cons.mp hf with rfl | hf
      · exact List.subset_append_left _ _
      · exact List.subset_append_of_subset_right _ (ih hf)

theorem inlineRecordsOf_struct {f : Field} {name : String} (hname : f.type.element = .struct name)
    (hfields : f.fields ≠ []) :
    inlineRecordsOf f = inlineRecord f name :: inlineRecords f.fields := by
  obtain ⟨_, _, type, versions, _, _, _, fields, _, _, _, _, _⟩ := f
  simp only at hname hfields
  simp [inlineRecordsOf, hname, hfields, inlineRecord]

/-- Every structure on the way is one of those that are written. -/
theorem Descends.mem_records {m : Message} {r : Record} {path : List (Record × Field)}
    (hpath : Descends r path) (hr : r ∈ m.records) (hinner : inlineRecords r.fields ⊆ m.records) :
    ∀ p ∈ path, p.1 ∈ m.records ∧ p.2 ∈ p.1.fields := by
  induction hpath with
  | last hf =>
      intro p hp
      cases List.mem_singleton.mp hp
      exact ⟨hr, hf⟩
  | @down r f name path hf hname hpath ih =>
      have hbelow : inlineRecord f name :: inlineRecords f.fields ⊆ m.records := by
        rw [← inlineRecordsOf_struct hname hpath.fields_ne_nil]
        exact List.Subset.trans (inlineRecordsOf_subset hf) hinner
      obtain ⟨hrecord, hinner'⟩ := List.cons_subset.mp hbelow
      intro p hp
      rcases List.mem_cons.mp hp with rfl | hp
      · exact ⟨hr, hf⟩
      · exact ih hrecord hinner' p hp

/-- A guard relies on its structure's range only, and the range of an inline structure is that of the field
which has just let the version through. -/
theorem Descends.letsThrough_iff {r : Record} {path : List (Record × Field)} (hpath : Descends r path)
    {v : Int16} (hr : ∀ range, r.versions = some range → range.contains v = true) :
    (∀ p ∈ path, LetsThrough (fieldGuard p.1 p.2) v) ↔
      ∀ p ∈ path, p.2.versions.any (·.contains v) = true := by
  induction hpath with
  | last hf =>
      simp only [List.mem_singleton, forall_eq]
      exact letsThrough_fieldGuard hr _
  | @down r f name path hf hname hpath ih =>
      simp only [List.forall_mem_cons]
      rw [letsThrough_fieldGuard hr f]
      refine and_congr_right fun hfield => ih fun range hrange => ?_
      change f.versions = some range at hrange
      rwa [hrange] at hfield

/-- Down a chain from the message the guards together decide whether every field of the chain has the
version. -/
theorem guards_letThrough_iff_contains {m : Message} {path : List (Record × Field)}
    (hpath : Descends m.record path) {v : Int16}
    (hv : ∀ valid, m.validVersions = some valid → valid.contains v = true) :
    (∀ p ∈ path, Guards m p.1 p.2 (fieldGuard p.1 p.2)) ∧
      ((∀ p ∈ path, LetsThrough (fieldGuard p.1 p.2) v) ↔
        ∀ p ∈ path, p.2.versions.any (·.contains v) = true) := by
  have hinline : inlineRecords m.fields ⊆ m.records :=
    List.Subset.trans (List.subset_append_left _ _) (List.subset_cons_self _ _)
  refine ⟨fun p hp => ?_, hpath.letsThrough_iff hv⟩
  obtain ⟨hrecord, hfield⟩ := hpath.mem_records List.mem_cons_self hinline p hp
  exact guards_fieldGuard hrecord hfield

def extraField : Field :=
  { name := "Extra", type := ⟨.primitive .string, false⟩, versions := some (.openFrom 3) }

def topicField : Field :=
  { name := "Topic", type := ⟨.struct "Topic", false⟩, versions := some (.openFrom 2),
    fields := [extraField] }

def topicHeader : Message :=
  { kind := .header, name := "H", validVersions := some (.closed 0 5), fields := [topicField] }

def extraPath : List (Record × Field) :=
  [(topicHeader.record, topicField), (inlineRecord topicField "Topic", extraField)]

theorem descends_extraPath : Descends topicHeader.record extraPath :=
  .down List.mem_cons_self rfl (.last List.mem_cons_self)

theorem guards_extraPath :
    (∀ p ∈ extraPath, LetsThrough (fieldGuard p.1 p.2) 3) ∧
      ¬ ∀ p ∈ extraPath, LetsThrough (fieldGuard p.1 p.2) 2 := by
  have hvalid : ∀ valid, topicHeader.validVersions = some valid →
      valid.contains 3 = true ∧ valid.contains 2 = true := by
    rintro _ ⟨⟩
    decide
  have hthree := guards_letThrough_iff_contains descends_extraPath fun valid h => (hvalid valid h).1
  have htwo := guards_letThrough_iff_contains descends_extraPath fun valid h => (hvalid valid h).2
  exact ⟨hthree.2.mpr (by decide), mt htwo.2.mp (by decide)⟩

/-! ## Structures beside the fields -/

/-- A structure declared beside the fields, with its own range. -/
def structureRecord (c : Structure) : Record :=
  ⟨c.name, c.fields, c.versions⟩

theorem structureRecord_mem_records {m : Message} {c : Structure} (hc : c ∈ m.structures) :
    structureRecord c ∈ m.records := by
  apply List.mem_cons_of_mem
  apply List.mem_append_right
  exact List.mem_flatMap.mpr ⟨c, hc, List.mem_cons_self⟩

/-- The guard of a member tests the bounds of the member's range which the structure's range does not have,
whatever field the structure is entered from. On the versions of the structure this decides membership. -/
theorem structure_guard_letsThrough_iff {m : Message} {c : Structure} (hc : c ∈ m.structures) {g : Field}
    (hg : g ∈ c.fields) (v : Int16) :
    Guards m (structureRecord c) g (fieldGuard (structureRecord c) g) ∧
      (LetsThrough (fieldGuard (structureRecord c) g) v ↔
        ∃ r, g.versions = some r ∧ r.isEmpty = false ∧ r.MeetsOwnBounds c.versions v) ∧
      ((∀ range, c.versions = some range → range.contains v = true) →
        (LetsThrough (fieldGuard (structureRecord c) g) v ↔
          g.versions.any (·.contains v) = true)) := by
  refine ⟨guards_fieldGuard (structureRecord_mem_records hc) hg, ?_, fun hrange => ?_⟩
  · rw [fieldGuard, letsThrough_guardPieces]
    exact Condition.holds_within_iff g.versions c.versions v
  · exact letsThrough_fieldGuard hrange g

def sharedMember : Field :=
  { name := "V", type := ⟨.primitive .int16, false⟩, versions := some (.closed 2 4) }

def sharedStructure : Structure :=
  { name := "Shared", versions := some (.closed 2 6), fields := [sharedMember] }

def sharedReference : Field :=
  { name := "S", type := ⟨.struct "Shared", false⟩, versions := some (.openFrom 0) }

def sharedHeader : Message :=
  { kind := .header, name := "H", validVersions := some (.closed 0 9), fields := [sharedReference],
    structures := [sharedStructure] }

theorem sharedMember_guard :
    LetsThrough (fieldGuard (structureRecord sharedStructure) sharedMember) 3 ∧
      ¬ LetsThrough (fieldGuard (structureRecord sharedStructure) sharedMember) 5 := by
  have hc : sharedStructure ∈ sharedHeader.structures := List.mem_cons_self
  have hg : sharedMember ∈ sharedStructure.fields := List.mem_cons_self
  have hrange : ∀ range, sharedStructure.versions = some range →
      range.contains 3 = true ∧ range.contains 5 = true := by
    rintro _ ⟨⟩
    decide
  have hthree := (structure_guard_letsThrough_iff hc hg 3).2.2 fun range h => (hrange range h).1
  have hfive := (structure_guard_letsThrough_iff hc hg 5).2.2 fun range h => (hrange range h).2
  exact ⟨hthree.mpr (by decide), mt hfive.mp (by decide)⟩

/-- Version 0 enters the structure through a field that has it, and the member's guard, which leaves the
lower bound 2 to the structure, lets it on. -/
theorem sharedMember_guard_outside :
    (compileMessage .empty sharedHeader).2 = none ∧
      sharedHeader.validVersions.any (·.contains 0) = true ∧
      sharedReference ∈ sharedHeader.fields ∧
      sharedReference.type.element = .struct sharedStructure.name ∧
      sharedHeader.structures = [sharedStructure] ∧
      sharedMember ∈ sharedStructure.fields ∧
      LetsThrough (fieldGuard sharedHeader.record sharedReference) 0 ∧
      LetsThrough (fieldGuard (structureRecord sharedStructure) sharedMember) 0 ∧
      sharedMember.versions.any (·.contains 0) = false := by
  refine ⟨rfl, rfl, List.mem_cons_self, rfl, rfl, List.mem_cons_self, ?_, ?_, rfl⟩
  · exact (letsThrough_guardPieces _ 0).mpr (by decide)
  · exact (letsThrough_guardPieces _ 0).mpr (by decide)

end WireSchema.Source
