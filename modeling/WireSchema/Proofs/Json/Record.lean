import WireSchema.Proofs.Json.Reader

/-!
What lists and records yield. A list yields what its elements yield. A record is built up member by member in
either of its two forms, so what holds of the empty draft and is kept by every member holds of the finished
draft, and in the finished draft every required member is set.
-/

namespace WireSchema.Json.Reader

variable {α κ δ : Type} {P : α → Prop}

/-- What stands in place of an expected value is never taken for one. -/
theorem yields_mismatch (expected : String) (first : UInt8) :
    (mismatch expected first : Reader α).Yields P := by
  have hword : ∀ letters cause,
      (discard >>= fun _ => word letters >>= fun _ => (raise cause : Reader α)).Yields P :=
    fun letters cause => yields_bind fun _ => yields_bind fun _ => yields_raise cause
  have hnumber : ∀ negative,
      (number negative >>= fun n => (raise (.wrongType n.found expected) : Reader α)).Yields P :=
    fun negative => yields_bind fun n => yields_raise _
  exact .stamp <| (hword _ _).ite <| (hword _ _).ite <| (hword _ _).ite <|
    (yields_bind fun _ => hnumber true).ite <| (hnumber false).ite <|
    (yields_bind fun _ => yields_bind fun _ => yields_raise _).ite <|
    (yields_raise _).ite <| (yields_raise _).ite (yields_fail _)

theorem yields_textSuch (expected : String) {parse : String → Except String α}
    (h : ∀ s a, parse s = .ok a → P a) : (textSuch expected parse).Yields P := by
  refine yields_bind fun s => ?_
  split
  · rename_i a hparse
    exact yields_pure (h s a hparse)
  · exact yields_raise _

theorem Yields.orNull {r : Reader α} (h : r.Yields P) : (orNull r).Yields fun o => ∀ a, o = some a → P a := by
  refine yields_bind fun b => ?_
  split
  · refine yields_bind fun _ => yields_bind fun _ => yields_pure fun a ha => ?_
    cases ha
  · refine h.bind fun a ha => yields_pure fun b hb => ?_
    exact Option.some.inj hb ▸ ha

theorem Yields.inList {r : Reader α} (h : r.Yields P) : (inList r).Yields P :=
  ((yields_bind fun _ => h).closedBy _).stamp

theorem Yields.inObject {r : Reader α} (h : r.Yields P) : (inObject r).Yields P :=
  ((yields_bind fun _ => h).closedBy _).stamp

theorem Yields.elements {element : Reader α} (h : element.Yields P) :
    (elements element).Yields fun as => ∀ a ∈ as, P a := by
  refine yields_loop (I := fun acc => ∀ a ∈ acc, P a) (fun acc hacc => yields_bind fun more => ?_)
    (fun a ha => absurd ha List.not_mem_nil)
  split
  · refine h.bind fun a ha => yields_pure fun b hb => ?_
    rcases List.mem_cons.mp hb with rfl | hb
    · exact ha
    · exact hacc b hb
  · exact yields_pure fun a ha => hacc a (List.mem_reverse.mp ha)

theorem yields_listOf {element : Option (Reader α)} (h : ∀ r, element = some r → r.Yields P) :
    (listOf element).Yields fun as => ∀ a ∈ as, P a := by
  refine yields_bind fun b => Yields.ite ?_ (yields_mismatch _ _)
  cases element with
  | none => exact yields_fail _
  | some r => exact (h r rfl).elements.inList

/-! ## Records -/

section Record

variable {f : RecordFormat κ δ} {I : δ → Prop}

/-- The two forms of a record, of which each yields a finished draft. -/
theorem yields_record (typeName : String) {format : Option (RecordFormat κ δ)}
    (hlisted : ∀ f, format = some f → (listedMembers f f.keys 0 f.empty).Yields I)
    (hkeyed : ∀ f, format = some f → (keyedRecord f).Yields I) : (record typeName format).Yields I := by
  refine yields_bind fun b => ?_
  cases format with
  | none => exact (yields_fail _).ite <| (yields_fail _).ite (yields_mismatch _ _)
  | some f => exact (hlisted f rfl).inList.ite <| (hkeyed f rfl).inObject.ite (yields_mismatch _ _)

theorem yields_listedMembers (hread : ∀ k draft, I draft → (f.read k draft).Yields I) (keys : List κ) (i : Nat)
    {draft : δ} (hdraft : I draft) : (listedMembers f keys i draft).Yields I := by
  induction keys generalizing i draft with
  | nil => exact yields_pure hdraft
  | cons k keys ih =>
      refine yields_bind fun more => Yields.ite ?_ ((yields_raise _).ite (ih _ hdraft))
      exact (hread k draft hdraft).bind fun draft hdraft => ih _ hdraft

theorem yields_keyedMembers (hread : ∀ k draft, I draft → (f.read k draft).Yields I) (hempty : I f.empty) :
    (keyedMembers f).Yields I := by
  refine yields_loop (I := fun s : Bool × δ => I s.2) (fun s hs => yields_bind fun more => ?_) hempty
  refine Yields.ite (yields_bind fun _ => yields_bind fun name => ?_) (yields_pure hs)
  split
  · exact yields_raise _
  · refine (yields_raise _).ite (yields_bind fun _ => ?_)
    exact (hread _ _ hs).bind fun draft hdraft => yields_pure hdraft

theorem yields_keyedRecord (hread : ∀ k draft, I draft → (f.read k draft).Yields I) (hempty : I f.empty) :
    (keyedRecord f).Yields I := by
  refine (yields_keyedMembers hread hempty).bind fun draft hdraft => ?_
  split
  · exact yields_raise _
  · exact yields_pure hdraft

/-- What every member keeps holds of the finished draft. -/
theorem yields_record_of_read (typeName : String) {format : Option (RecordFormat κ δ)}
    (hread : ∀ f, format = some f → ∀ k draft, I draft → (f.read k draft).Yields I)
    (hempty : ∀ f, format = some f → I f.empty) : (record typeName format).Yields I :=
  yields_record typeName
    (fun f hf => yields_listedMembers (hread f hf) f.keys 0 (hempty f hf))
    (fun f hf => yields_keyedRecord (hread f hf) (hempty f hf))

/-- Reading a member sets it and unsets no other. -/
def SetsMembers (f : RecordFormat κ δ) : Prop :=
  ∀ k draft, (f.read k draft).Yields fun draft' =>
    f.isSet k draft' = true ∧ ∀ k', f.isSet k' draft = true → f.isSet k' draft' = true

theorem yields_listedMembers_required (hsets : SetsMembers f) (keys : List κ) (i : Nat) (draft : δ) :
    (listedMembers f keys i draft).Yields fun draft' =>
      (∀ k ∈ keys, f.required k = true → f.isSet k draft' = true) ∧
      ∀ k, f.isSet k draft = true → f.isSet k draft' = true := by
  induction keys generalizing i draft with
  | nil => exact yields_pure ⟨fun k hk => absurd hk List.not_mem_nil, fun _ h => h⟩
  | cons k keys ih =>
      refine yields_bind fun more => Yields.ite ?_ ?_
      · refine (hsets k draft).bind fun next hnext => (ih _ next).mono fun last hlast => ⟨?_, ?_⟩
        · intro k' hk' hrequired
          rcases List.mem_cons.mp hk' with rfl | hk'
          · exact hlast.2 _ hnext.1
          · exact hlast.1 k' hk' hrequired
        · exact fun k' hk' => hlast.2 k' (hnext.2 k' hk')
      · split
        · exact yields_raise _
        · rename_i hoptional
          refine (ih _ draft).mono fun last hlast => ⟨?_, hlast.2⟩
          intro k' hk' hrequired
          rcases List.mem_cons.mp hk' with rfl | hk'
          · exact absurd hrequired hoptional
          · exact hlast.1 k' hk' hrequired

theorem isSet_of_firstMissing {draft : δ} (h : firstMissing f draft = none) :
    ∀ k ∈ f.keys, f.required k = true → f.isSet k draft = true := by
  intro k hk hrequired
  have hfound := List.find?_eq_none.mp h k hk
  simpa [hrequired] using hfound

/-- In a finished draft every required member is set. -/
theorem yields_record_required (typeName : String) (hsets : SetsMembers f) :
    (record typeName (some f)).Yields fun draft =>
      ∀ k ∈ f.keys, f.required k = true → f.isSet k draft = true := by
  refine yields_record typeName ?_ ?_
  · rintro _ ⟨⟩
    exact (yields_listedMembers_required hsets f.keys 0 f.empty).mono fun _ h => h.1
  · rintro _ ⟨⟩
    refine yields_bind fun draft => ?_
    split
    · exact yields_raise _
    · rename_i hmissing
      exact yields_pure (isSet_of_firstMissing hmissing)

end Record

end WireSchema.Json.Reader
