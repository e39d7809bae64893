import WireSchema.Json.Compound

/-!
Two ways to speak about readers. `Yields r P` says that every value `r` reads satisfies `P`, whatever the
document is. `Tracks placed r` says where `r` stops on a document of bytes: the cursor does not go back, a
failure points at most as far as the cursor has come, and, if `placed` holds, a failure has a place. Both are
proved for a reader from its parts: there is a rule for each way of putting readers together.
-/

namespace WireSchema.Json

/-- The document consists of bytes: its source neither paused nor failed. -/
def Document.IsText (doc : Document) : Prop :=
  ∃ bytes, doc = Document.ofBytes bytes

theorem Document.IsText.byte_of_getElem? {doc : Document} (h : doc.IsText) {i : Nat} {answer : Pull}
    (hi : doc[i]? = some answer) : ∃ b, answer = .byte b := by
  obtain ⟨bytes, rfl⟩ := h
  simp only [ofBytes, List.getElem?_toArray, List.getElem?_map, Option.map_eq_some_iff] at hi
  obtain ⟨b, _, rfl⟩ := hi
  exact ⟨b, rfl⟩

namespace Reader

variable {α β σ κ δ : Type}

theorem bind_run (r : Reader α) (f : α → Reader β) (doc : Document) (c : Cursor) :
    (r >>= f) doc c = match r doc c with
      | (.ok a, c) => f a doc c
      | (.error e, c) => (.error e, c) := rfl

theorem bind_eq_ok {r : Reader α} {f : α → Reader β} {doc : Document} {c c' : Cursor} {b : β} :
    (r >>= f) doc c = (.ok b, c') ↔ ∃ a left, r doc c = (.ok a, left) ∧ f a doc left = (.ok b, c') := by
  rw [bind_run]
  cases hfirst : r doc c with
  | mk result left =>
      cases result with
      | error e => simp
      | ok a =>
          constructor
          · intro hsecond
            exact ⟨a, left, rfl, hsecond⟩
          · rintro ⟨_, _, ⟨⟩, hsecond⟩
            exact hsecond

/-! ## What is read -/

/-- Every value that is read satisfies `P`. -/
def Yields (r : Reader α) (P : α → Prop) : Prop :=
  ∀ doc c a c', r doc c = (.ok a, c') → P a

section Yields

variable {r : Reader α} {P Q : α → Prop} {R : β → Prop}

theorem Yields.mono (h : r.Yields P) (hPQ : ∀ a, P a → Q a) : r.Yields Q :=
  fun doc c a c' hrun => hPQ a (h doc c a c' hrun)

theorem yields_pure {a : α} (h : P a) : (pure a : Reader α).Yields P := by
  intro doc c b c' hrun
  cases hrun
  exact h

theorem yields_fail (cause : Cause) : (fail cause : Reader α).Yields P := by
  intro doc c a c' hrun
  cases hrun

theorem yields_raise (cause : Cause) : (raise cause : Reader α).Yields P := by
  intro doc c a c' hrun
  cases hrun

theorem Yields.bind {f : α → Reader β} (hr : r.Yields P) (hf : ∀ a, P a → (f a).Yields R) :
    (r >>= f).Yields R := by
  intro doc c b c' hrun
  obtain ⟨a, left, hfirst, hsecond⟩ := bind_eq_ok.mp hrun
  exact hf a (hr doc c a left hfirst) doc left b c' hsecond

/-- Nothing need be known of the value read first. -/
theorem yields_bind {f : α → Reader β} (hf : ∀ a, (f a).Yields R) : (r >>= f).Yields R :=
  Yields.bind (P := fun _ => True) (fun _ _ _ _ _ => trivial) fun a _ => hf a

theorem Yields.ite {c : Prop} [Decidable c] {r' : Reader α} (h : r.Yields P) (h' : r'.Yields P) :
    (if c then r else r').Yields P := by
  split
  · exact h
  · exact h'

theorem Yields.stamp (h : r.Yields P) : r.stamp.Yields P := by
  intro doc c a c' hrun
  refine h doc c a c' ?_
  rw [Reader.stamp] at hrun
  split at hrun
  · cases hrun
  · exact hrun

theorem Yields.closedBy (h : r.Yields P) (close : Reader Unit) : (closedBy close r).Yields P := by
  intro doc c a c' hrun
  rw [Reader.closedBy] at hrun
  split at hrun
  · rename_i b left hinner
    have hb := h doc c b left hinner
    split at hrun
    · cases hrun
      exact hb
    · cases hrun
  · cases hrun

/-- A loop keeps `I` from step to step, and the last step gives `P`. -/
theorem yields_loop {step : σ → Reader (σ ⊕ α)} {I : σ → Prop}
    (hstep : ∀ s, I s → (step s).Yields (Sum.elim I P)) {s : σ} (hs : I s) : (loop step s).Yields P := by
  intro doc
  have hwith : ∀ fuel s, I s → ∀ c a c', loopWith step fuel s doc c = (.ok a, c') → P a := by
    intro fuel
    induction fuel with
    | zero =>
        intro s _ c a c' hrun
        cases hrun
    | succ fuel ih =>
        intro s hs c a c' hrun
        obtain ⟨next, left, hfirst, hsecond⟩ := bind_eq_ok.mp hrun
        have hnext := hstep s hs doc c next left hfirst
        cases next with
        | inl s' => exact ih s' hnext left a c' hsecond
        | inr b =>
            cases hsecond
            exact hnext
  exact hwith _ s hs

theorem Yields.whole (h : r.Yields P) {doc : Document} {a : α} {c : Cursor}
    (hrun : whole r doc = (.ok a, c)) : P a := by
  obtain ⟨_, left, hfirst, hrest⟩ := bind_eq_ok.mp hrun
  obtain ⟨_, _, _, hreturn⟩ := bind_eq_ok.mp hrest
  cases hreturn
  exact h doc Cursor.start a left hfirst

end Yields

/-! ## Where a reader stops -/

/-- How a run from the cursor `c` may end. -/
inductive Ends (placed : Prop) (c : Cursor) : Except Failure α × Cursor → Prop where
  | read (a : α) {c' : Cursor} (hadvance : c.taken ≤ c'.taken) : Ends placed c (.ok a, c')
  | failed (cause : Cause) {place : Nat} {c' : Cursor} (hadvance : c.taken ≤ c'.taken)
      (hplace : place ≤ c'.taken) : Ends placed c (.error ⟨cause, some place⟩, c')
  | raised (cause : Cause) {c' : Cursor} (hadvance : c.taken ≤ c'.taken) (hplaced : ¬placed) :
      Ends placed c (.error ⟨cause, none⟩, c')

/-- The cursor does not go back, failures point at most as far as it has come, and if `placed` holds they
have a place. -/
def Tracks (placed : Prop) (r : Reader α) : Prop :=
  ∀ doc c, doc.IsText → Ends placed c (r doc c)

section Tracks

variable {placed : Prop} {r : Reader α} {P : α → Prop}

theorem Ends.advance {c : Cursor} {result : Except Failure α × Cursor} (h : Ends placed c result) :
    c.taken ≤ result.2.taken := by
  cases h with
  | read a h => exact h
  | failed cause h _ => exact h
  | raised cause h _ => exact h

theorem Ends.of_le {c₀ c : Cursor} (hle : c₀.taken ≤ c.taken) {result : Except Failure α × Cursor}
    (h : Ends placed c result) : Ends placed c₀ result := by
  cases h with
  | read a h => exact .read a (Nat.le_trans hle h)
  | failed cause h hplace => exact .failed cause (Nat.le_trans hle h) hplace
  | raised cause h hplaced => exact .raised cause (Nat.le_trans hle h) hplaced

theorem tracks_pure (a : α) : Tracks placed (pure a : Reader α) :=
  fun _ _ _ => .read a (Nat.le_refl _)

theorem tracks_fail (cause : Cause) : Tracks placed (fail cause : Reader α) :=
  fun _ _ _ => .failed cause (Nat.le_refl _) (Nat.le_refl _)

theorem tracks_raise (cause : Cause) : Tracks False (raise cause : Reader α) :=
  fun _ _ _ => .raised cause (Nat.le_refl _) not_false

theorem Tracks.bind_of_yields {f : α → Reader β} (hr : Tracks placed r) (hyields : r.Yields P)
    (hf : ∀ a, P a → Tracks placed (f a)) : Tracks placed (r >>= f) := by
  intro doc c hdoc
  have hfirst := hr doc c hdoc
  rw [bind_run]
  cases hrun : r doc c with
  | mk result left =>
      rw [hrun] at hfirst
      cases hfirst with
      | read a hadvance => exact (hf a (hyields doc c a left hrun) doc left hdoc).of_le hadvance
      | failed cause hadvance hplace => exact .failed cause hadvance hplace
      | raised cause hadvance hplaced => exact .raised cause hadvance hplaced

theorem Tracks.bind {f : α → Reader β} (hr : Tracks placed r) (hf : ∀ a, Tracks placed (f a)) :
    Tracks placed (r >>= f) :=
  hr.bind_of_yields (P := fun _ => True) (fun _ _ _ _ _ => trivial) fun a _ => hf a

theorem Tracks.ite {c : Prop} [Decidable c] {r' : Reader α} (h : Tracks placed r) (h' : Tracks placed r') :
    Tracks placed (if c then r else r') := by
  split
  · exact h
  · exact h'

/-- A failure without a place gets the place where the cursor is. -/
theorem Tracks.stamp (h : Tracks False r) : Tracks placed r.stamp := by
  intro doc c hdoc
  have hends := h doc c hdoc
  rw [Reader.stamp]
  cases hrun : r doc c with
  | mk result left =>
      rw [hrun] at hends
      cases hends with
      | read a hadvance => exact .read a hadvance
      | failed cause hadvance hplace => exact .failed cause hadvance hplace
      | raised cause hadvance _ => exact .failed cause hadvance (Nat.le_refl _)

/-- The failure of the inner reader keeps its place while the closing bracket is looked for. -/
theorem Tracks.closedBy {close : Reader Unit} (hclose : Tracks placed close) (h : Tracks placed r) :
    Tracks placed (closedBy close r) := by
  intro doc c hdoc
  have hinner := h doc c hdoc
  rw [Reader.closedBy]
  cases hrun : r doc c with
  | mk result left =>
      have hend := hclose doc left hdoc
      rw [hrun] at hinner
      cases hinner with
      | read a hadvance =>
          cases hcloserun : close doc left with
          | mk result right =>
              rw [hcloserun] at hend
              have hsum := Nat.le_trans hadvance hend.advance
              cases hend with
              | read u hadvance' => simpa only [hcloserun] using Ends.read a hsum
              | failed cause hadvance' hplace => simpa only [hcloserun] using Ends.failed cause hsum hplace
              | raised cause hadvance' hplaced => simpa only [hcloserun] using Ends.raised cause hsum hplaced
      | failed cause hadvance hplace =>
          exact .failed cause (Nat.le_trans hadvance hend.advance) (Nat.le_trans hplace hend.advance)
      | raised cause hadvance hplaced => exact .raised cause (Nat.le_trans hadvance hend.advance) hplaced

theorem tracks_loop {step : σ → Reader (σ ⊕ α)} (hstep : ∀ s, Tracks placed (step s)) (s : σ) :
    Tracks placed (loop step s) := by
  have hwith : ∀ fuel s, Tracks placed (loopWith step fuel s) := by
    intro fuel
    induction fuel with
    | zero => exact fun s => tracks_fail .endInValue
    | succ fuel ih =>
        intro s
        refine (hstep s).bind fun next => ?_
        cases next with
        | inl s' => exact ih s'
        | inr a => exact tracks_pure a
  exact fun doc c hdoc => hwith _ s doc c hdoc

/-- On a document of bytes the source does not fail. -/
theorem tracks_pull : Tracks placed pull := by
  intro doc c hdoc
  have htaken : c.taken ≤ c.taken + 1 := Nat.le_succ _
  rw [pull]
  cases hpull : doc[c.taken]? with
  | none => exact .read none htaken
  | some answer =>
      obtain ⟨b, rfl⟩ := hdoc.byte_of_getElem? hpull
      exact .read (some b) htaken

theorem tracks_setAhead (b : Option UInt8) : Tracks placed (setAhead b) :=
  fun _ _ _ => .read () (Nat.le_refl _)

theorem tracks_getAhead : Tracks placed getAhead :=
  fun _ c _ => .read c.ahead (Nat.le_refl _)

theorem tracks_peek : Tracks placed peek := by
  refine tracks_getAhead.bind fun ahead => ?_
  cases ahead with
  | some b => exact tracks_pure (some b)
  | none => exact tracks_pull.bind fun b => (tracks_setAhead b).bind fun _ => tracks_pure b

theorem tracks_discard : Tracks placed discard :=
  tracks_setAhead none

theorem tracks_next : Tracks placed next := by
  refine tracks_getAhead.bind fun ahead => ?_
  cases ahead with
  | some b => exact tracks_discard.bind fun _ => tracks_pure (some b)
  | none => exact tracks_pull

theorem tracks_skipBlanks : Tracks placed skipBlanks := by
  refine tracks_loop (fun _ => tracks_peek.bind fun b => ?_) ()
  cases b with
  | none => exact tracks_pure _
  | some b => exact (tracks_discard.bind fun _ => tracks_pure _).ite (tracks_pure _)

theorem tracks_valueStart : Tracks placed valueStart := by
  refine tracks_skipBlanks.bind fun b => ?_
  cases b with
  | some b => exact tracks_pure b
  | none => exact tracks_fail _

theorem tracks_finish : Tracks placed finish := by
  refine tracks_skipBlanks.bind fun b => ?_
  cases b with
  | some b => exact tracks_fail _
  | none => exact tracks_pure ()

theorem Tracks.whole (h : Tracks placed r) {doc : Document} (hdoc : doc.IsText) :
    Ends placed Cursor.start (whole r doc) :=
  (h.bind fun a => tracks_finish.bind fun _ => tracks_pure a) doc Cursor.start hdoc

end Tracks

/-! ## The end of the document -/

/-- No byte is seen on a document of bytes only after the last one was taken. -/
theorem size_lt_of_peek_none {doc : Document} (hdoc : doc.IsText) {c c' : Cursor}
    (h : peek doc c = (.ok none, c')) : doc.size < c'.taken := by
  obtain ⟨ahead, c₁, hahead, hrest⟩ := bind_eq_ok.mp h
  cases hahead
  cases hc : c.ahead with
  | some b =>
      rw [hc] at hrest
      cases hrest
  | none =>
      rw [hc] at hrest
      obtain ⟨b, c₂, hpull, hset⟩ := bind_eq_ok.mp hrest
      cases hset
      rw [pull] at hpull
      split at hpull
      · rename_i hend
        cases hpull
        exact Nat.lt_succ_of_le (Array.getElem?_eq_none_iff.mp hend)
      · cases hpull
      · rename_i hpause
        obtain ⟨b, hbyte⟩ := hdoc.byte_of_getElem? hpause
        cases hbyte
      · cases hpull

theorem size_lt_of_skipBlanks_none {doc : Document} (hdoc : doc.IsText) {c c' : Cursor}
    (h : skipBlanks doc c = (.ok none, c')) : doc.size < c'.taken := by
  rw [skipBlanks, loop] at h
  generalize doc.size + 2 = fuel at h
  induction fuel generalizing c with
  | zero => cases h
  | succ fuel ih =>
      obtain ⟨next, c₁, hstep, hrest⟩ := bind_eq_ok.mp h
      obtain ⟨b, c₂, hpeek, hbranch⟩ := bind_eq_ok.mp hstep
      cases b with
      | none =>
          cases hbranch
          cases hrest
          exact size_lt_of_peek_none hdoc hpeek
      | some b =>
          simp only at hbranch
          split at hbranch
          · obtain ⟨_, _, hdiscard, hreturn⟩ := bind_eq_ok.mp hbranch
            cases hreturn
            exact ih hrest
          · cases hbranch
            cases hrest

/-- A document of bytes that is read to its end has been asked for more than its bytes. -/
theorem size_lt_of_whole_ok {r : Reader α} {doc : Document} (hdoc : doc.IsText) {a : α} {c : Cursor}
    (h : whole r doc = (.ok a, c)) : doc.size < c.taken := by
  obtain ⟨_, c₁, _, hrest⟩ := bind_eq_ok.mp h
  obtain ⟨_, c₂, hfinish, hreturn⟩ := bind_eq_ok.mp hrest
  cases hreturn
  obtain ⟨b, c₃, hskip, hbranch⟩ := bind_eq_ok.mp hfinish
  cases b with
  | some b => cases hbranch
  | none =>
      cases hbranch
      exact size_lt_of_skipBlanks_none hdoc hskip

end Reader

end WireSchema.Json
