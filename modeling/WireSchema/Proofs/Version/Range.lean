import WireSchema.Version.Range

/-!
What a written range can be. The lower bound of a range that was read is a version, and its upper bound is not
below it, or there is none; only the empty range has no lower bound.
-/

namespace WireSchema.Version.Range

/-- The empty range, or a lower bound with no upper bound below it. -/
def WellFormed (r : Range) : Prop :=
  r = .empty ∨ 0 ≤ r.min ∧ (r.max = noVersion ∨ r.min ≤ r.max)

theorem bind_eq_ok {ε α β : Type} {x : Except ε α} {f : α → Except ε β} {b : β} :
    (x >>= f) = .ok b ↔ ∃ a, x = .ok a ∧ f a = .ok b := by
  cases x with
  | error e => simp [bind, Except.bind]
  | ok a => simp [bind, Except.bind]

theorem map_eq_ok {ε α β : Type} {x : Except ε α} {f : α → β} {b : β} :
    x.map f = .ok b ↔ ∃ a, x = .ok a ∧ f a = b := by
  cases x with
  | error e => simp [Except.map]
  | ok a => simp [Except.map]

theorem zero_le_of_parseVersion {cs : List Char} {v : Int16} (h : parseVersion cs = .ok v) : 0 ≤ v := by
  rw [parseVersion] at h
  split at h
  · cases h
  · rename_i n _
    split at h
    · rename_i hle
      cases h
      rw [Int16.le_iff_toInt_le, Int16.toInt_ofNat_of_lt (by omega)]
      exact Int.natCast_nonneg n
    · cases h

theorem wellFormed_openFrom {v : Int16} (h : 0 ≤ v) : (openFrom v).WellFormed :=
  Or.inr ⟨h, Or.inl rfl⟩

theorem wellFormed_closed {low high : Int16} (hlow : 0 ≤ low) (hle : low ≤ high) :
    (closed low high).WellFormed :=
  Or.inr ⟨hlow, Or.inr hle⟩

theorem wellFormed_of_parseChars {cs : List Char} {r : Range} (h : parseChars cs = .ok r) : r.WellFormed := by
  rw [parseChars] at h
  split at h
  · rename_i low high _
    obtain ⟨min, hlow, h⟩ := bind_eq_ok.mp h
    obtain ⟨max, hhigh, h⟩ := bind_eq_ok.mp h
    split at h
    · cases h
    · rename_i hle
      cases h
      exact wellFormed_closed (zero_le_of_parseVersion hlow) (Int16.not_lt.mp hle)
  · split at h
    · obtain ⟨min, hlow, rfl⟩ := map_eq_ok.mp h
      exact wellFormed_openFrom (zero_le_of_parseVersion hlow)
    · split at h
      · cases h
        exact Or.inl rfl
      · obtain ⟨v, hversion, rfl⟩ := map_eq_ok.mp h
        exact wellFormed_closed (zero_le_of_parseVersion hversion) (Int16.le_refl v)

theorem wellFormed_of_parse {text : String} {r : Range} (h : parse text = .ok r) : r.WellFormed :=
  wellFormed_of_parseChars h

end WireSchema.Version.Range
