import WireSchema.Version.Condition

/-!
What a least test decides. `Condition.within range parent` tests the bounds of the range that the parent does
not have itself, for every version and whatever the bounds are. At a version in the parent the bounds that it
shares are met anyway, so there the test decides whether the version lies in the range.
-/

namespace WireSchema.Version

namespace Range

theorem contains_iff {r : Range} {v : Int16} :
    r.contains v = true ↔ r.isEmpty = false ∧ r.min ≤ v ∧ (r.isOpen = true ∨ v ≤ r.max) := by
  simp [contains, and_assoc]

theorem max_ne_noVersion {r : Range} (hempty : r.isEmpty = false) (hopen : r.isOpen = false) :
    r.max ≠ noVersion := by
  intro hmax
  simp [isOpen, hempty, hmax] at hopen

theorem isOpen_eq_false {r : Range} (hmax : r.max ≠ noVersion) : r.isOpen = false := by
  simp [isOpen, hmax]

/-- The version meets those bounds of the range that the parent does not have itself. -/
def MeetsOwnBounds (r : Range) (parent : Option Range) (v : Int16) : Prop :=
  (some r.min = parent.map Range.min ∨ r.min ≤ v) ∧
    (r.isOpen = true ∨ some r.max = parent.map Range.max ∨ v ≤ r.max)

theorem meetsOwnBounds_iff_contains {r : Range} {parent : Option Range} {v : Int16}
    (hempty : r.isEmpty = false) (hparent : ∀ p, parent = some p → p.contains v = true) :
    r.MeetsOwnBounds parent v ↔ r.contains v = true := by
  rw [contains_iff, MeetsOwnBounds]
  constructor
  · rintro ⟨hlow, hhigh⟩
    refine ⟨hempty, ?_, ?_⟩
    · rcases hlow with hshared | hlow
      · obtain ⟨p, hp, hmin⟩ := Option.map_eq_some_iff.mp hshared.symm
        rw [← hmin]
        exact (contains_iff.mp (hparent p hp)).2.1
      · exact hlow
    · rcases hhigh with hopen | hshared | hhigh
      · exact Or.inl hopen
      · cases hopen : r.isOpen with
        | true => exact Or.inl rfl
        | false =>
            -- A closed range ends at a version, so the parent with the same end is not open either.
            obtain ⟨p, hp, hmax⟩ := Option.map_eq_some_iff.mp hshared.symm
            have hclosed : p.isOpen = false :=
              isOpen_eq_false (hmax ▸ max_ne_noVersion hempty hopen)
            rcases (contains_iff.mp (hparent p hp)).2.2 with hpopen | hle
            · rw [hclosed] at hpopen
              cases hpopen
            · exact Or.inr (hmax ▸ hle)
      · exact Or.inr hhigh
  · rintro ⟨_, hlow, hhigh⟩
    exact ⟨Or.inr hlow, hhigh.imp_right Or.inr⟩

end Range

namespace Condition

theorem holds_within_iff (range parent : Option Range) (v : Int16) :
    (within range parent).holds v = true ↔
      ∃ r, range = some r ∧ r.isEmpty = false ∧ r.MeetsOwnBounds parent v := by
  cases range with
  | none => simp [within, holds]
  | some r =>
      simp only [Option.some.injEq, exists_eq_left', Range.MeetsOwnBounds]
      cases hempty : r.isEmpty with
      | true => simp [within, holds, hempty]
      | false =>
          cases parent with
          | none =>
              cases hopen : r.isOpen <;> simp [within, holds, hempty, hopen]
          | some p =>
              cases hopen : r.isOpen <;> by_cases hmax : r.max = p.max <;> by_cases hmin : r.min = p.min <;>
                simp [within, holds, hempty, hopen, hmax, hmin]

/-- At a version in the parent the test decides whether it lies in the range. -/
theorem holds_within_of_contains {parent : Option Range} {v : Int16}
    (hparent : ∀ p, parent = some p → p.contains v = true) (range : Option Range) :
    (within range parent).holds v = true ↔ range.any (·.contains v) = true := by
  rw [holds_within_iff, Option.any_eq_true]
  constructor
  · rintro ⟨r, rfl, hempty, hbounds⟩
    exact ⟨r, rfl, (Range.meetsOwnBounds_iff_contains hempty hparent).mp hbounds⟩
  · rintro ⟨r, rfl, hcontains⟩
    have hempty := (Range.contains_iff.mp hcontains).1
    exact ⟨r, rfl, hempty, (Range.meetsOwnBounds_iff_contains hempty hparent).mpr hcontains⟩

/-- The least test decides membership, whatever the bounds of the range and of its parent are: for the versions in
the parent, and for all versions if there is no parent. An unset range has no versions. -/
theorem holds_within_eq_contains (r : Range) (v : Int16) :
    (∀ p : Range, p.contains v = true → (within (some r) (some p)).holds v = r.contains v) ∧
      (within (some r) none).holds v = r.contains v ∧
      ∀ parent : Option Range, (within none parent).holds v = false := by
  have hdecides : ∀ parent : Option Range, (∀ p, parent = some p → p.contains v = true) →
      (within (some r) parent).holds v = r.contains v := by
    intro parent hparent
    exact Bool.eq_iff_iff.mpr (holds_within_of_contains hparent (some r))
  refine ⟨fun p hp => hdecides (some p) ?_, hdecides none nofun, fun parent => rfl⟩
  rintro _ ⟨⟩
  exact hp

/-- A range that ends before it begins, in an open parent with the same lower bound. -/
theorem holds_within_eq_contains_inverted :
    (Range.openFrom (-5)).contains 3 = true ∧
      within (some ⟨-5, -8⟩) (some (.openFrom (-5))) = .atMost (-8) ∧
      (within (some ⟨-5, -8⟩) (some (.openFrom (-5)))).holds 3 = (Range.mk (-5) (-8)).contains 3 :=
  ⟨rfl, rfl, (holds_within_eq_contains ⟨-5, -8⟩ 3).1 (.openFrom (-5)) rfl⟩

end Condition

end WireSchema.Version
