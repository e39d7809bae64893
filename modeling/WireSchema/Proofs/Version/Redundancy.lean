import WireSchema.Proofs.Version.Condition
import WireSchema.Proofs.Version.Range

/-!
Bounds that a parent makes needless. A test leaves out the bounds that the parent shares, and no others: where the
range begins before its parent or ends after it, the parent settles the bound too, but the bound is tested. The same
holds of an upper bound at the greatest version under an open parent, and of every bound under an empty one.
-/

namespace WireSchema.Version

namespace Range

/-- No version of the range is below the bound. -/
def EnsuresMin (p : Range) (bound : Int16) : Prop :=
  ∀ v, p.contains v = true → bound ≤ v

/-- No version of the range is above the bound. -/
def EnsuresMax (p : Range) (bound : Int16) : Prop :=
  ∀ v, p.contains v = true → v ≤ bound

def greatest : Int16 := 32767

theorem le_greatest (v : Int16) : v ≤ greatest := by
  rw [Int16.le_iff_toInt_le]
  exact Int16.toInt_le v

theorem contains_of_isEmpty {p : Range} (hp : p.isEmpty = true) (v : Int16) : p.contains v = false := by
  rw [contains, hp]
  rfl

namespace WellFormed

variable {p : Range} (hp : p.WellFormed)
include hp

theorem min_le_max (hempty : p.isEmpty = false) (hopen : p.isOpen = false) : p.min ≤ p.max := by
  rcases hp with rfl | ⟨-, hmax | hle⟩
  · cases hempty
  · exact absurd hmax (max_ne_noVersion hempty hopen)
  · exact hle

theorem max_eq_noVersion (h : p.isEmpty = true ∨ p.isOpen = true) : p.max = noVersion := by
  rcases h with hempty | hopen
  · rcases hp with rfl | ⟨hmin, -⟩
    · rfl
    · rw [isEmpty, beq_iff_eq] at hempty
      rw [hempty] at hmin
      exact absurd hmin (by decide)
  · rw [isOpen, Bool.and_eq_true, beq_iff_eq] at hopen
    exact hopen.2

theorem contains_min (hempty : p.isEmpty = false) : p.contains p.min = true := by
  rw [contains_iff]
  refine ⟨hempty, Int16.le_refl _, ?_⟩
  cases hopen : p.isOpen with
  | true => exact Or.inl rfl
  | false => exact Or.inr (hp.min_le_max hempty hopen)

theorem ensuresMin_iff {bound : Int16} : p.EnsuresMin bound ↔ p.isEmpty = true ∨ bound ≤ p.min := by
  cases hempty : p.isEmpty with
  | true => simp [EnsuresMin, contains_of_isEmpty hempty]
  | false =>
      simp only [Bool.false_eq_true, false_or]
      constructor
      · intro h
        exact h _ (hp.contains_min hempty)
      · intro hle v hv
        exact Int16.le_trans hle (contains_iff.mp hv).2.1

theorem ensuresMax_iff {bound : Int16} :
    p.EnsuresMax bound ↔ p.isEmpty = true ∨ if p.isOpen then bound = greatest else p.max ≤ bound := by
  cases hempty : p.isEmpty with
  | true => simp [EnsuresMax, contains_of_isEmpty hempty]
  | false =>
      simp only [Bool.false_eq_true, false_or]
      cases hopen : p.isOpen with
      | true =>
          have hcontains : p.contains greatest = true :=
            contains_iff.mpr ⟨hempty, le_greatest _, Or.inl hopen⟩
          rw [if_pos rfl]
          constructor
          · intro h
            exact Int16.le_antisymm (le_greatest _) (h _ hcontains)
          · rintro rfl v -
            exact le_greatest v
      | false =>
          have hcontains : p.contains p.max = true :=
            contains_iff.mpr ⟨hempty, hp.min_le_max hempty hopen, Or.inr (Int16.le_refl _)⟩
          rw [if_neg Bool.false_ne_true]
          constructor
          · intro h
            exact h _ hcontains
          · intro hle v hv
            rcases (contains_iff.mp hv).2.2 with hv | hv
            · rw [hopen] at hv
              cases hv
            · exact Int16.le_trans hv hle

end WellFormed

end Range

namespace Condition

/-- The test has a lower bound. -/
def testsMin : Condition → Bool
  | .atLeast _ | .between _ _ => true
  | .always | .never | .atMost _ => false

/-- The test has an upper bound. -/
def testsMax : Condition → Bool
  | .atMost _ | .between _ _ => true
  | .always | .never | .atLeast _ => false

/-- The test has no bound of the range that every version of the parent meets. -/
def Least (c : Condition) (r p : Range) : Prop :=
  (p.EnsuresMin r.min → c.testsMin = false) ∧ (r.isOpen = true ∨ p.EnsuresMax r.max → c.testsMax = false)

section Within

variable {r p : Range} (hr : r.isEmpty = false)
include hr

theorem testsMin_within (p : Range) : (within (some r) (some p)).testsMin = false ↔ r.min = p.min := by
  by_cases hmin : r.min = p.min <;> by_cases hmax : r.isOpen = true ∨ r.max = p.max <;>
    simp [within, testsMin, hr, hmin, hmax]

theorem testsMax_within (p : Range) :
    (within (some r) (some p)).testsMax = false ↔ r.isOpen = true ∨ r.max = p.max := by
  by_cases hmin : r.min = p.min <;> by_cases hmax : r.isOpen = true ∨ r.max = p.max <;>
    simp [within, testsMax, hr, hmin, hmax]

variable (hp : p.WellFormed)
include hp

theorem least_min_iff :
    (p.EnsuresMin r.min → (within (some r) (some p)).testsMin = false) ↔ p.isEmpty = false ∧ p.min ≤ r.min := by
  rw [testsMin_within hr, hp.ensuresMin_iff]
  cases hempty : p.isEmpty with
  | true =>
      have hne : r.min ≠ p.min := by
        rw [Range.isEmpty, beq_iff_eq] at hempty
        rw [Range.isEmpty, beq_eq_false_iff_ne] at hr
        rwa [hempty]
      simp [hne]
  | false =>
      simp only [Bool.false_eq_true, false_or, true_and]
      constructor
      · intro h
        rcases Int16.le_total p.min r.min with hle | hle
        · exact hle
        · exact Int16.le_of_eq (h hle).symm
      · intro hle hge
        exact Int16.le_antisymm hge hle

theorem least_max_iff :
    (r.isOpen = true ∨ p.EnsuresMax r.max → (within (some r) (some p)).testsMax = false) ↔
      r.isOpen = true ∨ p.isEmpty = false ∧ if p.isOpen then r.max ≠ Range.greatest else r.max ≤ p.max := by
  rw [testsMax_within hr, hp.ensuresMax_iff]
  cases hopen : r.isOpen with
  | true => simp
  | false =>
      have hne (h : p.isEmpty = true ∨ p.isOpen = true) : r.max ≠ p.max :=
        hp.max_eq_noVersion h ▸ Range.max_ne_noVersion hr hopen
      simp only [Bool.false_eq_true, false_or]
      cases hempty : p.isEmpty with
      | true => simp [hne (Or.inl hempty)]
      | false =>
          cases hpopen : p.isOpen with
          | true => simp [hne (Or.inr hpopen)]
          | false =>
              simp only [Bool.false_eq_true, false_or, true_and, if_false]
              constructor
              · intro h
                rcases Int16.le_total r.max p.max with hle | hle
                · exact hle
                · exact Int16.le_of_eq (h hle)
              · intro hle hge
                exact Int16.le_antisymm hle hge

end Within

/-- The test of a range has no needless bound just when the range does not begin before its parent or end after it.
Under an open parent it may not end at the greatest version, and an empty parent makes every bound needless. -/
theorem within_least_iff {text : String} {r p : Range} (hr : r.isEmpty = false) (hp : Range.parse text = .ok p) :
    (within (some r) (some p)).Least r p ↔
      p.isEmpty = false ∧ p.min ≤ r.min ∧
        (r.isOpen = true ∨ if p.isOpen then r.max ≠ Range.greatest else r.max ≤ p.max) := by
  have hwell := Range.wellFormed_of_parse hp
  rw [Least, least_min_iff hr hwell, least_max_iff hr hwell]
  cases p.isEmpty <;> simp

/-- Under an open parent the upper bound before the greatest version is not needless. -/
theorem within_least_openParent :
    Range.parse "0+" = .ok ⟨0, -1⟩ ∧ within (some ⟨2, 32766⟩) (some ⟨0, -1⟩) = .between 2 32766 ∧
      (within (some ⟨2, 32766⟩) (some ⟨0, -1⟩)).Least ⟨2, 32766⟩ ⟨0, -1⟩ := by
  have hparent : Range.parse "0+" = .ok ⟨0, -1⟩ := rfl
  exact ⟨hparent, rfl, (within_least_iff (by decide) hparent).mpr (by decide)⟩

/-- A range that begins before its parent and ends after it: the parent ensures both bounds, and both are tested. -/
theorem within_keeps_wider :
    Range.parse "0-20" = .ok ⟨0, 20⟩ ∧ Range.parse "4-17" = .ok ⟨4, 17⟩ ∧
      Range.EnsuresMin ⟨4, 17⟩ 0 ∧ Range.EnsuresMax ⟨4, 17⟩ 20 ∧
      within (some ⟨0, 20⟩) (some ⟨4, 17⟩) = .between 0 20 ∧
      ¬(within (some ⟨0, 20⟩) (some ⟨4, 17⟩)).Least ⟨0, 20⟩ ⟨4, 17⟩ := by
  have hparent : Range.parse "4-17" = .ok ⟨4, 17⟩ := rfl
  have hwell := Range.wellFormed_of_parse hparent
  have hmin : Range.EnsuresMin ⟨4, 17⟩ 0 := hwell.ensuresMin_iff.mpr (by decide)
  have hmax : Range.EnsuresMax ⟨4, 17⟩ 20 := hwell.ensuresMax_iff.mpr (by decide)
  refine ⟨rfl, hparent, hmin, hmax, rfl, fun hleast => ?_⟩
  cases hleast.1 hmin

end Condition

end WireSchema.Version
