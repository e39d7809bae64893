import WireSchema.Text.Numeral

/-!
Numerals read back. Reading the digits of a number in the radix in which they were written gives the number,
and a sign in front of them gives the integer.
-/

namespace WireSchema.Text.Numeral

theorem digitValue?_digit {radix d : Nat} (hradix : radix ≤ 36) (hd : d < radix) :
    digitValue? radix (digit d) = some d := by
  have htable : ∀ d : Fin 36, digitValue? 36 (digit d) = some d.val := by decide
  have hvalue := htable ⟨d, by omega⟩
  simp only [digitValue?, Option.filter_eq_some_iff] at hvalue ⊢
  exact ⟨hvalue.1, decide_eq_true hd⟩

theorem valueFrom_append (radix acc : Nat) (xs ys : List Char) :
    valueFrom radix acc (xs ++ ys) = (valueFrom radix acc xs).bind (valueFrom radix · ys) := by
  induction xs generalizing acc with
  | nil => rfl
  | cons c xs ih =>
      rw [List.cons_append, valueFrom, valueFrom]
      cases digitValue? radix c with
      | none => rfl
      | some d => exact ih _

theorem valueFrom_digit {radix d : Nat} (hradix : radix ≤ 36) (hd : d < radix) (acc : Nat) :
    valueFrom radix acc [digit d] = some (acc * radix + d) := by
  rw [valueFrom, digitValue?_digit hradix hd]
  rfl

/-- The fuel is enough when it is at least the number, since each digit makes the number smaller. -/
theorem valueFrom_digitsWith {radix : Nat} (htwo : 2 ≤ radix) (hradix : radix ≤ 36) :
    ∀ fuel n, n ≤ fuel → valueFrom radix 0 (digitsWith radix fuel n) = some n := by
  intro fuel
  induction fuel with
  | zero =>
      intro n hn
      obtain rfl : n = 0 := by omega
      rw [digitsWith, Nat.zero_mod, valueFrom_digit hradix (by omega), Nat.zero_mul]
  | succ fuel ih =>
      intro n hn
      rw [digitsWith]
      split
      · rename_i hlt
        rw [valueFrom_digit hradix hlt, Nat.zero_mul, Nat.zero_add]
      · rename_i hge
        have hpos : 0 < radix := by omega
        have hless : n / radix < n := Nat.div_lt_self (by omega) htwo
        rw [valueFrom_append, ih (n / radix) (by omega), Option.bind_some,
          valueFrom_digit hradix (Nat.mod_lt n hpos), Nat.div_add_mod']

theorem toList_ofInt (radix : Nat) (n : Int) :
    (ofInt radix n).toList = if n < 0 then '-' :: digits radix n.natAbs else digits radix n.natAbs := by
  rw [ofInt, ofNat]
  split <;> rw [String.toList_ofList]

theorem digits_ne_nil (radix n : Nat) : digits radix n ≠ [] := by
  rw [digits]
  cases n with
  | zero => exact List.cons_ne_nil _ _
  | succ n =>
      rw [digitsWith]
      split
      · exact List.cons_ne_nil _ _
      · exact List.append_ne_nil_of_right_ne_nil _ (List.cons_ne_nil _ _)

theorem value?_digits {radix : Nat} (htwo : 2 ≤ radix) (hradix : radix ≤ 36) (n : Nat) :
    value? radix (digits radix n) = some n := by
  rw [← valueFrom_digitsWith htwo hradix n n (Nat.le_refl n), ← digits]
  cases h : digits radix n with
  | nil => exact absurd h (digits_ne_nil radix n)
  | cons c cs => rfl

theorem mem_digitsWith {radix : Nat} (hpos : 0 < radix) {c : Char} :
    ∀ fuel n, c ∈ digitsWith radix fuel n → ∃ d, d < radix ∧ c = digit d := by
  intro fuel
  induction fuel with
  | zero =>
      intro n hc
      exact ⟨n % radix, Nat.mod_lt n hpos, List.mem_singleton.mp hc⟩
  | succ fuel ih =>
      intro n hc
      rw [digitsWith] at hc
      split at hc
      · rename_i hlt
        exact ⟨n, hlt, List.mem_singleton.mp hc⟩
      · rcases List.mem_append.mp hc with hfront | hlast
        · exact ih _ hfront
        · exact ⟨n % radix, Nat.mod_lt n hpos, List.mem_singleton.mp hlast⟩

theorem isDigit_of_mem_digits {n : Nat} {c : Char} (h : c ∈ digits 10 n) : c.isDigit := by
  obtain ⟨d, hd, rfl⟩ := mem_digitsWith (by decide) n n h
  have htable : ∀ d : Fin 10, (digit d).isDigit := by decide
  exact htable ⟨d, hd⟩

end WireSchema.Text.Numeral
