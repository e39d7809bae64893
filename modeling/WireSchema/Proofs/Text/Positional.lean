import Mathlib.Data.Nat.Digits.Lemmas
import WireSchema.Proofs.Text.Numeral

/-!
What a numeral denotes. The value of a digit is its place among the digits from `0` to `z`, where a capital
letter counts as the small one, and a numeral denotes the sum of its digits times powers of the radix. Reading
gives just the number that is denoted. What is written of a number is its canonical numeral: small letters, and
no zero in front.
-/

namespace WireSchema.Text.Numeral

/-! ## Digits -/

/-- The digits of the greatest radix in the order of their values. -/
def smallDigits : List Char :=
  ['0', '1', '2', '3', '4', '5', '6', '7', '8', '9', 'a', 'b', 'c', 'd', 'e', 'f', 'g', 'h', 'i', 'j', 'k', 'l',
    'm', 'n', 'o', 'p', 'q', 'r', 's', 't', 'u', 'v', 'w', 'x', 'y', 'z']

/-- The character is a digit of the radix, of value `d`. -/
def IsDigit (radix : Nat) (c : Char) (d : Nat) : Prop :=
  smallDigits.idxOf? c.toLower = some d ∧ d < radix

theorem digitValue?_ascii :
    ∀ k : Fin 128, digitValue? 36 (Char.ofNat k) = smallDigits.idxOf? (Char.ofNat k).toLower := by
  decide +kernel

theorem not_le_of_not_ascii {c b : Char} (hc : 128 ≤ c.toNat) (hb : b.toNat < 128) : ¬ c ≤ b := by
  intro h
  have hle : c.toNat ≤ b.toNat := UInt32.le_iff_toNat_le.mp h
  omega

theorem digitValue?_of_not_ascii {radix : Nat} {c : Char} (hc : 128 ≤ c.toNat) : digitValue? radix c = none := by
  have hnine : ¬ c ≤ '9' := not_le_of_not_ascii hc (by decide)
  have hsmall : ¬ c ≤ 'z' := not_le_of_not_ascii hc (by decide)
  have hcapital : ¬ c ≤ 'Z' := not_le_of_not_ascii hc (by decide)
  simp [digitValue?, hnine, hsmall, hcapital]

theorem idxOf?_of_not_ascii {c : Char} (hc : 128 ≤ c.toNat) : smallDigits.idxOf? c.toLower = none := by
  have hlower : c.toLower = c :=
    dif_neg fun hcapital => not_le_of_not_ascii hc (by decide : 'Z'.toNat < 128) hcapital.2
  have hascii : smallDigits.all (·.toNat < 128) = true := by decide
  rw [hlower, List.idxOf?_eq_none_iff]
  intro hmem
  have hlt := of_decide_eq_true (List.all_eq_true.mp hascii c hmem)
  omega

theorem digitValue?_eq_some_iff {radix : Nat} (hradix : radix ≤ 36) {c : Char} {d : Nat} :
    digitValue? radix c = some d ↔ IsDigit radix c d := by
  have hvalue : digitValue? 36 c = smallDigits.idxOf? c.toLower := by
    by_cases hc : c.toNat < 128
    · have htable := digitValue?_ascii ⟨c.toNat, hc⟩
      rwa [Char.ofNat_toNat] at htable
    · rw [digitValue?_of_not_ascii (by omega), idxOf?_of_not_ascii (by omega)]
  rw [IsDigit, ← hvalue]
  simp only [digitValue?, Option.filter_eq_some_iff, decide_eq_true_eq]
  constructor
  · rintro ⟨hplace, hd⟩
    exact ⟨⟨hplace, by omega⟩, hd⟩
  · rintro ⟨⟨hplace, -⟩, hd⟩
    exact ⟨hplace, hd⟩

/-! ## Numerals -/

/-- The digits, the most significant first, and the number that they denote. -/
def Denotes (radix : Nat) (cs : List Char) (n : Nat) : Prop :=
  cs ≠ [] ∧ ∃ ds, List.Forall₂ (IsDigit radix) cs ds ∧ n = Nat.ofDigits radix ds.reverse

/-- Each digit that is read moves what was read before by one place. -/
theorem valueFrom_eq_some_iff {radix : Nat} (hradix : radix ≤ 36) {acc n : Nat} {cs : List Char} :
    valueFrom radix acc cs = some n ↔
      ∃ ds, List.Forall₂ (IsDigit radix) cs ds ∧ n = acc * radix ^ ds.length + Nat.ofDigits radix ds.reverse := by
  induction cs generalizing acc with
  | nil => simp [valueFrom, eq_comm]
  | cons c cs ih =>
      have hmove (d : Nat) (ds : List Nat) :
          (acc * radix + d) * radix ^ ds.length + Nat.ofDigits radix ds.reverse =
            acc * radix ^ (d :: ds).length + Nat.ofDigits radix (d :: ds).reverse := by
        rw [Nat.ofDigits_reverse_cons, List.length_cons, pow_succ]
        ring
      rw [valueFrom, Option.bind_eq_some_iff]
      simp only [digitValue?_eq_some_iff hradix, ih, List.forall₂_cons_left_iff]
      constructor
      · rintro ⟨d, hd, ds, hds, rfl⟩
        exact ⟨d :: ds, ⟨d, ds, hd, hds, rfl⟩, hmove d ds⟩
      · rintro ⟨_, ⟨d, ds, hd, hds, rfl⟩, rfl⟩
        exact ⟨d, hd, ds, hds, (hmove d ds).symm⟩

theorem value?_eq_some_iff {radix : Nat} (hradix : radix ≤ 36) {cs : List Char} {n : Nat} :
    value? radix cs = some n ↔ Denotes radix cs n := by
  cases cs with
  | nil => simp [value?, Denotes]
  | cons c cs => simp [value?, Denotes, valueFrom_eq_some_iff hradix]

theorem Denotes.valueFrom_eq {radix n : Nat} (hradix : radix ≤ 36) {cs : List Char} (h : Denotes radix cs n) :
    valueFrom radix 0 cs = some n := by
  obtain ⟨-, ds, hds, rfl⟩ := h
  exact (valueFrom_eq_some_iff hradix).mpr ⟨ds, hds, by rw [Nat.zero_mul, Nat.zero_add]⟩

theorem Denotes.isDigit_of_mem {radix n : Nat} {c : Char} {cs : List Char} (h : Denotes radix cs n) (hc : c ∈ cs) :
    ∃ d, IsDigit radix c d := by
  obtain ⟨-, _, hds, -⟩ := h
  induction hds with
  | nil => cases hc
  | cons hd _ ih =>
      rcases List.mem_cons.mp hc with rfl | hc
      · exact ⟨_, hd⟩
      · exact ih hc

theorem Denotes.not_mem {radix n : Nat} (hradix : radix ≤ 36) {c : Char} {cs : List Char} (h : Denotes radix cs n)
    (hc : digitValue? radix c = none) : c ∉ cs := by
  intro hmem
  obtain ⟨d, hd⟩ := h.isDigit_of_mem hmem
  rw [(digitValue?_eq_some_iff hradix).mpr hd] at hc
  cases hc

/-! ## What is written -/

/-- The numeral of `n` in small letters, without a zero in front. -/
structure Canonical (radix n : Nat) (cs : List Char) : Prop where
  ne_nil : cs ≠ []
  first : cs.head? = some '0' → n = 0 ∧ cs = ['0']
  small : ∀ c ∈ cs, c ∈ smallDigits.take radix
  denotes : Denotes radix cs n

theorem digits_zero (radix : Nat) : digits radix 0 = ['0'] := by
  rw [digits, digitsWith, Nat.zero_mod]
  rfl

theorem digitsWith_eq {radix : Nat} (htwo : 2 ≤ radix) :
    ∀ fuel n, n ≠ 0 → n ≤ fuel → digitsWith radix fuel n = ((Nat.digits radix n).map digit).reverse := by
  intro fuel
  induction fuel with
  | zero =>
      intro n hn hle
      omega
  | succ fuel ih =>
      intro n hn hle
      rw [digitsWith, Nat.digits_def' htwo (Nat.pos_of_ne_zero hn)]
      split
      · rename_i hlt
        rw [Nat.div_eq_of_lt hlt, Nat.mod_eq_of_lt hlt, Nat.digits_zero]
        rfl
      · rename_i hge
        have hless : n / radix < n := Nat.div_lt_self (Nat.pos_of_ne_zero hn) htwo
        have hpos : 0 < n / radix := Nat.div_pos (Nat.le_of_not_lt hge) (by omega)
        rw [ih _ (by omega) (by omega), List.map_cons, List.reverse_cons]

theorem digits_eq {radix n : Nat} (htwo : 2 ≤ radix) (hn : n ≠ 0) :
    digits radix n = ((Nat.digits radix n).map digit).reverse :=
  digitsWith_eq htwo n n hn (Nat.le_refl n)

theorem smallDigits_digit : ∀ d : Fin 36, smallDigits[d.val]? = some (digit d) := by
  decide

theorem digit_eq_zero : ∀ d : Fin 36, digit d = '0' → d.val = 0 := by
  decide

theorem length_digits_le {radix n k : Nat} (htwo : 2 ≤ radix) (hk : 0 < k) (hn : n < radix ^ k) :
    (digits radix n).length ≤ k := by
  by_cases hzero : n = 0
  · rw [hzero, digits_zero]
    exact hk
  · rw [digits_eq htwo hzero, List.length_reverse, List.length_map]
    exact (Nat.digits_length_le_iff htwo n).mpr hn

/-- The first digit written is the last one that division gives, and that is not zero. -/
theorem head?_digits_ne_zero {radix n : Nat} (htwo : 2 ≤ radix) (hradix : radix ≤ 36) (hn : n ≠ 0) :
    (digits radix n).head? ≠ some '0' := by
  intro hfirst
  have hne : Nat.digits radix n ≠ [] := Nat.digits_ne_nil_iff_ne_zero.mpr hn
  have hlast := Nat.getLast_digit_ne_zero radix hn
  have hlt : (Nat.digits radix n).getLast hne < radix := Nat.digits_lt_base htwo (List.getLast_mem hne)
  rw [digits_eq htwo hn, List.head?_reverse, List.getLast?_map, List.getLast?_eq_getLast_of_ne_nil hne,
    Option.map_some, Option.some.injEq] at hfirst
  exact hlast (digit_eq_zero ⟨_, by omega⟩ hfirst)

theorem canonical_digits {radix : Nat} (htwo : 2 ≤ radix) (hradix : radix ≤ 36) (n : Nat) :
    Canonical radix n (digits radix n) where
  ne_nil := digits_ne_nil radix n
  first := by
    intro hfirst
    have hn : n = 0 := by
      by_contra hn
      exact head?_digits_ne_zero htwo hradix hn hfirst
    exact ⟨hn, hn ▸ digits_zero radix⟩
  small := by
    intro c hc
    obtain ⟨d, hd, rfl⟩ := mem_digitsWith (by omega) n n hc
    have hplace := smallDigits_digit ⟨d, by omega⟩
    rw [← List.getElem?_take_of_lt hd] at hplace
    exact List.mem_of_getElem? hplace
  denotes := (value?_eq_some_iff hradix).mp (value?_digits htwo hradix n)

end WireSchema.Text.Numeral
