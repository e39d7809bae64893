import WireSchema.Proofs.Text.Positional
import WireSchema.Proofs.Text.Utf8
import WireSchema.Schema.Default

/-!
Integer defaults. A default is read as an integer just when its text is a numeral, with or without a sign, in one
of the five forms of the grammar, and the integer that it denotes fits in the width that is asked for. The reading
can be made step by step in a machine, on bytes and with numbers of bounded width: no text is cut inside a
character, and no result leaves its type.
-/

namespace WireSchema.Schema.Default

open WireSchema.Text WireSchema.Text.Numeral

/-! ## Grammar -/

/-- The marks that may follow a zero, each with the radix of the digits after it. -/
def marks : List (Char × Nat) :=
  [('x', 16), ('X', 16), ('o', 8), ('O', 8), ('b', 2), ('B', 2)]

/-- An unsigned numeral and the number that it denotes. -/
inductive Unsigned : List Char → Nat → Prop
  | marked {mark : Char} {radix n : Nat} {ds : List Char} (hmark : (mark, radix) ∈ marks)
      (hds : Denotes radix ds n) : Unsigned ('0' :: mark :: ds) n
  | octal {n : Nat} {ds : List Char} (hds : Denotes 8 ds n) : Unsigned ('0' :: ds) n
  | zero : Unsigned ['0'] 0
  | decimal {n : Nat} {ds : List Char} (hfirst : ds.head? ≠ some '0') (hds : Denotes 10 ds n) : Unsigned ds n

/-- A numeral with or without a sign and the integer that it denotes. -/
inductive Signed : List Char → Int → Prop
  | bare {cs : List Char} {n : Nat} (hcs : Unsigned cs n) : Signed cs n
  | plus {cs : List Char} {n : Nat} (hcs : Unsigned cs n) : Signed ('+' :: cs) n
  | minus {cs : List Char} {n : Nat} (hcs : Unsigned cs n) : Signed ('-' :: cs) (-n)

/-! ## The radix -/

theorem splitRadix_marked {mark : Char} {radix : Nat} (hmark : (mark, radix) ∈ marks) (ds : List Char) :
    splitRadix ('0' :: mark :: ds) = (radix, ds) := by
  simp only [marks, List.mem_cons, Prod.mk.injEq, List.not_mem_nil, or_false] at hmark
  rcases hmark with ⟨rfl, rfl⟩ | ⟨rfl, rfl⟩ | ⟨rfl, rfl⟩ | ⟨rfl, rfl⟩ | ⟨rfl, rfl⟩ | ⟨rfl, rfl⟩ <;> rfl

theorem splitRadix_unmarked {d : Char} (hd : d ∉ marks.map Prod.fst) (ds : List Char) :
    splitRadix ('0' :: d :: ds) = (8, d :: ds) := by
  rw [splitRadix]
  all_goals
    rintro rfl
    exact hd (by decide)

theorem splitRadix_of_head? {cs : List Char} (h : cs.head? ≠ some '0') : splitRadix cs = (10, cs) := by
  cases cs with
  | nil => rfl
  | cons c cs =>
      have hc : c ≠ '0' := fun hc => h (congrArg some hc)
      simp [splitRadix, hc]

/-- How a text is split: the text, the radix and the digits. -/
inductive RadixForm : List Char → Nat → List Char → Prop
  | marked {mark : Char} {radix : Nat} (hmark : (mark, radix) ∈ marks) (ds : List Char) :
      RadixForm ('0' :: mark :: ds) radix ds
  | octal {d : Char} (hd : d ∉ marks.map Prod.fst) (ds : List Char) : RadixForm ('0' :: d :: ds) 8 (d :: ds)
  | zero : RadixForm ['0'] 10 ['0']
  | decimal {ds : List Char} (hfirst : ds.head? ≠ some '0') : RadixForm ds 10 ds

theorem radixForm_splitRadix (cs : List Char) : RadixForm cs (splitRadix cs).1 (splitRadix cs).2 := by
  by_cases hfirst : cs.head? = some '0'
  · obtain ⟨cs, rfl⟩ := List.head?_eq_some_iff.mp hfirst
    cases cs with
    | nil => exact .zero
    | cons d ds =>
        by_cases hd : d ∈ marks.map Prod.fst
        · obtain ⟨⟨mark, radix⟩, hmark, rfl⟩ := List.mem_map.mp hd
          rw [splitRadix_marked hmark]
          exact .marked hmark ds
        · rw [splitRadix_unmarked hd]
          exact .octal hd ds
  · rw [splitRadix_of_head? hfirst]
    exact .decimal hfirst

theorem RadixForm.radix_bounds {cs ds : List Char} {radix : Nat} (h : RadixForm cs radix ds) :
    0 < radix ∧ radix ≤ 36 := by
  cases h with
  | marked hmark _ =>
      have hmarks : ∀ mark ∈ marks, 0 < mark.2 ∧ mark.2 ≤ 36 := by decide
      exact hmarks _ hmark
  | octal _ _ => decide
  | zero => decide
  | decimal _ => decide

theorem RadixForm.unsigned {cs ds : List Char} {radix n : Nat} (h : RadixForm cs radix ds)
    (hds : Denotes radix ds n) : Unsigned cs n := by
  cases h with
  | marked hmark _ => exact .marked hmark hds
  | octal _ _ => exact .octal hds
  | zero =>
      have hn : value? 10 ['0'] = some n := (value?_eq_some_iff (by decide)).mpr hds
      cases hn
      exact .zero
  | decimal hfirst => exact .decimal hfirst hds

/-- A mark is no digit of the octal radix. -/
theorem not_mem_marks_of_isDigit {c : Char} {d : Nat} (h : IsDigit 8 c d) : c ∉ marks.map Prod.fst := by
  intro hmark
  obtain ⟨mark, hmem, rfl⟩ := List.mem_map.mp hmark
  have hvalue := (digitValue?_eq_some_iff (by decide)).mpr h
  have hnone : ∀ mark ∈ marks, digitValue? 8 mark.1 = none := by decide
  rw [hnone mark hmem] at hvalue
  cases hvalue

theorem Unsigned.splitRadix_eq {cs : List Char} {n : Nat} (h : Unsigned cs n) :
    ∃ radix ds, splitRadix cs = (radix, ds) ∧ Denotes radix ds n := by
  cases h with
  | marked hmark hds => exact ⟨_, _, splitRadix_marked hmark _, hds⟩
  | @octal _ ds hds =>
      cases ds with
      | nil => exact absurd rfl hds.1
      | cons d ds =>
          obtain ⟨_, hd⟩ := hds.isDigit_of_mem List.mem_cons_self
          exact ⟨_, _, splitRadix_unmarked (not_mem_marks_of_isDigit hd) ds, hds⟩
  | zero => exact ⟨10, ['0'], rfl, (value?_eq_some_iff (by decide)).mp rfl⟩
  | decimal hfirst hds => exact ⟨_, _, splitRadix_of_head? hfirst, hds⟩

theorem value?_splitRadix {cs : List Char} {n : Nat} :
    value? (splitRadix cs).1 (splitRadix cs).2 = some n ↔ Unsigned cs n := by
  have hform := radixForm_splitRadix cs
  rw [value?_eq_some_iff hform.radix_bounds.2]
  constructor
  · exact hform.unsigned
  · intro h
    obtain ⟨radix, ds, hsplit, hds⟩ := h.splitRadix_eq
    rw [hsplit]
    exact hds

/-! ## The sign -/

theorem splitSign_of_head? {cs : List Char} (hminus : cs.head? ≠ some '-') (hplus : cs.head? ≠ some '+') :
    splitSign cs = (false, cs) := by
  cases cs with
  | nil => rfl
  | cons c cs =>
      have hminus : c ≠ '-' := fun hc => hminus (congrArg some hc)
      have hplus : c ≠ '+' := fun hc => hplus (congrArg some hc)
      simp [splitSign, hminus, hplus]

theorem Unsigned.isDigit_of_cons {c : Char} {cs : List Char} {n : Nat} (h : Unsigned (c :: cs) n) :
    ∃ d, IsDigit 10 c d := by
  have hzero : ∃ d, IsDigit 10 '0' d := ⟨0, rfl, by decide⟩
  cases h with
  | marked _ _ => exact hzero
  | octal _ => exact hzero
  | zero => exact hzero
  | decimal _ hds => exact hds.isDigit_of_mem List.mem_cons_self

/-- A numeral begins with a digit, and a sign is none. -/
theorem Unsigned.splitSign_eq {cs : List Char} {n : Nat} (h : Unsigned cs n) : splitSign cs = (false, cs) := by
  have hfirst (sign : Char) (hsign : digitValue? 10 sign = none) : cs.head? ≠ some sign := by
    intro hhead
    obtain ⟨cs, rfl⟩ := List.head?_eq_some_iff.mp hhead
    obtain ⟨d, hd⟩ := h.isDigit_of_cons
    rw [(digitValue?_eq_some_iff (by decide)).mpr hd] at hsign
    cases hsign
  exact splitSign_of_head? (hfirst '-' (by decide)) (hfirst '+' (by decide))

theorem signed_iff {cs : List Char} {n : Int} :
    Signed cs n ↔ ∃ m : Nat, Unsigned (splitSign cs).2 m ∧ n = if (splitSign cs).1 then -(m : Int) else m := by
  constructor
  · intro h
    cases h with
    | @bare _ m hcs =>
        rw [hcs.splitSign_eq]
        exact ⟨m, hcs, rfl⟩
    | @plus _ m hcs => exact ⟨m, hcs, rfl⟩
    | @minus _ m hcs => exact ⟨m, hcs, rfl⟩
  · rintro ⟨m, hcs, rfl⟩
    revert hcs
    by_cases hminus : cs.head? = some '-'
    · obtain ⟨cs, rfl⟩ := List.head?_eq_some_iff.mp hminus
      exact .minus
    · by_cases hplus : cs.head? = some '+'
      · obtain ⟨cs, rfl⟩ := List.head?_eq_some_iff.mp hplus
        exact .plus
      · rw [splitSign_of_head? hminus hplus]
        exact .bare

/-! ## Reading -/

theorem fits_iff {bits : Nat} {n : Int} :
    fits bits n = true ↔ -2 ^ (clampBits bits - 1) ≤ n ∧ n ≤ 2 ^ (clampBits bits - 1) - 1 := by
  rw [fits, Bool.and_eq_true, decide_eq_true_eq, decide_eq_true_eq]
  rfl

/-- A text denotes one integer at most. -/
theorem parseInt?_of_signed {bits : Nat} {text : String} {n : Int} (h : Signed text.toList n) :
    parseInt? bits text = if fits bits n then some n else none := by
  obtain ⟨m, hm, rfl⟩ := signed_iff.mp h
  simp only [parseInt?, value?_splitRadix.mpr hm]

theorem signed_of_parseInt? {bits : Nat} {text : String} {n : Int} (h : parseInt? bits text = some n) :
    Signed text.toList n := by
  simp only [parseInt?] at h
  cases hvalue : value? (splitRadix (splitSign text.toList).2).1 (splitRadix (splitSign text.toList).2).2 with
  | none =>
      rw [hvalue] at h
      cases h
  | some m =>
      rw [hvalue] at h
      obtain ⟨-, hn⟩ := Option.ite_none_right_eq_some.mp h
      exact signed_iff.mpr ⟨m, value?_splitRadix.mp hvalue, (Option.some.inj hn).symm⟩

theorem parseInt?_eq_some_iff {bits : Nat} {text : String} {n : Int} :
    parseInt? bits text = some n ↔ Signed text.toList n ∧ fits bits n = true := by
  constructor
  · intro h
    have hsigned := signed_of_parseInt? h
    rw [parseInt?_of_signed hsigned, Option.ite_none_right_eq_some] at h
    exact ⟨hsigned, h.1⟩
  · rintro ⟨hsigned, hfits⟩
    rw [parseInt?_of_signed hsigned, if_pos hfits]

/-- The default is a number of the given text, or a string of it that does not stand for zero. -/
def Holds (d : Default) (t : String) : Prop :=
  d = .number t ∨ d = .string t ∧ t ≠ "null"

theorem Holds.toInt_eq {d : Default} {t : String} (h : d.Holds t) (bits : Nat) :
    d.toInt bits = match parseInt? bits t with
      | some n => .ok n
      | none => .error (.invalidDefault .integer t) := by
  rcases h with rfl | ⟨rfl, ht⟩
  · rfl
  · have hnumber : (string t).toInt bits = (number t).toInt bits := by simp [toInt]
    exact hnumber

theorem Holds.toInt_eq_ok {d : Default} {t : String} (h : d.Holds t) {bits : Nat} {n : Int} :
    d.toInt bits = .ok n ↔ parseInt? bits t = some n := by
  rw [h.toInt_eq]
  cases parseInt? bits t <;> simp

/-- An integer default is a number of the width. -/
theorem fits_of_toInt {d : Default} {bits : Nat} {n : Int} (h : d.toInt bits = .ok n) : fits bits n = true := by
  have hzero : fits bits 0 = true := by
    have hpow : (0 : Int) < 2 ^ (clampBits bits - 1) := Int.pow_pos (by decide)
    rw [fits_iff]
    omega
  have htext {t : String} (hd : d.Holds t) : fits bits n = true :=
    (parseInt?_eq_some_iff.mp (hd.toInt_eq_ok.mp h)).2
  cases d with
  | absent =>
      cases h
      exact hzero
  | boolean b => cases h
  | number t => exact htext (Or.inl rfl)
  | string t =>
      by_cases hnull : t = "null"
      · subst hnull
        cases h
        exact hzero
      · exact htext (Or.inr ⟨rfl, hnull⟩)

/-- A canonical decimal is read as the number of which it is the numeral. -/
theorem unsigned_of_canonical {n : Nat} {cs : List Char} (h : Canonical 10 n cs) : Unsigned cs n := by
  by_cases hfirst : cs.head? = some '0'
  · obtain ⟨rfl, rfl⟩ := h.first hfirst
    exact .zero
  · exact .decimal hfirst h.denotes

theorem signed_decimal (v : Int) : Signed (decimal v).toList v := by
  have hdigits : Unsigned (digits 10 v.natAbs) v.natAbs :=
    unsigned_of_canonical (canonical_digits (by decide) (by decide) v.natAbs)
  rw [decimal, toList_ofInt]
  split
  · rename_i hneg
    have hsigned := Signed.minus hdigits
    rwa [Int.ofNat_natAbs_of_nonpos (Int.le_of_lt hneg), Int.neg_neg] at hsigned
  · rename_i hpos
    have hsigned := Signed.bare hdigits
    rwa [Int.natAbs_of_nonneg (Int.not_lt.mp hpos)] at hsigned

theorem toInt_decimal (bits : Nat) (v : Int) :
    (number (decimal v)).toInt bits =
      if fits bits v then .ok v else .error (.invalidDefault .integer (decimal v)) := by
  rw [Holds.toInt_eq (Or.inl rfl), parseInt?_of_signed (signed_decimal v)]
  cases fits bits v <;> rfl

/-! ## Steps -/

namespace Stepwise

/-- Why a step cannot be made: a text is cut inside a character or behind its end, or a result is not a number of
its type. -/
inductive Fault where
  | cut
  | overflow
  deriving DecidableEq, Repr

def bytesOf (cs : List Char) : List UInt8 :=
  cs.flatMap String.utf8EncodeChar

/-- The text after its first `n` bytes. -/
def dropBytes : Nat → List Char → Except Fault (List Char)
  | 0, cs => .ok cs
  | _ + 1, [] => .error .cut
  | n + 1, c :: cs => if n + 1 < c.utf8Size then .error .cut else dropBytes (n + 1 - c.utf8Size) cs

/-- A sign is known by the first byte. -/
def splitSign (cs : List Char) : Except Fault (Bool × List Char) :=
  match (bytesOf cs).head? with
  | some 0x2D => (dropBytes 1 cs).map (true, ·)
  | some 0x2B => (dropBytes 1 cs).map (false, ·)
  | _ => .ok (false, cs)

/-- What follows a zero and the letter, small or capital. -/
def afterMark? (letter : Char) : List Char → Option (List Char)
  | '0' :: c :: cs => if c = letter ∨ c = letter.toUpper then some cs else none
  | _ => none

def splitRadix (cs : List Char) : Except Fault (Nat × List Char) :=
  match afterMark? 'x' cs, afterMark? 'o' cs, afterMark? 'b' cs with
  | some ds, _, _ => .ok (16, ds)
  | none, some ds, _ => .ok (8, ds)
  | none, none, some ds => .ok (2, ds)
  | none, none, none =>
    if 1 < (bytesOf cs).length ∧ cs.head? = some '0' then (dropBytes 1 cs).map (8, ·) else .ok (10, cs)

def isAlphanumeric (b : UInt8) : Bool :=
  0x30 ≤ b && b ≤ 0x39 || 0x41 ≤ b && b ≤ 0x5A || 0x61 ≤ b && b ≤ 0x7A

/-- Continues a numeral in unsigned words of 64 bits; there is no value if one of them runs over. -/
def wordFrom (radix : Nat) : Nat → List Char → Option Nat
  | acc, [] => some acc
  | acc, c :: cs =>
    (digitValue? radix c).bind fun d =>
      if acc * radix < 2 ^ 64 ∧ acc * radix + d < 2 ^ 64 then wordFrom radix (acc * radix + d) cs else none

/-- The reader of words takes a plus sign too. -/
def word? (radix : Nat) (cs : List Char) : Option Nat :=
  let ds := if cs.head? = some '+' then cs.tail else cs
  if ds.isEmpty then none else wordFrom radix 0 ds

/-- A result in a signed type of `width` bits. -/
def signed (width : Nat) (n : Int) : Except Fault Int :=
  if -2 ^ (width - 1) ≤ n ∧ n < 2 ^ (width - 1) then .ok n else .error .overflow

/-- The unsigned number before `n`. -/
def before : Nat → Except Fault Nat
  | 0 => .error .overflow
  | n + 1 => .ok n

def inRange (bits : Nat) (value : Int) : Except Fault Bool := do
  let places ← before (clampBits bits)
  let power ← signed 128 (2 ^ places)
  let least ← signed 128 (-power)
  let greatest ← signed 128 (power - 1)
  return least ≤ value && value ≤ greatest

/-- The integer of the given sign and magnitude, if it is in range. -/
def conclude (bits : Nat) (negative : Bool) (magnitude : Nat) : Except Fault (Option Int) := do
  let value ← signed 128 (if negative then -magnitude else magnitude)
  let within ← inRange bits value
  return if within then (signed 64 value).toOption else none

/-- The digits are tested before they are read, since the reader of words would take a sign. -/
def parseInt? (bits : Nat) (text : String) : Except Fault (Option Int) := do
  let signPart ← splitSign text.toList
  let radixPart ← splitRadix signPart.2
  if radixPart.2.isEmpty || !(bytesOf radixPart.2).all isAlphanumeric then return none
  match word? radixPart.1 radixPart.2 with
  | none => return none
  | some magnitude => conclude bits signPart.1 magnitude

theorem ok_bind {α β : Type} (a : α) (f : α → Except Fault β) : (Except.ok a >>= f) = f a := rfl

theorem bytesOf_cons (c : Char) (cs : List Char) : bytesOf (c :: cs) = String.utf8EncodeChar c ++ bytesOf cs :=
  List.flatMap_cons

theorem dropBytes_one {c : Char} (hc : c.toNat < 128) (cs : List Char) : dropBytes 1 (c :: cs) = .ok cs := by
  have hsize : c.utf8Size = 1 :=
    Char.utf8Size_eq_one_iff.mpr (UInt32.le_iff_toNat_le.mpr (Nat.le_of_lt_succ hc))
  simp [dropBytes, hsize]

theorem splitSign_eq (cs : List Char) : splitSign cs = .ok (Default.splitSign cs) := by
  have hminus : (bytesOf cs).head? = some 0x2D ↔ cs.head? = some '-' :=
    Utf8.head?_utf8EncodeChars (by decide : '-'.toNat < 128) cs
  have hplus : (bytesOf cs).head? = some 0x2B ↔ cs.head? = some '+' :=
    Utf8.head?_utf8EncodeChars (by decide : '+'.toNat < 128) cs
  rw [splitSign]
  split
  · rename_i hfirst
    obtain ⟨cs, rfl⟩ := List.head?_eq_some_iff.mp (hminus.mp hfirst)
    rw [dropBytes_one (by decide)]
    rfl
  · rename_i hfirst
    obtain ⟨cs, rfl⟩ := List.head?_eq_some_iff.mp (hplus.mp hfirst)
    rw [dropBytes_one (by decide)]
    rfl
  · rename_i hnot hnot'
    rw [splitSign_of_head? (fun h => hnot (hminus.mpr h)) fun h => hnot' (hplus.mpr h)]

theorem afterMark?_unmarked {d : Char} (hd : d ∉ marks.map Prod.fst) (ds : List Char) :
    ∀ letter ∈ ['x', 'o', 'b'], afterMark? letter ('0' :: d :: ds) = none := by
  intro letter hletter
  have hmarks : ['x', 'o', 'b'].all (fun letter =>
      letter ∈ marks.map Prod.fst ∧ letter.toUpper ∈ marks.map Prod.fst) = true := by decide
  obtain ⟨hsmall, hcapital⟩ := of_decide_eq_true (List.all_eq_true.mp hmarks letter hletter)
  rw [afterMark?, if_neg]
  rintro (rfl | rfl)
  · exact hd hsmall
  · exact hd hcapital

theorem afterMark?_of_head? {cs : List Char} (h : cs.head? ≠ some '0') (letter : Char) :
    afterMark? letter cs = none := by
  cases cs with
  | nil => rfl
  | cons c cs =>
      have hc : c ≠ '0' := fun hc => h (congrArg some hc)
      simp [afterMark?, hc]

theorem one_lt_length_bytesOf (c d : Char) (ds : List Char) : 1 < (bytesOf (c :: d :: ds)).length := by
  have hc := c.utf8Size_pos
  have hd := d.utf8Size_pos
  rw [bytesOf_cons, bytesOf_cons, List.length_append, List.length_append, String.length_utf8EncodeChar,
    String.length_utf8EncodeChar]
  omega

theorem splitRadix_eq (cs : List Char) : splitRadix cs = .ok (Default.splitRadix cs) := by
  have hform := radixForm_splitRadix cs
  generalize Default.splitRadix cs = form at hform ⊢
  obtain ⟨radix, ds⟩ := form
  cases hform with
  | marked hmark ds =>
      simp only [marks, List.mem_cons, Prod.mk.injEq, List.not_mem_nil, or_false] at hmark
      rcases hmark with ⟨rfl, rfl⟩ | ⟨rfl, rfl⟩ | ⟨rfl, rfl⟩ | ⟨rfl, rfl⟩ | ⟨rfl, rfl⟩ | ⟨rfl, rfl⟩ <;> rfl
  | @octal d hd ds =>
      have hnone := afterMark?_unmarked hd ds
      have hlong : 1 < (bytesOf ('0' :: d :: ds)).length ∧ ('0' :: d :: ds).head? = some '0' :=
        ⟨one_lt_length_bytesOf _ _ _, rfl⟩
      rw [splitRadix, hnone 'x' (by decide), hnone 'o' (by decide), hnone 'b' (by decide)]
      dsimp only
      rw [if_pos hlong, dropBytes_one (by decide)]
      rfl
  | zero => rfl
  | decimal hfirst =>
      have hnone := afterMark?_of_head? hfirst
      rw [splitRadix, hnone, hnone, hnone]
      exact if_neg fun h => hfirst h.2

theorem le_of_valueFrom {radix acc n : Nat} (hpos : 0 < radix) (hradix : radix ≤ 36) {cs : List Char}
    (h : valueFrom radix acc cs = some n) : acc ≤ n := by
  obtain ⟨ds, -, rfl⟩ := (valueFrom_eq_some_iff hradix).mp h
  have hpower : 0 < radix ^ ds.length := Nat.pow_pos hpos
  exact Nat.le_add_right_of_le (Nat.le_mul_of_pos_right acc hpower)

/-- Since a numeral only grows, it runs over at some digit just when the whole is too great. -/
theorem wordFrom_eq {radix acc : Nat} (hpos : 0 < radix) (hradix : radix ≤ 36) (hacc : acc < 2 ^ 64)
    (cs : List Char) : wordFrom radix acc cs = (valueFrom radix acc cs).filter (· < 2 ^ 64) := by
  induction cs generalizing acc with
  | nil => rw [wordFrom, valueFrom, Option.filter_some, if_pos (decide_eq_true hacc)]
  | cons c cs ih =>
      rw [wordFrom, valueFrom]
      cases digitValue? radix c with
      | none => rfl
      | some d =>
          rw [Option.bind_some, Option.bind_some]
          by_cases hnext : acc * radix + d < 2 ^ 64
          · rw [if_pos ⟨by omega, hnext⟩, ih hnext]
          · -- the numeral is at least as great as its digits up to here
            rw [if_neg fun h => hnext h.2, eq_comm, Option.filter_eq_none_iff]
            intro n hn hlt
            have hle := le_of_valueFrom hpos hradix hn
            exact hnext (Nat.lt_of_le_of_lt hle (of_decide_eq_true hlt))

theorem word?_eq {radix : Nat} (hpos : 0 < radix) (hradix : radix ≤ 36) {cs : List Char} (hne : cs ≠ [])
    (hplus : cs.head? ≠ some '+') : word? radix cs = (value? radix cs).filter (· < 2 ^ 64) := by
  cases cs with
  | nil => exact absurd rfl hne
  | cons c cs =>
      rw [word?, if_neg hplus]
      exact wordFrom_eq hpos hradix (by decide) (c :: cs)

theorem isAlphanumeric_ascii : ∀ k : Fin 128, (smallDigits.idxOf? (Char.ofNat k).toLower).isSome = true →
    isAlphanumeric (UInt8.ofNat k) = true := by
  decide +kernel

theorem isAlphanumeric_of_isDigit {radix d : Nat} {c : Char} (h : IsDigit radix c d) :
    (String.utf8EncodeChar c).all isAlphanumeric = true := by
  by_cases hc : c.toNat < 128
  · have htable := isAlphanumeric_ascii ⟨c.toNat, hc⟩
    rw [Char.ofNat_toNat, h.1] at htable
    rw [Utf8.utf8EncodeChar_of_ascii hc, List.all_cons, htable rfl]
    rfl
  · have hplace := h.1
    rw [idxOf?_of_not_ascii (Nat.le_of_not_lt hc)] at hplace
    cases hplace

theorem all_isAlphanumeric_of_denotes {radix n : Nat} {cs : List Char} (h : Denotes radix cs n) :
    (bytesOf cs).all isAlphanumeric = true := by
  rw [bytesOf, List.all_flatMap, List.all_eq_true]
  intro c hc
  obtain ⟨_, hd⟩ := h.isDigit_of_mem hc
  exact isAlphanumeric_of_isDigit hd

theorem head?_ne_plus {cs : List Char} (h : (bytesOf cs).all isAlphanumeric = true) : cs.head? ≠ some '+' := by
  intro hplus
  obtain ⟨cs, rfl⟩ := List.head?_eq_some_iff.mp hplus
  rw [bytesOf_cons, List.all_append, Bool.and_eq_true] at h
  exact absurd h.1 (by decide)

theorem signed_eq {width : Nat} {n : Int} (h : -2 ^ (width - 1) ≤ n ∧ n < 2 ^ (width - 1)) :
    signed width n = .ok n :=
  if_pos h

theorem clampBits_bounds (bits : Nat) : 1 ≤ clampBits bits ∧ clampBits bits ≤ 64 := by
  rw [clampBits]
  omega

theorem inRange_eq (bits : Nat) (value : Int) : inRange bits value = .ok (fits bits value) := by
  obtain ⟨hone, hmost⟩ := clampBits_bounds bits
  obtain ⟨places, hplaces⟩ : ∃ places, clampBits bits = places + 1 := ⟨clampBits bits - 1, by omega⟩
  have hpos : (1 : Int) ≤ 2 ^ places := one_le_pow₀ (by decide)
  have hle : (2 : Int) ^ places ≤ 2 ^ 63 := pow_le_pow_right₀ (by decide) (by omega)
  have hpower : signed 128 (2 ^ places) = .ok (2 ^ places) := signed_eq (by omega)
  have hleast : signed 128 (-2 ^ places) = .ok (-2 ^ places) := signed_eq (by omega)
  have hgreatest : signed 128 (2 ^ places - 1) = .ok (2 ^ places - 1) := signed_eq (by omega)
  rw [inRange, hplaces, before, ok_bind, hpower, ok_bind, hleast, ok_bind, hgreatest, ok_bind, fits, hplaces]
  rfl

theorem bounds_of_fits {bits : Nat} {n : Int} (h : fits bits n = true) : -2 ^ 63 ≤ n ∧ n < 2 ^ 63 := by
  have hmost := (clampBits_bounds bits).2
  have hle : (2 : Int) ^ (clampBits bits - 1) ≤ 2 ^ 63 := pow_le_pow_right₀ (by decide) (by omega)
  obtain ⟨hleast, hgreatest⟩ := fits_iff.mp h
  omega

theorem conclude_eq {bits magnitude : Nat} (hmagnitude : magnitude < 2 ^ 64) {negative : Bool} {value : Int}
    (hvalue : value = if negative then -(magnitude : Int) else magnitude) :
    conclude bits negative magnitude = .ok (if fits bits value then some value else none) := by
  have hsize : -2 ^ 64 < value ∧ value < 2 ^ 64 := by
    cases negative <;> simp at hvalue <;> omega
  have hsigned : signed 128 value = .ok value := signed_eq (by omega)
  rw [conclude, ← hvalue, hsigned, ok_bind, inRange_eq, ok_bind]
  cases hfits : fits bits value with
  | false => rfl
  | true =>
      rw [signed_eq (bounds_of_fits hfits)]
      rfl

/-- No step fails, and the outcome is that of the reading of characters. -/
theorem parseInt?_eq (bits : Nat) (text : String) : parseInt? bits text = .ok (Default.parseInt? bits text) := by
  obtain ⟨hpos, hradix⟩ := (radixForm_splitRadix (Default.splitSign text.toList).2).radix_bounds
  rw [parseInt?, splitSign_eq, ok_bind, splitRadix_eq, ok_bind, Default.parseInt?]
  dsimp only
  generalize (Default.splitSign text.toList).1 = negative
  generalize Default.splitRadix (Default.splitSign text.toList).2 = form at hpos hradix ⊢
  by_cases htest : (form.2.isEmpty || !(bytesOf form.2).all isAlphanumeric) = true
  · -- the test turns down no numeral
    have hnone : value? form.1 form.2 = none := by
      rw [Option.eq_none_iff_forall_ne_some]
      intro n hn
      have hdenotes := (value?_eq_some_iff hradix).mp hn
      rw [all_isAlphanumeric_of_denotes hdenotes] at htest
      simp [hdenotes.1] at htest
    rw [if_pos htest, hnone]
    rfl
  · rw [if_neg htest]
    simp only [Bool.or_eq_true, List.isEmpty_iff, Bool.not_eq_true', not_or, Bool.not_eq_false] at htest
    rw [word?_eq hpos hradix htest.1 (head?_ne_plus htest.2)]
    cases value? form.1 form.2 with
    | none => rfl
    | some magnitude =>
        by_cases hword : magnitude < 2 ^ 64
        · rw [Option.filter_some, if_pos (decide_eq_true hword)]
          exact conclude_eq hword rfl
        · -- a magnitude that no word holds fits in no width
          have hfits : fits bits (if negative then -(magnitude : Int) else magnitude) = false := by
            rw [Bool.eq_false_iff]
            intro hfits
            have hbounds := bounds_of_fits hfits
            cases negative <;> simp at hbounds <;> omega
          rw [Option.filter_some, if_neg fun h => hword (of_decide_eq_true h)]
          dsimp only
          rw [hfits]
          rfl

end Stepwise

/-! ## Integer defaults -/

/-- A number or a string with the text `t`, other than the string that stands for zero, is read as `n` just when
`t` is a numeral of the grammar that denotes `n` and `n` is a signed number of the width, which is taken between 1
and 64. In every other case the error carries the text. Read step by step, with bounded numbers and texts cut at
byte positions, no step fails. -/
theorem toInt_exact {d : Default} {t : String} (hd : d.Holds t) (bits : Nat) :
    (∀ n, d.toInt bits = .ok n ↔
      Signed t.toList n ∧ -2 ^ (clampBits bits - 1) ≤ n ∧ n ≤ 2 ^ (clampBits bits - 1) - 1) ∧
    ((¬∃ n, Signed t.toList n ∧ -2 ^ (clampBits bits - 1) ≤ n ∧ n ≤ 2 ^ (clampBits bits - 1) - 1) →
      d.toInt bits = .error (.invalidDefault .integer t)) ∧
    Stepwise.parseInt? bits t = .ok (d.toInt bits).toOption := by
  have hok (n : Int) : d.toInt bits = .ok n ↔
      Signed t.toList n ∧ -2 ^ (clampBits bits - 1) ≤ n ∧ n ≤ 2 ^ (clampBits bits - 1) - 1 := by
    rw [hd.toInt_eq_ok, parseInt?_eq_some_iff, fits_iff]
  refine ⟨hok, fun hnot => ?_, ?_⟩
  · cases hparse : parseInt? bits t with
    | none => rw [hd.toInt_eq, hparse]
    | some n => exact absurd ⟨n, (hok n).mp (hd.toInt_eq_ok.mpr hparse)⟩ hnot
  · rw [Stepwise.parseInt?_eq, hd.toInt_eq]
    cases parseInt? bits t <;> rfl

/-- The least signed byte, in hexadecimal. -/
theorem toInt_exact_least_byte :
    Holds (.string "-0x80") "-0x80" ∧ (string "-0x80").toInt 8 = .ok (-128) ∧
      Stepwise.parseInt? 8 "-0x80" = .ok (some (-128)) := by
  have hd : Holds (.string "-0x80") "-0x80" := Or.inr ⟨rfl, by decide⟩
  obtain ⟨hok, -, hsteps⟩ := toInt_exact hd 8
  have hdigits : Denotes 16 ['8', '0'] 128 := (value?_eq_some_iff (by decide)).mp (by decide)
  have hint := (hok (-128)).mpr ⟨.minus (.marked (by decide : ('x', 16) ∈ marks) hdigits), by decide⟩
  rw [hint] at hsteps
  exact ⟨hd, hint, hsteps⟩

end WireSchema.Schema.Default
