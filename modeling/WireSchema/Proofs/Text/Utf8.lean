import WireSchema.Text.Utf8

/-!
Strict UTF-8. Writing a string and reading its bytes undo each other: the bytes of a string read as that
string, and bytes that read as a string are the bytes of that string. The bytes of a string are those of its
characters, and the first of them is that of an ASCII character only if the first character is this one.
-/

namespace WireSchema.Text.Utf8

theorem decode?_encode (s : String) : decode? (encode s) = some s := by
  rw [decode?, encode, Array.toArray_toList]
  exact dif_pos s.isValidUTF8

theorem encode_inj {s t : String} (h : encode s = encode t) : s = t := by
  have hdecode := congrArg decode? h
  rwa [decode?_encode, decode?_encode, Option.some.injEq] at hdecode

theorem encode_of_decode? {bytes : List UInt8} {s : String} (h : decode? bytes = some s) :
    encode s = bytes := by
  rw [decode?, String.fromUTF8?] at h
  split at h
  · rw [← Option.some.inj h]
    rfl
  · exact absurd h (by simp)

theorem encode_eq_flatMap (s : String) : encode s = s.toList.flatMap String.utf8EncodeChar := by
  have hbytes : s.toUTF8 = s.toList.utf8Encode := String.utf8Encode_toList.symm
  rw [encode, hbytes, List.utf8Encode, List.data_toByteArray]

theorem utf8EncodeChar_of_ascii {c : Char} (hc : c.toNat < 128) :
    String.utf8EncodeChar c = [UInt8.ofNat c.toNat] := by
  have hle : c.val.toNat ≤ 127 := Nat.le_of_lt_succ hc
  simp only [String.utf8EncodeChar]
  rw [if_pos hle]
  rfl

theorem utf8EncodeChar_of_not_ascii {c : Char} (hc : 128 ≤ c.toNat) :
    ∃ b rest, String.utf8EncodeChar c = b :: rest ∧ 128 ≤ b.toNat := by
  have hnot : ¬ c.val.toNat ≤ 127 := Nat.not_le_of_lt hc
  simp only [String.utf8EncodeChar]
  rw [if_neg hnot]
  split
  · refine ⟨_, _, rfl, ?_⟩
    rw [UInt8.toNat_ofNat']
    omega
  · split
    · refine ⟨_, _, rfl, ?_⟩
      rw [UInt8.toNat_ofNat']
      omega
    · refine ⟨_, _, rfl, ?_⟩
      rw [UInt8.toNat_ofNat']
      omega

/-- The byte of an ASCII character stands first only where that character does. -/
theorem head?_utf8EncodeChars {a : Char} (ha : a.toNat < 128) (cs : List Char) :
    (cs.flatMap String.utf8EncodeChar).head? = some (UInt8.ofNat a.toNat) ↔ cs.head? = some a := by
  cases cs with
  | nil => simp
  | cons c cs =>
      rw [List.flatMap_cons, List.head?_cons, Option.some.injEq]
      by_cases hc : c.toNat < 128
      · rw [utf8EncodeChar_of_ascii hc, List.singleton_append, List.head?_cons, Option.some.injEq]
        constructor
        · intro hbyte
          have hcode := congrArg UInt8.toNat hbyte
          rw [UInt8.toNat_ofNat', UInt8.toNat_ofNat', Nat.mod_eq_of_lt (by omega), Nat.mod_eq_of_lt (by omega)] at hcode
          exact Char.toNat_inj.mp hcode
        · rintro rfl
          rfl
      · obtain ⟨b, rest, hchar, hb⟩ := utf8EncodeChar_of_not_ascii (Nat.le_of_not_lt hc)
        rw [hchar, List.cons_append, List.head?_cons, Option.some.injEq]
        constructor
        · rintro rfl
          rw [UInt8.toNat_ofNat'] at hb
          omega
        · rintro rfl
          exact absurd ha hc

/-- The byte of a small ASCII letter. -/
def IsSmallLetter (b : UInt8) : Prop :=
  0x61 ≤ b ∧ b ≤ 0x7A

instance (b : UInt8) : Decidable (IsSmallLetter b) :=
  inferInstanceAs (Decidable (_ ∧ _))

theorem isSmallLetter_ofNat {n : Nat} (hn : n < 256) (h : IsSmallLetter (UInt8.ofNat n)) :
    0x61 ≤ n ∧ n ≤ 0x7A := by
  have hlow := UInt8.le_iff_toNat_le.mp h.1
  have hhigh := UInt8.le_iff_toNat_le.mp h.2
  rw [UInt8.toNat_ofNat_of_lt' hn] at hlow hhigh
  exact ⟨hlow, hhigh⟩

/-- Beyond ASCII the first byte of a character is above all letters. -/
theorem utf8EncodeChar_first (c : Char) :
    ∃ b rest, String.utf8EncodeChar c = b :: rest ∧ (IsSmallLetter b → c.isLower = true) := by
  by_cases hc : c.toNat < 128
  · refine ⟨_, _, utf8EncodeChar_of_ascii hc, fun h => ?_⟩
    obtain ⟨hlow, hhigh⟩ := isSmallLetter_ofNat (by omega) h
    have ha : 'a'.val ≤ c.val := UInt32.le_iff_toNat_le.mpr hlow
    have hz : c.val ≤ 'z'.val := UInt32.le_iff_toNat_le.mpr hhigh
    show (decide (c.val ≥ 'a'.val) && decide (c.val ≤ 'z'.val)) = true
    rw [decide_eq_true ha, decide_eq_true hz, Bool.and_self]
  · obtain ⟨b, rest, hchar, hb⟩ := utf8EncodeChar_of_not_ascii (Nat.le_of_not_lt hc)
    refine ⟨b, rest, hchar, fun h => ?_⟩
    have hhigh : b.toNat ≤ 0x7A := UInt8.le_iff_toNat_le.mp h.2
    omega

theorem encode_first {s : String} {c : Char} {cs : List Char} (h : s.toList = c :: cs) :
    ∃ b rest, encode s = b :: rest ∧ (IsSmallLetter b → c.isLower = true) := by
  obtain ⟨b, rest, hchar, hsmall⟩ := utf8EncodeChar_first c
  refine ⟨b, rest ++ cs.flatMap String.utf8EncodeChar, ?_, hsmall⟩
  rw [encode_eq_flatMap, h, List.flatMap_cons, hchar, List.cons_append]

end WireSchema.Text.Utf8
