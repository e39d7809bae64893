import WireSchema.Proofs.Schema.Integer
import WireSchema.Proofs.Source.Sheet

/-!
Numbers on a sheet. A number is written by its canonical numeral, an integer by its sign and the numeral of its
absolute value, and the decimal text of an integer is a default of every width into which the integer fits.
-/

namespace WireSchema.Source

open WireSchema.Text WireSchema.Schema

section Radix

variable {radix : Nat} (htwo : 2 ≤ radix) (hradix : radix ≤ 36)
include htwo hradix

theorem newline_not_mem_digits (n : Nat) : '\n' ∉ Numeral.digits radix n := by
  intro h
  have hsmall := (Numeral.canonical_digits htwo hradix n).small '\n' h
  exact absurd (List.mem_of_mem_take hsmall) (by decide)

theorem oneLine_ofInt (v : Int) : OneLine (Numeral.ofInt radix v) := by
  have hdigits := newline_not_mem_digits htwo hradix v.natAbs
  rw [OneLine, Numeral.toList_ofInt]
  split
  · exact List.not_mem_cons_of_ne_of_not_mem (by decide) hdigits
  · exact hdigits

namespace Sheet

theorem adds_writeNat (s : Sheet) (n : Nat) : s.Adds (s.writeNat radix n) (Numeral.digits radix n) := by
  have hadds := s.adds_write (oneLine_ofList.mpr (newline_not_mem_digits htwo hradix n))
  rwa [String.toList_ofList] at hadds

theorem adds_writeInt (s : Sheet) (v : Int) :
    s.Adds (s.writeInt radix v)
      (if v < 0 then '-' :: Numeral.digits radix v.natAbs else Numeral.digits radix v.natAbs) := by
  have hadds := s.adds_write (oneLine_ofInt htwo hradix v)
  rwa [Numeral.toList_ofInt] at hadds

end Sheet

end Radix

namespace Sheet

theorem text_write_empty {text : String} (htext : OneLine text) : (empty.write text).text = text := by
  have hmargin : empty.margin text.toList = [] := by
    cases text.toList with
    | nil => rfl
    | cons c l =>
      show indentation (if c = '}' then 0 else 0) = []
      rw [ite_self]
      rfl
  have hadds := empty.adds_write htext
  rw [Adds, hmargin, List.nil_append, String.ofList_toList] at hadds
  exact hadds.trans String.empty_append

/-- In a radix from 2 to 36 a number is added to a sheet by its numeral, in small letters and without a zero in
front, and an integer by its sign and the numeral of its absolute value; only at the start of a line the
indentation comes before. The decimal text of an integer, taken as a default, is read as the integer if that fits
in the width, and is refused otherwise. -/
theorem written_integers_read_back (s : Sheet) {radix : Nat} (htwo : 2 ≤ radix) (hradix : radix ≤ 36) :
    (∀ n : Nat, s.Adds (s.writeNat radix n) (Numeral.digits radix n) ∧
      Numeral.Canonical radix n (Numeral.digits radix n)) ∧
    (∀ v : Int, s.Adds (s.writeInt radix v)
      (if v < 0 then '-' :: Numeral.digits radix v.natAbs else Numeral.digits radix v.natAbs)) ∧
    ∀ (v : Int) (text : String), (empty.writeInt 10 v).text = text → ∀ bits ∈ [8, 16, 32, 64],
      (Default.number text).toInt bits =
        if -2 ^ (bits - 1) ≤ v ∧ v ≤ 2 ^ (bits - 1) - 1 then .ok v
        else .error (.invalidDefault .integer text) := by
  refine ⟨fun n => ⟨adds_writeNat htwo hradix s n, Numeral.canonical_digits htwo hradix n⟩,
    adds_writeInt htwo hradix s, ?_⟩
  rintro v text rfl bits hbits
  have hclamp : ∀ bits ∈ [8, 16, 32, 64], Default.clampBits bits = bits := by decide
  have hfits : Default.fits bits v = true ↔ -2 ^ (bits - 1) ≤ v ∧ v ≤ 2 ^ (bits - 1) - 1 := by
    rw [Default.fits_iff, hclamp bits hbits]
  rw [writeInt, text_write_empty (oneLine_ofInt (by decide) (by decide) v)]
  exact (Default.toInt_decimal bits v).trans (if_congr hfits rfl rfl)

/-- The least integer of 64 bits: in hexadecimal, one level deep, and in decimal as a default of two widths. -/
theorem written_integers_read_back_least :
    (fresh 1).Adds ((fresh 1).writeInt 16 (-9223372036854775808)) ('-' :: '8' :: List.replicate 15 '0') ∧
      (Default.number "-9223372036854775808").toInt 64 = .ok (-9223372036854775808) ∧
      (Default.number "-9223372036854775808").toInt 32 =
        .error (.invalidDefault .integer "-9223372036854775808") := by
  obtain ⟨-, hadds, hread⟩ := written_integers_read_back (fresh 1) (by decide : 2 ≤ 16) (by decide)
  have hdigits : Numeral.digits 16 (-9223372036854775808 : Int).natAbs = '8' :: List.replicate 15 '0' := by
    decide +kernel
  have hread := hread (-9223372036854775808) "-9223372036854775808" (by decide +kernel)
  refine ⟨?_, hread 64 (by decide), hread 32 (by decide)⟩
  have hleast := hadds (-9223372036854775808)
  rwa [if_pos (by decide), hdigits] at hleast

end Sheet

end WireSchema.Source
