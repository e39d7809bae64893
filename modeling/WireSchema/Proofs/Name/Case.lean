import Mathlib.Data.List.Chain
import WireSchema.Name.Case

/-!
What can stand in the snake form of a name. Underscores apart, it is the name in small letters without its
separators. A small letter is the letter itself or lies above the signs and capitals of ASCII, so of the separators
only the underscore gets into the result, and only where one is put: never twice in a row and never at the end.
-/

namespace WireSchema.Text

/-- The small forms of the run are characters above the capitals of ASCII. -/
def SmallRun (run : Nat × Nat × Nat × Int) : Prop :=
  0x60 < run.1 + run.2.2.2 ∧
    (run.2.1 + run.2.2.2 < 0xD800 ∨ 0xDFFF < run.1 + run.2.2.2 ∧ run.2.1 + run.2.2.2 < 0x110000)

instance : DecidablePred SmallRun :=
  fun _ => inferInstanceAs (Decidable (_ ∧ _))

theorem smallRun_of_mem : ∀ run ∈ CaseTable.toLowerRuns, SmallRun run := by
  decide +kernel

theorem toNat_ofNat_of_isValidChar {n : Nat} (h : n.isValidChar) : (Char.ofNat n).toNat = n := by
  rw [Char.ofNat, dif_pos h]
  rfl

theorem SmallRun.lt_toNat {run : Nat × Nat × Nat × Int} (h : SmallRun run) {n : Nat}
    (hn : inRun n (run.1, run.2.1, run.2.2.1)) :
    0x60 < (Char.ofNat (n + run.2.2.2).toNat).toNat := by
  obtain ⟨hlow, hvalid⟩ := h
  simp only [inRun, Bool.and_eq_true, decide_eq_true_eq] at hn
  rw [toNat_ofNat_of_isValidChar]
  · omega
  · rcases hvalid with hbelow | ⟨habove, htop⟩
    · exact Or.inl (by omega)
    · exact Or.inr ⟨by omega, by omega⟩

/-- What holds of the first 128 characters holds of every character of ASCII. -/
@[elab_as_elim]
theorem ascii_cases {P : Char → Prop} {c : Char} (hc : c.toNat < 0x80) (h : ∀ n : Fin 0x80, P (Char.ofNat n)) :
    P c := by
  have hcode := h ⟨c.toNat, hc⟩
  rwa [Char.ofNat_toNat] at hcode

theorem toLower_cases {c : Char} (hc : c.toNat < 0x80) : c.toLower = c ∨ 0x60 < c.toLower.toNat :=
  ascii_cases hc (by decide)

/-- Lowercasing gives the character itself, or characters above the signs and capitals of ASCII. -/
theorem of_mem_lowercase {c d : Char} (h : d ∈ lowercase c) : d = c ∨ 0x60 < d.toNat := by
  rw [lowercase] at h
  split at h
  · rename_i hascii
    rw [List.mem_singleton.mp h]
    exact toLower_cases hascii
  · rw [mapCase] at h
    split at h
    · rename_i ns hlookup
      obtain ⟨front, back, htable, _⟩ := List.lookup_eq_some_iff.mp hlookup
      have hsmall : ∀ entry ∈ CaseTable.lowerExpansions, ∀ n ∈ entry.2, 0x60 < (Char.ofNat n).toNat := by
        decide
      obtain ⟨n, hn, rfl⟩ := List.mem_map.mp h
      exact Or.inr (hsmall (c.toNat, ns) (htable ▸ List.mem_append_right _ List.mem_cons_self) n hn)
    · split at h
      · rename_i run hrun
        have hin := List.find?_some hrun
        rw [List.mem_singleton.mp h]
        exact Or.inr ((smallRun_of_mem run (List.mem_of_find?_eq_some hrun)).lt_toNat hin)
      · exact Or.inl (List.mem_singleton.mp h)

end WireSchema.Text

namespace WireSchema.Name

open WireSchema.Text

/-! ## The characters -/

theorem isSeparator_iff {c : Char} : isSeparator c = true ↔ c = '-' ∨ c = '_' ∨ c = ' ' ∨ c = '.' := by
  simp only [isSeparator, Bool.or_eq_true, beq_iff_eq, or_assoc]

theorem underscore_not_mem_lowercase {c : Char} (hc : isSeparator c = false) : '_' ∉ lowercase c := by
  intro h
  rcases of_mem_lowercase h with rfl | habove
  · cases hc
  · exact absurd habove (by decide)

/-- What a name gives when separators are left out: each other character in its small form. -/
def letters (cs : List Char) : List Char :=
  (cs.filter (!isSeparator ·)).flatMap lowercase

theorem letters_cons_separator {c : Char} (hc : isSeparator c = true) (cs : List Char) :
    letters (c :: cs) = letters cs := by
  rw [letters, List.filter_cons_of_neg (by simp [hc]), letters]

theorem letters_cons {c : Char} (hc : isSeparator c = false) (cs : List Char) :
    letters (c :: cs) = lowercase c ++ letters cs := by
  rw [letters, List.filter_cons_of_pos (by simp [hc]), List.flatMap_cons, letters]

theorem filter_underscore (acc : List Char) : (underscore acc).filter (· != '_') = acc.filter (· != '_') := by
  rw [underscore.eq_def]
  split
  · rfl
  · rfl
  · exact List.filter_cons_of_neg (by decide)

theorem filter_dropUnderscore (acc : List Char) :
    (dropUnderscore acc).filter (· != '_') = acc.filter (· != '_') := by
  rw [dropUnderscore.eq_def]
  split
  · exact (List.filter_cons_of_neg (by decide)).symm
  · rfl

theorem filter_lowercase {c : Char} (hc : isSeparator c = false) :
    (lowercase c).reverse.filter (· != '_') = (lowercase c).reverse := by
  apply List.filter_eq_self.mpr
  intro d hd
  rw [bne_iff_ne]
  rintro rfl
  exact underscore_not_mem_lowercase hc (List.mem_reverse.mp hd)

/-- Underscores apart, a run puts the letters of the name before what it had. -/
theorem filter_snakeFrom (prev : Option Char) (acc cs : List Char) :
    (snakeFrom prev acc cs).filter (· != '_') = (letters cs).reverse ++ acc.filter (· != '_') := by
  induction cs generalizing prev acc with
  | nil => rfl
  | cons c cs ih =>
      rw [snakeFrom]
      split
      · rename_i hc
        rw [ih, filter_underscore, letters_cons_separator hc]
      · rename_i hc
        have hplain : isSeparator c = false := Bool.eq_false_iff.mpr hc
        have hbefore : (if beginsWord prev c cs.head? then underscore acc else acc).filter (· != '_') =
            acc.filter (· != '_') := by
          split
          · exact filter_underscore acc
          · rfl
        rw [ih, List.filter_append, filter_lowercase hplain, hbefore, letters_cons hplain, List.reverse_append,
          List.append_assoc]

/-- Underscores apart, the snake form is made of the letters of the name. -/
theorem filter_snake (name : String) : (snake name).toList.filter (· != '_') = letters name.toList := by
  rw [snake, String.toList_ofList, snakeChars, List.filter_reverse, filter_dropUnderscore, filter_snakeFrom,
    List.filter_nil, List.append_nil, List.reverse_reverse]

theorem mem_snake_iff {d : Char} (hd : d ≠ '_') (name : String) :
    d ∈ (snake name).toList ↔ ∃ c ∈ name.toList, isSeparator c = false ∧ d ∈ lowercase c := by
  have hfilter : d ∈ (snake name).toList.filter (· != '_') ↔ d ∈ (snake name).toList := by
    rw [List.mem_filter, bne_iff_ne, and_iff_left hd]
  rw [← hfilter, filter_snake, letters, List.mem_flatMap]
  apply exists_congr
  intro c
  rw [List.mem_filter, Bool.not_eq_true', and_assoc]

/-- A character of the snake form is an underscore, a character of the name that is no separator, or one above
the signs and capitals of ASCII. -/
theorem of_mem_snake {d : Char} {name : String} (h : d ∈ (snake name).toList) :
    d = '_' ∨ isSeparator d = false ∧ d ∈ name.toList ∨ 0x60 < d.toNat := by
  by_cases hd : d = '_'
  · exact Or.inl hd
  · obtain ⟨c, hc, hplain, hsmall⟩ := (mem_snake_iff hd name).mp h
    rcases of_mem_lowercase hsmall with rfl | habove
    · exact Or.inr (Or.inl ⟨hplain, hc⟩)
    · exact Or.inr (Or.inr habove)

/-- Of the separators only the underscore stands in a snake form. -/
theorem separator_not_mem_snake {d : Char} (hseparator : isSeparator d = true) (hne : d ≠ '_') (name : String) :
    d ∉ (snake name).toList := by
  intro h
  rcases of_mem_snake h with hunderscore | ⟨hplain, _⟩ | habove
  · exact hne hunderscore
  · cases hplain.symm.trans hseparator
  · rcases isSeparator_iff.mp hseparator with rfl | rfl | rfl | rfl <;> exact absurd habove (by decide)

theorem blank_not_mem_snake (name : String) : ' ' ∉ (snake name).toList :=
  separator_not_mem_snake rfl (by decide) name

theorem dot_not_mem_snake (name : String) : '.' ∉ (snake name).toList :=
  separator_not_mem_snake rfl (by decide) name

theorem newline_not_mem_snake {name : String} (hname : '\n' ∉ name.toList) : '\n' ∉ (snake name).toList := by
  intro h
  rcases of_mem_snake h with hunderscore | ⟨_, hmem⟩ | habove
  · cases hunderscore
  · exact hname hmem
  · exact absurd habove (by decide)

/-- A slash is no separator and no letter, so it stays. -/
theorem slash_mem_snake_iff (name : String) : '/' ∈ (snake name).toList ↔ '/' ∈ name.toList := by
  constructor
  · intro h
    rcases of_mem_snake h with hunderscore | ⟨_, hmem⟩ | habove
    · cases hunderscore
    · exact hmem
    · exact absurd habove (by decide)
  · intro h
    exact (mem_snake_iff (by decide) name).mpr ⟨'/', h, rfl, by decide⟩

/-! ## Underscores -/

/-- No two underscores stand next to each other. -/
def Spaced (cs : List Char) : Prop :=
  cs.IsChain fun a b => a = '_' → b ≠ '_'

theorem Spaced.underscore {acc : List Char} (h : Spaced acc) : Spaced (underscore acc) := by
  rw [Name.underscore.eq_def]
  split
  · exact h
  · exact h
  · rename_i hfirst
    refine List.isChain_cons.mpr ⟨fun c hc _ hunderscore => ?_, h⟩
    obtain ⟨rest, rfl⟩ := List.head?_eq_some_iff.mp hc
    exact hfirst rest (by rw [hunderscore])

theorem Spaced.lowercase {acc : List Char} (h : Spaced acc) {c : Char} (hc : isSeparator c = false) :
    Spaced ((lowercase c).reverse ++ acc) := by
  have hsmall : ∀ d ∈ (Text.lowercase c).reverse, d ≠ '_' := by
    rintro _ hd rfl
    exact underscore_not_mem_lowercase hc (List.mem_reverse.mp hd)
  refine List.IsChain.append ?_ h fun d hd _ _ hunderscore => ?_
  · exact (List.pairwise_of_forall_mem_list fun d hd _ _ hunderscore =>
      absurd hunderscore (hsmall d hd)).isChain
  · exact absurd hunderscore (hsmall d (List.mem_of_getLast? hd))

/-- What underscores and small letters keep is kept by a whole run. -/
theorem snakeFrom_induction {P : List Char → Prop} (hunderscore : ∀ acc, P acc → P (underscore acc))
    (hletter : ∀ acc c, isSeparator c = false → P acc → P ((lowercase c).reverse ++ acc))
    {prev : Option Char} {acc cs : List Char} (h : P acc) : P (snakeFrom prev acc cs) := by
  induction cs generalizing prev acc with
  | nil => exact h
  | cons c cs ih =>
      rw [snakeFrom]
      split
      · exact ih (hunderscore acc h)
      · rename_i hc
        apply ih
        apply hletter _ c (Bool.eq_false_iff.mpr hc)
        split
        · exact hunderscore acc h
        · exact h

theorem Spaced.snakeFrom {prev : Option Char} {acc cs : List Char} (h : Spaced acc) :
    Spaced (snakeFrom prev acc cs) :=
  snakeFrom_induction (P := Spaced) (fun _ h => h.underscore) (fun _ _ hc h => h.lowercase hc) h

theorem Spaced.head?_dropUnderscore {acc : List Char} (h : Spaced acc) :
    (dropUnderscore acc).head? ≠ some '_' := by
  rw [dropUnderscore.eq_def]
  split
  · intro hhead
    exact (List.isChain_cons.mp h).1 '_' hhead rfl rfl
  · rename_i hfirst
    intro hhead
    obtain ⟨rest, rfl⟩ := List.head?_eq_some_iff.mp hhead
    exact hfirst rest rfl

theorem getLast?_snake_ne (name : String) : (snake name).toList.getLast? ≠ some '_' := by
  rw [snake, String.toList_ofList, snakeChars, List.getLast?_reverse]
  exact (Spaced.snakeFrom List.IsChain.nil).head?_dropUnderscore

/-! ## The pascal form -/

theorem ascii_of_isLower {c : Char} (h : c.isLower = true) : c.toNat < 0x80 := by
  have hbounds : (decide (c.val ≥ 'a'.val) && decide (c.val ≤ 'z'.val)) = true := h
  have hle : c.val ≤ 'z'.val := of_decide_eq_true (Bool.and_eq_true_iff.mp hbounds).2
  have hcode : c.toNat ≤ 0x7A := UInt32.le_iff_toNat_le.mp hle
  omega

/-- A small letter of ASCII is no separator, and its capital is not small. -/
theorem toUpper_of_isLower {c : Char} (h : c.isLower = true) :
    ¬(c = '-' ∨ c = '_') ∧ c.toUpper.isLower = false := by
  have hascii := ascii_of_isLower h
  revert h
  exact ascii_cases hascii (by decide)

theorem pascalFrom_of_isLower {c : Char} (h : c.isLower = true) (cs : List Char) :
    pascalFrom true (c :: cs) = c.toUpper :: pascalFrom false cs := by
  rw [pascalFrom, if_neg (toUpper_of_isLower h).1, if_pos rfl, uppercase, if_pos (ascii_of_isLower h)]
  rfl

end WireSchema.Name
