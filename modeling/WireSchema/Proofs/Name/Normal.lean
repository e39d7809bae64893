import WireSchema.Proofs.Name.Case

/-!
The snake form as a normal form. Underscores stand alone and only inside, since one is put only after something
else and the last one is dropped. A name that is spelled so, in small letters throughout, is its own snake form:
no capital begins a word in it, and each underscore is put back where it was.
-/

namespace WireSchema.Name

open WireSchema.Text

/-- Words joined by single underscores, with no other separator. -/
structure Normal (cs : List Char) : Prop where
  hyphen : '-' ∉ cs
  blank : ' ' ∉ cs
  dot : '.' ∉ cs
  first : cs.head? ≠ some '_'
  last : cs.getLast? ≠ some '_'
  spaced : Spaced cs

theorem Normal.eq_underscore {cs : List Char} (h : Normal cs) {c : Char} (hc : c ∈ cs)
    (hseparator : isSeparator c = true) : c = '_' := by
  rcases isSeparator_iff.mp hseparator with rfl | rfl | rfl | rfl
  · exact absurd hc h.hyphen
  · rfl
  · exact absurd hc h.blank
  · exact absurd hc h.dot

/-! ## The first character -/

theorem getLast?_underscore {acc : List Char} (h : acc.getLast? ≠ some '_') :
    (underscore acc).getLast? ≠ some '_' := by
  rw [underscore.eq_def]
  split
  · exact h
  · exact h
  · rename_i hne _
    rwa [List.getLast?_cons_of_ne_nil hne]

theorem getLast?_lowercase {acc : List Char} (h : acc.getLast? ≠ some '_') {c : Char}
    (hc : isSeparator c = false) : ((lowercase c).reverse ++ acc).getLast? ≠ some '_' := by
  rw [List.getLast?_append]
  intro hlast
  rcases Option.or_eq_some_iff.mp hlast with hacc | ⟨-, hletter⟩
  · exact h hacc
  · exact underscore_not_mem_lowercase hc (List.mem_reverse.mp (List.mem_of_getLast? hletter))

theorem getLast?_dropUnderscore {acc : List Char} (h : acc.getLast? ≠ some '_') :
    (dropUnderscore acc).getLast? ≠ some '_' := by
  rw [dropUnderscore.eq_def]
  split
  · intro hlast
    apply h
    rw [List.getLast?_cons, hlast]
    rfl
  · exact h

theorem head?_snake_ne (name : String) : (snake name).toList.head? ≠ some '_' := by
  rw [snake, String.toList_ofList, snakeChars, List.head?_reverse]
  apply getLast?_dropUnderscore
  have hstart : ([] : List Char).getLast? ≠ some '_' := by simp
  exact snakeFrom_induction (P := fun acc => acc.getLast? ≠ some '_') (fun _ h => getLast?_underscore h)
    (fun _ _ hc h => getLast?_lowercase h hc) hstart

/-! ## The form as a whole -/

theorem Spaced.reverse {cs : List Char} (h : Spaced cs) : Spaced cs.reverse := by
  apply List.isChain_reverse.mpr
  apply List.IsChain.imp _ h
  intro a b hab hb ha
  exact hab ha hb

theorem Spaced.dropUnderscore {acc : List Char} (h : Spaced acc) : Spaced (dropUnderscore acc) := by
  rw [Name.dropUnderscore.eq_def]
  split
  · exact (List.isChain_cons.mp h).2
  · exact h

theorem spaced_snake (name : String) : Spaced (snake name).toList := by
  rw [snake, String.toList_ofList, snakeChars]
  exact (Spaced.snakeFrom List.IsChain.nil).dropUnderscore.reverse

theorem normal_snake (name : String) : Normal (snake name).toList where
  hyphen := separator_not_mem_snake rfl (by decide) name
  blank := blank_not_mem_snake name
  dot := dot_not_mem_snake name
  first := head?_snake_ne name
  last := getLast?_snake_ne name
  spaced := spaced_snake name

/-! ## Small names -/

/-- A character that begins no word and is left as it is. -/
structure Small (c : Char) : Prop where
  notUppercase : isUppercase c = false
  lowercase : lowercase c = [c]

theorem snakeFrom_separator {c : Char} (hc : isSeparator c = true) (prev : Option Char) (acc cs : List Char) :
    snakeFrom prev acc (c :: cs) = snakeFrom (some c) (underscore acc) cs := by
  rw [snakeFrom, if_pos hc]

theorem snakeFrom_small {c : Char} (hc : isSeparator c = false) (hsmall : Small c) (prev : Option Char)
    (acc cs : List Char) : snakeFrom prev acc (c :: cs) = snakeFrom (some c) (c :: acc) cs := by
  have hinside : beginsWord prev c cs.head? = false := by
    rw [beginsWord.eq_def, hsmall.notUppercase, Bool.false_and]
  rw [snakeFrom, if_neg (Bool.eq_false_iff.mp hc), hinside, hsmall.lowercase]
  rfl

theorem underscore_of_head? {acc : List Char} (hne : acc ≠ []) (h : acc.head? ≠ some '_') :
    underscore acc = '_' :: acc := by
  rw [underscore.eq_def]
  split
  · exact absurd rfl hne
  · exact absurd rfl h
  · rfl

theorem dropUnderscore_of_head? {acc : List Char} (h : acc.head? ≠ some '_') : dropUnderscore acc = acc := by
  rw [dropUnderscore.eq_def]
  split
  · exact absurd rfl h
  · rfl

/-- The invariant of a run over a name in normal form: what has been read and what is left are spaced together, and
an underscore does not come first. -/
theorem snakeFrom_normal {prev : Option Char} {acc cs : List Char}
    (hseparator : ∀ c ∈ cs, isSeparator c = true → c = '_') (hsmall : ∀ c ∈ cs, c ≠ '_' → Small c)
    (hspaced : Spaced (cs.reverse ++ acc)) (hfirst : acc = [] → cs.head? ≠ some '_') :
    snakeFrom prev acc cs = cs.reverse ++ acc := by
  induction cs generalizing prev acc with
  | nil => rfl
  | cons c cs ih =>
      obtain ⟨hcseparator, hseparators⟩ := List.forall_mem_cons.mp hseparator
      obtain ⟨hcsmall, hsmalls⟩ := List.forall_mem_cons.mp hsmall
      rw [List.reverse_cons, List.append_assoc, List.singleton_append] at hspaced ⊢
      by_cases hc : c = '_'
      · -- the underscore is put again, since something else stands before it
        subst hc
        have hne : acc ≠ [] := fun hnil => hfirst hnil rfl
        have hhead : acc.head? ≠ some '_' := fun hhead =>
          (List.isChain_cons.mp hspaced.right_of_append).1 '_' hhead rfl rfl
        rw [snakeFrom_separator rfl, underscore_of_head? hne hhead]
        exact ih hseparators hsmalls hspaced fun hnil => absurd hnil (List.cons_ne_nil _ _)
      · have hplain : isSeparator c = false := Bool.eq_false_iff.mpr (mt hcseparator hc)
        rw [snakeFrom_small hplain (hcsmall hc)]
        exact ih hseparators hsmalls hspaced fun hnil => absurd hnil (List.cons_ne_nil _ _)

theorem Normal.snake_eq {name : String} (h : Normal name.toList) (hsmall : ∀ c ∈ name.toList, c ≠ '_' → Small c) :
    snake name = name := by
  have hspaced : Spaced (name.toList.reverse ++ []) := by
    rw [List.append_nil]
    exact h.spaced.reverse
  have hlast : name.toList.reverse.head? ≠ some '_' := by
    rw [List.head?_reverse]
    exact h.last
  rw [snake, snakeChars, snakeFrom_normal (fun c => h.eq_underscore) hsmall hspaced fun _ => h.first,
    List.append_nil, dropUnderscore_of_head? hlast, List.reverse_reverse, String.ofList_toList]

/-! ## Names in ASCII -/

/-- All characters are in ASCII. -/
def Ascii (cs : List Char) : Prop :=
  ∀ c ∈ cs, c.toNat < 0x80

theorem ascii_of_isAlphanum {c : Char} (h : c.isAlphanum = true) : c.toNat < 0x80 := by
  have hletter : (c.isUpper || c.isLower || c.isDigit) = true := h
  rw [Bool.or_eq_true, Bool.or_eq_true] at hletter
  rcases hletter with (hupper | hlower) | hdigit
  · have hle : c.val ≤ 'Z'.val := (of_decide_eq_true hupper).2
    have hcode : c.toNat ≤ 0x5A := UInt32.le_iff_toNat_le.mp hle
    omega
  · exact ascii_of_isLower hlower
  · have hbounds : (decide (c.val ≥ '0'.val) && decide (c.val ≤ '9'.val)) = true := hdigit
    have hle : c.val ≤ '9'.val := of_decide_eq_true (Bool.and_eq_true_iff.mp hbounds).2
    have hcode : c.toNat ≤ 0x39 := UInt32.le_iff_toNat_le.mp hle
    omega

theorem lowercase_of_ascii {c : Char} (hc : c.toNat < 0x80) : lowercase c = [c.toLower] :=
  if_pos hc

theorem isUppercase_of_ascii {c : Char} (hc : c.toNat < 0x80) : isUppercase c = c.isUpper :=
  if_pos hc

theorem toLower_of_ascii {c : Char} (hc : c.toNat < 0x80) :
    c.toLower.toNat < 0x80 ∧ c.toLower.isUpper = false ∧ c.toLower.toLower = c.toLower :=
  ascii_cases hc (by decide)

theorem small_toLower {c : Char} (hc : c.toNat < 0x80) : Small c.toLower := by
  obtain ⟨hascii, hupper, hlower⟩ := toLower_of_ascii hc
  constructor
  · rw [isUppercase_of_ascii hascii, hupper]
  · rw [lowercase_of_ascii hascii, hlower]

/-- A character of the snake form of a name in ASCII is an underscore or the small form of a character of the name. -/
theorem of_mem_snake_ascii {name : String} (hname : Ascii name.toList) {d : Char} (h : d ∈ (snake name).toList)
    (hd : d ≠ '_') : ∃ c ∈ name.toList, isSeparator c = false ∧ d = c.toLower := by
  obtain ⟨c, hc, hplain, hsmall⟩ := (mem_snake_iff hd name).mp h
  rw [lowercase_of_ascii (hname c hc)] at hsmall
  exact ⟨c, hc, hplain, List.mem_singleton.mp hsmall⟩

theorem small_of_mem_snake {name : String} (hname : Ascii name.toList) {d : Char} (h : d ∈ (snake name).toList)
    (hd : d ≠ '_') : Small d := by
  obtain ⟨c, hc, -, rfl⟩ := of_mem_snake_ascii hname h hd
  exact small_toLower (hname c hc)

theorem snake_snake {name : String} (hname : Ascii name.toList) : snake (snake name) = snake name :=
  (normal_snake name).snake_eq fun _ => small_of_mem_snake hname

/-- The snake form of a name keeps, underscores apart, the name's characters in their small forms, separators left
out, and it is a normal form. If the name is in ASCII it has no capital and is its own snake form. -/
theorem snake_normal_form (name : String) :
    (snake name).toList.filter (· != '_') = (name.toList.filter (!isSeparator ·)).flatMap lowercase ∧
      Normal (snake name).toList ∧
      (Ascii name.toList →
        (∀ c ∈ (snake name).toList, isUppercase c = false) ∧ snake (snake name) = snake name) := by
  refine ⟨filter_snake name, normal_snake name, fun hname => ⟨fun c hc => ?_, snake_snake hname⟩⟩
  by_cases hunderscore : c = '_'
  · rw [hunderscore]
    rfl
  · exact (small_of_mem_snake hname hc hunderscore).notUppercase

theorem snake_normal_form_acronyms :
    (Ascii "--APIKey.ID2_x_".toList ∧ snake "--APIKey.ID2_x_" = "api_key_id2_x") ∧
      (∀ c ∈ (snake "--APIKey.ID2_x_").toList, isUppercase c = false) ∧
      snake (snake "--APIKey.ID2_x_") = snake "--APIKey.ID2_x_" :=
  have hascii : Ascii "--APIKey.ID2_x_".toList := by simp [Ascii]
  ⟨⟨hascii, by decide⟩, (snake_normal_form "--APIKey.ID2_x_").2.2 hascii⟩

end WireSchema.Name
