import WireSchema.Proofs.Grammar.Lexer
import WireSchema.Proofs.Text.Numeral

/-!
The words of a text. A name, a number or some signs that stand together, before a blank or the end of the text, are
the tokens that one expects. Names are those of the generated language, with letters of any script, plain or raw.
-/

namespace WireSchema.Grammar

open WireSchema.Text

/-! ## Signs -/

/-- The signs of comparisons and their connectives, and the minus sign. -/
def ordinarySigns : List Char := ['<', '>', '=', '&', '|', '-']

theorem solid_of_ordinary {c : Char} (hc : c ∈ ordinarySigns) : Solid c := by
  simp only [ordinarySigns, List.mem_cons, List.not_mem_nil, or_false] at hc
  rcases hc with rfl | rfl | rfl | rfl | rfl | rfl <;> exact ⟨by decide, by decide, by decide, by decide⟩

theorem leaf?_sign {c : Char} (hc : c ∈ ordinarySigns) (p : Location) (rest : Chars) :
    leaf? ((c, p) :: rest) p = some (.sign c (beginsSign rest) p, rest) := by
  simp only [ordinarySigns, List.mem_cons, List.not_mem_nil, or_false] at hc
  rcases hc with rfl | rfl | rfl | rfl | rfl | rfl <;> rfl

theorem isSign_of_class {P : Char → Bool} (hP : "~!@#$%^&*-=+|;:,<.>/?'".toList.all (!P ·) = true) {c : Char}
    (hc : P c = true) : isSign c = false := by
  rw [Bool.eq_false_iff, isSign, Ne, List.contains_iff_mem]
  intro hmem
  have hfalse := List.all_eq_true.mp hP c hmem
  rw [hc] at hfalse
  cases hfalse

/-- No sign begins the text. -/
def Apart (text : List Char) : Prop :=
  ∀ c, text.head? = some c → isSign c = false

/-- Signs that stand together: each but the last is joined to the next one. -/
def signSymbols : List Char → List Symbol
  | [] => []
  | [c] => [.sign c false]
  | c :: d :: cs => .sign c true :: signSymbols (d :: cs)

/-- The text is at its end or goes on with a blank. -/
def Stops (text : List Char) : Prop :=
  ∀ c, text.head? = some c → c = ' '

theorem stops_nil : Stops [] :=
  fun _ h => nomatch h

theorem stops_blank (text : List Char) : Stops (' ' :: text) :=
  fun _ h => (Option.some.inj h).symm

theorem Stops.apart {text : List Char} (h : Stops text) : Apart text := by
  intro c hc
  rw [h c hc]
  decide

theorem beginsSign_of_apart {cs : Chars} (h : Apart (cs.map Prod.fst)) : beginsSign cs = false := by
  cases cs with
  | nil => rfl
  | cons x cs => rw [beginsSign, h x.1 rfl, Bool.false_and, Bool.false_and]

theorem beginsSign_of_ordinary {c : Char} (hc : c ∈ ordinarySigns) (p : Location) (cs : Chars) :
    beginsSign ((c, p) :: cs) = true := by
  simp only [ordinarySigns, List.mem_cons, List.not_mem_nil, or_false] at hc
  rcases hc with rfl | rfl | rfl | rfl | rfl | rfl <;> rfl

theorem lexes_sign {c : Char} (hc : c ∈ ordinarySigns) {text : List Char} {joint : Bool} {ss : List Symbol}
    (hjoint : ∀ cs : Chars, cs.map Prod.fst = text → beginsSign cs = joint) (h : Lexes text ss) :
    Lexes (c :: text) (.sign c joint :: ss) := by
  intro cs hcs hplaces
  obtain ⟨⟨_, p⟩, cs, rfl, rfl, htail⟩ := List.map_eq_cons_iff.mp hcs
  rw [List.map_cons, List.nodup_cons] at hplaces
  rw [← hjoint cs htail]
  exact .cons (yields_leaf (solid_of_ordinary hc) (leaf?_sign hc p cs) (Nat.le_refl _)) (h cs htail hplaces.2)

theorem lexes_signs {signs text : List Char} (hsigns : ∀ c ∈ signs, c ∈ ordinarySigns) (htext : Apart text)
    {ss : List Symbol} (h : Lexes text ss) : Lexes (signs ++ text) (signSymbols signs ++ ss) := by
  induction signs with
  | nil => exact h
  | cons c signs ih =>
      have hc := hsigns c List.mem_cons_self
      have ih := ih fun d hd => hsigns d (List.mem_cons_of_mem c hd)
      cases signs with
      | nil => exact lexes_sign hc (fun cs hcs => beginsSign_of_apart (hcs ▸ htext)) ih
      | cons d signs =>
          refine lexes_sign hc (fun cs hcs => ?_) ih
          obtain ⟨⟨_, p⟩, cs, rfl, rfl, -⟩ := List.map_eq_cons_iff.mp hcs
          exact beginsSign_of_ordinary (hsigns _ (List.mem_cons_of_mem c List.mem_cons_self)) p cs

/-! ## Words -/

/-- A word ends before these characters. -/
def Ends (cs : Chars) : Prop :=
  Stops (cs.map Prod.fst)

theorem Ends.cases {cs : Chars} (h : Ends cs) : cs = [] ∨ ∃ p rest, cs = (' ', p) :: rest := by
  cases cs with
  | nil => exact Or.inl rfl
  | cons x cs =>
      have hx := h x.1 rfl
      exact Or.inr ⟨x.2, cs, by rw [← hx]⟩

/-- A word goes on with one of its characters or ends. -/
theorem head?_word {cs rest : Chars} {P : Char → Prop} (hcs : ∀ x ∈ cs, P x.1) (hrest : Ends rest)
    {x : Char × Location} (hx : (cs ++ rest).head? = some x) : P x.1 ∨ x.1 = ' ' := by
  cases cs with
  | nil => exact Or.inr (hrest x.1 (by rw [List.head?_map, ← List.nil_append rest, hx]; rfl))
  | cons y cs =>
      cases hx
      exact Or.inl (hcs _ List.mem_cons_self)

/-- A sign that is not in a word keeps the word from beginning with a text that has it. -/
theorem after?_eq_none {expected : List Char} {cs rest : Chars} {bad : Char} (hbad : bad ∈ expected)
    (hcs : ∀ x ∈ cs, x.1 ≠ bad) (hblank : ' ' ∉ expected) (hrest : Ends rest) :
    after? expected (cs ++ rest) = none := by
  induction expected generalizing cs with
  | nil => cases hbad
  | cons e expected ih =>
      have he : e ≠ ' ' := fun h => hblank (h ▸ List.mem_cons_self)
      cases cs with
      | nil =>
          obtain rfl | ⟨p, rest, rfl⟩ := hrest.cases
          · rfl
          · rw [List.nil_append, after?, if_neg he]
      | cons x cs =>
          rw [List.cons_append, after?]
          split
          · rename_i hx
            have hne : bad ≠ e := fun h => hcs x List.mem_cons_self (hx ▸ h.symm)
            exact ih ((List.mem_cons.mp hbad).resolve_left hne) (fun y hy => hcs y (List.mem_cons_of_mem x hy))
              fun h => hblank (List.mem_cons_of_mem e h)
          · rfl

theorem after?_eq_some {expected : List Char} {cs rest tail : Chars} (hblank : ' ' ∉ expected) (hrest : Ends rest)
    (h : after? expected (cs ++ rest) = some tail) : ∃ back, back <:+ cs ∧ tail = back ++ rest := by
  induction expected generalizing cs with
  | nil => exact ⟨cs, List.suffix_rfl, (Option.some.inj h).symm⟩
  | cons e expected ih =>
      have he : e ≠ ' ' := fun h => hblank (h ▸ List.mem_cons_self)
      cases cs with
      | nil =>
          obtain rfl | ⟨p, rest, rfl⟩ := hrest.cases
          · cases h
          · rw [List.nil_append, after?, if_neg he] at h
            cases h
      | cons x cs =>
          rw [List.cons_append, after?] at h
          split at h
          · obtain ⟨back, hback, rfl⟩ := ih (fun h => hblank (List.mem_cons_of_mem e h)) h
            exact ⟨back, hback.trans (List.suffix_cons x cs), rfl⟩
          · cases h

section Word

variable {cs rest : Chars} (hcs : ∀ x ∈ cs, isIdentifierRest x.1 = true) (hrest : Ends rest)
include hcs hrest

theorem after?_word {expected : List Char} (hexpected : expected.any (!isIdentifierRest ·) = true)
    (hblank : ' ' ∉ expected) : after? expected (cs ++ rest) = none := by
  obtain ⟨bad, hmem, hbad⟩ := List.any_eq_true.mp hexpected
  refine after?_eq_none hmem (fun x hx h => ?_) hblank hrest
  rw [← h, hcs x hx] at hbad
  cases hbad

theorem rawDelimiter_word (n : Nat) : rawDelimiter n (cs ++ rest) = none := by
  have hhead {c : Char} {p : Location} {tail : Chars} (h : cs ++ rest = (c, p) :: tail) :
      isIdentifierRest c = true ∨ c = ' ' :=
    head?_word (P := (isIdentifierRest · = true)) hcs hrest (x := (c, p)) (h ▸ rfl)
  unfold rawDelimiter
  split
  · rename_i h
    exact absurd (hhead h) (by decide)
  · rename_i h
    exact absurd (hhead h) (by decide)
  · rfl

theorem rawString_word (kind : TextKind) {letters : List Char} (hletters : ' ' ∉ letters) :
    (after? letters (cs ++ rest)).bind (afterRawString kind) = none := by
  cases h : after? letters (cs ++ rest) with
  | none => rfl
  | some tail =>
      obtain ⟨back, hback, rfl⟩ := after?_eq_some hletters hrest h
      rw [Option.bind_some, afterRawString, rawDelimiter_word (fun x hx => hcs x (hback.subset hx)) hrest]
      rfl

theorem stringLiteral?_word : stringLiteral? (cs ++ rest) = none := by
  have hquoted : ∀ letters ∈ [[], ['b'], ['c']], after? (letters ++ ['"']) (cs ++ rest) = none := by
    simp only [List.forall_mem_cons]
    refine ⟨?_, ?_, ?_, nofun⟩ <;> exact after?_word hcs hrest (by decide) (by decide)
  have hraw : ∀ letters ∈ [['r'], ['b', 'r'], ['c', 'r']], ∀ kind,
      (after? letters (cs ++ rest)).bind (afterRawString kind) = none := by
    simp only [List.forall_mem_cons]
    refine ⟨?_, ?_, ?_, nofun⟩ <;> exact fun kind => rawString_word hcs hrest kind (by decide)
  unfold stringLiteral?
  simp only [hquoted, hraw, List.mem_cons, true_or, or_true, Option.bind_none, Option.none_or]
  split <;> rfl

theorem charLiteral?_word : charLiteral? (cs ++ rest) = none := by
  rw [charLiteral?, after?_word hcs hrest (by decide) (by decide), after?_word hcs hrest (by decide) (by decide)]
  rfl

theorem stringStarts_word : stringStarts.any (startsWith · (cs ++ rest)) = false := by
  have hstarts : ∀ expected ∈ stringStarts, expected.any (!isIdentifierRest ·) = true ∧ ' ' ∉ expected := by decide
  rw [List.any_eq_false]
  intro expected hexpected
  obtain ⟨hbad, hblank⟩ := hstarts expected hexpected
  rw [startsWith, after?_word hcs hrest hbad hblank]
  exact Bool.false_ne_true

theorem dropWhile_word : (cs ++ rest).dropWhile (fun x => isIdentifierRest x.1) = rest := by
  rw [List.dropWhile_append_of_pos hcs]
  obtain rfl | ⟨p, rest, rfl⟩ := hrest.cases
  · rfl
  · have hblank : ¬isIdentifierRest ' ' = true := by decide
    exact List.dropWhile_cons_of_neg hblank

end Word

/-- Before a blank or the end of the text the word is one token. -/
def IsToken (word : List Char) (s : Symbol) : Prop :=
  ∀ cs rest : Chars, cs.map Prod.fst = word → Ends rest → ((cs ++ rest).map Prod.snd).Nodup →
    ∃ c p tail t, cs = (c, p) :: tail ∧ Solid c ∧ leaf? (cs ++ rest) p = some (t, rest) ∧ t.symbol = s

theorem IsToken.lexes {word text : List Char} {s : Symbol} (h : IsToken word s)
    (htext : Stops text) {ss : List Symbol} (hrest : Lexes text ss) :
    Lexes (word ++ text) (s :: ss) := by
  intro cs hcs hplaces
  obtain ⟨front, rest, rfl, hfront, rfl⟩ := List.map_eq_append_iff.mp hcs
  obtain ⟨c, p, tail, t, rfl, hc, hleaf, rfl⟩ := h front rest hfront htext hplaces
  rw [List.map_append, List.nodup_append] at hplaces
  rw [List.cons_append] at hleaf ⊢
  refine .cons (yields_leaf hc hleaf ?_) (hrest rest rfl hplaces.2.1)
  rw [List.length_append]
  exact Nat.le_add_left _ _

/-! ## Numbers -/

theorem exists_of_isDecimal {c : Char} (hc : isDecimal c = true) : ∃ d : Fin 10, c = Char.ofNat (48 + d) := by
  rw [isDecimal, Bool.and_eq_true, decide_eq_true_eq, decide_eq_true_eq] at hc
  have hlow : 48 ≤ c.toNat := UInt32.le_iff_toNat_le.mp hc.1
  have hhigh : c.toNat ≤ 57 := UInt32.le_iff_toNat_le.mp hc.2
  refine ⟨⟨c.toNat - 48, by omega⟩, ?_⟩
  rw [show 48 + (c.toNat - 48) = c.toNat by omega, Char.ofNat_toNat]

theorem digitValue?_isSome {c : Char} (hc : isDecimal c = true) : (Numeral.digitValue? 10 c).isSome = true := by
  obtain ⟨d, rfl⟩ := exists_of_isDecimal hc
  exact (by decide : ∀ d : Fin 10, (Numeral.digitValue? 10 (Char.ofNat (48 + d))).isSome = true) d

theorem isIdentifierRest_of_isDecimal {c : Char} (hc : isDecimal c = true) : isIdentifierRest c = true := by
  obtain ⟨d, rfl⟩ := exists_of_isDecimal hc
  exact (by decide : ∀ d : Fin 10, isIdentifierRest (Char.ofNat (48 + d)) = true) d

theorem isIdentifierStart_of_isDecimal {c : Char} (hc : isDecimal c = true) : isIdentifierStart c = false := by
  obtain ⟨d, rfl⟩ := exists_of_isDecimal hc
  exact (by decide : ∀ d : Fin 10, isIdentifierStart (Char.ofNat (48 + d)) = false) d

theorem ne_of_isDecimal {c d : Char} (hc : isDecimal c = true) (hd : isDecimal d = false) : c ≠ d := by
  rintro rfl
  rw [hc] at hd
  cases hd

theorem afterFloatDigits_digits {cs rest : Chars} (hcs : ∀ x ∈ cs, isDecimal x.1 = true) (hrest : Ends rest) :
    afterFloatDigits false (cs ++ rest) = none := by
  induction cs with
  | nil =>
      obtain rfl | ⟨p, rest, rfl⟩ := hrest.cases <;> rfl
  | cons x cs ih =>
      rw [List.cons_append, afterFloatDigits, hcs x List.mem_cons_self, Bool.true_or, if_pos rfl]
      exact ih fun y hy => hcs y (List.mem_cons_of_mem x hy)

theorem afterDigits_digits {cs rest : Chars} (hcs : ∀ x ∈ cs, isDecimal x.1 = true) (hrest : Ends rest)
    {empty : Bool} (hne : empty = true → cs ≠ []) : afterDigits 10 empty (cs ++ rest) = some rest := by
  induction cs generalizing empty with
  | nil =>
      obtain rfl : empty = false := by simpa using hne
      obtain rfl | ⟨p, rest, rfl⟩ := hrest.cases <;> rfl
  | cons x cs ih =>
      have hx := hcs x List.mem_cons_self
      rw [List.cons_append, afterDigits, if_neg (ne_of_isDecimal hx (by decide)), hx, if_pos rfl,
        digitValue?_isSome hx, if_pos rfl]
      exact ih (fun y hy => hcs y (List.mem_cons_of_mem x hy)) nofun

theorem wordBreak_afterSuffix {rest : Chars} (hrest : Ends rest) : wordBreak (afterSuffix rest) = some rest := by
  obtain rfl | ⟨p, rest, rfl⟩ := hrest.cases <;> rfl

theorem intLiteral?_digits {cs rest : Chars} (hne : cs ≠ []) (hcs : ∀ x ∈ cs, isDecimal x.1 = true)
    (hrest : Ends rest) : intLiteral? (cs ++ rest) = some rest := by
  obtain ⟨x, cs, rfl⟩ := List.exists_cons_of_ne_nil hne
  -- The mark of another base would be the second character, where a digit or a blank stands.
  have hsecond {c : Char} (hc : isDecimal c = false ∧ c ≠ ' ') (p : Location) (tail : Chars) :
      cs ++ rest ≠ (c, p) :: tail := by
    intro h
    have hcs : ∀ y ∈ cs, isDecimal y.1 = true := fun y hy => hcs y (List.mem_cons_of_mem x hy)
    rcases head?_word (P := (isDecimal · = true)) hcs hrest (x := (c, p)) (h ▸ rfl) with hdigit | hblank
    · exact ne_of_isDecimal hdigit hc.1 rfl
    · exact hc.2 hblank
  have hdigits : afterDigits 10 true (x :: cs ++ rest) = some rest :=
    afterDigits_digits hcs hrest fun _ => hne
  rw [List.cons_append] at hdigits ⊢
  unfold intLiteral?
  split
  · rename_i h
    exact absurd (List.cons.inj h).2 (hsecond (by decide) _ _)
  · rename_i h
    exact absurd (List.cons.inj h).2 (hsecond (by decide) _ _)
  · rename_i h
    exact absurd (List.cons.inj h).2 (hsecond (by decide) _ _)
  · rw [hdigits, Option.bind_some, wordBreak_afterSuffix hrest]

theorem solid_of_isDecimal {c : Char} (hc : isDecimal c = true) : Solid c :=
  solid_of_class (by decide) hc

theorem leaf?_of_number {cs rest : Chars} (htext : (stringLiteral? cs).or (charLiteral? cs) = none)
    (hnumber : numberLiteral? cs = some rest) (p : Location) :
    leaf? cs p = some (.literal (textBefore rest cs) p, rest) := by
  unfold leaf?
  simp only [htext, hnumber]

theorem numberLiteral?_digits {cs rest : Chars} (hne : cs ≠ []) (hcs : ∀ x ∈ cs, isDecimal x.1 = true)
    (hrest : Ends rest) : numberLiteral? (cs ++ rest) = some rest := by
  have hfloat : floatLiteral? (cs ++ rest) = none := by
    obtain ⟨x, cs, rfl⟩ := List.exists_cons_of_ne_nil hne
    rw [List.cons_append, floatLiteral?, hcs x List.mem_cons_self, if_pos rfl,
      afterFloatDigits_digits (fun y hy => hcs y (List.mem_cons_of_mem x hy)) hrest, Option.bind_none]
  rw [numberLiteral?, hfloat, Option.none_or, intLiteral?_digits hne hcs hrest]

theorem isDecimal_of_mem_digits {n : Nat} {c : Char} (hc : c ∈ Numeral.digits 10 n) : isDecimal c = true := by
  obtain ⟨d, hd, rfl⟩ := Numeral.mem_digitsWith (by decide) n n hc
  have htable : ∀ d : Fin 10, isDecimal (Numeral.digit d) = true := by decide
  exact htable ⟨d, hd⟩

theorem isToken_number (n : Nat) : IsToken (Numeral.digits 10 n) (.literal (Numeral.ofNat 10 n)) := by
  intro cs rest hcs hrest hplaces
  have hne : cs ≠ [] := by
    rintro rfl
    exact Numeral.digits_ne_nil 10 n hcs.symm
  have hdigits : ∀ x ∈ cs, isDecimal x.1 = true := by
    intro x hx
    exact isDecimal_of_mem_digits (hcs ▸ List.mem_map_of_mem hx)
  have hword : ∀ x ∈ cs, isIdentifierRest x.1 = true := fun x hx => isIdentifierRest_of_isDecimal (hdigits x hx)
  have htext : (stringLiteral? (cs ++ rest)).or (charLiteral? (cs ++ rest)) = none := by
    rw [stringLiteral?_word hword hrest, charLiteral?_word hword hrest, Option.none_or]
  have hnumber := numberLiteral?_digits hne hdigits hrest
  have hbefore := textBefore_append hplaces
  obtain ⟨⟨c, p⟩, tail, rfl⟩ := List.exists_cons_of_ne_nil hne
  have hc := hdigits _ List.mem_cons_self
  refine ⟨c, p, tail, _, rfl, solid_of_isDecimal hc, leaf?_of_number htext hnumber p, ?_⟩
  rw [hbefore, hcs]
  rfl

/-! ## Names -/

/-- A name without a mark in front. -/
def IsPlainName (word : List Char) : Prop :=
  ∃ c cs, word = c :: cs ∧ isIdentifierStart c = true ∧ ∀ d ∈ cs, isIdentifierRest d = true

/-- A name, plain or raw. -/
inductive IsName : List Char → Prop where
  | plain {word : List Char} (h : IsPlainName word) : IsName word
  | raw {word : List Char} (h : IsPlainName word) (hword : String.ofList word ∉ neverRaw) :
      IsName ('r' :: '#' :: word)

theorem isIdentifierRest_of_start {c : Char} (hc : isIdentifierStart c = true) : isIdentifierRest c = true := by
  unfold isIdentifierStart at hc
  unfold isIdentifierRest
  split
  · rename_i hascii
    rw [if_pos hascii, Bool.or_eq_true] at hc
    rw [Bool.or_eq_true]
    refine hc.imp_left fun halpha => ?_
    rw [Char.isAlphanum, halpha, Bool.true_or]
  · rename_i hascii
    rw [if_neg hascii] at hc
    rw [hc, Bool.true_or]

theorem IsPlainName.isIdentifierRest {word : List Char} (h : IsPlainName word) :
    ∀ c ∈ word, isIdentifierRest c = true := by
  obtain ⟨c, cs, rfl, hc, hcs⟩ := h
  intro d hd
  rcases List.mem_cons.mp hd with rfl | hd
  · exact isIdentifierRest_of_start hc
  · exact hcs d hd

theorem digitValue?_eq_none {c : Char} (hc : isDecimal c = false) : Numeral.digitValue? 10 c = none := by
  have hdigit : ¬('0' ≤ c ∧ c ≤ '9') := by simpa [isDecimal] using hc
  rw [Numeral.digitValue?, if_neg hdigit]
  split
  · rename_i hsmall
    have hle : 97 ≤ c.toNat := UInt32.le_iff_toNat_le.mp hsmall.1
    exact Option.filter_some_neg (by simp; omega)
  · split
    · rename_i hcapital
      have hle : 65 ≤ c.toNat := UInt32.le_iff_toNat_le.mp hcapital.1
      exact Option.filter_some_neg (by simp; omega)
    · rfl

theorem isDecimal_of_start {c : Char} (hc : isIdentifierStart c = true) : isDecimal c = false := by
  rw [Bool.eq_false_iff]
  intro hdecimal
  rw [isIdentifierStart_of_isDecimal hdecimal] at hc
  cases hc

theorem numberLiteral?_of_start {c : Char} (hc : isIdentifierStart c = true) (p : Location) (cs : Chars) :
    numberLiteral? ((c, p) :: cs) = none := by
  have hdecimal := isDecimal_of_start hc
  have hfloat : floatLiteral? ((c, p) :: cs) = none := by
    rw [floatLiteral?, hdecimal]
    rfl
  have hdigits : afterDigits 10 true ((c, p) :: cs) = none := by
    rw [afterDigits, digitValue?_eq_none hdecimal, hdecimal]
    split <;> rfl
  have hint : intLiteral? ((c, p) :: cs) = none := by
    unfold intLiteral?
    split
    · rename_i h
      cases h
      exact absurd hdecimal (by decide)
    · rename_i h
      cases h
      exact absurd hdecimal (by decide)
    · rename_i h
      cases h
      exact absurd hdecimal (by decide)
    · rw [hdigits]
      rfl
  rw [numberLiteral?, hfloat, hint]
  rfl

theorem leaf?_of_name {c : Char} {q : Location} {cs rest : Chars} {text : String}
    (hc : isIdentifierStart c = true) (hstring : stringLiteral? ((c, q) :: cs) = none)
    (hchar : charLiteral? ((c, q) :: cs) = none) (hstarts : stringStarts.any (startsWith · ((c, q) :: cs)) = false)
    (hname : name? ((c, q) :: cs) = some (text, rest)) (p : Location) :
    leaf? ((c, q) :: cs) p = some (.word text p, rest) := by
  have hquote : c ≠ '\'' := by
    rintro rfl
    exact absurd hc (by decide)
  have hsign : beginsSign ((c, q) :: cs) = false := by
    rw [beginsSign, isSign_of_class (by decide) hc, Bool.false_and, Bool.false_and]
  unfold leaf?
  simp only [hstring, hchar, numberLiteral?_of_start hc, hquote, hsign, hstarts, hname]
  rfl

theorem solid_of_start {c : Char} (hc : isIdentifierStart c = true) : Solid c :=
  solid_of_class (by decide +kernel) hc

theorem afterName?_word {cs rest : Chars} (hcs : IsPlainName (cs.map Prod.fst)) (hrest : Ends rest) :
    afterName? (cs ++ rest) = some rest := by
  obtain ⟨c, tail, hword, hc, htail⟩ := hcs
  obtain ⟨⟨_, p⟩, cs, rfl, rfl, rfl⟩ := List.map_eq_cons_iff.mp hword
  have hcs : ∀ x ∈ cs, isIdentifierRest x.1 = true := fun x hx => htail x.1 (List.mem_map_of_mem hx)
  rw [List.cons_append, afterName?, if_pos hc, dropWhile_word hcs hrest]

theorem isToken_plain {word : List Char} (hword : IsPlainName word) :
    IsToken word (.word (String.ofList word)) := by
  rintro cs rest rfl hrest hplaces
  have hcs : ∀ x ∈ cs, isIdentifierRest x.1 = true :=
    fun x hx => hword.isIdentifierRest x.1 (List.mem_map_of_mem hx)
  have hname : name? (cs ++ rest) = some (String.ofList (cs.map Prod.fst), rest) := by
    rw [name?, after?_word hcs hrest (by decide) (by decide), afterName?_word hword hrest]
    exact congrArg (fun text => some (text, rest)) (textBefore_append hplaces)
  have hstring := stringLiteral?_word hcs hrest
  have hchar := charLiteral?_word hcs hrest
  have hstarts := stringStarts_word hcs hrest
  obtain ⟨c, tail, hchars, hc, -⟩ := hword
  obtain ⟨⟨_, p⟩, cs, rfl, rfl, -⟩ := List.map_eq_cons_iff.mp hchars
  exact ⟨_, p, cs, _, rfl, solid_of_start hc, leaf?_of_name hc hstring hchar hstarts hname p, rfl⟩

theorem isToken_raw {word : List Char} (hword : IsPlainName word) (hraw : String.ofList word ∉ neverRaw) :
    IsToken ('r' :: '#' :: word) (.word ("r#" ++ String.ofList word)) := by
  intro cs rest hcs hrest hplaces
  obtain ⟨⟨_, p⟩, tail, rfl, rfl, htail⟩ := List.map_eq_cons_iff.mp hcs
  obtain ⟨⟨_, q⟩, body, rfl, rfl, rfl⟩ := List.map_eq_cons_iff.mp htail
  have hbody : ∀ x ∈ body, isIdentifierRest x.1 = true :=
    fun x hx => hword.isIdentifierRest x.1 (List.mem_map_of_mem hx)
  have hname : name? (('r', p) :: ('#', q) :: (body ++ rest)) =
      some ("r#" ++ String.ofList (body.map Prod.fst), rest) := by
    simp only [List.cons_append, List.map_cons, List.nodup_cons] at hplaces
    have htext := textBefore_append hplaces.2.2
    have hafter : after? ['r', '#'] (('r', p) :: ('#', q) :: (body ++ rest)) = some (body ++ rest) := rfl
    rw [name?, hafter]
    dsimp only
    rw [afterName?_word hword hrest, Option.bind_some, htext, if_neg (by simpa using hraw)]
  -- A raw string can begin with the same two signs, but then a quote or another sign follows and no letter.
  have hstring : stringLiteral? (('r', p) :: ('#', q) :: (body ++ rest)) = none := by
    have hdelimiter : rawDelimiter 0 (('#', q) :: (body ++ rest)) = none := rawDelimiter_word hbody hrest 1
    show (rawDelimiter 0 (('#', q) :: (body ++ rest))).bind _ = none
    rw [hdelimiter]
    rfl
  have hchar : charLiteral? (('r', p) :: ('#', q) :: (body ++ rest)) = none := rfl
  have hstarts : stringStarts.any (startsWith · (('r', p) :: ('#', q) :: (body ++ rest))) = false := by
    have hquote : after? ['"'] (body ++ rest) = none := after?_word hbody hrest (by decide) (by decide)
    have hmark : after? ['#'] (body ++ rest) = none := after?_word hbody hrest (by decide) (by decide)
    simp [stringStarts, startsWith, after?, hquote, hmark]
  exact ⟨'r', p, _, _, rfl, solid_of_start (by decide), leaf?_of_name (by decide) hstring hchar hstarts hname p, rfl⟩

theorem isToken_name {word : List Char} (hword : IsName word) : IsToken word (.word (String.ofList word)) := by
  cases hword with
  | plain h => exact isToken_plain h
  | @raw word h hraw =>
      have htext : String.ofList ('r' :: '#' :: word) = "r#" ++ String.ofList word := by
        rw [← String.toList_inj]
        simp
      rw [htext]
      exact isToken_raw h hraw

theorem begins_name {word : List Char} (hword : IsName word) : Begins word := by
  cases hword with
  | plain h =>
      obtain ⟨c, cs, rfl, hc, -⟩ := h
      exact ⟨c, cs, rfl, solid_of_start hc⟩
  | raw h _ => exact ⟨'r', _, rfl, solid_of_start (by decide)⟩

theorem begins_signs {signs : List Char} (hne : signs ≠ []) (hsigns : ∀ c ∈ signs, c ∈ ordinarySigns) :
    Begins signs := by
  obtain ⟨c, signs, rfl⟩ := List.exists_cons_of_ne_nil hne
  exact ⟨c, signs, rfl, solid_of_ordinary (hsigns c List.mem_cons_self)⟩

/-! ## Signed numbers -/

def numberSymbols (n : Int) : List Symbol :=
  if n < 0 then [.sign '-' false, .literal (Numeral.ofNat 10 n.natAbs)] else [.literal (Numeral.ofNat 10 n.natAbs)]

theorem begins_digits (n : Nat) : Begins (Numeral.digits 10 n) := by
  obtain ⟨c, cs, hcs⟩ := List.exists_cons_of_ne_nil (Numeral.digits_ne_nil 10 n)
  exact ⟨c, cs, hcs, solid_of_isDecimal (isDecimal_of_mem_digits (hcs ▸ List.mem_cons_self))⟩

theorem apart_digits (n : Nat) (text : List Char) : Apart (Numeral.digits 10 n ++ text) := by
  intro c hc
  obtain ⟨d, ds, hds⟩ := List.exists_cons_of_ne_nil (Numeral.digits_ne_nil 10 n)
  rw [hds, List.cons_append, List.head?_cons, Option.some.injEq] at hc
  exact isSign_of_class (by decide) (isDecimal_of_mem_digits (n := n) (hds ▸ hc ▸ List.mem_cons_self))

theorem begins_decimal (n : Int) : Begins (Numeral.decimal n).toList := by
  rw [Numeral.decimal, Numeral.toList_ofInt]
  split
  · exact ⟨'-', _, rfl, solid_of_ordinary (by decide)⟩
  · exact begins_digits _

theorem lexes_decimal (n : Int) {text : List Char} (htext : Stops text) {ss : List Symbol}
    (h : Lexes text ss) : Lexes ((Numeral.decimal n).toList ++ text) (numberSymbols n ++ ss) := by
  have hdigits := (isToken_number n.natAbs).lexes htext h
  rw [Numeral.decimal, Numeral.toList_ofInt, numberSymbols]
  split
  · have hminus : ∀ c ∈ ['-'], c ∈ ordinarySigns := by simp [ordinarySigns]
    exact lexes_signs hminus (apart_digits _ text) hdigits
  · exact hdigits

end WireSchema.Grammar
