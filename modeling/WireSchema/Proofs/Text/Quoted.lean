import WireSchema.Proofs.Text.Positional
import WireSchema.Text.Quoted

/-!
Quoted text read back. A literal is a sequence of elements between two quotes, one element for each character: the
character itself, a backslash and a name, or a backslash and a code point. What is written of a text is such a
literal, and reading a literal gives the text and stops after its closing quote.
-/

namespace WireSchema.Text.Quoted

open WireSchema.Text.Numeral

/-! ## Literals -/

/-- The characters that may stand after a backslash, each with the character for which it stands. -/
def names : List (Char × Char) :=
  [('"', '"'), ('\\', '\\'), ('n', '\n'), ('r', '\r'), ('t', '\t'), ('0', '\x00')]

/-- How a character is spelled in a literal. A quote and a backslash never stand for themselves. -/
inductive Element : List Char → Char → Prop
  | plain {c : Char} (hc : c ≠ '"' ∧ c ≠ '\\') (hbreak : c ≠ '\n' ∧ c ≠ '\r') : Element [c] c
  | named {name c : Char} (hname : (name, c) ∈ names) : Element ['\\', name] c
  | code {ds : List Char} {c : Char} (hds : Denotes 16 ds c.toNat) (hlength : ds.length ≤ 6) :
      Element (['\\', 'u', '{'] ++ ds ++ ['}']) c

/-- The literal spells the text. -/
def Literal (l text : List Char) : Prop :=
  ∃ es, List.Forall₂ Element es text ∧ l = '"' :: (es.flatten ++ ['"'])

theorem toNat_lt_of_char (c : Char) : c.toNat < 16 ^ 6 := by
  have hvalid := c.valid
  simp only [UInt32.isValidChar, Nat.isValidChar] at hvalid
  rw [Char.toNat]
  omega

theorem element_escape (c : Char) : Element (escape c) c := by
  rw [escape]
  split_ifs with hquote hbackslash hfeed hreturn htab hnull hprintable
  · subst hquote
    exact .named (by decide)
  · subst hbackslash
    exact .named (by decide)
  · subst hfeed
    exact .named (by decide)
  · subst hreturn
    exact .named (by decide)
  · subst htab
    exact .named (by decide)
  · subst hnull
    exact .named (by decide)
  · exact .plain ⟨hquote, hbackslash⟩ ⟨hfeed, hreturn⟩
  · -- six digits are enough for every code point
    exact .code (canonical_digits (by decide) (by decide) c.toNat).denotes
      (length_digits_le (by decide) (by decide) (toNat_lt_of_char c))

theorem literal_encodeChars (text : List Char) : Literal (encodeChars text) text := by
  refine ⟨text.map escape, ?_, ?_⟩
  · rw [List.forall₂_map_left_iff]
    exact List.forall₂_same.mpr fun c _ => element_escape c
  · rw [encodeChars, List.flatMap_def, List.cons_append]

theorem Element.ne_nil {e : List Char} {c : Char} (h : Element e c) : e ≠ [] := by
  cases h <;> exact List.cons_ne_nil _ _

theorem Element.no_break {e : List Char} {c : Char} (h : Element e c) : '\n' ∉ e ∧ '\r' ∉ e := by
  cases h with
  | plain _ hbreak =>
      exact ⟨mt List.mem_singleton.mp hbreak.1.symm, mt List.mem_singleton.mp hbreak.2.symm⟩
  | named hname =>
      have htable : ∀ entry ∈ names, '\n' ∉ ['\\', entry.1] ∧ '\r' ∉ ['\\', entry.1] := by decide
      exact htable _ hname
  | @code ds _ hds _ =>
      have hdigit {b : Char} (hb : digitValue? 16 b = none) : b ∉ ds := by
        intro hmem
        obtain ⟨d, hd⟩ := hds.isDigit_of_mem hmem
        rw [(digitValue?_eq_some_iff (by decide)).mpr hd] at hb
        cases hb
      have hfeed : '\n' ∉ ds := hdigit (by decide)
      have hreturn : '\r' ∉ ds := hdigit (by decide)
      simp [hfeed, hreturn]

theorem Literal.no_break {l text : List Char} (h : Literal l text) : '\n' ∉ l ∧ '\r' ∉ l := by
  obtain ⟨es, hes, rfl⟩ := h
  have hinside : '\n' ∉ es.flatten ∧ '\r' ∉ es.flatten := by
    induction hes with
    | nil => decide
    | cons he _ ih =>
        simp only [List.flatten_cons, List.mem_append, not_or]
        exact ⟨⟨he.no_break.1, ih.1⟩, he.no_break.2, ih.2⟩
  simp [hinside]

/-! ## Reading -/

/-- Where a reader stands: between two elements, after a backslash, before the brace of a code point, or among its
digits, with their value and their number so far. -/
inductive Place where
  | between
  | escape
  | brace
  | digits (value count : Nat)
  deriving DecidableEq, Repr

/-- The text up to the closing quote, and what follows the quote. -/
def readFrom : Place → List Char → Option (List Char × List Char)
  | _, [] => none
  | .between, c :: cs =>
    if c = '"' then some ([], cs)
    else if c = '\\' then readFrom .escape cs
    else if c = '\r' then none
    else (readFrom .between cs).map (Prod.map (c :: ·) id)
  | .escape, c :: cs =>
    if c = 'u' then readFrom .brace cs
    else (names.lookup c).bind fun d => (readFrom .between cs).map (Prod.map (d :: ·) id)
  | .brace, c :: cs => if c = '{' then readFrom (.digits 0 0) cs else none
  | .digits value count, c :: cs =>
    match digitValue? 16 c with
    | some d => if count = 6 then none else readFrom (.digits (value * 16 + d) (count + 1)) cs
    | none =>
      if count = 0 then none
      else if c = '_' then readFrom (.digits value count) cs
      else if c = '}' ∧ value.isValidChar then
        (readFrom .between cs).map (Prod.map (Char.ofNat value :: ·) id)
      else none

/-- The text of the literal at the front, and what follows it. -/
def read? : List Char → Option (List Char × List Char)
  | '"' :: cs => readFrom .between cs
  | _ => none

/-- The closing brace ends the digits. -/
theorem readFrom_digits {value count : Nat} {ds : List Char} {c : Char}
    (hvalue : valueFrom 16 value ds = some c.toNat) (hsome : 0 < count + ds.length) (hmost : count + ds.length ≤ 6)
    (rest : List Char) :
    readFrom (.digits value count) (ds ++ '}' :: rest) =
      (readFrom .between rest).map (Prod.map (c :: ·) id) := by
  induction ds generalizing value count with
  | nil =>
      have hcount : count ≠ 0 := Nat.ne_of_gt hsome
      have hbrace : digitValue? 16 '}' = none := by decide
      obtain rfl : value = c.toNat := Option.some.inj hvalue
      have hvalid : c.toNat.isValidChar := c.valid
      simp [readFrom, hbrace, hcount, hvalid]
  | cons d ds ih =>
      rw [valueFrom, Option.bind_eq_some_iff] at hvalue
      obtain ⟨k, hk, hvalue⟩ := hvalue
      rw [List.length_cons] at hsome hmost
      rw [List.cons_append, readFrom, hk]
      dsimp only
      rw [if_neg (by omega), ih hvalue (by omega) (by omega)]

theorem readFrom_element {e : List Char} {c : Char} (h : Element e c) (rest : List Char) :
    readFrom .between (e ++ rest) = (readFrom .between rest).map (Prod.map (c :: ·) id) := by
  cases h with
  | plain hc hbreak => rw [List.singleton_append, readFrom, if_neg hc.1, if_neg hc.2, if_neg hbreak.2]
  | @named name c hname =>
      have htable : ∀ entry ∈ names, entry.1 ≠ 'u' ∧ names.lookup entry.1 = some entry.2 := by decide
      obtain ⟨hu, hlookup⟩ := htable _ hname
      show readFrom .escape (name :: rest) = _
      rw [readFrom, if_neg hu, hlookup, Option.bind_some]
  | @code ds c hds hlength =>
      have hpos : 0 < ds.length := List.length_pos_iff.mpr hds.1
      rw [List.append_assoc, List.append_assoc]
      exact readFrom_digits (hds.valueFrom_eq (by decide)) (by omega) (by omega) rest

theorem readFrom_elements {es : List (List Char)} {text : List Char} (h : List.Forall₂ Element es text)
    (rest : List Char) : readFrom .between (es.flatten ++ '"' :: rest) = some (text, rest) := by
  induction h with
  | nil => rfl
  | cons he _ ih =>
      rw [List.flatten_cons, List.append_assoc, readFrom_element he, ih]
      rfl

theorem Literal.read?_eq {l text : List Char} (h : Literal l text) (rest : List Char) :
    read? (l ++ rest) = some (text, rest) := by
  obtain ⟨es, hes, rfl⟩ := h
  rw [List.cons_append, List.append_assoc]
  exact readFrom_elements hes rest

end WireSchema.Text.Quoted
