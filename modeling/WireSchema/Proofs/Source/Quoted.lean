import WireSchema.Grammar.Literal
import WireSchema.Proofs.Source.Sheet
import WireSchema.Proofs.Text.Quoted

/-!
Quoted text on a sheet. The grammar of the generated language takes a literal as one token, which ends at its
closing quote, and inside a line a sheet takes it as it is. So no text can end its own literal or its line, and what
is read there is the text.
-/

namespace WireSchema

open WireSchema.Text

namespace Grammar

open Quoted Numeral

/-- The code point is valid, and the closing brace ends it. -/
theorem afterCodeDigits_digits {value count : Nat} {ds : Chars} {c : Char}
    (hvalue : valueFrom 16 value (ds.map Prod.fst) = some c.toNat) (hsome : 0 < count + ds.length)
    (hmost : count + ds.length ≤ 6) (p : Location) (rest : Chars) :
    afterCodeDigits value count (ds ++ ('}', p) :: rest) = some rest := by
  induction ds generalizing value count with
  | nil =>
      have hcount : count ≠ 0 := Nat.ne_of_gt hsome
      have hbrace : digitValue? 16 '}' = none := by decide
      obtain rfl : value = c.toNat := Option.some.inj hvalue
      have hvalid : c.toNat.isValidChar := c.valid
      simp [afterCodeDigits, hbrace, hcount, hvalid]
  | cons d ds ih =>
      rw [List.map_cons, valueFrom, Option.bind_eq_some_iff] at hvalue
      obtain ⟨k, hk, hvalue⟩ := hvalue
      rw [List.length_cons] at hsome hmost
      rw [List.cons_append, afterCodeDigits, hk]
      dsimp only
      rw [if_neg (by omega), ih hvalue (by omega) (by omega)]

theorem afterString_backslash {d : Char} (hd : d ≠ '\n' ∧ d ≠ '\r') (fuel : Nat) (p q : Location) (rest : Chars) :
    afterString .chars (fuel + 1) (('\\', p) :: (d, q) :: rest) =
      (afterEscape .chars ((d, q) :: rest)).bind (afterString .chars fuel) := by
  rw [afterString, if_neg (by decide), if_neg (by decide), if_pos rfl]
  · rintro _ _ ⟨⟩
    exact hd.1 rfl
  · rintro _ _ ⟨⟩
    exact hd.2 rfl

theorem afterEscape_name {name c : Char} (hname : (name, c) ∈ names) (p : Location) (rest : Chars) :
    afterEscape .chars ((name, p) :: rest) = some rest := by
  have htable : ∀ entry ∈ names,
      entry.1 ≠ 'x' ∧ entry.1 ≠ 'u' ∧ isSimpleEscape .chars entry.1 = true := by decide
  obtain ⟨hx, hu, hsimple⟩ := htable _ hname
  rw [afterEscape, if_neg hx, if_neg hu, if_pos hsimple]

theorem afterString_element {e : List Char} {c : Char} (h : Element e c) {cs : Chars}
    (hcs : cs.map Prod.fst = e) (fuel : Nat) (rest : Chars) :
    afterString .chars (fuel + 1) (cs ++ rest) = afterString .chars fuel rest := by
  cases h with
  | plain hc hbreak =>
      obtain ⟨⟨_, p⟩, rfl, rfl⟩ := List.map_eq_singleton_iff.mp hcs
      simp [afterString, hc, hbreak.2]
  | named hname =>
      obtain ⟨⟨_, p⟩, tail, rfl, rfl, htail⟩ := List.map_eq_cons_iff.mp hcs
      obtain ⟨⟨name, q⟩, rfl, rfl⟩ := List.map_eq_singleton_iff.mp htail
      have hbreak : ∀ entry ∈ names, entry.1 ≠ '\n' ∧ entry.1 ≠ '\r' := by decide
      show afterString .chars (fuel + 1) (('\\', p) :: (name, q) :: rest) = _
      rw [afterString_backslash (hbreak _ hname), afterEscape_name hname, Option.bind_some]
  | code hds hlength =>
      obtain ⟨_, close, rfl, hopen, hclose⟩ := List.map_eq_append_iff.mp hcs
      obtain ⟨⟨_, p₁⟩, _, rfl, rfl, hletter⟩ := List.map_eq_cons_iff.mp hopen
      obtain ⟨⟨_, p₂⟩, _, rfl, rfl, hbrace⟩ := List.map_eq_cons_iff.mp hletter
      obtain ⟨⟨_, p₃⟩, ds, rfl, rfl, rfl⟩ := List.map_eq_cons_iff.mp hbrace
      obtain ⟨⟨_, p₄⟩, rfl, rfl⟩ := List.map_eq_singleton_iff.mp hclose
      rw [List.length_map] at hlength
      have hpos : 0 < ds.length := List.length_pos_iff.mpr fun h => hds.1 (h ▸ rfl)
      have hescape : afterEscape .chars (('u', p₂) :: ('{', p₃) :: (ds ++ ('}', p₄) :: rest)) = some rest :=
        afterCodeDigits_digits (hds.valueFrom_eq (by decide)) (by simpa using hpos) (by simpa using hlength) p₄ rest
      calc afterString .chars (fuel + 1) ((('\\', p₁) :: ('u', p₂) :: ('{', p₃) :: ds ++ [('}', p₄)]) ++ rest)
        _ = (afterEscape .chars (('u', p₂) :: ('{', p₃) :: (ds ++ ('}', p₄) :: rest))).bind
              (afterString .chars fuel) := by
            rw [List.append_assoc]
            exact afterString_backslash (by decide) fuel p₁ p₂ _
        _ = afterString .chars fuel rest := by rw [hescape, Option.bind_some]

theorem afterString_elements {es : List (List Char)} {text : List Char} (h : List.Forall₂ Element es text)
    {cs : Chars} (hcs : cs.map Prod.fst = es.flatten) {fuel : Nat} (hfuel : cs.length < fuel) (p : Location)
    (rest : Chars) : afterString .chars fuel (cs ++ ('"', p) :: rest) = some (afterSuffix rest) := by
  induction h generalizing cs fuel with
  | nil =>
      obtain ⟨fuel, rfl⟩ := Nat.exists_eq_add_one_of_ne_zero (Nat.ne_zero_of_lt hfuel)
      rw [List.map_eq_nil_iff.mp hcs]
      rfl
  | cons he _ ih =>
      obtain ⟨fuel, rfl⟩ := Nat.exists_eq_add_one_of_ne_zero (Nat.ne_zero_of_lt hfuel)
      -- an element takes one unit of fuel and at least one character
      obtain ⟨front, back, rfl, hfront, hback⟩ := List.map_eq_append_iff.mp hcs
      have hpos : 0 < front.length := List.length_pos_iff.mpr fun h => he.ne_nil (hfront ▸ h ▸ rfl)
      rw [List.length_append] at hfuel
      rw [List.append_assoc, afterString_element he hfront]
      exact ih hback (by omega)

/-- A literal is one token; only a name right after it would be taken as its suffix. -/
theorem stringLiteral?_literal {l text : List Char} (h : Literal l text) {cs : Chars} (hcs : cs.map Prod.fst = l)
    (rest : Chars) : stringLiteral? (cs ++ rest) = some (afterSuffix rest) := by
  obtain ⟨es, hes, rfl⟩ := h
  obtain ⟨⟨_, p⟩, tail, rfl, rfl, htail⟩ := List.map_eq_cons_iff.mp hcs
  obtain ⟨inside, close, rfl, hinside, hclose⟩ := List.map_eq_append_iff.mp htail
  obtain ⟨⟨_, q⟩, rfl, rfl⟩ := List.map_eq_singleton_iff.mp hclose
  have hfuel : inside.length < (inside ++ ('"', q) :: rest).length + 1 := by
    rw [List.length_append]
    omega
  rw [List.cons_append, List.append_assoc]
  exact afterString_elements hes hinside hfuel q rest

end Grammar

namespace Source.Sheet

/-- Inside a line the text is added as one literal: the quotes and backslashes of the text are escaped in it, and
it has no line feed and no carriage return. Nothing else is added, and the line and its depth go on. Reading the
literal, whatever follows it, gives the text, and the grammar takes it as one token. -/
theorem writeQuoted_reads_back {s : Sheet} (hs : s.line ≠ []) (text : String) :
    ∃ l, Quoted.Literal l text.toList ∧ '\n' ∉ l ∧ '\r' ∉ l ∧
      s.writeQuoted text = { s with reversed := l.reverse ++ s.reversed, line := l.reverse ++ s.line } ∧
      (s.writeQuoted text).text = s.text ++ String.ofList l ∧
      (∀ rest, Quoted.read? (l ++ rest) = some (text.toList, rest)) ∧
      ∀ cs : Grammar.Chars, cs.map Prod.fst = l → ∀ rest,
        Grammar.stringLiteral? (cs ++ rest) = some (Grammar.afterSuffix rest) := by
  have hliteral := Quoted.literal_encodeChars text.toList
  obtain ⟨hfeed, hreturn⟩ := hliteral.no_break
  refine ⟨_, hliteral, hfeed, hreturn, ?_, ?_, hliteral.read?_eq, fun cs hcs =>
    Grammar.stringLiteral?_literal hliteral hcs⟩
  · rw [writeQuoted, write, Quoted.encode, String.toList_ofList, foldl_put_inside hs hfeed]
  · have hadds := s.adds_write (oneLine_ofList.mpr hfeed)
    rwa [Adds, String.toList_ofList, margin_of_line hs, List.nil_append] at hadds

/-- A quote, a backslash, a line feed and a character without a visible form, after a bracket. -/
theorem writeQuoted_reads_back_hidden :
    (empty.put '(').line ≠ [] ∧ ∃ l,
      ((empty.put '(').writeQuoted "\"\\\n\x7f").text = "(" ++ String.ofList l ∧
        Quoted.read? (l ++ [')']) = some (['"', '\\', '\n', '\x7f'], [')']) := by
  have hs : (empty.put '(').line ≠ [] := by decide
  obtain ⟨l, -, -, -, -, htext, hread, -⟩ := writeQuoted_reads_back hs "\"\\\n\x7f"
  exact ⟨hs, l, htext, hread [')']⟩

end Source.Sheet

end WireSchema
