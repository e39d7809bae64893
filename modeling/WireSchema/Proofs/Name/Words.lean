import WireSchema.Proofs.Name.Normal
import WireSchema.Proofs.Schema.Normalize
import WireSchema.Source.Codec

/-!
The two spellings of names that are made of words. In the pascal form every word begins with a capital and nothing
stands between the words. Where a word has at least two characters, the character before the next capital is a small
letter or a digit, so the capital begins a word, and the underscore is put back where it was taken away. A word of
one letter would leave two capitals next to each other. The export of field names is such a change of spelling.
-/

namespace WireSchema.Name

open WireSchema.Text

/-! ## The characters of words -/

/-- A small letter or a digit of ASCII. -/
def IsTail (c : Char) : Prop :=
  c.isLower = true ∨ c.isDigit = true

instance : DecidablePred IsTail :=
  fun _ => inferInstanceAs (Decidable (_ ∨ _))

/-- A small letter of ASCII and then at least one small letter or digit. -/
def Ordinary (word : List Char) : Prop :=
  ∃ c d rest, word = c :: d :: rest ∧ c.isLower = true ∧ ∀ e ∈ d :: rest, IsTail e

instance (word : List Char) : Decidable (Ordinary word) :=
  match word with
  | [] => isFalse nofun
  | [_] => isFalse nofun
  | c :: d :: rest =>
    decidable_of_iff (c.isLower = true ∧ ((d :: rest).all fun e => e.isLower || e.isDigit) = true) <| by
      constructor
      · rintro ⟨hc, htail⟩
        exact ⟨c, d, rest, rfl, hc, fun e he => Bool.or_eq_true_iff.mp (List.all_eq_true.mp htail e he)⟩
      · rintro ⟨_, _, _, hword, hc, htail⟩
        cases hword
        exact ⟨hc, List.all_eq_true.mpr fun e he => Bool.or_eq_true_iff.mpr (htail e he)⟩

theorem IsTail.ascii {c : Char} (h : IsTail c) : c.toNat < 0x80 := by
  apply ascii_of_isAlphanum
  show (c.isUpper || c.isLower || c.isDigit) = true
  rcases h with hlower | hdigit
  · rw [hlower, Bool.or_true, Bool.true_or]
  · rw [hdigit, Bool.or_true]

theorem IsTail.plain {c : Char} (h : IsTail c) : isSeparator c = false ∧ c.toLower = c := by
  have hascii := h.ascii
  revert h
  exact ascii_cases hascii (by decide)

theorem IsTail.small {c : Char} (h : IsTail c) : Small c := by
  have hsmall := small_toLower h.ascii
  rwa [h.plain.2] at hsmall

/-- A capital after the character begins a word. -/
theorem IsTail.endsWord {c : Char} (h : IsTail c) : (isLowercase c || c.isDigit) = true := by
  have hascii : isLowercase c = c.isLower := if_pos h.ascii
  rw [hascii, Bool.or_eq_true]
  exact h

/-- What the capital of a small letter is. -/
theorem toUpper_plain {c : Char} (h : c.isLower = true) :
    c.toUpper.toNat < 0x80 ∧ isSeparator c.toUpper = false ∧ c.toUpper.isUpper = true ∧ c.toUpper.toLower = c := by
  have hascii := ascii_of_isLower h
  revert h
  exact ascii_cases hascii (by decide)

theorem capitalizeChars_of_isLower {c : Char} (h : c.isLower = true) (cs : List Char) :
    capitalizeChars (c :: cs) = c.toUpper :: cs := by
  rw [capitalizeChars, uppercase, if_pos (ascii_of_isLower h)]
  rfl

theorem Ordinary.ne_nil {word : List Char} (h : Ordinary word) : word ≠ [] := by
  obtain ⟨c, d, rest, rfl, -⟩ := h
  nofun

theorem Ordinary.isTail {word : List Char} (h : Ordinary word) {c : Char} (hc : c ∈ word) : IsTail c := by
  obtain ⟨first, d, rest, rfl, hfirst, htail⟩ := h
  rcases List.mem_cons.mp hc with rfl | hmem
  · exact Or.inl hfirst
  · exact htail c hmem

/-! ## The pascal form -/

theorem pascalFrom_tail {tail : List Char} (htail : ∀ c ∈ tail, IsTail c) (rest : List Char) :
    pascalFrom false (tail ++ rest) = tail ++ pascalFrom false rest := by
  induction tail with
  | nil => rfl
  | cons c tail ih =>
      obtain ⟨hc, htail⟩ := List.forall_mem_cons.mp htail
      have hkept : ¬(c = '-' ∨ c = '_') := by
        rintro (rfl | rfl) <;> cases hc.plain.1
      rw [List.cons_append, pascalFrom, if_neg hkept, ih htail]
      rfl

theorem Ordinary.pascalFrom {word : List Char} (h : Ordinary word) (rest : List Char) :
    pascalFrom true (word ++ rest) = capitalizeChars word ++ pascalFrom false rest := by
  obtain ⟨c, d, tail, rfl, hc, htail⟩ := h
  rw [List.cons_append, pascalFrom_of_isLower hc, pascalFrom_tail htail, capitalizeChars_of_isLower hc]
  rfl

/-- Words after the first one lose the underscores before them. -/
theorem pascalFrom_words {words : List (List Char)} (hwords : ∀ w ∈ words, Ordinary w) :
    pascalFrom false (words.flatMap ('_' :: ·)) = words.flatMap capitalizeChars := by
  induction words with
  | nil => rfl
  | cons w words ih =>
      obtain ⟨hw, hwords⟩ := List.forall_mem_cons.mp hwords
      rw [List.flatMap_cons, List.cons_append, Name.pascalFrom, if_pos (Or.inr rfl), hw.pascalFrom, ih hwords,
        List.flatMap_cons]

/-! ## Back to the snake form -/

theorem snakeFrom_tail {tail : List Char} (htail : ∀ c ∈ tail, IsTail c) (prev : Option Char)
    (acc rest : List Char) :
    snakeFrom prev acc (tail ++ rest) = snakeFrom (tail.getLast?.or prev) (tail.reverse ++ acc) rest := by
  induction tail generalizing prev acc with
  | nil => rfl
  | cons c tail ih =>
      obtain ⟨hc, htail⟩ := List.forall_mem_cons.mp htail
      have hlast : (c :: tail).getLast?.or prev = tail.getLast?.or (some c) := by
        rw [List.getLast?_cons]
        cases tail.getLast? <;> rfl
      rw [List.cons_append, snakeFrom_small hc.plain.1 hc.small, ih htail, hlast, List.reverse_cons,
        List.append_assoc]
      rfl

/-- A capital puts an underscore if something is there already, since that ends in a small letter or a digit. -/
theorem snakeFrom_capital {c : Char} (hc : c.isLower = true) {acc : List Char} (hacc : ∀ p ∈ acc.head?, IsTail p)
    (cs : List Char) :
    snakeFrom acc.head? acc (c.toUpper :: cs) = snakeFrom (some c.toUpper) (c :: underscore acc) cs := by
  obtain ⟨hascii, hplain, hupper, hlower⟩ := toUpper_plain hc
  have hbefore : (if beginsWord acc.head? c.toUpper cs.head? then underscore acc else acc) = underscore acc := by
    -- before the first word there is nothing to put an underscore after
    cases acc with
    | nil => exact ite_self []
    | cons p acc =>
        have hp : IsTail p := hacc p rfl
        apply if_pos
        rw [List.head?_cons, beginsWord, isUppercase_of_ascii hascii, hupper, hp.endsWord, Bool.true_or]
        rfl
  rw [snakeFrom, if_neg (Bool.eq_false_iff.mp hplain)]
  simp only [hbefore, lowercase_of_ascii hascii, hlower]
  rfl

/-- One word more. -/
theorem Ordinary.snakeFrom {word : List Char} (h : Ordinary word) {acc : List Char}
    (hacc : ∀ p ∈ acc.head?, IsTail p) (rest : List Char) :
    snakeFrom acc.head? acc (capitalizeChars word ++ rest) =
      snakeFrom (word.reverse ++ underscore acc).head? (word.reverse ++ underscore acc) rest := by
  obtain ⟨c, d, tail, rfl, hc, htail⟩ := h
  have hlast : (d :: tail).getLast?.or (some c.toUpper) = (c :: d :: tail).getLast? := by
    rw [List.getLast?_cons_cons, List.getLast?_cons]
    rfl
  have hhead : ((c :: d :: tail).reverse ++ underscore acc).head? = (c :: d :: tail).getLast? := by
    rw [List.head?_append, List.head?_reverse, List.getLast?_cons]
    rfl
  rw [capitalizeChars_of_isLower hc, List.cons_append, snakeFrom_capital hc hacc, snakeFrom_tail htail, hlast, hhead,
    List.reverse_cons (a := c), List.append_assoc, List.singleton_append]

theorem Ordinary.head?_reverse {word : List Char} (h : Ordinary word) (acc : List Char) :
    ∀ p ∈ (word.reverse ++ acc).head?, IsTail p := by
  intro p hp
  have hne : word.reverse ≠ [] := mt List.reverse_eq_nil_iff.mp h.ne_nil
  rw [List.head?_append_of_ne_nil _ hne] at hp
  exact h.isTail (List.mem_reverse.mp (List.mem_of_head? hp))

/-- The run over capitalized words puts back the underscores between them; the invariant is that the result so far
ends in a small letter or a digit. -/
theorem snakeFrom_words {words : List (List Char)} (hwords : ∀ w ∈ words, Ordinary w) {acc : List Char}
    (hne : acc ≠ []) (hacc : ∀ p ∈ acc.head?, IsTail p) :
    snakeFrom acc.head? acc (words.flatMap capitalizeChars) = (words.flatMap ('_' :: ·)).reverse ++ acc := by
  induction words generalizing acc with
  | nil => rfl
  | cons w words ih =>
      obtain ⟨hw, hwords⟩ := List.forall_mem_cons.mp hwords
      have hunderscore : underscore acc = '_' :: acc := by
        apply underscore_of_head? hne
        intro hhead
        cases (hacc '_' hhead).plain.1
      have hnext : w.reverse ++ '_' :: acc ≠ [] := List.append_ne_nil_of_right_ne_nil _ (List.cons_ne_nil _ _)
      calc snakeFrom acc.head? acc ((w :: words).flatMap capitalizeChars)
          = snakeFrom (w.reverse ++ '_' :: acc).head? (w.reverse ++ '_' :: acc) (words.flatMap capitalizeChars) := by
            rw [List.flatMap_cons, hw.snakeFrom hacc, hunderscore]
        _ = (words.flatMap ('_' :: ·)).reverse ++ (w.reverse ++ '_' :: acc) :=
            ih hwords hnext (hw.head?_reverse _)
        _ = ((w :: words).flatMap ('_' :: ·)).reverse ++ acc := by
            simp

theorem head?_words {words : List (List Char)} (hwords : ∀ w ∈ words, Ordinary w) {acc : List Char}
    (hacc : ∀ p ∈ acc.head?, IsTail p) : ∀ p ∈ ((words.flatMap ('_' :: ·)).reverse ++ acc).head?, IsTail p := by
  induction words generalizing acc with
  | nil => exact hacc
  | cons w words ih =>
      obtain ⟨hw, hwords⟩ := List.forall_mem_cons.mp hwords
      rw [List.flatMap_cons, List.reverse_append, List.append_assoc, List.reverse_cons, List.append_assoc]
      exact ih hwords (hw.head?_reverse _)

theorem snakeChars_words {w : List Char} {words : List (List Char)} (hwords : ∀ v ∈ w :: words, Ordinary v) :
    snakeChars ((w :: words).flatMap capitalizeChars) = w ++ words.flatMap ('_' :: ·) := by
  obtain ⟨hw, hrest⟩ := List.forall_mem_cons.mp hwords
  have hstart : ∀ p ∈ ([] : List Char).head?, IsTail p := nofun
  have hne : w.reverse ++ [] ≠ [] := by
    rw [List.append_nil]
    exact mt List.reverse_eq_nil_iff.mp hw.ne_nil
  have hrun : snakeFrom none [] ((w :: words).flatMap capitalizeChars) =
      (words.flatMap ('_' :: ·)).reverse ++ (w.reverse ++ []) := by
    rw [List.flatMap_cons]
    exact (hw.snakeFrom hstart _).trans (snakeFrom_words hrest hne (hw.head?_reverse []))
  have hlast : ((words.flatMap ('_' :: ·)).reverse ++ (w.reverse ++ [])).head? ≠ some '_' := by
    intro hhead
    cases (head?_words hrest (hw.head?_reverse []) '_' hhead).plain.1
  rw [snakeChars, hrun, dropUnderscore_of_head? hlast]
  simp

/-- Joined words are the first one and then each other one after an underscore. -/
theorem toList_joined (w : String) (words : List String) :
    ("_".intercalate (w :: words)).toList = w.toList ++ (words.map String.toList).flatMap ('_' :: ·) := by
  induction words generalizing w with
  | nil => simp
  | cons v words ih =>
      rw [String.intercalate_cons_cons, String.toList_append, String.toList_append, ih, List.map_cons,
        List.flatMap_cons, List.append_assoc]
      rfl

/-! ## Names -/

section Names

variable {words : List String} (hne : words ≠ []) (hwords : ∀ w ∈ words, Ordinary w.toList)
include hne hwords

/-- The pascal form of words is each of them with a capital. -/
theorem toList_pascal_joined :
    (pascal ("_".intercalate words)).toList = (words.map String.toList).flatMap capitalizeChars := by
  cases words with
  | nil => exact absurd rfl hne
  | cons w words =>
      obtain ⟨hw, hrest⟩ := List.forall_mem_cons.mp hwords
      rw [pascal, String.toList_ofList, toList_joined, hw.pascalFrom, pascalFrom_words (List.forall_mem_map.mpr hrest),
        List.map_cons, List.flatMap_cons]

theorem snake_pascal_joined : snake (pascal ("_".intercalate words)) = "_".intercalate words := by
  apply String.toList_inj.mp
  rw [snake, String.toList_ofList, toList_pascal_joined hne hwords]
  cases words with
  | nil => exact absurd rfl hne
  | cons w words => rw [List.map_cons, snakeChars_words (List.forall_mem_map.mpr hwords), toList_joined]

theorem ascii_pascal_joined : Ascii (pascal ("_".intercalate words)).toList := by
  rw [toList_pascal_joined hne hwords]
  intro c hc
  obtain ⟨_, hmem, hc⟩ := List.mem_flatMap.mp hc
  obtain ⟨w, hw, rfl⟩ := List.mem_map.mp hmem
  obtain ⟨first, d, tail, hword, hfirst, htail⟩ := hwords w hw
  rw [hword, capitalizeChars_of_isLower hfirst] at hc
  rcases List.mem_cons.mp hc with rfl | hc
  · exact (toUpper_plain hfirst).1
  · exact (htail c hc).ascii

/-- Joined words are a snake form, that of their pascal form, and so they are their own. -/
theorem snake_joined : snake ("_".intercalate words) = "_".intercalate words := by
  have htwice := snake_snake (ascii_pascal_joined hne hwords)
  rwa [snake_pascal_joined hne hwords] at htwice

theorem beginsSmall_joined : Schema.beginsSmall ("_".intercalate words) = true := by
  cases words with
  | nil => exact absurd rfl hne
  | cons w words =>
      obtain ⟨first, d, tail, hword, hfirst, -⟩ := hwords w List.mem_cons_self
      rw [Schema.beginsSmall, toList_joined, hword]
      exact hfirst

end Names

/-- Two words of one letter become one acronym. -/
example : pascal "a_b" = "AB" ∧ snake "AB" = "ab" := by decide

end WireSchema.Name

namespace WireSchema.Source

open WireSchema.Schema

/-! ## The export of field names -/

/-- The same key and identifier, and with them the same text, are written for the two fields. -/
structure SameText (f g : Field) : Prop where
  key : snakeOf g = snakeOf f
  ident : identOf g = identOf f
  member : memberPieces g = memberPieces f
  helpers : ∀ r, helperPieces r g = helperPieces r f

/-- What is written for a field depends on its name by the snake form only. -/
theorem sameText_of_snake {f : Field} {name : String} (hname : Name.snake name = Name.snake f.name)
    (fields : List Field) : SameText f { f with name, fields } := by
  have hkey : snakeOf { f with name, fields } = snakeOf f := hname
  have hident : identOf { f with name, fields } = identOf f := by
    rw [identOf, hkey, identOf]
  refine ⟨hkey, hident, ?_, fun r => ?_⟩
  · rw [memberPieces, hkey, hident, memberPieces]
  · simp only [helperPieces, decodeHelper, encodeHelper, decodeBody, encodeBody, fieldCondition, hkey, hident]

theorem correction_eq_exportName {m : Message} (h : "CreateTopicsRequest".toList <+: m.name.toList) :
    m.correction = exportName := by
  have hexport : Message.exportCorrection.Applies m := List.isPrefixOf_iff_prefix.mpr h
  have hincremental : ¬ m.IsIncremental := fun h => Message.not_applies_of_isIncremental h hexport
  rw [Message.correction, if_neg hincremental, if_pos hexport]

/-- Words joined by underscores come back from their pascal form. So the export of field names gives a field with
such a name, at any depth, its pascal form, and leaves the key, the identifier and the rest of what is written for
the field as they were. -/
theorem export_keeps_field_text {words : List String} (hne : words ≠ [])
    (hwords : ∀ w ∈ words, Name.Ordinary w.toList) :
    Name.snake (Name.pascal ("_".intercalate words)) = "_".intercalate words ∧
      ∀ (m : Message) (p : Address) (f : Field), "CreateTopicsRequest".toList <+: m.name.toList →
        m.fieldAt? p = some f → f.name = "_".intercalate words →
          ∃ g, m.normalize.fieldAt? p = some g ∧ g.name = Name.pascal f.name ∧ SameText f g := by
  refine ⟨Name.snake_pascal_joined hne hwords, fun m p f hm hf hname => ?_⟩
  have hsmall : beginsSmall f.name = true := hname ▸ Name.beginsSmall_joined hne hwords
  have hsnake : Name.snake (Name.pascal f.name) = Name.snake f.name := by
    rw [hname, Name.snake_pascal_joined hne hwords, Name.snake_joined hne hwords]
  have hexported : f.mapTree exportName =
      { f with name := Name.pascal f.name, fields := f.fields.map (Field.mapTree exportName) } := by
    rw [Field.mapTree_eq]
    exact if_pos hsmall
  refine ⟨f.mapTree exportName, ?_, ?_, ?_⟩
  · rw [Message.fieldAt?_normalize, correction_eq_exportName hm, hf]
    rfl
  · rw [hexported]
  · rw [hexported]
    exact sameText_of_snake hsnake _

/-- A field with a small name, as a member of another one. -/
def topicsRequest : Message where
  kind := .request
  name := "CreateTopicsRequest"
  fields := [{
    name := "Topics"
    type := ⟨.struct "CreatableTopic", true⟩
    fields := [{ name := "validate_v2", type := ⟨.primitive .bool, false⟩ }] }]

theorem export_keeps_field_text_member :
    (∀ w ∈ ["validate", "v2"], Name.Ordinary w.toList) ∧
      ∃ f g, topicsRequest.fieldAt? [0, 0] = some f ∧ f.name = "_".intercalate ["validate", "v2"] ∧
        topicsRequest.normalize.fieldAt? [0, 0] = some g ∧ g.name = "ValidateV2" ∧ SameText f g := by
  have hwords : ∀ w ∈ ["validate", "v2"], Name.Ordinary w.toList :=
    List.forall_mem_cons.mpr ⟨by decide, List.forall_mem_singleton.mpr (by decide)⟩
  obtain ⟨g, hg, hname, hsame⟩ := (export_keeps_field_text (List.cons_ne_nil _ _) hwords).2 topicsRequest [0, 0] _
    (by decide) rfl rfl
  exact ⟨hwords, _, g, rfl, rfl, hg, hname.trans (by decide), hsame⟩

end WireSchema.Source
