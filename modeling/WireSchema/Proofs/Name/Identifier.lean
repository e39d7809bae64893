import WireSchema.Proofs.Name.Keyword
import WireSchema.Proofs.Name.Normal

/-!
The identifiers of fields. A name made of letters, digits and separators, with a letter first, has a snake form that
is spelled as an identifier. Every keyword of every edition is among the words that are written raw or get an
underscore, so what is left plain is no keyword. No snake form has a `#` or ends in an underscore, so neither way
of writing a word meets another name.
-/

namespace WireSchema.Name

open WireSchema.Text

/-! ## The language -/

/-- The editions of the generated language. -/
inductive Edition where
  | y2015
  | y2018
  | y2021
  | y2024
  deriving DecidableEq

/-- The keywords that are in use. -/
def Edition.strict (e : Edition) : List String :=
  ["_", "as", "break", "const", "continue", "crate", "else", "enum", "extern", "false", "fn", "for", "if", "impl",
    "in", "let", "loop", "match", "mod", "move", "mut", "pub", "ref", "return", "self", "Self", "static", "struct",
    "super", "trait", "true", "type", "unsafe", "use", "where", "while"] ++
  match e with
  | .y2015 => []
  | .y2018 | .y2021 | .y2024 => ["async", "await", "dyn"]

/-- The keywords that are kept for later use. -/
def Edition.reserved (e : Edition) : List String :=
  ["abstract", "become", "box", "do", "final", "macro", "override", "priv", "typeof", "unsized", "virtual",
    "yield"] ++
  match e with
  | .y2015 => []
  | .y2018 | .y2021 => ["try"]
  | .y2024 => ["try", "gen"]

def Edition.keywords (e : Edition) : List String :=
  e.strict ++ e.reserved

/-- A small letter of ASCII and then small letters, digits and underscores. -/
def IsWord (cs : List Char) : Prop :=
  ∃ c rest, cs = c :: rest ∧ c.isLower = true ∧ ∀ d ∈ rest, d.isLower = true ∨ d.isDigit = true ∨ d = '_'

/-- An identifier in small letters, raw or not, that the language takes as a name in every edition. -/
structure Legal (ident : String) : Prop where
  spelled : ∃ word : String, IsWord word.toList ∧ (ident = word ∨ ident = "r#" ++ word)
  keyword : ∀ e : Edition, ident ∉ e.strict ∧ ident ∉ e.reserved
  raw : ident ≠ "r#crate" ∧ ident ≠ "r#self" ∧ ident ≠ "r#super"

/-! ## Names of fields -/

/-- Letters and digits of ASCII and separators; the first character that is no separator is a letter. -/
structure Conventional (name : String) : Prop where
  chars : ∀ c ∈ name.toList, c.isAlphanum = true ∨ isSeparator c = true
  first : ∃ c, name.toList.find? (!isSeparator ·) = some c ∧ c.isAlpha = true

instance (name : String) : Decidable (Conventional name) :=
  decidable_of_iff
    ((name.toList.all fun c => c.isAlphanum || isSeparator c) = true ∧
      (name.toList.find? (!isSeparator ·)).any Char.isAlpha = true) <| by
    constructor
    · rintro ⟨hchars, hfirst⟩
      refine ⟨fun c hc => ?_, Option.any_eq_true _ _ |>.mp hfirst⟩
      exact Bool.or_eq_true_iff.mp (List.all_eq_true.mp hchars c hc)
    · rintro ⟨hchars, hfirst⟩
      refine ⟨List.all_eq_true.mpr fun c hc => ?_, Option.any_eq_true _ _ |>.mpr hfirst⟩
      exact Bool.or_eq_true_iff.mpr (hchars c hc)

theorem ascii_of_isSeparator {c : Char} (h : isSeparator c = true) : c.toNat < 0x80 := by
  rcases isSeparator_iff.mp h with rfl | rfl | rfl | rfl <;> decide

theorem toLower_of_isAlpha {c : Char} (h : c.isAlpha = true) (hc : c.toNat < 0x80) : c.toLower.isLower = true := by
  revert h
  exact ascii_cases hc (by decide)

theorem toLower_of_isAlphanum {c : Char} (h : c.isAlphanum = true) :
    c.toLower.isLower = true ∨ c.toLower.isDigit = true := by
  have hascii := ascii_of_isAlphanum h
  revert h
  exact ascii_cases hascii (by decide)

theorem head?_filter_of_ne {cs : List Char} (h : cs.head? ≠ some '_') : (cs.filter (· != '_')).head? = cs.head? := by
  cases cs with
  | nil => rfl
  | cons c cs =>
      have hc : c ≠ '_' := fun heq => h (congrArg some heq)
      rw [List.filter_cons_of_pos (p := (· != '_')) (bne_iff_ne.mpr hc)]
      rfl

/-- The snake form begins with the first letter of the name. -/
theorem head?_snake (name : String) : (snake name).toList.head? = (letters name.toList).head? := by
  rw [← filter_snake, head?_filter_of_ne (head?_snake_ne name)]

theorem head?_letters {cs : List Char} {c : Char} (hc : c.toNat < 0x80)
    (h : cs.find? (!isSeparator ·) = some c) : (letters cs).head? = some c.toLower := by
  rw [← List.head?_filter] at h
  obtain ⟨rest, hrest⟩ := List.head?_eq_some_iff.mp h
  rw [letters, hrest, List.flatMap_cons, lowercase_of_ascii hc]
  rfl

namespace Conventional

variable {name : String}

theorem ascii (h : Conventional name) : Ascii name.toList := by
  intro c hc
  rcases h.chars c hc with halnum | hseparator
  · exact ascii_of_isAlphanum halnum
  · exact ascii_of_isSeparator hseparator

theorem of_mem_snake (h : Conventional name) {d : Char} (hd : d ∈ (snake name).toList) :
    d.isLower = true ∨ d.isDigit = true ∨ d = '_' := by
  by_cases hunderscore : d = '_'
  · exact Or.inr (Or.inr hunderscore)
  · obtain ⟨c, hc, hplain, rfl⟩ := of_mem_snake_ascii h.ascii hd hunderscore
    have halnum : c.isAlphanum = true := (h.chars c hc).resolve_right (Bool.eq_false_iff.mp hplain)
    rcases toLower_of_isAlphanum halnum with hlower | hdigit
    · exact Or.inl hlower
    · exact Or.inr (Or.inl hdigit)

theorem isWord_snake (h : Conventional name) : IsWord (snake name).toList := by
  obtain ⟨c, hfirst, halpha⟩ := h.first
  have hascii : c.toNat < 0x80 := h.ascii c (List.mem_of_find?_eq_some hfirst)
  have hhead : (snake name).toList.head? = some c.toLower := by
    rw [head?_snake, head?_letters hascii hfirst]
  obtain ⟨rest, hrest⟩ := List.head?_eq_some_iff.mp hhead
  refine ⟨c.toLower, rest, hrest, toLower_of_isAlpha halpha hascii, fun d hd => ?_⟩
  apply h.of_mem_snake
  rw [hrest]
  exact List.mem_cons_of_mem _ hd

end Conventional

/-! ## Words and keywords -/

theorem IsWord.hash_not_mem {cs : List Char} (h : IsWord cs) : '#' ∉ cs := by
  obtain ⟨c, rest, rfl, hc, hrest⟩ := h
  intro hmem
  rcases List.mem_cons.mp hmem with rfl | htail
  · cases hc
  · exact absurd (hrest _ htail) (by decide)

theorem IsWord.ne_raw {word : String} (h : IsWord word.toList) (name : String) : word ≠ "r#" ++ name := by
  rintro rfl
  exact h.hash_not_mem (by simp)

theorem IsWord.append_underscore {word : String} (h : IsWord word.toList) : IsWord (word ++ "_").toList := by
  obtain ⟨c, rest, hword, hc, hrest⟩ := h
  refine ⟨c, rest ++ ['_'], by simp [hword], hc, fun d hd => ?_⟩
  rcases List.mem_append.mp hd with htail | hlast
  · exact hrest d htail
  · exact Or.inr (Or.inr (List.mem_singleton.mp hlast))

/-- Editions only add keywords. -/
theorem Edition.keywords_subset (e : Edition) : e.keywords ⊆ Edition.y2024.keywords := by
  have hstrict : e.strict.Sublist Edition.y2024.strict := by
    cases e <;> exact List.Sublist.append_left (by decide) _
  have hreserved : e.reserved.Sublist Edition.y2024.reserved := by
    cases e <;> exact List.Sublist.append_left (by decide) _
  exact (hstrict.append hreserved).subset

/-- Every keyword but the lone underscore is written in another way. -/
theorem mem_of_mem_keywords :
    ∀ word ∈ Edition.y2024.keywords, word = "_" ∨ word ∈ reserved ∨ word ∈ keywords := by
  decide +kernel

theorem hash_not_mem_keyword : ∀ word ∈ Edition.y2024.keywords, '#' ∉ word.toList := by
  decide +kernel

theorem reserved_append_not_mem : ∀ word ∈ reserved, word ++ "_" ∉ Edition.y2024.keywords := by
  decide +kernel

theorem raw_not_mem_edition (e : Edition) (word : String) : "r#" ++ word ∉ e.keywords := by
  intro h
  exact hash_not_mem_keyword _ (e.keywords_subset h) (by simp)

theorem IsWord.not_mem_keywords {word : String} (h : IsWord word.toList) (hreserved : word ∉ reserved)
    (hkeyword : word ∉ keywords) (e : Edition) : word ∉ e.keywords := by
  intro hmem
  rcases mem_of_mem_keywords word (e.keywords_subset hmem) with rfl | hmem | hmem
  · obtain ⟨c, rest, hword, hc, -⟩ := h
    cases hword
    cases hc
  · exact hreserved hmem
  · exact hkeyword hmem

theorem Legal.of_plain {word : String} (h : IsWord word.toList) (hkeyword : ∀ e : Edition, word ∉ e.keywords) :
    Legal word where
  spelled := ⟨word, h, Or.inl rfl⟩
  keyword e := not_or.mp (mt List.mem_append.mpr (hkeyword e))
  raw := ⟨h.ne_raw "crate", h.ne_raw "self", h.ne_raw "super"⟩

theorem Legal.of_raw {word : String} (h : IsWord word.toList) (hreserved : word ∉ reserved) :
    Legal ("r#" ++ word) where
  spelled := ⟨word, h, Or.inr rfl⟩
  keyword e := not_or.mp (mt List.mem_append.mpr (raw_not_mem_edition e word))
  raw := by
    have hraw (name : String) (hname : name ∈ reserved) : "r#" ++ word ≠ "r#" ++ name := by
      intro heq
      rw [(String.append_right_inj _).mp heq] at hreserved
      exact hreserved hname
    exact ⟨hraw "crate" (by decide), hraw "self" (by decide), hraw "super" (by decide)⟩

/-- A word is written plain, raw or with an underscore, and each time it is a name. -/
theorem IsWord.legal_identifier {word : String} (h : IsWord word.toList) : Legal (identifier word) := by
  by_cases hreserved : word ∈ reserved
  · rw [identifier_of_reserved hreserved]
    refine Legal.of_plain h.append_underscore fun e hmem => ?_
    exact reserved_append_not_mem word hreserved (e.keywords_subset hmem)
  · by_cases hkeyword : word ∈ keywords
    · rw [identifier_of_keyword hreserved hkeyword]
      exact Legal.of_raw h hreserved
    · rw [identifier_of_plain hreserved hkeyword]
      exact Legal.of_plain h (h.not_mem_keywords hreserved hkeyword)

/-- Words that do not end in an underscore keep apart. -/
theorem IsWord.identifier_eq_iff {a b : String} (ha : IsWord a.toList) (hb : IsWord b.toList)
    (halast : a.toList.getLast? ≠ some '_') (hblast : b.toList.getLast? ≠ some '_') :
    identifier a = identifier b ↔ a = b := by
  rw [Name.identifier_eq_iff halast hblast]
  -- a raw form has a sign that no word has
  constructor
  · rintro (heq | ⟨-, -, hraw⟩ | ⟨-, -, hraw⟩)
    · exact heq
    · exact absurd hraw (hb.ne_raw a)
    · exact absurd hraw (ha.ne_raw b)
  · exact Or.inl

/-! ## The identifier of a field -/

/-- The identifier of a field is a legal one, and two fields have the same one just when their names have the same
snake form. -/
theorem identifier_snake_legal {a : String} (ha : Conventional a) :
    Legal (identifier (snake a)) ∧
      ∀ b, Conventional b → (identifier (snake a) = identifier (snake b) ↔ snake a = snake b) := by
  refine ⟨ha.isWord_snake.legal_identifier, fun b hb => ?_⟩
  exact ha.isWord_snake.identifier_eq_iff hb.isWord_snake (getLast?_snake_ne a) (getLast?_snake_ne b)

theorem identifier_snake_legal_super :
    (Conventional "_Super" ∧ Conventional "SUPER" ∧ identifier (snake "_Super") = "super_") ∧
      Legal (identifier (snake "_Super")) ∧
      (identifier (snake "_Super") = identifier (snake "SUPER") ↔ snake "_Super" = snake "SUPER") :=
  have hsuper : Conventional "_Super" := by decide
  have hcapitals : Conventional "SUPER" := by decide
  ⟨⟨hsuper, hcapitals, by decide⟩, (identifier_snake_legal hsuper).1,
    (identifier_snake_legal hsuper).2 "SUPER" hcapitals⟩

example : identifier (snake "-.Type") = "r#type" := by decide

end WireSchema.Name
