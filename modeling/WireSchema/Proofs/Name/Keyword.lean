import WireSchema.Name.Keyword
import WireSchema.Proofs.Name.Case

/-!
When two names get the same identifier. A keyword is written with `r#` in front, and a name may begin so by
itself; an underscore is put only at the end of words that have no raw form, where no snake form has one.
-/

namespace WireSchema.Name

/-- The first name is a keyword and the second is its raw form. -/
def RawForm (word name : String) : Prop :=
  word ∈ keywords ∧ word ∉ reserved ∧ name = "r#" ++ word

instance (word name : String) : Decidable (RawForm word name) :=
  inferInstanceAs (Decidable (_ ∧ _))

theorem raw_not_mem_keywords (word : String) : "r#" ++ word ∉ keywords ∧ "r#" ++ word ∉ reserved := by
  have hkeywords : ∀ k ∈ keywords, ['r', '#'].isPrefixOf k.toList = false := by decide
  have hreserved : ∀ k ∈ reserved, ['r', '#'].isPrefixOf k.toList = false := by decide
  have hraw : ['r', '#'].isPrefixOf ("r#" ++ word).toList = true := by
    simp [List.isPrefixOf]
  constructor
  · intro h
    cases (hkeywords _ h).symm.trans hraw
  · intro h
    cases (hreserved _ h).symm.trans hraw

theorem identifier_of_reserved {name : String} (h : name ∈ reserved) : identifier name = name ++ "_" := by
  rw [identifier, if_pos (List.contains_iff_mem.mpr h)]

theorem identifier_of_keyword {name : String} (hreserved : name ∉ reserved) (hkeyword : name ∈ keywords) :
    identifier name = "r#" ++ name := by
  rw [identifier, if_neg (mt List.contains_iff_mem.mp hreserved), if_pos (List.contains_iff_mem.mpr hkeyword)]

theorem identifier_of_plain {name : String} (hreserved : name ∉ reserved) (hkeyword : name ∉ keywords) :
    identifier name = name := by
  rw [identifier, if_neg (mt List.contains_iff_mem.mp hreserved), if_neg (mt List.contains_iff_mem.mp hkeyword)]

theorem RawForm.identifier_eq {word name : String} (h : RawForm word name) : identifier word = identifier name := by
  obtain ⟨hkeyword, hreserved, rfl⟩ := h
  obtain ⟨hplain, hfree⟩ := raw_not_mem_keywords word
  rw [identifier_of_keyword hreserved hkeyword, identifier_of_plain hfree hplain]

theorem reserved_append_ne_raw {name : String} (h : name ∈ reserved) (word : String) :
    name ++ "_" ≠ "r#" ++ word := by
  have hreserved : ∀ k ∈ reserved, (k ++ "_").toList.head? ≠ some 'r' := by decide
  intro heq
  refine hreserved name h ?_
  rw [heq]
  simp

/-- Of a word that has no raw form only the word itself has the identifier. -/
theorem eq_of_identifier_eq_reserved {word name : String} (hword : word ∈ reserved)
    (hname : name.toList.getLast? ≠ some '_') (h : identifier name = identifier word) : name = word := by
  rw [identifier_of_reserved hword] at h
  by_cases hreserved : name ∈ reserved
  · rw [identifier_of_reserved hreserved] at h
    exact (String.append_left_inj _).mp h
  · by_cases hkeyword : name ∈ keywords
    · rw [identifier_of_keyword hreserved hkeyword] at h
      exact absurd h.symm (reserved_append_ne_raw hword name)
    · rw [identifier_of_plain hreserved hkeyword] at h
      exact absurd (by simp [h]) hname

/-- Names that do not end in an underscore get the same identifier if they are equal or one is the raw form of
the other, and not otherwise. -/
theorem identifier_eq_iff {a b : String} (ha : a.toList.getLast? ≠ some '_')
    (hb : b.toList.getLast? ≠ some '_') :
    identifier a = identifier b ↔ a = b ∨ RawForm a b ∨ RawForm b a := by
  constructor
  · intro h
    by_cases hra : a ∈ reserved
    · exact Or.inl (eq_of_identifier_eq_reserved hra hb h.symm).symm
    by_cases hrb : b ∈ reserved
    · exact Or.inl (eq_of_identifier_eq_reserved hrb ha h)
    by_cases hka : a ∈ keywords <;> by_cases hkb : b ∈ keywords
    · rw [identifier_of_keyword hra hka, identifier_of_keyword hrb hkb] at h
      exact Or.inl ((String.append_right_inj _).mp h)
    · rw [identifier_of_keyword hra hka, identifier_of_plain hrb hkb] at h
      exact Or.inr (Or.inl ⟨hka, hra, h.symm⟩)
    · rw [identifier_of_plain hra hka, identifier_of_keyword hrb hkb] at h
      exact Or.inr (Or.inr ⟨hkb, hrb, h⟩)
    · rw [identifier_of_plain hra hka, identifier_of_plain hrb hkb] at h
      exact Or.inl h
  · rintro (rfl | hraw | hraw)
    · rfl
    · exact hraw.identifier_eq
    · exact hraw.identifier_eq.symm

end WireSchema.Name
