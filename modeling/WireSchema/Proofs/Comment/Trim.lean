import Mathlib.Data.List.DropRight
import WireSchema.Comment.Trim
import WireSchema.Proofs.Text.Lines

/-!
What is left of a comment block. Behind the licence stand lines of which the blank comments at either end go. The
rest of them is the one run of lines that neither begins nor ends with a blank comment and has nothing but such
comments before and after it.
-/

namespace WireSchema.Comment

open WireSchema.Text

/-! ## The licence -/

theorem afterLines_of_not_mem {l : List Char} (hl : '\n' ∉ l) (n : Nat) : afterLines (n + 1) l = none := by
  induction l with
  | nil => rfl
  | cons c l ih =>
      have hc : c ≠ '\n' := fun h => hl (h ▸ List.mem_cons_self)
      rw [afterLines, if_neg hc, ih fun h => hl (List.mem_cons_of_mem c h)]

theorem afterLines_line {l : List Char} (hl : '\n' ∉ l) (n : Nat) (cs : List Char) :
    afterLines (n + 1) (l ++ '\n' :: cs) = afterLines n cs := by
  induction l with
  | nil => rw [List.nil_append, afterLines, if_pos rfl]
  | cons c l ih =>
      have hc : c ≠ '\n' := fun h => hl (h ▸ List.mem_cons_self)
      rw [List.cons_append, afterLines, if_neg hc, ih fun h => hl (List.mem_cons_of_mem c h)]

theorem afterLines_eq_none {n : Nat} {cs : List Char} (h : cs.count '\n' < n) : afterLines n cs = none := by
  induction n generalizing cs with
  | zero => omega
  | succ n ih =>
      by_cases hmem : '\n' ∈ cs
      · obtain ⟨l, cs, rfl, hl⟩ := List.eq_append_cons_of_mem hmem
        rw [List.count_append, List.count_eq_zero.mpr hl, List.count_cons_self] at h
        rw [afterLines_line hl, ih (by omega)]
      · exact afterLines_of_not_mem hmem n

theorem afterLines_append {front : List Char} (hfront : Lines.Finished front) (rest : List Char) :
    afterLines (front.count '\n') (front ++ rest) = some rest := by
  induction front using Lines.text_induction with
  | last l hl => rw [hfront.eq_nil hl, List.count_nil, afterLines, List.nil_append]
  | line l front hl ih =>
      rw [List.append_cons] at hfront
      rw [List.append_assoc, List.cons_append, List.count_append, List.count_eq_zero.mpr hl, Nat.zero_add,
        List.count_cons_self, afterLines_line hl]
      exact ih hfront.of_append

/-- The part before the rest is finished and has just so many line feeds. -/
theorem exists_afterLines {n : Nat} {cs : List Char} (h : n ≤ cs.count '\n') :
    ∃ front rest, cs = front ++ rest ∧ front.count '\n' = n ∧ Lines.Finished front := by
  induction n generalizing cs with
  | zero => exact ⟨[], cs, rfl, rfl, Or.inl rfl⟩
  | succ n ih =>
      obtain ⟨l, cs, rfl, hl⟩ := List.eq_append_cons_of_mem (List.count_pos_iff.mp (Nat.lt_of_lt_of_le n.succ_pos h))
      rw [List.count_append, List.count_eq_zero.mpr hl, List.count_cons_self] at h
      obtain ⟨front, rest, rfl, hcount, hfront⟩ := ih (by omega : n ≤ cs.count '\n')
      refine ⟨l ++ '\n' :: front, rest, by simp, by simp [List.count_eq_zero.mpr hl, hcount], Or.inr ?_⟩
      rcases hfront with rfl | hlast
      · exact List.getLast?_concat
      · rw [List.getLast?_append, List.getLast?_cons, hlast]
        rfl

/-! ## The lines behind the licence -/

/-- Two slashes with nothing but white space after them. -/
def BlankComment (line : List Char) : Prop :=
  ∃ blanks, line = '/' :: '/' :: blanks ∧ ∀ c ∈ blanks, isBlank c = true

theorem isBlankLine_iff {line : List Char} : isBlankLine line = true ↔ BlankComment line := by
  unfold isBlankLine BlankComment
  split
  · simp
  · rename_i hno
    constructor
    · intro h
      cases h
    · rintro ⟨blanks, rfl, _⟩
      exact absurd rfl (hno blanks)

/-- A run of the lines with nothing but blank comments before and after it, which neither begins nor ends with
one. -/
structure IsCore (lines run : List (List Char)) : Prop where
  frame : ∃ before after, lines = before ++ run ++ after ∧ ∀ l ∈ before ++ after, BlankComment l
  first : ∀ l, run.head? = some l → ¬BlankComment l
  last : ∀ l, run.getLast? = some l → ¬BlankComment l

theorem isCore_trimLines (lines : List (List Char)) : IsCore lines (trimLines lines) := by
  have hlines : lines = lines.takeWhile isBlankLine ++ trimLines lines ++
      (lines.dropWhile isBlankLine).rtakeWhile isBlankLine := by
    rw [List.append_assoc]
    exact (List.takeWhile_append_dropWhile.symm.trans (congrArg _ List.rdropWhile_append_rtakeWhile.symm))
  refine ⟨⟨_, _, hlines, ?_⟩, ?_, ?_⟩
  · intro l hl
    rw [← isBlankLine_iff]
    rcases List.mem_append.mp hl with hl | hl
    · exact List.mem_takeWhile_imp hl
    · exact List.mem_rtakeWhile_imp hl
  · intro l hl
    rw [← isBlankLine_iff]
    have hfirst : (lines.dropWhile isBlankLine).head? = some l := by
      obtain ⟨after, hafter⟩ := List.rdropWhile_prefix isBlankLine (lines.dropWhile isBlankLine)
      rw [← hafter, List.head?_append, show (List.rdropWhile isBlankLine _).head? = some l from hl]
      rfl
    have hnot := List.head?_dropWhile_not isBlankLine lines
    rw [hfirst] at hnot
    simpa using hnot
  · intro l hl
    rw [← isBlankLine_iff]
    rw [trimLines, List.getLast?_reverse] at hl
    have hnot := List.head?_dropWhile_not isBlankLine (lines.dropWhile isBlankLine).reverse
    rw [hl] at hnot
    simpa using hnot

theorem dropWhile_of_head? {lines : List (List Char)} (h : ∀ l, lines.head? = some l → ¬isBlankLine l = true) :
    lines.dropWhile isBlankLine = lines := by
  cases lines with
  | nil => rfl
  | cons l lines => exact List.dropWhile_cons_of_neg (h l rfl)

/-- There is only one such run. -/
theorem IsCore.trimLines_eq {lines run : List (List Char)} (h : IsCore lines run) : trimLines lines = run := by
  obtain ⟨⟨before, after, rfl, hblank⟩, hfirst, hlast⟩ := h
  simp only [← isBlankLine_iff, List.mem_append] at hblank hfirst hlast
  rw [trimLines, List.append_assoc, List.dropWhile_append_of_pos fun l hl => hblank l (Or.inl hl)]
  -- An empty run leaves nothing but blank comments, which the pass from the front takes to the end.
  cases run with
  | nil =>
      rw [List.nil_append, List.dropWhile_eq_nil_iff.mpr fun l hl => hblank l (Or.inr hl)]
      rfl
  | cons l run =>
      have hafter : ∀ l ∈ after.reverse, isBlankLine l = true :=
        fun l hl => hblank l (Or.inr (List.mem_reverse.mp hl))
      have hkept : (l :: run ++ after).dropWhile isBlankLine = l :: run ++ after := dropWhile_of_head? hfirst
      rw [hkept, List.reverse_append, List.dropWhile_append_of_pos hafter, dropWhile_of_head?, List.reverse_reverse]
      rwa [List.head?_reverse]

/-- What the text has after its fourteenth line feed is cut into lines, and the result is the core of these. -/
def LeavesCore (text out : List Char) : Prop :=
  ∃ licence rest run, text = licence ++ rest ∧ licence.count '\n' = 14 ∧ licence.getLast? = some '\n' ∧
    IsCore (Lines.inclusive rest) run ∧ out = run.flatten

theorem trimChars_eq_nil {cs : List Char} (h : cs.count '\n' < 14) : trimChars cs = [] := by
  rw [trimChars, show afterLines licenceLines cs = none from afterLines_eq_none h]

theorem trimChars_append {licence : List Char} (hcount : licence.count '\n' = 14)
    (hlast : licence.getLast? = some '\n') (rest : List Char) :
    trimChars (licence ++ rest) = (trimLines (Lines.inclusive rest)).flatten := by
  have hrest : afterLines licenceLines (licence ++ rest) = some rest := by
    rw [licenceLines, ← hcount]
    exact afterLines_append (Or.inr hlast) rest
  rw [trimChars, hrest]

theorem leavesCore_trimChars {cs : List Char} (h : 14 ≤ cs.count '\n') : LeavesCore cs (trimChars cs) := by
  obtain ⟨licence, rest, rfl, hcount, hfinished⟩ := exists_afterLines h
  have hlast : licence.getLast? = some '\n' := by
    refine hfinished.resolve_left ?_
    rintro rfl
    cases hcount
  exact ⟨licence, rest, _, rfl, hcount, hlast, isCore_trimLines _, trimChars_append hcount hlast rest⟩

theorem LeavesCore.trimChars_eq {cs out : List Char} (h : LeavesCore cs out) : trimChars cs = out := by
  obtain ⟨licence, rest, run, rfl, hcount, hlast, hcore, rfl⟩ := h
  rw [trimChars_append hcount hlast, hcore.trimLines_eq]

/-- A text of fewer than fourteen line feeds is all licence. Of any other just the core of the lines behind the
licence is left. -/
theorem trim_leaves_core (text : String) :
    (text.toList.count '\n' < 14 → trim text = "") ∧
      (14 ≤ text.toList.count '\n' → ∀ out : String, trim text = out ↔ LeavesCore text.toList out.toList) := by
  constructor
  · intro h
    rw [trim, trimChars_eq_nil h, String.ofList_nil]
  · intro h out
    constructor
    · rintro rfl
      rw [trim, String.toList_ofList]
      exact leavesCore_trimChars h
    · intro hcore
      rw [trim, hcore.trimChars_eq, String.ofList_toList]

/-- A block whose last line is not ended. -/
def openBlock : String := String.ofList (List.replicate 14 '\n' ++ "//\n\n// A.\n// ".toList)

/-- A line that is not ended can be a blank comment; an empty line is none. -/
theorem trim_leaves_core_openBlock :
    "//\n".toList.count '\n' < 14 ∧ trim "//\n" = "" ∧ 14 ≤ openBlock.toList.count '\n' ∧
      LeavesCore openBlock.toList "\n// A.\n".toList := by
  have hshort : "//\n".toList.count '\n' < 14 := by decide
  have hlong : 14 ≤ openBlock.toList.count '\n' := by decide +kernel
  have htrim : trim openBlock = "\n// A.\n" := by decide +kernel
  exact ⟨hshort, (trim_leaves_core _).1 hshort, hlong, ((trim_leaves_core _).2 hlong _).mp htrim⟩

end WireSchema.Comment
