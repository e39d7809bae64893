import WireSchema.Text.Blank
import WireSchema.Text.Lines

/-!
Lines of a text. A text that is empty or ends in a line feed is finished, and the lines of what follows it are
not mixed with its own. The plain lines hold no line feed. Trimming keeps what stands between the first and the
last character that is not blank.
-/

namespace WireSchema.Text

/-! ## Trimming -/

theorem trimEnd_append {front : List Char} {c : Char} (hlast : front.getLast? = some c)
    (hc : isBlank c = false) (back : List Char) : trimEnd (front ++ back) = front ++ trimEnd back := by
  obtain ⟨init, rfl⟩ := List.getLast?_eq_some_iff.mp hlast
  have hkept : (init ++ [c]).reverse.dropWhile isBlank = (init ++ [c]).reverse := by
    rw [List.reverse_append, List.reverse_singleton, List.singleton_append,
      List.dropWhile_cons_of_neg (by simp [hc])]
  rw [trimEnd, trimEnd, List.reverse_append, List.dropWhile_append]
  split
  · rename_i hempty
    rw [List.isEmpty_iff.mp hempty, hkept, List.reverse_reverse, List.reverse_nil, List.append_nil]
  · rw [List.reverse_append, List.reverse_reverse]

theorem trimEnd_of_getLast? {cs : List Char} {c : Char} (hlast : cs.getLast? = some c)
    (hc : isBlank c = false) : trimEnd cs = cs := by
  have h := trimEnd_append hlast hc []
  rwa [List.append_nil, show trimEnd [] = [] from rfl, List.append_nil] at h

theorem trim_cons {c : Char} (hc : isBlank c = false) (cs : List Char) : trim (c :: cs) = c :: trimEnd cs := by
  have hlast : [c].getLast? = some c := rfl
  rw [trim, trimStart, List.dropWhile_cons_of_neg (by simp [hc])]
  exact trimEnd_append hlast hc cs

theorem trim_append_of_blank {blanks : List Char} (h : ∀ c ∈ blanks, isBlank c = true) (cs : List Char) :
    trim (blanks ++ cs) = trim cs := by
  rw [trim, trimStart, List.dropWhile_append_of_pos h, trim, trimStart]

theorem getLast?_trim {cs : List Char} {c : Char} (hlast : cs.getLast? = some c) (hc : isBlank c = false) :
    (trim cs).getLast? = some c := by
  obtain ⟨init, rfl⟩ := List.getLast?_eq_some_iff.mp hlast
  have hstart : (trimStart (init ++ [c])).getLast? = some c := by
    rw [trimStart, List.dropWhile_append]
    split
    · rw [List.dropWhile_cons_of_neg (by simp [hc])]
      rfl
    · rw [List.getLast?_append]
      rfl
  rw [trim, trimEnd_of_getLast? hstart hc, hstart]

theorem trimEnd_isPrefix (cs : List Char) : trimEnd cs <+: cs := by
  rw [trimEnd, ← List.reverse_suffix, List.reverse_reverse]
  exact List.dropWhile_suffix isBlank

namespace Lines

/-- A text is a line without a line feed, or such a line with a line feed and a text behind it. -/
theorem text_induction {P : List Char → Prop} (last : ∀ l, '\n' ∉ l → P l)
    (line : ∀ l cs, '\n' ∉ l → P cs → P (l ++ '\n' :: cs)) (cs : List Char) : P cs := by
  by_cases h : '\n' ∈ cs
  · obtain ⟨l, rest, hcs, hl⟩ := List.eq_append_cons_of_mem h
    have _hshort : rest.length < cs.length := by
      rw [hcs, List.length_append, List.length_cons]
      omega
    rw [hcs]
    exact line l rest hl (text_induction last line rest)
  · exact last cs h
termination_by cs.length

/-- The text is empty or ends in a line feed. -/
def Finished (cs : List Char) : Prop :=
  cs = [] ∨ cs.getLast? = some '\n'

theorem Finished.eq_nil {cs : List Char} (h : Finished cs) (hcs : '\n' ∉ cs) : cs = [] := by
  rcases h with h | hlast
  · exact h
  · exact absurd (List.mem_of_getLast? hlast) hcs

theorem Finished.of_append {front back : List Char} (h : Finished (front ++ back)) : Finished back := by
  cases hlast : back.getLast? with
  | none => exact Or.inl (List.getLast?_eq_none_iff.mp hlast)
  | some c =>
      rw [Finished, List.append_eq_nil_iff, List.getLast?_append, hlast] at h
      rcases h with h | h
      · exact Or.inl h.2
      · exact Or.inr (hlast.trans h)

theorem inclusive_line {l : List Char} (hl : '\n' ∉ l) (cs : List Char) :
    inclusive (l ++ '\n' :: cs) = (l ++ ['\n']) :: inclusive cs := by
  induction l with
  | nil => rw [List.nil_append, inclusive, if_pos rfl, List.nil_append]
  | cons c l ih =>
      have hc : c ≠ '\n' := fun h => hl (h ▸ List.mem_cons_self)
      have hl : '\n' ∉ l := fun h => hl (List.mem_cons_of_mem c h)
      rw [List.cons_append, inclusive, if_neg hc, ih hl, List.cons_append]

theorem flatten_inclusive (cs : List Char) : (inclusive cs).flatten = cs := by
  induction cs with
  | nil => rfl
  | cons c cs ih =>
      rw [inclusive]
      split
      · rw [List.flatten_cons, ih, List.singleton_append]
      · cases hlines : inclusive cs <;> rw [hlines] at ih <;> rw [← ih] <;> rfl

theorem inclusive_ne_nil (c : Char) (cs : List Char) : inclusive (c :: cs) ≠ [] := by
  rw [inclusive]
  split
  · exact List.cons_ne_nil _ _
  · split <;> exact List.cons_ne_nil _ _

theorem inclusive_append {front : List Char} (hfront : Finished front) (back : List Char) :
    inclusive (front ++ back) = inclusive front ++ inclusive back := by
  rcases hfront with rfl | hlast
  · rfl
  · obtain ⟨init, rfl⟩ := List.getLast?_eq_some_iff.mp hlast
    clear hlast
    induction init with
    | nil => exact inclusive_line List.not_mem_nil back
    | cons c init ih =>
        simp only [List.cons_append, inclusive, ih]
        split
        · rfl
        · cases h : inclusive (init ++ ['\n']) with
          | nil => cases init <;> exact absurd h (inclusive_ne_nil _ _)
          | cons l ls => rfl

theorem inclusive_of_not_mem {l : List Char} (hne : l ≠ []) (hl : '\n' ∉ l) : inclusive l = [l] := by
  induction l with
  | nil => exact absurd rfl hne
  | cons c l ih =>
      have hc : c ≠ '\n' := fun h => hl (h ▸ List.mem_cons_self)
      rw [inclusive, if_neg hc]
      cases l with
      | nil => rfl
      | cons d l => rw [ih (List.cons_ne_nil d l) fun h => hl (List.mem_cons_of_mem c h)]

/-- A finished text has one line for each line feed. -/
theorem length_inclusive {cs : List Char} (h : Finished cs) : (inclusive cs).length = cs.count '\n' := by
  rcases h with rfl | hlast
  · rfl
  · obtain ⟨init, rfl⟩ := List.getLast?_eq_some_iff.mp hlast
    clear hlast
    induction init using text_induction with
    | last l hl =>
        rw [inclusive_line hl, List.count_append, List.count_eq_zero.mpr hl]
        rfl
    | line l cs hl ih =>
        rw [List.append_assoc, List.cons_append, inclusive_line hl, List.length_cons, List.count_append,
          List.count_eq_zero.mpr hl, List.count_cons_self, Nat.zero_add, ih]

/-- The line feed stands only at the end of a line. -/
theorem of_mem_inclusive {cs l : List Char} (hl : l ∈ inclusive cs) :
    ∃ init, '\n' ∉ init ∧ (l = init ∨ l = init ++ ['\n']) := by
  induction cs generalizing l with
  | nil => cases hl
  | cons c cs ih =>
      rw [inclusive] at hl
      split at hl
      · rename_i hc
        rcases List.mem_cons.mp hl with rfl | hl
        · exact ⟨[], List.not_mem_nil, Or.inr (by rw [hc, List.nil_append])⟩
        · exact ih hl
      · rename_i hc
        split at hl
        · cases List.mem_singleton.mp hl
          exact ⟨[c], by simpa using Ne.symm hc, Or.inl rfl⟩
        · rename_i first rest hcs
          rcases List.mem_cons.mp hl with rfl | hl
          · obtain ⟨init, hinit, hfirst⟩ := ih (hcs ▸ List.mem_cons_self)
            refine ⟨c :: init, by simp [Ne.symm hc, hinit], ?_⟩
            exact hfirst.imp (congrArg (c :: ·)) (congrArg (c :: ·))
          · exact ih (hcs ▸ List.mem_cons_of_mem _ hl)

theorem chomp_of_not_mem {l : List Char} (hl : '\n' ∉ l) : chomp l = l := by
  rw [chomp]
  split
  · rename_i rest h
    exact absurd (List.mem_reverse.mp (h ▸ List.mem_cons_self)) hl
  · rename_i rest _ h
    exact absurd (List.mem_reverse.mp (h ▸ List.mem_cons_self)) hl
  · rfl

/-- Beside the line feed at most a carriage return goes. -/
theorem chomp_isPrefix (init : List Char) : chomp (init ++ ['\n']) <+: init := by
  rw [chomp, List.reverse_append]
  split
  · rename_i rest h
    have hinit : init.reverse = '\r' :: rest := (List.cons.inj h).2
    exact ⟨['\r'], by rw [← List.reverse_cons, ← hinit, List.reverse_reverse]⟩
  · rename_i rest _ h
    have hinit : init.reverse = rest := (List.cons.inj h).2
    exact ⟨[], by rw [List.append_nil, ← hinit, List.reverse_reverse]⟩
  · rename_i hno
    exact absurd rfl (hno init.reverse)

theorem newline_not_mem_plain {cs l : List Char} (hl : l ∈ plain cs) : '\n' ∉ l := by
  obtain ⟨full, hfull, rfl⟩ := List.mem_map.mp hl
  obtain ⟨init, hinit, rfl | rfl⟩ := of_mem_inclusive hfull
  · rwa [chomp_of_not_mem hinit]
  · exact fun h => hinit ((chomp_isPrefix init).subset h)

/-! ## Numbered lines -/

/-- The line with a number; lines count from one. -/
def at? (cs : List Char) : Nat → Option (List Char)
  | 0 => none
  | n + 1 => (inclusive cs)[n]?

theorem at?_append_of_left {front l : List Char} {n : Nat} (hfront : Finished front) (back : List Char)
    (hl : at? front n = some l) : at? (front ++ back) n = some l := by
  cases n with
  | zero => cases hl
  | succ n =>
      have hn : n < (inclusive front).length := (List.getElem?_eq_some_iff.mp hl).1
      rw [at?, inclusive_append hfront, List.getElem?_append_left hn]
      exact hl

theorem at?_append_of_right {front back l : List Char} {n : Nat} (hfront : Finished front)
    (hl : at? back n = some l) : at? (front ++ back) (front.count '\n' + n) = some l := by
  cases n with
  | zero => cases hl
  | succ n =>
      rw [← Nat.add_assoc, at?, inclusive_append hfront, ← length_inclusive hfront,
        List.getElem?_append_right (Nat.le_add_right _ n), Nat.add_sub_cancel_left]
      exact hl

end Lines

end WireSchema.Text
