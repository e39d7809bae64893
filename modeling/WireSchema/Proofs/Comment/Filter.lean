import Mathlib.Data.List.Forall2
import WireSchema.Comment.Filter

/-!
What the comment filter lets through. `textFrom` reads the filter forwards: the text that some bytes add
to what was kept, from a state on. The text has as many lines as the bytes, and each line of the text is the
start of the line of the bytes in the same place, since what goes is the end of a line. `Chunked` is the filter
as a loop that jumps from one byte that matters to the next; it gives what the filter gives byte by byte.
-/

namespace WireSchema.Comment

/-- The text that the bytes add from a state on. -/
def textFrom : State → List UInt8 → List UInt8
  | _, [] => []
  | .text, b :: bytes => if b = slash then textFrom .slash bytes else b :: textFrom .text bytes
  | .slash, b :: bytes =>
    if b = slash then textFrom .comment bytes else slash :: b :: textFrom .text bytes
  | .comment, b :: bytes =>
    if b = newline then newline :: textFrom .text bytes else textFrom .comment bytes

namespace Filter

theorem feed_append (f : Filter) (front back : List UInt8) :
    f.feed (front ++ back) = (f.feed front).feed back :=
  List.foldl_append

/-- What was kept before has no part in what the filter does. -/
theorem feed_with_kept (f : Filter) (kept bytes : List UInt8) :
    feed { f with kept } bytes =
      ⟨(f.feed bytes).state, (textFrom f.state bytes).reverse ++ kept, (f.feed bytes).collected⟩ := by
  induction bytes generalizing f kept with
  | nil => simp [feed, textFrom]
  | cons b bytes ih =>
      show (step { f with kept } b).feed bytes =
        ⟨((f.step b).feed bytes).state, _, ((f.step b).feed bytes).collected⟩
      have hstep := ih (f.step b) (step { f with kept } b).kept
      cases hstate : f.state with
      | text => by_cases hb : b = slash <;> simp_all [step, textFrom]
      | slash => by_cases hb : b = slash <;> simp_all [step, textFrom]
      | comment => by_cases hb : b = newline <;> simp_all [step, textFrom]

theorem feed_kept (f : Filter) (bytes : List UInt8) :
    (f.feed bytes).kept = (textFrom f.state bytes).reverse ++ f.kept :=
  congrArg kept (f.feed_with_kept f.kept bytes)

theorem textSince_feed (f : Filter) (bytes : List UInt8) :
    (f.feed bytes).textSince f = textFrom f.state bytes := by
  rw [textSince, feed_kept, List.length_append, Nat.add_sub_cancel, List.take_left, List.reverse_reverse]

/-- The text of a whole is that of its parts, where the second part is read in the state that the first
part leaves. -/
theorem textFrom_append (f : Filter) (front back : List UInt8) :
    textFrom f.state (front ++ back) = textFrom f.state front ++ textFrom (f.feed front).state back := by
  have hwhole := feed_kept f (front ++ back)
  rw [feed_append, feed_kept, feed_kept, ← List.append_assoc, ← List.reverse_append] at hwhole
  exact (List.reverse_inj.mp (List.append_cancel_right hwhole)).symm

end Filter

theorem split_fst (bytes : List UInt8) : (split bytes).1 = textFrom .text bytes := by
  change (Filter.start.feed bytes).kept.reverse = _
  rw [Filter.feed_kept]
  simp [Filter.start]

/-- Beyond the bytes themselves only a slash that was held back is let through. -/
theorem length_textFrom_le (bytes : List UInt8) :
    (textFrom .text bytes).length ≤ bytes.length ∧ (textFrom .slash bytes).length ≤ bytes.length + 1 ∧
      (textFrom .comment bytes).length ≤ bytes.length := by
  induction bytes with
  | nil => exact ⟨Nat.le_refl 0, Nat.zero_le 1, Nat.le_refl 0⟩
  | cons b bytes ih =>
      obtain ⟨htext, hslash, hcomment⟩ := ih
      refine ⟨?_, ?_, ?_⟩ <;> grind [textFrom]

theorem length_split_fst_le (bytes : List UInt8) : (split bytes).1.length ≤ bytes.length := by
  rw [split_fst]
  exact (length_textFrom_le bytes).1

/-! ## Chunks -/

/-- The filter with its outputs in order. -/
structure Chunked where
  state : State := .text
  out : List UInt8 := []
  comments : List UInt8 := []

namespace Chunked

/-- Works through a chunk: looks for the next byte that matters, and passes on all that is before it at once. -/
def filter (c : Chunked) : List UInt8 → Chunked
  | [] => c
  | first :: rest =>
    let input := first :: rest
    match c.state with
    | .text =>
      match input.idxOf? slash with
      | some i => filter { c with out := c.out ++ input.take i, state := .slash } (input.drop (i + 1))
      | none => { c with out := c.out ++ input }
    | .slash =>
      if first = slash then
        filter { c with comments := c.comments ++ [slash, slash], state := .comment } (input.drop 1)
      else filter { c with out := c.out ++ [slash, first], state := .text } (input.drop 1)
    | .comment =>
      match input.idxOf? newline with
      | some i => filter ⟨.text, c.out ++ [newline], c.comments ++ input.take (i + 1)⟩ (input.drop (i + 1))
      | none => { c with comments := c.comments ++ input }
termination_by input => input.length

def ofFilter (f : Filter) : Chunked :=
  ⟨f.state, f.text, f.comments⟩

/-- The loop stops at the same bytes if the first one has been taken before. -/
theorem filter_cons (f : Filter) (b : UInt8) (bytes : List UInt8) :
    (ofFilter f).filter (b :: bytes) = (ofFilter (f.step b)).filter bytes := by
  rw [filter]
  cases hstate : f.state with
  | text =>
      by_cases hb : b = slash
      · simp [ofFilter, Filter.step, Filter.text, Filter.comments, hstate, hb, List.idxOf?_cons]
      · -- the next slash is one place nearer
        cases bytes with
        | nil => simp [ofFilter, Filter.step, Filter.text, Filter.comments, hstate, hb, filter]
        | cons b' bytes =>
            rw [filter]
            cases hi : (b' :: bytes).idxOf? slash <;>
              simp [ofFilter, Filter.step, Filter.text, Filter.comments, hstate, hb, List.idxOf?_cons, hi]
  | slash =>
      by_cases hb : b = slash <;> simp [ofFilter, Filter.step, Filter.text, Filter.comments, hstate, hb]
  | comment =>
      by_cases hb : b = newline
      · simp [ofFilter, Filter.step, Filter.text, Filter.comments, hstate, hb, List.idxOf?_cons]
      · cases bytes with
        | nil => simp [ofFilter, Filter.step, Filter.text, Filter.comments, hstate, hb, filter]
        | cons b' bytes =>
            rw [filter]
            cases hi : (b' :: bytes).idxOf? newline <;>
              simp [ofFilter, Filter.step, Filter.text, Filter.comments, hstate, hb, List.idxOf?_cons, hi]

theorem filter_ofFilter (f : Filter) (input : List UInt8) :
    (ofFilter f).filter input = ofFilter (f.feed input) := by
  induction input generalizing f with
  | nil => rw [filter]; rfl
  | cons b bytes ih => rw [filter_cons, ih]; rfl

/-- What a chunk adds behind `out` is its text, and the state and the comments are those of the filter. -/
theorem filter_eq_feed (f : Filter) (out input : List UInt8) :
    filter ⟨f.state, out, f.comments⟩ input =
      ⟨(f.feed input).state, out ++ (f.feed input).textSince f, (f.feed input).comments⟩ := by
  have hloop := filter_ofFilter { f with kept := out.reverse } input
  rw [ofFilter, Filter.text, List.reverse_reverse] at hloop
  refine hloop.trans ?_
  rw [ofFilter, Filter.text, Filter.feed_kept, List.reverse_append, List.reverse_reverse, List.reverse_reverse,
    Filter.textSince_feed, Filter.comments, f.feed_with_kept]
  rfl

end Chunked

/-! ## Lines -/

/-- The lines between line feeds; there is always a last one. -/
def linesOf (bytes : List UInt8) : List (List UInt8) :=
  bytes.splitOn newline

theorem linesOf_nil : linesOf [] = [[]] :=
  List.splitOn_nil newline

theorem linesOf_newline (bytes : List UInt8) : linesOf (newline :: bytes) = [] :: linesOf bytes := by
  rw [linesOf, List.splitOn_cons_eq_if_modifyHead, if_pos (beq_self_eq_true newline), linesOf]

theorem linesOf_cons {b : UInt8} (h : b ≠ newline) (bytes : List UInt8) :
    linesOf (b :: bytes) = (linesOf bytes).modifyHead (b :: ·) := by
  rw [linesOf, List.splitOn_cons_eq_if_modifyHead, if_neg (by simpa using h), linesOf]

theorem linesOf_eq_cons (bytes : List UInt8) : ∃ line lines, linesOf bytes = line :: lines :=
  List.exists_cons_of_ne_nil (List.splitOn_ne_nil newline bytes)

theorem length_linesOf (bytes : List UInt8) : (linesOf bytes).length = 1 + bytes.count newline := by
  induction bytes with
  | nil => rfl
  | cons b bytes ih =>
      by_cases hb : b = newline
      · rw [hb, linesOf_newline, List.length_cons, ih, List.count_cons_self]
        omega
      · rw [linesOf_cons hb, List.length_modifyHead, ih, List.count_cons_of_ne hb]

theorem exists_linesOf_append (bytes : List UInt8) :
    ∃ lines last, linesOf bytes = lines ++ [last] ∧
      ∀ more, linesOf (bytes ++ more) = lines ++ (linesOf more).modifyHead (last ++ ·) := by
  induction bytes with
  | nil =>
      refine ⟨[], [], linesOf_nil, fun more => ?_⟩
      obtain ⟨line, lines, hlines⟩ := linesOf_eq_cons more
      rw [List.nil_append, hlines, List.modifyHead_cons, List.nil_append, List.nil_append]
  | cons b bytes ih =>
      obtain ⟨lines, last, hlines, happend⟩ := ih
      by_cases hb : b = newline
      · refine ⟨[] :: lines, last, ?_, fun more => ?_⟩
        · rw [hb, linesOf_newline, hlines, List.cons_append]
        · rw [hb, List.cons_append, linesOf_newline, happend, List.cons_append]
      · cases lines with
        | nil =>
            refine ⟨[], b :: last, ?_, fun more => ?_⟩
            · rw [linesOf_cons hb, hlines]
              rfl
            · obtain ⟨line, lines, hmore⟩ := linesOf_eq_cons more
              rw [List.cons_append, linesOf_cons hb, happend, hmore]
              rfl
        | cons first lines =>
            refine ⟨(b :: first) :: lines, last, ?_, fun more => ?_⟩
            · rw [linesOf_cons hb, hlines]
              rfl
            · rw [List.cons_append, linesOf_cons hb, happend]
              rfl

/-- Bytes that are added continue the last line. -/
theorem linesOf_append {bytes : List UInt8} {lines : List (List UInt8)} {last : List UInt8}
    (h : linesOf bytes = lines ++ [last]) (more : List UInt8) :
    linesOf (bytes ++ more) = lines ++ (linesOf more).modifyHead (last ++ ·) := by
  obtain ⟨lines', last', hlines, happend⟩ := exists_linesOf_append bytes
  obtain ⟨rfl, hlast⟩ := List.append_inj' (h.symm.trans hlines) rfl
  obtain rfl := List.singleton_inj.mp hlast
  exact happend more

/-- Each line of `shorter` starts the line of `longer` in the same place, and both have as many lines. -/
def StartsLines (shorter longer : List (List UInt8)) : Prop :=
  List.Forall₂ (fun short long => short <+: long) shorter longer

theorem StartsLines.exists_line {shorter longer : List (List UInt8)} (h : StartsLines shorter longer) {i : Nat}
    {short : List UInt8} (hi : shorter[i]? = some short) : ∃ long, longer[i]? = some long ∧ short <+: long := by
  induction h generalizing i with
  | nil => cases hi
  | @cons first line _ _ hfirst _ ih =>
      cases i with
      | zero =>
          cases hi
          exact ⟨line, rfl, hfirst⟩
      | succ i => exact ih hi

/-- A byte that is let through goes in front of both. -/
theorem StartsLines.keep {shorter longer : List UInt8} (h : StartsLines (linesOf shorter) (linesOf longer))
    (b : UInt8) : StartsLines (linesOf (b :: shorter)) (linesOf (b :: longer)) := by
  by_cases hend : b = newline
  · rw [hend, linesOf_newline, linesOf_newline]
    exact .cons List.nil_prefix h
  · obtain ⟨short, shorts, hshort⟩ := linesOf_eq_cons shorter
    obtain ⟨long, longs, hlong⟩ := linesOf_eq_cons longer
    rw [hshort, hlong] at h
    obtain ⟨hhead, htail⟩ := List.forall₂_cons.mp h
    rw [linesOf_cons hend, linesOf_cons hend, hshort, hlong]
    exact .cons (List.cons_prefix_cons.mpr ⟨rfl, hhead⟩) htail

/-- In a comment nothing is let through before the end of the line, so whatever stands in front of the bytes
on their first line, the lines keep their places. -/
theorem StartsLines.of_nil {lines longer : List (List UInt8)} {line : List UInt8}
    (h : StartsLines lines longer) : StartsLines ([] :: lines) (line :: longer) :=
  .cons List.nil_prefix h

/-- The three states of the filter: in text, after a slash that belongs in front of the bytes, and in a
comment, where the first line of the text is empty. -/
theorem linesOf_textFrom (bytes : List UInt8) :
    StartsLines (linesOf (textFrom .text bytes)) (linesOf bytes) ∧
    StartsLines (linesOf (textFrom .slash bytes)) (linesOf (slash :: bytes)) ∧
    ∃ lines, linesOf (textFrom .comment bytes) = [] :: lines ∧ StartsLines lines (linesOf bytes).tail := by
  have hslash : slash ≠ newline := by decide
  induction bytes with
  | nil =>
      refine ⟨.of_nil .nil, ?_, [], rfl, .nil⟩
      rw [linesOf_cons hslash]
      exact .of_nil .nil
  | cons b bytes ih =>
      obtain ⟨htext, hheld, lines, hcomment, hrest⟩ := ih
      refine ⟨?_, ?_, ?_⟩
      · by_cases hb : b = slash
        · rw [textFrom, if_pos hb, hb]
          exact hheld
        · rw [textFrom, if_neg hb]
          exact htext.keep b
      · by_cases hb : b = slash
        · rw [textFrom, if_pos hb, hcomment, hb, linesOf_cons hslash, linesOf_cons hslash]
          obtain ⟨line, others, hlines⟩ := linesOf_eq_cons bytes
          rw [hlines] at hrest ⊢
          exact .of_nil hrest
        · rw [textFrom, if_neg hb]
          exact (htext.keep b).keep slash
      · by_cases hend : b = newline
        · rw [textFrom, if_pos hend, hend, linesOf_newline, linesOf_newline]
          exact ⟨_, rfl, htext⟩
        · rw [textFrom, if_neg hend, linesOf_cons hend, List.tail_modifyHead]
          exact ⟨lines, hcomment, hrest⟩

theorem linesOf_split (bytes : List UInt8) : StartsLines (linesOf (split bytes).1) (linesOf bytes) := by
  rw [split_fst]
  exact (linesOf_textFrom bytes).1

end WireSchema.Comment
