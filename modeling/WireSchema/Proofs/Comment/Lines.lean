import Mathlib.Data.List.Infix
import WireSchema.Proofs.Comment.Filter

/-!
Comments line by line. A line is cut where its first two slashes stand: what is before them is its code and
what begins there its comment. The filter knows nothing of lines, but a line feed always finds it in one of
three states and leaves it in text, so a line that is ended adds its code and its comment and nothing of it
is remembered. Only a line that is not ended can leave a slash behind that is held back.
-/

namespace WireSchema.Comment

/-! ## The first two slashes of a line -/

/-- Where the first two slashes of a line stand, which is beyond its end if there are none. -/
def commentStart (line : List UInt8) : Nat :=
  line.tails.findIdx [slash, slash].isPrefixOf

/-- What stands before the first two slashes. -/
def code (line : List UInt8) : List UInt8 :=
  line.take (commentStart line)

/-- The first two slashes and what follows them, or nothing. -/
def remark (line : List UInt8) : List UInt8 :=
  line.drop (commentStart line)

/-- The comment of a line with the line feed that ends it, if there is a comment. -/
def endedRemark (line : List UInt8) : List UInt8 :=
  if (remark line).isEmpty then [] else remark line ++ [newline]

/-- The code of a line that is not ended: a slash at its end that begins no comment is lost. -/
def lastCode (line : List UInt8) : List UInt8 :=
  if (remark line).isEmpty && line.getLast? == some slash then line.dropLast else code line

theorem code_append_remark (line : List UInt8) : code line ++ remark line = line :=
  List.take_append_drop (commentStart line) line

theorem code_cons (b : UInt8) (line : List UInt8) :
    code (b :: line) = if [slash, slash].isPrefixOf (b :: line) then [] else b :: code line := by
  rw [code, commentStart, List.tails_cons, List.findIdx_cons]
  cases [slash, slash].isPrefixOf (b :: line) <;> rfl

theorem remark_cons (b : UInt8) (line : List UInt8) :
    remark (b :: line) = if [slash, slash].isPrefixOf (b :: line) then b :: line else remark line := by
  rw [remark, commentStart, List.tails_cons, List.findIdx_cons]
  cases [slash, slash].isPrefixOf (b :: line) <;> rfl

theorem code_of_ne {b : UInt8} (hb : b ≠ slash) (line : List UInt8) : code (b :: line) = b :: code line := by
  rw [code_cons]
  simp [List.isPrefixOf, Ne.symm hb]

theorem remark_of_ne {b : UInt8} (hb : b ≠ slash) (line : List UInt8) : remark (b :: line) = remark line := by
  rw [remark_cons]
  simp [List.isPrefixOf, Ne.symm hb]

theorem code_slash_of_ne {c : UInt8} (hc : c ≠ slash) (line : List UInt8) :
    code (slash :: c :: line) = slash :: c :: code line := by
  rw [code_cons, code_of_ne hc]
  simp [List.isPrefixOf, Ne.symm hc]

theorem remark_slash_of_ne {c : UInt8} (hc : c ≠ slash) (line : List UInt8) :
    remark (slash :: c :: line) = remark line := by
  rw [remark_cons, remark_of_ne hc]
  simp [List.isPrefixOf, Ne.symm hc]

theorem code_two_slashes (line : List UInt8) : code (slash :: slash :: line) = [] := by
  rw [code_cons]
  rfl

theorem remark_two_slashes (line : List UInt8) : remark (slash :: slash :: line) = slash :: slash :: line := by
  rw [remark_cons]
  rfl

theorem lastCode_cons {b : UInt8} {line : List UInt8} (hopens : [slash, slash].isPrefixOf (b :: line) = false)
    (halone : b :: line ≠ [slash]) : lastCode (b :: line) = b :: lastCode line := by
  rw [lastCode, lastCode, remark_cons, code_cons, hopens]
  cases line with
  | nil =>
      have hb : b ≠ slash := fun h => halone (h ▸ rfl)
      simp [hb]
  | cons c line =>
      rw [List.getLast?_cons_cons, List.dropLast_cons_cons]
      simp only [Bool.false_eq_true, if_false]
      exact (apply_ite (b :: ·) _ _ _).symm

theorem lastCode_of_ne {b : UInt8} (hb : b ≠ slash) (line : List UInt8) :
    lastCode (b :: line) = b :: lastCode line := by
  apply lastCode_cons
  · simp [List.isPrefixOf, Ne.symm hb]
  · simp [hb]

theorem lastCode_slash_of_ne {c : UInt8} (hc : c ≠ slash) (line : List UInt8) :
    lastCode (slash :: c :: line) = slash :: c :: lastCode line := by
  rw [lastCode_cons, lastCode_of_ne hc]
  · simp [List.isPrefixOf, Ne.symm hc]
  · simp

theorem lastCode_two_slashes (line : List UInt8) : lastCode (slash :: slash :: line) = [] := by
  rw [lastCode, remark_two_slashes, code_two_slashes]
  rfl

/-- The ways in which a line goes on: it ends, it ends in a slash, a comment begins, a slash that begins none
is passed, or another byte is passed. -/
theorem line_induction {P : List UInt8 → Prop} (nil : P []) (held : P [slash])
    (comment : ∀ line, P (slash :: slash :: line))
    (passed : ∀ c line, c ≠ slash → P line → P (slash :: c :: line))
    (other : ∀ b line, b ≠ slash → P line → P (b :: line)) : ∀ line, P line
  | [] => nil
  | [b] =>
      if hb : b = slash then hb ▸ held else other b [] hb nil
  | b :: c :: line =>
      if hb : b = slash then
        if hc : c = slash then hb ▸ hc ▸ comment line
        else hb ▸ passed c line hc (line_induction nil held comment passed other line)
      else other b (c :: line) hb (line_induction nil held comment passed other (c :: line))

/-- There are no two slashes in front of the first two. -/
theorem remark_code (line : List UInt8) : remark (code line) = [] := by
  induction line using line_induction with
  | nil => rfl
  | held => rfl
  | comment line => rw [code_two_slashes]; rfl
  | passed c line hc ih => rw [code_slash_of_ne hc, remark_slash_of_ne hc, ih]
  | other b line hb ih => rw [code_of_ne hb, remark_of_ne hb, ih]

theorem code_code (line : List UInt8) : code (code line) = code line := by
  have h := code_append_remark (code line)
  rwa [remark_code, List.append_nil] at h

theorem remark_lastCode (line : List UInt8) : remark (lastCode line) = [] := by
  induction line using line_induction with
  | nil => rfl
  | held => rfl
  | comment line => rw [lastCode_two_slashes]; rfl
  | passed c line hc ih => rw [lastCode_slash_of_ne hc, remark_slash_of_ne hc, ih]
  | other b line hb ih => rw [lastCode_of_ne hb, remark_of_ne hb, ih]

theorem lastCode_lastCode (line : List UInt8) : lastCode (lastCode line) = lastCode line := by
  induction line using line_induction with
  | nil => rfl
  | held => rfl
  | comment line => rw [lastCode_two_slashes]; rfl
  | passed c line hc ih => rw [lastCode_slash_of_ne hc, lastCode_slash_of_ne hc, ih]
  | other b line hb ih => rw [lastCode_of_ne hb, lastCode_of_ne hb, ih]

theorem code_isPrefix (line : List UInt8) : code line <+: line :=
  List.take_prefix _ _

theorem lastCode_isPrefix (line : List UInt8) : lastCode line <+: line := by
  rw [lastCode]
  split
  · exact List.dropLast_prefix line
  · exact code_isPrefix line

/-! ## What a line adds -/

namespace Filter

/-- The filter in another state, with more text and more comments behind what it has. -/
def add (f : Filter) (state : State) (text comments : List UInt8) : Filter :=
  { state, kept := text.reverse ++ f.kept, collected := comments.reverse ++ f.collected }

theorem add_add (f : Filter) (state state' : State) (text text' comments comments' : List UInt8) :
    (f.add state text comments).add state' text' comments' = f.add state' (text ++ text') (comments ++ comments') := by
  simp [add]

theorem feed_cons (f : Filter) (b : UInt8) (bytes : List UInt8) : f.feed (b :: bytes) = (f.step b).feed bytes :=
  rfl

variable {f : Filter} {b : UInt8}

theorem step_text (hf : f.state = .text) (hb : b ≠ slash) : f.step b = f.add .text [b] [] := by
  simp [step, add, hf, hb]

theorem step_text_slash (hf : f.state = .text) : f.step slash = f.add .slash [] [] := by
  simp [step, add, hf]

theorem step_slash (hf : f.state = .slash) (hb : b ≠ slash) : f.step b = f.add .text [slash, b] [] := by
  simp [step, add, hf, hb]

theorem step_slash_slash (hf : f.state = .slash) : f.step slash = f.add .comment [] [slash, slash] := by
  simp [step, add, hf]

theorem step_comment (hf : f.state = .comment) (hb : b ≠ newline) : f.step b = f.add .comment [] [b] := by
  simp [step, add, hf, hb]

theorem step_comment_newline (hf : f.state = .comment) : f.step newline = f.add .text [newline] [newline] := by
  simp [step, add, hf]

theorem feed_slash (hf : f.state = .text) {c : UInt8} (hc : c ≠ slash) (bytes : List UInt8) :
    f.feed (slash :: c :: bytes) = (f.add .text [slash, c] []).feed bytes := by
  rw [feed_cons, feed_cons, step_text_slash hf, step_slash rfl hc, add_add]
  rfl

theorem feed_two_slashes (hf : f.state = .text) (bytes : List UInt8) :
    f.feed (slash :: slash :: bytes) = (f.add .comment [] [slash, slash]).feed bytes := by
  rw [feed_cons, feed_cons, step_text_slash hf, step_slash_slash rfl, add_add]
  rfl

theorem feed_comment {line : List UInt8} (hf : f.state = .comment) (hline : newline ∉ line) :
    f.feed line = f.add .comment [] line := by
  induction line generalizing f with
  | nil =>
      obtain ⟨state, kept, collected⟩ := f
      cases hf
      rfl
  | cons b line ih =>
      obtain ⟨hb, hline⟩ := List.ne_and_not_mem_of_not_mem_cons hline
      rw [feed_cons, step_comment hf (Ne.symm hb), ih rfl hline, add_add]
      rfl

/-- A line that is ended adds its code and its comment, and the filter is back in text. -/
theorem feed_ended {line : List UInt8} (hf : f.state = .text) (hline : newline ∉ line) :
    f.feed (line ++ [newline]) = f.add .text (code line ++ [newline]) (endedRemark line) := by
  have hslash : newline ≠ slash := by decide
  induction line using line_induction generalizing f with
  | nil => exact step_text hf hslash
  | held => exact feed_slash hf hslash []
  | comment line =>
      have hline : newline ∉ line := by simp_all
      rw [List.cons_append, List.cons_append, feed_two_slashes hf, feed_append, feed_comment rfl hline, feed_cons,
        step_comment_newline rfl, add_add, add_add, code_two_slashes, endedRemark, remark_two_slashes]
      rfl
  | passed c line hc ih =>
      have hline : newline ∉ line := by simp_all
      rw [List.cons_append, List.cons_append, feed_slash hf hc, ih rfl hline, add_add, code_slash_of_ne hc,
        endedRemark, endedRemark, remark_slash_of_ne hc]
      rfl
  | other b line hb ih =>
      have hline : newline ∉ line := by simp_all
      rw [List.cons_append, feed_cons, step_text hf hb, ih rfl hline, add_add, code_of_ne hb, endedRemark,
        endedRemark, remark_of_ne hb]
      rfl

/-- Lines that are ended are taken one after another. -/
theorem feed_endedLines {lines : List (List UInt8)} (hf : f.state = .text) (hlines : ∀ line ∈ lines, newline ∉ line) :
    f.feed (lines.flatMap (· ++ [newline])) =
      f.add .text (lines.flatMap (code · ++ [newline])) (lines.flatMap endedRemark) := by
  induction lines generalizing f with
  | nil =>
      obtain ⟨state, kept, collected⟩ := f
      cases hf
      rfl
  | cons line lines ih =>
      have hline := hlines line List.mem_cons_self
      have hlines := fun l hl => hlines l (List.mem_cons_of_mem line hl)
      rw [List.flatMap_cons, feed_append, feed_ended hf hline, ih rfl hlines, add_add]
      rfl

theorem feed_last {line : List UInt8} (hf : f.state = .text) (hline : newline ∉ line) :
    ∃ state, f.feed line = f.add state (lastCode line) (remark line) := by
  induction line using line_induction generalizing f with
  | nil => exact ⟨f.state, rfl⟩
  | held => exact ⟨.slash, step_text_slash hf⟩
  | comment line =>
      have hline : newline ∉ line := by simp_all
      rw [feed_two_slashes hf, feed_comment rfl hline, add_add, lastCode_two_slashes, remark_two_slashes]
      exact ⟨.comment, rfl⟩
  | passed c line hc ih =>
      obtain ⟨state, hfeed⟩ := ih (f := f.add .text [slash, c] []) rfl (by simp_all)
      rw [feed_slash hf hc, hfeed, add_add, lastCode_slash_of_ne hc, remark_slash_of_ne hc]
      exact ⟨state, rfl⟩
  | other b line hb ih =>
      obtain ⟨state, hfeed⟩ := ih (f := f.add .text [b] []) rfl (by simp_all)
      rw [feed_cons, step_text hf hb, hfeed, add_add, lastCode_of_ne hb, remark_of_ne hb]
      exact ⟨state, rfl⟩

end Filter

/-! ## The whole input -/

/-- The input with the given lines, of which all but the last are ended. -/
def joinLines (lines : List (List UInt8)) (last : List UInt8) : List UInt8 :=
  lines.flatMap (· ++ [newline]) ++ last

theorem split_joinLines {lines : List (List UInt8)} {last : List UInt8} (hlines : ∀ line ∈ lines, newline ∉ line)
    (hlast : newline ∉ last) :
    split (joinLines lines last) =
      (joinLines (lines.map code) (lastCode last), lines.flatMap endedRemark ++ remark last) := by
  obtain ⟨state, hfeed⟩ := Filter.feed_last (f := Filter.start.add .text _ _) rfl hlast
  rw [split, joinLines, Filter.feed_append, Filter.feed_endedLines rfl hlines, hfeed, Filter.add_add]
  simp [Filter.text, Filter.comments, Filter.add, Filter.start, joinLines, List.flatMap_map]

theorem exists_joinLines (bytes : List UInt8) :
    ∃ lines last, linesOf bytes = lines ++ [last] ∧ bytes = joinLines lines last ∧
      (∀ line ∈ lines, newline ∉ line) ∧ newline ∉ last := by
  induction bytes with
  | nil => exact ⟨[], [], linesOf_nil, rfl, by simp, by simp⟩
  | cons b bytes ih =>
      obtain ⟨lines, last, hlines, rfl, hended, hlast⟩ := ih
      by_cases hb : b = newline
      · refine ⟨[] :: lines, last, ?_, ?_, ?_, hlast⟩
        · rw [hb, linesOf_newline, hlines, List.cons_append]
        · rw [hb]; rfl
        · simpa using hended
      · cases lines with
        | nil =>
            refine ⟨[], b :: last, ?_, rfl, hended, ?_⟩
            · rw [linesOf_cons hb, hlines]; rfl
            · simp [hlast, Ne.symm hb]
        | cons line lines =>
            refine ⟨(b :: line) :: lines, last, ?_, rfl, ?_, hlast⟩
            · rw [linesOf_cons hb, hlines]; rfl
            · simp_all [Ne.symm hb]

theorem count_newline_split (bytes : List UInt8) : (split bytes).1.count newline = bytes.count newline := by
  have hlength := (linesOf_split bytes).length_eq
  rw [length_linesOf, length_linesOf] at hlength
  omega

/-- The text and the comments of an input are those of its lines. So the text has as many lines, each of which
begins the line of the input in its place, and there is nothing in it to be removed a second time. -/
theorem split_linewise (bytes : List UInt8) :
    ∃ lines last, linesOf bytes = lines ++ [last] ∧ bytes = lines.flatMap (· ++ [newline]) ++ last ∧
      (∀ line ∈ lines, newline ∉ line) ∧ newline ∉ last ∧
      (split bytes).1 = lines.flatMap (code · ++ [newline]) ++ lastCode last ∧
      (split bytes).2 = lines.flatMap endedRemark ++ remark last ∧
      (split bytes).1.count newline = bytes.count newline ∧
      StartsLines (linesOf (split bytes).1) (linesOf bytes) ∧
      split (split bytes).1 = ((split bytes).1, []) := by
  obtain ⟨lines, last, hlines, hbytes, hended, hlast⟩ := exists_joinLines bytes
  have hsplit := split_joinLines hended hlast
  rw [← hbytes] at hsplit
  have hagain : split (split bytes).1 = ((split bytes).1, []) := by
    have hcode : ∀ line ∈ lines.map code, newline ∉ line := by
      intro line hline
      obtain ⟨whole, hwhole, rfl⟩ := List.mem_map.mp hline
      exact fun h => hended whole hwhole ((code_isPrefix whole).subset h)
    have hlastCode : newline ∉ lastCode last := fun h => hlast ((lastCode_isPrefix last).subset h)
    rw [hsplit, split_joinLines hcode hlastCode]
    simp [Function.comp_def, code_code, lastCode_lastCode, remark_lastCode, endedRemark, List.flatMap_map, remark_code]
  refine ⟨lines, last, hlines, hbytes, hended, hlast, ?_, ?_, count_newline_split bytes, linesOf_split bytes,
    hagain⟩
  · rw [hsplit, joinLines, List.flatMap_map]
  · rw [hsplit]

end WireSchema.Comment
