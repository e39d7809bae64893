import WireSchema.Proofs.Text.Lines
import WireSchema.Source.Compile

/-!
How text gets onto a sheet. Writing only adds to a sheet, and what it adds depends on the depth and the
unfinished line alone. A whole line is put after its indentation and moves the depth by its own effect. The
error of a sequence of pieces does not depend on the sheet, and a group of messages is written as one
sequence.
-/

namespace WireSchema.Source

open WireSchema.Text WireSchema.Schema

/-! ## Lines -/

/-- The text has no line feed. -/
def OneLine (text : String) : Prop :=
  '\n' ∉ text.toList

instance (text : String) : Decidable (OneLine text) :=
  inferInstanceAs (Decidable (¬_))

@[simp] theorem oneLine_append {front back : String} :
    OneLine (front ++ back) ↔ OneLine front ∧ OneLine back := by
  simp [OneLine]

theorem oneLine_ofList {cs : List Char} : OneLine (String.ofList cs) ↔ '\n' ∉ cs := by
  rw [OneLine, String.toList_ofList]

/-! ## The effect of a line -/

theorem delta_of_getLast? {l : List Char} {c : Char} (hlast : l.getLast? = some c)
    (hc : isBlank c = false ∧ c ≠ '{' ∧ c ≠ '}') : delta l = .same := by
  obtain ⟨hblank, hopen, hclose⟩ := hc
  have htrim := getLast?_trim hlast hblank
  rw [delta, deltaTrimmed, htrim, if_neg (show ¬some c = some '{' from mt Option.some.inj hopen),
    if_neg (mt Option.some.inj hclose), ite_self]

theorem delta_brace {c : Char} (hc : isBlank c = false ∧ c ≠ '/' ∧ c ≠ '}') (l : List Char) :
    delta (c :: l ++ [' ', '{']) = .opens := by
  obtain ⟨hblank, hslash, hclose⟩ := hc
  have htrim : trim (c :: l ++ [' ', '{']) = c :: l ++ [' ', '{'] := by
    rw [List.cons_append, trim_cons hblank, trimEnd_of_getLast? (c := '{') (by simp) (by decide)]
  have hsuffix : ['{', '}'].isSuffixOf (c :: l ++ [' ', '{']) = false := by
    rw [List.isSuffixOf, List.reverse_append]
    rfl
  have hlast : (c :: l ++ [' ', '{']).getLast? = some '{' := List.getLast?_append
  rw [delta, htrim, deltaTrimmed, hsuffix, hlast]
  simp [isComment, Ne.symm hslash, hclose]

theorem delta_comment (l : List Char) : delta ('/' :: '/' :: l) = .same := by
  have hslash : isBlank '/' = false := by decide
  have hlast : ['/'].getLast? = some '/' := rfl
  have htrim : trim ('/' :: '/' :: l) = '/' :: '/' :: trimEnd l := by
    rw [trim_cons hslash]
    exact congrArg _ (trimEnd_append hlast hslash l)
  rw [delta, htrim]
  rfl

namespace Sheet

/-! ## Writing adds -/

/-- A sheet at the given depth, without text. -/
def fresh (depth : Nat) : Sheet :=
  { depth := depth }

/-- The sheet with some text, newest character first, before its own. -/
def after (s : Sheet) (older : List Char) : Sheet :=
  { s with reversed := s.reversed ++ older }

theorem put_after (s : Sheet) (older : List Char) (c : Char) :
    (s.after older).put c = (s.put c).after older := by
  by_cases hc : c = '\n' <;> simp [put, after, levels, hc]

theorem foldl_put_after (s : Sheet) (older cs : List Char) :
    cs.foldl put (s.after older) = (cs.foldl put s).after older := by
  induction cs generalizing s with
  | nil => rfl
  | cons c cs ih => rw [List.foldl_cons, List.foldl_cons, put_after, ih]

theorem write_after (s : Sheet) (older : List Char) (text : String) :
    (s.after older).write text = (s.write text).after older :=
  s.foldl_put_after older text.toList

theorem write_append (s : Sheet) (front back : String) :
    s.write (front ++ back) = (s.write front).write back := by
  rw [write, String.toList_append, List.foldl_append]
  rfl

theorem eq_fresh_after {s : Sheet} (h : s.line = []) : s = (fresh s.depth).after s.reversed := by
  obtain ⟨reversed, line, depth⟩ := s
  cases h
  rfl

theorem text_after (s : Sheet) (older : List Char) :
    (s.after older).text = String.ofList older.reverse ++ s.text := by
  rw [text, after, List.reverse_append, String.ofList_append, text]

/-! ## Whole lines -/

/-- What is put before a line at the start of the sheet's line: nothing before an empty one. -/
def lead (s : Sheet) : List Char → List Char
  | [] => []
  | c :: _ => indentation (s.levels c)

theorem foldl_put_inside {s : Sheet} (hs : s.line ≠ []) {l : List Char} (hl : '\n' ∉ l) :
    l.foldl put s = { s with reversed := l.reverse ++ s.reversed, line := l.reverse ++ s.line } := by
  induction l generalizing s with
  | nil => rfl
  | cons c l ih =>
      have hc : c ≠ '\n' := fun h => hl (h ▸ List.mem_cons_self)
      have hl : '\n' ∉ l := fun h => hl (List.mem_cons_of_mem c h)
      have hput : s.put c = { s with reversed := c :: s.reversed, line := c :: s.line } := by
        simp [put, hc, hs]
      rw [List.foldl_cons, hput, ih (List.cons_ne_nil _ _) hl]
      simp

theorem foldl_put_start {s : Sheet} (hs : s.line = []) {l : List Char} (hl : '\n' ∉ l) :
    l.foldl put s = { s with reversed := l.reverse ++ (s.lead l ++ s.reversed), line := l.reverse } := by
  cases l with
  | nil =>
      obtain ⟨reversed, line, depth⟩ := s
      cases hs
      rfl
  | cons c l =>
      have hc : c ≠ '\n' := fun h => hl (h ▸ List.mem_cons_self)
      have hl : '\n' ∉ l := fun h => hl (List.mem_cons_of_mem c h)
      have hput : s.put c = { s with reversed := c :: (s.lead (c :: l) ++ s.reversed), line := [c] } := by
        simp [put, hc, hs, lead]
      rw [List.foldl_cons, hput, foldl_put_inside (List.cons_ne_nil _ _) hl]
      simp

/-- What is put before a text: the indentation at the start of a line, and nothing inside a line. -/
def margin (s : Sheet) (l : List Char) : List Char :=
  if s.line.isEmpty then s.lead l else []

theorem margin_of_line {s : Sheet} (hs : s.line ≠ []) (l : List Char) : s.margin l = [] := by
  rw [margin, List.isEmpty_eq_false_iff.mpr hs]
  rfl

theorem reverse_margin (s : Sheet) (l : List Char) : (s.margin l).reverse = s.margin l := by
  rw [margin]
  split
  · cases l with
    | nil => rfl
    | cons c l => exact List.reverse_replicate
  · rfl

/-- The second sheet has, after the text of the first one, its margin and the given text. -/
def Adds (s s' : Sheet) (l : List Char) : Prop :=
  s'.text = s.text ++ String.ofList (s.margin l ++ l)

theorem adds_write (s : Sheet) {text : String} (htext : OneLine text) : s.Adds (s.write text) text.toList := by
  have hreversed : (s.write text).reversed = text.toList.reverse ++ (s.margin text.toList ++ s.reversed) := by
    by_cases hs : s.line = []
    · rw [write, foldl_put_start hs htext, margin, hs]
      rfl
    · rw [write, foldl_put_inside hs htext, margin_of_line hs, List.nil_append]
  rw [Adds, Sheet.text, Sheet.text, hreversed, ← String.ofList_append]
  simp [reverse_margin]

/-- A line written from the start. -/
theorem write_line {s : Sheet} (hs : s.line = []) {text : String} (htext : OneLine text) :
    s.write (text ++ "\n") =
      { reversed := '\n' :: (text.toList.reverse ++ (s.lead text.toList ++ s.reversed)), line := [],
        depth := (delta text.toList).apply s.depth } := by
  rw [write_append, write, write, foldl_put_start hs htext]
  simp [put]

theorem line_write_newline (s : Sheet) (text : String) : (s.write (text ++ "\n")).line = [] := by
  rw [write_append]
  rfl

/-- The sheet is at the start of a line just when its text is finished. -/
def Settled (s : Sheet) : Prop :=
  s.line = [] ↔ Lines.Finished s.reversed.reverse

theorem settled_put (s : Sheet) (c : Char) : (s.put c).Settled := by
  by_cases hc : c = '\n' <;> simp [Settled, Lines.Finished, put, hc]

theorem settled_write {s : Sheet} (hs : s.Settled) (text : String) : (s.write text).Settled := by
  rw [write]
  induction text.toList generalizing s with
  | nil => exact hs
  | cons c cs ih => exact ih (settled_put s c)

/-! ## Pieces -/

theorem writePieces_after (s : Sheet) (older : List Char) (ps : Pieces) :
    (s.after older).writePieces ps = ((s.writePieces ps).1.after older, (s.writePieces ps).2) := by
  induction ps generalizing s with
  | nil => rfl
  | cons p ps ih =>
      cases p with
      | error e => rfl
      | ok text => rw [writePieces, write_after, ih, writePieces]

theorem writePieces_snd (s : Sheet) (ps : Pieces) : (s.writePieces ps).2 = ps.error? := by
  induction ps generalizing s with
  | nil => rfl
  | cons p ps ih =>
      cases p with
      | error e => rfl
      | ok text => exact ih _

theorem writePieces_append (s : Sheet) {ps : Pieces} (hps : ps.error? = none) (qs : Pieces) :
    s.writePieces (ps ++ qs) = (s.writePieces ps).1.writePieces qs := by
  induction ps generalizing s with
  | nil => rfl
  | cons p ps ih =>
      cases p with
      | error e => cases hps
      | ok text => exact ih _ hps

theorem settled_writePieces {s : Sheet} (hs : s.Settled) (ps : Pieces) : (s.writePieces ps).1.Settled := by
  induction ps generalizing s with
  | nil => exact hs
  | cons p ps ih =>
      cases p with
      | error e => exact hs
      | ok text => exact ih (settled_write hs text)

end Sheet

theorem Pieces.error?_append (ps qs : Pieces) : error? (ps ++ qs) = (error? ps).or (error? qs) := by
  induction ps with
  | nil => rfl
  | cons p ps ih =>
      cases p with
      | error e => rfl
      | ok text => exact ih

/-! ## Groups -/

theorem getLast?_preludeFor (path : String) : (preludeFor path).toList.getLast? = some '\n' := by
  rw [preludeFor, String.toList_append, List.getLast?_append]
  rfl

theorem withPrelude_preludeFor (path : String) :
    Sheet.withPrelude (preludeFor path) = (Sheet.empty.write (banner ++ "\n\n")).write (preludeFor path) := by
  have hlast := getLast?_preludeFor path
  have hnonempty : (preludeFor path).isEmpty = false := by
    cases hempty : (preludeFor path).isEmpty with
    | false => rfl
    | true =>
        rw [String.isEmpty_iff.mp hempty] at hlast
        cases hlast
  rw [Sheet.withPrelude, hnonempty, if_pos hlast]
  rfl

/-- The sheet, if no error came up. -/
def finish : Sheet × Option Error → Except Error Sheet
  | (s, none) => .ok s
  | (_, some e) => .error e

theorem finish_eq_ok {outcome : Sheet × Option Error} (h : outcome.2 = none) :
    finish outcome = .ok outcome.1 := by
  obtain ⟨s, _⟩ := outcome
  cases h
  rfl

theorem finish_eq_error {outcome : Sheet × Option Error} {e : Error} (h : outcome.2 = some e) :
    finish outcome = .error e := by
  obtain ⟨s, _⟩ := outcome
  cases h
  rfl

theorem eq_of_finish_eq_ok {outcome : Sheet × Option Error} {s : Sheet} (h : finish outcome = .ok s) :
    outcome = (s, none) := by
  obtain ⟨s', _ | e⟩ := outcome
  · cases h
    rfl
  · cases h

/-- The messages of a group are written as one sequence of pieces. -/
theorem compileAll_eq (s : Sheet) (ms : List Message) :
    compileAll s ms = finish (s.writePieces (ms.flatMap messagePieces)) := by
  induction ms generalizing s with
  | nil => rfl
  | cons m ms ih =>
      have herror := s.writePieces_snd (messagePieces m)
      rw [compileAll, compileMessage, List.flatMap_cons]
      split
      · rename_i s' hwrite
        rw [hwrite] at herror
        rw [s.writePieces_append herror.symm, hwrite, ih]
      · rename_i s' e hwrite
        rw [hwrite] at herror
        refine (finish_eq_error ?_).symm
        rw [Sheet.writePieces_snd, Pieces.error?_append, ← herror, Option.some_or]

end WireSchema.Source
