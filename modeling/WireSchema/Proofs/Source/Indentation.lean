import WireSchema.Proofs.Source.Sheet

/-!
What a sheet shows of the text that is written on it. The lines of the text are there in their order, each one
behind the spaces of its depth, and the depth is found from the lines as they were given. It does not matter in
how many writes the text came, nor that the depth can be taken from the indented lines instead, where a sheet
keeps only the place at which the unfinished line begins in its own text.
-/

namespace WireSchema.Source

open WireSchema.Text

/-! ## Lines at a depth -/

/-- A line behind four spaces for each level, one level less before a closing brace. An empty line stays empty. -/
def indented (depth : Nat) : List Char → List Char
  | [] => []
  | c :: l => List.replicate (4 * if c = '}' then depth - 1 else depth) ' ' ++ c :: l

/-- The depth after some lines, from a depth before them. -/
def depthFrom (depth : Nat) (lines : List (List Char)) : Nat :=
  lines.foldl (fun depth l => (delta l).apply depth) depth

/-- The lines, each at the depth that those before it lead to. -/
def laid (depth : Nat) (lines : List (List Char)) : List (List Char) :=
  lines.mapIdx fun i l => indented (depthFrom depth (lines.take i)) l

theorem laid_cons (depth : Nat) (l : List Char) (lines : List (List Char)) :
    laid depth (l :: lines) = indented depth l :: laid ((delta l).apply depth) lines := by
  rw [laid, List.mapIdx_cons]
  rfl

theorem newline_not_mem_indented {l : List Char} (hl : '\n' ∉ l) (depth : Nat) : '\n' ∉ indented depth l := by
  cases l with
  | nil => exact List.not_mem_nil
  | cons c l =>
      intro h
      rcases List.mem_append.mp h with hspace | hline
      · exact absurd (List.eq_of_mem_replicate hspace) (by decide)
      · exact hl hline

/-- Spaces in front of a line have no part in its effect. -/
theorem delta_append_of_spaces {spaces : List Char} (h : ∀ c ∈ spaces, c = ' ') (l : List Char) :
    delta (spaces ++ l) = delta l := by
  have hblank : ∀ c ∈ spaces, isBlank c = true := by
    intro c hc
    rw [h c hc]
    decide
  rw [delta, trim_append_of_blank hblank, delta]

namespace Sheet

/-! ## The text of a sheet -/

/-- The lines are on the sheet, one below the other, and its depth is that of the finished ones. -/
structure Shows (s : Sheet) (depth : Nat) (lines : List (List Char)) : Prop where
  text : s.text.toList.splitOn '\n' = laid depth lines
  depth : s.depth = depthFrom depth lines.dropLast

theorem toList_text (s : Sheet) : s.text.toList = s.reversed.reverse := by
  rw [text, String.toList_ofList]

/-- A line without a line feed, on a sheet without text. -/
theorem foldl_put_fresh (depth : Nat) {l : List Char} (hl : '\n' ∉ l) :
    l.foldl put (fresh depth) = { reversed := (indented depth l).reverse, line := l.reverse, depth := depth } := by
  have hreversed : (indented depth l).reverse = l.reverse ++ ((fresh depth).lead l ++ []) := by
    cases l with
    | nil => rfl
    | cons c l =>
        rw [indented, List.reverse_append, List.reverse_replicate, List.append_nil]
        rfl
  rw [foldl_put_start rfl hl, hreversed]
  rfl

theorem shows_last (depth : Nat) {l : List Char} (hl : '\n' ∉ l) : (l.foldl put (fresh depth)).Shows depth [l] := by
  rw [foldl_put_fresh depth hl]
  constructor
  case text =>
    rw [toList_text, List.reverse_reverse, List.splitOn_eq_singleton (newline_not_mem_indented hl depth)]
    rfl
  case depth => rfl

/-- What follows a finished line is shown from the depth after it. -/
theorem Shows.below {s : Sheet} {depth : Nat} {l : List Char} {lines : List (List Char)}
    (h : s.Shows ((delta l).apply depth) lines) (hl : '\n' ∉ l) (hlines : lines ≠ []) :
    (s.after ('\n' :: (indented depth l).reverse)).Shows depth (l :: lines) := by
  constructor
  case text =>
    have htext : (s.after ('\n' :: (indented depth l).reverse)).text.toList =
        indented depth l ++ '\n' :: s.text.toList := by
      rw [toList_text, toList_text, after, List.reverse_append, List.reverse_cons, List.reverse_reverse,
        List.append_assoc, List.singleton_append]
    rw [htext, List.splitOn_append_cons_self_of_not_mem (newline_not_mem_indented hl depth), h.text, laid_cons]
  case depth =>
    rw [List.dropLast_cons_of_ne_nil hlines]
    exact h.depth

/-- A text goes onto a sheet line by line. -/
theorem shows_text (depth : Nat) (cs : List Char) :
    (cs.foldl put (fresh depth)).Shows depth (cs.splitOn '\n') := by
  induction cs using Lines.text_induction generalizing depth with
  | last l hl =>
      rw [List.splitOn_eq_singleton hl]
      exact shows_last depth hl
  | line l cs hl ih =>
      -- the finished line only comes before what is shown of the rest, which begins at the depth after it
      have hline : (l.foldl put (fresh depth)).put '\n' =
          (fresh ((delta l).apply depth)).after ('\n' :: (indented depth l).reverse) := by
        rw [foldl_put_fresh depth hl]
        simp [put, fresh, after]
      rw [List.splitOn_append_cons_self_of_not_mem hl, List.foldl_append, List.foldl_cons, hline, foldl_put_after]
      exact (ih _).below hl (List.splitOn_ne_nil '\n' cs)

end Sheet

/-! ## The depth taken from the text itself -/

/-- A sheet that does not keep the unfinished line, only the place in its text at which this line begins and
whether it has a character yet. -/
structure Buffer where
  text : List Char := []
  depth : Nat := 0
  lineStart : Nat := 0
  atLineStart : Bool := true

namespace Buffer

/-- The effect of the line is that of the text from the place at which it begins, its indentation included, up to
the line feed just put. -/
def endLine (b : Buffer) : Buffer :=
  let line := (b.text.take (b.text.length - 1)).drop b.lineStart
  { b with depth := (delta line).apply b.depth, lineStart := b.text.length, atLineStart := true }

def put (b : Buffer) (c : Char) : Buffer :=
  if c = '\n' then endLine { b with text := b.text ++ ['\n'] }
  else if b.atLineStart then
    let levels := if c = '}' then b.depth - 1 else b.depth
    { b with text := b.text ++ List.replicate (4 * levels) ' ' ++ [c], atLineStart := false }
  else { b with text := b.text ++ [c] }

def write (b : Buffer) (text : String) : Buffer :=
  text.toList.foldl put b

/-- The text and the depth are those of the sheet, and the text from the place of the unfinished line on is that
line behind some spaces. -/
structure Mirrors (b : Buffer) (s : Sheet) : Prop where
  text : b.text = s.reversed.reverse
  depth : b.depth = s.depth
  atLineStart : b.atLineStart = s.line.isEmpty
  line : ∃ older spaces, b.text = older ++ (spaces ++ s.line.reverse) ∧ b.lineStart = older.length ∧
    ∀ c ∈ spaces, c = ' '

def empty : Buffer := {}

theorem mirrors_empty : Mirrors empty Sheet.empty where
  text := rfl
  depth := rfl
  atLineStart := rfl
  line := ⟨[], [], rfl, rfl, fun _ h => absurd h List.not_mem_nil⟩

namespace Mirrors

variable {b : Buffer} {s : Sheet}

theorem put_newline (h : b.Mirrors s) : (b.put '\n').Mirrors (s.put '\n') := by
  obtain ⟨older, spaces, htext, hstart, hspaces⟩ := h.line
  -- without the line feed the text ends in the unfinished line, and its spaces have no part in the effect
  have hline : (b.text ++ ['\n']).take ((b.text ++ ['\n']).length - 1) = b.text := by
    rw [List.length_append, List.length_singleton, Nat.add_sub_cancel, List.take_left]
  constructor
  case text => simp [Buffer.put, endLine, Sheet.put, h.text]
  case depth =>
    simp only [Buffer.put, endLine, Sheet.put, if_pos, hline]
    rw [htext, hstart, List.drop_left, delta_append_of_spaces hspaces, h.depth]
  case atLineStart => rfl
  case line => exact ⟨b.text ++ ['\n'], [], by simp [Buffer.put, endLine, Sheet.put], rfl, by simp⟩

/-- The first character of a line comes behind the indentation. -/
theorem put_first (h : b.Mirrors s) {c : Char} (hc : c ≠ '\n') (hs : s.line = []) :
    (b.put c).Mirrors (s.put c) := by
  obtain ⟨older, spaces, htext, hstart, hspaces⟩ := h.line
  have hat : b.atLineStart = true := by rw [h.atLineStart, hs]; rfl
  have hput : b.put c =
      { b with text := b.text ++ Sheet.indentation (s.levels c) ++ [c], atLineStart := false } := by
    simp [Buffer.put, hc, hat, Sheet.indentation, Sheet.levels, h.depth]
  have hsheet : s.put c =
      { s with reversed := c :: (Sheet.indentation (s.levels c) ++ s.reversed), line := [c] } := by
    simp [Sheet.put, hc, hs]
  rw [hput, hsheet]
  constructor
  case text => simp [h.text, Sheet.indentation]
  case depth => exact h.depth
  case atLineStart => rfl
  case line =>
    refine ⟨older, spaces ++ Sheet.indentation (s.levels c), ?_, hstart, fun c hc => ?_⟩
    · rw [htext, hs]
      simp
    · exact (List.mem_append.mp hc).elim (hspaces c) List.eq_of_mem_replicate

theorem put_inside (h : b.Mirrors s) {c : Char} (hc : c ≠ '\n') (hs : s.line ≠ []) :
    (b.put c).Mirrors (s.put c) := by
  obtain ⟨older, spaces, htext, hstart, hspaces⟩ := h.line
  have hat : b.atLineStart = false := by rw [h.atLineStart, List.isEmpty_eq_false_iff.mpr hs]
  have hput : b.put c = { b with text := b.text ++ [c] } := by
    simp [Buffer.put, hc, hat]
  have hsheet : s.put c = { s with reversed := c :: s.reversed, line := c :: s.line } := by
    simp [Sheet.put, hc, hs]
  rw [hput, hsheet]
  constructor
  case text => simp [h.text]
  case depth => exact h.depth
  case atLineStart => exact hat
  case line => exact ⟨older, spaces, by simp [htext], hstart, hspaces⟩

theorem put (h : b.Mirrors s) (c : Char) : (b.put c).Mirrors (s.put c) := by
  by_cases hc : c = '\n'
  · subst hc
    exact h.put_newline
  · by_cases hs : s.line = []
    · exact h.put_first hc hs
    · exact h.put_inside hc hs

theorem write (h : b.Mirrors s) (text : String) : (b.write text).Mirrors (s.write text) := by
  rw [Buffer.write, Sheet.write]
  induction text.toList generalizing b s with
  | nil => exact h
  | cons c cs ih => exact ih (h.put c)

end Mirrors

end Buffer

/-! ## Sequences of writes -/

/-- One write. -/
inductive Write where
  | string (text : String)
  | char (c : Char)
  | line (text : String)
  | bool (b : Bool)
  | int (radix : Nat) (n : Int)
  | nat (radix n : Nat)
  | float (form : NumberForm) (x : Decimal.Binary64)
  | quoted (text : String)

namespace Write

/-- The text that is written. -/
def text : Write → String
  | string text => text
  | char c => String.singleton c
  | line text => text ++ "\n"
  | bool b => if b then "true" else "false"
  | int radix n => Numeral.ofInt radix n
  | nat radix n => Numeral.ofNat radix n
  | float form x => numberText form x
  | quoted text => Quoted.encode text

/-- The texts of some writes, one behind the other. -/
def texts (ws : List Write) : List Char :=
  ws.flatMap fun w => w.text.toList

end Write

namespace Sheet

def apply (s : Sheet) : Write → Sheet
  | .string text => s.write text
  | .char c => s.put c
  | .line text => s.writeLine text
  | .bool b => s.writeBool b
  | .int radix n => s.writeInt radix n
  | .nat radix n => s.writeNat radix n
  | .float form x => s.writeFloat form x
  | .quoted text => s.writeQuoted text

def applyAll (s : Sheet) (ws : List Write) : Sheet :=
  ws.foldl apply s

theorem apply_eq_write (s : Sheet) (w : Write) : s.apply w = s.write w.text := by
  cases w with
  | char c => exact (congrArg (List.foldl put s) (String.toList_singleton c)).symm
  | line text => exact (s.write_append text "\n").symm
  | _ => rfl

theorem applyAll_eq_foldl (s : Sheet) (ws : List Write) : s.applyAll ws = (Write.texts ws).foldl put s := by
  induction ws generalizing s with
  | nil => rfl
  | cons w ws ih =>
      have hfirst : w.text.toList.foldl put s = s.apply w := (s.apply_eq_write w).symm
      rw [Write.texts, List.flatMap_cons, List.foldl_append, hfirst]
      exact ih (s.apply w)

end Sheet

def Buffer.applyAll (b : Buffer) (ws : List Write) : Buffer :=
  ws.foldl (fun b w => b.write w.text) b

theorem Buffer.Mirrors.applyAll {b : Buffer} {s : Sheet} (h : b.Mirrors s) (ws : List Write) :
    (b.applyAll ws).Mirrors (s.applyAll ws) := by
  induction ws generalizing b s with
  | nil => exact h
  | cons w ws ih =>
      refine ih ?_
      rw [s.apply_eq_write w]
      exact h.write w.text

/-- Whatever writes a text is put together from, the sheet shows its lines: each one at the depth that the lines
before it lead to, and the depth of the sheet is that of the finished lines, as they were given and without the
spaces. The sheet is the one on which the text is written at once, and a sheet that takes the depth from its own
indented text has the same text and depth. -/
theorem applyAll_line_by_line (ws : List Write) :
    let lines := (Write.texts ws).splitOn '\n'
    let s := Sheet.empty.applyAll ws
    let b := Buffer.empty.applyAll ws
    s.text.toList.splitOn '\n' = lines.mapIdx (fun i l => indented (depthFrom 0 (lines.take i)) l) ∧
      s.depth = depthFrom 0 lines.dropLast ∧
      s = Sheet.empty.write (String.ofList (Write.texts ws)) ∧
      b.text = s.text.toList ∧ b.depth = s.depth := by
  intro lines s b
  have hfold : s = (Write.texts ws).foldl Sheet.put (Sheet.fresh 0) := Sheet.empty.applyAll_eq_foldl ws
  have hshows : s.Shows 0 lines := hfold ▸ Sheet.shows_text 0 (Write.texts ws)
  have hmirrors : b.Mirrors s := Buffer.mirrors_empty.applyAll ws
  refine ⟨hshows.text, hshows.depth, ?_, ?_, hmirrors.depth⟩
  · rw [hfold, Sheet.write, String.toList_ofList]
    rfl
  · rw [hmirrors.text, Sheet.toList_text]

example :
    (Sheet.empty.applyAll [.string "if x \x7b\ny", .line ";", .char '\n', .string "\x7d else \x7b\n  z"]).text =
      "if x \x7b\n    y;\n\n\x7d else \x7b\n      z" := by
  decide

end WireSchema.Source
