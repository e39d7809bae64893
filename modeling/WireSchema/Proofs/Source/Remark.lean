import WireSchema.Proofs.Schema.Record
import WireSchema.Proofs.Source.Sheet

/-!
Documentation leaves the code alone. The comments of a message and the descriptions of its fields are written
as lines of their own that begin with two slashes, and such a line moves no depth. So two groups of messages
that differ in documentation only are written with the same code, line by line, or refused for the same
reason.
-/

namespace WireSchema.Source

open WireSchema.Text WireSchema.Schema

/-! ## Remarks -/

/-- A single line that begins with two slashes. -/
def Remark (text : String) : Prop :=
  OneLine text ∧ ['/', '/'] <+: text.toList

/-- The characters of a comment as it is written. -/
def commentText (l : List Char) : List Char :=
  let text := l.dropWhile (· == '/')
  let gap := if text.head? = some '!' then [' '] else []
  ['/', '/'] ++ gap ++ trimEnd text

theorem commentPieces_eq (comments : String) :
    commentPieces comments =
      ((Lines.plain comments.toList).map commentText).map fun l => line (String.ofList l) := by
  rw [List.map_map]
  rfl

theorem newline_not_mem_commentText {l : List Char} (hl : '\n' ∉ l) : '\n' ∉ commentText l := by
  have htext : '\n' ∉ trimEnd (l.dropWhile (· == '/')) :=
    fun h => hl ((List.dropWhile_suffix _).subset ((trimEnd_isPrefix _).subset h))
  rw [commentText]
  split <;> simpa using htext

/-- The slashes in front go, and a mark is set off, so that the third character is neither. -/
theorem third_commentText {l : List Char} {c : Char} (h : (commentText l)[2]? = some c) :
    c ≠ '/' ∧ c ≠ '!' := by
  rw [commentText] at h
  split at h
  · cases Option.some.inj h
    decide
  · rename_i hmark
    have hfirst : (trimEnd (l.dropWhile (· == '/'))).head? = some c := by
      rw [List.head?_eq_getElem?]
      exact h
    obtain ⟨back, htrim⟩ := trimEnd_isPrefix (l.dropWhile (· == '/'))
    obtain ⟨rest, hrest⟩ := List.head?_eq_some_iff.mp hfirst
    have hhead : (l.dropWhile (· == '/')).head? = some c := by
      rw [← htrim, hrest]
      rfl
    constructor
    · rintro rfl
      have hslash := List.head?_dropWhile_not (· == '/') l
      rw [hhead] at hslash
      cases hslash
    · rintro rfl
      exact hmark hhead

theorem remark_commentText {l : List Char} (hl : '\n' ∉ l) : Remark (String.ofList (commentText l)) := by
  refine ⟨oneLine_ofList.mpr (newline_not_mem_commentText hl), ?_⟩
  rw [String.toList_ofList, commentText, List.append_assoc]
  exact List.prefix_append _ _

theorem remark_of_mem_commentPieces {comments : String} {p : Piece} (hp : p ∈ commentPieces comments) :
    ∃ text, p = line text ∧ Remark text := by
  obtain ⟨l, hl, rfl⟩ := List.mem_map.mp hp
  exact ⟨_, rfl, remark_commentText (Lines.newline_not_mem_plain hl)⟩

theorem remark_of_mem_aboutPieces {about : String} {p : Piece} (hp : p ∈ aboutPieces about) :
    ∃ text, p = line text ∧ Remark text := by
  obtain ⟨l, hl, rfl⟩ := List.mem_map.mp hp
  have hline : '\n' ∉ trimEnd l := fun h => Lines.newline_not_mem_plain hl ((trimEnd_isPrefix l).subset h)
  split
  · exact ⟨_, rfl, by decide, by decide⟩
  · refine ⟨_, rfl, oneLine_append.mpr ⟨by decide, oneLine_ofList.mpr hline⟩, ?_⟩
    rw [String.toList_append]
    exact ⟨_, rfl⟩

theorem Remark.delta_eq {text : String} (h : Remark text) : delta text.toList = .same := by
  obtain ⟨rest, hrest⟩ := h.2
  rw [← hrest]
  exact delta_comment rest

theorem Remark.lead_eq {text : String} (h : Remark text) (s : Sheet) :
    s.lead text.toList = Sheet.indentation s.depth := by
  obtain ⟨rest, hrest⟩ := h.2
  rw [← hrest]
  rfl

/-- A remark goes onto its own line with the indentation of the depth, which it keeps. -/
theorem Remark.write_eq {text : String} (h : Remark text) {s : Sheet} (hs : s.line = []) :
    s.write (text ++ "\n") =
      { s with reversed := (Sheet.indentation s.depth ++ text.toList ++ ['\n']).reverse ++ s.reversed } := by
  obtain ⟨reversed, line, depth⟩ := s
  cases hs
  rw [Sheet.write_line rfl h.1, h.delta_eq, h.lead_eq]
  simp [Delta.apply, Sheet.indentation]

theorem writePieces_remarks {ls : List (List Char)} (hls : ∀ l ∈ ls, Remark (String.ofList l)) {s : Sheet}
    (hs : s.line = []) :
    s.writePieces (ls.map fun l => line (String.ofList l)) =
      ({ s with
        reversed := (ls.flatMap fun l => Sheet.indentation s.depth ++ l ++ ['\n']).reverse ++ s.reversed },
        none) := by
  induction ls generalizing s with
  | nil => rfl
  | cons l ls ih =>
      have hfirst := (hls l List.mem_cons_self).write_eq hs
      have hrest : ∀ l' ∈ ls, Remark (String.ofList l') := fun l' hl' => hls l' (List.mem_cons_of_mem l hl')
      rw [List.map_cons, line, Sheet.writePieces, hfirst]
      refine (ih hrest ?_).trans ?_
      · exact hs
      · simp

/-- Every line that the comments of a message give, its indentation aside, begins with two slashes that no
third slash and no mark follows. -/
theorem writePieces_commentPieces (comments : String) {s : Sheet} (hs : s.line = []) :
    ∃ ls : List (List Char),
      s.writePieces (commentPieces comments) =
        ({ s with
          reversed := (ls.flatMap fun l => Sheet.indentation s.depth ++ l ++ ['\n']).reverse ++ s.reversed },
          none) ∧
      ∀ l ∈ ls, '\n' ∉ l ∧ ['/', '/'] <+: l ∧ ∀ c, l[2]? = some c → c ≠ '/' ∧ c ≠ '!' := by
  refine ⟨(Lines.plain comments.toList).map commentText, ?_, fun l hl => ?_⟩
  · rw [commentPieces_eq]
    refine writePieces_remarks (fun l hl => ?_) hs
    obtain ⟨plain, hplain, rfl⟩ := List.mem_map.mp hl
    exact remark_commentText (Lines.newline_not_mem_plain hplain)
  · obtain ⟨plain, hplain, rfl⟩ := List.mem_map.mp hl
    have hremark := remark_commentText (Lines.newline_not_mem_plain hplain)
    refine ⟨oneLine_ofList.mp hremark.1, ?_, fun c hc => third_commentText hc⟩
    have hslashes := hremark.2
    rwa [String.toList_ofList] at hslashes

/-! ## The code of a text -/

/-- The lines, each with its line feed, that are not comments. -/
def codeLines (text : String) : List (List Char) :=
  (Lines.inclusive text.toList).filter fun l => !isComment (trim l)

theorem codeLines_append {front : String} (hfront : Lines.Finished front.toList) (back : String) :
    codeLines (front ++ back) = codeLines front ++ codeLines back := by
  rw [codeLines, String.toList_append, Lines.inclusive_append hfront, List.filter_append]
  rfl

theorem isComment_trim_indented (n : Nat) (l : List Char) :
    isComment (trim (Sheet.indentation n ++ '/' :: '/' :: l)) = true := by
  have hblank : ∀ c ∈ Sheet.indentation n, isBlank c = true := by
    intro c hc
    rw [List.eq_of_mem_replicate hc]
    decide
  have hslash : isBlank '/' = false := by decide
  have hlast : ['/'].getLast? = some '/' := rfl
  rw [trim_append_of_blank hblank, trim_cons hslash, show '/' :: l = ['/'] ++ l from rfl, trimEnd_append hlast hslash]
  rfl

theorem Remark.codeLines_eq {text : String} (h : Remark text) (n : Nat) :
    codeLines (String.ofList (Sheet.indentation n ++ text.toList ++ ['\n'])) = [] := by
  have hline : '\n' ∉ Sheet.indentation n ++ text.toList := by
    intro hmem
    rcases List.mem_append.mp hmem with hindent | htext
    · exact absurd (List.eq_of_mem_replicate hindent) (by decide)
    · exact h.1 htext
  obtain ⟨rest, hrest⟩ := h.2
  have hcomment : isComment (trim (Sheet.indentation n ++ text.toList ++ ['\n'])) = true := by
    rw [← hrest, List.append_assoc]
    exact isComment_trim_indented n (rest ++ ['\n'])
  rw [codeLines, String.toList_ofList, Lines.inclusive_line hline, List.filter_cons, hcomment]
  rfl

/-! ## Pieces with the same code -/

/-- Both sheets are at the start of a line and at one depth, and their code is the same. -/
structure SameCode (s s' : Sheet) : Prop where
  line : s.line = []
  line' : s'.line = []
  depth : s.depth = s'.depth
  code : codeLines s.text = codeLines s'.text

/-- From the start of a line both sequences end in the same error, or in the same code. -/
structure Interchangeable (ps qs : Pieces) : Prop where
  error : ps.error? = qs.error?
  code : ps.error? = none → ∀ depth,
    SameCode ((Sheet.fresh depth).writePieces ps).1 ((Sheet.fresh depth).writePieces qs).1

theorem Sheet.settled_fresh (depth : Nat) : (Sheet.fresh depth).Settled :=
  ⟨fun _ => Or.inl rfl, fun _ => rfl⟩

/-- Whole lines put after the text of a sheet. -/
theorem Sheet.codeLines_writePieces {s : Sheet} (hsettled : s.Settled) (hline : s.line = []) (ps : Pieces) :
    codeLines (s.writePieces ps).1.text =
      codeLines s.text ++ codeLines ((Sheet.fresh s.depth).writePieces ps).1.text := by
  have hfinished : Lines.Finished s.text.toList := by
    rw [text, String.toList_ofList]
    exact hsettled.mp hline
  rw [← codeLines_append hfinished]
  have hwritten := (Sheet.fresh s.depth).writePieces_after s.reversed ps
  rw [← Sheet.eq_fresh_after hline] at hwritten
  rw [hwritten, Sheet.text_after]
  rfl

/-- The depth and the unfinished line do not depend on the text before. -/
theorem Sheet.writePieces_fresh {s : Sheet} (hline : s.line = []) (ps : Pieces) :
    (s.writePieces ps).1.line = ((Sheet.fresh s.depth).writePieces ps).1.line ∧
      (s.writePieces ps).1.depth = ((Sheet.fresh s.depth).writePieces ps).1.depth := by
  have hwritten := (Sheet.fresh s.depth).writePieces_after s.reversed ps
  rw [← Sheet.eq_fresh_after hline] at hwritten
  rw [hwritten]
  exact ⟨rfl, rfl⟩

/-- Interchangeable pieces keep the code of two sheets the same. -/
theorem Interchangeable.sameCode {ps qs : Pieces} (h : Interchangeable ps qs) (hps : ps.error? = none)
    {s s' : Sheet} (hs : s.Settled) (hs' : s'.Settled) (hsame : SameCode s s') :
    SameCode (s.writePieces ps).1 (s'.writePieces qs).1 := by
  obtain ⟨hline, hdepth⟩ := Sheet.writePieces_fresh hsame.line ps
  obtain ⟨hline', hdepth'⟩ := Sheet.writePieces_fresh hsame.line' qs
  have hadded := h.code hps s.depth
  rw [← hsame.depth] at hline' hdepth'
  refine ⟨hline.trans hadded.line, hline'.trans hadded.line', ?_, ?_⟩
  · rw [hdepth, hdepth', hadded.depth]
  · rw [s.codeLines_writePieces hs hsame.line, s'.codeLines_writePieces hs' hsame.line', hsame.code,
      ← hsame.depth, hadded.code]

namespace Interchangeable

variable {ps qs ps' qs' : Pieces}

theorem append (h : Interchangeable ps qs) (h' : Interchangeable ps' qs') :
    Interchangeable (ps ++ ps') (qs ++ qs') where
  error := by rw [Pieces.error?_append, Pieces.error?_append, h.error, h'.error]
  code := by
    intro herror depth
    rw [Pieces.error?_append, Option.or_eq_none_iff] at herror
    have hqs : qs.error? = none := h.error ▸ herror.1
    rw [(Sheet.fresh depth).writePieces_append herror.1, (Sheet.fresh depth).writePieces_append hqs]
    exact h'.sameCode herror.2 (Sheet.settled_writePieces (Sheet.settled_fresh depth) ps)
      (Sheet.settled_writePieces (Sheet.settled_fresh depth) qs) (h.code herror.1 depth)

theorem nil : Interchangeable [] [] :=
  ⟨rfl, fun _ _ => ⟨rfl, rfl, rfl, rfl⟩⟩

/-- Pieces that end in a line have their own code. -/
theorem endingLine {text : String} (h : [line text] <:+ ps) : Interchangeable ps ps where
  error := rfl
  code := by
    intro herror depth
    obtain ⟨front, rfl⟩ := h
    rw [Pieces.error?_append, Option.or_eq_none_iff] at herror
    rw [(Sheet.fresh depth).writePieces_append herror.1]
    have hline := ((Sheet.fresh depth).writePieces front).1.line_write_newline text
    exact ⟨hline, hline, rfl, rfl⟩

theorem flatMap {α β : Type} {f : α → Pieces} {g : β → Pieces} {change : α → β} {items : List α}
    (h : ∀ a ∈ items, Interchangeable (f a) (g (change a))) :
    Interchangeable (items.flatMap f) ((items.map change).flatMap g) := by
  induction items with
  | nil => exact nil
  | cons a items ih =>
      rw [List.map_cons, List.flatMap_cons, List.flatMap_cons]
      exact (h a List.mem_cons_self).append (ih fun b hb => h b (List.mem_cons_of_mem a hb))

theorem errors (h : ∀ p ∈ ps, ∃ e, p = .error e) : Interchangeable ps ps := by
  refine ⟨rfl, fun herror => ?_⟩
  cases ps with
  | nil => exact nil.code rfl
  | cons p ps =>
      obtain ⟨e, rfl⟩ := h p List.mem_cons_self
      cases herror

/-- Remarks have no code. -/
theorem remarks (h : ∀ p ∈ ps, ∃ text, p = line text ∧ Remark text) : Interchangeable ps [] := by
  induction ps with
  | nil => exact nil
  | cons p ps ih =>
      obtain ⟨text, rfl, htext⟩ := h p List.mem_cons_self
      have hone : Interchangeable [line text] [] := by
        refine ⟨rfl, fun _ depth => ?_⟩
        have hwrite : ((Sheet.fresh depth).writePieces [line text]).1 =
            (Sheet.fresh depth).write (text ++ "\n") := rfl
        rw [hwrite, htext.write_eq rfl]
        refine ⟨rfl, rfl, rfl, ?_⟩
        have hcode := htext.codeLines_eq depth
        rw [Sheet.text, Sheet.fresh, List.append_nil, List.reverse_reverse, hcode]
        rfl
      exact hone.append (ih fun q hq => h q (List.mem_cons_of_mem _ hq))

end Interchangeable

/-! ## Messages without their documentation -/

section Field

variable (f : Field)

theorem snakeOf_withoutDocs : snakeOf f.withoutDocs = snakeOf f := by
  rw [f.withoutDocs_eq, snakeOf, snakeOf]

theorem identOf_withoutDocs : identOf f.withoutDocs = identOf f := by
  rw [identOf, identOf, snakeOf_withoutDocs]

theorem defaultPieces_withoutDocs (owner : String) :
    defaultPieces owner f.withoutDocs = defaultPieces owner f := by
  rw [defaultPieces, identOf_withoutDocs, f.withoutDocs_eq, defaultPieces]

theorem helperPieces_withoutDocs (r : Record) :
    helperPieces r.withoutDocs f.withoutDocs = helperPieces r f := by
  have htype : f.withoutDocs.type = f.type := by rw [f.withoutDocs_eq]
  have hcondition : fieldCondition r.withoutDocs f.withoutDocs = fieldCondition r f := by
    rw [f.withoutDocs_eq]
    rfl
  simp only [helperPieces, decodeHelper, encodeHelper, decodeBody, encodeBody, hcondition,
    snakeOf_withoutDocs, identOf_withoutDocs, htype]

theorem memberPieces_interchangeable :
    Interchangeable (memberPieces f) (memberPieces f.withoutDocs) := by
  have hmembers : memberPieces f.withoutDocs =
      [line ("#[serde(rename = \"" ++ snakeOf f ++ "\")]"),
        line ("pub " ++ identOf f ++ ": " ++ fieldType f.type ++ ",")] := by
    rw [memberPieces, snakeOf_withoutDocs, identOf_withoutDocs, f.withoutDocs_eq]
    rfl
  rw [hmembers]
  exact (Interchangeable.remarks fun _ hp => remark_of_mem_aboutPieces hp).append
    (.endingLine ⟨[_], rfl⟩)

end Field

section Record

variable (r : Record)

theorem blankLine_suffix : [line ""] <:+ [blankLine] :=
  ⟨[], by decide⟩

theorem separated_interchangeable (fields : List Field) :
    Interchangeable (separated (fields.map memberPieces))
      (separated ((fields.map Field.withoutDocs).map memberPieces)) := by
  induction fields with
  | nil => exact .nil
  | cons f fields ih =>
      cases fields with
      | nil => exact memberPieces_interchangeable f
      | cons g fields =>
          exact (memberPieces_interchangeable f).append ((Interchangeable.endingLine blankLine_suffix).append ih)

theorem typePieces_interchangeable : Interchangeable (typePieces r) (typePieces r.withoutDocs) :=
  ((Interchangeable.endingLine ⟨[_], rfl⟩).append (separated_interchangeable r.fields)).append
    (.endingLine List.suffix_rfl)

theorem error_of_mem_referencePieces {known : List String} {p : Piece} (hp : p ∈ referencePieces known r) :
    ∃ e, p = .error e := by
  obtain ⟨f, _, hf⟩ := List.mem_filterMap.mp hp
  split at hf
  · cases hf
  · split at hf
    · cases hf
    · exact ⟨_, (Option.some.inj hf).symm⟩

theorem referencePieces_withoutDocs (known : List String) :
    referencePieces known r.withoutDocs = referencePieces known r := by
  rw [referencePieces, Record.withoutDocs, List.filterMap_map]
  refine List.filterMap_congr fun f _ => ?_
  rw [Function.comp_apply, f.withoutDocs_eq]

/-- What comes after the type. -/
def implPieces (r : Record) (extra : Pieces) : Pieces :=
  blankLine :: defaultImplPieces r ++ blankLine :: inherentPieces r extra ++ blankLine :: codecPieces r

theorem recordPieces_eq (known : List String) (extra : Pieces) :
    recordPieces known extra r = referencePieces known r ++ (typePieces r ++ implPieces r extra) := by
  simp [recordPieces, implPieces]

theorem implPieces_withoutDocs (extra : Pieces) : implPieces r.withoutDocs extra = implPieces r extra := by
  have hdefaults : defaultImplPieces r.withoutDocs = defaultImplPieces r := by
    simp only [defaultImplPieces, Record.withoutDocs, List.flatMap_map, defaultPieces_withoutDocs]
  have hinherent : inherentPieces r.withoutDocs extra = inherentPieces r extra := by
    have hhelpers : r.withoutDocs.fields.flatMap (helperPieces r.withoutDocs) =
        r.fields.flatMap (helperPieces r) := by
      rw [Record.withoutDocs, List.flatMap_map]
      exact List.flatMap_congr fun f _ => helperPieces_withoutDocs f r
    rw [inherentPieces, hhelpers, inherentPieces]
    rfl
  have hcodec : codecPieces r.withoutDocs = codecPieces r := by
    simp only [codecPieces, Record.withoutDocs, List.map_map, Function.comp_def, snakeOf_withoutDocs]
  rw [implPieces, hdefaults, hinherent, hcodec, implPieces]

theorem closeLine_suffix_implPieces (extra : Pieces) : [closeLine] <:+ implPieces r extra := by
  have hcodec : [closeLine] <:+ codecPieces r := by
    rw [codecPieces]
    exact List.IsSuffix.trans ⟨[_, _], rfl⟩ (List.suffix_append _ _)
  exact hcodec.trans ((List.suffix_cons _ _).trans (List.suffix_append _ _))

theorem recordPieces_interchangeable (known : List String) (extra : Pieces) :
    Interchangeable (recordPieces known extra r) (recordPieces known extra r.withoutDocs) := by
  rw [recordPieces_eq, recordPieces_eq, implPieces_withoutDocs, referencePieces_withoutDocs]
  exact (Interchangeable.errors fun _ hp => error_of_mem_referencePieces r hp).append
    ((typePieces_interchangeable r).append (.endingLine (closeLine_suffix_implPieces r extra)))

end Record

theorem messagePieces_interchangeable (m : Message) :
    Interchangeable (messagePieces m) (messagePieces m.withoutDocs) := by
  have hblank := Interchangeable.endingLine blankLine_suffix
  have hcomments : Interchangeable (commentPieces m.comments) [] :=
    .remarks fun _ hp => remark_of_mem_commentPieces hp
  have hinner : Interchangeable
      (m.innerRecords.flatMap fun r => blankLine :: recordPieces m.declaredNames [] r)
      ((m.innerRecords.map Record.withoutDocs).flatMap fun r =>
        blankLine :: recordPieces m.declaredNames [] r) :=
    .flatMap fun r _ => hblank.append (recordPieces_interchangeable r m.declaredNames [])
  rw [messagePieces, messagePieces, m.declaredNames_withoutDocs, m.innerRecords_withoutDocs]
  exact ((hblank.append hcomments).append (recordPieces_interchangeable _ _ _)).append hinner

/-! ## Groups -/

theorem Sheet.settled_withPrelude (path : String) :
    (Sheet.withPrelude (preludeFor path)).Settled ∧ (Sheet.withPrelude (preludeFor path)).line = [] := by
  obtain ⟨front, hfront⟩ := List.getLast?_eq_some_iff.mp (getLast?_preludeFor path)
  have hprelude : preludeFor path = String.ofList front ++ "\n" := by
    rw [← String.toList_inj, hfront, String.toList_append, String.toList_ofList]
    rfl
  rw [withPrelude_preludeFor]
  constructor
  · exact settled_write (settled_write (settled_fresh 0) _) _
  · rw [hprelude]
    exact line_write_newline _ _

/-- Without its documentation a group is refused for the same reason or written with the same code. -/
theorem compileGroup_withoutDocs (path : String) (ms : List Message) :
    (∃ e, compileGroup path ms = .error e ∧ compileGroup path (ms.map Message.withoutDocs) = .error e) ∨
      ∃ file plain, compileGroup path ms = .ok file ∧
        compileGroup path (ms.map Message.withoutDocs) = .ok plain ∧ SameCode file plain := by
  obtain ⟨hsettled, hline⟩ := Sheet.settled_withPrelude path
  have hpieces : Interchangeable (ms.flatMap messagePieces)
      ((ms.map Message.withoutDocs).flatMap messagePieces) :=
    .flatMap fun m _ => messagePieces_interchangeable m
  rw [compileGroup, compileGroup, compileAll_eq, compileAll_eq]
  generalize Sheet.withPrelude (preludeFor path) = s at hsettled hline
  cases herror : Pieces.error? (ms.flatMap messagePieces) with
  | some e =>
      refine Or.inl ⟨e, finish_eq_error ?_, finish_eq_error ?_⟩
      · rw [Sheet.writePieces_snd, herror]
      · rw [Sheet.writePieces_snd, ← hpieces.error, herror]
  | none =>
      refine Or.inr ⟨_, _, finish_eq_ok ?_, finish_eq_ok ?_,
        hpieces.sameCode herror hsettled hsettled ⟨hline, hline, rfl, rfl⟩⟩
      · rw [Sheet.writePieces_snd, herror]
      · rw [Sheet.writePieces_snd, ← hpieces.error, herror]

/-- Groups that differ in documentation only are refused for the same reason or have the same code, and no
comment turns into documentation of the code. -/
theorem compileGroup_code_of_docs {ms ms' : List Message}
    (h : ms.map Message.withoutDocs = ms'.map Message.withoutDocs) (path : String) :
    ((∃ e, compileGroup path ms = .error e ∧ compileGroup path ms' = .error e) ∨
      ∃ file file', compileGroup path ms = .ok file ∧ compileGroup path ms' = .ok file' ∧
        codeLines file.text = codeLines file'.text) ∧
    ∀ (comments : String) (s : Sheet), s.line = [] →
      ∃ ls : List (List Char),
        s.writePieces (commentPieces comments) =
          ({ s with
            reversed := (ls.flatMap fun l => Sheet.indentation s.depth ++ l ++ ['\n']).reverse ++ s.reversed },
            none) ∧
        ∀ l ∈ ls, '\n' ∉ l ∧ ['/', '/'] <+: l ∧ ∀ c, l[2]? = some c → c ≠ '/' ∧ c ≠ '!' := by
  refine ⟨?_, fun comments s hs => writePieces_commentPieces comments hs⟩
  -- both groups are compared with the one that has no documentation
  have hplain' := compileGroup_withoutDocs path ms'
  rw [← h] at hplain'
  rcases compileGroup_withoutDocs path ms with ⟨e, hms, hplain⟩ | ⟨file, plain, hms, hplain, hsame⟩
  · rcases hplain' with ⟨e', hms', herror⟩ | ⟨_, _, _, hok, _⟩
    · rw [hplain] at herror
      cases herror
      exact Or.inl ⟨e, hms, hms'⟩
    · rw [hplain] at hok
      cases hok
  · rcases hplain' with ⟨_, _, herror⟩ | ⟨file', plain', hms', hok, hsame'⟩
    · rw [hplain] at herror
      cases herror
    · rw [hplain] at hok
      cases hok
      exact Or.inr ⟨file, file', hms, hms', hsame.code.trans hsame'.code.symm⟩

def bracesField : Field :=
  { name := "Name", about := "ends in \x7b\n\x7d\n\x7d else \x7b\r", type := ⟨.primitive .string, false⟩,
    versions := some (.openFrom 0) }

def bracesHeader : Message :=
  { kind := .header, name := "H", fields := [bracesField], comments := "/// \x7b\n//! \x7d\nfn main() \x7b" }

theorem compileGroup_code_bracesHeader :
    [bracesHeader].map Message.withoutDocs = [bracesHeader.withoutDocs].map Message.withoutDocs ∧
      ∃ file file', compileGroup defaultRuntimePath [bracesHeader] = .ok file ∧
        compileGroup defaultRuntimePath [bracesHeader.withoutDocs] = .ok file' ∧
        codeLines file.text = codeLines file'.text := by
  have hdocs : [bracesHeader].map Message.withoutDocs = [bracesHeader.withoutDocs].map Message.withoutDocs :=
    rfl
  have hok : (compileGroup defaultRuntimePath [bracesHeader]).isOk = true := rfl
  refine ⟨hdocs, (compileGroup_code_of_docs hdocs defaultRuntimePath).1.resolve_left ?_⟩
  rintro ⟨e, herror, _⟩
  rw [herror] at hok
  cases hok

end WireSchema.Source
