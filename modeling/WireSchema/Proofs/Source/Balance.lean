import WireSchema.Proofs.Name.Case
import WireSchema.Proofs.Source.Numeral
import WireSchema.Proofs.Source.Remark
import WireSchema.Proofs.Text.Numeral
import WireSchema.Proofs.Text.Quoted

/-!
The source of a message closes every level that it opens. Each line of it is neutral, opens a level or closes
one, and the lines that open and close come in pairs around lines of which the same is true; this needs only
names without line feeds, since all other text of a schema is escaped or stands in comments. So a message that
starts at the start of a line ends there at the same depth, and the text of a group is put together from the
texts of its messages.
-/

namespace WireSchema.Source

open WireSchema.Text WireSchema.Schema WireSchema.Version

/-! ## Texts without a line feed -/

theorem of_mem_decimal {n : Int} {c : Char} (h : c ∈ (Numeral.decimal n).toList) :
    c = '-' ∨ ∃ d : Fin 10, c = Numeral.digit d := by
  have hdigit (hc : c ∈ Numeral.digits 10 n.natAbs) : ∃ d : Fin 10, c = Numeral.digit d := by
    obtain ⟨d, hd, hdigit⟩ := Numeral.mem_digitsWith (by decide) _ _ hc
    exact ⟨⟨d, hd⟩, hdigit⟩
  rw [Numeral.decimal, Numeral.toList_ofInt] at h
  split at h
  · exact (List.mem_cons.mp h).imp_right hdigit
  · exact Or.inr (hdigit h)

@[simp] theorem oneLine_decimal (n : Int) : OneLine (Numeral.decimal n) :=
  oneLine_ofInt (by decide) (by decide) n

@[simp] theorem oneLine_encode (text : String) : OneLine (Quoted.encode text) := by
  rw [Quoted.encode, oneLine_ofList]
  exact (Quoted.literal_encodeChars text.toList).no_break.1

theorem oneLine_identifier {name : String} (h : OneLine name) : OneLine (Name.identifier name) := by
  rw [Name.identifier]
  split
  · simp +decide [h]
  · split
    · simp +decide [h]
    · exact h

@[simp] theorem oneLine_token (p : Primitive) : OneLine p.token := by
  cases p <;> decide

@[simp] theorem oneLine_render (c : Condition) : OneLine (c.render versionVar) := by
  cases c <;> simp +decide [Condition.render]

@[simp] theorem oneLine_renderNegated (c : Condition) : OneLine (c.renderNegated versionVar) := by
  cases c <;> simp +decide [Condition.renderNegated]

/-! ## How a line begins and ends -/

/-- The text does not begin in a blank, a slash or a closing brace. -/
def startsPlain (text : String) : Bool :=
  text.toList.head?.any fun c => !isBlank c && c != '/' && c != '}'

/-- The text does not end in a blank or a brace. -/
def endsPlain (text : String) : Bool :=
  text.toList.getLast?.any fun c => !isBlank c && c != '{' && c != '}'

@[simp] theorem endsPlain_append (front : String) {back : String} (h : endsPlain back = true) :
    endsPlain (front ++ back) = true := by
  rw [endsPlain] at h ⊢
  rw [String.toList_append, List.getLast?_append]
  cases hback : back.toList.getLast? with
  | none => rw [hback] at h; cases h
  | some c => rwa [hback] at h

theorem endsPlain_decimal (n : Int) : endsPlain (Numeral.decimal n) = true := by
  have htable : ∀ d : Fin 10,
      (!isBlank (Numeral.digit d) && Numeral.digit d != '{' && Numeral.digit d != '}') = true := by decide
  rw [endsPlain, Option.any_eq_true]
  cases hlast : (Numeral.decimal n).toList.getLast? with
  | none =>
      have hempty := List.getLast?_eq_none_iff.mp hlast
      rw [Numeral.decimal, Numeral.toList_ofInt] at hempty
      split at hempty
      · cases hempty
      · exact absurd hempty (Numeral.digits_ne_nil _ _)
  | some c =>
      refine ⟨c, rfl, ?_⟩
      rcases of_mem_decimal (List.mem_of_getLast? hlast) with rfl | ⟨d, rfl⟩
      · decide
      · exact htable d

theorem endsPlain_render (c : Condition) : endsPlain (c.render versionVar) = true := by
  cases c <;> simp +decide [Condition.render, endsPlain_decimal]

theorem delta_of_endsPlain {text : String} (h : endsPlain text = true) : delta text.toList = .same := by
  rw [endsPlain, Option.any_eq_true] at h
  obtain ⟨c, hlast, hc⟩ := h
  simp only [Bool.and_eq_true, Bool.not_eq_eq_eq_not, Bool.not_true, bne_iff_ne] at hc
  exact delta_of_getLast? hlast ⟨hc.1.1, hc.1.2, hc.2⟩

theorem delta_of_startsPlain {text : String} (h : startsPlain text = true) :
    delta (text ++ " \x7b").toList = .opens := by
  rw [startsPlain, Option.any_eq_true] at h
  obtain ⟨c, hfirst, hc⟩ := h
  simp only [Bool.and_eq_true, Bool.not_eq_eq_eq_not, Bool.not_true, bne_iff_ne] at hc
  obtain ⟨rest, hrest⟩ := List.head?_eq_some_iff.mp hfirst
  rw [String.toList_append, hrest]
  exact delta_brace ⟨hc.1.1, hc.1.2, hc.2⟩ rest

/-! ## Default values -/

theorem exists_of_map_eq_ok {ε α β : Type} {f : α → β} {x : Except ε α} {b : β} (h : x.map f = .ok b) :
    ∃ a, f a = b := by
  cases x with
  | error e => cases h
  | ok a => exact ⟨a, Except.ok.inj h⟩

theorem oneLine_defaultText {t : FieldType} {d : Default} {text : String}
    (h : defaultText t d = .ok text) : OneLine text := by
  rw [defaultText] at h
  split at h
  · cases h
    decide
  · split at h
    · obtain ⟨b, rfl⟩ := exists_of_map_eq_ok h
      cases b <;> decide
    · obtain ⟨s, rfl⟩ := exists_of_map_eq_ok h
      split
      · decide
      · simp +decide
    · cases h
      decide
    · obtain ⟨n, rfl⟩ := exists_of_map_eq_ok h
      exact oneLine_decimal n
    · cases h
      decide

/-! ## Pieces that keep the depth -/

/-- Written from the start of a line at the first depth, the pieces end at the start of a line at the second,
unless one of them is an error. -/
def Takes (ps : Pieces) (before after : Nat) : Prop :=
  ps.error? = none → ∀ s : Sheet, s.line = [] → s.depth = before →
    (s.writePieces ps).1.line = [] ∧ (s.writePieces ps).1.depth = after

def Balanced (ps : Pieces) : Prop :=
  ∀ depth, Takes ps depth depth

theorem Takes.append {ps qs : Pieces} {d e f : Nat} (hps : Takes ps d e) (hqs : Takes qs e f) :
    Takes (ps ++ qs) d f := by
  intro herror s hline hdepth
  rw [Pieces.error?_append, Option.or_eq_none_iff] at herror
  obtain ⟨hline', hdepth'⟩ := hps herror.1 s hline hdepth
  rw [s.writePieces_append herror.1]
  exact hqs herror.2 _ hline' hdepth'

theorem takes_line {text : String} (htext : OneLine text) (d : Nat) :
    Takes [line text] d ((delta text.toList).apply d) := by
  intro _ s hline hdepth
  have hwrite : s.writePieces [line text] = (s.write (text ++ "\n"), none) := rfl
  rw [hwrite, Sheet.write_line hline htext, hdepth]
  exact ⟨rfl, rfl⟩

namespace Balanced

variable {ps qs body : Pieces}

theorem nil : Balanced [] :=
  fun _ _ _ hline hdepth => ⟨hline, hdepth⟩

theorem append (hps : Balanced ps) (hqs : Balanced qs) : Balanced (ps ++ qs) :=
  fun d => (hps d).append (hqs d)

theorem cons {p : Piece} (hp : Balanced [p]) (hps : Balanced ps) : Balanced (p :: ps) :=
  hp.append hps

theorem flatMap {α : Type} {f : α → Pieces} {items : List α} (h : ∀ a ∈ items, Balanced (f a)) :
    Balanced (items.flatMap f) := by
  induction items with
  | nil => exact nil
  | cons a items ih =>
      rw [List.flatMap_cons]
      exact (h a List.mem_cons_self).append (ih fun b hb => h b (List.mem_cons_of_mem a hb))

theorem of_each (h : ∀ p ∈ ps, Balanced [p]) : Balanced ps := by
  have hall := flatMap h
  rwa [List.flatMap_singleton'] at hall

theorem line_of_delta {text : String} (htext : OneLine text) (hdelta : delta text.toList = .same) :
    Balanced [line text] := by
  intro d
  have h := takes_line htext d
  rwa [hdelta] at h

theorem plainLine (text : String) (h : OneLine text ∧ endsPlain text = true) : Balanced [line text] :=
  line_of_delta h.1 (delta_of_endsPlain h.2)

theorem blank : Balanced [blankLine] := by
  have hline : blankLine = line "" := by decide
  rw [hline]
  exact line_of_delta (by decide) (by decide)

/-- Lines between an opening line and the closing brace. -/
theorem block (hbody : Balanced body) (head : String) (h : OneLine head ∧ startsPlain head = true) :
    Balanced (braceLine head :: body ++ [closeLine]) := by
  intro d
  have hopen : Takes [braceLine head] d (d + 1) := by
    have htext : OneLine (head ++ " \x7b") := oneLine_append.mpr ⟨h.1, by decide⟩
    have hopen := takes_line htext d
    rwa [delta_of_startsPlain h.2] at hopen
  have hclose : Takes [closeLine] (d + 1) d := takes_line (by decide) (d + 1)
  exact (hopen.append (hbody (d + 1))).append hclose

theorem of_remarks (h : ∀ p ∈ ps, ∃ text, p = line text ∧ Remark text) : Balanced ps := by
  refine of_each fun p hp => ?_
  obtain ⟨text, rfl, htext⟩ := h p hp
  exact line_of_delta htext.1 htext.delta_eq

/-- Errors alone write nothing. -/
theorem of_errors (h : ∀ p ∈ ps, ∃ e, p = .error e) : Balanced ps := by
  intro d herror
  cases ps with
  | nil => exact nil d herror
  | cons p ps =>
      obtain ⟨e, rfl⟩ := h p List.mem_cons_self
      cases herror

end Balanced

/-! ## The parts of a structure's source -/

/-- Neither the name of the field nor that of its type has a line feed. -/
structure FieldOneLine (f : Field) : Prop where
  name : OneLine f.name
  type : OneLine f.type.element.render

instance (f : Field) : Decidable (FieldOneLine f) :=
  decidable_of_iff (OneLine f.name ∧ OneLine f.type.element.render)
    ⟨fun h => ⟨h.1, h.2⟩, fun h => ⟨h.name, h.type⟩⟩

structure RecordOneLine (r : Record) : Prop where
  name : OneLine r.name
  fields : ∀ f ∈ r.fields, FieldOneLine f

instance (r : Record) : Decidable (RecordOneLine r) :=
  letI := List.decidableBAll FieldOneLine r.fields
  decidable_of_iff (OneLine r.name ∧ ∀ f ∈ r.fields, FieldOneLine f)
    ⟨fun h => ⟨h.1, h.2⟩, fun h => ⟨h.name, h.fields⟩⟩

section Field

variable {f : Field}

theorem FieldOneLine.snakeOf (h : FieldOneLine f) : OneLine (snakeOf f) :=
  Name.newline_not_mem_snake h.name

theorem FieldOneLine.identOf (h : FieldOneLine f) : OneLine (identOf f) :=
  oneLine_identifier h.snakeOf

theorem FieldOneLine.struct (h : FieldOneLine f) {name : String} (hname : f.type.element = .struct name) :
    OneLine name := by
  have htype := h.type
  rwa [hname] at htype

theorem FieldOneLine.fieldType (h : FieldOneLine f) : OneLine (fieldType f.type) := by
  have helement : OneLine (elementType f.type.element) := by
    cases helement : f.type.element with
    | primitive p => cases p <;> decide
    | struct name => exact h.struct helement
  rw [Source.fieldType]
  split
  · simp +decide [helement]
  · exact helement

theorem balanced_memberPieces (h : FieldOneLine f) : Balanced (memberPieces f) := by
  refine (Balanced.of_remarks fun _ hp => remark_of_mem_aboutPieces hp).append
    (.cons (.plainLine _ ?_) (.plainLine _ ?_))
  · simp +decide [h.snakeOf]
  · simp +decide [h.identOf, h.fieldType]

/-- The three pieces make up one line. -/
theorem balanced_defaultPieces (owner : String) (h : FieldOneLine f) : Balanced (defaultPieces owner f) := by
  rw [defaultPieces]
  cases hdefault : defaultText f.type f.default with
  | error e =>
      intro d herror
      cases herror
  | ok text =>
      have hwhole (s : Sheet) : s.writePieces [.ok (identOf f ++ ": "), .ok text, line ","] =
          s.writePieces [line (identOf f ++ ": " ++ text ++ ",")] := by
        simp only [Sheet.writePieces, line, Sheet.write_append]
      have hline : Balanced [line (identOf f ++ ": " ++ text ++ ",")] := by
        apply Balanced.plainLine
        simp +decide [h.identOf, oneLine_defaultText hdefault]
      intro d _ s
      have hwritten := hline d rfl s
      rwa [← hwhole] at hwritten

theorem balanced_guardPieces (c : Condition) : Balanced (guardPieces c) := by
  rw [guardPieces.eq_def]
  split
  · exact .nil
  · refine .block (.plainLine _ (by decide)) _ ?_
    simp +decide [startsPlain]

theorem balanced_decodeItemPieces (h : FieldOneLine f) : Balanced (decodeItemPieces f.type.element) := by
  cases helement : f.type.element with
  | primitive p =>
      apply Balanced.plainLine
      simp +decide
  | struct name =>
      refine .cons (.plainLine _ ?_) (.cons (.plainLine _ (by decide)) (.plainLine _ (by decide)))
      simp +decide [h.struct helement]

theorem balanced_decodeBody (h : FieldOneLine f) : Balanced (decodeBody f) := by
  rw [decodeBody]
  split
  · have hassign : Balanced [line ("self." ++ identOf f ++ " = items;")] := by
      apply Balanced.plainLine
      simp +decide [h.identOf]
    have hloop : Balanced (braceLine "for _ in 0..len" :: decodeItemPieces f.type.element ++
        [closeLine, line ("self." ++ identOf f ++ " = items;")]) := by
      have hblock := ((balanced_decodeItemPieces h).block "for _ in 0..len" (by decide)).append hassign
      rwa [List.append_assoc] at hblock
    exact .cons (.plainLine _ (by decide)) (.cons (.plainLine _ (by decide)) hloop)
  · split
    · apply Balanced.plainLine
      simp +decide [h.identOf]
    · apply Balanced.plainLine
      simp +decide [h.identOf]

theorem endsPlain_encodeStatement (element : Element) (value : String) (isReference : Bool) :
    endsPlain (encodeStatement element value isReference) = true := by
  rw [encodeStatement.eq_def]
  split <;> simp +decide

theorem balanced_encodeStatement (element : Element) {value : String} (hvalue : OneLine value)
    (isReference : Bool) : Balanced [line (encodeStatement element value isReference)] := by
  refine .plainLine _ ⟨?_, endsPlain_encodeStatement element value isReference⟩
  rw [encodeStatement.eq_def]
  split
  · cases isReference <;> simp +decide [hvalue]
  · cases isReference <;> simp +decide [hvalue]
  · cases isReference <;> simp +decide [hvalue]
  · simp +decide [hvalue]

theorem balanced_encodeBody (h : FieldOneLine f) : Balanced (encodeBody f) := by
  have hvalue : OneLine ("self." ++ identOf f) := oneLine_append.mpr ⟨by decide, h.identOf⟩
  rw [encodeBody]
  split
  · have hloop := (balanced_encodeStatement f.type.element (show OneLine "item" by decide) true).block
      ("for item in &" ++ ("self." ++ identOf f)) (by simp +decide [startsPlain, h.identOf])
    refine .cons (.plainLine _ ?_) hloop
    simp +decide [hvalue]
  · exact balanced_encodeStatement _ hvalue false

/-- A helper with its guard. -/
theorem balanced_helper {head : String} (hhead : OneLine head ∧ startsPlain head = true) (c : Condition)
    {body : Pieces} (hbody : Balanced body) :
    Balanced (braceLine head :: guardPieces c ++ body ++ [line "Ok(())", closeLine]) := by
  have hall := (((balanced_guardPieces c).append hbody).append (.plainLine "Ok(())" (by decide))).block head hhead
  simpa using hall

theorem balanced_helperPieces (r : Record) (h : FieldOneLine f) : Balanced (helperPieces r f) := by
  refine (Balanced.blank.cons (balanced_helper ?_ _ (balanced_decodeBody h))).append
    (Balanced.blank.cons (balanced_helper ?_ _ (balanced_encodeBody h)))
  · simp +decide [startsPlain, decodeSignature, h.snakeOf]
  · simp +decide [startsPlain, encodeSignature, h.snakeOf]

end Field

section Record

variable {r : Record}

theorem balanced_separated {parts : List Pieces} (h : ∀ ps ∈ parts, Balanced ps) :
    Balanced (separated parts) := by
  induction parts with
  | nil => exact .nil
  | cons ps parts ih =>
      have hps := h ps List.mem_cons_self
      cases parts with
      | nil => exact hps
      | cons qs parts =>
          exact hps.append (Balanced.blank.cons (ih fun ps' hps' => h ps' (List.mem_cons_of_mem ps hps')))

theorem balanced_typePieces (h : RecordOneLine r) : Balanced (typePieces r) := by
  have hmembers : Balanced (separated (r.fields.map memberPieces)) := by
    refine balanced_separated fun ps hps => ?_
    obtain ⟨f, hf, rfl⟩ := List.mem_map.mp hps
    exact balanced_memberPieces (h.fields f hf)
  refine .cons (.plainLine _ (by decide)) (hmembers.block _ ?_)
  simp +decide [startsPlain, h.name]

theorem balanced_defaultImplPieces (h : RecordOneLine r) : Balanced (defaultImplPieces r) := by
  have hfields : Balanced (r.fields.flatMap (defaultPieces r.name)) :=
    .flatMap fun f hf => balanced_defaultPieces r.name (h.fields f hf)
  have hvalue := hfields.block "Self" (by decide)
  have hfunction := hvalue.block "fn default() -> Self" (by decide)
  have himpl := hfunction.block ("impl Default for " ++ r.name) (by simp +decide [startsPlain, h.name])
  have hall := Balanced.cons (.plainLine "#[allow(clippy::derivable_impls)]" (by decide)) himpl
  simpa [defaultImplPieces] using hall

theorem balanced_predicatePieces {name : String} (hname : OneLine name) (c : Condition) :
    Balanced (predicatePieces name c) := by
  refine (Balanced.plainLine _ ⟨oneLine_render c, endsPlain_render c⟩).block _ ?_
  simp +decide [startsPlain, hname]

theorem balanced_messageOnlyPieces (m : Message) : Balanced (messageOnlyPieces m) := by
  have hvalid := balanced_predicatePieces (show OneLine "is_version_valid" by decide)
    (Condition.within m.validVersions none)
  have hflexible := balanced_predicatePieces (show OneLine "is_version_flexible" by decide)
    (Condition.within m.flexibleVersions m.validVersions)
  have hkey (key : Int16) : Balanced (apiKeyPieces key) := by
    have hvalue : Balanced [line ("pub const API_KEY: i16 = " ++ Numeral.decimal key.toInt ++ ";")] := by
      apply Balanced.plainLine
      simp +decide
    have hgetter := (Balanced.plainLine "Self::API_KEY" (by decide)).block
      "pub fn api_key(&self) -> i16" (by decide)
    exact hvalue.cons (Balanced.blank.cons (hgetter.append .blank))
  refine Balanced.append (.append (.append ?_ hvalid) (Balanced.blank.cons hflexible)) .blank
  split
  · exact hkey _
  · exact .nil

theorem balanced_inherentPieces (h : RecordOneLine r) {extra : Pieces} (hextra : Balanced extra) :
    Balanced (inherentPieces r extra) := by
  have hreset := (Balanced.plainLine "*self = Self::default();" (by decide)).block
    "pub fn reset(&mut self)" (by decide)
  have hhelpers : Balanced (r.fields.flatMap (helperPieces r)) :=
    .flatMap fun f hf => balanced_helperPieces r (h.fields f hf)
  have himpl := ((hextra.append hreset).append hhelpers).block ("impl " ++ r.name)
    (by simp +decide [startsPlain, h.name])
  exact .cons (.plainLine _ (by decide)) himpl

theorem balanced_codecPieces (h : RecordOneLine r) : Balanced (codecPieces r) := by
  have hdecodes : Balanced
      (r.fields.map fun f => line ("self.decode_" ++ snakeOf f ++ "(d, " ++ versionVar ++ ")?;")) := by
    refine .of_each fun p hp => ?_
    obtain ⟨f, hf, rfl⟩ := List.mem_map.mp hp
    exact .plainLine _ (by simp +decide [(h.fields f hf).snakeOf])
  have hencodes : Balanced
      (r.fields.map fun f => line ("self.encode_" ++ snakeOf f ++ "(e, " ++ versionVar ++ ")?;")) := by
    refine .of_each fun p hp => ?_
    obtain ⟨f, hf, rfl⟩ := List.mem_map.mp hp
    exact .plainLine _ (by simp +decide [(h.fields f hf).snakeOf])
  have hend := Balanced.plainLine "Ok(())" (by decide)
  have hdecode := ((Balanced.plainLine "self.reset();" (by decide)).cons (hdecodes.append hend)).block
    (decodeSignature "decode") (by decide)
  have hencode := (hencodes.append hend).block (encodeSignature "encode") (by decide)
  have himpl := (hdecode.append (Balanced.blank.cons hencode)).block ("impl Message for " ++ r.name)
    (by simp +decide [startsPlain, h.name])
  have hall := (Balanced.plainLine "#[allow(unused_variables)]" (by decide)).cons himpl
  simpa [codecPieces] using hall

theorem balanced_recordPieces (known : List String) (h : RecordOneLine r) {extra : Pieces}
    (hextra : Balanced extra) : Balanced (recordPieces known extra r) :=
  ((((Balanced.of_errors fun _ hp => error_of_mem_referencePieces r hp).append (balanced_typePieces h)).append
    (.cons .blank (balanced_defaultImplPieces h))).append
    (.cons .blank (balanced_inherentPieces h hextra))).append (.cons .blank (balanced_codecPieces h))

end Record

/-! ## Messages -/

/-- None of the names that are written has a line feed: those of the structures, of their fields and of the
types of these. -/
def NamesOneLine (m : Message) : Prop :=
  ∀ r ∈ m.records, RecordOneLine r

instance (m : Message) : Decidable (NamesOneLine m) :=
  List.decidableBAll RecordOneLine m.records

theorem balanced_messagePieces {m : Message} (h : NamesOneLine m) : Balanced (messagePieces m) := by
  have hcomments : Balanced (commentPieces m.comments) :=
    .of_remarks fun _ hp => remark_of_mem_commentPieces hp
  have hrecord := balanced_recordPieces m.declaredNames (h m.record List.mem_cons_self)
    (balanced_messageOnlyPieces m)
  have hinner : Balanced (m.innerRecords.flatMap fun r => blankLine :: recordPieces m.declaredNames [] r) :=
    .flatMap fun r hr => .cons .blank
      (balanced_recordPieces m.declaredNames (h r (List.mem_cons_of_mem _ hr)) .nil)
  exact ((Balanced.blank.cons hcomments).append hrecord).append hinner

/-- The text of a message at the start of a line at the given depth. -/
def messageText (depth : Nat) (m : Message) : String :=
  (compileMessage (.fresh depth) m).1.text

theorem compileMessage_eq {s : Sheet} (hs : s.line = []) (m : Message) :
    compileMessage s m =
      ((compileMessage (.fresh s.depth) m).1.after s.reversed, (compileMessage (.fresh s.depth) m).2) := by
  have hwritten := (Sheet.fresh s.depth).writePieces_after s.reversed (messagePieces m)
  rwa [← Sheet.eq_fresh_after hs] at hwritten

theorem text_compileMessage {s : Sheet} (hs : s.line = []) (m : Message) :
    (compileMessage s m).1.text = s.text ++ messageText s.depth m := by
  rw [compileMessage_eq hs, Sheet.text_after]
  rfl

theorem compileMessage_depth {m : Message} (h : NamesOneLine m) {s : Sheet} (hs : s.line = [])
    (hok : (compileMessage s m).2 = none) :
    (compileMessage s m).1.line = [] ∧ (compileMessage s m).1.depth = s.depth := by
  rw [compileMessage, Sheet.writePieces_snd] at hok
  exact balanced_messagePieces h s.depth hok s hs rfl

/-! ## Groups -/

/-- At depth zero nothing is put before a line. -/
theorem Sheet.lead_of_depth {s : Sheet} (hdepth : s.depth = 0) (l : List Char) : s.lead l = [] := by
  cases l with
  | nil => rfl
  | cons c l =>
      have hlevels : s.levels c = 0 := by
        rw [levels, hdepth]
        split <;> rfl
      rw [lead, hlevels]
      rfl

/-- The text is a line that leaves the depth alone. -/
def Neutral (text : String) : Prop :=
  OneLine text ∧ delta text.toList = .same

instance (text : String) : Decidable (Neutral text) :=
  inferInstanceAs (Decidable (_ ∧ _))

/-- A neutral line at depth zero is written as it is. -/
theorem Neutral.write_eq {text : String} (htext : Neutral text) {s : Sheet} (hs : s.line = [] ∧ s.depth = 0) :
    ((s.write (text ++ "\n")).line = [] ∧ (s.write (text ++ "\n")).depth = 0) ∧
      (s.write (text ++ "\n")).text = s.text ++ (text ++ "\n") := by
  rw [Sheet.write_line hs.1 htext.1, htext.2, Sheet.lead_of_depth hs.2, hs.2]
  refine ⟨⟨rfl, rfl⟩, ?_⟩
  rw [← String.toList_inj]
  simp [Sheet.text]

/-- The line that imports the codec's types. -/
def codecImport (path : String) : String :=
  "use " ++ path ++ "::\x7bCodecError, Decoder, Encoder, Message\x7d;"

def serdeImport : String :=
  "use serde::\x7bDeserialize, Serialize\x7d;"

theorem preludeFor_eq (path : String) :
    preludeFor path = codecImport path ++ "\n" ++ (serdeImport ++ "\n") := by
  rw [← String.toList_inj]
  simp [preludeFor, codecImport, serdeImport]

theorem neutral_codecImport {path : String} (hpath : OneLine path) : Neutral (codecImport path) := by
  have hends : endsPlain (codecImport path) = true := by simp +decide [codecImport]
  refine ⟨?_, delta_of_endsPlain hends⟩
  simp +decide [codecImport, hpath]

theorem withPrelude_text {path : String} (hpath : OneLine path) :
    ((Sheet.withPrelude (preludeFor path)).line = [] ∧ (Sheet.withPrelude (preludeFor path)).depth = 0) ∧
      (Sheet.withPrelude (preludeFor path)).text = banner ++ "\n\n" ++ preludeFor path := by
  have hbanner : banner ++ "\n\n" = banner ++ "\n" ++ ("" ++ "\n") := by decide
  have hneutral : Neutral banner ∧ Neutral "" ∧ Neutral serdeImport := by decide
  have hempty : Sheet.empty.line = [] ∧ Sheet.empty.depth = 0 := ⟨rfl, rfl⟩
  obtain ⟨hfirst, htext₁⟩ := hneutral.1.write_eq hempty
  obtain ⟨hsecond, htext₂⟩ := hneutral.2.1.write_eq hfirst
  obtain ⟨hthird, htext₃⟩ := (neutral_codecImport hpath).write_eq hsecond
  obtain ⟨hfourth, htext₄⟩ := hneutral.2.2.write_eq hthird
  rw [withPrelude_preludeFor, preludeFor_eq, hbanner, Sheet.write_append _ (banner ++ "\n"),
    Sheet.write_append _ (codecImport path ++ "\n")]
  refine ⟨hfourth, ?_⟩
  rw [htext₄, htext₃, htext₂, htext₁, String.append_assoc, String.append_assoc, String.append_assoc,
    String.append_assoc]
  exact String.empty_append

theorem Sheet.eq_of_text {s s' : Sheet} (htext : s.text = s'.text) (hline : s.line = s'.line)
    (hdepth : s.depth = s'.depth) : s = s' := by
  obtain ⟨reversed, line, depth⟩ := s
  obtain ⟨reversed', line', depth'⟩ := s'
  have hreversed : reversed = reversed' := List.reverse_inj.mp (String.ofList_inj.mp htext)
  cases hreversed
  cases hline
  cases hdepth
  rfl

/-- The messages of a group are written one after the other, each as it is on a sheet of its own. -/
theorem compileAll_eq_ok {ms : List Message} (hms : ∀ m ∈ ms, NamesOneLine m) {s : Sheet}
    (hs : s.line = [] ∧ s.depth = 0) (file : Sheet) :
    compileAll s ms = .ok file ↔
      (∀ m ∈ ms, (compileMessage .empty m).2 = none) ∧ file.line = [] ∧ file.depth = 0 ∧
        file.text = s.text ++ String.join (ms.map (messageText 0)) := by
  induction ms generalizing s with
  | nil =>
      have hjoin : s.text ++ String.join (([] : List Message).map (messageText 0)) = s.text := String.append_empty
      rw [compileAll, hjoin]
      constructor
      · intro h
        cases h
        exact ⟨fun m hm => absurd hm List.not_mem_nil, hs.1, hs.2, rfl⟩
      · rintro ⟨_, hline, hdepth, htext⟩
        rw [Sheet.eq_of_text htext (hline.trans hs.1.symm) (hdepth.trans hs.2.symm)]
  | cons m ms ih =>
      have htext := text_compileMessage hs.1 m
      have herror : (compileMessage s m).2 = (compileMessage .empty m).2 := by
        rw [compileMessage, Sheet.writePieces_snd, compileMessage, Sheet.writePieces_snd]
      rw [hs.2] at htext
      rw [compileAll, List.forall_mem_cons, ← herror]
      split
      · rename_i s' hwrite
        have hok : (compileMessage s m).2 = none := by rw [hwrite]
        have hs' := compileMessage_depth (hms m List.mem_cons_self) hs.1 hok
        rw [hwrite] at hs' htext
        rw [hs.2] at hs'
        have hjoin : s.text ++ String.join ((m :: ms).map (messageText 0)) =
            s.text ++ messageText 0 m ++ String.join (ms.map (messageText 0)) := by
          rw [List.map_cons, String.join_cons, String.append_assoc]
        rw [ih (fun m' hm' => hms m' (List.mem_cons_of_mem m hm')) hs', htext, hjoin]
        simp [hwrite]
      · rename_i s' e hwrite
        simp [hwrite]

/-- A message ends where it began, at the start of a line and at the same depth, and adds a text that the
message and the depth alone determine. A group is its opening lines and the texts of its messages at depth
zero. -/
theorem compile_compositional :
    (∀ (m : Message) (s : Sheet), NamesOneLine m → s.line = [] →
      (compileMessage s m).1.text = s.text ++ messageText s.depth m ∧
        ((compileMessage s m).2 = none →
          (compileMessage s m).1.line = [] ∧ (compileMessage s m).1.depth = s.depth)) ∧
    ∀ (path : String) (ms : List Message), OneLine path → (∀ m ∈ ms, NamesOneLine m) → ∀ file : Sheet,
      compileGroup path ms = .ok file ↔
        (∀ m ∈ ms, (compileMessage .empty m).2 = none) ∧ file.line = [] ∧ file.depth = 0 ∧
          file.text = banner ++ "\n\n" ++ preludeFor path ++ String.join (ms.map (messageText 0)) := by
  constructor
  · intro m s hm hs
    exact ⟨text_compileMessage hs m, compileMessage_depth hm hs⟩
  · intro path ms hpath hms file
    obtain ⟨hstart, htext⟩ := withPrelude_text hpath
    rw [← htext]
    exact compileAll_eq_ok hms hstart file

def oddMember : Field :=
  { name := "//", about := "\x7b", type := ⟨.primitive .string, false⟩, versions := some (.closed 1 2),
    default := .string "\x7d\n\x7b" }

def oddHeader : Message :=
  { kind := .header, name := "Odd \x7b\x7d", comments := "\x7d\n\x7b",
    fields := [
      { name := "\x7d \x7b", about := "\x7d", type := ⟨.struct "Odd\x7d", true⟩, versions := some (.openFrom 2),
        fields := [oddMember] }] }

theorem compile_compositional_oddHeader :
    ((compileMessage (.fresh 3) oddHeader).1.line = [] ∧ (compileMessage (.fresh 3) oddHeader).1.depth = 3) ∧
      ∃ file, compileGroup defaultRuntimePath [oddHeader, oddHeader] = .ok file ∧ file.depth = 0 ∧
        file.text = banner ++ "\n\n" ++ preludeFor defaultRuntimePath ++
          String.join [messageText 0 oddHeader, messageText 0 oddHeader] := by
  have hpath : OneLine defaultRuntimePath := by decide
  have hnames : NamesOneLine oddHeader := by decide
  have hall : ∀ m ∈ [oddHeader, oddHeader], NamesOneLine m := by simp [hnames]
  obtain ⟨hmessage, hgroup⟩ := compile_compositional
  refine ⟨(hmessage oddHeader (.fresh 3) hnames rfl).2 rfl, ?_⟩
  obtain ⟨file, hfile⟩ : ∃ file, compileGroup defaultRuntimePath [oddHeader, oddHeader] = .ok file := ⟨_, rfl⟩
  obtain ⟨_, _, hdepth, htext⟩ := (hgroup defaultRuntimePath [oddHeader, oddHeader] hpath hall file).mp hfile
  exact ⟨file, hfile, hdepth, htext⟩

end WireSchema.Source
