import Mathlib.Data.List.Induction
import WireSchema.Proofs.Json.Place
import WireSchema.Proofs.Json.Record
import WireSchema.Proofs.Schema.Load

/-!
Where a document is reported to be wrong. Every failure of reading a message has a place, and the reader has
come at least as far. The position of the place is the end of the last line before it. Taking out comments
leaves the lines in their places and only cuts their ends off, so the position is one of the source, and up to
the column the line of the source is what the reader saw.
-/

namespace WireSchema.Schema

open WireSchema.Comment WireSchema.Json WireSchema.Json.Reader WireSchema.Text

variable {placed : Prop}

/-! ## The readers of the parts -/

theorem tracks_readText : Tracks placed readText :=
  tracks_text _

theorem tracks_readRange : Tracks False readRange :=
  (tracks_textSuch _ _).orNull

theorem tracks_readFieldType : Tracks False readFieldType :=
  tracks_textSuch _ _

theorem tracks_readTag : Tracks placed readTag :=
  (tracks_integer _ _ _).orNull

theorem tracks_readApiKey : Tracks placed readApiKey :=
  Tracks.orNull ((tracks_integer _ _ _).bind fun _ => tracks_pure _)

theorem Default.tracks_reader (room : Bool) : Tracks False (Default.reader room) := by
  have hlist : Tracks False (inList (raise (refuse .array)) : Json.Reader Default) := (tracks_raise _).inList
  have hobject : Tracks False (inObject (raise (refuse .object)) : Json.Reader Default) := (tracks_raise _).inObject
  refine tracks_valueStart.bind fun b => ?_
  refine Tracks.ite (tracks_discard.bind fun _ => (tracks_word _).bind fun _ => (tracks_raise _).stamp) ?_
  refine Tracks.ite (tracks_discard.bind fun _ => (tracks_word _).bind fun _ => tracks_pure _) ?_
  refine Tracks.ite (tracks_discard.bind fun _ => (tracks_word _).bind fun _ => tracks_pure _) ?_
  refine Tracks.ite (tracks_discard.bind fun _ => (tracks_number _).bind fun _ => tracks_pure _) ?_
  refine Tracks.ite ((tracks_number _).bind fun _ => tracks_pure _) ?_
  refine Tracks.ite (tracks_discard.bind fun _ => tracks_restOfString.bind fun _ => tracks_pure _) ?_
  exact (hlist.ite (tracks_fail _)).ite <| (hobject.ite (tracks_fail _)).ite (tracks_fail _)

theorem FieldDraft.tracks_read {members : Json.Reader (List Field)} (hmembers : Tracks False members)
    {value : Json.Reader Default} (hvalue : Tracks False value) (d : FieldDraft) (k : FieldKey) :
    Tracks False (d.read members value k) := by
  cases k with
  | name | about | entityType => exact tracks_readText.bind fun _ => tracks_pure _
  | type => exact tracks_readFieldType.bind fun _ => tracks_pure _
  | versions | taggedVersions | nullableVersions | flexibleVersions =>
      exact tracks_readRange.bind fun _ => tracks_pure _
  | fields => exact hmembers.bind fun _ => tracks_pure _
  | default => exact hvalue.bind fun _ => tracks_pure _
  | tag => exact tracks_readTag.bind fun _ => tracks_pure _
  | mapKey | ignorable => exact tracks_boolean.bind fun _ => tracks_pure _

theorem FieldDraft.tracks_finish (d : FieldDraft) : Tracks False d.finish := by
  rw [FieldDraft.finish]
  split
  · exact tracks_pure _
  · exact tracks_raise _
  · exact tracks_raise _

theorem tracks_readDraft {format : Option (RecordFormat FieldKey FieldDraft)}
    (h : ∀ f, format = some f → ∃ members room, f = fieldFormat members room ∧ Tracks False members) :
    Tracks False (readDraft format) := by
  refine (tracks_record "Field" ?_).bind fun d => d.tracks_finish
  intro f hf k draft
  obtain ⟨members, room, rfl, hmembers⟩ := h f hf
  exact draft.tracks_read hmembers (Default.tracks_reader room) k

theorem tracks_readFields (depth : Nat) : Tracks False (readFields depth) :=
  readFields_induction (fun _ => tracks_listOf) (fun _ => tracks_readDraft) depth

theorem StructureDraft.tracks_read (d : StructureDraft) {members : Json.Reader (List Field)}
    (hmembers : Tracks False members) (k : StructureKey) : Tracks False (d.read members k) := by
  cases k with
  | name => exact tracks_readText.bind fun _ => tracks_pure _
  | versions => exact tracks_readRange.bind fun _ => tracks_pure _
  | fields => exact hmembers.bind fun _ => tracks_pure _

theorem tracks_readStructure (depth : Nat) : Tracks False (readStructure depth) := by
  refine (tracks_record "CommonStruct" ?_).bind fun d => ?_
  · rintro _ ⟨⟩ k draft
    exact draft.tracks_read (tracks_readFields depth) k
  · rw [StructureDraft.finish]
    split
    · exact tracks_pure _
    · exact tracks_raise _

/-! ## The reader of messages -/

theorem MessageDraft.tracks_read (d : MessageDraft) (depth : Nat) (k : MessageKey) :
    Tracks False (d.read depth k) := by
  cases k with
  | apiKey => exact tracks_readApiKey.bind fun _ => tracks_pure _
  | type => exact (tracks_variant _).bind fun _ => tracks_pure _
  | name => exact tracks_readText.bind fun _ => tracks_pure _
  | validVersions | flexibleVersions => exact tracks_readRange.bind fun _ => tracks_pure _
  | fields => exact (tracks_readFields depth).bind fun _ => tracks_pure _
  | commonStructs =>
      refine (tracks_listOf ?_).bind fun _ => tracks_pure _
      rintro _ ⟨⟩
      exact tracks_readStructure _

theorem setsMembers_messageFormat (depth : Nat) : SetsMembers (messageFormat depth) := by
  intro k d
  cases k <;> refine yields_bind fun a => yields_pure ⟨rfl, fun k' hk' => ?_⟩ <;> cases k' <;>
    simp_all [messageFormat, MessageDraft.isSet]

/-- The two members that a finished message must have are set, so finishing it does not fail. -/
theorem MessageDraft.tracks_finish {d : MessageDraft}
    (h : ∀ k ∈ MessageKey.all, MessageKey.required k = true → d.isSet k = true) : Tracks placed d.finish := by
  have hkind : d.kind.isSome := h .type (by decide) rfl
  have hname : d.name.isSome := h .name (by decide) rfl
  obtain ⟨kind, hkind⟩ := Option.isSome_iff_exists.mp hkind
  obtain ⟨name, hname⟩ := Option.isSome_iff_exists.mp hname
  rw [MessageDraft.finish, hkind, hname]
  exact tracks_pure _

theorem tracks_readMessage : Tracks placed readMessage := by
  refine Tracks.bind_of_yields (tracks_record "MessageData" ?_)
    (yields_record_required "MessageData" (setsMembers_messageFormat _)) fun d hd => d.tracks_finish hd
  rintro _ ⟨⟩ k draft
  exact draft.tracks_read _ k

/-! ## Positions and lines -/

/-- The position is where the bytes end: on their last line, after all of it. -/
def EndsAt (bytes : List UInt8) (p : Position) : Prop :=
  ∃ lines last, linesOf bytes = lines ++ [last] ∧ p.line = lines.length + 1 ∧ p.column = last.length

theorem EndsAt.step {bytes : List UInt8} {p : Position} (h : EndsAt bytes p) (b : UInt8) :
    EndsAt (bytes ++ [b]) (p.step (.byte b)) := by
  obtain ⟨lines, last, hlines, hline, hcolumn⟩ := h
  by_cases hb : b = newline
  · refine ⟨lines ++ [last], [], ?_, ?_, ?_⟩
    · rw [linesOf_append hlines, hb, linesOf_newline, linesOf_nil]
      simp
    · simp [Position.step, hb, newline, hline]
    · simp [Position.step, hb, newline]
  · have hstep : p.step (.byte b) = ⟨p.line, p.column + 1⟩ := if_neg hb
    refine ⟨lines, last ++ [b], ?_, ?_, ?_⟩
    · rw [linesOf_append hlines, linesOf_cons hb, linesOf_nil]
      simp
    · rw [hstep, hline]
    · rw [hstep, hcolumn, List.length_append, List.length_singleton]

theorem endsAt_after (bytes : List UInt8) : EndsAt bytes (Position.after (bytes.map .byte)) := by
  induction bytes using List.reverseRecOn with
  | nil => exact ⟨[], [], linesOf_nil, rfl, rfl⟩
  | append_singleton bytes b ih =>
      have hstep : Position.after ((bytes ++ [b]).map .byte) =
          (Position.after (bytes.map .byte)).step (.byte b) := by
        simp [Position.after]
      rw [hstep]
      exact ih.step b

theorem endsAt_positionAt (bytes : List UInt8) (place : Nat) :
    EndsAt (bytes.take place) ((Document.ofBytes bytes).positionAt place) := by
  rw [Document.positionAt, Document.ofBytes, List.toList_toArray, ← List.map_take]
  exact endsAt_after _

/-- Where the bytes end, each text that goes on has a line that begins with their last line. -/
theorem EndsAt.exists_line {bytes text : List UInt8} {p : Position} (h : EndsAt bytes p)
    (hbegins : bytes <+: text) :
    ∃ line, (linesOf text)[p.line - 1]? = some line ∧ p.column ≤ line.length ∧
      (linesOf bytes).getLast? = some (line.take p.column) := by
  obtain ⟨lines, last, hlines, hline, hcolumn⟩ := h
  obtain ⟨more, rfl⟩ := hbegins
  obtain ⟨next, others, hmore⟩ := linesOf_eq_cons more
  refine ⟨last ++ next, ?_, ?_, ?_⟩
  · rw [linesOf_append hlines, hmore, hline, Nat.add_sub_cancel, List.modifyHead_cons, List.getElem?_append_right (Nat.le_refl _),
      Nat.sub_self, List.getElem?_cons_zero]
  · rw [hcolumn, List.length_append]
    exact Nat.le_add_right _ _
  · rw [hlines, hcolumn, List.take_left, List.getLast?_append]
    rfl

theorem EndsAt.one_le_line {bytes : List UInt8} {p : Position} (h : EndsAt bytes p) : 1 ≤ p.line := by
  obtain ⟨lines, last, _, hline, _⟩ := h
  omega

/-! ## Positions of failures -/

/-- What the reader of messages takes of the text, the byte that it has only looked at included. -/
def seen (text : List UInt8) : List UInt8 :=
  text.take (Reader.whole readMessage (Document.ofBytes text)).2.taken

/-- A text that is no message is refused at a place that the reader has come to. -/
theorem take_prefix_seen {text : List UInt8} {cause : Cause} {place : Option Nat} {c : Cursor}
    (h : Reader.whole readMessage (Document.ofBytes text) = (.error ⟨cause, place⟩, c)) :
    ∃ n, place = some n ∧ text.take n <+: seen text := by
  have hreader : Tracks True readMessage := tracks_readMessage
  have hends := hreader.whole ⟨text, rfl⟩
  rw [h] at hends
  cases hends with
  | failed _ _ hplace =>
      refine ⟨_, rfl, ?_⟩
      rw [seen, h]
      exact List.take_prefix_take_left hplace
  | raised _ _ hnowhere => exact absurd trivial hnowhere

/-- A document that cannot be read is refused at a position of the source. The position is the end of the
text up to the place of the failure; it is on a line of the source and not beyond its end, and as far as the
column the line is what the reader saw as its line of that number. -/
theorem load_position_in_source (origin path : String) {source : Source} {bytes : List UInt8} {cause : Cause}
    {position : Option Position} (h : Delivers source bytes)
    (hload : load origin source = .error (.document path cause position)) :
    ∃ place p line seenLine,
      parseMessage (split bytes).1 = .error ⟨cause, some place⟩ ∧ position = some p ∧
      EndsAt ((split bytes).1.take place) p ∧
      1 ≤ p.line ∧ p.line ≤ 1 + bytes.count newline ∧
      (linesOf bytes)[p.line - 1]? = some line ∧ p.column ≤ line.length ∧
      (linesOf (seen (split bytes).1))[p.line - 1]? = some seenLine ∧ p.column ≤ seenLine.length ∧
      line.take p.column = seenLine.take p.column := by
  obtain ⟨place, c, hrun, rfl⟩ := failure_of_load hload
  rw [documentOf_of_delivers h] at hrun ⊢
  obtain ⟨n, rfl, hbegins⟩ := take_prefix_seen hrun
  have hends := endsAt_positionAt (split bytes).1 n
  obtain ⟨seenLine, hseen, hseenColumn, hseenLast⟩ := hends.exists_line hbegins
  obtain ⟨textLine, htext, htextColumn, htextLast⟩ := hends.exists_line (List.take_prefix n _)
  obtain ⟨line, hline, rest, rfl⟩ := (linesOf_split bytes).exists_line htext
  have hfirst := hends.one_le_line
  have hcount : ((Document.ofBytes (split bytes).1).positionAt n).line - 1 < (linesOf bytes).length :=
    (List.getElem?_eq_some_iff.mp hline).1
  rw [length_linesOf] at hcount
  refine ⟨n, _, _, seenLine, ?_, rfl, hends, hfirst, ?_, hline, ?_, hseen, hseenColumn, ?_⟩
  · rw [parseMessage, hrun]
  · omega
  · rw [List.length_append]
    omega
  · rw [List.take_append_of_le_length htextColumn]
    exact Option.some.inj (htextLast.symm.trans hseenLast)

/-- A list that is not closed; its last line ends in a comment. -/
def unclosedBytes : List UInt8 :=
  Utf8.encode "// top\n[null, \"header\", // kind\n \"H\" // name"

/-- The end of the text is reported before the last comment, on the line that the comment is on. -/
theorem load_position_unclosed :
    load "H.json" [.data unclosedBytes] = .error (.document "H.json" .endInList (some ⟨3, 5⟩)) ∧
      ∃ line seenLine, (linesOf unclosedBytes)[2]? = some line ∧ 5 ≤ line.length ∧
        (linesOf (seen (split unclosedBytes).1))[2]? = some seenLine ∧ 5 ≤ seenLine.length ∧
        line.take 5 = seenLine.take 5 := by
  have hcause : (load "H.json" [.data unclosedBytes]).map (fun _ => ()) =
      .error (.document "H.json" .endInList (some ⟨3, 5⟩)) := by decide +kernel
  cases hload : load "H.json" [.data unclosedBytes] with
  | ok m => rw [hload] at hcause; cases hcause
  | error e =>
      rw [hload] at hcause
      obtain rfl := Except.error.inj hcause
      obtain ⟨_, _, line, seenLine, _, ⟨⟩, _, _, _, hline, hcolumn, hseen, hseenColumn, htake⟩ :=
        load_position_in_source "H.json" "H.json" (.single (by decide)) hload
      exact ⟨rfl, line, seenLine, hline, hcolumn, hseen, hseenColumn, htake⟩

end WireSchema.Schema
