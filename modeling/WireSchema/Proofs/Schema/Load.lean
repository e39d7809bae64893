import WireSchema.Proofs.Comment.Reader
import WireSchema.Proofs.Json.Reader
import WireSchema.Schema.Load

/-!
Loading from a source that only delivers. The document behind the comment reader is the text that the filter
keeps of the whole input, however the source cuts it, and a document read to its end has been asked for more
than its bytes, so by then the reader has met every comment. Loading is therefore a function of the bytes:
the text is read as a message, and the message gets the comments.
-/

namespace WireSchema.Schema

open WireSchema.Comment WireSchema.Json WireSchema.Text

/-! ## The document behind the reader -/

theorem pullsFrom_of_owes {text : List UInt8} {last : Filter} :
    ∀ {fuel : Nat} {r : Comment.Reader} (doc : Document), r.Owes text last → text.length < fuel →
      pullsFrom fuel r doc = doc ++ Document.ofBytes text := by
  induction text with
  | nil =>
      intro fuel r doc h hfuel
      obtain ⟨fuel, rfl⟩ := Nat.exists_eq_add_of_lt hfuel
      obtain ⟨r', hread, _, hsource, _⟩ := h.read_nil
      simp [pullsFrom, hread, hsource, Document.ofBytes]
  | cons b text ih =>
      intro fuel r doc h hfuel
      cases fuel with
      | zero => exact absurd hfuel (Nat.not_lt_zero _)
      | succ fuel =>
          obtain ⟨r', hread, howes⟩ := h.read_cons
          rw [pullsFrom, hread]
          simp only
          rw [ih (doc.push (.byte b)) howes (Nat.lt_of_succ_lt_succ hfuel)]
          simp [Document.ofBytes]

theorem documentOf_of_delivers {source : Source} {bytes : List UInt8} (h : Delivers source bytes) :
    documentOf (readerOf source) = Document.ofBytes (split bytes).1 := by
  have hfuel : (split bytes).1.length < source.weight + 1 :=
    Nat.lt_succ_of_le (Nat.le_trans (length_split_fst_le bytes) h.length_le_weight)
  have hpulls := pullsFrom_of_owes #[] (Comment.Reader.owes_ofSource h Comment.Reader.defaultChunkSize) hfuel
  rwa [Array.empty_append] at hpulls

theorem delivers_ofBytes (bytes : List UInt8) :
    Delivers (if bytes.isEmpty then [] else [.data bytes]) bytes := by
  cases bytes with
  | nil => exact .nil
  | cons b bytes => exact .single (List.cons_ne_nil b bytes)

/-- A text that is read to its end has been asked for more than its bytes. -/
theorem length_lt_of_whole_ok {α : Type} {r : Json.Reader α} {text : List UInt8} {a : α} {c : Cursor}
    (h : Reader.whole r (Document.ofBytes text) = (.ok a, c)) : text.length < c.taken := by
  have hsize := Reader.size_lt_of_whole_ok ⟨text, rfl⟩ h
  rwa [Document.ofBytes, List.size_toArray, List.length_map] at hsize

theorem comments_of_delivers {source : Source} {bytes : List UInt8} (h : Delivers source bytes) {n : Nat}
    (hn : (split bytes).1.length < n) : ((readerOf source).after n).comments = (split bytes).2 :=
  (Comment.Reader.owes_ofSource h Comment.Reader.defaultChunkSize).comments_after hn

/-! ## What is loaded -/

/-- A request or response has an API key. -/
def Message.HasKey (m : Message) : Prop :=
  m.kind = .header ∨ m.apiKey.isSome

theorem Message.hasKey_iff (m : Message) : m.HasKey ↔ (m.isApi && m.apiKey.isNone) = false := by
  rw [Message.HasKey, Message.isApi]
  cases m.kind <;> cases m.apiKey <;> simp

theorem load_of_failure {origin : String} {source : Source} {e : Failure} {c : Cursor}
    (h : Reader.whole readMessage (documentOf (readerOf source)) = (.error e, c)) :
    load origin source =
      .error (.document origin e.cause (e.place.map (documentOf (readerOf source)).positionAt)) := by
  rw [load, h, conclude]

theorem load_of_read {origin : String} {source : Source} {read : Message} {c : Cursor}
    (h : Reader.whole readMessage (documentOf (readerOf source)) = (.ok read, c)) :
    load origin source =
      if read.isApi && read.apiKey.isNone then .error (.missingApiKey read.name)
      else .ok (Message.normalize
        { read with comments := Utf8.decodeLossy ((readerOf source).after c.taken).comments }) := by
  rw [load, h, conclude]

theorem load_eq_ok {origin : String} {source : Source} {m : Message} :
    load origin source = .ok m ↔
      ∃ read c, Reader.whole readMessage (documentOf (readerOf source)) = (.ok read, c) ∧ read.HasKey ∧
        m = Message.normalize
          { read with comments := Utf8.decodeLossy ((readerOf source).after c.taken).comments } := by
  constructor
  · intro hload
    cases hrun : Reader.whole readMessage (documentOf (readerOf source)) with
    | mk result c =>
        cases result with
        | error e => rw [load_of_failure hrun] at hload; cases hload
        | ok read =>
            rw [load_of_read hrun] at hload
            split at hload
            · cases hload
            · rename_i hkey
              cases hload
              exact ⟨read, c, rfl, read.hasKey_iff.mpr (Bool.eq_false_iff.mpr hkey), rfl⟩
  · rintro ⟨read, c, hrun, hkey, rfl⟩
    rw [load_of_read hrun, if_neg (Bool.eq_false_iff.mp (read.hasKey_iff.mp hkey))]

/-- The failure of a document is that of its reading, with the place turned into a position. -/
theorem failure_of_load {origin path : String} {source : Source} {cause : Cause}
    {position : Option Position} (h : load origin source = .error (.document path cause position)) :
    ∃ place c, Reader.whole readMessage (documentOf (readerOf source)) = (.error ⟨cause, place⟩, c) ∧
      position = place.map (documentOf (readerOf source)).positionAt := by
  cases hrun : Reader.whole readMessage (documentOf (readerOf source)) with
  | mk result c =>
      cases result with
      | error e =>
          rw [load_of_failure hrun] at h
          cases h
          exact ⟨e.place, c, rfl, rfl⟩
      | ok read =>
          rw [load_of_read hrun] at h
          split at h
          · cases h
          · cases h

/-! ## Loading as a function of the bytes -/

theorem load_congr {origin : String} {source source' : Source} {bytes : List UInt8}
    (h : Delivers source bytes) (h' : Delivers source' bytes) : load origin source = load origin source' := by
  have hdoc := documentOf_of_delivers h
  have hdoc' := documentOf_of_delivers h'
  cases hrun : Reader.whole readMessage (Document.ofBytes (split bytes).1) with
  | mk result c =>
      cases result with
      | error e =>
          rw [load_of_failure (hdoc.symm ▸ hrun), load_of_failure (hdoc'.symm ▸ hrun), hdoc, hdoc']
      | ok read =>
          have htaken := length_lt_of_whole_ok hrun
          rw [load_of_read (hdoc.symm ▸ hrun), load_of_read (hdoc'.symm ▸ hrun),
            comments_of_delivers h htaken, comments_of_delivers h' htaken]

theorem load_eq_ok_of_delivers {origin : String} {source : Source} {bytes : List UInt8}
    (h : Delivers source bytes) {m : Message} :
    load origin source = .ok m ↔
      ∃ read, parseMessage (split bytes).1 = .ok read ∧ read.HasKey ∧
        m = Message.normalize { read with comments := Utf8.decodeLossy (split bytes).2 } := by
  rw [load_eq_ok, documentOf_of_delivers h]
  constructor
  · rintro ⟨read, c, hrun, hkey, rfl⟩
    refine ⟨read, ?_, hkey, ?_⟩
    · rw [parseMessage, hrun]
    · rw [comments_of_delivers h (length_lt_of_whole_ok hrun)]
  · rintro ⟨read, hparse, hkey, rfl⟩
    have hrun : Reader.whole readMessage (Document.ofBytes (split bytes).1) = (.ok read, _) :=
      Prod.ext hparse rfl
    refine ⟨read, _, hrun, hkey, ?_⟩
    rw [comments_of_delivers h (length_lt_of_whole_ok hrun)]

/-- However a source cuts its bytes and is interrupted, loading gives what it gives for the bytes in one piece.
It succeeds just where the text without comments reads as a message with the API key that it needs, and the
message then has every comment of the input, also those after the last bracket. -/
theorem load_eq_loadBytes (origin : String) {source : Source} {bytes : List UInt8}
    (h : Delivers source bytes) :
    load origin source = loadBytes origin bytes ∧
      ∀ m, load origin source = .ok m ↔
        ∃ read, parseMessage (split bytes).1 = .ok read ∧ (read.kind = .header ∨ read.apiKey.isSome) ∧
          m = Message.normalize { read with comments := Utf8.decodeLossy (split bytes).2 } :=
  ⟨load_congr h (delivers_ofBytes bytes), fun _ => load_eq_ok_of_delivers h⟩

/-- A header cut between two slashes and inside a string, with interruptions and a comment at the end. -/
def cutSource : Source := [
  .data (Utf8.encode "/"),
  .trouble ⟨.interrupted, "again"⟩,
  .data (Utf8.encode "/ top\n[null,\"hea"),
  .data (Utf8.encode "der\",\"H\"]//"),
  .trouble ⟨.interrupted, "again"⟩,
  .data (Utf8.encode " end")]

def cutBytes : List UInt8 :=
  Utf8.encode "// top\n[null,\"header\",\"H\"]// end"

theorem load_eq_loadBytes_cutSource :
    Delivers cutSource cutBytes ∧ load "H.json" cutSource = loadBytes "H.json" cutBytes ∧
      ∃ read, parseMessage (Utf8.encode "\n[null,\"header\",\"H\"]") = .ok read ∧
        load "H.json" cutSource = .ok (Message.normalize { read with comments := "// top\n// end" }) := by
  have hdelivers : Delivers cutSource cutBytes :=
    .data (by decide) (.interrupted rfl (.data (by decide) (.data (by decide) (.interrupted rfl
      (.data (by decide) .nil)))))
  have hsplit : split cutBytes =
      (Utf8.encode "\n[null,\"header\",\"H\"]", Utf8.encode "// top\n// end") := by decide +kernel
  have hcomments : Utf8.decodeLossy (Utf8.encode "// top\n// end") = "// top\n// end" := by decide +kernel
  have hkind : ((parseMessage (Utf8.encode "\n[null,\"header\",\"H\"]")).toOption.map (·.kind)) =
      some .header := by decide +kernel
  obtain ⟨hpieces, hok⟩ := load_eq_loadBytes "H.json" hdelivers
  rw [hsplit, hcomments] at hok
  refine ⟨hdelivers, hpieces, ?_⟩
  cases hread : parseMessage (Utf8.encode "\n[null,\"header\",\"H\"]") with
  | error e => rw [hread] at hkind; cases hkind
  | ok read =>
      rw [hread] at hkind
      exact ⟨read, rfl, (hok _).mpr ⟨read, hread, Or.inl (Option.some.inj hkind), rfl⟩⟩

end WireSchema.Schema
