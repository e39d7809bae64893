import WireSchema.Proofs.Comment.Requests

/-!
Reading a source that only delivers. Its bytes come in pieces that are not empty, with interruptions between
them, and the reader cuts the pieces to its chunks, asks again after an interruption and passes over chunks
that are all comment. What it still owes is the same whatever the pieces are: the filtered bytes at hand and
the text of the bytes to come. Each request hands out the next byte that is owed, and a request after the last
one finds the source empty and every comment collected.
-/

namespace WireSchema.Comment

/-- The source delivers the bytes in pieces, none of them empty, and may be interrupted between them. -/
inductive Delivers : Source → List UInt8 → Prop where
  | nil : Delivers [] []
  | data {piece bytes : List UInt8} {source : Source} (hpiece : piece ≠ []) (h : Delivers source bytes) :
      Delivers (.data piece :: source) (piece ++ bytes)
  | interrupted {t : Trouble} {bytes : List UInt8} {source : Source} (ht : t.kind = .interrupted)
      (h : Delivers source bytes) : Delivers (.trouble t :: source) bytes

theorem Delivers.length_le_weight {source : Source} {bytes : List UInt8} (h : Delivers source bytes) :
    bytes.length ≤ source.weight := by
  induction h with
  | nil => exact Nat.le_refl 0
  | data hpiece h ih =>
      rw [List.length_append, Source.weight]
      omega
  | interrupted ht h ih =>
      rw [Source.weight]
      omega

theorem Delivers.single {bytes : List UInt8} (h : bytes ≠ []) : Delivers [.data bytes] bytes := by
  have hone := Delivers.data h .nil
  rwa [List.append_nil] at hone

/-- What one request to the source can meet: the end, or an answer after which it may be asked again. -/
theorem Delivers.read_cases {source : Source} {bytes : List UInt8} (h : Delivers source bytes) {size : Nat}
    (hsize : 0 < size) :
    (source = [] ∧ bytes = []) ∨
    Answer.goesOn (source.read size).1 = true ∧
      ∃ more, bytes = Answer.bytes (source.read size).1 ++ more ∧ Delivers (source.read size).2 more := by
  cases h with
  | nil => exact Or.inl ⟨rfl, rfl⟩
  | @interrupted t _ rest ht h => exact Or.inr ⟨beq_iff_eq.mpr ht, bytes, rfl, h⟩
  | @data piece bytes rest hpiece h =>
      refine Or.inr ?_
      rw [Source.read]
      split
      · exact ⟨by simpa [Answer.goesOn] using hpiece, bytes, rfl, h⟩
      · rename_i hlong
        -- The piece is longer than the request, and its end stays for the next one.
        have hfirst : piece.take size ≠ [] := by
          rw [Ne, List.take_eq_nil_iff]
          exact not_or_intro (Nat.ne_of_gt hsize) hpiece
        have hrest : piece.drop size ≠ [] := by
          rw [Ne, List.drop_eq_nil_iff]
          exact hlong
        refine ⟨by simpa [Answer.goesOn] using hfirst, piece.drop size ++ bytes, ?_, .data hrest h⟩
        rw [Answer.bytes, ← List.append_assoc, List.take_append_drop]

namespace Reader

/-- The reader has the text still to hand out, and its filter ends as `last`. -/
def Owes (r : Reader) (text : List UInt8) (last : Filter) : Prop :=
  0 < r.chunkSize ∧ ∃ bytes, Delivers r.source bytes ∧ r.pending ++ textFrom r.filter.state bytes = text ∧
    r.filter.feed bytes = last

theorem owes_ofSource {source : Source} {bytes : List UInt8} (h : Delivers source bytes) (chunkSize : Nat) :
    (ofSource source chunkSize).Owes (split bytes).1 (Filter.start.feed bytes) :=
  ⟨Nat.le_max_left 1 chunkSize, bytes, h, (split_fst bytes).symm, rfl⟩

/-- Requests to a source that only delivers meet no trouble, and they stop with bytes at hand or at the end of the
source. -/
theorem Fills.of_delivers {r r' : Reader} {requests : List Request} {result : Except Trouble Unit}
    (h : Fills r requests result r') (hchunk : 0 < r.chunkSize) {bytes : List UInt8}
    (hdelivers : Delivers r.source bytes) :
    result = .ok () ∧ (r'.pending = [] → r'.source = []) ∧
      ∃ more, bytes = delivered requests ++ more ∧ Delivers r'.source more := by
  induction h generalizing bytes with
  | ready h => exact ⟨rfl, fun hnone => absurd hnone h, bytes, rfl, hdelivers⟩
  | @last r h hends =>
      rw [ask_fst] at hends
      rcases hdelivers.read_cases hchunk with ⟨hsource, rfl⟩ | ⟨hgoesOn, _⟩
      · have hanswer : r.ask.1 = .ok [] := by rw [ask_fst, hsource]; rfl
        have hrest : r.ask.2.source = [] := by rw [ask_source, hsource]; rfl
        rw [hanswer, hrest]
        exact ⟨rfl, fun _ => rfl, [], rfl, .nil⟩
      · rw [hends] at hgoesOn
        cases hgoesOn
  | @more r r' requests result h hgoesOn hrest ih =>
      rw [ask_fst] at hgoesOn
      rcases hdelivers.read_cases hchunk with ⟨hsource, _⟩ | ⟨_, more, rfl, hmore⟩
      · rw [hsource] at hgoesOn
        cases hgoesOn
      · rw [← ask_source] at hmore
        obtain ⟨hok, hend, last, rfl, hlast⟩ := ih (by rwa [ask_chunkSize]) hmore
        refine ⟨hok, hend, last, ?_, hlast⟩
        rw [← ask_fst, ← List.append_assoc]
        rfl

/-- Requests change nothing of what is owed. -/
theorem Owes.fills {r r' : Reader} {text : List UInt8} {last : Filter} (howes : r.Owes text last)
    {requests : List Request} {result : Except Trouble Unit} (h : Fills r requests result r') :
    result = .ok () ∧ r'.Owes text last ∧ (r'.pending = [] → r'.source = []) := by
  obtain ⟨hchunk, bytes, hdelivers, htext, hlast⟩ := howes
  obtain ⟨hok, hend, more, rfl, hmore⟩ := h.of_delivers hchunk hdelivers
  refine ⟨hok, ⟨by rwa [h.chunkSize_eq], more, hmore, ?_, ?_⟩, hend⟩
  · rw [h.pending_eq, h.filter_eq, List.append_assoc, ← Filter.textFrom_append, htext]
  · rw [h.filter_eq, ← Filter.feed_append, hlast]

/-- A reader without bytes at hand and without a source owes nothing more. -/
theorem Owes.of_exhausted {r : Reader} {text : List UInt8} {last : Filter} (h : r.Owes text last)
    (hpending : r.pending = []) (hsource : r.source = []) : text = [] ∧ r.filter = last := by
  obtain ⟨_, bytes, hdelivers, htext, hlast⟩ := h
  rw [hsource] at hdelivers
  cases hdelivers
  rw [hpending] at htext
  exact ⟨htext.symm, hlast⟩

theorem Owes.read_one {r : Reader} {text : List UInt8} {last : Filter} (h : r.Owes text last) :
    ∃ r' : Reader, r.read 1 = (.ok (r'.pending.take 1), { r' with pending := r'.pending.drop 1 }) ∧ r'.Owes text last ∧
      (r'.pending = [] → r'.source = []) := by
  rcases Reader.read_cases h.1 1 with ⟨hzero, _, _⟩ | ⟨r', hfills, hread⟩ | ⟨t, r', hfills, _⟩
  · cases hzero
  · exact ⟨r', hread, (h.fills hfills).2⟩
  · cases (h.fills hfills).1

/-- A request hands out the next byte that is owed. -/
theorem Owes.read_cons {r : Reader} {b : UInt8} {text : List UInt8} {last : Filter}
    (h : r.Owes (b :: text) last) : ∃ r', r.read 1 = (.ok [b], r') ∧ r'.Owes text last := by
  obtain ⟨r', hread, howes, hempty⟩ := h.read_one
  rw [hread]
  cases hpending : r'.pending with
  | nil => exact absurd (howes.of_exhausted hpending (hempty hpending)).1 (List.cons_ne_nil b text)
  | cons c pending =>
      obtain ⟨hchunk, bytes, hdelivers, htext, hlast⟩ := howes
      rw [hpending, List.cons_append, List.cons.injEq] at htext
      obtain ⟨rfl, htext⟩ := htext
      exact ⟨_, rfl, hchunk, bytes, hdelivers, htext, hlast⟩

/-- A request after the last byte finds nothing, and then every comment is collected. -/
theorem Owes.read_nil {r : Reader} {last : Filter} (h : r.Owes [] last) :
    ∃ r', r.read 1 = (.ok [], r') ∧ r'.Owes [] last ∧ r'.source = [] ∧ r'.filter = last := by
  obtain ⟨r', hread, howes, hempty⟩ := h.read_one
  have hpending : r'.pending = [] := by
    obtain ⟨_, bytes, _, htext, _⟩ := howes
    exact (List.append_eq_nil_iff.mp htext).1
  have hsource := hempty hpending
  have hfilter := (howes.of_exhausted hpending hsource).2
  rw [hread, hpending]
  exact ⟨_, rfl, ⟨howes.1, [], hsource ▸ .nil, rfl, hfilter⟩, hsource, hfilter⟩

theorem Owes.comments_after {r : Reader} {text : List UInt8} {last : Filter} {n : Nat}
    (h : r.Owes text last) (hn : text.length < n) : (r.after n).comments = last.comments := by
  induction n generalizing r text with
  | zero => exact absurd hn (Nat.not_lt_zero _)
  | succ n ih =>
      rw [Reader.after]
      cases text with
      | cons b text =>
          obtain ⟨r', hread, howes⟩ := h.read_cons
          rw [hread]
          exact ih howes (Nat.lt_of_succ_lt_succ hn)
      | nil =>
          obtain ⟨r', hread, howes, _, hfilter⟩ := h.read_nil
          rw [hread]
          cases n with
          | zero => rw [Reader.after, Reader.comments, hfilter]
          | succ n => exact ih howes (Nat.succ_pos n)

end Reader

end WireSchema.Comment
