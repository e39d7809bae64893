import WireSchema.Proofs.Comment.Requests

/-!
Reading a source that may do anything. A session is a run of calls in which it is counted what the source has given
and what was handed out: nothing is lost and nothing comes twice.
-/

namespace WireSchema.Comment

/-- A reader in use, with what its source has given and what it has handed out. -/
structure Session where
  reader : Reader
  consumed : List UInt8 := []
  handed : List UInt8 := []

namespace Session

def start (source : Source) (chunkSize : Nat) : Session :=
  { reader := Reader.ofSource source chunkSize }

def call (s : Session) (size : Nat) : Session where
  reader := (s.reader.read size).2
  consumed := s.consumed ++ Reader.delivered (s.reader.requests size)
  handed := s.handed ++ Answer.bytes (s.reader.read size).1

/-- One call for each of the sizes. -/
def run (s : Session) (sizes : List Nat) : Session :=
  sizes.foldl call s

/-- What was handed out and what is at hand are the text of what the source has given, which is what it had at
first without what it still has. -/
structure Exact (source : Source) (s : Session) : Prop where
  chunkSize_pos : 0 < s.reader.chunkSize
  source_bytes : s.consumed ++ s.reader.source.bytes = source.bytes
  filter_eq : s.reader.filter = Filter.start.feed s.consumed
  text_eq : s.handed ++ s.reader.pending = (split s.consumed).1

theorem exact_start (source : Source) (chunkSize : Nat) : (start source chunkSize).Exact source where
  chunkSize_pos := Nat.le_max_left 1 chunkSize
  source_bytes := rfl
  filter_eq := rfl
  text_eq := rfl

namespace Exact

variable {source : Source} {r r' : Reader} {consumed handed : List UInt8}

theorem fills {requests : List Reader.Request} {result : Except Trouble Unit}
    (h : Exact source ⟨r, consumed, handed⟩) (hfills : Reader.Fills r requests result r') :
    Exact source ⟨r', consumed ++ Reader.delivered requests, handed⟩ := by
  obtain ⟨hchunk, hsource, hfilter, htext⟩ := h
  constructor
  · show 0 < r'.chunkSize
    rw [hfills.chunkSize_eq]
    exact hchunk
  · rw [List.append_assoc, hfills.source_bytes]
    exact hsource
  · show r'.filter = _
    rw [hfills.filter_eq, Filter.feed_append, ← hfilter]
  · show handed ++ r'.pending = _
    have hwhole := Filter.textFrom_append Filter.start consumed (Reader.delivered requests)
    calc handed ++ r'.pending
        = (handed ++ r.pending) ++ textFrom r.filter.state (Reader.delivered requests) := by
          rw [hfills.pending_eq, List.append_assoc]
      _ = textFrom .text consumed ++ textFrom (Filter.start.feed consumed).state (Reader.delivered requests) := by
          rw [← hfilter, ← split_fst, htext]
      _ = (split (consumed ++ Reader.delivered requests)).1 := by
          rw [split_fst]
          exact hwhole.symm

theorem hand (h : Exact source ⟨r, consumed, handed⟩) (size : Nat) :
    Exact source ⟨{ r with pending := r.pending.drop size }, consumed, handed ++ r.pending.take size⟩ := by
  obtain ⟨hchunk, hsource, hfilter, htext⟩ := h
  refine ⟨hchunk, hsource, hfilter, ?_⟩
  show (handed ++ r.pending.take size) ++ r.pending.drop size = _
  rw [List.append_assoc, List.take_append_drop]
  exact htext

theorem call {s : Session} (h : s.Exact source) (size : Nat) : (s.call size).Exact source := by
  obtain ⟨r, consumed, handed⟩ := s
  rw [Session.call]
  rcases Reader.read_cases h.chunkSize_pos size with
    ⟨_, hread, hrequests⟩ | ⟨r', hfills, hread⟩ | ⟨t, r', hfills, hread⟩
  · simpa [hread, hrequests, Reader.delivered, Answer.bytes] using h
  · rw [hread]
    exact (h.fills hfills).hand size
  · rw [hread]
    simpa [Answer.bytes] using h.fills hfills

theorem run {s : Session} (h : s.Exact source) (sizes : List Nat) : (s.run sizes).Exact source := by
  induction sizes generalizing s with
  | nil => exact h
  | cons size sizes ih => exact ih (h.call size)

end Exact

/-- After any calls, what was handed out and what is at hand are the text of what the source has given, and the
comments are those of it. The next call takes the answers to its requests from the source in turn. It hands out no
more than it is asked for, and nothing only if the source has just answered with nothing. If it fails, it is not
with an interruption, and but for the source the reader is the one that made the request that failed. -/
theorem run_lossless (source : Source) (chunkSize : Nat) (sizes : List Nat) :
    let s := (start source chunkSize).run sizes
    s.consumed ++ s.reader.source.bytes = source.bytes ∧
    s.handed ++ s.reader.pending = (split s.consumed).1 ∧
    s.reader.comments = (split s.consumed).2 ∧
    ∀ size,
      s.reader.source.answers s.reader.chunkSize (s.reader.requests size).length =
        ((s.reader.requests size).map Reader.Request.answer, (s.reader.read size).2.source) ∧
      match s.reader.read size with
      | (.ok bytes, _) =>
        bytes.length ≤ size ∧
          (0 < size → bytes = [] → .ok [] ∈ (s.reader.requests size).map Reader.Request.answer)
      | (.error t, after) =>
        t.kind ≠ .interrupted ∧
          ∃ earlier before, s.reader.requests size = earlier ++ [⟨before, .error t⟩] ∧
            before.filter = s.reader.filter.feed (Reader.delivered earlier) ∧
            after = { before with source := after.source } := by
  intro s
  have hexact : s.Exact source := (exact_start source chunkSize).run sizes
  refine ⟨hexact.source_bytes, hexact.text_eq, ?_, fun size => ?_⟩
  · rw [Reader.comments, hexact.filter_eq]
    rfl
  · rcases Reader.read_cases hexact.chunkSize_pos size with
      ⟨hsize, hread, hrequests⟩ | ⟨r', hfills, hread⟩ | ⟨t, r', hfills, hread⟩
    · rw [hread, hrequests]
      exact ⟨rfl, Nat.zero_le size, fun hpos => absurd hsize (Nat.ne_of_gt hpos)⟩
    · rw [hread]
      refine ⟨hfills.answers_eq, List.length_take_le size r'.pending, fun hpos hnone => ?_⟩
      have hpending := (List.take_eq_nil_iff.mp hnone).resolve_left (Nat.ne_of_gt hpos)
      exact hfills.empty_answer rfl hpending
    · rw [hread]
      exact ⟨hfills.answers_eq, hfills.last_trouble rfl⟩

end Session

end WireSchema.Comment
