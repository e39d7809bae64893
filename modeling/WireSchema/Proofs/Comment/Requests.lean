import WireSchema.Comment.Reader
import WireSchema.Proofs.Comment.Filter

/-!
The requests of a reader. A call asks the source again and again until there are filtered bytes, the source gives
nothing or there is trouble that is not an interruption. `Fills` says this request by request, and everything that
holds of a call follows from what one request does.
-/

namespace WireSchema.Comment

/-! ## Single requests -/

/-- What a source answers to a request. -/
abbrev Answer := Except Trouble (List UInt8)

namespace Answer

def bytes : Answer → List UInt8
  | .ok bytes => bytes
  | .error _ => []

/-- After some bytes and after an interruption the source may be asked again. -/
def goesOn : Answer → Bool
  | .ok bytes => !bytes.isEmpty
  | .error t => t.kind == .interrupted

end Answer

namespace Source

/-- All that a source has to give. -/
def bytes : Source → List UInt8
  | [] => []
  | .data piece :: rest => piece ++ bytes rest
  | .trouble _ :: rest => bytes rest

/-- The answers of a source to so many requests, and what is left of it. -/
def answers (size : Nat) : Nat → Source → List Answer × Source
  | 0, source => ([], source)
  | n + 1, source =>
    let others := answers size n (source.read size).2
    ((source.read size).1 :: others.1, others.2)

theorem read_bytes (size : Nat) (source : Source) :
    Answer.bytes (source.read size).1 ++ (source.read size).2.bytes = source.bytes := by
  cases source with
  | nil => rfl
  | cons delivery rest =>
      cases delivery with
      | trouble t => rfl
      | data piece =>
          rw [read]
          split
          · rfl
          · rw [Answer.bytes, bytes, bytes, ← List.append_assoc, List.take_append_drop]

/-- An answer after which the source is asked again makes it lighter. -/
theorem read_weight {size : Nat} (hsize : 0 < size) {source : Source}
    (h : Answer.goesOn (source.read size).1 = true) : (source.read size).2.weight < source.weight := by
  cases source with
  | nil => cases h
  | cons delivery rest =>
      cases delivery with
      | trouble t =>
          show weight rest < 1 + weight rest
          omega
      | data piece =>
          rw [read]
          split
          · show weight rest < 1 + piece.length + weight rest
            omega
          · show 1 + (piece.drop size).length + weight rest < 1 + piece.length + weight rest
            rw [List.length_drop]
            omega

end Source

namespace Reader

/-- Asks the source once and filters what it gives. -/
def ask (r : Reader) : Answer × Reader :=
  match r.source.read r.chunkSize with
  | (.ok bytes, source) =>
    let filter := r.filter.feed bytes
    (.ok bytes, { r with source, filter, pending := filter.textSince r.filter })
  | (.error t, source) => (.error t, { r with source })

theorem ask_fst (r : Reader) : r.ask.1 = (r.source.read r.chunkSize).1 := by
  rw [ask]
  split <;> simp_all

theorem ask_source (r : Reader) : r.ask.2.source = (r.source.read r.chunkSize).2 := by
  rw [ask]
  split <;> simp_all

theorem ask_chunkSize (r : Reader) : r.ask.2.chunkSize = r.chunkSize := by
  rw [ask]
  split <;> rfl

theorem ask_filter (r : Reader) : r.ask.2.filter = r.filter.feed r.ask.1.bytes := by
  rw [ask]
  split <;> rfl

theorem ask_pending {r : Reader} (h : r.pending = []) :
    r.ask.2.pending = textFrom r.filter.state r.ask.1.bytes := by
  rw [ask]
  split
  · exact Filter.textSince_feed _ _
  · show r.pending = textFrom r.filter.state []
    rw [h, textFrom]

theorem ask_error {r : Reader} {t : Trouble} (h : r.ask.1 = .error t) :
    r.ask.2 = { r with source := r.ask.2.source } := by
  rw [ask] at h ⊢
  split at h
  · cases h
  · rfl

theorem fill_of_pending {fuel : Nat} {r : Reader} (h : r.pending ≠ []) : fill fuel r = (.ok (), r) := by
  cases fuel with
  | zero => rfl
  | succ fuel => rw [fill, if_pos h]

theorem fill_succ {fuel : Nat} {r : Reader} (h : r.pending = []) :
    fill (fuel + 1) r =
      if r.ask.1.goesOn then fill fuel r.ask.2 else (r.ask.1.map fun _ => (), r.ask.2) := by
  rw [fill, if_neg (not_not_intro h), ask]
  rcases r.source.read r.chunkSize with ⟨t | bytes, source⟩
  · by_cases ht : t.kind = .interrupted <;> simp [Answer.goesOn, Except.map, ht]
  · cases bytes with
    | nil => simp [Answer.goesOn, Except.map, Filter.feed, Filter.textSince, h]
    | cons b bytes => rfl

/-! ## Calls -/

/-- A request to the source: the reader that makes it and the answer that it gets. -/
structure Request where
  reader : Reader
  answer : Answer

/-- What the source gives in the course of some requests. -/
def delivered (requests : List Request) : List UInt8 :=
  requests.flatMap (·.answer.bytes)

/-- The requests that are made to have filtered bytes at hand. -/
def fillRequests : Nat → Reader → List Request
  | 0, _ => []
  | fuel + 1, r =>
    if r.pending ≠ [] then []
    else ⟨r, r.ask.1⟩ :: if r.ask.1.goesOn then fillRequests fuel r.ask.2 else []

/-- The requests that a call makes. -/
def requests (r : Reader) (size : Nat) : List Request :=
  if size = 0 then [] else fillRequests (r.source.weight + 1) r

/-- The reader makes these requests, with this result, and is left so. -/
inductive Fills : Reader → List Request → Except Trouble Unit → Reader → Prop where
  | ready {r : Reader} (h : r.pending ≠ []) : Fills r [] (.ok ()) r
  | last {r : Reader} (h : r.pending = []) (hends : r.ask.1.goesOn = false) :
      Fills r [⟨r, r.ask.1⟩] (r.ask.1.map fun _ => ()) r.ask.2
  | more {r r' : Reader} {requests : List Request} {result : Except Trouble Unit} (h : r.pending = [])
      (hgoesOn : r.ask.1.goesOn = true) (hrest : Fills r.ask.2 requests result r') :
      Fills r (⟨r, r.ask.1⟩ :: requests) result r'

/-- With fuel for all that the source can answer, filling comes to an end of its own. -/
theorem fills_fill {fuel : Nat} :
    ∀ {r : Reader}, 0 < r.chunkSize → r.source.weight < fuel →
      Fills r (fillRequests fuel r) (fill fuel r).1 (fill fuel r).2 := by
  induction fuel with
  | zero => intro r _ hfuel; exact absurd hfuel (Nat.not_lt_zero _)
  | succ fuel ih =>
      intro r hchunk hfuel
      by_cases hpending : r.pending = []
      · rw [fillRequests, if_neg (not_not_intro hpending), fill_succ hpending]
        cases hgoesOn : r.ask.1.goesOn with
        | false => exact .last hpending hgoesOn
        | true =>
            have hweight : r.ask.2.source.weight < r.source.weight := by
              rw [ask_fst] at hgoesOn
              rw [ask_source]
              exact Source.read_weight hchunk hgoesOn
            refine .more hpending hgoesOn (ih ?_ (by omega))
            rw [ask_chunkSize]
            exact hchunk
      · rw [fillRequests, if_pos hpending, fill_of_pending hpending]
        exact .ready hpending

theorem prepare_eq_fill (r : Reader) : r.prepare = fill (r.source.weight + 1) r := by
  rw [prepare]
  split
  · rename_i hpending
    exact (fill_of_pending hpending).symm
  · rfl

namespace Fills

variable {r r' : Reader} {requests : List Request} {result : Except Trouble Unit}

theorem chunkSize_eq (h : Fills r requests result r') : r'.chunkSize = r.chunkSize := by
  induction h with
  | ready h => rfl
  | @last r h hends => exact ask_chunkSize r
  | @more r _ _ _ h hgoesOn hrest ih => rw [ih, ask_chunkSize]

/-- The answers are those that the source gives to so many requests. -/
theorem answers_eq (h : Fills r requests result r') :
    r.source.answers r.chunkSize requests.length = (requests.map Request.answer, r'.source) := by
  induction h with
  | ready h => rfl
  | @last r h hends =>
      show ([(r.source.read r.chunkSize).1], (r.source.read r.chunkSize).2) = ([r.ask.1], r.ask.2.source)
      rw [ask_fst, ask_source]
  | @more r _ requests _ h hgoesOn hrest ih =>
      rw [ask_source, ask_chunkSize] at ih
      rw [List.length_cons, Source.answers, ih, ← ask_fst, List.map_cons]

theorem source_bytes (h : Fills r requests result r') : delivered requests ++ r'.source.bytes = r.source.bytes := by
  have hask (r : Reader) : r.ask.1.bytes ++ r.ask.2.source.bytes = r.source.bytes := by
    rw [ask_fst, ask_source]
    exact Source.read_bytes _ _
  induction h with
  | ready h => rfl
  | @last r h hends => simpa [delivered] using hask r
  | @more r _ _ _ h hgoesOn hrest ih =>
      rw [← hask r, ← ih, ← List.append_assoc]
      rfl

theorem filter_eq (h : Fills r requests result r') : r'.filter = r.filter.feed (delivered requests) := by
  induction h with
  | ready h => rfl
  | @last r h hends => simpa [delivered] using ask_filter r
  | @more r _ requests _ h hgoesOn hrest ih =>
      show _ = r.filter.feed (r.ask.1.bytes ++ delivered requests)
      rw [Filter.feed_append, ← ask_filter, ih]

/-- The source is asked only when no bytes are at hand, so those of its answers come behind them. -/
theorem pending_eq (h : Fills r requests result r') :
    r'.pending = r.pending ++ textFrom r.filter.state (delivered requests) := by
  induction h with
  | ready h => simp [delivered, textFrom]
  | @last r h hends => simpa [delivered, h] using ask_pending h
  | @more r _ requests _ h hgoesOn hrest ih =>
      show _ = r.pending ++ textFrom r.filter.state (r.ask.1.bytes ++ delivered requests)
      rw [Filter.textFrom_append, ← ask_filter, ← ask_pending h, ih, h, List.nil_append]

/-- A call that is left without bytes has been told that there are none. -/
theorem empty_answer (h : Fills r requests result r') (hok : result = .ok ()) (hpending : r'.pending = []) :
    .ok [] ∈ requests.map Request.answer := by
  induction h with
  | ready h => exact absurd hpending h
  | @last r h hends =>
      cases hanswer : r.ask.1 with
      | error t => rw [hanswer] at hok; cases hok
      | ok bytes =>
          rw [hanswer] at hends
          have hempty : bytes = [] := by simpa [Answer.goesOn] using hends
          simp [hempty]
  | more h hgoesOn hrest ih => exact List.mem_cons_of_mem _ (ih hok hpending)

/-- Trouble comes from the last request, is no interruption and changes nothing but the source: the filter is left
with what the requests before gave. -/
theorem last_trouble {t : Trouble} (h : Fills r requests result r') (herror : result = .error t) :
    t.kind ≠ .interrupted ∧ ∃ earlier before, requests = earlier ++ [⟨before, .error t⟩] ∧
      before.filter = r.filter.feed (delivered earlier) ∧ r' = { before with source := r'.source } := by
  induction h with
  | ready h => cases herror
  | @last r h hends =>
      cases hanswer : r.ask.1 with
      | ok bytes => rw [hanswer] at herror; cases herror
      | error t' =>
          rw [hanswer] at herror hends
          cases herror
          exact ⟨by simpa [Answer.goesOn] using hends, [], r, rfl, rfl, ask_error hanswer⟩
  | @more r _ _ _ h hgoesOn hrest ih =>
      obtain ⟨hkind, earlier, before, rfl, hfilter, hstate⟩ := ih herror
      refine ⟨hkind, ⟨r, r.ask.1⟩ :: earlier, before, rfl, ?_, hstate⟩
      show _ = r.filter.feed (r.ask.1.bytes ++ delivered earlier)
      rw [Filter.feed_append, ← ask_filter, hfilter]

end Fills

/-- What a call can do: one for no bytes does nothing, one that succeeds hands out the first of the bytes at hand,
and one that fails hands out nothing. -/
theorem read_cases {r : Reader} (hchunk : 0 < r.chunkSize) (size : Nat) :
    (size = 0 ∧ r.read size = (.ok [], r) ∧ r.requests size = []) ∨
    (∃ r', Fills r (r.requests size) (.ok ()) r' ∧
      r.read size = (.ok (r'.pending.take size), { r' with pending := r'.pending.drop size })) ∨
    ∃ t r', Fills r (r.requests size) (.error t) r' ∧ r.read size = (.error t, r') := by
  by_cases hsize : size = 0
  · exact Or.inl ⟨hsize, if_pos hsize, if_pos hsize⟩
  · have hfills := fills_fill hchunk (Nat.lt_succ_self r.source.weight)
    refine Or.inr ?_
    rw [read, if_neg hsize, requests, if_neg hsize, prepare_eq_fill]
    rcases hfill : fill (r.source.weight + 1) r with ⟨t | _, r'⟩
    · rw [hfill] at hfills
      exact Or.inr ⟨t, r', hfills, rfl⟩
    · rw [hfill] at hfills
      exact Or.inl ⟨r', hfills, rfl⟩

end Reader

end WireSchema.Comment
