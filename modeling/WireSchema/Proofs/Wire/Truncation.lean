import WireSchema.Proofs.Wire.RoundTrip

/-!
Input that stops inside a value. The bytes of a value say themselves where they end: with other bytes behind
them they decode to the same value, and when they are cut short anywhere, inside a length, a string, an item
of an array or a member, decoding runs out of input and finds no other fault. A length is checked, and a string
is read as text, only when all its bytes are there.
-/

namespace WireSchema.Wire

open WireSchema.Schema WireSchema.Text

/-! ## Starting too short -/

section Starves

variable {α β : Type}

/-- Every proper start of the bytes that spell a value runs out of input. -/
def Starves (runsOut : List UInt8 → Prop) (spells : List UInt8 → α → Prop) : Prop :=
  ∀ bytes x, spells bytes x → ∀ j, j < bytes.length → runsOut (bytes.take j)

variable {runsOut runsOut' : List UInt8 → Prop} {P : List UInt8 → α → Prop} {Q : List UInt8 → β → Prop}

theorem Starves.of_imp (h : Starves runsOut P) (hout : ∀ input, runsOut input → runsOut' input)
    (hspells : ∀ bytes y, Q bytes y → ∃ x, P bytes x) : Starves runsOut' Q := by
  intro bytes y hQ j hj
  obtain ⟨x, hP⟩ := hspells bytes y hQ
  exact hout _ (h bytes x hP j hj)

/-- What is spelled by no bytes has no proper start. -/
theorem Starves.of_nil (h : ∀ bytes x, P bytes x → bytes = []) : Starves runsOut P := by
  intro bytes x hP j hj
  rw [h bytes x hP] at hj
  exact absurd hj (Nat.not_lt_zero j)

/-- The cut falls into the first value, which then runs out, or behind it, and then the first value is read
and what follows runs out. -/
theorem Starves.andThen {reading : List UInt8 → α → List UInt8 → Prop} {next : α → List UInt8 → Prop}
    {R : α → List UInt8 → β → Prop} (htakes : Takes reading P) (hfirst : Starves runsOut P)
    (hnext : ∀ a, Starves (next a) (R a)) (hout : ∀ input, runsOut input → runsOut' input)
    (hthen : ∀ input a left, reading input a left → next a left → runsOut' input) :
    Starves runsOut' fun bytes b => ∃ front back a, bytes = front ++ back ∧ P front a ∧ R a back b := by
  rintro _ b ⟨front, back, a, rfl, hP, hR⟩ j hj
  by_cases hinside : j < front.length
  · rw [List.take_append_of_le_length (Nat.le_of_lt hinside)]
    exact hout _ (hfirst front a hP j hinside)
  · have hback : j - front.length < back.length := by
      rw [List.length_append] at hj
      omega
    rw [List.take_append, List.take_of_length_le (Nat.le_of_not_lt hinside)]
    exact hthen _ a _ ((htakes _ _ _).mpr ⟨front, rfl, hP⟩) (hnext a back b hR _ hback)

end Starves

/-! ## Decoders -/

namespace Decoder

variable {α β : Type}

/-- The decoder asks for more bytes than there are. -/
def RunsOut (d : Decoder α) (input : List UInt8) : Prop :=
  ∃ needed remaining rest, d input = (.error (.endOfInput needed remaining), rest)

theorem RunsOut.bind {d : Decoder α} {input : List UInt8} (h : d.RunsOut input) (f : α → Decoder β) :
    (d >>= f).RunsOut input := by
  obtain ⟨needed, remaining, rest, hd⟩ := h
  refine ⟨needed, remaining, rest, ?_⟩
  change Decoder.bind d f input = _
  rw [bind_run, hd]

theorem RunsOut.after {d : Decoder α} {f : α → Decoder β} {input left : List UInt8} {a : α}
    (hd : d input = (.ok a, left)) (h : (f a).RunsOut left) : (d >>= f).RunsOut input := by
  obtain ⟨needed, remaining, rest, hf⟩ := h
  refine ⟨needed, remaining, rest, ?_⟩
  change Decoder.bind d f input = _
  rw [bind_run, hd]
  exact hf

theorem starves_bind {d : Decoder α} {f : α → Decoder β} {P : List UInt8 → α → Prop}
    {R : α → List UInt8 → β → Prop} (haccepts : d.Accepts P) (hd : Starves d.RunsOut P)
    (hf : ∀ a, Starves (f a).RunsOut (R a)) :
    Starves (d >>= f).RunsOut fun bytes b =>
      ∃ front back a, bytes = front ++ back ∧ P front a ∧ R a back b :=
  Starves.andThen haccepts hd hf (fun _ h => h.bind f) fun _ _ _ hread h => h.after hread

theorem split?_eq_none {n : Nat} {bytes : List UInt8} (h : bytes.length < n) : split? n bytes = none := by
  cases hsplit : split? n bytes with
  | none => rfl
  | some parts =>
      obtain ⟨happend, hlen⟩ := split?_eq_some.mp hsplit
      rw [happend, List.length_append] at h
      omega

theorem starves_take (n : Nat) : Starves (take n).RunsOut fun bytes x => bytes.length = n ∧ x = bytes := by
  rintro spelled _ ⟨rfl, _⟩ j hj
  have hshort : (spelled.take j).length < spelled.length := by
    rw [List.length_take]
    omega
  refine ⟨spelled.length, (spelled.take j).length, spelled.take j, ?_⟩
  rw [take, split?_eq_none hshort]

theorem starves_wordAs (width : Nat) (f : Nat → α) :
    Starves (word width >>= fun n => pure (f n)).RunsOut
      fun bytes x => bytes.length = width ∧ x = f (wordValue bytes) :=
  (starves_take width).of_imp (fun _ h => (h.bind _).bind _) fun bytes _ h => ⟨bytes, h.1, rfl⟩

theorem starves_checkLength (kind : LengthKind) (length : Int) :
    Starves (checkLength kind length).RunsOut fun bytes n => bytes = [] ∧ SpellsCount length n :=
  Starves.of_nil fun _ _ h => h.1

/-- A length word is checked only when it is complete. -/
theorem starves_checkedLength {d : Decoder α} {P : List UInt8 → α → Prop} (haccepts : d.Accepts P)
    (hd : Starves d.RunsOut P) (kind : LengthKind) (toInt : α → Int) :
    Starves (d >>= fun k => checkLength kind (toInt k)).RunsOut
      fun bytes n => ∃ k, P bytes k ∧ SpellsCount (toInt k) n := by
  refine (starves_bind haccepts hd fun k => starves_checkLength kind (toInt k)).of_imp (fun _ h => h) ?_
  rintro bytes n ⟨k, hP, hcount⟩
  exact ⟨n, bytes, [], k, (List.append_nil bytes).symm, hP, rfl, hcount⟩

theorem starves_shortLength (kind : LengthKind) :
    Starves (int16 >>= fun k => checkLength kind k.toInt).RunsOut SpellsShort := by
  refine (starves_checkedLength (accepts_wordAs 2 fun n => (UInt16.ofNat n).toInt16)
    (starves_wordAs 2 _) kind Int16.toInt).of_imp (fun _ h => h) ?_
  rintro head n ⟨hlen, hcount⟩
  exact ⟨n, _, ⟨hlen, rfl⟩, hcount⟩

theorem starves_longLength (kind : LengthKind) :
    Starves (int32 >>= fun k => checkLength kind k.toInt).RunsOut SpellsLong := by
  refine (starves_checkedLength (accepts_wordAs 4 fun n => (UInt32.ofNat n).toInt32)
    (starves_wordAs 4 _) kind Int32.toInt).of_imp (fun _ h => h) ?_
  rintro head n ⟨hlen, hcount⟩
  exact ⟨n, _, ⟨hlen, rfl⟩, hcount⟩

theorem starves_bytes :
    Starves bytes.RunsOut fun spelled blob =>
      ∃ head, spelled = head ++ blob ∧ SpellsLong head blob.length := by
  have hbytes : bytes = (int32 >>= fun k => checkLength .bytes k.toInt) >>= take :=
    (bind_assoc _ _ _).symm
  rw [hbytes]
  refine (starves_bind (accepts_longLength .bytes) (starves_longLength .bytes) starves_take).of_imp
    (fun _ h => h) ?_
  rintro spelled blob ⟨head, rfl, hhead⟩
  exact ⟨blob, head, blob, blob.length, rfl, hhead, rfl, rfl⟩

/-- The bytes of a string are read as text only when all of them are there. -/
theorem starves_string :
    Starves string.RunsOut fun bytes s =>
      ∃ head, bytes = head ++ Utf8.encode s ∧ SpellsShort head (Utf8.encode s).length := by
  have hstring : string = (int16 >>= fun k => checkLength .string k.toInt) >>= fun n => take n >>= text :=
    (bind_assoc _ _ _).symm
  have hbody : ∀ n, Starves (take n >>= text).RunsOut fun bytes (_ : String) => bytes.length = n :=
    fun n => (starves_take n).of_imp (fun _ h => h.bind text) fun bytes _ hlen => ⟨bytes, hlen, rfl⟩
  rw [hstring]
  refine (starves_bind (accepts_shortLength .string) (starves_shortLength .string) hbody).of_imp
    (fun _ h => h) ?_
  rintro bytes s ⟨head, rfl, hhead⟩
  exact ⟨s, head, Utf8.encode s, _, rfl, hhead, rfl⟩

end Decoder

theorem decodePrimitive_starves (p : Primitive) :
    Starves (decodePrimitive p).RunsOut (SpellsPrimitive p) := by
  cases p with
  | bool => exact Decoder.starves_wordAs 1 _
  | int8 => exact Decoder.starves_wordAs 1 _
  | int16 => exact Decoder.starves_wordAs 2 _
  | int32 => exact Decoder.starves_wordAs 4 _
  | int64 => exact Decoder.starves_wordAs 8 _
  | string => exact Decoder.starves_string
  | bytes => exact Decoder.starves_bytes

/-! ## Shapes -/

/-- Decoding asks for more bytes than there are. -/
def Decoded.RanOut {α : Type} (d : Decoded α) : Prop :=
  ∃ needed remaining, d.error = some (.endOfInput needed remaining)

theorem decodeItems_starves {α : Type} {decode : List UInt8 → Decoded α} {spells : List UInt8 → α → Prop}
    (hreads : Reads decode spells) (hstarves : Starves (fun input => (decode input).RanOut) spells) (n : Nat) :
    Starves (fun input => (decodeItems decode n input).RanOut)
      fun bytes xs => xs.length = n ∧ SpellsItems spells bytes xs := by
  induction n with
  | zero =>
      refine Starves.of_nil fun bytes xs h => ?_
      rw [List.length_eq_zero_iff.mp h.1] at h
      exact h.2
  | succ n ih =>
      have hboth : Starves (fun input => (decodeItems decode (n + 1) input).RanOut)
          fun bytes (xs : List α) => ∃ front back x, bytes = front ++ back ∧ spells front x ∧
            xs.length = n ∧ SpellsItems spells back xs := by
        refine Starves.andThen hreads hstarves (fun _ => ih) ?_ ?_
        · rintro input ⟨needed, remaining, herror⟩
          exact ⟨needed, remaining, by simp only [decodeItems, herror]⟩
        · rintro input x left hread ⟨needed, remaining, herror⟩
          exact ⟨needed, remaining, by simp only [decodeItems, hread, herror]⟩
      refine hboth.of_imp (fun _ h => h) fun bytes xs h => ?_
      obtain ⟨hlen, hspells⟩ := h
      cases xs with
      | nil => cases hlen
      | cons x xs =>
          obtain ⟨front, back, rfl, hx, hxs⟩ := hspells
          exact ⟨xs, front, back, x, rfl, hx, Nat.succ.inj hlen, hxs⟩

mutual

theorem Shape.decode_starves (version : Int16) :
    (s : Shape) → (previous : s.Value) →
      Starves (fun input => (s.decode version previous input).RanOut) (s.Spells version)
  | .primitive p, previous => by
      refine (decodePrimitive_starves p).of_imp ?_ fun _ x h => ⟨x, h⟩
      rintro input ⟨needed, remaining, rest, herror⟩
      exact ⟨needed, remaining, by simp only [Shape.decode, herror]⟩
  | .array element, previous => by
      have hitems := decodeItems_starves (element.decode_reads version (element.default .absent))
        (element.decode_starves version (element.default .absent))
      have hboth : Starves (fun input => ((Shape.array element).decode version previous input).RanOut)
          fun bytes (xs : List element.Value) => ∃ head body n, bytes = head ++ body ∧ SpellsLong head n ∧
            xs.length = n ∧ SpellsItems (element.Spells version) body xs := by
        refine Starves.andThen Decoder.accepts_arrayLength (Decoder.starves_longLength .array) hitems ?_ ?_
        · rintro input ⟨needed, remaining, rest, herror⟩
          refine ⟨needed, remaining, ?_⟩
          have hlength : Decoder.arrayLength input = (.error (.endOfInput needed remaining), rest) := herror
          simp only [Shape.decode, hlength]
        · rintro input n left hlength ⟨needed, remaining, herror⟩
          exact ⟨needed, remaining, by simp only [Shape.decode, hlength, herror]⟩
      refine hboth.of_imp (fun _ h => h) ?_
      rintro bytes xs ⟨head, body, rfl, hhead, hbody⟩
      exact ⟨xs, head, body, xs.length, rfl, hhead, rfl, hbody⟩
  | .struct _ members, _ => members.decode_starves version

theorem Members.decode_starves (version : Int16) :
    (ms : Members) → Starves (fun input => (ms.decode version input).RanOut) (ms.Spells version)
  | .nil => Starves.of_nil fun _ _ h => h
  | .cons name guard d shape others => by
      have hothers := others.decode_starves version
      cases hguard : guard.holds version with
      | true =>
          have hboth : Starves (fun input => ((Members.cons name guard d shape others).decode version input).RanOut)
              fun bytes (xs : others.Value) => ∃ front back x, bytes = front ++ back ∧
                shape.Spells version front x ∧ others.Spells version back xs := by
            refine Starves.andThen (shape.decode_reads version (shape.default d))
              (shape.decode_starves version (shape.default d)) (fun _ => hothers) ?_ ?_
            · rintro input ⟨needed, remaining, herror⟩
              exact ⟨needed, remaining, by simp only [Members.decode, hguard, if_true, herror]⟩
            · rintro input x left hread ⟨needed, remaining, herror⟩
              exact ⟨needed, remaining, by simp only [Members.decode, hguard, if_true, hread, herror]⟩
          refine hboth.of_imp (fun _ h => h) ?_
          rintro bytes ⟨x, xs⟩ hspells
          simp only [Members.Spells, hguard, if_true] at hspells
          obtain ⟨front, back, rfl, hx, hxs⟩ := hspells
          exact ⟨xs, front, back, x, rfl, hx, hxs⟩
      | false =>
          refine hothers.of_imp ?_ ?_
          · rintro input ⟨needed, remaining, herror⟩
            refine ⟨needed, remaining, ?_⟩
            simp only [Members.decode, hguard, Bool.false_eq_true, if_false, herror]
          · rintro bytes ⟨x, xs⟩ hspells
            simp only [Members.Spells, hguard] at hspells
            exact ⟨xs, hspells.2⟩

end

/-- The bytes that were read decode to the same value before any other bytes, which are left alone, and
every proper start of them runs out of input. -/
theorem Shape.decode_delimits (version : Int16) (s : Shape) (m previous : s.Value)
    (input rest : List UInt8) (h : s.decode version previous input = ⟨m, rest, none⟩) :
    ∃ k, k ≤ input.length ∧ rest = input.drop k ∧
      (∀ previous' more, s.decode version previous' (input.take k ++ more) = ⟨m, more, none⟩) ∧
      ∀ previous' j, j < k → ∃ needed remaining,
        (s.decode version previous' (input.take j)).error = some (.endOfInput needed remaining) := by
  obtain ⟨read, rfl, hspells⟩ := (s.decode_reads version previous input m rest).mp h
  have hread : (read ++ rest).take read.length = read := List.take_left
  refine ⟨read.length, by rw [List.length_append]; omega, List.drop_left.symm, ?_, ?_⟩
  · intro previous' more
    rw [hread]
    exact (s.decode_reads version previous' _ m more).mpr ⟨read, rfl, hspells⟩
  · intro previous' j hj
    rw [List.take_append_of_le_length (Nat.le_of_lt hj)]
    exact s.decode_starves version previous' read m hspells j hj

/-- What `oneEntry` spells at version 2, with a byte behind it. -/
def Bundled.oneEntrySpelled : List UInt8 :=
  [0, 2, 104, 105, 1, 0, 0, 0, 1, 0, 1, 120, 0, 0, 0, 1, 0, 1, 107, 0, 0, 0, 0, 0, 0, 0, 3, 7]

/-- A request with a tag and an entry, which a cut can split in every kind of place. -/
theorem Bundled.decode_delimits_oneEntry :
    requestShape.decode 2 (oneEntry []) oneEntrySpelled = ⟨oneEntry [], [7], none⟩ ∧
    ∃ k, k ≤ oneEntrySpelled.length ∧ [7] = oneEntrySpelled.drop k ∧
      (∀ previous more,
        requestShape.decode 2 previous (oneEntrySpelled.take k ++ more) = ⟨oneEntry [], more, none⟩) ∧
      ∀ previous j, j < k → ∃ needed remaining,
        (requestShape.decode 2 previous (oneEntrySpelled.take j)).error =
          some (.endOfInput needed remaining) :=
  ⟨rfl, Shape.decode_delimits 2 requestShape (oneEntry []) (oneEntry []) oneEntrySpelled [7] rfl⟩

end WireSchema.Wire
