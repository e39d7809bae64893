import Mathlib.Algebra.Group.Nat.Defs
import WireSchema.Proofs.Text.Utf8
import WireSchema.Wire.Codec

/-!
What the bytes of a primitive value are. A decoder accepts a relation between bytes and values when it
reads exactly the bytes that the relation gives to a value, whatever follows them. The decoder of each
primitive accepts `SpellsPrimitive`, which is wider than what the encoder writes: a length of `-1` spells an
empty value, and every byte but zero spells `true`. The encoder writes one spelling of each value, and all
spellings of a value have the same length.
-/

namespace WireSchema.Wire

open WireSchema.Text WireSchema.Schema

/-! ## Words -/

theorem wordBytes_length (width n : Nat) : (wordBytes width n).length = width := by
  induction width generalizing n with
  | zero => rfl
  | succ width ih => rw [wordBytes, List.length_append, ih, List.length_singleton]

theorem wordValue_concat (bytes : List UInt8) (b : UInt8) :
    wordValue (bytes ++ [b]) = wordValue bytes * 256 + b.toNat := by
  rw [wordValue, List.foldl_append]
  rfl

theorem wordValue_wordBytes (width n : Nat) : wordValue (wordBytes width n) = n % 256 ^ width := by
  induction width generalizing n with
  | zero => rw [Nat.pow_zero, Nat.mod_one]; rfl
  | succ width ih =>
      have hlow : (UInt8.ofNat n).toNat = n % 256 := UInt8.toNat_ofNat
      rw [wordBytes, wordValue_concat, ih, hlow, Nat.pow_succ, Nat.mul_comm (256 ^ width), Nat.mod_mul]
      omega

theorem wordValue_wordBytes_of_lt {width n : Nat} (h : n < 256 ^ width) :
    wordValue (wordBytes width n) = n := by
  rw [wordValue_wordBytes, Nat.mod_eq_of_lt h]

/-! ## Readings as relations -/

section Takes

variable {α β : Type}

/-- The reading takes exactly the bytes that spell a value, whatever follows them. -/
def Takes (reading : List UInt8 → α → List UInt8 → Prop) (spells : List UInt8 → α → Prop) : Prop :=
  ∀ input x rest, reading input x rest ↔ ∃ front, input = front ++ rest ∧ spells front x

variable {reading reading' : List UInt8 → α → List UInt8 → Prop} {P Q : List UInt8 → α → Prop}

theorem Takes.congr (h : Takes reading P)
    (hreading : ∀ input x rest, reading' input x rest ↔ reading input x rest)
    (hspells : ∀ bytes x, P bytes x ↔ Q bytes x) : Takes reading' Q := by
  intro input x rest
  rw [hreading, h input x rest]
  simp only [hspells]

theorem Takes.andThen {next : α → List UInt8 → β → List UInt8 → Prop} {R : α → List UInt8 → β → Prop}
    (h : Takes reading P) (hnext : ∀ a, Takes (next a) (R a)) :
    Takes (fun input b rest => ∃ a left, reading input a left ∧ next a left b rest)
      fun bytes b => ∃ front back a, bytes = front ++ back ∧ P front a ∧ R a back b := by
  intro input b rest
  constructor
  · rintro ⟨a, left, hfirst, hsecond⟩
    obtain ⟨front, rfl, hP⟩ := (h _ _ _).mp hfirst
    obtain ⟨back, rfl, hR⟩ := (hnext a _ _ _).mp hsecond
    exact ⟨front ++ back, by rw [List.append_assoc], front, back, a, rfl, hP, hR⟩
  · rintro ⟨_, rfl, front, back, a, rfl, hP, hR⟩
    refine ⟨a, back ++ rest, (h _ _ _).mpr ⟨front, ?_, hP⟩, (hnext a _ _ _).mpr ⟨back, rfl, hR⟩⟩
    rw [List.append_assoc]

theorem Takes.map (h : Takes reading P) (f : α → β) :
    Takes (fun input b rest => ∃ a, reading input a rest ∧ b = f a)
      fun bytes b => ∃ a, P bytes a ∧ b = f a := by
  intro input b rest
  constructor
  · rintro ⟨a, hreading, rfl⟩
    obtain ⟨front, rfl, hP⟩ := (h _ _ _).mp hreading
    exact ⟨front, rfl, a, hP, rfl⟩
  · rintro ⟨front, rfl, a, hP, rfl⟩
    exact ⟨a, (h _ _ _).mpr ⟨front, rfl, hP⟩, rfl⟩

end Takes

/-! ## Decoders -/

namespace Decoder

variable {α β γ : Type}

/-- `d` succeeds on exactly the bytes that spell a value, whatever follows them. -/
def Accepts (d : Decoder α) (spells : List UInt8 → α → Prop) : Prop :=
  Takes (fun input x rest => d input = (.ok x, rest)) spells

theorem Accepts.of_iff {d : Decoder α} {P Q : List UInt8 → α → Prop} (h : d.Accepts P)
    (hPQ : ∀ bytes x, P bytes x ↔ Q bytes x) : d.Accepts Q :=
  Takes.congr h (fun _ _ _ => Iff.rfl) hPQ

theorem accepts_pure (a : α) : (pure a : Decoder α).Accepts fun bytes x => bytes = [] ∧ x = a := by
  intro input x rest
  constructor
  · intro h
    cases h
    exact ⟨[], rfl, rfl, rfl⟩
  · rintro ⟨front, rfl, rfl, rfl⟩
    rfl

theorem accepts_fail (e : Error) : (fail e : Decoder α).Accepts fun _ _ => False := by
  intro input x rest
  constructor
  · intro h
    cases h
  · rintro ⟨_, _, hfalse⟩
    exact hfalse.elim

theorem bind_run (d : Decoder α) (f : α → Decoder β) (input : List UInt8) :
    Decoder.bind d f input = match d input with
      | (.ok a, left) => f a left
      | (.error e, left) => (.error e, left) := rfl

theorem bind_assoc (d : Decoder α) (f : α → Decoder β) (g : β → Decoder γ) :
    d >>= f >>= g = d >>= fun a => f a >>= g := by
  funext input
  change Decoder.bind (Decoder.bind d f) g input = Decoder.bind d (fun a => Decoder.bind (f a) g) input
  rw [bind_run, bind_run, bind_run]
  cases d input with
  | mk result left => cases result <;> rfl

theorem bind_eq_ok {d : Decoder α} {f : α → Decoder β} {input rest : List UInt8} {b : β} :
    (d >>= f) input = (.ok b, rest) ↔ ∃ a left, d input = (.ok a, left) ∧ f a left = (.ok b, rest) := by
  change Decoder.bind d f input = _ ↔ _
  rw [bind_run]
  cases hfirst : d input with
  | mk result left =>
      cases result with
      | error e => simp
      | ok a =>
          constructor
          · intro hsecond
            exact ⟨a, left, rfl, hsecond⟩
          · rintro ⟨_, _, ⟨⟩, hsecond⟩
            exact hsecond

theorem Accepts.bind {d : Decoder α} {f : α → Decoder β} {P : List UInt8 → α → Prop}
    {Q : α → List UInt8 → β → Prop} (hd : d.Accepts P) (hf : ∀ a, (f a).Accepts (Q a)) :
    (d >>= f).Accepts fun bytes b => ∃ front back a, bytes = front ++ back ∧ P front a ∧ Q a back b :=
  (Takes.andThen hd hf).congr (fun _ _ _ => bind_eq_ok) fun _ _ => Iff.rfl

theorem Accepts.map {d : Decoder α} {P : List UInt8 → α → Prop} (hd : d.Accepts P) (f : α → β) :
    (d >>= fun a => pure (f a)).Accepts fun bytes b => ∃ a, P bytes a ∧ b = f a := by
  refine (Takes.map hd f).congr (fun input b rest => ?_) fun _ _ => Iff.rfl
  rw [bind_eq_ok]
  constructor
  · rintro ⟨a, left, hfirst, ⟨⟩⟩
    exact ⟨a, hfirst, rfl⟩
  · rintro ⟨a, hfirst, rfl⟩
    exact ⟨a, rest, hfirst, rfl⟩

/-! ## Words and lengths -/

theorem split?_eq_some {n : Nat} {bytes front rest : List UInt8} :
    split? n bytes = some (front, rest) ↔ bytes = front ++ rest ∧ front.length = n := by
  induction n generalizing bytes front with
  | zero =>
      simp only [split?, Option.some.injEq, Prod.mk.injEq, List.length_eq_zero_iff]
      constructor
      · rintro ⟨rfl, rfl⟩
        exact ⟨rfl, rfl⟩
      · rintro ⟨rfl, rfl⟩
        exact ⟨rfl, rfl⟩
  | succ n ih =>
      cases bytes with
      | nil =>
          simp only [split?, reduceCtorEq, false_iff]
          rintro ⟨hnil, hlen⟩
          rw [(List.append_eq_nil_iff.mp hnil.symm).1] at hlen
          simp at hlen
      | cons b bytes =>
          simp only [split?, Option.map_eq_some_iff, Prod.mk.injEq, Prod.exists]
          constructor
          · rintro ⟨front, _, hsplit, rfl, rfl⟩
            obtain ⟨rfl, rfl⟩ := ih.mp hsplit
            exact ⟨rfl, rfl⟩
          · rintro ⟨happend, hlen⟩
            cases front with
            | nil => simp at hlen
            | cons c front =>
                rw [List.cons_append, List.cons.injEq] at happend
                obtain ⟨rfl, hrest⟩ := happend
                exact ⟨front, rest, ih.mpr ⟨hrest, Nat.succ.inj hlen⟩, rfl, rfl⟩

theorem accepts_take (n : Nat) : (take n).Accepts fun bytes x => bytes.length = n ∧ x = bytes := by
  intro input x rest
  change take n input = (.ok x, rest) ↔ _
  rw [take]
  constructor
  · intro h
    split at h
    · rename_i bytes left hsplit
      cases h
      obtain ⟨rfl, hlen⟩ := split?_eq_some.mp hsplit
      exact ⟨x, rfl, hlen, rfl⟩
    · cases h
  · rintro ⟨front, rfl, hlen, rfl⟩
    rw [split?_eq_some.mpr ⟨rfl, hlen⟩]

theorem accepts_word (width : Nat) :
    (word width).Accepts fun bytes n => bytes.length = width ∧ n = wordValue bytes := by
  refine ((accepts_take width).map wordValue).of_iff fun bytes n => ?_
  constructor
  · rintro ⟨_, ⟨hlen, rfl⟩, rfl⟩
    exact ⟨hlen, rfl⟩
  · rintro ⟨hlen, rfl⟩
    exact ⟨bytes, ⟨hlen, rfl⟩, rfl⟩

end Decoder

/-- What a signed length may be in front of a value with `n` parts. -/
def SpellsCount (length : Int) (n : Nat) : Prop :=
  length = n ∨ length = -1 ∧ n = 0

/-- The 16-bit lengths in front of `n` bytes. -/
def SpellsShort (head : List UInt8) (n : Nat) : Prop :=
  head.length = 2 ∧ SpellsCount (UInt16.ofNat (wordValue head)).toInt16.toInt n

/-- The 32-bit lengths in front of `n` parts. -/
def SpellsLong (head : List UInt8) (n : Nat) : Prop :=
  head.length = 4 ∧ SpellsCount (UInt32.ofNat (wordValue head)).toInt32.toInt n

theorem spellsShort_wordBytes {n : Nat} (h : n ≤ greatestStringLength) :
    SpellsShort (wordBytes 2 n) n := by
  have hlt : n < 2 ^ 15 := Nat.lt_succ_of_le h
  have hword : wordValue (wordBytes 2 n) = n := wordValue_wordBytes_of_lt (by omega)
  refine ⟨wordBytes_length 2 n, Or.inl ?_⟩
  rw [hword, UInt16.toInt16_ofNat', Int16.toInt_ofNat_of_lt hlt]

theorem spellsLong_wordBytes {n : Nat} (h : n ≤ greatestLength) : SpellsLong (wordBytes 4 n) n := by
  have hlt : n < 2 ^ 31 := Nat.lt_succ_of_le h
  have hword : wordValue (wordBytes 4 n) = n := wordValue_wordBytes_of_lt (by omega)
  refine ⟨wordBytes_length 4 n, Or.inl ?_⟩
  rw [hword, UInt32.toInt32_ofNat', Int32.toInt_ofNat_of_lt hlt]

theorem SpellsShort.le_greatest {head : List UInt8} {n : Nat} (h : SpellsShort head n) :
    n ≤ greatestStringLength := by
  have hlt := (UInt16.ofNat (wordValue head)).toInt16.toInt_lt
  rw [greatestStringLength]
  rcases h.2 with heq | ⟨_, rfl⟩ <;> omega

theorem SpellsLong.le_greatest {head : List UInt8} {n : Nat} (h : SpellsLong head n) :
    n ≤ greatestLength := by
  have hlt := (UInt32.ofNat (wordValue head)).toInt32.toInt_lt
  rw [greatestLength]
  rcases h.2 with heq | ⟨_, rfl⟩ <;> omega

namespace Decoder

theorem accepts_checkLength (kind : LengthKind) (length : Int) :
    (checkLength kind length).Accepts fun bytes n => bytes = [] ∧ SpellsCount length n := by
  rw [checkLength]
  split
  · rename_i hnull
    refine (accepts_pure 0).of_iff fun bytes n => and_congr_right fun _ => ?_
    rw [SpellsCount]
    omega
  · rename_i hnull
    split
    · rename_i hneg
      refine (accepts_fail _).of_iff fun bytes n => ⟨False.elim, fun ⟨_, hcount⟩ => ?_⟩
      rw [SpellsCount] at hcount
      omega
    · rename_i hneg
      refine (accepts_pure length.toNat).of_iff fun bytes n => and_congr_right fun _ => ?_
      rw [SpellsCount]
      omega

/-- A length word and the check of what it says. -/
theorem Accepts.checkedLength {α : Type} {d : Decoder α} {P : List UInt8 → α → Prop} (hd : d.Accepts P)
    (kind : LengthKind) (toInt : α → Int) :
    (d >>= fun k => checkLength kind (toInt k)).Accepts
      fun bytes n => ∃ k, P bytes k ∧ SpellsCount (toInt k) n := by
  refine (hd.bind fun k => accepts_checkLength kind (toInt k)).of_iff fun bytes n => ?_
  constructor
  · rintro ⟨front, _, k, rfl, hP, rfl, hcount⟩
    exact ⟨k, by rwa [List.append_nil], hcount⟩
  · rintro ⟨k, hP, hcount⟩
    exact ⟨bytes, [], k, by rw [List.append_nil], hP, rfl, hcount⟩

/-- A word of which something is made. -/
theorem accepts_wordAs {α : Type} (width : Nat) (f : Nat → α) :
    (word width >>= fun n => pure (f n)).Accepts
      fun bytes x => bytes.length = width ∧ x = f (wordValue bytes) := by
  refine ((accepts_word width).map f).of_iff fun bytes x => ?_
  simp only [and_assoc, exists_and_left, exists_eq_left]

theorem accepts_shortLength (kind : LengthKind) :
    (int16 >>= fun k => checkLength kind k.toInt).Accepts SpellsShort := by
  refine ((accepts_wordAs 2 fun n => (UInt16.ofNat n).toInt16).checkedLength kind Int16.toInt).of_iff
    fun bytes n => ?_
  simp only [SpellsShort, and_assoc, exists_and_left, exists_eq_left]

theorem accepts_longLength (kind : LengthKind) :
    (int32 >>= fun k => checkLength kind k.toInt).Accepts SpellsLong := by
  refine ((accepts_wordAs 4 fun n => (UInt32.ofNat n).toInt32).checkedLength kind Int32.toInt).of_iff
    fun bytes n => ?_
  simp only [SpellsLong, and_assoc, exists_and_left, exists_eq_left]

theorem accepts_arrayLength : arrayLength.Accepts SpellsLong :=
  accepts_longLength .array

theorem accepts_bytes :
    bytes.Accepts fun spelled blob => ∃ head, spelled = head ++ blob ∧ SpellsLong head blob.length := by
  have hbytes : bytes = (int32 >>= fun k => checkLength .bytes k.toInt) >>= take :=
    (bind_assoc _ _ _).symm
  rw [hbytes]
  refine ((accepts_longLength .bytes).bind accepts_take).of_iff fun spelled blob => ?_
  constructor
  · rintro ⟨head, _, n, rfl, hhead, hlen, rfl⟩
    exact ⟨head, rfl, by rwa [hlen]⟩
  · rintro ⟨head, rfl, hhead⟩
    exact ⟨head, blob, blob.length, rfl, hhead, rfl, rfl⟩

/-- The bytes of a string, once they are cut off. -/
def text (spelled : List UInt8) : Decoder String :=
  match Utf8.decode? spelled with
  | some s => pure s
  | none => fail .invalidText

theorem accepts_text (spelled : List UInt8) :
    (text spelled).Accepts fun bytes s => bytes = [] ∧ Utf8.encode s = spelled := by
  rw [text]
  split
  · rename_i s hread
    refine (accepts_pure s).of_iff fun bytes t => and_congr_right fun _ => ?_
    constructor
    · rintro rfl
      exact Utf8.encode_of_decode? hread
    · intro ht
      rw [← ht, Utf8.decode?_encode] at hread
      exact Option.some.inj hread
  · rename_i hread
    refine (accepts_fail _).of_iff fun bytes t => ⟨False.elim, fun ⟨_, ht⟩ => ?_⟩
    rw [← ht, Utf8.decode?_encode] at hread
    cases hread

theorem accepts_string :
    string.Accepts fun bytes s =>
      ∃ head, bytes = head ++ Utf8.encode s ∧ SpellsShort head (Utf8.encode s).length := by
  have hstring : string = (int16 >>= fun k => checkLength .string k.toInt) >>= fun n => take n >>= text :=
    (bind_assoc _ _ _).symm
  rw [hstring]
  refine ((accepts_shortLength .string).bind fun n => (accepts_take n).bind accepts_text).of_iff
    fun bytes s => ?_
  constructor
  · rintro ⟨head, _, n, rfl, hhead, body, _, _, rfl, ⟨hlen, rfl⟩, rfl, hs⟩
    rw [List.append_nil, hs]
    exact ⟨head, rfl, by rwa [hlen]⟩
  · rintro ⟨head, rfl, hhead⟩
    exact ⟨head, _, _, rfl, hhead, Utf8.encode s, [], _, (List.append_nil _).symm, ⟨rfl, rfl⟩, rfl, rfl⟩

end Decoder

/-- The bytes that spell a primitive value. -/
def SpellsPrimitive : (p : Primitive) → List UInt8 → PrimitiveValue p → Prop
  | .bool, bytes, b => bytes.length = 1 ∧ b = (wordValue bytes != 0)
  | .int8, bytes, n => bytes.length = 1 ∧ n = (UInt8.ofNat (wordValue bytes)).toInt8
  | .int16, bytes, n => bytes.length = 2 ∧ n = (UInt16.ofNat (wordValue bytes)).toInt16
  | .int32, bytes, n => bytes.length = 4 ∧ n = (UInt32.ofNat (wordValue bytes)).toInt32
  | .int64, bytes, n => bytes.length = 8 ∧ n = (UInt64.ofNat (wordValue bytes)).toInt64
  | .string, bytes, s =>
    ∃ head, bytes = head ++ Utf8.encode s ∧ SpellsShort head (Utf8.encode s).length
  | .bytes, bytes, blob => ∃ head, bytes = head ++ blob ∧ SpellsLong head blob.length

theorem decodePrimitive_accepts (p : Primitive) : (decodePrimitive p).Accepts (SpellsPrimitive p) := by
  cases p with
  | bool => exact Decoder.accepts_wordAs 1 _
  | int8 => exact Decoder.accepts_wordAs 1 _
  | int16 => exact Decoder.accepts_wordAs 2 _
  | int32 => exact Decoder.accepts_wordAs 4 _
  | int64 => exact Decoder.accepts_wordAs 8 _
  | string => exact Decoder.accepts_string
  | bytes => exact Decoder.accepts_bytes

/-! ## What the encoder writes -/

theorem Written.andThen_eq_ok {a b : Written} {bytes : List UInt8} :
    a.andThen b = .ok bytes ↔ ∃ front back, a = .ok front ∧ b = .ok back ∧ bytes = front ++ back := by
  obtain ⟨first, error⟩ := a
  obtain ⟨second, error'⟩ := b
  constructor
  · intro h
    cases error with
    | none =>
        obtain ⟨rfl, rfl⟩ := Written.mk.inj h
        exact ⟨first, second, rfl, rfl, rfl⟩
    | some e => cases h
  · rintro ⟨front, back, hfront, hback, rfl⟩
    cases hfront
    cases hback
    rfl

/-- What is too long is not written. -/
theorem Written.bounded_eq_ok {limit n : Nat} {e : Error} {written bytes : List UInt8} :
    (if limit < n then Written.failed e else .ok written) = .ok bytes ↔
      n ≤ limit ∧ bytes = written := by
  split
  · rename_i hlong
    constructor
    · intro h
      cases h
    · rintro ⟨hle, _⟩
      exact absurd hle (Nat.not_le_of_lt hlong)
  · rename_i hfits
    constructor
    · intro h
      cases h
      exact ⟨Nat.le_of_not_lt hfits, rfl⟩
    · rintro ⟨_, rfl⟩
      rfl

theorem putString_eq_ok {s : String} {bytes : List UInt8} :
    putString s = .ok bytes ↔ (Utf8.encode s).length ≤ greatestStringLength ∧
      bytes = wordBytes 2 (Utf8.encode s).length ++ Utf8.encode s :=
  Written.bounded_eq_ok

theorem putLength_eq_ok {kind : LengthKind} {n : Nat} {bytes : List UInt8} :
    putLength kind n = .ok bytes ↔ n ≤ greatestLength ∧ bytes = wordBytes 4 n :=
  Written.bounded_eq_ok

theorem putBytes_eq_ok {blob bytes : List UInt8} :
    putBytes blob = .ok bytes ↔ blob.length ≤ greatestLength ∧
      bytes = wordBytes 4 blob.length ++ blob := by
  rw [putBytes, Written.andThen_eq_ok]
  constructor
  · rintro ⟨front, back, hfront, hback, rfl⟩
    obtain ⟨hle, rfl⟩ := putLength_eq_ok.mp hfront
    cases hback
    exact ⟨hle, rfl⟩
  · rintro ⟨hle, rfl⟩
    exact ⟨_, _, putLength_eq_ok.mpr ⟨hle, rfl⟩, rfl, rfl⟩

theorem encodePrimitive_spells {p : Primitive} {x : PrimitiveValue p} {bytes : List UInt8}
    (h : encodePrimitive p x = .ok bytes) : SpellsPrimitive p bytes x := by
  cases p with
  | bool =>
      cases h
      cases x <;> exact ⟨rfl, rfl⟩
  | int8 =>
      cases h
      refine ⟨wordBytes_length 1 _, ?_⟩
      rw [putInt8, wordValue_wordBytes_of_lt x.toUInt8.toNat_lt, UInt8.ofNat_toNat]
      rfl
  | int16 =>
      cases h
      refine ⟨wordBytes_length 2 _, ?_⟩
      rw [putInt16, wordValue_wordBytes_of_lt x.toUInt16.toNat_lt, UInt16.ofNat_toNat]
      rfl
  | int32 =>
      cases h
      refine ⟨wordBytes_length 4 _, ?_⟩
      rw [putInt32, wordValue_wordBytes_of_lt x.toUInt32.toNat_lt, UInt32.ofNat_toNat]
      rfl
  | int64 =>
      cases h
      refine ⟨wordBytes_length 8 _, ?_⟩
      rw [putInt64, wordValue_wordBytes_of_lt x.toUInt64.toNat_lt, UInt64.ofNat_toNat]
      rfl
  | string =>
      obtain ⟨hle, rfl⟩ := putString_eq_ok.mp h
      exact ⟨_, rfl, spellsShort_wordBytes hle⟩
  | bytes =>
      obtain ⟨hle, rfl⟩ := putBytes_eq_ok.mp h
      exact ⟨_, rfl, spellsLong_wordBytes hle⟩

/-- A value that can be spelled can be written, in as many bytes. -/
theorem encodePrimitive_of_spells {p : Primitive} {x : PrimitiveValue p} {spelled : List UInt8}
    (h : SpellsPrimitive p spelled x) :
    ∃ bytes, encodePrimitive p x = .ok bytes ∧ bytes.length = spelled.length := by
  cases p with
  | bool => exact ⟨_, rfl, h.1.symm⟩
  | int8 => exact ⟨_, rfl, (wordBytes_length 1 _).trans h.1.symm⟩
  | int16 => exact ⟨_, rfl, (wordBytes_length 2 _).trans h.1.symm⟩
  | int32 => exact ⟨_, rfl, (wordBytes_length 4 _).trans h.1.symm⟩
  | int64 => exact ⟨_, rfl, (wordBytes_length 8 _).trans h.1.symm⟩
  | string =>
      obtain ⟨head, rfl, hhead⟩ := h
      refine ⟨_, putString_eq_ok.mpr ⟨hhead.le_greatest, rfl⟩, ?_⟩
      rw [List.length_append, List.length_append, wordBytes_length, hhead.1]
  | bytes =>
      obtain ⟨head, rfl, hhead⟩ := h
      refine ⟨_, putBytes_eq_ok.mpr ⟨hhead.le_greatest, rfl⟩, ?_⟩
      rw [List.length_append, List.length_append, wordBytes_length, hhead.1]

end WireSchema.Wire
