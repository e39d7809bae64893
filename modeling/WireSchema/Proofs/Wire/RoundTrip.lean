import WireSchema.Proofs.Wire.Format
import WireSchema.Wire.Bundled

/-!
Encoding and decoding undo each other. What is encoded decodes to the value as it is seen at the version,
with the bytes behind it left alone. What decodes is encoded again in as many bytes, which need not be the
same bytes, and these decode to the same value. For the bundled types the defaults that stand in for unseen
members are the documented ones.
-/

namespace WireSchema.Wire

open WireSchema.Schema

theorem Shape.encodeAll_eq_ok {version : Int16} {s : Shape} {x : s.Value} {bytes : List UInt8} :
    s.encodeAll version x = .ok bytes ↔ s.encode version x = .ok bytes := by
  rw [Shape.encodeAll]
  cases s.encode version x with
  | mk written error => cases error <;> simp [Written.ok]

theorem Shape.decode_of_encodeAll (version : Int16) (s : Shape) (x previous : s.Value)
    (bytes rest : List UInt8) (h : s.encodeAll version x = .ok bytes) :
    s.decode version previous (bytes ++ rest) = ⟨s.seenAt version x, rest, none⟩ := by
  have hspells := s.encode_spells version x bytes (Shape.encodeAll_eq_ok.mp h)
  exact (s.decode_reads version previous (bytes ++ rest) _ rest).mpr ⟨bytes, rfl, hspells⟩

/-! ## The documented defaults -/

def emptyPrimitive : (p : Primitive) → PrimitiveValue p
  | .bool => false
  | .int8 => 0
  | .int16 => 0
  | .int32 => 0
  | .int64 => 0
  | .string => ""
  | .bytes => []

mutual

/-- The value that is empty, zero or false in all its parts. -/
def Shape.empty : (s : Shape) → s.Value
  | .primitive p => emptyPrimitive p
  | .array _ => []
  | .struct _ members => members.empty

def Members.empty : (ms : Members) → ms.Value
  | .nil => ()
  | .cons _ _ _ shape rest => (shape.empty, rest.empty)

end

mutual

/-- Every member, at any depth, has the default that is given for its structure, its name and its shape. -/
def Shape.HasDefaults (given : String → String → (s : Shape) → s.Value) : Shape → Prop
  | .primitive _ => True
  | .array element => element.HasDefaults given
  | .struct name members => members.HasDefaults given name

def Members.HasDefaults (given : String → String → (s : Shape) → s.Value) (owner : String) :
    Members → Prop
  | .nil => True
  | .cons name _ d shape rest =>
    shape.default d = given owner name shape ∧ shape.HasDefaults given ∧ rest.HasDefaults given owner

end

namespace Bundled

/-- Three members of the bundled types have a default of their own, and the others are empty. -/
def documentedDefault (owner name : String) : (s : Shape) → s.Value
  | .primitive .string => if owner = "EchoRequest" ∧ name = "payload" then "ping" else ""
  | .primitive .int64 => if owner = "EchoEntry" ∧ name = "weight" then 16 else 0
  | .primitive .int32 => if owner = "EchoResponse" ∧ name = "throttle_time_ms" then -1 else 0
  | s => s.empty

theorem hasDefaults {name : String} {b : Bundle} (h : find? name = some b) :
    b.shape.HasDefaults documentedDefault := by
  unfold find? at h
  split at h
  · cases h
    exact ⟨rfl, trivial, rfl, trivial, rfl, trivial, rfl,
      ⟨rfl, trivial, rfl, trivial, rfl, trivial, trivial⟩, trivial⟩
  · cases h
    exact ⟨rfl, trivial, rfl, trivial, rfl, trivial, rfl, ⟨rfl, trivial, rfl, trivial, trivial⟩, trivial⟩
  · cases h
    exact ⟨rfl, trivial, rfl, trivial, rfl, trivial, rfl, trivial, trivial⟩
  · cases h
    exact ⟨rfl, trivial, trivial⟩
  · cases h
    exact ⟨rfl, trivial, rfl, trivial, rfl, trivial, trivial⟩
  · cases h
    exact ⟨rfl, trivial, rfl, trivial, trivial⟩
  · cases h

/-- Each bundled type decodes what it encodes, at every version, over any previous content and before any
other bytes: the members seen at the version come back and all others have their documented defaults. -/
theorem round_trip :
    (∀ name ∈ ["EchoRequest", "EchoEntry", "EchoResponse", "EchoNode", "RequestHeader", "ResponseHeader"],
      (find? name).isSome) ∧
    ∀ (name : String) (b : Bundle), find? name = some b →
      b.shape.HasDefaults documentedDefault ∧
      ∀ (version : Int16) (m previous : b.shape.Value) (bytes rest : List UInt8),
        b.shape.encodeAll version m = .ok bytes →
        b.shape.decode version previous (bytes ++ rest) = ⟨b.shape.seenAt version m, rest, none⟩ := by
  refine ⟨by decide, fun name b hfind => ⟨hasDefaults hfind, ?_⟩⟩
  intro version m previous bytes rest hencode
  exact b.shape.decode_of_encodeAll version m previous bytes rest hencode

def requestShape : Shape := ((find? "EchoRequest").get rfl).shape

/-- A request with one tag and one entry. -/
def oneEntry (blob : List UInt8) : requestShape.Value :=
  ("hi", true, ["x"], [("k", (3 : Int64), blob, ())], ())

/-- At version 2 the blob of an entry is not on the wire. -/
theorem round_trip_oneEntry :
    requestShape.encodeAll 2 (oneEntry [0xAA]) =
      .ok [0, 2, 104, 105, 1, 0, 0, 0, 1, 0, 1, 120, 0, 0, 0, 1, 0, 1, 107, 0, 0, 0, 0, 0, 0, 0, 3] ∧
    requestShape.decode 2 (oneEntry [0xBB])
      ([0, 2, 104, 105, 1, 0, 0, 0, 1, 0, 1, 120, 0, 0, 0, 1, 0, 1, 107, 0, 0, 0, 0, 0, 0, 0, 3] ++ [7]) =
      ⟨oneEntry [], [7], none⟩ :=
  ⟨rfl, (round_trip.2 "EchoRequest" _ rfl).2 2 (oneEntry [0xAA]) (oneEntry [0xBB]) _ [7] rfl⟩

end Bundled

/-- What decodes is encoded again in as many bytes as were read, and these decode to the same value with
nothing left over. The bytes may differ: a null length becomes zero and a boolean becomes `0` or `1`. -/
theorem Shape.encodeAll_of_decode (version : Int16) (s : Shape) (m previous : s.Value)
    (input rest : List UInt8) (h : s.decode version previous input = ⟨m, rest, none⟩) :
    ∃ read bytes, input = read ++ rest ∧ s.encodeAll version m = .ok bytes ∧
      bytes.length = read.length ∧ ∀ previous', s.decode version previous' bytes = ⟨m, [], none⟩ := by
  obtain ⟨read, rfl, hspells⟩ := (s.decode_reads version previous input m rest).mp h
  obtain ⟨bytes, hencode, hlen⟩ := s.encode_of_spells version read m hspells
  refine ⟨read, bytes, rfl, Shape.encodeAll_eq_ok.mpr hencode, hlen, fun previous' => ?_⟩
  have hagain := s.decode_of_encodeAll version m previous' bytes [] (Shape.encodeAll_eq_ok.mpr hencode)
  rwa [List.append_nil, s.seenAt_of_spells version read m hspells] at hagain

/-- Null lengths and a boolean of `7` are read, and written again as lengths of zero and a boolean of `1`. -/
theorem Bundled.encodeAll_of_decode_nulls :
    requestShape.decode 1 (oneEntry []) [0xFF, 0xFF, 7, 0xFF, 0xFF, 0xFF, 0xFF, 9] =
      ⟨("", true, [], [], ()), [9], none⟩ ∧
    ∃ read bytes : List UInt8, [0xFF, 0xFF, 7, 0xFF, 0xFF, 0xFF, 0xFF, 9] = read ++ [9] ∧
      requestShape.encodeAll 1 ("", true, [], [], ()) = .ok bytes ∧ bytes.length = read.length ∧
      ∀ previous, requestShape.decode 1 previous bytes = ⟨("", true, [], [], ()), [], none⟩ :=
  ⟨rfl, Shape.encodeAll_of_decode 1 requestShape _ (oneEntry []) _ [9] rfl⟩

end WireSchema.Wire
