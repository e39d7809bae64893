import WireSchema.Wire.Decoder
import WireSchema.Wire.Encoder
import WireSchema.Wire.Shape

/-!
Messages on the wire. The members of a structure follow one another in the order of declaration, and a
member whose guard is closed at the version is left out; on decoding it gets its default. When decoding
fails, the members before the failure have their values and those after it their defaults; an array is
stored only when all of it is read.
-/

namespace WireSchema.Wire

open WireSchema.Schema

def encodePrimitive : (p : Primitive) → PrimitiveValue p → Written
  | .bool, b => .ok (putBool b)
  | .int8, n => .ok (putInt8 n)
  | .int16, n => .ok (putInt16 n)
  | .int32, n => .ok (putInt32 n)
  | .int64, n => .ok (putInt64 n)
  | .string, s => putString s
  | .bytes, bytes => putBytes bytes

def encodeItems {α : Type} (encode : α → Written) : List α → Written
  | [] => .nothing
  | x :: xs => (encode x).andThen (encodeItems encode xs)

mutual

def Shape.encode (version : Int16) : (s : Shape) → s.Value → Written
  | .primitive p, x => encodePrimitive p x
  | .array element, xs =>
    (putArrayLength xs.length).andThen (encodeItems (element.encode version) xs)
  | .struct _ members, x => members.encode version x

def Members.encode (version : Int16) : (ms : Members) → ms.Value → Written
  | .nil, _ => .nothing
  | .cons _ guard _ shape rest, (x, xs) =>
    (if guard.holds version then shape.encode version x else .nothing).andThen
      (rest.encode version xs)

end

def decodePrimitive : (p : Primitive) → Decoder (PrimitiveValue p)
  | .bool => Decoder.bool
  | .int8 => Decoder.int8
  | .int16 => Decoder.int16
  | .int32 => Decoder.int32
  | .int64 => Decoder.int64
  | .string => Decoder.string
  | .bytes => Decoder.bytes

/-- What decoding leaves behind, also when it fails. -/
structure Decoded (α : Type) where
  value : α
  rest : List UInt8
  error : Option Error

/-- Decodes `n` items; on failure there are none. -/
def decodeItems {α : Type} (decode : List UInt8 → Decoded α) : Nat → List UInt8 → Decoded (List α)
  | 0, input => ⟨[], input, none⟩
  | n + 1, input =>
    let first := decode input
    match first.error with
    | some e => ⟨[], first.rest, some e⟩
    | none =>
      let others := decodeItems decode n first.rest
      match others.error with
      | some e => ⟨[], others.rest, some e⟩
      | none => ⟨first.value :: others.value, others.rest, none⟩

mutual

/-- Decodes a value; `previous` stays if it cannot be read. -/
def Shape.decode (version : Int16) :
    (s : Shape) → (previous : s.Value) → List UInt8 → Decoded s.Value
  | .primitive p, previous, input =>
    match decodePrimitive p input with
    | (.ok x, rest) => ⟨x, rest, none⟩
    | (.error e, rest) => ⟨previous, rest, some e⟩
  | .array element, previous, input =>
    match Decoder.arrayLength input with
    | (.ok n, rest) =>
      let items := decodeItems (element.decode version (element.default .absent)) n rest
      match items.error with
      | none => ⟨items.value, items.rest, none⟩
      | some e => ⟨previous, items.rest, some e⟩
    | (.error e, rest) => ⟨previous, rest, some e⟩
  | .struct _ members, _, input => members.decode version input

def Members.decode (version : Int16) : (ms : Members) → List UInt8 → Decoded ms.Value
  | .nil, input => ⟨(), input, none⟩
  | .cons _ guard d shape rest, input =>
    if guard.holds version then
      let first := shape.decode version (shape.default d) input
      match first.error with
      | some e => ⟨(first.value, rest.default), first.rest, some e⟩
      | none =>
        let others := rest.decode version first.rest
        ⟨(first.value, others.value), others.rest, others.error⟩
    else
      let others := rest.decode version input
      ⟨(shape.default d, others.value), others.rest, others.error⟩

end

/-- All bytes of a message, or the error. -/
def Shape.encodeAll (version : Int16) (s : Shape) (x : s.Value) : Except Error (List UInt8) :=
  let w := s.encode version x
  match w.error with
  | none => .ok w.bytes
  | some e => .error e

/-- Decodes a message from the front of the input, whatever follows it. -/
def Shape.decodeFront (version : Int16) (s : Shape) (input : List UInt8) : Except Error s.Value :=
  let d := s.decode version (s.default .absent) input
  match d.error with
  | none => .ok d.value
  | some e => .error e

end WireSchema.Wire
