import WireSchema.Text.Utf8
import WireSchema.Wire.Error
import WireSchema.Wire.Word

/-!
Reading values from the wire. What was read before an error stays read. A length of `-1` stands for no value
and reads as an empty one; every boolean byte but zero is true.
-/

namespace WireSchema.Wire

open WireSchema.Text

/-- A result and the bytes that are left. -/
def Decoder (α : Type) := List UInt8 → Except Error α × List UInt8

namespace Decoder

variable {α β : Type}

def pure (a : α) : Decoder α :=
  fun input => (.ok a, input)

def bind (d : Decoder α) (f : α → Decoder β) : Decoder β := fun input =>
  match d input with
  | (.ok a, rest) => f a rest
  | (.error e, rest) => (.error e, rest)

instance : Monad Decoder where
  pure := Decoder.pure
  bind := Decoder.bind

def fail (e : Error) : Decoder α :=
  fun input => (.error e, input)

/-- The first `n` bytes and the others, if there are so many. -/
def split? : Nat → List UInt8 → Option (List UInt8 × List UInt8)
  | 0, bytes => some ([], bytes)
  | _ + 1, [] => none
  | n + 1, b :: bytes => (split? n bytes).map fun p => (b :: p.1, p.2)

def take (n : Nat) : Decoder (List UInt8) := fun input =>
  match split? n input with
  | some (bytes, rest) => (.ok bytes, rest)
  | none => (.error (.endOfInput n input.length), input)

def word (width : Nat) : Decoder Nat := do
  let bytes ← take width
  return wordValue bytes

def bool : Decoder Bool := do
  let n ← word 1
  return n != 0

def int8 : Decoder Int8 := do
  let n ← word 1
  return (UInt8.ofNat n).toInt8

def int16 : Decoder Int16 := do
  let n ← word 2
  return (UInt16.ofNat n).toInt16

def int32 : Decoder Int32 := do
  let n ← word 4
  return (UInt32.ofNat n).toInt32

def int64 : Decoder Int64 := do
  let n ← word 8
  return (UInt64.ofNat n).toInt64

def checkLength (kind : LengthKind) (length : Int) : Decoder Nat :=
  if length = -1 then pure 0
  else if length < 0 then fail (.invalidLength kind length)
  else pure length.toNat

def string : Decoder String := do
  let n ← checkLength .string (← int16).toInt
  let bytes ← take n
  match Utf8.decode? bytes with
  | some s => return s
  | none => fail .invalidText

def bytes : Decoder (List UInt8) := do
  let n ← checkLength .bytes (← int32).toInt
  take n

def arrayLength : Decoder Nat := do
  checkLength .array (← int32).toInt

end Decoder

end WireSchema.Wire
