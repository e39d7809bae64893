import WireSchema.Text.Utf8
import WireSchema.Wire.Error
import WireSchema.Wire.Word

/-!
Writing values to the wire. A string has its length in bytes in front, as a 16-bit word; a byte blob and an
array have theirs as a 32-bit word. A value that is too long for its length word is not written at all.
-/

namespace WireSchema.Wire

open WireSchema.Text

/-- Bytes, and the error that ended the writing. -/
structure Written where
  bytes : List UInt8
  error : Option Error
  deriving DecidableEq, Repr

namespace Written

def nothing : Written := ⟨[], none⟩

def ok (bytes : List UInt8) : Written := ⟨bytes, none⟩

def failed (e : Error) : Written := ⟨[], some e⟩

/-- After an error nothing more is written. -/
def andThen (a b : Written) : Written :=
  match a.error with
  | none => ⟨a.bytes ++ b.bytes, b.error⟩
  | some _ => a

end Written

def putBool (b : Bool) : List UInt8 :=
  [if b then 1 else 0]

def putInt8 (n : Int8) : List UInt8 :=
  wordBytes 1 n.toUInt8.toNat

def putInt16 (n : Int16) : List UInt8 :=
  wordBytes 2 n.toUInt16.toNat

def putInt32 (n : Int32) : List UInt8 :=
  wordBytes 4 n.toUInt32.toNat

def putInt64 (n : Int64) : List UInt8 :=
  wordBytes 8 n.toUInt64.toNat

def greatestStringLength : Nat := 32767

def greatestLength : Nat := 2147483647

/-- A length is reported as a signed 64-bit number. -/
def reportedLength (n : Nat) : Int :=
  (Int64.ofNat n).toInt

def putString (s : String) : Written :=
  let bytes := Utf8.encode s
  if greatestStringLength < bytes.length then
    .failed (.invalidLength .string (reportedLength bytes.length))
  else .ok (wordBytes 2 bytes.length ++ bytes)

def putLength (kind : LengthKind) (n : Nat) : Written :=
  if greatestLength < n then .failed (.invalidLength kind (reportedLength n))
  else .ok (wordBytes 4 n)

def putBytes (bytes : List UInt8) : Written :=
  (putLength .bytes bytes.length).andThen (.ok bytes)

def putArrayLength (n : Nat) : Written :=
  putLength .array n

end WireSchema.Wire
