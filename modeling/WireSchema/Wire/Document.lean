import WireSchema.Json.Value
import WireSchema.Wire.Shape

/-!
Messages as documents. A structure becomes an object with one member for each of its own, and a byte blob a
list of numbers. A structure is read back from an object, in which members of other names are passed over, or
from a list of all its members in order.
-/

namespace WireSchema.Wire

open WireSchema.Json WireSchema.Schema

def intValue (n : Int) : Value :=
  .number (.integer n)

def primitiveToValue : (p : Primitive) → PrimitiveValue p → Value
  | .bool, b => .boolean b
  | .int8, n => intValue n.toInt
  | .int16, n => intValue n.toInt
  | .int32, n => intValue n.toInt
  | .int64, n => intValue n.toInt
  | .string, s => .text s
  | .bytes, bytes => .list (bytes.map fun b => intValue b.toNat)

mutual

def Shape.toValue : (s : Shape) → s.Value → Value
  | .primitive p, x => primitiveToValue p x
  | .array element, xs => .list (xs.map element.toValue)
  | .struct _ members, x => .object (members.toMembers x)

def Members.toMembers : (ms : Members) → ms.Value → List (String × Value)
  | .nil, _ => []
  | .cons name _ _ shape rest, (x, xs) => (name, shape.toValue x) :: rest.toMembers xs

end

/-- An integer from `low` to `high`. -/
def intOfValue (expected : String) (low high : Int) : Value → Except Cause Int
  | .number (.integer n) =>
    if low ≤ n ∧ n ≤ high then .ok n else .error (.wrongValue n expected)
  | v => .error (.wrongType v.found expected)

def listOfValue {α : Type} (element : Value → Except Cause α) : Value → Except Cause (List α)
  | .list vs => vs.mapM element
  | v => .error (.wrongType v.found "a sequence")

def primitiveOfValue : (p : Primitive) → Value → Except Cause (PrimitiveValue p)
  | .bool, .boolean b => .ok b
  | .bool, v => .error (.wrongType v.found "a boolean")
  | .int8, v => (intOfValue "i8" (-0x80) 0x7F v).map Int8.ofInt
  | .int16, v => (intOfValue "i16" (-0x8000) 0x7FFF v).map Int16.ofInt
  | .int32, v => (intOfValue "i32" (-0x80000000) 0x7FFFFFFF v).map Int32.ofInt
  | .int64, v => (intOfValue "i64" (-0x8000000000000000) 0x7FFFFFFFFFFFFFFF v).map Int64.ofInt
  | .string, .text s => .ok s
  | .string, v => .error (.wrongType v.found "a string")
  | .bytes, v => listOfValue (fun b => (intOfValue "u8" 0 0xFF b).map fun n => UInt8.ofNat n.toNat) v

def expectedMembers (name : String) (n : Nat) : String :=
  "struct " ++ name ++ " with " ++ Text.Numeral.ofNat 10 n ++
    (if n = 1 then " element" else " elements")

mutual

def Shape.ofValue : (s : Shape) → Value → Except Cause s.Value
  | .primitive p, v => primitiveOfValue p v
  | .array element, v => listOfValue element.ofValue v
  | .struct _ members, .object vs => do
    vs.forM fun v => members.check v.1 v.2
    members.ofObject vs
  | .struct name members, .list vs => do
    let (x, rest) ← members.ofList (expectedMembers name members.length) 0 vs
    if rest.isEmpty then .ok x
    else .error (.wrongLength vs.length "fewer elements in array")
  | .struct name _, v => .error (.wrongType v.found ("struct " ++ name))

/-- Checks one member of an object, if the structure has it. -/
def Members.check (name : String) (v : Value) : Members → Except Cause Unit
  | .nil => .ok ()
  | .cons n _ _ shape rest =>
    if n = name then (shape.ofValue v).map fun _ => () else rest.check name v

def Members.ofObject (vs : List (String × Value)) : (ms : Members) → Except Cause ms.Value
  | .nil => .ok ()
  | .cons name _ _ shape rest =>
    match vs.lookup name with
    | none => .error (.missingKey name)
    | some v => do
      let x ← shape.ofValue v
      let xs ← rest.ofObject vs
      return (x, xs)

/-- Reads the members from index `i` on, and gives what is left. -/
def Members.ofList (expected : String) :
    (ms : Members) → Nat → List Value → Except Cause (ms.Value × List Value)
  | .nil, _, vs => .ok ((), vs)
  | .cons _ _ _ shape rest, i, vs =>
    match vs with
    | [] => .error (.wrongLength i expected)
    | v :: vs => do
      let x ← shape.ofValue v
      let (xs, left) ← rest.ofList expected (i + 1) vs
      return ((x, xs), left)

end

end WireSchema.Wire
