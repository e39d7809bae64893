import WireSchema.Schema.Message
import WireSchema.Version.Condition

/-!
The shapes of messages. A shape is a primitive, an array or a structure whose members are guarded by
conditions on the version. Each shape has a type of values, and each member a default.
-/

namespace WireSchema.Wire

open WireSchema.Schema WireSchema.Version

mutual

inductive Shape where
  | primitive (p : Primitive)
  | array (element : Shape)
  | struct (name : String) (members : Members)

/-- The members of a structure in wire order. -/
inductive Members where
  | nil
  | cons (name : String) (guard : Condition) (default : Default) (shape : Shape) (rest : Members)

end

abbrev PrimitiveValue : Primitive → Type
  | .bool => Bool
  | .int8 => Int8
  | .int16 => Int16
  | .int32 => Int32
  | .int64 => Int64
  | .string => String
  | .bytes => List UInt8

mutual

abbrev Shape.Value : Shape → Type
  | .primitive p => PrimitiveValue p
  | .array element => List element.Value
  | .struct _ members => members.Value

abbrev Members.Value : Members → Type
  | .nil => Unit
  | .cons _ _ _ shape rest => shape.Value × rest.Value

end

/-- The value that a default stands for; a default that does not fit the type stands for nothing. -/
def primitiveDefault (d : Default) : (p : Primitive) → PrimitiveValue p
  | .bool => d.toBool.toOption.getD false
  | .int8 => Int8.ofInt ((d.toInt 8).toOption.getD 0)
  | .int16 => Int16.ofInt ((d.toInt 16).toOption.getD 0)
  | .int32 => Int32.ofInt ((d.toInt 32).toOption.getD 0)
  | .int64 => Int64.ofInt ((d.toInt 64).toOption.getD 0)
  | .string => d.toText.toOption.getD ""
  | .bytes => []

mutual

/-- The value of a field that is absent from the wire. -/
def Shape.default (d : Default) : (s : Shape) → s.Value
  | .primitive p => primitiveDefault d p
  | .array _ => []
  | .struct _ members => members.default

def Members.default : (ms : Members) → ms.Value
  | .nil => ()
  | .cons _ _ d shape rest => (shape.default d, rest.default)

end

def Members.length : Members → Nat
  | .nil => 0
  | .cons _ _ _ _ rest => rest.length + 1

end WireSchema.Wire
