import WireSchema.Schema.Error

/-!
Types of message fields: a primitive or a named structure, alone or in an array. A name that begins with a
small ASCII letter is a primitive's, every other name is a structure's.
-/

namespace WireSchema.Schema

inductive Primitive where
  | bool
  | int8
  | int16
  | int32
  | int64
  | string
  | bytes
  deriving DecidableEq, Repr

namespace Primitive

def ofToken? : String → Option Primitive
  | "bool" => some .bool
  | "boolean" => some .bool
  | "int8" => some .int8
  | "int16" => some .int16
  | "int32" => some .int32
  | "int64" => some .int64
  | "string" => some .string
  | "bytes" => some .bytes
  | _ => none

def parse (token : String) : Except Error Primitive :=
  match ofToken? token with
  | some p => .ok p
  | none => .error (.unknownPrimitive token)

def token : Primitive → String
  | .bool => "bool"
  | .int8 => "int8"
  | .int16 => "int16"
  | .int32 => "int32"
  | .int64 => "int64"
  | .string => "string"
  | .bytes => "bytes"

/-- The width of an integer. -/
def bits? : Primitive → Option Nat
  | .int8 => some 8
  | .int16 => some 16
  | .int32 => some 32
  | .int64 => some 64
  | _ => none

end Primitive

inductive Element where
  | primitive (p : Primitive)
  | struct (name : String)
  deriving DecidableEq, Repr

namespace Element

def parse (name : String) : Except Error Element :=
  match name.toList with
  | [] => .error (.fieldType name)
  | c :: _ => if c.isLower then (Primitive.parse name).map .primitive else .ok (.struct name)

def structName? : Element → Option String
  | .primitive _ => none
  | .struct name => some name

def render : Element → String
  | .primitive p => p.token
  | .struct name => name

end Element

structure FieldType where
  element : Element
  isArray : Bool
  deriving DecidableEq, Repr

namespace FieldType

/-- An array is written with `[]` in front of its element type. -/
def parse (text : String) : Except Error FieldType :=
  match text.toList with
  | ['[', ']'] => .error (.fieldType text)
  | '[' :: ']' :: rest => (Element.parse (String.ofList rest)).map (⟨·, true⟩)
  | _ => (Element.parse text).map (⟨·, false⟩)

def render (t : FieldType) : String :=
  (if t.isArray then "[]" else "") ++ t.element.render

end FieldType

end WireSchema.Schema
