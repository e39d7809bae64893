import WireSchema.Json.Compound
import WireSchema.Schema.Error

/-!
Default values of fields. A document gives a boolean, a number or a string, and the value keeps that form
until a type is asked of it: a string may stand for a boolean or an integer, a number only for an integer.
Integers are written in decimal, or with `0x`, `0o` and `0b` in another radix; a leading zero alone means
octal.
-/

namespace WireSchema.Schema

open WireSchema.Text

inductive Default where
  | absent
  | boolean (b : Bool)
  | number (text : String)
  | string (text : String)
  deriving DecidableEq, Repr

namespace Default

def isAbsent : Default → Bool
  | .absent => true
  | _ => false

def parseBool? : String → Option Bool
  | "1" | "t" | "T" | "TRUE" | "true" | "True" => some true
  | "0" | "f" | "F" | "FALSE" | "false" | "False" => some false
  | _ => none

def toBool : Default → Except Error Bool
  | .absent => .ok false
  | .boolean b => .ok b
  | .string text =>
    match parseBool? text with
    | some b => .ok b
    | none => .error (.invalidDefault .boolean text)
  | .number _ => .error (.defaultMismatch .boolean)

/-- The radix of an unsigned numeral and its digits. -/
def splitRadix : List Char → Nat × List Char
  | '0' :: 'x' :: ds => (16, ds)
  | '0' :: 'X' :: ds => (16, ds)
  | '0' :: 'o' :: ds => (8, ds)
  | '0' :: 'O' :: ds => (8, ds)
  | '0' :: 'b' :: ds => (2, ds)
  | '0' :: 'B' :: ds => (2, ds)
  | '0' :: d :: ds => (8, d :: ds)
  | ds => (10, ds)

def splitSign : List Char → Bool × List Char
  | '-' :: ds => (true, ds)
  | '+' :: ds => (false, ds)
  | ds => (false, ds)

/-- The width of an integer type is between 1 and 64 bits. -/
def clampBits (bits : Nat) : Nat :=
  min (max bits 1) 64

def fits (bits : Nat) (n : Int) : Bool :=
  -Int.pow 2 (clampBits bits - 1) ≤ n && n ≤ Int.pow 2 (clampBits bits - 1) - 1

def parseInt? (bits : Nat) (text : String) : Option Int :=
  let (negative, unsigned) := splitSign text.toList
  let (radix, digits) := splitRadix unsigned
  match Numeral.value? radix digits with
  | none => none
  | some n =>
    let value : Int := if negative then -n else n
    if fits bits value then some value else none

/-- The string `null` stands for zero. -/
def toInt (bits : Nat) : Default → Except Error Int
  | .absent => .ok 0
  | .string "null" => .ok 0
  | .number text | .string text =>
    match parseInt? bits text with
    | some n => .ok n
    | none => .error (.invalidDefault .integer text)
  | .boolean _ => .error (.defaultMismatch .integer)

def toText : Default → Except Error String
  | .absent => .ok ""
  | .string text => .ok text
  | _ => .error (.defaultMismatch .string)

/-- A number keeps its decimal text: an integer its digits, another number the shortest digits without
an exponent. -/
def ofNumber : Json.Number → Default
  | .integer n => .number (Numeral.decimal n)
  | .float x => .number (Decimal.Layout.positional.write x)

def refuse (found : Unsupported) : Json.Cause :=
  .refused (Error.unsupportedDefault found).message

open Json Json.Reader in
/-- Reads a default. `room` says whether another bracket may be opened. -/
def reader (room : Bool) : Json.Reader Default := do
  let b ← valueStart
  if b = 0x6E then
    discard
    restOfNull
    stamp (raise (refuse .null))
  else if b = 0x74 then
    discard
    restOfTrue
    return .boolean true
  else if b = 0x66 then
    discard
    restOfFalse
    return .boolean false
  else if b = 0x2D then
    discard
    let n ← Reader.number true
    return ofNumber n
  else if isDigit b then
    let n ← Reader.number false
    return ofNumber n
  else if b = 0x22 then
    discard
    let s ← restOfString
    return .string s
  else if b = 0x5B then
    if room then inList (raise (refuse .array)) else fail .nestedTooDeep
  else if b = 0x7B then
    if room then inObject (raise (refuse .object)) else fail .nestedTooDeep
  else fail .expectedValue

end Default

end WireSchema.Schema
