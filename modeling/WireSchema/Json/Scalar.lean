import WireSchema.Json.Reader
import WireSchema.Text.Utf8

/-!
Values without parts: words, strings and numbers. An integer stays exact as long as it fits in 64 bits;
every other number is a double. Its digits are gathered while they fit in 64 bits, and the result is
multiplied or divided by one power of ten, so the double need not be the nearest one.
-/

namespace WireSchema.Json

open WireSchema.Text WireSchema.Decimal

inductive Number where
  | integer (n : Int)
  | float (x : Binary64)
  deriving DecidableEq, Repr

def Number.found : Number → Found
  | .integer n => .integer n
  | .float x => .float x

namespace Reader

variable {α : Type}

/-- The rest of a word whose first letter has been consumed. -/
def word : List UInt8 → Reader Unit
  | [] => return ()
  | expected :: rest => do
    match ← next with
    | none => fail .endInValue
    | some b => if b = expected then word rest else fail .expectedWord

/-- `null` after its first letter. -/
def restOfNull : Reader Unit := word [0x75, 0x6C, 0x6C]

/-- `true` after its first letter. -/
def restOfTrue : Reader Unit := word [0x72, 0x75, 0x65]

/-- `false` after its first letter. -/
def restOfFalse : Reader Unit := word [0x61, 0x6C, 0x73, 0x65]

/-! ## Strings -/

def nextInString : Reader UInt8 := do
  match ← next with
  | some b => return b
  | none => fail .endInString

def peekInString : Reader UInt8 := do
  match ← peek with
  | some b => return b
  | none => fail .endInString

def hexValue? (b : UInt8) : Option Nat :=
  Numeral.digitValue? 16 (Char.ofNat b.toNat)

/-- Four hexadecimal digits. -/
def hexEscape : Reader Nat := do
  let a ← nextInString
  let b ← nextInString
  let c ← nextInString
  let d ← nextInString
  match hexValue? a, hexValue? b, hexValue? c, hexValue? d with
  | some a, some b, some c, some d => return ((a * 16 + b) * 16 + c) * 16 + d
  | _, _, _, _ => fail .invalidEscape

/-- Consumes `expected`, or the byte in its place. -/
def expectInEscape (expected : UInt8) : Reader Unit := do
  let b ← peekInString
  discard
  if b = expected then return () else fail .cutHexEscape

/-- A character by its UTF-16 units, after `\u`. -/
def unicodeEscape : Reader Char := do
  let n ← hexEscape
  if 0xDC00 ≤ n ∧ n ≤ 0xDFFF then fail .loneSurrogate
  else if n < 0xD800 ∨ 0xDBFF < n then return Char.ofNat n
  else
    expectInEscape 0x5C
    expectInEscape 0x75
    let low ← hexEscape
    if low < 0xDC00 ∨ 0xDFFF < low then fail .loneSurrogate
    else return Char.ofNat ((n - 0xD800) * 0x400 + (low - 0xDC00) + 0x10000)

/-- The bytes that an escape stands for, after the backslash. -/
def escape : Reader (List UInt8) := do
  let b ← nextInString
  if b = 0x22 ∨ b = 0x5C ∨ b = 0x2F then return [b]
  else if b = 0x62 then return [0x08]
  else if b = 0x66 then return [0x0C]
  else if b = 0x6E then return [0x0A]
  else if b = 0x72 then return [0x0D]
  else if b = 0x74 then return [0x09]
  else if b = 0x75 then
    let c ← unicodeEscape
    return Utf8.encode (String.singleton c)
  else fail .invalidEscape

/-- The failure for ill-formed bytes points at the first of them. -/
def decodeString (bytes : List UInt8) : Reader String :=
  match Utf8.decode? bytes with
  | some s => Reader.pure s
  | none => fun _ c =>
    (.error ⟨.invalidCodePoint, some (c.taken - (bytes.length - Utf8.validLength bytes))⟩, c)

/-- The rest of a string after its opening quote. -/
def restOfString : Reader String := do
  let bytes ← loop (fun (acc : List UInt8) => do
    let b ← nextInString
    if b = 0x22 then return .inr acc.reverse
    else if b = 0x5C then
      let bytes ← escape
      return .inl (bytes.reverse ++ acc)
    else if b < 0x20 then fail .controlCharacter
    else return .inl (b :: acc)) []
  decodeString bytes

/-! ## Numbers -/

def isDigit (b : UInt8) : Bool :=
  0x30 ≤ b && b ≤ 0x39

/-- The next byte if it is a digit; no other byte is consumed. -/
def peekDigit : Reader (Option Nat) := do
  match ← peek with
  | some b => return if isDigit b then some (b.toNat - 0x30) else none
  | none => return none

def skipDigits : Reader Unit :=
  loop (fun _ => do
    match ← peekDigit with
    | some _ =>
      discard
      return .inl ()
    | none => return .inr ()) ()

def peekIsExponent : Reader Bool := do
  match ← peek with
  | some b => return b == 0x65 || b == 0x45
  | none => return false

def greatestSignificand : Nat := Nat.pow 2 64 - 1

def greatestExponent : Nat := Nat.pow 2 31 - 1

/-- Divides by `10 ^ k` in steps of at most `10 ^ 308`. -/
def scaleDown (x : Magnitude) (k : Nat) : Magnitude :=
  if k ≤ 308 then x.div (Magnitude.powerOfTen k)
  else if x.isZero then x
  else scaleDown (x.div (Magnitude.powerOfTen 308)) (k - 308)
termination_by k

/-- `significand * 10 ^ exponent`, if it is finite. -/
def float (negative : Bool) (significand : Nat) (exponent : Int) : Reader Number := do
  let x := Magnitude.ofNat significand
  if exponent < 0 then
    return .float (.number negative (scaleDown x exponent.natAbs))
  else if 308 < exponent then
    if x.isZero then return .float (.number negative x) else fail .numberOutOfRange
  else
    match x.mul (Magnitude.powerOfTen exponent.toNat) with
    | .infinite => fail .numberOutOfRange
    | y => return .float (.number negative y)

/-- The digits of an exponent after the first; `none` if they denote more than an exponent may. The
last digit looked at in that case is consumed. -/
def exponentDigits (first : Nat) : Reader (Option Nat) :=
  loop (fun e => do
    match ← peekDigit with
    | some d =>
      discard
      if greatestExponent < e * 10 + d then return .inr none else return .inl (e * 10 + d)
    | none => return .inr (some e)) first

/-- The sign of an exponent, if it has one, and whether it is a minus. -/
def exponentSign : Reader Bool := do
  match ← peek with
  | some 0x2B =>
    discard
    return false
  | some 0x2D =>
    discard
    return true
  | _ => return false

/-- An exponent, whose letter has been looked at. -/
def exponentPart (negative : Bool) (significand : Nat) (scale : Int) : Reader Number := do
  discard
  let minus ← exponentSign
  match ← next with
  | none => fail .endInValue
  | some b =>
    if isDigit b then
      match ← exponentDigits (b.toNat - 0x30) with
      | some e => float negative significand (if minus then scale - e else scale + e)
      | none =>
        if significand ≠ 0 ∧ ¬minus then fail .numberOutOfRange
        else
          skipDigits
          return .float (.number negative Magnitude.zero)
    else fail .invalidNumber

def exponentOrEnd (negative : Bool) (significand : Nat) (scale : Int) : Reader Number := do
  if ← peekIsExponent then exponentPart negative significand scale
  else float negative significand scale

/-- Gathers digits while the significand has room. Gives the significand, the number of digits gathered
and whether a digit was left for want of room. -/
def gather (significand : Nat) : Reader (Nat × Nat × Bool) :=
  loop (fun (s : Nat × Nat) => do
    match ← peekDigit with
    | some d =>
      if greatestSignificand < s.1 * 10 + d then return .inr (s.1, s.2, true)
      else
        discard
        return .inl (s.1 * 10 + d, s.2 + 1)
    | none => return .inr (s.1, s.2, false)) (significand, 0)

/-- The digits after a point, which has been looked at. Digits without room are dropped. -/
def fraction (negative : Bool) (significand : Nat) (scale : Int) : Reader Number := do
  discard
  let (significand, count, full) ← gather significand
  if full then
    skipDigits
    exponentOrEnd negative significand (scale - count)
  else if count = 0 then
    match ← peek with
    | some _ => fail .invalidNumber
    | none => fail .endInValue
  else exponentOrEnd negative significand (scale - count)

/-- Counts digits and drops them. -/
def countDigits : Reader Nat :=
  loop (fun n => do
    match ← peekDigit with
    | some _ =>
      discard
      return .inl (n + 1)
    | none => return .inr n) 0

/-- Whole digits beyond 64 bits count in the exponent. -/
def longNumber (negative : Bool) (significand : Nat) : Reader Number := do
  let count ← countDigits
  match ← peek with
  | some 0x2E => fraction negative significand count
  | _ => exponentOrEnd negative significand count

/-- A minus sign before zero, or before more than 64 bits can hold, makes a double. -/
def wholeNumber (negative : Bool) (significand : Nat) : Number :=
  if ¬negative then .integer significand
  else if significand = 0 ∨ Nat.pow 2 63 < significand then
    .float (.number true (Magnitude.ofNat significand))
  else .integer (-significand)

def afterWhole (negative : Bool) (significand : Nat) : Reader Number := do
  match ← peek with
  | some 0x2E => fraction negative significand 0
  | _ =>
    if ← peekIsExponent then exponentPart negative significand 0
    else return wholeNumber negative significand

/-- A number after its sign. A zero stands alone before the point. -/
def number (negative : Bool) : Reader Number := do
  match ← next with
  | none => fail .endInValue
  | some b =>
    if b = 0x30 then
      match ← peekDigit with
      | some _ => fail .invalidNumber
      | none => afterWhole negative 0
    else if isDigit b then
      let (significand, _, full) ← gather (b.toNat - 0x30)
      if full then longNumber negative significand else afterWhole negative significand
    else fail .invalidNumber

/-! ## Typed scalars -/

/-- Reads what stands in place of an expected value and names it. Brackets are not opened. -/
def mismatch (expected : String) (first : UInt8) : Reader α :=
  stamp do
    if first = 0x6E then
      discard
      restOfNull
      raise (.wrongType .null expected)
    else if first = 0x74 then
      discard
      restOfTrue
      raise (.wrongType (.boolean true) expected)
    else if first = 0x66 then
      discard
      restOfFalse
      raise (.wrongType (.boolean false) expected)
    else if first = 0x2D then
      discard
      let n ← number true
      raise (.wrongType n.found expected)
    else if isDigit first then
      let n ← number false
      raise (.wrongType n.found expected)
    else if first = 0x22 then
      discard
      let s ← restOfString
      raise (.wrongType (.text s) expected)
    else if first = 0x5B then raise (.wrongType .list expected)
    else if first = 0x7B then raise (.wrongType .object expected)
    else fail .expectedValue

def text (expected : String) : Reader String := do
  let b ← valueStart
  if b = 0x22 then
    discard
    restOfString
  else mismatch expected b

/-- A string that satisfies a rule of the data model; a refusal gets its place from the enclosing
value. -/
def textSuch (expected : String) (parse : String → Except String α) : Reader α := do
  let s ← text expected
  match parse s with
  | .ok a => return a
  | .error reason => raise (.refused reason)

def boolean : Reader Bool := do
  let b ← valueStart
  if b = 0x74 then
    discard
    restOfTrue
    return true
  else if b = 0x66 then
    discard
    restOfFalse
    return false
  else mismatch "a boolean" b

def checkInteger (expected : String) (low high : Int) : Number → Reader Int
  | .integer n => if low ≤ n ∧ n ≤ high then Reader.pure n else stamp (raise (.wrongValue n expected))
  | .float x => stamp (raise (.wrongType (.float x) expected))

/-- An integer from `low` to `high`. -/
def integer (expected : String) (low high : Int) : Reader Int := do
  let b ← valueStart
  if b = 0x2D then
    discard
    let n ← number true
    checkInteger expected low high n
  else if isDigit b then
    let n ← number false
    checkInteger expected low high n
  else mismatch expected b

def unit : Reader Unit := do
  let b ← valueStart
  if b = 0x6E then
    discard
    restOfNull
  else mismatch "unit" b

/-- `null` or a value. -/
def orNull (r : Reader α) : Reader (Option α) := do
  match ← skipBlanks with
  | some 0x6E =>
    discard
    restOfNull
    return none
  | _ =>
    let a ← r
    return some a

end Reader

end WireSchema.Json
