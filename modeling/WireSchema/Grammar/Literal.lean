import WireSchema.Grammar.Token
import WireSchema.Text.IdentifierChar
import WireSchema.Text.Numeral

/-!
Literals of the generated language. Each function reads a literal at the front of a text and gives the text
after it, or nothing if there is no such literal. A name may follow a literal as its suffix.
-/

namespace WireSchema.Grammar

open WireSchema.Text

/-- What follows an identifier at the front. -/
def afterName? : Chars → Option Chars
  | (c, _) :: rest =>
    if isIdentifierStart c then some (rest.dropWhile fun x => isIdentifierRest x.1) else none
  | [] => none

def afterSuffix (cs : Chars) : Chars :=
  (afterName? cs).getD cs

/-- What follows the given characters. -/
def after? : List Char → Chars → Option Chars
  | [], cs => some cs
  | _ :: _, [] => none
  | c :: expected, (d, _) :: cs => if c = d then after? expected cs else none

def startsWith (expected : List Char) (cs : Chars) : Bool :=
  (after? expected cs).isSome

def isHex (c : Char) : Bool :=
  (Numeral.digitValue? 16 c).isSome

/-! ## Strings and characters -/

/-- After `\x`: two hexadecimal digits; for a character the value is below 128. -/
def afterHexEscape (ascii : Bool) : Chars → Option Chars
  | (a, _) :: (b, _) :: rest =>
    if isHex a && isHex b && (!ascii || ('0' ≤ a && a ≤ '7')) then some rest else none
  | _ => none

/-- The digits of `\u{…}` with their value and number so far. -/
def afterCodeDigits : Nat → Nat → Chars → Option Chars
  | _, _, [] => none
  | value, count, (c, _) :: rest =>
    match Numeral.digitValue? 16 c with
    | some d => if count = 6 then none else afterCodeDigits (value * 16 + d) (count + 1) rest
    | none =>
      if count = 0 then none
      else if c = '_' then afterCodeDigits value count rest
      else if c = '}' then if value.isValidChar then some rest else none
      else none

def afterCodeEscape (cs : Chars) : Option Chars :=
  (after? ['{'] cs).bind (afterCodeDigits 0 0)

/-- What kind of characters a string or character literal holds. -/
inductive TextKind where
  | chars
  | bytes
  | cstring
  deriving DecidableEq

def isSimpleEscape (kind : TextKind) (c : Char) : Bool :=
  c == 'n' || c == 'r' || c == 't' || c == '\\' || c == '\'' || c == '"' ||
    (c == '0' && kind != .cstring)

/-- After a backslash. -/
def afterEscape (kind : TextKind) : Chars → Option Chars
  | (c, _) :: rest =>
    if c = 'x' then afterHexEscape (kind == .chars) rest
    else if c = 'u' then if kind = .bytes then none else afterCodeEscape rest
    else if isSimpleEscape kind c then some rest
    else none
  | [] => none

/-- After a backslash at the end of a line, blanks are passed over; a carriage return is followed by a line
feed. -/
def afterContinuation : Chars → Option Chars
  | [] => none
  | ('\r', _) :: ('\n', _) :: rest => afterContinuation rest
  | (c, p) :: rest =>
    if c = '\r' then none
    else if c = ' ' ∨ c = '\t' ∨ c = '\n' then afterContinuation rest
    else some ((c, p) :: rest)

/-- The rest of a quoted string. -/
def afterString (kind : TextKind) : Nat → Chars → Option Chars
  | 0, _ => none
  | _ + 1, [] => none
  | fuel + 1, (c, _) :: rest =>
    if c = '"' then some (afterSuffix rest)
    else if c = '\r' then (after? ['\n'] rest).bind (afterString kind fuel)
    else if c = '\\' then
      match rest with
      | ('\n', _) :: _ => (afterContinuation rest).bind (afterString kind fuel)
      | ('\r', _) :: _ => (afterContinuation rest).bind (afterString kind fuel)
      | _ => (afterEscape kind rest).bind (afterString kind fuel)
    else if kind = .bytes ∧ 0x80 ≤ c.toNat then none
    else if kind = .cstring ∧ c = '\x00' then none
    else afterString kind fuel rest

/-- The number of `#` and what follows the quote after them. -/
def rawDelimiter : Nat → Chars → Option (Nat × Chars)
  | n, ('"', _) :: rest => if 255 < n then none else some (n, rest)
  | n, ('#', _) :: rest => rawDelimiter (n + 1) rest
  | _, _ => none

/-- The rest of a raw string with `n` signs `#` after its closing quote. -/
def afterRaw (kind : TextKind) (n : Nat) : Chars → Option Chars
  | [] => none
  | ('\r', _) :: ('\n', _) :: rest => afterRaw kind n rest
  | (c, _) :: rest =>
    if c = '"' then
      match after? (List.replicate n '#') rest with
      | some rest => some (afterSuffix rest)
      | none => afterRaw kind n rest
    else if c = '\r' then none
    else if kind = .bytes ∧ 0x80 ≤ c.toNat then none
    else if kind = .cstring ∧ c = '\x00' then none
    else afterRaw kind n rest

def afterRawString (kind : TextKind) (cs : Chars) : Option Chars :=
  (rawDelimiter 0 cs).bind fun d => afterRaw kind d.1 d.2

/-- A string with its letters in front. -/
def stringLiteral? (cs : Chars) : Option Chars :=
  let quoted (letters : List Char) (kind : TextKind) : Option Chars :=
    (after? (letters ++ ['"']) cs).bind fun rest => afterString kind (rest.length + 1) rest
  let raw (letters : List Char) (kind : TextKind) : Option Chars :=
    (after? letters cs).bind (afterRawString kind)
  match cs with
  | ('"', _) :: _ => quoted [] .chars
  | ('r', _) :: _ => raw ['r'] .chars
  | ('b', _) :: _ => (quoted ['b'] .bytes).or (raw ['b', 'r'] .bytes)
  | ('c', _) :: _ => (quoted ['c'] .cstring).or (raw ['c', 'r'] .cstring)
  | _ => none

/-- The rest of a character literal. -/
def afterChar (kind : TextKind) : Chars → Option Chars
  | [] => none
  | (c, _) :: rest =>
    let inside :=
      if c = '\\' then afterEscape kind rest
      else if kind = .bytes ∧ 0x80 ≤ c.toNat then none
      else some rest
    inside.bind fun rest => (after? ['\''] rest).map afterSuffix

def charLiteral? (cs : Chars) : Option Chars :=
  match after? ['b', '\''] cs with
  | some rest => afterChar .bytes rest
  | none => (after? ['\''] cs).bind (afterChar .chars)

/-! ## Numbers -/

def isDecimal (c : Char) : Bool :=
  '0' ≤ c && c ≤ '9'

/-- No identifier character may follow a number and its suffix. -/
def wordBreak (cs : Chars) : Option Chars :=
  match cs with
  | (c, _) :: _ => if isIdentifierRest c then none else some cs
  | [] => some cs

/-- A point is part of a number unless another point or a name follows it. -/
def isPointBreak : Chars → Bool
  | (c, _) :: _ => c == '.' || isIdentifierStart c
  | [] => false

/-- The part of a number after an exponent's letter. `fallback` is where the number ends if there is no
exponent after all. -/
def afterExponent (fallback : Option Chars) : Bool → Bool → Chars → Option Chars
  | sign, value, (c, p) :: rest =>
    if c = '+' ∨ c = '-' then
      if value then some ((c, p) :: rest)
      else if sign then fallback
      else afterExponent fallback true value rest
    else if isDecimal c then afterExponent fallback sign true rest
    else if c = '_' then afterExponent fallback sign value rest
    else if value then some ((c, p) :: rest) else fallback
  | _, value, [] => if value then some [] else fallback

/-- The digits of a number with a point or an exponent, after the first digit. -/
def afterFloatDigits : Bool → Chars → Option Chars
  | hasPoint, [] => if hasPoint then some [] else none
  | hasPoint, (c, p) :: rest =>
    if isDecimal c || c == '_' then afterFloatDigits hasPoint rest
    else if c = '.' then
      if hasPoint then some ((c, p) :: rest)
      else if isPointBreak rest then none
      else afterFloatDigits true rest
    else if c = 'e' ∨ c = 'E' then
      afterExponent (if hasPoint then some ((c, p) :: rest) else none) false false rest
    else if hasPoint then some ((c, p) :: rest)
    else none

def floatLiteral? (cs : Chars) : Option Chars :=
  match cs with
  | (c, _) :: rest =>
    if isDecimal c then (afterFloatDigits false rest).bind fun r => wordBreak (afterSuffix r)
    else none
  | [] => none

/-- The digits of a whole number; `empty` before the first one. -/
def afterDigits (radix : Nat) : Bool → Chars → Option Chars
  | empty, [] => if empty then none else some []
  | empty, (c, p) :: rest =>
    if c = '_' then
      if empty && radix == 10 then none else afterDigits radix empty rest
    else if isDecimal c then
      if (Numeral.digitValue? radix c).isSome then afterDigits radix false rest else none
    else if (Numeral.digitValue? radix c).isSome then afterDigits radix false rest
    else if empty then none
    else some ((c, p) :: rest)

def intLiteral? (cs : Chars) : Option Chars :=
  let digits :=
    match cs with
    | ('0', _) :: ('x', _) :: rest => afterDigits 16 true rest
    | ('0', _) :: ('o', _) :: rest => afterDigits 8 true rest
    | ('0', _) :: ('b', _) :: rest => afterDigits 2 true rest
    | _ => afterDigits 10 true cs
  digits.bind fun r => wordBreak (afterSuffix r)

def numberLiteral? (cs : Chars) : Option Chars :=
  (floatLiteral? cs).or (intLiteral? cs)

/-- The characters before `rest`. -/
def textBefore (rest : Chars) (cs : Chars) : String :=
  match rest with
  | [] => String.ofList (cs.map (·.1))
  | (_, p) :: _ => String.ofList ((cs.takeWhile fun x => x.2 != p).map (·.1))

end WireSchema.Grammar
