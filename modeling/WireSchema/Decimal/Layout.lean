import WireSchema.Decimal.Shortest
import WireSchema.Text.Numeral

/-!
Texts of double-precision numbers. Digits come from one of two sources: the shortest decimal that reads
back, or the exact value rounded to a number of places with a tie to the even digit. A layout says where
positional notation ends and how the exponent is written.
-/

namespace WireSchema.Decimal

open WireSchema.Text

/-- How a shortest decimal is written. -/
structure Layout where
  /-- Positional notation is used when the exponent of the first digit is at least this … -/
  leastPositional : Option Int
  /-- … and at most this; without a bound there is no limit. -/
  greatestPositional : Option Int
  /-- A whole number in positional notation ends in `.0`. -/
  pointZero : Bool
  /-- An exponent that is not negative has a plus sign. -/
  plusSign : Bool
  /-- The exponent has at least this many digits. -/
  exponentWidth : Nat

/-- Never an exponent, and no point in a whole number. -/
def Layout.positional : Layout := ⟨none, none, false, false, 1⟩

/-- Positional from `1e-4` up to but not including `1e16`. -/
def Layout.literal : Layout := ⟨some (-4), some 15, true, false, 1⟩

/-- Always an exponent. -/
def Layout.scientific : Layout := ⟨some 1, some 0, false, false, 1⟩

/-- The form of numbers in messages about documents: positional from `1e-5` up to but not including
`1e16`, otherwise an exponent with its sign. -/
def Layout.report : Layout := ⟨some (-5), some 15, true, true, 2⟩

def zeros (n : Nat) : List Char :=
  List.replicate n '0'

/-- Digits with the first `point` of them before the decimal point. -/
def placePoint (digits : List Char) (point : Int) (pointZero : Bool) : List Char :=
  if point ≤ 0 then '0' :: '.' :: zeros (-point).toNat ++ digits
  else if digits.length ≤ point.toNat then
    digits ++ zeros (point.toNat - digits.length) ++ (if pointZero then ['.', '0'] else [])
  else digits.take point.toNat ++ '.' :: digits.drop point.toNat

def exponentText (layout : Layout) (k : Int) : List Char :=
  let digits := Numeral.digits 10 k.natAbs
  let sign := if k < 0 then ['-'] else if layout.plusSign then ['+'] else []
  'e' :: sign ++ zeros (layout.exponentWidth - digits.length) ++ digits

def Layout.isPositional (layout : Layout) (leading : Int) : Bool :=
  layout.leastPositional.all (· ≤ leading) && layout.greatestPositional.all (leading ≤ ·)

/-- The first digit, and the others after a point. -/
def mantissaText : List Char → List Char
  | [] => []
  | [d] => [d]
  | d :: ds => d :: '.' :: ds

def Layout.writeScaled (layout : Layout) (d : Scaled) : List Char :=
  let digits := Numeral.digits 10 d.digits
  let leading := d.exponent + digits.length - 1
  if layout.isPositional leading then placePoint digits (leading + 1) layout.pointZero
  else mantissaText digits ++ exponentText layout leading

/-- Zero has the exponent zero. -/
def Layout.writeZero (layout : Layout) : List Char :=
  if layout.isPositional 0 then (if layout.pointZero then ['0', '.', '0'] else ['0'])
  else '0' :: exponentText layout 0

def withSign (negative : Bool) (cs : List Char) : String :=
  String.ofList (if negative then '-' :: cs else cs)

def Layout.write (layout : Layout) : Binary64 → String
  | .nan => "NaN"
  | .number negative .infinite => withSign negative ['i', 'n', 'f']
  | .number negative (.finite m e) =>
    withSign negative (if m = 0 then layout.writeZero else layout.writeScaled (shortest m e))

/-- The exact value with `places` digits after the point. -/
def fixedDigits (m : Nat) (e : Int) (places : Nat) : List Char :=
  let (num, den) := Magnitude.ratio m e
  let digits := Numeral.digits 10 (Magnitude.roundDiv (num * Nat.pow 10 places) den)
  let digits := zeros (places + 1 - digits.length) ++ digits
  if places = 0 then digits
  else digits.take (digits.length - places) ++ '.' :: digits.drop (digits.length - places)

/-- The exact value with one digit before the point, `places` after it, and an exponent. Rounding up
may give one digit more, and then the exponent grows. -/
def scientificDigits (m : Nat) (e : Int) (places : Nat) : List Char :=
  if m = 0 then mantissaText (zeros (places + 1)) ++ ['e', '0']
  else
    let leading := (Interval.ofMagnitude m e).leading
    let (num, den) := Magnitude.ratio m e
    let (a, b) := Scaled.ratio 1 (leading - places)
    let q := Magnitude.roundDiv (num * b) (den * a)
    let (q, leading) :=
      if q = Nat.pow 10 (places + 1) then (Nat.pow 10 places, leading + 1) else (q, leading)
    mantissaText (Numeral.digits 10 q) ++ exponentText Layout.scientific leading

/-- Writes a number with a fixed count of places; texts without digits ignore the count. -/
def writeExact (digits : Nat → Int → List Char) : Binary64 → String
  | .nan => "NaN"
  | .number negative .infinite => withSign negative ['i', 'n', 'f']
  | .number negative (.finite m e) => withSign negative (digits m e)

def writeFixed (places : Nat) : Binary64 → String :=
  writeExact fun m e => fixedDigits m e places

def writeScientific (places : Nat) : Binary64 → String :=
  writeExact fun m e => scientificDigits m e places

end WireSchema.Decimal
