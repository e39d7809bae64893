/-!
Double-precision numbers as exact arithmetic on natural numbers. A finite magnitude is
`mantissa * 2 ^ exponent` with the mantissa below `2 ^ 53`; it is normal (the mantissa has all 53 bits)
or has the least exponent. Every operation computes the exact quotient and rounds it once, to the
nearest magnitude, a tie to the even mantissa.
-/

namespace WireSchema.Decimal

/-- A number without its sign. -/
inductive Magnitude where
  | finite (mantissa : Nat) (exponent : Int)
  | infinite
  deriving DecidableEq, Repr

namespace Magnitude

def leastExponent : Int := -1074

def zero : Magnitude := .finite 0 leastExponent

/-- The quotient to the nearest integer, a tie to the even one. -/
def roundDiv (num den : Nat) : Nat :=
  let q := num / den
  let r := num % den
  if 2 * r < den then q
  else if den < 2 * r then q + 1
  else if q % 2 = 0 then q else q + 1

/-- The fraction `num / den * 2 ^ (-e)` as numerator and denominator. -/
def scale (num den : Nat) (e : Int) : Nat × Nat :=
  if 0 ≤ e then (num, den * Nat.pow 2 e.toNat) else (num * Nat.pow 2 (-e).toNat, den)

/-- The exponent at which `num / den` has a mantissa of 53 bits, or the least exponent. -/
def exponentOf (num den : Nat) : Int :=
  let e := (Nat.log2 num : Int) - Nat.log2 den - 52
  let (n, d) := scale num den e
  max leastExponent (if n / d < Nat.pow 2 52 then e - 1 else e)

/-- The magnitude nearest to `num / den`. -/
def ofRatio (num den : Nat) : Magnitude :=
  if num = 0 then zero
  else
    let e := exponentOf num den
    let (n, d) := scale num den e
    let m := roundDiv n d
    let (m, e) := if m = Nat.pow 2 53 then (Nat.pow 2 52, e + 1) else (m, e)
    if 971 < e then .infinite else .finite m e

def ofNat (n : Nat) : Magnitude :=
  ofRatio n 1

/-- Numerator and denominator of a finite magnitude. -/
def ratio (m : Nat) (e : Int) : Nat × Nat :=
  if 0 ≤ e then (m * Nat.pow 2 e.toNat, 1) else (m, Nat.pow 2 (-e).toNat)

/-- An infinite factor makes the product infinite. -/
def mul : Magnitude → Magnitude → Magnitude
  | .finite m e, .finite m' e' =>
    let (a, b) := ratio m e
    let (a', b') := ratio m' e'
    ofRatio (a * a') (b * b')
  | _, _ => .infinite

/-- The divisor is finite and not zero where this is used. -/
def div : Magnitude → Magnitude → Magnitude
  | .finite m e, .finite m' e' =>
    let (a, b) := ratio m e
    let (a', b') := ratio m' e'
    ofRatio (a * b') (b * a')
  | x, _ => x

def isZero : Magnitude → Bool
  | .finite 0 _ => true
  | _ => false

def powerOfTen (k : Nat) : Magnitude :=
  ofNat (Nat.pow 10 k)

end Magnitude

/-- A double-precision number. -/
inductive Binary64 where
  | number (negative : Bool) (magnitude : Magnitude)
  | nan
  deriving DecidableEq, Repr

/-- Reads the 64 bits: sign, eleven bits of exponent, 52 bits of fraction. -/
def Binary64.ofBits (bits : Nat) : Binary64 :=
  let fraction : Nat := bits % Nat.pow 2 52
  let biased : Nat := bits / Nat.pow 2 52 % Nat.pow 2 11
  let negative := bits / Nat.pow 2 63 % 2 == 1
  if biased = 2047 then
    if fraction = 0 then .number negative .infinite else .nan
  else if biased = 0 then .number negative (.finite fraction Magnitude.leastExponent)
  else .number negative (.finite (Nat.pow 2 52 + fraction) ((biased : Int) - 1075))

end WireSchema.Decimal
