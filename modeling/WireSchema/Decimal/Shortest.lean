import WireSchema.Decimal.Binary64

/-!
The fewest decimal digits that read back as a given number. The numbers that round to
`m * 2 ^ e` form an interval around it, with its ends when the mantissa is even. On the grid of the
decimals with `n` digits, `n = 1, 2, …`, only the two neighbours of the value can be nearest to it; the
first grid with a neighbour in the interval gives the answer, and of two such neighbours the nearer.
-/

namespace WireSchema.Decimal

/-- `digits * 10 ^ exponent`. -/
structure Scaled where
  digits : Nat
  exponent : Int
  deriving DecidableEq, Repr

/-- The interval of a magnitude in units of a common denominator: lower end, value and upper end over
`den`, and whether the ends belong to it. -/
structure Interval where
  lower : Nat
  value : Nat
  upper : Nat
  den : Nat
  closed : Bool

/-- Below a power of two the next number down is only half as far away. -/
def Interval.ofMagnitude (m : Nat) (e : Int) : Interval :=
  let atPower := m == Nat.pow 2 52 && Magnitude.leastExponent < e
  let (num, den) := Magnitude.ratio 1 e
  { lower := (4 * m - (if atPower then 1 else 2)) * num
    value := 4 * m * num
    upper := (4 * m + 2) * num
    den := 4 * den
    closed := m % 2 == 0 }

/-- `d * 10 ^ k`, as numerator and denominator. -/
def Scaled.ratio (d : Nat) (k : Int) : Nat × Nat :=
  if 0 ≤ k then (d * Nat.pow 10 k.toNat, 1) else (d, Nat.pow 10 (-k).toNat)

def Interval.holds (i : Interval) (d : Nat) (k : Int) : Bool :=
  let (a, b) := Scaled.ratio d k
  if i.closed then i.lower * b ≤ a * i.den && a * i.den ≤ i.upper * b
  else i.lower * b < a * i.den && a * i.den < i.upper * b

/-- The greatest `k ≤ start` with `10 ^ k ≤ num / den`, if it lies within `fuel` steps. -/
def leadingExponent (num den : Nat) : Nat → Int → Int
  | 0, k => k
  | fuel + 1, k =>
    let (a, b) := Scaled.ratio 1 k
    if a * den ≤ num * b then k else leadingExponent num den fuel (k - 1)

/-- The exponent of the first digit of the value. The start is an upper estimate, since
`log2 10 > 3`. -/
def Interval.leading (i : Interval) : Int :=
  let bits := (Nat.log2 i.value : Int) - Nat.log2 i.den + 1
  let start := if 0 ≤ bits then bits * 30103 / 100000 + 1 else bits * 30102 / 100000 + 1
  leadingExponent i.value i.den 4 start

/-- The neighbour in the interval nearest to the value on the grid `10 ^ k`; a tie goes to the upper
one. -/
def Interval.onGrid (i : Interval) (k : Int) : Option Nat :=
  let (a, b) := Scaled.ratio 1 k
  let below := i.value * b / (i.den * a)
  let rest := i.value * b - below * (i.den * a)
  let low := i.holds below k && below != 0
  let high := i.holds (below + 1) k
  if low && high then some (if 2 * rest < i.den * a then below else below + 1)
  else if low then some below
  else if high then some (below + 1)
  else none

def Interval.search (i : Interval) (leading : Int) : Nat → Nat → Scaled
  | 0, n => ⟨i.value / i.den, n⟩
  | fuel + 1, n =>
    let k := leading - n
    match i.onGrid k with
    | some d => ⟨d, k⟩
    | none => i.search leading fuel (n + 1)

def dropZeros : Nat → Nat → Int → Scaled
  | 0, d, k => ⟨d, k⟩
  | fuel + 1, d, k => if d % 10 = 0 then dropZeros fuel (d / 10) (k + 1) else ⟨d, k⟩

/-- The shortest decimal of a finite magnitude that is not zero; seventeen digits always suffice. -/
def shortest (m : Nat) (e : Int) : Scaled :=
  let i := Interval.ofMagnitude m e
  let d := i.search i.leading 18 0
  dropZeros 20 d.digits d.exponent

end WireSchema.Decimal
