/-!
Numerals in a radix from 2 to 36, with digits `0` to `9` and then letters. Writing uses small
letters; reading takes letters of either case and has no sign, no separator and no limit of size.
-/

namespace WireSchema.Text.Numeral

def digit (d : Nat) : Char :=
  if d < 10 then Char.ofNat (48 + d) else Char.ofNat (87 + d)

/-- `fuel` bounds the number of digits. -/
def digitsWith (radix : Nat) : Nat → Nat → List Char
  | 0, n => [digit (n % radix)]
  | fuel + 1, n =>
    if n < radix then [digit n] else digitsWith radix fuel (n / radix) ++ [digit (n % radix)]

/-- The digits of `n`, most significant first. -/
def digits (radix n : Nat) : List Char :=
  digitsWith radix n n

def ofNat (radix n : Nat) : String :=
  String.ofList (digits radix n)

/-- A minus sign and the digits of the absolute value. -/
def ofInt (radix : Nat) (n : Int) : String :=
  if n < 0 then String.ofList ('-' :: digits radix n.natAbs) else ofNat radix n.natAbs

def decimal (n : Int) : String :=
  ofInt 10 n

def digitValue? (radix : Nat) (c : Char) : Option Nat :=
  let d :=
    if '0' ≤ c ∧ c ≤ '9' then some (c.toNat - 48)
    else if 'a' ≤ c ∧ c ≤ 'z' then some (c.toNat - 87)
    else if 'A' ≤ c ∧ c ≤ 'Z' then some (c.toNat - 55)
    else none
  d.filter (· < radix)

/-- Continues a numeral whose digits so far denote `acc`. -/
def valueFrom (radix : Nat) : Nat → List Char → Option Nat
  | acc, [] => some acc
  | acc, c :: cs => (digitValue? radix c).bind fun d => valueFrom radix (acc * radix + d) cs

/-- The number that a nonempty list of digits denotes. -/
def value? (radix : Nat) : List Char → Option Nat
  | [] => none
  | cs => valueFrom radix 0 cs

end WireSchema.Text.Numeral
