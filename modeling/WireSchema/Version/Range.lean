import WireSchema.Text.Numeral

/-!
Ranges of protocol versions. A version is a 16-bit integer. A range is written `2-5`, `3+`, `4` or `none`;
the upper bound `-1` stands for no bound, and the lower bound `-1` for the empty range.
-/

namespace WireSchema.Version

open WireSchema.Text

structure Range where
  min : Int16
  max : Int16
  deriving DecidableEq, Repr

/-- The bound that is no version. -/
def noVersion : Int16 := -1

namespace Range

def empty : Range := ⟨noVersion, noVersion⟩

def closed (min max : Int16) : Range := ⟨min, max⟩

def openFrom (min : Int16) : Range := ⟨min, noVersion⟩

def single (version : Int16) : Range := ⟨version, version⟩

def isEmpty (r : Range) : Bool :=
  r.min == noVersion

def isOpen (r : Range) : Bool :=
  !r.isEmpty && r.max == noVersion

def contains (r : Range) (version : Int16) : Bool :=
  !r.isEmpty && r.min ≤ version && (r.isOpen || version ≤ r.max)

/-- Why a text is no range. -/
inductive Flaw where
  | notNumber
  | outOfRange
  | reversed
  deriving DecidableEq, Repr

def Flaw.message : Flaw → String
  | .notNumber => "version is not a non-negative integer"
  | .outOfRange => "version out of range"
  | .reversed => "lower bound exceeds upper bound"

/-- A version is a nonempty sequence of decimal digits, at most 32767. -/
def parseVersion (cs : List Char) : Except Flaw Int16 :=
  match Numeral.value? 10 cs with
  | none => .error .notNumber
  | some n => if n ≤ 32767 then .ok (Int16.ofNat n) else .error .outOfRange

/-- The characters before and after the first `-`. -/
def splitDash : List Char → Option (List Char × List Char)
  | [] => none
  | c :: cs => if c = '-' then some ([], cs) else (splitDash cs).map fun p => (c :: p.1, p.2)

/-- The characters before a final `+`. -/
def dropPlus? (cs : List Char) : Option (List Char) :=
  if cs.getLast? = some '+' then some cs.dropLast else none

def parseChars (cs : List Char) : Except Flaw Range :=
  match splitDash cs with
  | some (low, high) => do
    let min ← parseVersion low
    let max ← parseVersion high
    if max < min then .error .reversed else .ok (closed min max)
  | none =>
    match dropPlus? cs with
    | some low => (parseVersion low).map openFrom
    | none =>
      if cs = ['n', 'o', 'n', 'e'] then .ok empty else (parseVersion cs).map single

def parse (text : String) : Except Flaw Range :=
  parseChars text.toList

def render (r : Range) : String :=
  if r.isEmpty then "none"
  else if r.isOpen then Numeral.decimal r.min.toInt ++ "+"
  else if r.min == r.max then Numeral.decimal r.min.toInt
  else Numeral.decimal r.min.toInt ++ "-" ++ Numeral.decimal r.max.toInt

end Range

end WireSchema.Version
