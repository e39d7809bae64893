import WireSchema.Decimal.Layout
import WireSchema.Source.Line
import WireSchema.Text.Quoted

/-!
A sheet of source text that indents itself. Before the first character of a line it puts four spaces for
each open level, one level less if that character closes a block. When a line is finished its effect on the
depth is taken into account.
-/

namespace WireSchema.Source

open WireSchema.Text WireSchema.Decimal

/-- The text so far and the unfinished line as it was written, both newest character first. -/
structure Sheet where
  reversed : List Char := []
  line : List Char := []
  depth : Nat := 0
  deriving DecidableEq, Repr

/-- How the digits of a number are chosen. -/
inductive NumberForm where
  | literal
  | decimal (places : Option Nat)
  | exponent (places : Option Nat)
  deriving DecidableEq, Repr

def numberText : NumberForm → Binary64 → String
  | .literal => Layout.literal.write
  | .decimal none => Layout.positional.write
  | .decimal (some places) => writeFixed places
  | .exponent none => Layout.scientific.write
  | .exponent (some places) => writeScientific places

namespace Sheet

def empty : Sheet := {}

def text (s : Sheet) : String :=
  String.ofList s.reversed.reverse

/-- The number of levels before a line that begins with `c`. -/
def levels (s : Sheet) (c : Char) : Nat :=
  if c = '}' then s.depth - 1 else s.depth

def indentation (levels : Nat) : List Char :=
  List.replicate (4 * levels) ' '

def put (s : Sheet) (c : Char) : Sheet :=
  if c = '\n' then
    { reversed := '\n' :: s.reversed, line := [], depth := (delta s.line.reverse).apply s.depth }
  else
    let before := if s.line.isEmpty then indentation (s.levels c) else []
    { s with reversed := c :: (before ++ s.reversed), line := c :: s.line }

def write (s : Sheet) (text : String) : Sheet :=
  text.toList.foldl put s

def writeLine (s : Sheet) (text : String) : Sheet :=
  (s.write text).put '\n'

def writeBool (s : Sheet) (b : Bool) : Sheet :=
  s.write (if b then "true" else "false")

def writeInt (s : Sheet) (radix : Nat) (n : Int) : Sheet :=
  s.write (Numeral.ofInt radix n)

def writeNat (s : Sheet) (radix : Nat) (n : Nat) : Sheet :=
  s.write (Numeral.ofNat radix n)

def writeFloat (s : Sheet) (form : NumberForm) (x : Binary64) : Sheet :=
  s.write (numberText form x)

def writeQuoted (s : Sheet) (text : String) : Sheet :=
  s.write (Quoted.encode text)

end Sheet

def banner : String := "// Code generated by kafkagen. DO NOT EDIT."

/-- A sheet with the banner and the given opening lines. -/
def Sheet.withPrelude (prelude : String) : Sheet :=
  let s := Sheet.empty.write (banner ++ "\n\n")
  if prelude.isEmpty then s
  else
    let s := s.write prelude
    if prelude.toList.getLast? = some '\n' then s else s.put '\n'

end WireSchema.Source
