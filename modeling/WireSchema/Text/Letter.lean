import WireSchema.Text.CaseTable

/-!
Letter case. A character is mapped on its own, without regard to its neighbours, to the full form of
the other case, which may be more than one character.
-/

namespace WireSchema.Text

def inRun (n : Nat) (run : Nat × Nat × Nat) : Bool :=
  run.1 ≤ n && n ≤ run.2.1 && (n - run.1) % run.2.2 == 0

def isUppercase (c : Char) : Bool :=
  if c.toNat < 0x80 then c.isUpper else CaseTable.uppercaseRuns.any (inRun c.toNat)

def isLowercase (c : Char) : Bool :=
  if c.toNat < 0x80 then c.isLower else CaseTable.lowercaseRuns.any (inRun c.toNat)

/-- Looks a code point up among the expansions and then among the shifted runs; a code point in
neither maps to itself. -/
def mapCase (expansions : List (Nat × List Nat)) (runs : List (Nat × Nat × Nat × Int)) (c : Char) :
    List Char :=
  match expansions.lookup c.toNat with
  | some ns => ns.map Char.ofNat
  | none =>
    match runs.find? fun run => inRun c.toNat (run.1, run.2.1, run.2.2.1) with
    | some run => [Char.ofNat (c.toNat + run.2.2.2).toNat]
    | none => [c]

def lowercase (c : Char) : List Char :=
  if c.toNat < 0x80 then [c.toLower]
  else mapCase CaseTable.lowerExpansions CaseTable.toLowerRuns c

def uppercase (c : Char) : List Char :=
  if c.toNat < 0x80 then [c.toUpper]
  else mapCase CaseTable.upperExpansions CaseTable.toUpperRuns c

end WireSchema.Text
