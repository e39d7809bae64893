/-!
Tokens of the generated language. Brackets are matched when the text is cut into tokens, so a text is a
forest: a group holds the trees between its brackets.
-/

namespace WireSchema.Grammar

/-- Lines count from one and columns, in characters, from zero. -/
structure Location where
  line : Nat
  column : Nat
  deriving DecidableEq, Repr

/-- Where a text begins. -/
def Location.start : Location := ⟨1, 0⟩

inductive Delimiter where
  | paren
  | bracket
  | brace
  deriving DecidableEq, Repr

inductive Tree where
  /-- An identifier or keyword; a raw one keeps its `r#`. -/
  | word (text : String) (place : Location)
  /-- One sign; `joint` if another sign follows at once. -/
  | sign (char : Char) (joint : Bool) (place : Location)
  | lifetime (place : Location)
  /-- A literal. The text is kept of numbers only. -/
  | literal (text : String) (place : Location)
  | group (delimiter : Delimiter) (content : List Tree) (opening closing : Location)
  deriving Repr

def Tree.place : Tree → Location
  | .word _ p => p
  | .sign _ _ p => p
  | .lifetime p => p
  | .literal _ p => p
  | .group _ _ p _ => p

/-- The characters of a text with their places. -/
abbrev Chars := List (Char × Location)

def locateFrom : Location → List Char → Chars
  | _, [] => []
  | p, c :: cs =>
    (c, p) :: locateFrom (if c = '\n' then ⟨p.line + 1, 0⟩ else ⟨p.line, p.column + 1⟩) cs

def locate (cs : List Char) : Chars :=
  locateFrom Location.start cs

end WireSchema.Grammar
