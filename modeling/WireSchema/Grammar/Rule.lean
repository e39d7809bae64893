import WireSchema.Grammar.Cursor

/-!
The grammar is written with open recursion: a rule is recognized with the help of a recognizer for all rules,
and fuel ties the knot. Every nested use of a rule is one step deeper, and no text nests deeper than a few
times the number of its trees.
-/

namespace WireSchema.Grammar

/-- What is worth knowing about something that has been recognized. -/
inductive Kind where
  /-- An expression that ends a statement by its closing brace. -/
  | blockLike
  | comparison
  | range
  /-- A call by `!`, with its arguments in braces or not. -/
  | invocation (braced : Bool)
  /-- Any other expression. -/
  | plain
  /-- A path as a type; `single` if it is one name, perhaps with arguments in angle brackets. -/
  | path (single : Bool)
  /-- Any other type. -/
  | otherType
  | done
  deriving DecidableEq

/-- A statement made of such an expression needs a semicolon unless it is the last one. -/
def Kind.needsSemicolon : Kind → Bool
  | .blockLike => false
  | .invocation braced => !braced
  | _ => true

/-- A match arm with such an expression needs a comma unless it is the last one. -/
def Kind.needsComma : Kind → Bool
  | .blockLike => false
  | _ => true

/-- The recursive rules. `braces` says whether a brace after a path begins a record. -/
inductive Rule where
  | item
  | implItem
  | useTree (root : Bool)
  | type (plus : Bool)
  | arguments
  | pattern
  | expression (braces : Bool)
  | unary (braces : Bool)
  | operators (left : Kind) (braces : Bool) (base : Nat)
  | statements
  | earlyExpression
  deriving DecidableEq

abbrev Rules := Rule → Recognizer Kind

def Rules.run (rules : Rules) (r : Rule) : Recognizer Unit := do
  let _ ← rules r

end WireSchema.Grammar
