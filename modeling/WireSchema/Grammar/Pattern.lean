import WireSchema.Grammar.Type

/-!
Patterns.
-/

namespace WireSchema.Grammar

open Recognizer

/-- One pattern after another with bars between them. -/
def alternatives (rules : Rules) : Nat → Recognizer Unit
  | 0 => pure ()
  | fuel + 1 => do
    rules.run .pattern
    let ts ← ahead
    if isSigns "|" ts && !isSigns "||" ts && !isSigns "|=" ts then
      advance 1
      alternatives rules fuel

/-- Alternatives, perhaps with a bar before the first. -/
def patterns (rules : Rules) : Recognizer Unit := do
  let ts ← ahead
  if isSigns "|" ts && !isSigns "||" ts && !isSigns "|=" ts then advance 1
  alternatives rules ((← ahead).length + 1)

/-- A bound of a range. -/
def rangeBound (rules : Rules) : Recognizer Unit := do
  let ts ← ahead
  if isLiteral ts then literal
  else if isName ts || isOneOf ["self", "Self", "super", "crate"] ts || isSigns "::" ts ||
      isSigns "<" ts then
    let _ ← qualifiedPath rules true
  else if isWord "const" ts then
    advance 1
    inside .brace (rules.run .statements)
  else fail

def endsRangePattern (ts : List Tree) : Bool :=
  isEnd ts || isSigns "|" ts || isSigns "=" ts || (isSigns ":" ts && !isSigns "::" ts) ||
    isSigns "," ts || isSigns ";" ts || isWord "if" ts

/-- The rest of a range after its lower bound. -/
def rangeAfter (rules : Rules) : Recognizer Unit := do
  let ts ← ahead
  if isSigns "..=" ts || isSigns "..." ts then
    advance 3
    rangeBound rules
  else if isSigns ".." ts then
    advance 2
    if !endsRangePattern (← ahead) then rangeBound rules

def fieldPattern (rules : Rules) : Recognizer Unit := do
  outerAttributes rules
  let ts ← ahead
  if isSigns ".." ts then advance 2
  else
    let _ ← optionalWord "box"
    let bound := isOneOf ["ref", "mut"] (← ahead)
    let _ ← optionalWord "ref"
    let _ ← optionalWord "mut"
    let ts ← ahead
    if bound then name
    else if isName ts || isWhole ts then
      advance 1
      if isSigns ":" (← ahead) || !isName ts then
        signs ":"
        patterns rules
    else fail

/-- A pattern that begins with a path. -/
def pathPattern (rules : Rules) : Recognizer Unit := do
  let (qualified, form) ← qualifiedPath rules true
  let ts ← ahead
  if !qualified && isSigns "!" ts && !isSigns "!=" ts && form.bare then
    advance 1
    let _ ← delimited
  else if isGroup .brace ts then inside .brace (list (fieldPattern rules))
  else if isGroup .paren ts then inside .paren (list (patterns rules))
  else rangeAfter rules

/-- A pattern that binds a name. -/
def namePattern (rules : Rules) : Recognizer Unit := do
  let _ ← optionalWord "ref"
  let _ ← optionalWord "mut"
  if isWord "self" (← ahead) then advance 1 else name
  if ← optionalSigns "@" then rules.run .pattern

def isFollowedPath (ts : List Tree) : Bool :=
  isSigns "::" ts || isSigns "!" ts || isGroup .brace ts || isGroup .paren ts || isSigns ".." ts

def pattern (rules : Rules) : Recognizer Unit := do
  let ts ← ahead
  if (isName ts && isFollowedPath (ts.drop 1)) || (isWord "self" ts && isSigns "::" (ts.drop 1)) ||
      isSigns "::" ts || isSigns "<" ts || isOneOf ["Self", "super", "crate"] ts then
    pathPattern rules
  else if isWord "_" ts then advance 1
  else if isWord "box" ts then
    advance 1
    rules.run .pattern
  else if isSigns "-" ts || isLiteral ts || isWord "const" ts then
    rangeBound rules
    rangeAfter rules
  else if isOneOf ["ref", "mut", "self"] ts || isName ts then namePattern rules
  else if isSigns "&" ts then
    advance 1
    let _ ← optionalWord "mut"
    rules.run .pattern
  else if isGroup .paren ts then inside .paren (list (patterns rules))
  else if isGroup .bracket ts then inside .bracket (list (patterns rules))
  else if isSigns ".." ts && !isSigns "..." ts then rangeAfter rules
  else fail

end WireSchema.Grammar
