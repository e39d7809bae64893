import WireSchema.Grammar.Rule

/-!
Attributes, visibility and paths.
-/

namespace WireSchema.Grammar

open Recognizer

/-- The arguments of a call by `!`; whether they are in braces. -/
def delimited : Recognizer Bool := do
  let ts ← ahead
  if isAnyGroup ts then
    advance 1
    return isGroup .brace ts
  else fail

def isPathWord (ts : List Tree) : Bool :=
  isName ts || isOneOf ["super", "self", "Self", "crate"] ts

/-- Names with `::` between them and no arguments. -/
def plainSegments : Nat → Recognizer Unit
  | 0 => fail
  | fuel + 1 => do
    if isPathWord (← ahead) then
      advance 1
      if ← optionalSigns "::" then plainSegments fuel
    else fail

def plainPath : Recognizer Unit := do
  let _ ← optionalSigns "::"
  plainSegments ((← ahead).length + 1)

/-- What stands inside the brackets of an attribute. -/
def attributeBody (rules : Rules) : Recognizer Unit := do
  if !(← optionalWord "unsafe") then plainPath
  let ts ← ahead
  if isAnyGroup ts then advance 1
  else if isSigns "=" ts then
    advance 1
    let ts ← ahead
    let width := if isSigns "-" ts then 2 else 1
    if isLiteral ts && isEnd (ts.drop width) then advance width
    else if isSigns "#" ts && isGroup .bracket (ts.drop 1) then fail
    else rules.run (.expression true)

def outerAttributes (rules : Rules) : Recognizer Unit :=
  repeatWhile (isSigns "#") do
    signs "#"
    inside .bracket (attributeBody rules)

def innerAttributes (rules : Rules) : Recognizer Unit :=
  repeatWhile (fun ts => isSigns "#" ts && isSigns "!" (ts.drop 1)) do
    advance 2
    inside .bracket (attributeBody rules)

/-- Whether something is marked visible. Parentheses that do not restrict belong to what follows. -/
def visibility : Recognizer Bool := do
  if ← optionalWord "pub" then
    match ← ahead with
    | .group .paren content _ _ :: _ =>
      if isOneOf ["crate", "self", "super"] content then
        if isEnd (content.drop 1) then advance 1
      else if isWord "in" content then
        inside .paren do
          advance 1
          plainPath
    | _ => pure ()
    return true
  else return false

/-- What a path is made of. -/
structure PathForm where
  /-- One name without a leading `::`. -/
  single : Bool
  /-- No name has arguments. -/
  bare : Bool
  /-- The last name has no arguments. -/
  lastBare : Bool

/-- One name of a path; whether it has no arguments. In an expression `::` comes before arguments. -/
def segment (rules : Rules) (expression : Bool) : Recognizer Bool := do
  if isOneOf ["super", "self", "crate", "try"] (← ahead) then
    advance 1
    return true
  if isWord "Self" (← ahead) then advance 1 else name
  let ts ← ahead
  if (!expression && isSigns "<" ts && !isSigns "<=" ts && !isSigns "<<=" ts) ||
      (isSigns "::" ts && isSigns "<" (ts.drop 2)) then
    let _ ← optionalSigns "::"
    rules.run .arguments
    return false
  return true

/-- More names, each after `::`, unless parentheses follow the `::`. -/
def segments (rules : Rules) (expression : Bool) : Nat → PathForm → Recognizer PathForm
  | 0, form => pure form
  | fuel + 1, form => do
    let ts ← ahead
    if isSigns "::" ts && !isGroup .paren (ts.drop 2) then
      advance 2
      let bare ← segment rules expression
      segments rules expression fuel ⟨false, form.bare && bare, bare⟩
    else return form

def pathAfter (rules : Rules) (expression : Bool) (form : PathForm) : Recognizer PathForm := do
  segments rules expression (← ahead).length form

def path (rules : Rules) (expression : Bool) : Recognizer PathForm := do
  let leading ← optionalSigns "::"
  let bare ← segment rules expression
  pathAfter rules expression ⟨!leading, bare, bare⟩

/-- The names after the `>::` of a qualified path. -/
def qualifiedSegments (rules : Rules) (expression : Bool) : Nat → Recognizer Bool
  | 0 => fail
  | fuel + 1 => do
    let bare ← segment rules expression
    if ← optionalSigns "::" then qualifiedSegments rules expression fuel
    else return bare

/-- A path that may begin with a type in angle brackets; whether it does, and its form. -/
def qualifiedPath (rules : Rules) (expression : Bool) : Recognizer (Bool × PathForm) := do
  if isSigns "<" (← ahead) then
    advance 1
    rules.run (.type true)
    if ← optionalWord "as" then
      let _ ← path rules false
    signs ">"
    signs "::"
    let lastBare ← qualifiedSegments rules expression ((← ahead).length + 1)
    return (true, ⟨false, false, lastBare⟩)
  else return (false, ← path rules expression)

end WireSchema.Grammar
