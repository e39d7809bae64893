import WireSchema.Grammar.Path

/-!
Types, bounds and generic parameters.
-/

namespace WireSchema.Grammar

open Recognizer

/-- Lifetimes bound by `for<…>`. -/
def boundLifetimes (rules : Rules) : Recognizer Bool := do
  if ← optionalWord "for" then
    signs "<"
    separated (isSigns ">") "," do
      outerAttributes rules
      demand isLifetime 1
      if ← optionalSigns ":" then
        separated (fun ts => isSigns "," ts || isSigns ">" ts) "+" (demand isLifetime 1)
    signs ">"
    return true
  else return false

/-- The type after an arrow, if there is one. -/
def result (rules : Rules) (plus : Bool) : Recognizer Unit := do
  if ← optionalSigns "->" then rules.run (.type plus)

/-- Types in parentheses and a result, as in `Fn(A) -> B`. -/
def callArguments (rules : Rules) : Recognizer Unit := do
  inside .paren (list (rules.run (.type true)))
  result rules false

def isCallArguments (ts : List Tree) : Bool :=
  isGroup .paren ts || (isSigns "::" ts && isGroup .paren (ts.drop 2))

def traitBound (rules : Rules) : Recognizer Unit := do
  let bound ← boundLifetimes rules
  let maybe ← optionalSigns "?"
  if !bound && maybe then
    let _ ← boundLifetimes rules
  let form ← path rules false
  if form.lastBare && isCallArguments (← ahead) then
    let _ ← optionalSigns "::"
    callArguments rules

/-- One bound; whether it is a lifetime. -/
def bound (rules : Rules) : Recognizer Bool := do
  let ts ← ahead
  if isLifetime ts then
    advance 1
    return true
  else if isGroup .paren ts then
    inside .paren (traitBound rules)
    return false
  else
    traitBound rules
    return false

def beginsBound (ts : List Tree) : Bool :=
  isAnyWord ts || isSigns "::" ts || isSigns "?" ts || isLifetime ts || isGroup .paren ts

/-- More bounds, each after a plus; whether one of them is no lifetime. A plus may come last. -/
def moreBounds (rules : Rules) : Nat → Bool → Recognizer Bool
  | 0, trait => pure trait
  | fuel + 1, trait => do
    if ← optionalSigns "+" then
      if beginsBound (← ahead) then
        let lifetime ← bound rules
        moreBounds rules fuel (trait || !lifetime)
      else return trait
    else return trait

/-- Bounds of an object type, which are not all lifetimes. -/
def objectBounds (rules : Rules) (start : Location) (plus : Bool) : Recognizer Unit := do
  let lifetime ← bound rules
  let trait ← if plus then moreBounds rules ((← ahead).length + 1) (!lifetime) else pure (!lifetime)
  if !trait then failAt start

/-- Bounds with a plus between them up to where `stop` holds. -/
def bounds (rules : Rules) (stop : List Tree → Bool) : Recognizer Unit :=
  separated stop "+" do
    let _ ← bound rules

/-- The arguments in parentheses after a path as a type. -/
def pathCalls (rules : Rules) : Nat → PathForm → Recognizer PathForm
  | 0, form => pure form
  | fuel + 1, form => do
    if form.lastBare && isCallArguments (← ahead) then
      let _ ← optionalSigns "::"
      inside .paren (list (rules.run (.type true)))
      let form : PathForm := ⟨false, false, false⟩
      let ts ← ahead
      result rules false
      if !isSigns "->" ts || isGroup .paren (ts.drop 2) then
        pathCalls rules fuel (← pathAfter rules false form)
      else return form
    else return form

def isWordOrName (ts : List Tree) : Bool :=
  isName ts || isWord "_" ts

/-- One argument of a function type. -/
def functionArgument (rules : Rules) (first : Bool) : Recognizer Unit := do
  outerAttributes rules
  let ts ← ahead
  if isSigns "..." ts then advance 3
  else
    if (isWordOrName ts || (first && isWord "self" ts)) && isSigns ":" (ts.drop 1) &&
        !isSigns "::" (ts.drop 1) then
      advance 2
    if isSigns "..." (← ahead) then advance 3 else rules.run (.type true)

def functionType (rules : Rules) : Recognizer Unit := do
  let _ ← boundLifetimes rules
  let _ ← optionalWord "unsafe"
  if ← optionalWord "extern" then
    let _ ← optional isString 1
  word "fn"
  inside .paren (list (functionArgument rules false))
  result rules false

/-- A type that begins with a parenthesis. -/
def parenthesizedType (rules : Rules) (plus : Bool) : Recognizer Kind := do
  match ← ahead with
  | .group .paren content _ _ :: _ =>
    if isLifetime content then
      inside .paren do
        let start ← place
        objectBounds rules start true
      return .otherType
    else if isSigns "?" content then
      inside .paren (traitBound rules)
      let _ ← moreBounds rules ((← ahead).length + 1) true
      return .otherType
    else
      let first ← inside .paren do
        if isEnd (← ahead) then return Kind.otherType
        let first ← rules (.type true)
        if isSigns "," (← ahead) then
          advance 1
          list (rules.run (.type true))
          return Kind.otherType
        return first
      match first with
      | .path _ =>
        if plus && isSigns "+" (← ahead) then
          let _ ← moreBounds rules ((← ahead).length + 1) true
        return .otherType
      | _ => return .otherType
  | _ => fail

/-- A type that begins with a name. -/
def namedType (rules : Rules) (plus lifetimes : Bool) : Recognizer Kind := do
  let (qualified, form) ← qualifiedPath rules false
  let form ← pathCalls rules ((← ahead).length + 1) form
  if qualified then return .otherType
  let ts ← ahead
  if isSigns "!" ts && !isSigns "!=" ts && form.bare then
    advance 1
    let _ ← delimited
    return .otherType
  if lifetimes || (plus && isSigns "+" ts) then
    if plus then
      let _ ← moreBounds rules (ts.length + 1) true
    return .otherType
  return .path form.single

def isTypeWord (ts : List Tree) : Bool :=
  isName ts || isOneOf ["super", "self", "Self", "crate"] ts

/-- A type; `plus` says whether bounds may be added to it. -/
def type (rules : Rules) (plus : Bool) : Recognizer Kind := do
  let lifetimes ← boundLifetimes rules
  let ts ← ahead
  if lifetimes && !(isTypeWord ts || isOneOf ["fn", "unsafe", "extern"] ts) then fail
  else if isGroup .paren ts then parenthesizedType rules plus
  else if isOneOf ["fn", "unsafe", "extern"] ts then
    functionType rules
    return .otherType
  else if isTypeWord ts || isSigns "::" ts || isSigns "<" ts then namedType rules plus lifetimes
  else if isWord "dyn" ts then
    let start ← place
    advance 1
    let _ ← optionalSigns "*"
    objectBounds rules start plus
    return .otherType
  else if isGroup .bracket ts then
    inside .bracket do
      rules.run (.type true)
      if ← optionalSigns ";" then rules.run (.expression true)
    return .otherType
  else if isSigns "*" ts then
    advance 1
    demand (isOneOf ["const", "mut"]) 1
    rules.run (.type false)
    return .otherType
  else if isSigns "&" ts then
    advance 1
    let _ ← optional isLifetime 1
    let _ ← optionalWord "mut"
    rules.run (.type false)
    return .otherType
  else if isSigns "!" ts && !isSigns "=" (ts.drop 1) then
    advance 1
    return .otherType
  else if isWord "impl" ts then
    let start ← place
    advance 1
    objectBounds rules start plus
    return .otherType
  else if isWord "_" ts then
    advance 1
    return .otherType
  else if isLifetime ts then
    let start ← place
    objectBounds rules start true
    return .otherType
  else fail

def constantArgument (rules : Rules) : Recognizer Unit := do
  let ts ← ahead
  if isLiteral ts then literal
  else if isName ts then advance 1
  else if isGroup .brace ts then inside .brace (rules.run .statements)
  else fail

def endsArgument (ts : List Tree) : Bool :=
  isSigns "," ts || isSigns ">" ts

def genericArgument (rules : Rules) : Recognizer Unit := do
  let ts ← ahead
  if isLifetime ts && !isSigns "+" (ts.drop 1) then advance 1
  else if isLiteral ts || isGroup .brace ts then constantArgument rules
  else
    match ← rules (.type true) with
    | .path true =>
      if ← optionalSigns "=" then
        let ts ← ahead
        if isLiteral ts || isGroup .brace ts then constantArgument rules
        else rules.run (.type true)
      else if ← optionalSigns ":" then bounds rules endsArgument
    | _ => pure ()

/-- Arguments in angle brackets. -/
def genericArguments (rules : Rules) : Recognizer Unit := do
  signs "<"
  separated (isSigns ">") "," (genericArgument rules)
  signs ">"

def genericParameter (rules : Rules) : Recognizer Unit := do
  outerAttributes rules
  let ts ← ahead
  if isLifetime ts then
    advance 1
    if ← optionalSigns ":" then separated endsArgument "+" (demand isLifetime 1)
  else if isWordOrName ts then
    advance 1
    if ← optionalSigns ":" then
      bounds rules fun ts => endsArgument ts || isSigns "=" ts
    if ← optionalSigns "=" then rules.run (.type true)
  else if isWord "const" ts then
    advance 1
    name
    signs ":"
    rules.run (.type true)
    if ← optionalSigns "=" then constantArgument rules
  else fail

/-- Parameters in angle brackets, if there are any. -/
def genericParameters (rules : Rules) : Recognizer Unit := do
  if ← optionalSigns "<" then
    separated (isSigns ">") "," (genericParameter rules)
    signs ">"

def endsWhere (ts : List Tree) : Bool :=
  isEnd ts || isGroup .brace ts || isSigns "," ts || isSigns ";" ts ||
    (isSigns ":" ts && !isSigns "::" ts) || isSigns "=" ts

def wherePredicate (rules : Rules) : Recognizer Unit := do
  let ts ← ahead
  if isLifetime ts && isSigns ":" (ts.drop 1) then
    advance 2
    separated endsWhere "+" (demand isLifetime 1)
  else
    let _ ← boundLifetimes rules
    rules.run (.type true)
    signs ":"
    bounds rules endsWhere

/-- Predicates with commas; they end where no comma follows. -/
def wherePredicates (rules : Rules) : Nat → Recognizer Unit
  | 0 => pure ()
  | fuel + 1 => do
    if !endsWhere (← ahead) then
      wherePredicate rules
      if ← optionalSigns "," then wherePredicates rules fuel

def whereClause (rules : Rules) : Recognizer Unit := do
  if ← optionalWord "where" then wherePredicates rules ((← ahead).length + 1)

end WireSchema.Grammar
