import WireSchema.Grammar.Pattern

/-!
Expressions. Operators are recognized by precedence: a recognizer that has a left operand takes all operators
that bind at least as tightly as its base.
-/

namespace WireSchema.Grammar

open Recognizer

/-! ## Operators -/

namespace Precedence

def lowest : Nat := 0
def assign : Nat := 1
def range : Nat := 2
def either : Nat := 3
def both : Nat := 4
def compare : Nat := 6
def bitOr : Nat := 7
def bitXor : Nat := 8
def bitAnd : Nat := 9
def shift : Nat := 10
def sum : Nat := 11
def product : Nat := 12
def cast : Nat := 13

end Precedence

open Precedence in
/-- Operators with two operands; the first that fits is meant. -/
def operatorTable : List (String × Nat) := [
  ("+=", assign), ("-=", assign), ("*=", assign), ("/=", assign), ("%=", assign), ("^=", assign),
  ("&=", assign), ("|=", assign), ("<<=", assign), (">>=", assign), ("&&", both), ("||", either),
  ("<<", shift), (">>", shift), ("==", compare), ("<=", compare), ("!=", compare), (">=", compare),
  ("+", sum), ("-", sum), ("*", product), ("/", product), ("%", product), ("^", bitXor),
  ("&", bitAnd), ("|", bitOr), ("<", compare), (">", compare)]

def operator? (ts : List Tree) : Option (String × Nat) :=
  match ts with
  | .sign _ _ _ :: _ => operatorTable.find? fun o => isSigns o.1 ts
  | _ => none

def isAssignment (ts : List Tree) : Bool :=
  isSigns "=" ts && !isSigns "=>" ts

def precedenceAhead (ts : List Tree) : Nat :=
  match operator? ts with
  | some o => o.2
  | none =>
    if isAssignment ts then Precedence.assign
    else if isSigns ".." ts then Precedence.range
    else if isWord "as" ts then Precedence.cast
    else Precedence.lowest

/-- Lets operators that bind more tightly than `precedence` have the operand; assignments group to the
right. -/
def tighter (rules : Rules) (braces : Bool) (precedence : Nat) : Nat → Kind → Recognizer Unit
  | 0, _ => pure ()
  | fuel + 1, operand => do
    let ts ← ahead
    let next := precedenceAhead ts
    if precedence < next || (next == precedence && precedence == Precedence.assign) then
      let operand ← rules (.operators operand braces next)
      if (← ahead).length != ts.length then tighter rules braces precedence fuel operand

/-- The right operand of an operator. -/
def rightOperand (rules : Rules) (braces : Bool) (precedence : Nat) : Recognizer Unit := do
  let operand ← rules (.unary braces)
  tighter rules braces precedence ((← ahead).length + 1) operand

def endsRange (braces : Bool) (ts : List Tree) : Bool :=
  isEnd ts || isSigns "," ts || isSigns ";" ts || (isSigns "." ts && !isSigns ".." ts) ||
    isSigns "?" ts || isSigns "=>" ts || (!braces && isGroup .brace ts) || isSigns "=" ts ||
    isSigns "+" ts || isSigns "/" ts || isSigns "%" ts || isSigns "^" ts || isSigns ">" ts ||
    isSigns "<=" ts || isSigns "!=" ts || isSigns "-=" ts || isSigns "*=" ts || isSigns "&=" ts ||
    isSigns "|=" ts || isSigns "<<=" ts || isWord "as" ts

/-- The upper limit of a range, whose dots come next; it may be missing after two dots. -/
def rangeLimit (rules : Rules) (braces : Bool) : Recognizer Unit := do
  let ts ← ahead
  if isSigns "..=" ts then
    advance 3
    rightOperand rules braces Precedence.range
  else if isSigns ".." ts && !isSigns "..." ts then
    advance 2
    if !endsRange braces (← ahead) then rightOperand rules braces Precedence.range
  else fail

/-- Nothing may be applied to a cast. -/
def checkCast : Recognizer Unit := do
  let ts ← ahead
  if (isSigns "." ts && !isSigns ".." ts) || isSigns "?" ts || isGroup .bracket ts ||
      isGroup .paren ts then
    fail

/-- Operators after a left operand. -/
def operators (rules : Rules) (braces : Bool) (base : Nat) : Nat → Kind → Recognizer Kind
  | 0, left => pure left
  | fuel + 1, left => do
    let ts ← ahead
    if left = .range then return left
    match operator? ts with
    | some (text, precedence) =>
      if precedence < base then return left
      if precedence == Precedence.compare && left == .comparison then fail
      advance text.length
      rightOperand rules braces precedence
      operators rules braces base fuel
        (if precedence == Precedence.compare then .comparison else .plain)
    | none =>
      if base ≤ Precedence.assign && isAssignment ts then
        advance 1
        rightOperand rules braces Precedence.assign
        operators rules braces base fuel .plain
      else if base ≤ Precedence.range && isSigns ".." ts then
        rangeLimit rules braces
        operators rules braces base fuel .range
      else if base ≤ Precedence.cast && isWord "as" ts then
        advance 1
        rules.run (.type false)
        checkCast
        operators rules braces base fuel .plain
      else return left

/-! ## What follows an operand -/

/-- A field's name or number; whether it is a name. -/
def member : Recognizer Bool := do
  match ← ahead with
  | .literal t _ :: _ =>
    match whole? t with
    | some (value, []) =>
      if value < Nat.pow 2 32 then
        advance 1
        return false
      else fail
    | _ => fail
  | _ =>
    name
    return true

/-- The text between points. -/
def betweenPoints : List Char → List Char → List (List Char)
  | current, [] => [current.reverse]
  | current, c :: cs =>
    if c = '.' then current.reverse :: betweenPoints [] cs else betweenPoints (c :: current) cs

/-- A number as the position of a field. -/
def isPosition (cs : List Char) : Bool :=
  match whole? (String.ofList cs) with
  | some (value, []) => cs.all (fun c => c != '-') && value < Nat.pow 2 32
  | _ => false

/-- Two positions at once, as in `a.0.1`; whether a third part has to follow the last point. -/
def positions (text : String) : Option Bool :=
  let cs := text.toList
  let pointed := cs.getLast? == some '.'
  let cs := if pointed then cs.dropLast else cs
  if (betweenPoints [] cs).all isPosition then some pointed else none

/-- A field, or a method with its arguments; `next` takes what follows it. -/
def namedMember (rules : Rules) (next : Recognizer Kind) : Recognizer Kind := do
  let named ← member
  let ts ← ahead
  if named && isSigns "::" ts then
    advance 2
    rules.run .arguments
    inside .paren (list (rules.run (.expression true)))
  else if named && isGroup .paren ts then
    inside .paren (list (rules.run (.expression true)))
  next

/-- What follows a point. -/
def fieldOrCall (rules : Rules) (next : Recognizer Kind) (ts : List Tree) : Recognizer Kind := do
  match ts with
  | .literal t _ :: _ =>
    if !t.isEmpty && (whole? t).isNone then
      match positions t with
      | none => fail
      | some false =>
        advance 1
        next
      | some true =>
        advance 1
        namedMember rules next
    else namedMember rules next
  | _ =>
    if isWord "await" ts then
      advance 1
      next
    else namedMember rules next

/-- Calls, fields, indices and question marks after an operand. -/
def trailers (rules : Rules) : Nat → Kind → Recognizer Kind
  | 0, kind => pure kind
  | fuel + 1, kind => do
    let ts ← ahead
    if isGroup .paren ts then
      inside .paren (list (rules.run (.expression true)))
      trailers rules fuel .plain
    else if isSigns "." ts && !isSigns ".." ts && kind != .range then
      advance 1
      fieldOrCall rules (trailers rules fuel .plain) (← ahead)
    else if isGroup .bracket ts then
      inside .bracket (rules.run (.expression true))
      trailers rules fuel .plain
    else if isSigns "?" ts && kind != .range then
      advance 1
      trailers rules fuel .plain
    else return kind

/-! ## Operands -/

def block (rules : Rules) : Recognizer Unit :=
  inside .brace (rules.run .statements)

/-- A block that may begin with attributes of its own. -/
def blockWithAttributes (rules : Rules) : Recognizer Unit :=
  inside .brace do
    innerAttributes rules
    rules.run .statements

def fieldValue (rules : Rules) : Recognizer Unit := do
  outerAttributes rules
  let named ← member
  if isSigns ":" (← ahead) || !named then
    signs ":"
    rules.run (.expression true)

/-- The fields of a record; two dots come last. -/
def recordFields (rules : Rules) : Nat → Recognizer Unit
  | 0 => pure ()
  | fuel + 1 => do
    let ts ← ahead
    if isEnd ts then pure ()
    else if isSigns ".." ts then
      advance 2
      if !isEnd (← ahead) then rules.run (.expression true)
    else
      fieldValue rules
      if !isEnd (← ahead) then
        signs ","
        recordFields rules fuel

def pathExpression (rules : Rules) (braces : Bool) : Recognizer Kind := do
  let (qualified, form) ← qualifiedPath rules true
  let ts ← ahead
  if !qualified && isSigns "!" ts && !isSigns "!=" ts && form.bare then
    advance 1
    return .invocation (← delimited)
  if braces && isGroup .brace ts then
    inside .brace do recordFields rules ((← ahead).length + 1)
  return .plain

def closureParameter (rules : Rules) : Recognizer Unit := do
  outerAttributes rules
  rules.run .pattern
  if ← optionalSigns ":" then rules.run (.type true)

def closure (rules : Rules) (braces : Bool) : Recognizer Unit := do
  let _ ← boundLifetimes rules
  let _ ← optionalWord "const"
  let _ ← optionalWord "static"
  let _ ← optionalWord "async"
  let _ ← optionalWord "move"
  signs "|"
  separated (isSigns "|") "," (closureParameter rules)
  signs "|"
  if ← optionalSigns "->" then
    rules.run (.type true)
    block rules
  else rules.run (.expression braces)

/-- Elements in parentheses. -/
def parenthesized (rules : Rules) : Recognizer Unit :=
  inside .paren (list (rules.run (.expression true)))

def arrayElements (rules : Rules) : Recognizer Unit :=
  inside .bracket do
    if !isEnd (← ahead) then
      rules.run (.expression true)
      let ts ← ahead
      if isSigns "," ts then
        advance 1
        list (rules.run (.expression true))
      else if isSigns ";" ts then
        advance 1
        rules.run (.expression true)
      else if !isEnd ts then fail

/-- Whether a value follows a keyword such as `return`. -/
def beginsValue (ts : List Tree) : Bool :=
  (isAnyWord ts && !isWord "as" ts) || isAnyGroup ts || isLiteral ts ||
    (isSigns "!" ts && !isSigns "!=" ts) ||
    (isSigns "-" ts && !isSigns "-=" ts && !isSigns "->" ts) ||
    (isSigns "*" ts && !isSigns "*=" ts) || (isSigns "|" ts && !isSigns "|=" ts) ||
    (isSigns "&" ts && !isSigns "&=" ts) || isSigns ".." ts ||
    (isSigns "<" ts && !isSigns "<=" ts && !isSigns "<<=" ts) || isSigns "::" ts ||
    isLifetime ts || isSigns "#" ts

/-- The clauses of an `if`. -/
def conditional (rules : Rules) : Nat → Recognizer Unit
  | 0 => fail
  | fuel + 1 => do
    word "if"
    rules.run (.expression false)
    block rules
    if ← optionalWord "else" then
      let ts ← ahead
      if isWord "if" ts then conditional rules fuel
      else if isGroup .brace ts then block rules
      else fail

def matchArm (rules : Rules) : Recognizer Unit := do
  outerAttributes rules
  patterns rules
  if ← optionalWord "if" then rules.run (.expression true)
  signs "=>"
  let body ← rules .earlyExpression
  if body.needsComma && !isEnd (← ahead) then signs ","
  else
    let _ ← optionalSigns ","

def isHigherOrder (ts : List Tree) : Bool :=
  isWord "for" ts && isSigns "<" (ts.drop 1) &&
    (isLifetime (ts.drop 2) || isSigns ">" (ts.drop 2))

/-- A loop or block after its label, if it has one. -/
def blockExpression? (rules : Rules) (ts : List Tree) : Option (Recognizer Unit) :=
  if isWord "if" ts then some (conditional rules (ts.length + 1))
  else if isWord "while" ts then
    some do
      advance 1
      rules.run (.expression false)
      blockWithAttributes rules
  else if isWord "for" ts && !isHigherOrder ts then
    some do
      advance 1
      patterns rules
      word "in"
      rules.run (.expression false)
      blockWithAttributes rules
  else if isWord "loop" ts then
    some do
      advance 1
      blockWithAttributes rules
  else if isWord "match" ts then
    some do
      advance 1
      rules.run (.expression false)
      inside .brace do
        innerAttributes rules
        untilEnd (matchArm rules)
  else if isWord "try" ts && isGroup .brace (ts.drop 1) then
    some do
      advance 1
      block rules
  else if isWord "unsafe" ts || (isWord "const" ts && isGroup .brace (ts.drop 1)) then
    some do
      advance 1
      blockWithAttributes rules
  else if isGroup .brace ts then some (blockWithAttributes rules)
  else none

/-- What a label may stand before. -/
def labeled (rules : Rules) : Recognizer Kind := do
  advance 1
  signs ":"
  let ts ← ahead
  if isOneOf ["while", "for", "loop"] ts || isGroup .brace ts then
    match blockExpression? rules ts with
    | some p =>
      p
      return .blockLike
    | none => fail
  else fail

def isClosure (ts : List Tree) : Bool :=
  isSigns "|" ts || isWord "move" ts || isHigherOrder ts ||
    (isWord "const" ts && !isGroup .brace (ts.drop 1)) || isWord "static" ts ||
    (isWord "async" ts && (isSigns "|" (ts.drop 1) || isWord "move" (ts.drop 1)))

/-- An operand without what follows it. -/
def atom (rules : Rules) (braces : Bool) : Recognizer Kind := do
  let ts ← ahead
  if isLiteral ts then
    literal
    return .plain
  else if isWord "async" ts && isGroup .brace (ts.drop 1) then
    advance 1
    block rules
    return .plain
  else if isWord "async" ts && isWord "move" (ts.drop 1) && isGroup .brace (ts.drop 2) then
    advance 2
    block rules
    return .plain
  else if isClosure ts then
    closure rules braces
    return .plain
  else if isName ts || isSigns "::" ts || isSigns "<" ts ||
      isOneOf ["self", "Self", "super", "crate"] ts ||
      (isWord "try" ts && (isSigns "!" (ts.drop 1) || isSigns "::" (ts.drop 1))) then
    pathExpression rules braces
  else if isGroup .paren ts then
    parenthesized rules
    return .plain
  else if isWord "break" ts then
    advance 1
    let _ ← optional isLifetime 1
    let ts ← ahead
    if beginsValue ts && (braces || !isGroup .brace ts) then rules.run (.expression braces)
    return .plain
  else if isWord "continue" ts then
    advance 1
    let _ ← optional isLifetime 1
    return .plain
  else if isOneOf ["return", "yield"] ts then
    advance 1
    if beginsValue (← ahead) then rules.run (.expression true)
    return .plain
  else if isWord "become" ts then
    advance 1
    rules.run (.expression true)
    return .plain
  else if isGroup .bracket ts then
    arrayElements rules
    return .plain
  else if isWord "let" ts then
    advance 1
    patterns rules
    signs "="
    let left ← rules (.unary braces)
    let _ ← rules (.operators left braces Precedence.compare)
    return .plain
  else if isSigns ".." ts then
    rangeLimit rules braces
    return .range
  else if isWord "_" ts then
    advance 1
    return .plain
  else if isLifetime ts then labeled rules
  else
    match blockExpression? rules ts with
    | some p =>
      p
      return .blockLike
    | none => fail

/-- An operand with its attributes, the signs before it and what follows it. -/
def unary (rules : Rules) (braces : Bool) : Recognizer Kind := do
  outerAttributes rules
  let ts ← ahead
  if isSigns "&" ts then
    advance 1
    let ts ← ahead
    if isWord "raw" ts && isOneOf ["mut", "const"] (ts.drop 1) then advance 2
    else
      let _ ← optionalWord "mut"
    rules.run (.unary braces)
    return .plain
  else if isSigns "*" ts || isSigns "!" ts || isSigns "-" ts then
    advance 1
    rules.run (.unary braces)
    return .plain
  else
    let kind ← atom rules braces
    trailers rules ((← ahead).length + 1) kind

def operatorsFrom (rules : Rules) (left : Kind) (braces : Bool) (base : Nat) : Recognizer Kind := do
  operators rules braces base ((← ahead).length + 1) left

def expression (rules : Rules) (braces : Bool) : Recognizer Kind := do
  let left ← rules (.unary braces)
  operatorsFrom rules left braces Precedence.lowest

/-- An expression as a statement or in a match arm: one that ends with its block takes no operators, unless
a point or a question mark follows it. -/
def earlyExpression (rules : Rules) : Recognizer Kind := do
  outerAttributes rules
  let ts ← ahead
  let kind ←
    match blockExpression? rules ts with
    | some p => do
      p
      pure Kind.blockLike
    | none => if isLifetime ts then labeled rules else rules (.unary true)
  let ts ← ahead
  if kind != .blockLike then operatorsFrom rules kind true Precedence.lowest
  else if (isSigns "." ts && !isSigns ".." ts) || isSigns "?" ts then
    let kind ← trailers rules (ts.length + 1) kind
    operatorsFrom rules kind true Precedence.lowest
  else return kind

end WireSchema.Grammar
