import WireSchema.Grammar.Expression

/-!
Statements. What begins like an item is one; all else is an expression, which needs a semicolon unless it ends
with its block or is the last.
-/

namespace WireSchema.Grammar

open Recognizer

def localBinding (rules : Rules) : Recognizer Unit := do
  word "let"
  rules.run .pattern
  if ← optionalSigns ":" then rules.run (.type true)
  if ← optionalSigns "=" then
    rules.run (.expression true)
    if ← optionalWord "else" then block rules
  signs ";"

def isConstClosure (ts : List Tree) : Bool :=
  isGroup .brace ts || isWord "static" ts ||
    (isWord "async" ts && !isOneOf ["unsafe", "extern", "fn"] (ts.drop 1)) || isWord "move" ts ||
    isSigns "|" ts

/-- Whether an item begins here. -/
def beginsItem (ts : List Tree) : Bool :=
  let second := ts.drop 1
  isWord "pub" ts || (isWord "crate" ts && !isSigns "::" second) ||
    isOneOf ["extern", "use", "fn", "mod", "type", "struct", "enum", "trait", "impl", "macro"] ts ||
    (isWord "static" ts && (isWord "mut" second || isName second)) ||
    (isWord "const" ts && !isConstClosure second) ||
    (isWord "unsafe" ts && !isGroup .brace second) ||
    (isWord "async" ts && isOneOf ["unsafe", "extern", "fn"] second) ||
    (isWord "union" ts && isName second) || (isWord "auto" ts && isWord "trait" second) ||
    (isWord "default" ts && isOneOf ["unsafe", "impl"] second)

/-- What a call by `!` at the front of a statement is. -/
inductive Invocation where
  | none
  | item
  | braced

def invocation (after : Option (List Tree)) : Invocation :=
  match after with
  | some ts =>
    if isSigns "!" ts then
      let second := ts.drop 1
      let third := ts.drop 2
      if isName second || isWord "try" second then .item
      else if isGroup .brace second &&
          !((isSigns "." third && !isSigns ".." third) || isSigns "?" third) then .braced
      else .none
    else .none
  | none => .none

/-- A statement; whether a semicolon is still needed after it. -/
def statement (rules : Rules) : Recognizer Bool := do
  let start ← ahead
  outerAttributes rules
  let ts ← ahead
  match invocation (← scout plainPath) with
  | .braced =>
    plainPath
    signs "!"
    let _ ← delimited
    let _ ← optionalSigns ";"
    return false
  | .item =>
    rewind start
    rules.run .item
    return false
  | .none =>
    if isWord "let" ts then
      localBinding rules
      return false
    else if beginsItem ts then
      rewind start
      rules.run .item
      return false
    else
      let kind ← rules .earlyExpression
      if ← optionalSigns ";" then return false
      return kind.needsSemicolon
where
  /-- Goes back to the attributes, which belong to the item. -/
  rewind (ts : List Tree) : Recognizer Unit :=
    modify fun c => { c with rest := ts }

def statementsFor (rules : Rules) : Nat → Recognizer Unit
  | 0 => pure ()
  | fuel + 1 => do
    repeatWhile (isSigns ";") (advance 1)
    if !isEnd (← ahead) then
      let needed ← statement rules
      if !isEnd (← ahead) then
        if needed then fail else statementsFor rules fuel

/-- The statements of a block. -/
def statements (rules : Rules) : Recognizer Unit := do
  statementsFor rules ((← ahead).length + 1)

end WireSchema.Grammar
