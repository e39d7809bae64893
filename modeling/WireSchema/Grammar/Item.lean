import WireSchema.Grammar.Statement

/-!
Items: what a file, a module or an implementation is made of.
-/

namespace WireSchema.Grammar

open Recognizer

/-! ## Functions -/

/-- The object of a method. -/
def receiver (rules : Rules) : Recognizer Unit := do
  let reference ← optionalSigns "&"
  if reference then
    let _ ← optional isLifetime 1
  let _ ← optionalWord "mut"
  word "self"
  if !reference then
    if ← optionalSigns ":" then rules.run (.type true)

/-- One parameter; whether it is the object. -/
def parameter (rules : Rules) : Recognizer Bool := do
  match ← attempt (receiver rules) with
  | some _ => return true
  | none =>
    let ts ← ahead
    if isName ts && isSigns "<" (ts.drop 1) then rules.run (.type true)
    else
      rules.run .pattern
      signs ":"
      if !(← optionalSigns "...") then rules.run (.type true)
    return false

/-- The word `self` of the object that comes next. -/
def selfPlace : List Tree → Option Location
  | .word t p :: ts => if t = "self" then some p else selfPlace ts
  | _ :: ts => selfPlace ts
  | [] => none

/-- Parameters with commas; only the first may be the object. -/
def parameters (rules : Rules) : Nat → Bool → Recognizer Unit
  | 0, _ => pure ()
  | fuel + 1, first => do
    if !isEnd (← ahead) then
      outerAttributes rules
      if ← optionalSigns "..." then
        if !isEnd (← ahead) then signs ","
      else
        let ts ← ahead
        let object ← parameter rules
        if object && !first then failAt ((selfPlace ts).getD Location.start)
        if !isEnd (← ahead) then
          signs ","
          parameters rules fuel false

/-- The words before `fn`. -/
def qualifiers : Recognizer Unit := do
  let _ ← optionalWord "const"
  let _ ← optionalWord "async"
  let _ ← optionalWord "unsafe"
  if ← optionalWord "extern" then
    let _ ← optional isString 1

def isFunction (after : Option (List Tree)) : Bool :=
  after.any (isWord "fn")

def functionHead (rules : Rules) : Recognizer Unit := do
  qualifiers
  word "fn"
  name
  genericParameters rules
  inside .paren do parameters rules ((← ahead).length + 1) true
  result rules true
  whereClause rules

/-- A function; its body may be missing. -/
def function (rules : Rules) : Recognizer Unit := do
  functionHead rules
  if !(← optionalSigns ";") then blockWithAttributes rules

/-! ## Types -/

def namedField (rules : Rules) : Recognizer Unit := do
  outerAttributes rules
  let _ ← visibility
  if !(← optionalWord "_") then name
  signs ":"
  rules.run (.type true)

def positionalField (rules : Rules) : Recognizer Unit := do
  outerAttributes rules
  let _ ← visibility
  rules.run (.type true)

def namedFields (rules : Rules) : Recognizer Unit :=
  inside .brace (list (namedField rules))

def positionalFields (rules : Rules) : Recognizer Unit :=
  inside .paren (list (positionalField rules))

def structType (rules : Rules) : Recognizer Unit := do
  word "struct"
  name
  genericParameters rules
  let restricted := isWord "where" (← ahead)
  whereClause rules
  let ts ← ahead
  if !restricted && isGroup .paren ts then
    positionalFields rules
    whereClause rules
    signs ";"
  else if isGroup .brace ts then namedFields rules
  else signs ";"

def variant (rules : Rules) : Recognizer Unit := do
  outerAttributes rules
  let _ ← visibility
  name
  let ts ← ahead
  if isGroup .brace ts then namedFields rules
  else if isGroup .paren ts then positionalFields rules
  if ← optionalSigns "=" then rules.run (.expression true)

def enumeration (rules : Rules) : Recognizer Unit := do
  word "enum"
  name
  genericParameters rules
  whereClause rules
  inside .brace (list (variant rules))

def union (rules : Rules) : Recognizer Unit := do
  word "union"
  name
  genericParameters rules
  whereClause rules
  namedFields rules

def typeAlias (rules : Rules) : Recognizer Unit := do
  word "type"
  name
  genericParameters rules
  if ← optionalSigns ":" then
    bounds rules fun ts => isWord "where" ts || isSigns "=" ts || isSigns ";" ts
  whereClause rules
  if ← optionalSigns "=" then rules.run (.type true)
  whereClause rules
  signs ";"

/-! ## Values -/

def constant (rules : Rules) : Recognizer Unit := do
  word "const"
  if isWordOrName (← ahead) then advance 1 else fail
  genericParameters rules
  signs ":"
  rules.run (.type true)
  if ← optionalSigns "=" then rules.run (.expression true)
  whereClause rules
  signs ";"

def static (rules : Rules) : Recognizer Unit := do
  word "static"
  let _ ← optionalWord "mut"
  name
  if ← optionalSigns "=" then rules.run (.expression true)
  else
    signs ":"
    rules.run (.type true)
    if !isSigns ";" (← ahead) then
      signs "="
      rules.run (.expression true)
  signs ";"

/-! ## Names from elsewhere -/

/-- The trees in the braces of a `use`; `root` says whether they may begin with `::`. -/
def useTrees (rules : Rules) (root : Bool) : Recognizer Unit :=
  inside .brace <| list do
    let leading ← if root then optionalSigns "::" else pure false
    rules.run (.useTree (root && !leading))

def useTree (rules : Rules) (root : Bool) : Recognizer Unit := do
  let ts ← ahead
  if isName ts || isOneOf ["self", "super", "crate", "try"] ts then
    advance 1
    if ← optionalSigns "::" then rules.run (.useTree false)
    else if ← optionalWord "as" then
      if isWordOrName (← ahead) then advance 1 else fail
  else if isSigns "*" ts then advance 1
  else if isGroup .brace ts then useTrees rules root
  else fail

def useItem (rules : Rules) : Recognizer Unit := do
  word "use"
  let leading ← optionalSigns "::"
  rules.run (.useTree (!leading))
  signs ";"

/-- A function, constant or type from outside. -/
def foreignItem (rules : Rules) : Recognizer Unit := do
  outerAttributes rules
  let _ ← visibility
  let ts ← ahead
  if isFunction (← scout qualifiers) then function rules
  else if isWord "static" ts then static rules
  else if isWord "type" ts then typeAlias rules
  else fail

def external (rules : Rules) : Recognizer Unit := do
  word "extern"
  let ts ← ahead
  if isWord "crate" ts then
    advance 1
    if isWord "self" (← ahead) then advance 1 else name
    if ← optionalWord "as" then
      if isWordOrName (← ahead) then advance 1 else fail
    signs ";"
  else
    let _ ← optional isString 1
    inside .brace do
      innerAttributes rules
      untilEnd (foreignItem rules)

/-! ## Groups of items -/

def submodule (rules : Rules) : Recognizer Unit := do
  word "mod"
  if !(← optionalWord "try") then name
  if !(← optionalSigns ";") then
    inside .brace do
      innerAttributes rules
      untilEnd (rules.run .item)

/-- Whether `<` after `impl` begins parameters and not a qualified path. -/
def beginsParameters (ts : List Tree) : Bool :=
  let second := ts.drop 1
  let third := ts.drop 2
  isSigns "<" ts &&
    (isSigns ">" second || isSigns "#" second ||
      ((isLifetime second || isName second) &&
        (isSigns ":" third || isSigns "," third || isSigns ">" third || isSigns "=" third)) ||
      isWord "const" second)

def implementation (rules : Rules) : Recognizer Unit := do
  let _ ← optionalWord "default"
  let _ ← optionalWord "unsafe"
  word "impl"
  if beginsParameters (← ahead) then genericParameters rules
  let ts ← ahead
  if isWord "const" ts then advance 1
  else if isSigns "?" ts && isWord "const" (ts.drop 1) then advance 2
  let ts ← ahead
  let start ← place
  let negative := isSigns "!" ts && !isGroup .brace (ts.drop 1)
  if negative then advance 1
  rules.run (.type true)
  if ← optionalWord "for" then rules.run (.type true)
  else if negative then failAt start
  whereClause rules
  inside .brace do
    innerAttributes rules
    untilEnd (rules.run .implItem)

/-- A call by `!` as an item; it ends with a semicolon unless its arguments are in braces. -/
def invocationItem (named : Bool) : Recognizer Unit := do
  plainPath
  signs "!"
  if named && (isName (← ahead) || isWord "try" (← ahead)) then advance 1
  if !(← delimited) then signs ";"

def isPathStart (ts : List Tree) : Bool :=
  isName ts || isOneOf ["self", "super", "crate"] ts || isSigns "::" ts

/-- A member of an implementation or a trait. -/
def memberItem (rules : Rules) : Recognizer Unit := do
  outerAttributes rules
  let visible ← visibility
  let ts ← ahead
  let overridable := isWord "default" ts && !isSigns "!" (ts.drop 1)
  if overridable then advance 1
  let ts ← ahead
  if isFunction (← scout qualifiers) then function rules
  else if isWord "const" ts then constant rules
  else if isWord "type" ts then typeAlias rules
  else if !visible && !overridable && isPathStart ts then invocationItem false
  else fail

def trait (rules : Rules) : Recognizer Unit := do
  let _ ← optionalWord "unsafe"
  let _ ← optionalWord "auto"
  word "trait"
  name
  genericParameters rules
  if ← optionalSigns "=" then
    bounds rules fun ts => isWord "where" ts || isSigns ";" ts
    whereClause rules
    signs ";"
  else
    if ← optionalSigns ":" then
      bounds rules fun ts => isWord "where" ts || isGroup .brace ts
    whereClause rules
    inside .brace do
      innerAttributes rules
      untilEnd (memberItem rules)

/-- The definition of a call by `!`. -/
def invocationDefinition : Recognizer Unit := do
  word "macro"
  name
  if isGroup .paren (← ahead) then advance 1
  inside .brace do modify fun c => { c with rest := [] }

def item (rules : Rules) : Recognizer Unit := do
  outerAttributes rules
  let visible ← visibility
  let ts ← ahead
  let second := ts.drop 1
  if isFunction (← scout qualifiers) then function rules
  else if isWord "extern" ts then external rules
  else if isWord "use" ts then useItem rules
  else if isWord "static" ts then static rules
  else if isWord "const" ts then constant rules
  else if isWord "unsafe" ts then
    if isWord "trait" second || (isWord "auto" second && isWord "trait" (ts.drop 2)) then trait rules
    else if isWord "impl" second then implementation rules
    else
      advance 1
      if isWord "extern" second then external rules
      else if isWord "mod" second then submodule rules
      else fail
  else if isWord "mod" ts then submodule rules
  else if isWord "type" ts then typeAlias rules
  else if isWord "struct" ts then structType rules
  else if isWord "enum" ts then enumeration rules
  else if isWord "union" ts && isName second then union rules
  else if isWord "trait" ts || (isWord "auto" ts && isWord "trait" second) then trait rules
  else if isWord "impl" ts || (isWord "default" ts && !isSigns "!" second) then implementation rules
  else if isWord "macro" ts then invocationDefinition
  else if !visible && isPathStart ts then invocationItem true
  else fail

end WireSchema.Grammar
