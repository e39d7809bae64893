import WireSchema.Grammar.Token
import WireSchema.Text.Numeral

/-!
Recognizers walk over the trees of one group. A recognizer that fails does so at the first tree that cannot
continue the text, or at the closing bracket if the trees are used up. Trees that are left over inside a
bracket are stray: they matter only if the text has no other fault.
-/

namespace WireSchema.Grammar

/-- The trees left in the current group, where the group ends, and the first stray tree so far. -/
structure Cursor where
  rest : List Tree
  closing : Location
  stray : Option Location

def Cursor.place (c : Cursor) : Location :=
  match c.rest with
  | t :: _ => t.place
  | [] => c.closing

abbrev Recognizer := StateT Cursor (Except Location)

/-! ## Looking ahead -/

/-- Words that are no names unless they are written raw. -/
def neverNames : List String := [
  "_", "abstract", "as", "async", "await", "become", "box", "break", "const", "continue", "crate",
  "do", "dyn", "else", "enum", "extern", "false", "final", "fn", "for", "if", "impl", "in", "let",
  "loop", "macro", "match", "mod", "move", "mut", "override", "priv", "pub", "ref", "return", "Self",
  "self", "static", "struct", "super", "trait", "true", "try", "type", "typeof", "unsafe", "unsized",
  "use", "virtual", "where", "while", "yield"]

def isEnd (ts : List Tree) : Bool :=
  ts.isEmpty

def isWord (text : String) : List Tree → Bool
  | .word t _ :: _ => t == text
  | _ => false

def isOneOf (texts : List String) : List Tree → Bool
  | .word t _ :: _ => texts.contains t
  | _ => false

def isAnyWord : List Tree → Bool
  | .word _ _ :: _ => true
  | _ => false

def isName : List Tree → Bool
  | .word t _ :: _ => !neverNames.contains t
  | _ => false

/-- Signs that follow each other at once; nothing is asked about what comes after them. -/
def isSignsOf : List Char → List Tree → Bool
  | [], _ => true
  | [c], .sign d _ _ :: _ => c == d
  | c :: cs, .sign d joint _ :: ts => c == d && joint && isSignsOf cs ts
  | _ :: _, _ => false

def isSigns (text : String) (ts : List Tree) : Bool :=
  match ts with
  | .sign _ _ _ :: _ => isSignsOf text.toList ts
  | _ => false

def isGroup (d : Delimiter) : List Tree → Bool
  | .group e _ _ _ :: _ => d == e
  | _ => false

def isAnyGroup : List Tree → Bool
  | .group _ _ _ _ :: _ => true
  | _ => false

def isLifetime : List Tree → Bool
  | .lifetime _ :: _ => true
  | _ => false

/-- A literal, possibly negative, or a truth value. -/
def isLiteral : List Tree → Bool
  | .literal _ _ :: _ => true
  | .word t _ :: _ => t == "true" || t == "false"
  | .sign '-' _ _ :: .literal t _ :: _ => !t.isEmpty
  | _ => false

def isString : List Tree → Bool
  | .literal t _ :: _ => t.isEmpty
  | _ => false

/-! ## Numbers -/

/-- Whether what follows the letter of an exponent makes it one. -/
def isExponent : Bool → List Char → Bool
  | digits, [] => digits
  | digits, c :: cs =>
    if c = '_' then isExponent digits cs
    else if c = '+' ∨ c = '-' then true
    else if '0' ≤ c ∧ c ≤ '9' then isExponent true cs
    else digits

/-- The value and the suffix of a whole number; nothing for a number with a point or an exponent. -/
def wholeDigits (radix : Nat) : Nat → List Char → Option (Nat × List Char)
  | value, [] => some (value, [])
  | value, c :: cs =>
    match Text.Numeral.digitValue? radix c with
    | some d => wholeDigits radix (value * radix + d) cs
    | none =>
      if c = '_' then wholeDigits radix value cs
      else if radix = 10 ∧ c = '.' then none
      else if radix = 10 ∧ (c = 'e' ∨ c = 'E') ∧ isExponent false cs then none
      else some (value, c :: cs)

def whole? (text : String) : Option (Nat × List Char) :=
  match text.toList with
  | '0' :: 'x' :: cs => wholeDigits 16 0 cs
  | '0' :: 'o' :: cs => wholeDigits 8 0 cs
  | '0' :: 'b' :: cs => wholeDigits 2 0 cs
  | [] => none
  | cs => wholeDigits 10 0 cs

def isWhole : List Tree → Bool
  | .literal t _ :: _ => (whole? t).isSome
  | _ => false

/-! ## Recognizers -/

namespace Recognizer

/-- Fails at the next tree. -/
def fail {α : Type} : Recognizer α :=
  fun c => .error c.place

def failAt {α : Type} (p : Location) : Recognizer α :=
  fun _ => .error p

def ahead : Recognizer (List Tree) :=
  fun c => .ok (c.rest, c)

def place : Recognizer Location :=
  fun c => .ok (c.place, c)

def advance (n : Nat) : Recognizer Unit :=
  fun c => .ok ((), { c with rest := c.rest.drop n })

def demand (test : List Tree → Bool) (width : Nat) : Recognizer Unit := do
  if test (← ahead) then advance width else fail

/-- Passes over `width` trees if they are there. -/
def optional (test : List Tree → Bool) (width : Nat) : Recognizer Bool := do
  if test (← ahead) then
    advance width
    return true
  else return false

def word (text : String) : Recognizer Unit :=
  demand (isWord text) 1

def optionalWord (text : String) : Recognizer Bool :=
  optional (isWord text) 1

def name : Recognizer Unit :=
  demand isName 1

def signs (text : String) : Recognizer Unit :=
  demand (isSigns text) text.length

def optionalSigns (text : String) : Recognizer Bool :=
  optional (isSigns text) text.length

def literal : Recognizer Unit := do
  let ts ← ahead
  if isLiteral ts then advance (if isSigns "-" ts then 2 else 1) else fail

/-- Recognizes what is inside the next bracket and goes on after it. -/
def inside {α : Type} (d : Delimiter) (p : Recognizer α) : Recognizer α := fun c =>
  match c.rest with
  | .group e content _ closing :: rest =>
    if d = e then
      match p ⟨content, closing, c.stray⟩ with
      | .error place => .error place
      | .ok (a, inner) =>
        .ok (a, ⟨rest, c.closing, inner.stray.or (inner.rest.head?.map Tree.place)⟩)
    else .error c.place
  | _ => .error c.place

/-- Tries a recognizer and goes on as if it had not been tried if it fails. -/
def attempt {α : Type} (p : Recognizer α) : Recognizer (Option α) := fun c =>
  match p c with
  | .ok (a, c') => .ok (some a, { c' with stray := c.stray })
  | .error _ => .ok (none, c)

/-- Whether a recognizer would succeed, and where it would lead. -/
def scout (p : Recognizer Unit) : Recognizer (Option (List Tree)) := fun c =>
  match p c with
  | .ok (_, c') => .ok (some c'.rest, c)
  | .error _ => .ok (none, c)

/-- Repeats while the trees ahead pass a test, at most `fuel` times. -/
def repeatFor (test : List Tree → Bool) (p : Recognizer Unit) : Nat → Recognizer Unit
  | 0 => pure ()
  | fuel + 1 => do
    if test (← ahead) then
      p
      repeatFor test p fuel

/-- Repeats while the trees ahead pass a test; each turn uses up a tree. -/
def repeatWhile (test : List Tree → Bool) (p : Recognizer Unit) : Recognizer Unit := do
  repeatFor test p ((← ahead).length + 1)

def untilEnd (p : Recognizer Unit) : Recognizer Unit :=
  repeatWhile (fun ts => !isEnd ts) p

/-- Elements up to a place where `stop` holds, with a separator between them and perhaps after the last. -/
def separatedFor (stop : List Tree → Bool) (separator : String) (p : Recognizer Unit) :
    Nat → Recognizer Unit
  | 0 => pure ()
  | fuel + 1 => do
    if !stop (← ahead) then
      p
      if !stop (← ahead) then
        signs separator
        separatedFor stop separator p fuel

def separated (stop : List Tree → Bool) (separator : String) (p : Recognizer Unit) :
    Recognizer Unit := do
  separatedFor stop separator p ((← ahead).length + 1)

/-- Elements with commas up to the end of the group. -/
def list (p : Recognizer Unit) : Recognizer Unit :=
  separated isEnd "," p

end Recognizer

end WireSchema.Grammar
