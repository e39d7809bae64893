import WireSchema.Grammar.Literal
import WireSchema.Text.Blank

/-!
Cutting a text into tokens. Comments are passed over, but a doc comment stands for an attribute. A text that
cannot be cut fails at a place: a bracket that is never closed at the innermost one, a bracket that does not
match at that bracket, anything else at its first character.
-/

namespace WireSchema.Grammar

open WireSchema.Text

/-- The two marks of direction count as blanks. -/
def isSpace (c : Char) : Bool :=
  isBlank c || c == '\u200e' || c == '\u200f'

def toLineEnd (cs : Chars) : Chars :=
  cs.dropWhile fun x => x.1 != '\n'

/-- The rest after a block comment whose opening has been passed; comments nest. -/
def afterBlock : Nat → Chars → Option Chars
  | _, [] => none
  | depth, ('/', _) :: ('*', _) :: rest => afterBlock (depth + 1) rest
  | depth, ('*', _) :: ('/', _) :: rest =>
    match depth with
    | 0 | 1 => some rest
    | depth + 1 => afterBlock depth rest
  | depth, _ :: rest => afterBlock depth rest

def isPlainLine (cs : Chars) : Bool :=
  startsWith ['/', '/'] cs && !startsWith ['/', '/', '!'] cs &&
    (!startsWith ['/', '/', '/'] cs || startsWith ['/', '/', '/', '/'] cs)

def isPlainBlock (cs : Chars) : Bool :=
  startsWith ['/', '*'] cs && !startsWith ['/', '*', '!'] cs &&
    (!startsWith ['/', '*', '*'] cs || startsWith ['/', '*', '*', '*'] cs)

/-- Passes over blanks and comments; `fuel` bounds their number. -/
def skipBlanks : Nat → Chars → Chars
  | 0, cs => cs
  | _ + 1, [] => []
  | fuel + 1, (c, p) :: rest =>
    let cs := (c, p) :: rest
    if c = '/' then
      if isPlainLine cs then skipBlanks fuel (toLineEnd cs)
      else
        match after? ['/', '*', '*', '/'] cs with
        | some rest => skipBlanks fuel rest
        | none =>
          if isPlainBlock cs then
            match afterBlock 0 cs with
            | some rest => skipBlanks fuel rest
            | none => cs
          else cs
    else if isSpace c then skipBlanks fuel rest
    else cs

/-- A carriage return that no line feed follows, before the end `stop`. -/
def hasBareReturn (stop : Option Location) : Chars → Bool
  | [] => false
  | (c, p) :: rest =>
    if some p = stop then false
    else if c = '\r' then
      match rest with
      | ('\n', _) :: _ => hasBareReturn stop rest
      | _ => true
    else hasBareReturn stop rest

/-- The end of a doc comment and whether it belongs to what encloses it. -/
def docComment? (cs : Chars) : Option (Chars × Bool) :=
  let found :=
    if startsWith ['/', '/', '!'] cs then some (toLineEnd cs, true)
    else if startsWith ['/', '*', '!'] cs then (afterBlock 0 cs).map (·, true)
    else if startsWith ['/', '/', '/'] cs then
      if startsWith ['/', '/', '/', '/'] cs then none else some (toLineEnd cs, false)
    else if startsWith ['/', '*', '*'] cs && !startsWith ['/', '*', '*', '*'] cs then
      (afterBlock 0 cs).map (·, false)
    else none
  found.filter fun d => !hasBareReturn (d.1.head?.map (·.2)) cs

/-- The attribute that a doc comment stands for, last tree first. -/
def docTrees (p : Location) (inner : Bool) : List Tree :=
  let group := Tree.group .bracket [.word "doc" p, .sign '=' false p, .literal "" p] p p
  if inner then [group, .sign '!' false p, .sign '#' false p] else [group, .sign '#' false p]

def isSign (c : Char) : Bool :=
  "~!@#$%^&*-=+|;:,<.>/?'".toList.contains c

/-- A sign at the front; a slash that begins a comment is none. -/
def beginsSign (cs : Chars) : Bool :=
  match cs with
  | (c, _) :: _ => isSign c && !startsWith ['/', '/'] cs && !startsWith ['/', '*'] cs
  | [] => false

/-- Beginnings of strings, which are no names. -/
def stringStarts : List (List Char) := [
  ['r', '"'], ['r', '#', '"'], ['r', '#', '#'], ['b', '"'], ['b', '\''], ['b', 'r', '"'],
  ['b', 'r', '#'], ['c', '"'], ['c', 'r', '"'], ['c', 'r', '#']]

/-- Words that have no raw form. -/
def neverRaw : List String := ["_", "super", "self", "Self", "crate"]

/-- A name, possibly raw, and the text after it. -/
def name? (cs : Chars) : Option (String × Chars) :=
  match after? ['r', '#'] cs with
  | some body =>
    (afterName? body).bind fun rest =>
      let text := textBefore rest body
      if neverRaw.contains text then none else some ("r#" ++ text, rest)
  | none => (afterName? cs).map fun rest => (textBefore rest cs, rest)

/-- A lifetime, after its quote. A quote after the name would make it a character. -/
def lifetime? (cs : Chars) : Option Chars :=
  (name? cs).bind fun (_, rest) =>
    match rest with
    | ('\'', _) :: _ => none
    | ('#', _) :: _ => if startsWith ['r', '#'] cs then some rest else none
    | _ => some rest

/-- A token that is no bracket, at place `p`. -/
def leaf? (cs : Chars) (p : Location) : Option (Tree × Chars) :=
  match (stringLiteral? cs).or (charLiteral? cs) with
  | some rest => some (.literal "" p, rest)
  | none =>
    match numberLiteral? cs with
    | some rest => some (.literal (textBefore rest cs) p, rest)
    | none =>
      match cs with
      | [] => none
      | (c, _) :: rest =>
        if c = '\'' then (lifetime? rest).map (.lifetime p, ·)
        else if beginsSign cs then some (.sign c (beginsSign rest) p, rest)
        else if stringStarts.any (startsWith · cs) then none
        else (name? cs).map fun (text, rest) => (.word text p, rest)

def opening? (c : Char) : Option Delimiter :=
  if c = '(' then some .paren
  else if c = '[' then some .bracket
  else if c = '\x7b' then some .brace
  else none

def closing? (c : Char) : Option Delimiter :=
  if c = ')' then some .paren
  else if c = ']' then some .bracket
  else if c = '\x7d' then some .brace
  else none

/-- A bracket that is open: its kind and place, and the trees before it, last first. -/
structure Frame where
  delimiter : Delimiter
  place : Location
  before : List Tree

/-- Goes through the text with the open brackets and the trees since the last of them, last first. `fuel`
is above the number of characters left. -/
def lexFrom : Nat → List Frame → List Tree → Chars → Except Location (List Tree)
  | 0, _, _, _ => .error Location.start
  | fuel + 1, frames, done, cs =>
    let cs := skipBlanks fuel cs
    match cs with
    | [] =>
      match frames with
      | [] => .ok done.reverse
      | f :: _ => .error f.place
    | (c, p) :: rest =>
      match docComment? cs with
      | some (rest, inner) => lexFrom fuel frames (docTrees p inner ++ done) rest
      | none =>
        match opening? c, closing? c with
        | some d, _ => lexFrom fuel (⟨d, p, done⟩ :: frames) [] rest
        | _, some d =>
          match frames with
          | [] => .error p
          | f :: frames =>
            if f.delimiter = d then
              lexFrom fuel frames (.group d done.reverse f.place p :: f.before) rest
            else .error p
        | none, none =>
          match leaf? cs p with
          | some (t, rest) => lexFrom fuel frames (t :: done) rest
          | none => .error p

def lex (cs : Chars) : Except Location (List Tree) :=
  lexFrom (cs.length + 2) [] [] cs

end WireSchema.Grammar
