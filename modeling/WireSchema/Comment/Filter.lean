/-!
Line comments in a byte stream. A comment runs from `//` to the end of its line; its bytes, with the
slashes and the line feed, are collected, and the line feed stays in the text too. A single slash is held
back until the next byte shows what it is, so a slash at the very end of the input is never released.

The filter is a machine that takes one byte at a time, so it does not matter how the input is cut into
pieces.
-/

namespace WireSchema.Comment

inductive State where
  | text
  | slash
  | comment
  deriving DecidableEq, Repr

/-- What the filter remembers. The two outputs are kept newest byte first. -/
structure Filter where
  state : State := .text
  kept : List UInt8 := []
  collected : List UInt8 := []
  deriving DecidableEq, Repr

def slash : UInt8 := 0x2F

def newline : UInt8 := 0x0A

namespace Filter

def start : Filter := {}

def step (f : Filter) (b : UInt8) : Filter :=
  match f.state with
  | .text =>
    if b = slash then { f with state := .slash } else { f with kept := b :: f.kept }
  | .slash =>
    if b = slash then { f with state := .comment, collected := slash :: slash :: f.collected }
    else { f with state := .text, kept := b :: slash :: f.kept }
  | .comment =>
    if b = newline then
      { state := .text, kept := newline :: f.kept, collected := newline :: f.collected }
    else { f with collected := b :: f.collected }

def feed (f : Filter) (bytes : List UInt8) : Filter :=
  bytes.foldl step f

/-- The bytes outside comments. -/
def text (f : Filter) : List UInt8 :=
  f.kept.reverse

/-- The bytes of all comments. -/
def comments (f : Filter) : List UInt8 :=
  f.collected.reverse

/-- The text of the bytes fed since `earlier`. -/
def textSince (f earlier : Filter) : List UInt8 :=
  (f.kept.take (f.kept.length - earlier.kept.length)).reverse

end Filter

/-- The text and the comments of a whole input. -/
def split (bytes : List UInt8) : List UInt8 × List UInt8 :=
  let f := Filter.start.feed bytes
  (f.text, f.comments)

end WireSchema.Comment
