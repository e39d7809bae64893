import WireSchema.Json.Failure

/-!
Reading a document byte by byte with one byte of lookahead. The document is the sequence of answers that
its source gives to requests for a byte: a byte, no byte for now, or a failure. A cursor counts the
requests made, also those after the last answer, so a place in the document is a number and its line and
column are computed from the bytes before it; looking at a byte takes it.

A reader gives back the cursor also when it fails, because the brackets around a failed value are still
looked for before the failure gets its place.
-/

namespace WireSchema.Json

/-- The answer of a source to one request for a byte. -/
inductive Pull where
  | byte (b : UInt8)
  | pause
  | failed (text : String)
  deriving DecidableEq, Repr

abbrev Document := Array Pull

def Document.ofBytes (bytes : List UInt8) : Document :=
  (bytes.map Pull.byte).toArray

/-- Lines count from one, and the column is the number of bytes since the last line feed. -/
structure Position where
  line : Nat
  column : Nat
  deriving DecidableEq, Repr

namespace Position

def start : Position := ⟨1, 0⟩

def step (p : Position) : Pull → Position
  | .byte b => if b = 0x0A then ⟨p.line + 1, 0⟩ else ⟨p.line, p.column + 1⟩
  | _ => p

def after (pulls : List Pull) : Position :=
  pulls.foldl step start

end Position

/-- The position after `taken` requests. -/
def Document.positionAt (doc : Document) (taken : Nat) : Position :=
  Position.after (doc.toList.take taken)

structure Cursor where
  taken : Nat
  /-- A byte that was taken to look at it and is not consumed. -/
  ahead : Option UInt8
  deriving DecidableEq, Repr

def Cursor.start : Cursor := ⟨0, none⟩

def Reader (α : Type) := Document → Cursor → Except Failure α × Cursor

namespace Reader

variable {α β σ : Type}

def pure (a : α) : Reader α :=
  fun _ c => (.ok a, c)

def bind (r : Reader α) (f : α → Reader β) : Reader β := fun doc c =>
  match r doc c with
  | (.ok a, c) => f a doc c
  | (.error e, c) => (.error e, c)

instance : Monad Reader where
  pure := Reader.pure
  bind := Reader.bind

/-- Fails at the present place. -/
def fail (cause : Cause) : Reader α :=
  fun _ c => (.error ⟨cause, some c.taken⟩, c)

/-- Fails with a place still to be given. -/
def raise (cause : Cause) : Reader α :=
  fun _ c => (.error ⟨cause, none⟩, c)

/-- Gives the present place to a failure that has none. -/
def stamp (r : Reader α) : Reader α := fun doc c =>
  match r doc c with
  | (.error ⟨cause, none⟩, c) => (.error ⟨cause, some c.taken⟩, c)
  | result => result

/-- The next answer of the source; after the last one it has no more bytes. -/
def pull : Reader (Option UInt8) := fun doc c =>
  match doc[c.taken]? with
  | none => (.ok none, { c with taken := c.taken + 1 })
  | some (.byte b) => (.ok (some b), { c with taken := c.taken + 1 })
  | some .pause => (.ok none, { c with taken := c.taken + 1 })
  | some (.failed text) => (.error ⟨.source text, none⟩, { c with taken := c.taken + 1 })

def setAhead (b : Option UInt8) : Reader Unit :=
  fun _ c => (.ok (), { c with ahead := b })

def getAhead : Reader (Option UInt8) :=
  fun _ c => (.ok c.ahead, c)

/-- Looks at the next byte. -/
def peek : Reader (Option UInt8) := do
  match ← getAhead with
  | some b => return some b
  | none =>
    let b ← pull
    setAhead b
    return b

/-- Consumes the byte that was looked at. -/
def discard : Reader Unit :=
  setAhead none

/-- Consumes the next byte. -/
def next : Reader (Option UInt8) := do
  match ← getAhead with
  | some b =>
    discard
    return some b
  | none => pull

def loopWith (step : σ → Reader (σ ⊕ α)) : Nat → σ → Reader α
  | 0, _ => fail .endInValue
  | fuel + 1, s => do
    match ← step s with
    | .inl s => loopWith step fuel s
    | .inr a => return a

/-- Repeats a step that goes on only after it has taken a byte. A document of `n` answers allows `n`
repetitions, and two more cover the byte ahead and the last step. -/
def loop (step : σ → Reader (σ ⊕ α)) (s : σ) : Reader α :=
  fun doc => loopWith step (doc.size + 2) s doc

def isBlank (b : UInt8) : Bool :=
  b == 0x20 || b == 0x0A || b == 0x09 || b == 0x0D

/-- Passes over blanks and looks at the byte after them. -/
def skipBlanks : Reader (Option UInt8) :=
  loop (fun _ => do
    match ← peek with
    | some b =>
      if isBlank b then
        discard
        return .inl ()
      else return .inr (some b)
    | none => return .inr none) ()

/-- The first byte of a value. -/
def valueStart : Reader UInt8 := do
  match ← skipBlanks with
  | some b => return b
  | none => fail .endInValue

/-- Only blanks may follow. -/
def finish : Reader Unit := do
  match ← skipBlanks with
  | some _ => fail .trailingCharacters
  | none => return ()

/-- Reads a whole document. -/
def whole (r : Reader α) (doc : Document) : Except Failure α × Cursor :=
  (do
    let a ← r
    finish
    return a : Reader α) doc Cursor.start

end Reader

end WireSchema.Json
