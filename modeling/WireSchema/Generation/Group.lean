import WireSchema.Generation.Error

/-!
Groups of a request and a response. Each of the two slots is filled once; the message that fills the second
one completes the group, and no other does.
-/

namespace WireSchema.Generation

open WireSchema.Schema (Message)

/-- Both messages of a completed group. -/
structure Pair where
  request : Message
  response : Message
  deriving Repr

structure Slots where
  request : Option Message := none
  response : Option Message := none
  deriving Repr

namespace Slots

def empty : Slots := {}

def get (s : Slots) : Slot → Option Message
  | .request => s.request
  | .response => s.response

def set (s : Slots) (slot : Slot) (m : Message) : Slots :=
  match slot with
  | .request => { s with request := some m }
  | .response => { s with response := some m }

def pair? (s : Slots) : Option Pair :=
  match s.request, s.response with
  | some request, some response => some ⟨request, response⟩
  | _, _ => none

/-- The slot that waits for its message, if exactly one does. -/
def missing (s : Slots) : Option Slot :=
  match s.request, s.response with
  | some _, none => some .response
  | none, some _ => some .request
  | _, _ => none

/-- Fills a slot of the group called `label`; gives the slots after it, and the pair if it is complete. -/
def fill (s : Slots) (label : String) (slot : Slot) (m : Message) :
    Except Error (Slots × Option Pair) :=
  match s.get slot with
  | some existing => .error (.conflict label slot existing.name m.name)
  | none => .ok (s.set slot m, (s.set slot m).pair?)

end Slots

/-- The request and the response that share an API key. -/
structure ApiGroup where
  key : Int16
  slots : Slots := {}
  deriving Repr

namespace ApiGroup

/-- The slot that a message fills by its kind. -/
def slotOf (key : Int16) (m : Message) : Except Error Slot :=
  match m.kind with
  | .request => .ok .request
  | .response => .ok .response
  | .header => .error (.fault (.strayHeader m.name key))

def fill (g : ApiGroup) (m : Message) : Except Error (ApiGroup × Option Pair) := do
  let slot ← slotOf g.key m
  let (slots, pair) ← g.slots.fill (apiLabel g.key) slot m
  return ({ g with slots }, pair)

def missing (g : ApiGroup) : Option Slot :=
  g.slots.missing

end ApiGroup

/-- The headers of requests and responses, known by their names. -/
structure HeaderGroup where
  requestName : String
  responseName : String
  slots : Slots := {}
  deriving Repr

namespace HeaderGroup

/-- The slot that a message fills by its name. -/
def slotOf (g : HeaderGroup) (m : Message) : Except Error Slot :=
  if m.name = g.requestName then .ok .request
  else if m.name = g.responseName then .ok .response
  else .error (.fault (.unexpectedHeader m.name g.requestName g.responseName))

def fill (g : HeaderGroup) (m : Message) : Except Error (HeaderGroup × Option Pair) := do
  let slot ← g.slotOf m
  let (slots, pair) ← g.slots.fill headersLabel slot m
  return ({ g with slots }, pair)

def missing (g : HeaderGroup) : Option Slot :=
  g.slots.missing

end HeaderGroup

end WireSchema.Generation
