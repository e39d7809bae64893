import WireSchema.Proofs.Program.Syntax
import WireSchema.Wire.Codec

/-!
What the written codecs do. A statement acts on the members of its structure, on the bytes that are left to read or
written so far, and on the locals of its helper. It may return an error, and it is stuck where the code would make
no sense: a member that does not exist, a local that has no value, a value of another type. Structures call one
another by name, to a given depth.
-/

namespace WireSchema.Program

open WireSchema.Schema WireSchema.Version WireSchema.Source WireSchema.Wire

/-! ## Objects -/

inductive Object where
  | primitive (p : Primitive) (x : PrimitiveValue p)
  | vector (items : List Object)
  | struct (type : String) (members : List (String × Object))

abbrev Fields := List (String × Object)

namespace Fields

def get? : Fields → String → Option Object
  | [], _ => none
  | (name, o) :: rest, x => if name = x then some o else get? rest x

/-- Assigns a member that exists. -/
def set? : Fields → String → Object → Option Fields
  | [], _, _ => none
  | (name, o) :: rest, x, new =>
    if name = x then some ((name, new) :: rest) else (set? rest x new).map ((name, o) :: ·)

end Fields

/-! ## Statements -/

structure Frame where
  self : Fields
  input : List UInt8
  output : List UInt8
  length : Option Nat
  items : Option (List Object)
  item : Option Object

/-- Where a statement leaves off, and the error that it returns; nothing if it is stuck. -/
abbrev Outcome := Option (Frame × Option Wire.Error)

/-- After an error nothing more is run. -/
def Outcome.andThen (o : Outcome) (next : Frame → Outcome) : Outcome :=
  match o with
  | some (s, none) => next s
  | stopped => stopped

/-- What the statements rely on: the version, and the structures that they call. -/
structure Env where
  version : Int16
  fresh : String → Option Fields
  decode : String → Fields → List UInt8 → Option (Decoded Fields)
  encode : String → Fields → Option Written

namespace Frame

/-- A helper begins without locals. -/
def entered (s : Frame) : Frame :=
  { s with length := none, items := none, item := none }

def read {α : Type} (s : Frame) (d : Decoder α) (store : Frame → α → Option Frame) : Outcome :=
  match d s.input with
  | (.ok a, rest) => (store { s with input := rest } a).map (·, none)
  | (.error e, rest) => some ({ s with input := rest }, some e)

def write (s : Frame) (w : Written) : Frame × Option Wire.Error :=
  ({ s with output := s.output ++ w.bytes }, w.error)

def store (s : Frame) (name : String) (o : Object) : Option Frame :=
  (s.self.set? name o).map fun self => { s with self := self }

def push (s : Frame) (o : Object) : Option Frame :=
  s.items.map fun items => { s with items := some (items ++ [o]) }

def value? (s : Frame) : Place → Option Object
  | .member name => s.self.get? name
  | .item => s.item

/-- Decodes into a structure; what was decoded before an error stays in it. -/
def decodeInto (s : Frame) (env : Env) (o : Option Object) (store : Frame → Object → Option Frame) : Outcome :=
  match o with
  | some (.struct type members) =>
    (env.decode type members s.input).bind fun d =>
      (store { s with input := d.rest } (.struct type d.value)).map (·, d.error)
  | _ => none

end Frame

def Line.step (env : Env) : Line → Frame → Outcome
  | .readLength, s => s.read Decoder.arrayLength fun s n => some { s with length := some n }
  | .newItems, s => some ({ s with items := some [] }, none)
  | .pushPrimitive p, s => s.read (decodePrimitive p) fun s x => s.push (.primitive p x)
  | .newItem type, s =>
    (env.fresh type).map fun members => ({ s with item := some (.struct type members) }, none)
  | .decodeItem, s => s.decodeInto env s.item fun s o => some { s with item := some o }
  | .pushItem, s => s.item.bind fun o => (s.push o).map ({ · with item := none }, none)
  | .storeItems name, s => s.items.bind fun items => (s.store name (.vector items)).map (·, none)
  | .storePrimitive name p, s => s.read (decodePrimitive p) fun s x => s.store name (.primitive p x)
  | .decodeMember name, s => s.decodeInto env (s.self.get? name) fun s o => s.store name o
  | .writeLength name, s =>
    match s.self.get? name with
    | some (.vector items) => some (s.write (putArrayLength items.length))
    | _ => none
  | .write p place, s =>
    match s.value? place with
    | some (.primitive q x) => if q = p then some (s.write (encodePrimitive q x)) else none
    | _ => none
  | .encode place, s =>
    match s.value? place with
    | some (.struct type members) => (env.encode type members).map s.write
    | _ => none

def runLines (env : Env) : List Line → Frame → Outcome
  | [], s => some (s, none)
  | l :: ls, s => (l.step env s).andThen (runLines env ls)

def runTimes (env : Env) (body : List Line) : Nat → Frame → Outcome
  | 0, s => some (s, none)
  | n + 1, s => (runLines env body s).andThen (runTimes env body n)

/-- Runs the body once for each of the items. -/
def runOver (env : Env) (body : List Line) : List Object → Frame → Outcome
  | [], s => some ({ s with item := none }, none)
  | o :: os, s => (runLines env body { s with item := some o }).andThen (runOver env body os)

def Block.run (env : Env) : Block → Frame → Outcome
  | .line l, s => l.step env s
  | .loop .count body, s => s.length.bind fun n => runTimes env body n s
  | .loop (.items name) body, s =>
    match s.self.get? name with
    | some (.vector items) => runOver env body items s
    | _ => none

def runBlocks (env : Env) : List Block → Frame → Outcome
  | [], s => some (s, none)
  | b :: bs, s => (b.run env s).andThen (runBlocks env bs)

theorem Outcome.andThen_done (o : Outcome) : o.andThen (fun s => some (s, none)) = o := by
  rcases o with _ | ⟨s, _ | error⟩ <;> rfl

theorem runLines_singleton (env : Env) (l : Line) (s : Frame) : runLines env [l] s = l.step env s :=
  Outcome.andThen_done _

theorem runBlocks_singleton (env : Env) (b : Block) (s : Frame) : runBlocks env [b] s = b.run env s :=
  Outcome.andThen_done _

/-! ## Helpers and structures -/

/-- The test of a guard is read as a formula. -/
def Helper.run (env : Env) (h : Helper) (s : Frame) : Outcome :=
  match h.guard with
  | none => runBlocks env h.body s.entered
  | some test =>
    (Formula.read? versionVar test).bind fun f =>
      if f.eval env.version then some (s, none) else runBlocks env h.body s.entered

def call (env : Env) (helpers : List Helper) (name : String) (s : Frame) : Outcome :=
  (helpers.find? (·.name == name)).bind fun h => h.run env s

def runCalls (env : Env) (helpers : List Helper) : List String → Frame → Outcome
  | [], s => some (s, none)
  | name :: names, s => (call env helpers name s).andThen (runCalls env helpers names)

/-- The integer as a value of the type, if it is one. -/
def integer? (n : Int) : Primitive → Option Object
  | .int8 => if (Int8.ofInt n).toInt = n then some (.primitive .int8 (Int8.ofInt n)) else none
  | .int16 => if (Int16.ofInt n).toInt = n then some (.primitive .int16 (Int16.ofInt n)) else none
  | .int32 => if (Int32.ofInt n).toInt = n then some (.primitive .int32 (Int32.ofInt n)) else none
  | .int64 => if (Int64.ofInt n).toInt = n then some (.primitive .int64 (Int64.ofInt n)) else none
  | _ => none

/-- The object that an initial value makes as a member of the type. -/
def Initial.object? (fresh : String → Option Fields) : FieldType → Initial → Option Object
  | ⟨_, true⟩, .emptyVector => some (.vector [])
  | ⟨.primitive .bool, false⟩, .bool b => some (.primitive .bool b)
  | ⟨.primitive p, false⟩, .integer n => integer? n p
  | ⟨.primitive .string, false⟩, .emptyText => some (.primitive .string "")
  | ⟨.primitive .string, false⟩, .text s => some (.primitive .string s)
  | ⟨.primitive .bytes, false⟩, .emptyVector => some (.primitive .bytes [])
  | ⟨.struct type, false⟩, .inherited => (fresh type).map (.struct type)
  | _, _ => none

def freshMembers (fresh : String → Option Fields) : List Member → Option Fields
  | [] => some []
  | m :: ms =>
    (m.initial.toOption.bind (Initial.object? fresh m.type)).bind fun o =>
      (freshMembers fresh ms).map ((m.name, o) :: ·)

namespace Definition

def fresh (env : Env) (d : Definition) : Option Fields :=
  freshMembers env.fresh d.members

/-- Resets the structure, whatever it held, and calls the decoding helpers. -/
def decode (env : Env) (d : Definition) (_previous : Fields) (input : List UInt8) : Option (Decoded Fields) :=
  (d.fresh env).bind fun self =>
    (runCalls env (d.helpers.map Prod.fst) d.decodeCalls ⟨self, input, [], none, none, none⟩).map fun o =>
      ⟨o.1.self, o.1.input, o.2⟩

def encode (env : Env) (d : Definition) (self : Fields) : Option Written :=
  (runCalls env (d.helpers.map Prod.snd) d.encodeCalls ⟨self, [], [], none, none, none⟩).map fun o =>
    ⟨o.1.output, o.2⟩

end Definition

def lookup (library : List Definition) (name : String) : Option Definition :=
  library.find? (·.name == name)

/-- The structures of a library, calling one another to less than the depth. -/
def envOf (library : List Definition) (version : Int16) : (depth : Nat) → Env
  | 0 => ⟨version, fun _ => none, fun _ _ _ => none, fun _ _ => none⟩
  | depth + 1 =>
    let inner := envOf library version depth
    { version := version
      fresh := fun name => (lookup library name).bind (·.fresh inner)
      decode := fun name previous input => (lookup library name).bind (·.decode inner previous input)
      encode := fun name self => (lookup library name).bind (·.encode inner self) }

def libraryOf (m : Message) : List Definition :=
  m.records.map definitionOf

end WireSchema.Program
