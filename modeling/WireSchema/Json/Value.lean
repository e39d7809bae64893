import WireSchema.Json.Compound

/-!
Documents of any shape. The members of an object are sorted by key, and of two members with the same key
the later one counts.
-/

namespace WireSchema.Json

inductive Value where
  | null
  | boolean (b : Bool)
  | number (n : Number)
  | text (s : String)
  | list (elements : List Value)
  | object (members : List (String × Value))
  deriving Repr

namespace Value

def found : Value → Found
  | .null => .null
  | .boolean b => .boolean b
  | .number n => n.found
  | .text s => .text s
  | .list _ => .list
  | .object _ => .object

def member? (name : String) : Value → Option Value
  | .object members => members.lookup name
  | _ => none

/-- Puts a member in its place among sorted ones. -/
def insert (name : String) (v : Value) : List (String × Value) → List (String × Value)
  | [] => [(name, v)]
  | (n, w) :: rest =>
    if name < n then (name, v) :: (n, w) :: rest
    else if name = n then (name, v) :: rest
    else (n, w) :: insert name v rest

end Value

namespace Reader

def members (value : Reader Value) : Reader (List (String × Value)) :=
  loop (fun (s : Bool × List (String × Value)) => do
    if ← hasKey s.1 then
      discard
      let name ← restOfString
      colon
      let v ← value
      return .inl (false, Value.insert name v s.2)
    else return .inr s.2) (true, [])

/-- A value; `inner` reads its parts where another bracket may be opened. -/
def valueWith (inner : Option (Reader Value)) : Reader Value := do
  let b ← valueStart
  if b = 0x6E then
    discard
    restOfNull
    return .null
  else if b = 0x74 then
    discard
    restOfTrue
    return .boolean true
  else if b = 0x66 then
    discard
    restOfFalse
    return .boolean false
  else if b = 0x2D then
    discard
    return .number (← number true)
  else if isDigit b then return .number (← number false)
  else if b = 0x22 then
    discard
    return .text (← restOfString)
  else if b = 0x5B then
    match inner with
    | none => fail .nestedTooDeep
    | some inner => return .list (← inList (elements inner))
  else if b = 0x7B then
    match inner with
    | none => fail .nestedTooDeep
    | some inner => return .object (← inObject (members inner))
  else fail .expectedValue

/-- A value with at most `depth` brackets open at once. -/
def value : Nat → Reader Value
  | 0 => valueWith none
  | depth + 1 => valueWith (some (value depth))

end Reader

def Value.parse (bytes : List UInt8) : Except Failure Value :=
  (Reader.whole (Reader.value nestingLimit) (Document.ofBytes bytes)).1

end WireSchema.Json
