import WireSchema.Json.Scalar

/-!
Values with parts. A record is read from an object, whose keys may come in any order, or from a list that
holds the members in the order of their declaration. It is built up as a draft: an object must not repeat a
key nor bring an unknown one, a list may stop early where the members left out are optional.

When the inside of a value fails, its closing bracket is looked for all the same, and only then does the
failure get its place.
-/

namespace WireSchema.Json

/-- How many brackets may be open at once. -/
def nestingLimit : Nat := 127

/-- How the members of a record are read into a draft `δ`, by key `κ`. -/
structure RecordFormat (κ δ : Type) where
  typeName : String
  /-- The keys in the order of declaration. -/
  keys : List κ
  name : κ → String
  required : κ → Bool
  isSet : κ → δ → Bool
  read : κ → δ → Reader δ
  empty : δ

namespace RecordFormat

variable {κ δ : Type}

def names (f : RecordFormat κ δ) : List String :=
  f.keys.map f.name

def find? (f : RecordFormat κ δ) (name : String) : Option κ :=
  f.keys.find? fun k => f.name k == name

def expected (f : RecordFormat κ δ) : String :=
  "struct " ++ f.typeName

def expectedLength (f : RecordFormat κ δ) : String :=
  f.expected ++ " with " ++ Text.Numeral.ofNat 10 f.keys.length ++ " elements"

end RecordFormat

namespace Reader

variable {α κ δ : Type}

/-- After the last element of a list. -/
def endOfList : Reader Unit := do
  match ← skipBlanks with
  | some 0x5D => discard
  | some 0x2C =>
    discard
    match ← skipBlanks with
    | some 0x5D => fail .trailingComma
    | _ => fail .trailingCharacters
  | some _ => fail .trailingCharacters
  | none => fail .endInList

/-- After the last member of an object. -/
def endOfObject : Reader Unit := do
  match ← skipBlanks with
  | some 0x7D => discard
  | some 0x2C => fail .trailingComma
  | some _ => fail .trailingCharacters
  | none => fail .endInObject

/-- Runs `inner` and then, also if it failed, `close`. The first failure counts. -/
def closedBy (close : Reader Unit) (inner : Reader α) : Reader α := fun doc c =>
  match inner doc c with
  | (.ok a, c) =>
    match close doc c with
    | (.ok _, c) => (.ok a, c)
    | (.error e, c) => (.error e, c)
  | (.error e, c) => (.error e, (close doc c).2)

def inList (inner : Reader α) : Reader α :=
  stamp (closedBy endOfList do
    discard
    inner)

def inObject (inner : Reader α) : Reader α :=
  stamp (closedBy endOfObject do
    discard
    inner)

/-- Whether another element follows; `first` before the first one. -/
def hasElement (first : Bool) : Reader Bool := do
  match ← skipBlanks with
  | none => fail .endInList
  | some b =>
    if b = 0x5D then return false
    else if first then return true
    else if b = 0x2C then
      discard
      match ← skipBlanks with
      | some 0x5D => fail .trailingComma
      | some _ => return true
      | none => fail .endInValue
    else fail .expectedCommaOrBracket

/-- Whether another key follows; `first` before the first one. -/
def hasKey (first : Bool) : Reader Bool := do
  match ← skipBlanks with
  | none => fail .endInObject
  | some b =>
    if b = 0x7D then return false
    else if first then
      if b = 0x22 then return true else fail .keyNotString
    else if b = 0x2C then
      discard
      match ← skipBlanks with
      | some 0x22 => return true
      | some 0x7D => fail .trailingComma
      | some _ => fail .keyNotString
      | none => fail .endInValue
    else fail .expectedCommaOrBrace

def colon : Reader Unit := do
  match ← skipBlanks with
  | some 0x3A => discard
  | some _ => fail .expectedColon
  | none => fail .endInObject

/-- The elements of a list whose bracket is open. -/
def elements (element : Reader α) : Reader (List α) :=
  loop (fun (acc : List α) => do
    if ← hasElement acc.isEmpty then
      let a ← element
      return .inl (a :: acc)
    else return .inr acc.reverse) []

/-- A list. Where no further bracket may be opened there is no reader for its elements. -/
def listOf (element : Option (Reader α)) : Reader (List α) := do
  let b ← valueStart
  if b = 0x5B then
    match element with
    | none => fail .nestedTooDeep
    | some element => inList (elements element)
  else mismatch "a sequence" b

/-- The members of an object whose brace is open. -/
def keyedMembers (f : RecordFormat κ δ) : Reader δ :=
  loop (fun (s : Bool × δ) => do
    if ← hasKey s.1 then
      discard
      let name ← restOfString
      match f.find? name with
      | none => raise (.unknownKey name f.names)
      | some k =>
        if f.isSet k s.2 then raise (.repeatedKey (f.name k))
        else
          colon
          let draft ← f.read k s.2
          return .inl (false, draft)
    else return .inr s.2) (true, f.empty)

/-- The required members that a finished draft lacks, in the order of declaration. -/
def firstMissing (f : RecordFormat κ δ) (draft : δ) : Option κ :=
  f.keys.find? fun k => f.required k && !f.isSet k draft

def keyedRecord (f : RecordFormat κ δ) : Reader δ := do
  let draft ← keyedMembers f
  match firstMissing f draft with
  | some k => raise (.missingKey (f.name k))
  | none => return draft

/-- The members of a list whose bracket is open, from index `i` on. -/
def listedMembers (f : RecordFormat κ δ) : List κ → Nat → δ → Reader δ
  | [], _, draft => return draft
  | k :: ks, i, draft => do
    if ← hasElement (i == 0) then
      let draft ← f.read k draft
      listedMembers f ks (i + 1) draft
    else if f.required k then raise (.wrongLength i f.expectedLength)
    else listedMembers f ks (i + 1) draft

/-- A record. Where no further bracket may be opened there is no format for its members. -/
def record (typeName : String) (format : Option (RecordFormat κ δ)) : Reader δ := do
  let b ← valueStart
  if b = 0x5B then
    match format with
    | none => fail .nestedTooDeep
    | some f => inList (listedMembers f f.keys 0 f.empty)
  else if b = 0x7B then
    match format with
    | none => fail .nestedTooDeep
    | some f => inObject (keyedRecord f)
  else mismatch ("struct " ++ typeName) b

/-- A string that names one of several values. -/
def variantName (variants : List (String × α)) : Reader α := do
  let s ← text "variant identifier"
  match variants.lookup s with
  | some a => return a
  | none => stamp (raise (.unknownVariant s (variants.map (·.1))))

/-- One of several named values: its name, or an object with its name as only key and `null`. -/
def variant (variants : List (String × α)) : Reader α := do
  match ← skipBlanks with
  | some 0x7B =>
    discard
    match ← skipBlanks with
    | some 0x22 =>
      let a ← variantName variants
      colon
      unit
      match ← skipBlanks with
      | some 0x7D =>
        discard
        return a
      | some _ => fail .expectedValue
      | none => fail .endInObject
    | some _ => fail .keyNotString
    | none => fail .endInValue
  | some 0x22 => variantName variants
  | some _ => fail .expectedValue
  | none => fail .endInValue

end Reader

end WireSchema.Json
