import WireSchema.Name.Case
import WireSchema.Name.Keyword
import WireSchema.Schema.Record
import WireSchema.Source.Piece
import WireSchema.Version.Condition

/-!
The source of message codecs. Every structure of a message, which is the message itself, each structure
declared inline and each one declared beside the fields, becomes a type with its default value and, for
each field, a helper that decodes it and one that encodes it; a helper returns at once at a version that
the field does not have. The conditions assume that the version lies in the range of the enclosing
structure.
-/

namespace WireSchema.Source

open WireSchema.Text WireSchema.Schema WireSchema.Version

/-- The variable that holds the version in the generated code. -/
def versionVar : String := "version"

/-- The type of a primitive in the generated code. -/
def primitiveType : Primitive → String
  | .bool => "bool"
  | .int8 => "i8"
  | .int16 => "i16"
  | .int32 => "i32"
  | .int64 => "i64"
  | .string => "String"
  | .bytes => "Vec<u8>"

def elementType : Element → String
  | .primitive p => primitiveType p
  | .struct name => name

def fieldType (t : FieldType) : String :=
  if t.isArray then "Vec<" ++ elementType t.element ++ ">" else elementType t.element

def snakeOf (f : Field) : String :=
  Name.snake f.name

def identOf (f : Field) : String :=
  Name.identifier (snakeOf f)

def braceLine (text : String) : Piece :=
  line (text ++ " \x7b")

def closeLine : Piece :=
  line "\x7d"

/-! ## References -/

/-- A field whose structure is not declared anywhere in the message. -/
def referencePieces (known : List String) (r : Record) : Pieces :=
  r.fields.filterMap fun f =>
    match f.type.element with
    | .primitive _ => none
    | .struct name =>
      if known.contains name then none else some (.error (.unknownStructure r.name f.name name))

/-! ## The type and its default value -/

/-- The text of a doc comment, line by line. -/
def aboutPieces (about : String) : Pieces :=
  (Lines.plain about.toList).map fun l =>
    match trimEnd l with
    | [] => line "///"
    | doc => line ("/// " ++ String.ofList doc)

def memberPieces (f : Field) : Pieces :=
  aboutPieces f.about ++ [
    line ("#[serde(rename = \"" ++ snakeOf f ++ "\")]"),
    line ("pub " ++ identOf f ++ ": " ++ fieldType f.type ++ ",")]

/-- An empty line between two of the given parts. -/
def separated : List Pieces → Pieces
  | [] => []
  | [ps] => ps
  | ps :: rest => ps ++ blankLine :: separated rest

def typePieces (r : Record) : Pieces :=
  [line "#[derive(Debug, Clone, PartialEq, Serialize, Deserialize)]",
    braceLine ("pub struct " ++ r.name)] ++
  separated (r.fields.map memberPieces) ++ [closeLine]

def defaultText (t : FieldType) (d : Default) : Except Schema.Error String :=
  if t.isArray then .ok "Vec::new()"
  else
    match t.element with
    | .primitive .bool => d.toBool.map fun b => if b then "true" else "false"
    | .primitive .string => d.toText.map fun s =>
      if s.isEmpty then "String::new()" else "String::from(" ++ Quoted.encode s ++ ")"
    | .primitive .bytes => .ok "Vec::new()"
    | .primitive p => (d.toInt (p.bits?.getD 64)).map Numeral.decimal
    | .struct _ => .ok "Default::default()"

def defaultPieces (owner : String) (f : Field) : Pieces :=
  [.ok (identOf f ++ ": "),
    (defaultText f.type f.default).mapError (.default owner f.name ·),
    line ","]

def defaultImplPieces (r : Record) : Pieces :=
  [line "#[allow(clippy::derivable_impls)]",
    braceLine ("impl Default for " ++ r.name),
    braceLine "fn default() -> Self",
    braceLine "Self"] ++
  r.fields.flatMap (defaultPieces r.name) ++ [closeLine, closeLine, closeLine]

/-! ## Field helpers -/

/-- Leaves a helper unless the condition holds. -/
def guardPieces (c : Condition) : Pieces :=
  match c with
  | .always => []
  | c => [braceLine ("if " ++ c.renderNegated versionVar), line "return Ok(());", closeLine]

def codecResult : String := " -> Result<(), CodecError>"

def decodeSignature (name : String) : String :=
  "fn " ++ name ++ "(&mut self, d: &mut Decoder<'_>, " ++ versionVar ++ ": i16)" ++ codecResult

def encodeSignature (name : String) : String :=
  "fn " ++ name ++ "(&self, e: &mut Encoder, " ++ versionVar ++ ": i16)" ++ codecResult

def decodeItemPieces : Element → Pieces
  | .primitive p => [line ("items.push(d.read_" ++ p.token ++ "()?);")]
  | .struct name => [
    line ("let mut item = " ++ name ++ "::default();"),
    line ("item.decode(d, " ++ versionVar ++ ")?;"),
    line "items.push(item);"]

def decodeBody (f : Field) : Pieces :=
  if f.type.isArray then
    [line "let len = d.read_array_len()?;",
      line "let mut items = Vec::new();",
      braceLine "for _ in 0..len"] ++
    decodeItemPieces f.type.element ++ [closeLine, line ("self." ++ identOf f ++ " = items;")]
  else
    match f.type.element with
    | .primitive p => [line ("self." ++ identOf f ++ " = d.read_" ++ p.token ++ "()?;")]
    | .struct _ => [line ("self." ++ identOf f ++ ".decode(d, " ++ versionVar ++ ")?;")]

def decodeHelper (f : Field) (c : Condition) : Pieces :=
  braceLine (decodeSignature ("decode_" ++ snakeOf f)) ::
    guardPieces c ++ decodeBody f ++ [line "Ok(())", closeLine]

/-- Writes a value; in a loop the value is a reference. -/
def encodeStatement (element : Element) (value : String) (isReference : Bool) : String :=
  match element with
  | .primitive .string | .primitive .bytes =>
    let arg := if isReference then value else "&" ++ value
    "e.write_" ++ element.render ++ "(" ++ arg ++ ")?;"
  | .primitive p =>
    let arg := if isReference then "*" ++ value else value
    "e.write_" ++ p.token ++ "(" ++ arg ++ ");"
  | .struct _ => value ++ ".encode(e, " ++ versionVar ++ ")?;"

def encodeBody (f : Field) : Pieces :=
  let value := "self." ++ identOf f
  if f.type.isArray then [
    line ("e.write_array_len(" ++ value ++ ".len())?;"),
    braceLine ("for item in &" ++ value),
    line (encodeStatement f.type.element "item" true),
    closeLine]
  else [line (encodeStatement f.type.element value false)]

def encodeHelper (f : Field) (c : Condition) : Pieces :=
  braceLine (encodeSignature ("encode_" ++ snakeOf f)) ::
    guardPieces c ++ encodeBody f ++ [line "Ok(())", closeLine]

/-- The test that the helpers of a field make. -/
def fieldCondition (r : Record) (f : Field) : Condition :=
  Condition.within f.versions r.versions

def helperPieces (r : Record) (f : Field) : Pieces :=
  blankLine :: decodeHelper f (fieldCondition r f) ++
    blankLine :: encodeHelper f (fieldCondition r f)

/-! ## The implementations -/

def predicatePieces (name : String) (c : Condition) : Pieces := [
  braceLine ("pub fn " ++ name ++ "(" ++ versionVar ++ ": i16) -> bool"),
  line (c.render versionVar),
  closeLine]

def apiKeyPieces (key : Int16) : Pieces := [
  line ("pub const API_KEY: i16 = " ++ Numeral.decimal key.toInt ++ ";"),
  blankLine,
  braceLine "pub fn api_key(&self) -> i16",
  line "Self::API_KEY",
  closeLine,
  blankLine]

/-- What only the message itself has: its key, if it belongs to an API, and the tests of versions. -/
def messageOnlyPieces (m : Message) : Pieces :=
  (match m.isApi, m.apiKey with
    | true, some key => apiKeyPieces key
    | _, _ => []) ++
  predicatePieces "is_version_valid" (Condition.within m.validVersions none) ++
  blankLine :: predicatePieces "is_version_flexible"
    (Condition.within m.flexibleVersions m.validVersions) ++ [blankLine]

def inherentPieces (r : Record) (extra : Pieces) : Pieces :=
  [line "#[allow(unused_variables, clippy::manual_range_contains)]",
    braceLine ("impl " ++ r.name)] ++
  extra ++
  [braceLine "pub fn reset(&mut self)", line "*self = Self::default();", closeLine] ++
  r.fields.flatMap (helperPieces r) ++ [closeLine]

def codecPieces (r : Record) : Pieces :=
  [line "#[allow(unused_variables)]",
    braceLine ("impl Message for " ++ r.name),
    braceLine (decodeSignature "decode"),
    line "self.reset();"] ++
  r.fields.map (fun f => line ("self.decode_" ++ snakeOf f ++ "(d, " ++ versionVar ++ ")?;")) ++
  [line "Ok(())", closeLine, blankLine, braceLine (encodeSignature "encode")] ++
  r.fields.map (fun f => line ("self.encode_" ++ snakeOf f ++ "(e, " ++ versionVar ++ ")?;")) ++
  [line "Ok(())", closeLine, closeLine]

/-- All that is written for one structure. -/
def recordPieces (known : List String) (extra : Pieces) (r : Record) : Pieces :=
  referencePieces known r ++ typePieces r ++ blankLine :: defaultImplPieces r ++
    blankLine :: inherentPieces r extra ++ blankLine :: codecPieces r

end WireSchema.Source
