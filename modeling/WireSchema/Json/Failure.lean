import WireSchema.Decimal.Layout
import WireSchema.Text.Quoted

/-!
Why a document cannot be read. A failure is a cause and, once it is known, the number of bytes that had
been taken from the document when it arose. Causes found by the grammar know their place at once; causes
found by the data model get it from the enclosing value.
-/

namespace WireSchema.Json

open WireSchema.Text WireSchema.Decimal

/-- What stands where another kind of value was expected. -/
inductive Found where
  | null
  | boolean (b : Bool)
  | integer (n : Int)
  | float (x : Binary64)
  | text (s : String)
  | list
  | object
  deriving DecidableEq, Repr

def Found.describe : Found → String
  | .null => "null"
  | .boolean b => if b then "boolean `true`" else "boolean `false`"
  | .integer n => "integer `" ++ Numeral.decimal n ++ "`"
  | .float x => "floating point `" ++ Layout.report.write x ++ "`"
  | .text s => "string " ++ Quoted.encode s
  | .list => "sequence"
  | .object => "map"

inductive Cause where
  | source (text : String)
  | endInValue
  | endInList
  | endInObject
  | endInString
  | expectedValue
  | expectedWord
  | expectedColon
  | expectedCommaOrBracket
  | expectedCommaOrBrace
  | trailingComma
  | trailingCharacters
  | keyNotString
  | invalidNumber
  | numberOutOfRange
  | invalidEscape
  | loneSurrogate
  | cutHexEscape
  | invalidCodePoint
  | controlCharacter
  | nestedTooDeep
  | wrongType (found : Found) (expected : String)
  | wrongValue (found : Int) (expected : String)
  | wrongLength (length : Nat) (expected : String)
  | unknownKey (name : String) (known : List String)
  | unknownVariant (name : String) (known : List String)
  | missingKey (name : String)
  | repeatedKey (name : String)
  | refused (reason : String)
  deriving DecidableEq, Repr

/-- Names between backticks, joined as a choice. -/
def choice (names : List String) : String :=
  match names.map (fun n => "`" ++ n ++ "`") with
  | [] => ""
  | [a] => a
  | [a, b] => a ++ " or " ++ b
  | quoted => "one of " ++ String.intercalate ", " quoted

def Cause.message : Cause → String
  | .source text => text
  | .endInValue => "EOF while parsing a value"
  | .endInList => "EOF while parsing a list"
  | .endInObject => "EOF while parsing an object"
  | .endInString => "EOF while parsing a string"
  | .expectedValue => "expected value"
  | .expectedWord => "expected ident"
  | .expectedColon => "expected `:`"
  | .expectedCommaOrBracket => "expected `,` or `]`"
  | .expectedCommaOrBrace => "expected `,` or `\x7d`"
  | .trailingComma => "trailing comma"
  | .trailingCharacters => "trailing characters"
  | .keyNotString => "key must be a string"
  | .invalidNumber => "invalid number"
  | .numberOutOfRange => "number out of range"
  | .invalidEscape => "invalid escape"
  | .loneSurrogate => "lone leading surrogate in hex escape"
  | .cutHexEscape => "unexpected end of hex escape"
  | .invalidCodePoint => "invalid unicode code point"
  | .controlCharacter => "control character (\\u0000-\\u001F) found while parsing a string"
  | .nestedTooDeep => "recursion limit exceeded"
  | .wrongType found expected => "invalid type: " ++ found.describe ++ ", expected " ++ expected
  | .wrongValue n expected =>
    "invalid value: " ++ (Found.integer n).describe ++ ", expected " ++ expected
  | .wrongLength n expected =>
    "invalid length " ++ Numeral.ofNat 10 n ++ ", expected " ++ expected
  | .unknownKey name known => "unknown field `" ++ name ++ "`, expected " ++ choice known
  | .unknownVariant name known => "unknown variant `" ++ name ++ "`, expected " ++ choice known
  | .missingKey name => "missing field `" ++ name ++ "`"
  | .repeatedKey name => "duplicate field `" ++ name ++ "`"
  | .refused reason => reason

structure Failure where
  cause : Cause
  /-- How much of the document had been taken, if that is settled. -/
  place : Option Nat
  deriving DecidableEq, Repr

end WireSchema.Json
