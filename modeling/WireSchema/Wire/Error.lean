import WireSchema.Text.Numeral

/-!
What goes wrong on the wire.
-/

namespace WireSchema.Wire

open WireSchema.Text

/-- The values with a length in front. -/
inductive LengthKind where
  | string
  | bytes
  | array
  deriving DecidableEq, Repr

def LengthKind.name : LengthKind → String
  | .string => "string"
  | .bytes => "bytes"
  | .array => "array"

inductive Error where
  | endOfInput (needed remaining : Nat)
  | invalidLength (kind : LengthKind) (length : Int)
  | invalidText
  deriving DecidableEq, Repr

def Error.message : Error → String
  | .endOfInput needed remaining =>
    "unexpected end of input: needed " ++ Numeral.ofNat 10 needed ++ " bytes, " ++
      Numeral.ofNat 10 remaining ++ " remaining"
  | .invalidLength kind length => "invalid " ++ kind.name ++ " length " ++ Numeral.decimal length
  | .invalidText => "string is not valid UTF-8"

end WireSchema.Wire
