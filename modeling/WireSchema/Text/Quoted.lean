import WireSchema.Text.Numeral
import WireSchema.Text.Printable

/-!
Double-quoted text. A quote and a backslash are escaped, the tab, the line feed, the carriage return
and the null character have names of their own, and every other character that is not printable is
written by its code point in braces. The form is the string literal of the generated language, and
error messages use it too.
-/

namespace WireSchema.Text.Quoted

def escape (c : Char) : List Char :=
  if c = '"' then ['\\', '"']
  else if c = '\\' then ['\\', '\\']
  else if c = '\n' then ['\\', 'n']
  else if c = '\r' then ['\\', 'r']
  else if c = '\t' then ['\\', 't']
  else if c = '\x00' then ['\\', '0']
  else if isPrintable c then [c]
  else ['\\', 'u', '{'] ++ Numeral.digits 16 c.toNat ++ ['}']

def encodeChars (cs : List Char) : List Char :=
  '"' :: cs.flatMap escape ++ ['"']

def encode (s : String) : String :=
  String.ofList (encodeChars s.toList)

end WireSchema.Text.Quoted
