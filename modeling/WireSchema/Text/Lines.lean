/-!
Two ways to cut a text into lines. `inclusive` keeps each line feed at the end of its line, so that the
lines concatenate to the text. `plain` drops the line feed, and a carriage return right before it. In
both a text that ends in a line feed has no further empty line.
-/

namespace WireSchema.Text.Lines

def inclusive : List Char → List (List Char)
  | [] => []
  | c :: cs =>
    if c = '\n' then [c] :: inclusive cs
    else
      match inclusive cs with
      | [] => [[c]]
      | l :: ls => (c :: l) :: ls

/-- Drops a final `\n` or `\r\n`. -/
def chomp (line : List Char) : List Char :=
  match line.reverse with
  | '\n' :: '\r' :: rest => rest.reverse
  | '\n' :: rest => rest.reverse
  | _ => line

def plain (cs : List Char) : List (List Char) :=
  (inclusive cs).map chomp

end WireSchema.Text.Lines
