/-!
# Lines of a text

A line ends at a newline, a carriage return, the two of them in this order, or another
character that the character set has for the purpose. The end of a line is no part of it,
and nothing follows the last end.
-/

namespace Settle.Text

/-- Does the character end a line? -/
def endsLine (c : Char) : Bool :=
  let n := c.toNat
  decide ((10 ≤ n ∧ n ≤ 13) ∨ (28 ≤ n ∧ n ≤ 30) ∨ n = 133 ∨ n = 8232 ∨ n = 8233)

/-- The lines of a text after the beginning of the first one, which is given in reverse. -/
def linesAfter (begun : List Char) : List Char → List (List Char)
  | [] => if begun.isEmpty then [] else [begun.reverse]
  | '\r' :: '\n' :: rest => begun.reverse :: linesAfter [] rest
  | c :: rest =>
    if endsLine c then begun.reverse :: linesAfter [] rest else linesAfter (c :: begun) rest

/-- The lines of a text. -/
def lines (s : String) : List String := (linesAfter [] s.toList).map String.ofList

end Settle.Text
