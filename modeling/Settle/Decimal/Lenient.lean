import Settle.Decimal.Numeral
import Settle.Text.Blank
import Settle.Text.DecimalDigit

/-!
# Numerals read leniently

A lenient reader takes a numeral with blanks around it, with digits of any script, and with
single underscores between digits. Information separators are blank only beside characters
that are not ASCII.
-/

namespace Settle.Decimal

/-- Take the underscores out of a text. Each has to stand between digits; `inside` says
whether the text follows a digit. -/
def dropJoints? (inside : Bool) : List Char → Option (List Char)
  | [] => some []
  | ['_'] => none
  | '_' :: c :: rest =>
    if inside && c.isDigit then (dropJoints? true rest).map (c :: ·) else none
  | c :: rest => (dropJoints? c.isDigit rest).map (c :: ·)

/-- The numeral of a text: what it says in ASCII, without the blanks around it. -/
def numeralOf (s : String) : List Char :=
  let plain (c : Char) : Char := if Text.isBlank c then ' ' else Text.plainDigit c
  let cs := s.toList
  Text.trimBy Text.isSpace (if cs.all fun c => c.toNat < 128 then cs else cs.map plain)

/-- Read a float leniently. -/
def readLenient? (s : String) : Option Float :=
  (dropJoints? false (numeralOf s)).bind readFloat?

end Settle.Decimal
