import Settle.Text.DecimalDigit

/-!
# Written instants

An instant is written as a date and a time of day of universal time: year, month and day with
hyphens between them, a `T`, hours, minutes and seconds with colons between them, possibly a
fraction of the second behind a point, and a `Z`. Only the form counts, not whether there is
such a day, and digits of any script do.
-/

namespace Settle.Text

/-- Take a form off the front of a text: a `d` in the form stands for a digit, any other
character for itself. -/
def afterForm? : List Char → List Char → Option (List Char)
  | [], cs => some cs
  | _ :: _, [] => none
  | f :: form, c :: cs =>
    if f = 'd' then if (digitValue? c).isSome then afterForm? form cs else none
    else if f = c then afterForm? form cs
    else none

/-- Is the text a possible fraction of a second and the mark of universal time? -/
def isInstantEnd : List Char → Bool
  | ['Z'] => true
  | '.' :: cs =>
    let isDigit (c : Char) : Bool := (digitValue? c).isSome
    !(cs.takeWhile isDigit).isEmpty && cs.dropWhile isDigit == ['Z']
  | _ => false

/-- Is the text a written instant? -/
def isInstant (s : String) : Bool :=
  match afterForm? "dddd-dd-ddTdd:dd:dd".toList s.toList with
  | some rest => isInstantEnd rest
  | none => false

end Settle.Text
