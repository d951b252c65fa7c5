import Settle.Decimal.Shortest
import Settle.Text.Repeated

/-!
# The written form of a number

A `Form` fixes every decision that the digits leave open: where positional writing gives way
to an exponent, how wide the exponent is, how zero, infinities and the absence of a number
are spelled. `Form.write` writes a float in a form; `standard` is the form all messages and
log records use.
-/

namespace Settle.Decimal

/-- The decisions of a written form. A number whose first digit counts `10 ^ e` is written
positionally iff `positionalFrom ≤ e < positionalBelow`. -/
structure Form where
  positionalFrom : Int
  positionalBelow : Int
  exponentMark : String
  exponentWidth : Nat
  infinity : String
  notANumber : String

/-- Numbers from 0.0001 up to below 10^16 are positional and always show a point; an
exponent has a sign and at least two digits. -/
def standard : Form :=
  { positionalFrom := -4
    positionalBelow := 16
    exponentMark := "e"
    exponentWidth := 2
    infinity := "inf"
    notANumber := "nan" }

/-- A text of `n` zeros. -/
def zeros (n : Nat) : String := Text.repeated '0' n

/-- Write digits positionally; `point` is the number of digits before the point. -/
def positional (digits : String) (point : Int) : String :=
  if point ≤ 0 then "0." ++ zeros (-point).toNat ++ digits
  else if (digits.length : Int) ≤ point then
    digits ++ zeros (point - digits.length).toNat ++ ".0"
  else
    let cs := digits.toList
    String.ofList (cs.take point.toNat) ++ "." ++ String.ofList (cs.drop point.toNat)

/-- Write digits with an exponent: one digit before the point, the rest after it. -/
def Form.scientific (form : Form) (digits : String) (exponent : Int) : String :=
  let shown := toString exponent.natAbs
  let padded := zeros (form.exponentWidth - shown.length) ++ shown
  let sign := if exponent < 0 then "-" else "+"
  let body :=
    match digits.toList with
    | [] => ""
    | [c] => String.singleton c
    | c :: rest => String.singleton c ++ "." ++ String.ofList rest
  body ++ form.exponentMark ++ sign ++ padded

/-- Write a positive decimal. -/
def Form.writeDecimal (form : Form) (d : Scaled) : String :=
  let digits := toString d.digits
  let point := (digits.length : Int) + d.exponent
  if form.positionalFrom ≤ point - 1 ∧ point - 1 < form.positionalBelow then
    positional digits point
  else form.scientific digits (point - 1)

/-- Write a float by its shortest decimal. Zero keeps its sign. -/
def Form.write (form : Form) (x : Float) : String :=
  match Parts.ofFloat x with
  | .notANumber => form.notANumber
  | .infinite negative => (if negative then "-" else "") ++ form.infinity
  | .finite negative mantissa exponent =>
    let body :=
      if mantissa = 0 then "0.0"
      else form.writeDecimal (Shortest.decimal mantissa exponent)
    (if negative then "-" else "") ++ body

/-- The text of a float in the standard form. -/
def text (x : Float) : String := standard.write x

end Settle.Decimal
