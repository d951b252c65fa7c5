import Settle.Decimal.Form

/-!
# Quantities

Times, rates and token counts are quantities of one kind. The library is written for any
kind of quantity with the four operations and a decidable order; a program runs it with
floats, and exact statements read it with rationals. No law is asked of the operations, so
that floats qualify: not-a-number is below nothing and above nothing, itself included.

`least` and `greatest` prefer their first argument unless the second is strictly better;
`least_eq_of_lt` and `least_eq_of_not_lt` are their interface.
-/

namespace Settle

/-- A kind of number that can measure time. -/
class Quantity (τ : Type) extends Add τ, Sub τ, Mul τ, Div τ, LT τ, LE τ where
  /-- The quantity of a whole number. -/
  ofInt : Int → τ
  /-- How messages write a quantity. -/
  text : τ → String
  decLt (a b : τ) : Decidable (a < b)
  decLe (a b : τ) : Decidable (a ≤ b)

namespace Quantity

variable {τ : Type} [Quantity τ]

instance (a b : τ) : Decidable (a < b) := decLt a b
instance (a b : τ) : Decidable (a ≤ b) := decLe a b

/-- No time at all. -/
def zero : τ := ofInt 0

/-- Is the quantity equal to nothing? Not-a-number is not. -/
def isZero (a : τ) : Bool := decide (a ≤ zero) && decide ((zero : τ) ≤ a)

/-- The lesser of two quantities: the second only if it is strictly below the first. -/
def least (a b : τ) : τ := if b < a then b else a

/-- The greater of two quantities: the second only if it is strictly above the first. -/
def greatest (a b : τ) : τ := if a < b then b else a

theorem least_eq_of_lt {a b : τ} (h : b < a) : least a b = b := if_pos h

theorem least_eq_of_not_lt {a b : τ} (h : ¬ b < a) : least a b = a := if_neg h

theorem greatest_eq_of_lt {a b : τ} (h : a < b) : greatest a b = b := if_pos h

theorem greatest_eq_of_not_lt {a b : τ} (h : ¬ a < b) : greatest a b = a := if_neg h

end Quantity

/-- Floats measure time when the program runs. -/
instance : Quantity Float where
  ofInt := Float.ofInt
  text := Decimal.text
  decLt := inferInstance
  decLe := inferInstance

/-- Rationals measure time exactly. -/
instance : Quantity Rat where
  ofInt n := (n : Rat)
  text q := toString q
  decLt := inferInstance
  decLe := inferInstance

end Settle
