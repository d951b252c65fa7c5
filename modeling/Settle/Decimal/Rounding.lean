import Settle.Decimal.Shortest

/-!
# Rounding to decimal places

`toPlaces n x` is the float nearest to the multiple of `10 ^ -n` nearest to `x`, where a
value exactly half way between two multiples goes to the even one. The quotient is exact:
the float is taken apart first. `two_mul_roundDiv_le` and `le_two_mul_roundDiv` say that a
rounded quotient is within half a unit of the exact one.
-/

namespace Settle.Decimal

-- the powers below are those of core, whatever else is in scope
attribute [local instance (high)] instPowNat

/-- The whole number nearest to `n / d`, the even one of two equally near ones. -/
def roundDiv (n d : Nat) : Nat :=
  let q := n / d
  let r := n % d
  if 2 * r < d then q
  else if d < 2 * r then q + 1
  else if q % 2 = 0 then q else q + 1

/-- A rounded quotient is at most half a unit above the exact one. -/
theorem two_mul_roundDiv_le (n d : Nat) : 2 * (roundDiv n d * d) ≤ 2 * n + d := by
  have h := Nat.div_add_mod n d
  have hc : d * (n / d) = n / d * d := Nat.mul_comm _ _
  unfold roundDiv
  simp only
  split
  · omega
  · split
    · rw [Nat.add_mul]; omega
    · split
      · omega
      · rw [Nat.add_mul]; omega

/-- A rounded quotient is at most half a unit below the exact one. -/
theorem le_two_mul_roundDiv (n d : Nat) (hd : 0 < d) :
    2 * n ≤ 2 * (roundDiv n d * d) + d := by
  have h := Nat.div_add_mod n d
  have hc : d * (n / d) = n / d * d := Nat.mul_comm _ _
  have hlt := Nat.mod_lt n hd
  unfold roundDiv
  simp only
  split
  · omega
  · split
    · rw [Nat.add_mul]; omega
    · split
      · omega
      · rw [Nat.add_mul]; omega

/-- Round a float to `places` decimal places. Values without a finite magnitude, and those
too large to have a fraction, are kept. -/
def toPlaces (places : Nat) (x : Float) : Float :=
  match Parts.ofFloat x with
  | .notANumber | .infinite _ => x
  | .finite negative mantissa exponent =>
    if 0 ≤ exponent then x
    else
      let scaled := roundDiv (mantissa * 10 ^ places) (2 ^ (-exponent).toNat)
      let y := Float.ofScientific scaled true places
      if negative then -y else y

end Settle.Decimal
