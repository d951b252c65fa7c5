import Settle.Decimal.Form
import Settle.Decimal.Rounding

/-!
# Numbers with a given count of digits

Besides its shortest form a number has forms with a given count of digits: `fixed` with so
many digits behind the point, `scientific` with so many behind the first one and an
exponent, and `general` with so many significant ones, written in whichever of the two ways
suits the size of the number. All three round the exact value once, and a value half way
between two goes to the even one.

The number is `mantissa * 2 ^ exponent`, without a sign. Main statement: `fixed_zero_places`
ties `fixed` without places to `roundDiv`.
-/

namespace Settle.Decimal.Places

-- the powers below are those of core, whatever else is in scope
attribute [local instance (high)] instPowNat

/-- The whole number nearest to `mantissa * 2 ^ exponent * 10 ^ places`. -/
def scaled (mantissa : Nat) (exponent places : Int) : Nat :=
  roundDiv (mantissa * 2 ^ exponent.toNat * 10 ^ places.toNat)
    (2 ^ (-exponent).toNat * 10 ^ (-places).toNat)

/-- Digits with a point before the last `places` of them. The point of a whole number is
written only if it is asked for. -/
def pointed (point : Bool) (places n : Nat) : String :=
  let ds := toString n
  let ds := (zeros (places + 1 - ds.length) ++ ds).toList
  let cut := ds.length - places
  String.ofList (ds.take cut) ++ (if places = 0 && !point then "" else ".")
    ++ String.ofList (ds.drop cut)

/-- A number with so many places behind the point. It has no more places of its own than
factors of two below one; the rest are zeros. -/
def fixed (point : Bool) (places mantissa : Nat) (exponent : Int) : String :=
  let own := min places exponent.natAbs
  pointed (point || decide (own < places)) own (scaled mantissa exponent own)
    ++ zeros (places - own)

theorem fixed_zero_places (mantissa : Nat) :
    fixed false 0 mantissa 0 = pointed false 0 (roundDiv mantissa 1) := by
  simp [fixed, scaled, zeros]

/-- The power of ten of the first digit of a number that is not zero: the greatest whose
value is not above it, sought downward from a power that is. -/
def leadingPower (mantissa : Nat) (exponent : Int) : Nat → Int → Int
  | 0, k => k
  | fuel + 1, k =>
    if 10 ^ k.toNat * 2 ^ (-exponent).toNat ≤ mantissa * 2 ^ exponent.toNat * 10 ^ (-k).toNat
    then k
    else leadingPower mantissa exponent fuel (k - 1)

/-- A number by its digits, of which there are `places + 1`, and the power of ten of the
first of them. -/
def digits (places mantissa : Nat) (exponent : Int) : Nat × Int :=
  if mantissa = 0 then (0, 0)
  else
    -- The digits of the mantissa and of the power of two bound the power of ten from above.
    let top : Int := (mantissa.log2 + 1 + exponent.toNat : Nat) / 3 + 1
    let low := leadingPower mantissa exponent (top.natAbs + exponent.natAbs + 2) top
    let n := scaled mantissa exponent (places - low)
    if n < 10 ^ (places + 1) then (n, low) else (n / 10, low + 1)

/-- A power of ten as an exponent: a sign and at least two digits. -/
def exponentText (k : Int) : String :=
  let shown := toString k.natAbs
  "e" ++ (if k < 0 then "-" else "+") ++ zeros (2 - shown.length) ++ shown

/-- A bound on the digits that a number has behind its first one before only zeros follow. -/
def depth (mantissa : Nat) (exponent : Int) : Nat := mantissa.log2 + exponent.natAbs + 1

/-- A number with its point behind its first digit and so many places, and the power of ten
of that digit. -/
def leading (point : Bool) (places mantissa : Nat) (exponent : Int) : String × Int :=
  let own := min places (depth mantissa exponent)
  let (n, k) := digits own mantissa exponent
  (pointed (point || decide (own < places)) own n ++ zeros (places - own), k)

/-- A number with so many places behind its first digit, and an exponent. -/
def scientific (point : Bool) (places mantissa : Nat) (exponent : Int) : String :=
  let (s, k) := leading point places mantissa exponent
  s ++ exponentText k

/-- Drop the zeros that end a fraction, and the point if nothing else is behind it. -/
def stripped (s : String) : String :=
  if s.toList.contains '.' then
    String.ofList (((s.toList.reverse.dropWhile (· == '0')).dropWhile (· == '.')).reverse)
  else s

/-- A number with so many significant digits, at least one: with an exponent if its first
digit counts less than `10 ^ -4` or is not among the digits before the point. Zeros at the
end of a fraction are kept only if the point is asked for; else no more digits are written
than the number has. -/
def general (point : Bool) (significant mantissa : Nat) (exponent : Int) : String :=
  let asked := max significant 1
  let count := if point then asked else min asked (depth mantissa exponent + 1)
  let (s, k) := leading point (count - 1) mantissa exponent
  let tidy (s : String) : String := if point then s else stripped s
  if -4 ≤ k ∧ k < count then
    tidy (fixed point (count - 1 - k).toNat mantissa exponent)
  else tidy s ++ exponentText k

end Settle.Decimal.Places
