/-!
# Binary floats and their shortest decimals

A finite float is a whole number of units of a power of two. `Parts.ofFloat` reads these
parts off the bit pattern, and `Shortest.decimal` finds the decimal with the fewest digits
among those that round back to the same float, taking the nearest of them when there are
several. Everything after the reading of the bits is exact arithmetic on whole numbers.

Main statements: `floorOn_le` and `lt_floorOn_succ` say that the value of a fraction lies
between its two neighbours on a decimal grid, and `Scaled.trim_value` says that dropping
trailing zeros keeps the value.
-/

namespace Settle.Decimal

-- the powers below are those of core, whatever else is in scope
attribute [local instance (high)] instPowNat

/-! ### The parts of a float -/

/-- What the bit pattern of a float says: not a number, an infinity, or a sign with
`mantissa` units of `2 ^ exponent`. -/
inductive Parts where
  | notANumber
  | infinite (negative : Bool)
  | finite (negative : Bool) (mantissa : Nat) (exponent : Int)
  deriving DecidableEq, Repr

/-- Read the parts off the bits: eleven exponent bits above fifty-two fraction bits, with
the hidden bit restored for normal numbers. -/
def Parts.ofFloat (x : Float) : Parts :=
  let bits : Nat := x.toBits.toNat
  let negative := bits / 2 ^ (63 : Nat) == 1
  let stored : Nat := bits / 2 ^ (52 : Nat) % 2 ^ (11 : Nat)
  let fraction : Nat := bits % 2 ^ (52 : Nat)
  if stored = 2047 then
    if fraction = 0 then .infinite negative else .notANumber
  else if stored = 0 then .finite negative fraction (-1074)
  else .finite negative (fraction + 2 ^ (52 : Nat)) ((stored : Int) - 1075)

/-! ### Decimals -/

/-- A positive decimal: `digits` units of `10 ^ exponent`. -/
structure Scaled where
  digits : Nat
  exponent : Int
  deriving DecidableEq, Repr

/-- Drop trailing zeros, at most `n` of them. -/
def Scaled.trimUpTo : Nat → Scaled → Scaled
  | 0, d => d
  | n + 1, d =>
    if d.digits % 10 = 0 ∧ d.digits ≠ 0 then
      trimUpTo n ⟨d.digits / 10, d.exponent + 1⟩
    else d

/-- Drop all trailing zeros of a decimal of at most eighteen digits. -/
def Scaled.trim (d : Scaled) : Scaled := d.trimUpTo 18

/-- Dropping `k` trailing zeros divides the digits by `10 ^ k` and raises the exponent by
`k`, so the decimal stands for the same number. -/
theorem Scaled.trimUpTo_value (n : Nat) (d : Scaled) :
    ∃ k : Nat, d.digits = (d.trimUpTo n).digits * 10 ^ k ∧
      (d.trimUpTo n).exponent = d.exponent + k := by
  induction n generalizing d with
  | zero => exact ⟨0, by simp [trimUpTo]⟩
  | succ n ih =>
    unfold trimUpTo
    split
    · next h =>
      obtain ⟨k, hd, he⟩ := ih ⟨d.digits / 10, d.exponent + 1⟩
      dsimp only at hd he
      refine ⟨k + 1, ?_, ?_⟩
      · rw [Nat.pow_succ, ← Nat.mul_assoc, ← hd]
        omega
      · rw [he]
        omega
    · exact ⟨0, by simp⟩

/-- Dropping all trailing zeros keeps the value. -/
theorem Scaled.trim_value (d : Scaled) :
    ∃ k : Nat, d.digits = d.trim.digits * 10 ^ k ∧ d.trim.exponent = d.exponent + k :=
  d.trimUpTo_value 18

/-! ### Neighbours on a decimal grid -/

/-- A positive fraction. -/
structure Fraction where
  numerator : Nat
  denominator : Nat

/-- Rescale a fraction so that one unit of the grid `10 ^ unit` counts as one. -/
def Fraction.inUnits (f : Fraction) (unit : Int) : Fraction :=
  ⟨f.numerator * 10 ^ (-unit).toNat, f.denominator * 10 ^ unit.toNat⟩

/-- The greatest grid point that is not above the fraction. -/
def Fraction.floorOn (f : Fraction) (unit : Int) : Nat :=
  let g := f.inUnits unit
  g.numerator / g.denominator

/-- The lower neighbour is not above the value. -/
theorem Fraction.floorOn_le (f : Fraction) (unit : Int) :
    f.floorOn unit * (f.inUnits unit).denominator ≤ (f.inUnits unit).numerator :=
  Nat.div_mul_le_self _ _

/-- The next grid point is above the value. -/
theorem Fraction.lt_floorOn_succ (f : Fraction) (unit : Int)
    (h : 0 < (f.inUnits unit).denominator) :
    (f.inUnits unit).numerator < (f.floorOn unit + 1) * (f.inUnits unit).denominator := by
  rw [Nat.mul_comm]
  exact Nat.lt_mul_div_succ _ h

/-- The number of decimal digits of a natural number; zero has one. -/
def digitCount (n : Nat) : Nat := (Nat.toDigits 10 n).length

/-- The exponent `k` with `10 ^ (k - 1) ≤ f < 10 ^ k`. -/
def Fraction.magnitude (f : Fraction) : Int :=
  if f.denominator ≤ f.numerator then (digitCount (f.numerator / f.denominator) : Int)
  else
    let places := digitCount (f.denominator / f.numerator)
    if f.denominator ≤ f.numerator * 10 ^ (places - 1) then 2 - (places : Int)
    else 1 - (places : Int)

/-! ### The shortest decimal -/

namespace Shortest

/-- The reals that round to one float: `low` and `high` are numerators over the
denominator of `value`, and the ends belong to the interval iff `closed`. -/
structure Interval where
  value : Fraction
  low : Nat
  high : Nat
  closed : Bool

/-- The rounding interval of `mantissa` units of `2 ^ exponent`. Below a power of two the
gap to the next float is half as wide, except at the bottom of the range. -/
def Interval.ofParts (mantissa : Nat) (exponent : Int) : Interval :=
  let scale := 2 ^ (exponent - 2).toNat
  let narrow := mantissa = 2 ^ (52 : Nat) ∧ -1074 < exponent
  { value := ⟨4 * mantissa * scale, 2 ^ (2 - exponent).toNat⟩
    low := (if narrow then 4 * mantissa - 1 else 4 * mantissa - 2) * scale
    high := (4 * mantissa + 2) * scale
    closed := mantissa % 2 = 0 }

/-- Does the grid point `point * 10 ^ unit` round back? -/
def Interval.holds (i : Interval) (point : Nat) (unit : Int) : Bool :=
  let scaled := point * (i.value.inUnits unit).denominator
  let factor := 10 ^ (-unit).toNat
  if i.closed then decide (i.low * factor ≤ scaled ∧ scaled ≤ i.high * factor)
  else decide (i.low * factor < scaled ∧ scaled < i.high * factor)

/-- The better of the two neighbours on one grid, if either rounds back: the nearer one,
and of two equally near ones the even one. -/
def Interval.bestOn (i : Interval) (unit : Int) : Option Nat :=
  let below := i.value.floorOn unit
  match i.holds below unit, i.holds (below + 1) unit with
  | false, false => none
  | true, false => some below
  | false, true => some (below + 1)
  | true, true =>
    let g := i.value.inUnits unit
    let gapBelow := g.numerator - below * g.denominator
    let gapAbove := (below + 1) * g.denominator - g.numerator
    if gapBelow < gapAbove then some below
    else if gapAbove < gapBelow then some (below + 1)
    else if below % 2 = 0 then some below
    else some (below + 1)

/-- Try grids of ever more digits; seventeen digits always suffice. -/
def Interval.search (i : Interval) (magnitude : Int) (count : Nat) : Nat → Scaled
  | 0 => ⟨i.value.floorOn (magnitude - count), magnitude - count⟩
  | tries + 1 =>
    match i.bestOn (magnitude - count) with
    | some point => ⟨point, magnitude - count⟩
    | none => i.search magnitude (count + 1) tries

/-- The shortest decimal that rounds back to `mantissa` units of `2 ^ exponent`. -/
def decimal (mantissa : Nat) (exponent : Int) : Scaled :=
  let i := Interval.ofParts mantissa exponent
  (i.search i.value.magnitude 1 17).trim

end Shortest

end Settle.Decimal
