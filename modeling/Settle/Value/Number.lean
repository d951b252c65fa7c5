import Settle.Decimal.Lenient
import Settle.Value.Template

/-!
# Order and remainders of free values

Values are put in order by worth: numbers of any kind among each other, exactly; texts by
their characters; lists by the first items that differ. Values of different sorts, null and
records are not compared at all; not-a-number is compared, and is in no order.

The remainder of a division has the sign of the divisor. Of two whole numbers it is whole;
otherwise both are taken as floats, and the exact remainder is rounded once. For a text in
the place of the dividend, the same operation fills the text in as a template.

Main statements: `same_int`, `atLeast_int`, `atLeast_null`, `remainder_int`, `remainder_zero` and
`remainder_text`.
-/

namespace Settle.Value

-- the powers below are those of core, whatever else is in scope
attribute [local instance (high)] instPowNat

/-! ### Order -/

/-- Is the worth of a scalar at most that of another? -/
def Key.atMost : Key → Key → Bool
  | .number m e, .number n f =>
    decide (m * 2 ^ (e - min e f).toNat ≤ n * 2 ^ (f - min e f).toNat)
  | .number _ _, .infinite negative => !negative
  | .infinite negative, .number _ _ => negative
  | .infinite a, .infinite b => a || !b
  | .text s, .text t => !decide (t < s)
  | _, _ => false

/-- Is the value a number of any kind? -/
def isNumber : Value → Bool
  | float _ => true
  | v => v.whole?.isSome

/-- Is the value a text? -/
def isText : Value → Bool
  | text _ => true
  | _ => false

/-- Is the worth of a scalar at least that of another? -/
def atLeastScalar (a b : Value) : Except Misuse Bool :=
  if a.isNumber && b.isNumber || a.isText && b.isText then
    match a.key?, b.key? with
    | some k, some l => .ok (l.atMost k)
    | _, _ => .ok false
  else .error (.unordered a.kindName b.kindName)

mutual

/-- Are two values in order, the first at least the second? -/
def atLeast : Value → Value → Except Misuse Bool
  | list xs, b => match b with
    | list ys => atLeastItems xs ys
    | b => .error (.unordered "list" b.kindName)
  | a, b => atLeastScalar a b

/-- The first items that differ decide; else the shorter list goes first. -/
def atLeastItems : List Value → List Value → Except Misuse Bool
  | [], ys => .ok ys.isEmpty
  | x :: xs, ys => match ys with
    | [] => .ok true
    | y :: ys => if x.same y then atLeastItems xs ys else atLeast x y

end

/-- Taking factors of two out keeps the number. -/
theorem takeTwos_value (k m : Nat) (e : Int) :
    e ≤ (takeTwos k m e).2 ∧ (takeTwos k m e).1 * 2 ^ ((takeTwos k m e).2 - e).toNat = m := by
  induction k generalizing m e with
  | zero => simp [takeTwos]
  | succ k ih =>
    unfold takeTwos
    split
    · next h =>
      obtain ⟨hle, hv⟩ := ih (m / 2) (e + 1)
      refine ⟨by omega, ?_⟩
      have hs : ((takeTwos k (m / 2) (e + 1)).2 - e).toNat
          = ((takeTwos k (m / 2) (e + 1)).2 - (e + 1)).toNat + 1 := by omega
      rw [hs, Nat.pow_succ, ← Nat.mul_assoc, hv]
      omega
    · simp

/-- The key of a whole number is worth that number. -/
theorem Key.ofInt_value (n : Int) :
    ∃ m e, Key.ofInt n = .number m e ∧ 0 ≤ e ∧ m * 2 ^ e.toNat = n := by
  unfold Key.ofInt Key.ofBinary
  by_cases h0 : n.natAbs = 0
  · exact ⟨0, 0, by simp [h0], Int.le_refl 0, by omega⟩
  · obtain ⟨hle, hv⟩ := takeTwos_value (n.natAbs.log2 + 1) n.natAbs 0
    generalize takeTwos (n.natAbs.log2 + 1) n.natAbs 0 = r at hle hv ⊢
    rw [Int.sub_zero] at hv
    have hz : (r.1 : Int) * 2 ^ r.2.toNat = n.natAbs := by
      rw [← hv]
      push_cast
      rfl
    refine ⟨if n < 0 then -(r.1 : Int) else r.1, r.2, by simp [h0], hle, ?_⟩
    by_cases hn : n < 0
    · simp only [hn, if_true, Int.neg_mul, hz]
      omega
    · simp only [hn, if_false, hz]
      omega

/-- On keys of whole numbers, the order is that of the numbers. -/
theorem Key.atMost_number {m n e f : Int} (he : 0 ≤ e) (hf : 0 ≤ f) :
    (Key.number m e).atMost (.number n f) = decide (m * 2 ^ e.toNat ≤ n * 2 ^ f.toNat) := by
  have shift (a d : Int) (hd : min e f ≤ d) :
      a * 2 ^ d.toNat = a * 2 ^ (d - min e f).toNat * 2 ^ (min e f).toNat := by
    have hs : d.toNat = (d - min e f).toNat + (min e f).toNat := by omega
    rw [hs, Int.pow_add, Int.mul_assoc]
  have hpos : (0 : Int) < 2 ^ (min e f).toNat := Int.pow_pos (by decide)
  simp only [Key.atMost]
  rw [shift m e (Int.min_le_left e f), shift n f (Int.min_le_right e f)]
  simp only [Int.mul_le_mul_right hpos]

/-- Whole numbers are equal iff they are the same number. -/
theorem same_int (m n : Int) : (int m).same (int n) = decide (m = n) := by
  have h : Key.ofInt m = Key.ofInt n ↔ m = n := by
    constructor
    · intro e
      obtain ⟨a, i, hk, _, hm⟩ := Key.ofInt_value m
      obtain ⟨b, j, hl, _, hn⟩ := Key.ofInt_value n
      rw [hk, hl] at e
      cases e
      rw [← hm, ← hn]
    · rintro rfl
      rfl
  simp [same, key?, h]

/-- Whole numbers are in their own order. -/
theorem atLeast_int (m n : Int) : (int m).atLeast (int n) = .ok (decide (n ≤ m)) := by
  obtain ⟨a, e, hk, he, hm⟩ := Key.ofInt_value m
  obtain ⟨b, f, hl, hf, hn⟩ := Key.ofInt_value n
  simp only [atLeast, atLeastScalar, isNumber, whole?, Option.isSome_some, Bool.and_self,
    Bool.true_or, if_true, key?, hk, hl, Key.atMost_number hf he, hm, hn]

/-- No value is in order with null. -/
theorem atLeast_null (a : Value) : a.atLeast null = .error (.unordered a.kindName "NoneType") := by
  cases a <;> simp [atLeast, atLeastScalar, isNumber, isText, whole?, kindName]

/-! ### Remainders -/

/-- The remainder of a division of floats, with the sign of the divisor. -/
def floatRemainder (x y : Float) : Float :=
  let signed (negative : Bool) (z : Float) : Float := if negative then -z else z
  match Decimal.Parts.ofFloat x, Decimal.Parts.ofFloat y with
  | .finite a m e, .finite b n f =>
    let least := min e f
    let rest := (m * 2 ^ (e - least).toNat) % (n * 2 ^ (f - least).toNat)
    if rest = 0 then signed b 0.0
    else
      let z := signed a ((Float.ofNat rest).scaleB least)
      if a = b then z else z + y
  | .finite a m _, .infinite b => if m = 0 then signed b 0.0 else if a = b then x else y
  | _, _ => 0.0 / 0.0

/-- Is the value a whole number that is larger than every float? -/
def isBeyondFloats (v : Value) : Bool := v.whole?.isSome && !v.asFloat.isFinite

/-- A number as a float, if there is one near it. -/
def asFloat? (v : Value) : Except Misuse Float :=
  if v.isBeyondFloats then .error .beyondFloats else .ok v.asFloat

/-- A number as a float, or a text that writes one. -/
def toFloat? (v : Value) : Except Misuse Float :=
  match v with
  | text s =>
    match Decimal.readLenient? s with
    | some x => .ok x
    | none => .error (.noNumeral v)
  | v => if v.isNumber then v.asFloat? else .error (.noNumeral v)

/-- The float under a name, or another one if there is none. -/
def floatUnder (v : Value) (name : String) (default : Float) : Except Misuse Float :=
  match v.at? name with
  | some x => x.toFloat?
  | none => .ok default

/-- A value that a bound is set to. Only numbers have bounds. -/
def bounded? (v : Value) : Except Misuse Value :=
  if v.isNumber then .ok v else .error (.notBelow v.kindName "int")

/-- Is a value below a bound? Only numbers are in order with one. -/
def isBelow? (v : Value) (bound : Int) : Except Misuse Bool :=
  match v with
  | float x => .ok (decide (x < Float.ofInt bound))
  | v => (v.bounded?).map fun n => decide (n.asInt < bound)

@[simp] theorem isBelow?_int (n bound : Int) :
    (int n).isBelow? bound = .ok (decide (n < bound)) := rfl

/-- A count of times. Only whole numbers count. -/
def count? (v : Value) : Except Misuse Int :=
  match v.whole? with
  | some n => .ok n
  | none => .error (.notCounted v.kindName)

/-- The remainder of a division of numbers, or a template filled in. -/
def remainder (a b : Value) : Except Misuse Value :=
  match a with
  | text s => (Template.fill s b).map text
  | a =>
    match a.whole?, b.whole? with
    | some m, some n => if n = 0 then .error (.dividedByZero true) else .ok (int (m.fmod n))
    | _, _ =>
      if a.isNumber && b.isNumber then do
        let x ← a.asFloat?
        let y ← b.asFloat?
        if y == 0.0 then .error (.dividedByZero false) else .ok (float (floatRemainder x y))
      else .error (.undivided a.kindName b.kindName)

/-- Of whole numbers, the remainder is that of the division rounded down. -/
theorem remainder_int (m : Int) {n : Int} (h : n ≠ 0) :
    (int m).remainder (int n) = .ok (int (m.fmod n)) := by
  simp [remainder, whole?, h]

/-- No whole number is divided by zero. -/
theorem remainder_zero (m : Int) : (int m).remainder (int 0) = .error (.dividedByZero true) :=
  rfl

/-- A text is a template. -/
theorem remainder_text (s : String) (v : Value) :
    (text s).remainder v = (Template.fill s v).map text := rfl

end Settle.Value
