import Mathlib.Algebra.Order.Ring.Int
import Mathlib.Data.Int.ConditionallyCompleteOrder
import Mathlib.Order.Compare
import Mathlib.Order.ConditionallyCompleteLattice.Basic
import Mathlib.Order.WithBotTop
import Mathlib.Tactic.Ring
import Settle.Quantity

/-!
# Floats in order

Every finite float is a whole number of units of `2 ^ (-1074)`, the least float above nothing
(`units`); the infinite ones are above and below all of them. Floats are compared by exponent and
mantissa, which is to compare their units because the floats that are stored are `Canonical`: their
mantissas take up all the bits there are, unless the exponent is as low as it can be.

Main statements: `lt_iff` and `le_iff`, by which floats other than not-a-number are in the order of
their units, and not-a-number is below nothing and above nothing.
-/

namespace Settle.Binary

open Float.Model (Format UnpackedFloat)
open Float.Model.UnpackedFloat

/-! ### Units -/

/-- The units of a finite float, without its sign. -/
def magnitude (mantissa : ℕ) (exponent : ℤ) : ℕ := mantissa * 2 ^ (exponent + 1074).toNat

/-- The units of a float; of not-a-number nothing is meant. -/
def units : UnpackedFloat → WithBot (WithTop ℤ)
  | .infinity .positive => ⊤
  | .infinity .negative => ⊥
  | .zero _ => (0 : ℤ)
  | .finite sign mantissa exponent _ => (sign.apply (magnitude mantissa exponent) : ℤ)
  | .notANumber => (0 : ℤ)

/-- The mantissa has no more than 53 bits, and just as many unless the exponent is the least. -/
structure IsCanonical (mantissa : ℕ) (exponent : ℤ) : Prop where
  le_exponent : -1074 ≤ exponent
  mantissa_lt : mantissa < 2 ^ 53
  le_mantissa (h : -1074 < exponent) : 2 ^ 52 ≤ mantissa

/-- A float in the form in which floats are unpacked. -/
def Canonical : UnpackedFloat → Prop
  | .finite _ mantissa exponent _ => IsCanonical mantissa exponent
  | _ => True

/-- **Floats are unpacked** in this form. -/
theorem canonical_unpack (b : BitVec Format.binary64.numBits) :
    Canonical (UnpackedFloat.unpack Format.binary64 b) := by
  have hbias : Format.binary64.exponentBias = 1023 := rfl
  have hmantissa : (unpackMantissa b).toNat < 2 ^ 52 := (unpackMantissa b).isLt
  delta UnpackedFloat.unpack
  dsimp only
  by_cases hset : unpackExponent b = -1#_
  · rw [if_pos hset]
    by_cases hclear : unpackMantissa b = 0#_
    · rw [if_pos hclear]
      trivial
    · rw [if_neg hclear]
      trivial
  rw [if_neg hset]
  by_cases hzero : unpackExponent b = 0#_
  · rw [if_pos hzero]
    by_cases hclear : unpackMantissa b = 0#_
    · rw [dif_pos hclear]
      trivial
    · -- the exponent is the least
      rw [dif_neg hclear]
      have hexponent : (unpackExponent b).toNat = 0 := congrArg BitVec.toNat hzero
      rw [hexponent]
      exact ⟨le_rfl, hmantissa.trans (by decide), fun h => absurd h (lt_irrefl _)⟩
  · rw [if_neg hzero]
    have hexponent : 0 < (unpackExponent b).toNat :=
      Nat.pos_of_ne_zero fun h => hzero (BitVec.eq_of_toNat_eq h)
    have happend : (1#1 ++ unpackMantissa b).toNat = 2 ^ 52 + (unpackMantissa b).toNat := by
      rw [BitVec.toNat_append, ← Nat.shiftLeft_add_eq_or_of_lt hmantissa]
      rfl
    refine ⟨?_, ?_, fun _ => ?_⟩
    · omega
    · omega
    · omega

/-! ### Comparisons -/

theorem magnitude_lt {m₁ m₂ : ℕ} {e₁ e₂ : ℤ} (h₁ : IsCanonical m₁ e₁) (h₂ : IsCanonical m₂ e₂)
    (he : e₁ < e₂) : magnitude m₁ e₁ < magnitude m₂ e₂ := by
  have hk : (e₁ + 1074).toNat + 1 ≤ (e₂ + 1074).toNat := by
    have := h₁.le_exponent
    omega
  calc magnitude m₁ e₁ < 2 ^ 53 * 2 ^ (e₁ + 1074).toNat :=
        Nat.mul_lt_mul_of_pos_right h₁.mantissa_lt (Nat.two_pow_pos _)
    _ = 2 ^ 52 * 2 ^ ((e₁ + 1074).toNat + 1) := by ring
    _ ≤ 2 ^ 52 * 2 ^ (e₂ + 1074).toNat :=
        Nat.mul_le_mul_left _ (Nat.pow_le_pow_right Nat.two_pos hk)
    _ ≤ magnitude m₂ e₂ :=
        Nat.mul_le_mul_right _ (h₂.le_mantissa (h₁.le_exponent.trans_lt he))

/-- To compare exponents and then mantissas is to compare the units. -/
theorem then_compares_magnitude {m₁ m₂ : ℕ} {e₁ e₂ : ℤ} (h₁ : IsCanonical m₁ e₁)
    (h₂ : IsCanonical m₂ e₂) :
    ((compare e₁ e₂).then (compare m₁ m₂)).Compares (magnitude m₁ e₁) (magnitude m₂ e₂) := by
  rcases lt_trichotomy e₁ e₂ with he | rfl | he
  · rw [Int.compare_eq_lt.mpr he]
    exact magnitude_lt h₁ h₂ he
  · have hpow : 0 < 2 ^ (e₁ + 1074).toNat := Nat.two_pow_pos _
    rw [Int.compare_eq_eq.mpr rfl]
    rcases lt_trichotomy m₁ m₂ with hm | rfl | hm
    · rw [Nat.compare_eq_lt.mpr hm]
      exact Nat.mul_lt_mul_of_pos_right hm hpow
    · rw [Nat.compare_eq_eq.mpr rfl]
      rfl
    · rw [Nat.compare_eq_gt.mpr hm]
      exact Nat.mul_lt_mul_of_pos_right hm hpow
  · rw [Int.compare_eq_gt.mpr he]
    exact magnitude_lt h₂ h₁ he

/-- Comparing whole numbers is comparing them as units. -/
theorem compares_coe {o : Ordering} {a b : ℤ} (h : o.Compares a b) :
    o.Compares (a : WithBot (WithTop ℤ)) (b : WithBot (WithTop ℤ)) := by
  cases o with
  | lt => exact WithBot.coe_lt_coe.mpr (WithTop.coe_lt_coe.mpr h)
  | eq => exact congrArg (fun n : ℤ => (n : WithBot (WithTop ℤ))) h
  | gt => exact WithBot.coe_lt_coe.mpr (WithTop.coe_lt_coe.mpr h)

theorem compares_apply_positive {o : Ordering} {a b : ℕ} (h : o.Compares a b) :
    o.Compares (Sign.positive.apply a) (Sign.positive.apply b) := by
  cases o with
  | lt => exact Int.ofNat_lt.mpr h
  | eq => exact congrArg (fun n : ℕ => (n : ℤ)) h
  | gt => exact Int.ofNat_lt.mpr h

theorem compares_apply_negative {o : Ordering} {a b : ℕ} (h : o.Compares a b) :
    o.swap.Compares (Sign.negative.apply a) (Sign.negative.apply b) := by
  cases o with
  | lt => exact Int.neg_lt_neg (Int.ofNat_lt.mpr h)
  | eq => exact congrArg (fun n : ℕ => -(n : ℤ)) h
  | gt => exact Int.neg_lt_neg (Int.ofNat_lt.mpr h)

theorem units_positive_pos {m : ℕ} {e : ℤ} (h : 0 < m) :
    (0 : ℤ) < units (.finite .positive m e h) := by
  have hpos : (0 : ℤ) < magnitude m e := Int.ofNat_lt.mpr (Nat.mul_pos h (Nat.two_pow_pos _))
  exact WithBot.coe_lt_coe.mpr (WithTop.coe_lt_coe.mpr hpos)

theorem units_negative_neg {m : ℕ} {e : ℤ} (h : 0 < m) :
    units (.finite .negative m e h) < (0 : ℤ) := by
  have hpos : (0 : ℤ) < magnitude m e := Int.ofNat_lt.mpr (Nat.mul_pos h (Nat.two_pow_pos _))
  exact WithBot.coe_lt_coe.mpr (WithTop.coe_lt_coe.mpr (Int.neg_neg_of_pos hpos))

/-- Only the infinite floats have infinitely many units. -/
theorem exists_units_eq {x : UnpackedFloat} (h : ∀ s, x ≠ .infinity s) :
    ∃ n : ℤ, units x = n := by
  cases x with
  | infinity s => exact absurd rfl (h s)
  | notANumber => exact ⟨_, rfl⟩
  | zero s => exact ⟨_, rfl⟩
  | finite s m e hm => exact ⟨_, rfl⟩

theorem units_lt_top {x : UnpackedFloat} (h : ∀ s, x ≠ .infinity s) : units x < ⊤ := by
  obtain ⟨n, hn⟩ := exists_units_eq h
  exact hn ▸ WithBot.coe_lt_coe.mpr (WithTop.coe_lt_top n)

theorem bot_lt_units {x : UnpackedFloat} (h : ∀ s, x ≠ .infinity s) : ⊥ < units x := by
  obtain ⟨n, hn⟩ := exists_units_eq h
  exact hn ▸ WithBot.bot_lt_coe _

/-- What is not infinite is between the infinite floats. -/
theorem compares_units_infinity_left {s : Sign} {y : UnpackedFloat} {o : Ordering}
    (h : (UnpackedFloat.infinity s).compare y = some o) (hy : ∀ s, y ≠ .infinity s) :
    o.Compares (units (.infinity s)) (units y) := by
  cases y with
  | notANumber => cases s <;> cases h
  | infinity s' => exact absurd rfl (hy s')
  | zero _ | finite _ _ _ _ =>
    cases s with
    | positive =>
      cases h
      exact units_lt_top hy
    | negative =>
      cases h
      exact bot_lt_units hy

theorem compares_units_infinity_right {x : UnpackedFloat} {s : Sign} {o : Ordering}
    (h : x.compare (.infinity s) = some o) (hx : ∀ s, x ≠ .infinity s) :
    o.Compares (units x) (units (.infinity s)) := by
  cases x with
  | notANumber => cases h
  | infinity s' => exact absurd rfl (hx s')
  | zero _ =>
    cases s with
    | positive =>
      cases h
      exact units_lt_top hx
    | negative =>
      cases h
      exact bot_lt_units hx
  | finite s' _ _ _ =>
    cases s with
    | positive => cases s' <;> cases h <;> exact units_lt_top hx
    | negative => cases s' <;> cases h <;> exact bot_lt_units hx

/-- **Comparing floats** is comparing their units. -/
theorem compares_units {x y : UnpackedFloat} (hx : Canonical x) (hy : Canonical y) {o : Ordering}
    (h : x.compare y = some o) : o.Compares (units x) (units y) := by
  cases x with
  | notANumber => cases h
  | infinity s =>
    cases y with
    | infinity s' =>
      obtain rfl := Option.some.inj h
      cases s <;> cases s'
      · rfl
      · exact WithBot.bot_lt_coe _
      · exact WithBot.bot_lt_coe _
      · rfl
    | _ => exact compares_units_infinity_left h nofun
  | zero _ =>
    cases y with
    | notANumber => cases h
    | infinity s => exact compares_units_infinity_right h nofun
    | zero _ =>
      cases h
      rfl
    | finite s _ _ hm =>
      cases s with
      | positive =>
        cases h
        exact units_positive_pos hm
      | negative =>
        cases h
        exact units_negative_neg hm
  | finite s m e hm =>
    cases y with
    | notANumber => cases s <;> cases h
    | infinity s' => exact compares_units_infinity_right h nofun
    | zero _ =>
      cases s with
      | positive =>
        cases h
        exact units_positive_pos hm
      | negative =>
        cases h
        exact units_negative_neg hm
    | finite s' m' e' hm' =>
      cases s <;> cases s' <;> obtain rfl := Option.some.inj h
      · exact compares_coe (compares_apply_negative (then_compares_magnitude hx hy))
      · exact (units_negative_neg _).trans (units_positive_pos _)
      · exact (units_negative_neg _).trans (units_positive_pos _)
      · exact compares_coe (compares_apply_positive (then_compares_magnitude hx hy))

/-- Nothing but not-a-number cannot be compared. -/
theorem compare_eq_none_iff {x y : UnpackedFloat} :
    x.compare y = none ↔ x = .notANumber ∨ y = .notANumber := by
  cases x with
  | notANumber => exact iff_of_true rfl (.inl rfl)
  | infinity s =>
    cases y with
    | notANumber => cases s <;> exact iff_of_true rfl (.inr rfl)
    | _ => cases s <;> exact iff_of_false nofun (by rintro (h | h) <;> cases h)
  | zero s =>
    cases y with
    | notANumber => exact iff_of_true rfl (.inr rfl)
    | infinity s' => cases s' <;> exact iff_of_false nofun (by rintro (h | h) <;> cases h)
    | zero s' => exact iff_of_false nofun (by rintro (h | h) <;> cases h)
    | finite s' => cases s' <;> exact iff_of_false nofun (by rintro (h | h) <;> cases h)
  | finite s =>
    cases y with
    | notANumber => cases s <;> exact iff_of_true rfl (.inr rfl)
    | infinity s' | zero s' | finite s' =>
      cases s <;> cases s' <;> exact iff_of_false nofun (by rintro (h | h) <;> cases h)

/-! ### Stored floats -/

/-- The units of a stored float. -/
def worth (a : Float) : WithBot (WithTop ℤ) := units a.toModel.unpack

theorem isNaN_eq_false_iff {a : Float} : a.isNaN = false ↔ a.toModel.unpack ≠ .notANumber := by
  change a.toModel.unpack.isNaN = false ↔ _
  cases a.toModel.unpack with
  | notANumber => exact iff_of_false nofun (not_not_intro rfl)
  | _ => exact iff_of_true rfl nofun

/-- Floats other than not-a-number can be compared. -/
theorem exists_compare {a b : Float} (ha : a.isNaN = false) (hb : b.isNaN = false) :
    ∃ o, a.toModel.unpack.compare b.toModel.unpack = some o ∧ o.Compares (worth a) (worth b) := by
  cases h : a.toModel.unpack.compare b.toModel.unpack with
  | none =>
    rcases compare_eq_none_iff.mp h with h | h
    · exact absurd h (isNaN_eq_false_iff.mp ha)
    · exact absurd h (isNaN_eq_false_iff.mp hb)
  | some o => exact ⟨o, rfl, compares_units (canonical_unpack _) (canonical_unpack _) h⟩

theorem isNaN_of_compare_eq_none {a b : Float}
    (h : a.toModel.unpack.compare b.toModel.unpack ≠ none) : a.isNaN = false ∧ b.isNaN = false := by
  rw [Ne, compare_eq_none_iff, not_or] at h
  exact ⟨isNaN_eq_false_iff.mpr h.1, isNaN_eq_false_iff.mpr h.2⟩

/-- **One float is below another** just if both are numbers and so are their units. -/
theorem lt_iff {a b : Float} :
    a < b ↔ a.isNaN = false ∧ b.isNaN = false ∧ worth a < worth b := by
  have hlt : a < b ↔ a.toModel.unpack.compare b.toModel.unpack = some .lt := by
    change decide (UnpackedFloat.lt _ _ = true) = true ↔ _
    rw [decide_eq_true_iff, UnpackedFloat.lt, beq_iff_eq]
  rw [hlt]
  constructor
  · intro h
    obtain ⟨ha, hb⟩ := isNaN_of_compare_eq_none (h ▸ Option.some_ne_none _)
    exact ⟨ha, hb, compares_units (canonical_unpack _) (canonical_unpack _) h⟩
  · rintro ⟨ha, hb, hunits⟩
    obtain ⟨o, ho, hcompares⟩ := exists_compare ha hb
    rw [ho, hcompares.eq_lt.mpr hunits]

theorem le_iff {a b : Float} :
    a ≤ b ↔ a.isNaN = false ∧ b.isNaN = false ∧ worth a ≤ worth b := by
  have hle : a ≤ b ↔ ∃ o, a.toModel.unpack.compare b.toModel.unpack = some o ∧ o ≠ .gt := by
    change decide (UnpackedFloat.le _ _ = true) = true ↔ _
    rw [decide_eq_true_iff, UnpackedFloat.le, Option.any_eq_true]
    refine exists_congr fun o => and_congr_right fun _ => ?_
    cases o <;> decide
  rw [hle]
  constructor
  · rintro ⟨o, h, ho⟩
    obtain ⟨ha, hb⟩ := isNaN_of_compare_eq_none (h ▸ Option.some_ne_none _)
    exact ⟨ha, hb, (compares_units (canonical_unpack _) (canonical_unpack _) h).ne_gt.mp ho⟩
  · rintro ⟨ha, hb, hunits⟩
    obtain ⟨o, ho, hcompares⟩ := exists_compare ha hb
    exact ⟨o, ho, hcompares.ne_gt.mpr hunits⟩

/-- Where neither is not-a-number, what is not at most the other is above it. -/
theorem lt_of_not_le {a b : Float} (ha : a.isNaN = false) (hb : b.isNaN = false) (h : ¬ a ≤ b) :
    b < a := by
  rw [le_iff] at h
  exact lt_iff.mpr ⟨hb, ha, not_le.mp fun hle => h ⟨ha, hb, hle⟩⟩

theorem not_le_of_lt {a b : Float} (h : a < b) : ¬ b ≤ a := by
  intro hle
  exact absurd (lt_iff.mp h).2.2 (not_lt.mpr (le_iff.mp hle).2.2)

theorem lt_of_le_of_lt {a b c : Float} (h : a ≤ b) (h' : b < c) : a < c := by
  obtain ⟨ha, -, hab⟩ := le_iff.mp h
  obtain ⟨-, hc, hbc⟩ := lt_iff.mp h'
  exact lt_iff.mpr ⟨ha, hc, hab.trans_lt hbc⟩

end Settle.Binary
