import Settle.Proofs.Binary.Units

/-!
# Sums and differences of floats

A sum or a difference of floats is rounded to one that can be stored. Rounding can lose much, but
not this: what is above nothing stays above nothing, for the least exponent that mantissas are
shifted to is that of the units themselves (`round_eq_finite`). So the difference to a lower float
is always above nothing, however close the two are (`sub_pos`).

A sum is not-a-number only if one of its parts is, or if both are infinite (`isNaN_add`).
-/

namespace Settle.Binary

open Float.Model (Format UnpackedFloat totalExponent)
open Float.Model.UnpackedFloat

/-! ### Rounding -/

theorem mantissa_shiftRight (m : ExtendedMantissa) (n : ℕ) :
    (m >>> n).mantissa = m.mantissa / 2 ^ n := by
  change (n.repeat ExtendedMantissa.shiftRightOne m).mantissa = _
  induction n with
  | zero => exact (Nat.div_one _).symm
  | succ n ih =>
    change (n.repeat ExtendedMantissa.shiftRightOne m).mantissa / 2 = _
    rw [ih, Nat.div_div_eq_div_mul, pow_succ]

theorem mantissa_ofMantissaAndAccuracy (m : ℕ) (a : Accuracy) :
    (ExtendedMantissa.ofMantissaAndAccuracy m a).mantissa = m := by
  rcases a with _ | (_ | _ | _) <;> rfl

/-- A mantissa is not rounded down any further. -/
theorem le_roundedMantissa (m : ExtendedMantissa) : m.mantissa ≤ m.roundedMantissa := by
  rw [ExtendedMantissa.roundedMantissa]
  rcases m.accuracy with _ | (_ | _ | _)
  · exact le_rfl
  · exact le_rfl
  · exact Nat.le_add_right _ _
  · exact Nat.le_succ _

/-- Shifting a mantissa leaves no more than 53 bits of it, but some. -/
theorem shiftToTargetExponent_bounds {m : ℕ} {e : ℤ} (hm : 0 < m) (he : -1074 ≤ e)
    (a : Accuracy) :
    let shifted := shiftToTargetExponent Format.binary64 m e a
    0 < shifted.1.mantissa ∧ shifted.1.mantissa < 2 ^ 53 ∧ -1074 ≤ shifted.2 := by
  intro shifted
  have htarget : Format.binary64.targetExponent (totalExponent m e) =
      max (m.log2 + 1 + e - 53) (-1074) := rfl
  have hshift : (Format.binary64.targetExponent (totalExponent m e) - e).toNat =
      m.log2 - 52 := by
    rw [htarget]
    omega
  have hmantissa : shifted.1.mantissa = m / 2 ^ (m.log2 - 52) := by
    rw [← hshift]
    exact (mantissa_shiftRight _ _).trans (by rw [mantissa_ofMantissaAndAccuracy])
  have hexponent : e ≤ shifted.2 := le_add_of_nonneg_right (Int.natCast_nonneg _)
  have hpow : 0 < 2 ^ (m.log2 - 52) := Nat.two_pow_pos _
  rw [hmantissa]
  refine ⟨Nat.div_pos ?_ hpow, ?_, he.trans hexponent⟩
  · calc 2 ^ (m.log2 - 52) ≤ 2 ^ m.log2 := Nat.pow_le_pow_right Nat.two_pos (Nat.sub_le _ _)
      _ ≤ m := Nat.log2_self_le hm.ne'
  · rw [Nat.div_lt_iff_lt_mul hpow, ← pow_add]
    calc m < 2 ^ (m.log2 + 1) := Nat.lt_log2_self
      _ ≤ 2 ^ (53 + (m.log2 - 52)) := Nat.pow_le_pow_right Nat.two_pos (by omega)

/-- A float that is stored as it is, unless it is too large. -/
def Fits : UnpackedFloat → Prop
  | .finite _ mantissa exponent _ => -1074 ≤ exponent ∧ mantissa < 2 ^ 53
  | _ => True

theorem Canonical.fits {x : UnpackedFloat} (h : Canonical x) : Fits x := by
  cases x with
  | finite s m e hm => exact ⟨h.le_exponent, h.mantissa_lt⟩
  | infinity s => trivial
  | notANumber => trivial
  | zero s => trivial

/-- **Rounding** never ends at zero. -/
theorem roundWithAccuracy_eq_finite {m : ℕ} {e : ℤ} (s : Sign) (hm : 0 < m) (he : -1074 ≤ e)
    (a : Accuracy) :
    ∃ m' e' hm', roundWithAccuracy Format.binary64 s m e a = .finite s m' e' hm' ∧
      Fits (.finite s m' e' hm') := by
  obtain ⟨hfirst, -, hlow⟩ := shiftToTargetExponent_bounds hm he a
  obtain ⟨hpos, hlt, hexponent⟩ :=
    shiftToTargetExponent_bounds (hfirst.trans_le (le_roundedMantissa _)) hlow .exact
  exact ⟨_, _, hpos, dif_neg hpos.ne', hexponent, hlt⟩

theorem round_eq_finite {m : ℕ} {e : ℤ} (s : Sign) (hm : 0 < m) (he : -1074 ≤ e) :
    ∃ m' e' hm', UnpackedFloat.round Format.binary64 s m e = .finite s m' e' hm' ∧
      Fits (.finite s m' e' hm') := by
  have hlow : -1074 ≤ Format.binary64.targetExponent (totalExponent m e) := le_max_right _ _
  set t := Format.binary64.targetExponent (totalExponent m e) with ht
  have hmantissa : 0 < (decreaseExponent m e t).1 := by
    change 0 < m <<< (e - t).toNat
    rw [Nat.shiftLeft_eq]
    exact Nat.mul_pos hm (Nat.two_pow_pos _)
  have hexponent : -1074 ≤ (decreaseExponent m e t).2 := by
    change -1074 ≤ e - (e - t).toNat
    omega
  rw [UnpackedFloat.round, ← ht]
  exact roundWithAccuracy_eq_finite s hmantissa hexponent .exact

/-! ### Storing -/

theorem unpackSign_packComponents {f : Format} (s : Sign) (e : BitVec f.exponentBits)
    (m : BitVec f.mantissaBitsWithoutImplicit) :
    unpackSign (packComponents f s e m) = s.toBitVec := by
  ext i hi
  obtain rfl : i = 0 := Nat.lt_one_iff.mp hi
  delta unpackSign packComponents
  simp [BitVec.getLsbD_append, BitVec.getElem_append]

theorem unpack_packedInfinity (s : Sign) :
    UnpackedFloat.unpack Format.binary64 (packedInfinity Format.binary64 s) = .infinity s := by
  cases s <;> rfl

/-- Bits with something in the exponent or in the mantissa are those of a finite float, unless all
the bits of the exponent are set. -/
theorem unpack_packComponents (s : Sign) (e : BitVec 11) (m : BitVec 52) (he : e ≠ -1#11)
    (h : e ≠ 0#11 ∨ m ≠ 0#52) :
    ∃ m' e' hm', UnpackedFloat.unpack Format.binary64 (packComponents Format.binary64 s e m) =
      .finite s m' e' hm' := by
  have hexponent := @unpackExponent_packComponents Format.binary64 s e m
  have hmantissa := @unpackMantissa_packComponents Format.binary64 s e m
  have hsign : Sign.ofBitVec (unpackSign (packComponents Format.binary64 s e m)) = s := by
    rw [unpackSign_packComponents]
    cases s <;> rfl
  delta UnpackedFloat.unpack
  dsimp only
  rw [hsign, if_neg (ne_of_eq_of_ne hexponent he)]
  by_cases he₀ : e = 0#11
  · have hm₀ := h.resolve_left (not_not_intro he₀)
    rw [if_pos (hexponent.trans he₀), dif_neg (ne_of_eq_of_ne hmantissa hm₀)]
    exact ⟨_, _, _, rfl⟩
  · rw [if_neg (ne_of_eq_of_ne hexponent he₀)]
    exact ⟨_, _, _, rfl⟩

/-- **A finite float** is stored as one, or as an infinite one. -/
theorem unpack_pack_finite (s : Sign) {m : ℕ} {e : ℤ} {hm : 0 < m}
    (hf : Fits (.finite s m e hm)) :
    let stored := UnpackedFloat.unpack Format.binary64
      (UnpackedFloat.pack Format.binary64 (.finite s m e hm))
    stored = .infinity s ∨ ∃ m' e' hm', stored = .finite s m' e' hm' := by
  obtain ⟨he, hlt⟩ := hf
  have hpack : UnpackedFloat.pack Format.binary64 (.finite s m e hm) =
      if 2 ^ 11 ≤ (e + 1023 + 52).toNat + 1 then packedInfinity Format.binary64 s
      else if m.log2 + 1 = 53 then
        packComponents Format.binary64 s (BitVec.ofNat 11 (e + 1023 + 52).toNat) (BitVec.ofNat 52 m)
      else packComponents Format.binary64 s 0#11 (BitVec.ofNat 52 m) := rfl
  rw [hpack]
  by_cases hlarge : 2 ^ 11 ≤ (e + 1023 + 52).toNat + 1
  · rw [if_pos hlarge]
    exact .inl (unpack_packedInfinity s)
  · rw [if_neg hlarge]
    right
    by_cases hall : m.log2 + 1 = 53
    · -- the bits of the exponent are neither all set nor all clear
      rw [if_pos hall]
      have hexponent : (BitVec.ofNat 11 (e + 1023 + 52).toNat).toNat = (e + 1023 + 52).toNat := by
        rw [BitVec.toNat_ofNat, Nat.mod_eq_of_lt (by omega)]
      refine unpack_packComponents s _ _ (fun h => ?_) (.inl fun h => ?_)
      · have hset := congrArg BitVec.toNat h
        rw [hexponent, BitVec.neg_one_eq_allOnes, BitVec.toNat_allOnes] at hset
        omega
      · have hclear := congrArg BitVec.toNat h
        rw [hexponent, BitVec.toNat_zero] at hclear
        omega
    · -- the mantissa has no bit beyond those that are stored
      rw [if_neg hall]
      refine unpack_packComponents s _ _ (by decide) (.inr fun h => ?_)
      have hlow : m < 2 ^ 52 := by
        have hlog : m.log2 < 53 := (Nat.log2_lt hm.ne').mpr hlt
        exact (Nat.log2_lt hm.ne').mp (by omega)
      have hclear := congrArg BitVec.toNat h
      rw [BitVec.toNat_ofNat, Nat.mod_eq_of_lt hlow, BitVec.toNat_zero] at hclear
      exact hm.ne' hclear

/-- What fits is stored as a number, and as one above nothing if it is above nothing. -/
theorem unpack_pack_ne_notANumber {x : UnpackedFloat} (hf : Fits x) (h : x ≠ .notANumber) :
    UnpackedFloat.unpack Format.binary64 (UnpackedFloat.pack Format.binary64 x) ≠ .notANumber := by
  cases x with
  | infinity s => exact ne_of_eq_of_ne (unpack_packedInfinity s) nofun
  | notANumber => exact absurd rfl h
  | zero s => cases s <;> exact nofun
  | finite s m e hm =>
    rcases unpack_pack_finite s hf with hstored | ⟨m', e', hm', hstored⟩
    · rw [hstored]
      exact nofun
    · rw [hstored]
      exact nofun

theorem units_pos_cases {x : UnpackedFloat} (h : (0 : ℤ) < units x) :
    x = .infinity .positive ∨ ∃ m e hm, x = .finite .positive m e hm := by
  rcases x with (_ | _) | _ | _ | ⟨(_ | _), m, e, hm⟩
  · exact absurd h not_lt_bot
  · exact .inl rfl
  · exact absurd h (lt_irrefl _)
  · exact absurd h (lt_irrefl _)
  · exact absurd h (units_negative_neg hm).not_gt
  · exact .inr ⟨m, e, hm, rfl⟩

theorem units_unpack_pack_pos {x : UnpackedFloat} (hf : Fits x) (h : (0 : ℤ) < units x) :
    (0 : ℤ) < units
      (UnpackedFloat.unpack Format.binary64 (UnpackedFloat.pack Format.binary64 x)) := by
  rcases units_pos_cases h with rfl | ⟨m, e, hm, rfl⟩
  · exact h.trans_eq (congrArg units (unpack_packedInfinity .positive)).symm
  · rcases unpack_pack_finite .positive hf with hstored | ⟨m', e', hm', hstored⟩
    · rw [hstored]
      exact WithBot.coe_lt_coe.mpr (WithTop.coe_lt_top 0)
    · rw [hstored]
      exact units_positive_pos hm'

/-! ### Differences and sums -/

/-- The units at a lower exponent are those that the shifted mantissa has there. -/
theorem magnitude_eq {m : ℕ} {e t : ℤ} (ht : -1074 ≤ t) (hte : t ≤ e) :
    magnitude m e = (decreaseExponent m e t).1 * 2 ^ (t + 1074).toNat := by
  have hsum : (e + 1074).toNat = (e - t).toNat + (t + 1074).toNat := by omega
  change m * 2 ^ (e + 1074).toNat = (m <<< (e - t).toNat) * 2 ^ (t + 1074).toNat
  rw [Nat.shiftLeft_eq, hsum, pow_add, mul_assoc]

theorem apply_mul (s : Sign) (a b : ℕ) : s.apply (a * b : ℕ) = s.apply a * b := by
  cases s
  · exact (congrArg _ (Nat.cast_mul a b)).trans (neg_mul _ _).symm
  · exact Nat.cast_mul a b

/-- A sum of mantissas is rounded to a number. -/
theorem normalize_fits (m : ℤ) {e : ℤ} (s : Sign) (he : -1074 ≤ e) :
    Fits (UnpackedFloat.normalize Format.binary64 m e s) ∧
      UnpackedFloat.normalize Format.binary64 m e s ≠ .notANumber := by
  rcases lt_trichotomy m 0 with hm | rfl | hm
  · obtain ⟨m', e', hm', hround, hfits⟩ :=
      round_eq_finite .negative (Int.lt_toNat.mpr (Int.neg_pos_of_neg hm) : 0 < (-m).toNat) he
    rw [UnpackedFloat.normalize, Int.compare_eq_lt.mpr hm, hround]
    exact ⟨hfits, nofun⟩
  · exact ⟨trivial, nofun⟩
  · obtain ⟨m', e', hm', hround, hfits⟩ :=
      round_eq_finite .positive (Int.lt_toNat.mpr hm : 0 < m.toNat) he
    rw [UnpackedFloat.normalize, Int.compare_eq_gt.mpr hm, hround]
    exact ⟨hfits, nofun⟩

/-- A sum of mantissas that is above nothing is rounded to a float above nothing. -/
theorem normalize_pos {m : ℤ} {e : ℤ} (s : Sign) (hm : 0 < m) (he : -1074 ≤ e) :
    Fits (UnpackedFloat.normalize Format.binary64 m e s) ∧
      (0 : ℤ) < units (UnpackedFloat.normalize Format.binary64 m e s) := by
  obtain ⟨m', e', hm', hround, hfits⟩ :=
    round_eq_finite .positive (Int.lt_toNat.mpr hm : 0 < m.toNat) he
  rw [UnpackedFloat.normalize, Int.compare_eq_gt.mpr hm, hround]
  exact ⟨hfits, units_positive_pos hm'⟩

/-- The mantissas of two finite floats, shifted to one exponent, are in the order of the units. -/
theorem apply_decreaseExponent_lt {s₁ s₂ : Sign} {m₁ m₂ : ℕ} {e₁ e₂ : ℤ} {hm₁ : 0 < m₁}
    {hm₂ : 0 < m₂} (h₁ : IsCanonical m₁ e₁) (h₂ : IsCanonical m₂ e₂)
    (h : units (.finite s₂ m₂ e₂ hm₂) < units (.finite s₁ m₁ e₁ hm₁)) :
    s₂.apply (decreaseExponent m₂ e₂ (min e₁ e₂)).1 <
      s₁.apply (decreaseExponent m₁ e₁ (min e₁ e₂)).1 := by
  have hlow : -1074 ≤ min e₁ e₂ := le_min h₁.le_exponent h₂.le_exponent
  have hunits : s₂.apply (magnitude m₂ e₂) < s₁.apply (magnitude m₁ e₁) :=
    WithTop.coe_lt_coe.mp (WithBot.coe_lt_coe.mp h)
  rw [magnitude_eq hlow (min_le_right _ _), magnitude_eq hlow (min_le_left _ _), apply_mul,
    apply_mul] at hunits
  exact lt_of_mul_lt_mul_right hunits (Int.natCast_nonneg _)

/-- **The difference** of a float and a lower one is above nothing. -/
theorem units_sub_pos {x y : UnpackedFloat} (hx : Canonical x) (hy : Canonical y)
    (hx' : x ≠ .notANumber) (hy' : y ≠ .notANumber) (h : units y < units x) :
    Fits (UnpackedFloat.sub Format.binary64 x y) ∧
      (0 : ℤ) < units (UnpackedFloat.sub Format.binary64 x y) := by
  have htop : (0 : ℤ) < units (.infinity .positive) := WithBot.coe_lt_coe.mpr (WithTop.coe_lt_top 0)
  unfold UnpackedFloat.sub
  split
  · exact absurd rfl hx'
  · exact absurd rfl hy'
  -- one of them is infinite
  · next s₁ s₂ =>
    rcases s₁ with _ | _ <;> rcases s₂ with _ | _
    · exact absurd h (lt_irrefl _)
    · exact absurd h not_lt_bot
    · exact ⟨trivial, htop⟩
    · exact absurd h (lt_irrefl _)
  · next s _ _ =>
    rcases s with _ | _
    · exact absurd h not_lt_bot
    · exact ⟨trivial, htop⟩
  · next s _ _ =>
    rcases s with _ | _
    · exact ⟨trivial, htop⟩
    · exact absurd h not_top_lt
  -- one of them is zero
  · exact absurd h (lt_irrefl _)
  · next s m e hm =>
    rcases s with _ | _
    · exact ⟨hy.fits, units_positive_pos hm⟩
    · exact absurd h (units_positive_pos hm).not_gt
  · exact ⟨hx.fits, h⟩
  -- both are neither
  · have hlt := apply_decreaseExponent_lt hx hy h
    exact normalize_pos .positive (Int.sub_pos_of_lt hlt)
      (le_min hx.le_exponent hy.le_exponent)

/-- **A sum** of a finite float and a number is a number. -/
theorem add_fits {x y : UnpackedFloat} (hx : Canonical x) (hy : Canonical y)
    (hx' : x.isFinite = true) (hy' : y ≠ .notANumber) :
    Fits (UnpackedFloat.add Format.binary64 x y) ∧
      UnpackedFloat.add Format.binary64 x y ≠ .notANumber := by
  unfold UnpackedFloat.add
  split
  · cases hx'
  · exact absurd rfl hy'
  · cases hx'
  · cases hx'
  · exact ⟨trivial, nofun⟩
  · split <;> exact ⟨trivial, nofun⟩
  · exact ⟨hy.fits, hy'⟩
  · refine ⟨hx.fits, ?_⟩
    rintro rfl
    cases hx'
  · exact normalize_fits _ .positive (le_min hx.le_exponent hy.le_exponent)

/-! ### Stored floats -/

variable {a b : Float}

theorem isNaN_iff : a.isNaN = true ↔ a.toModel.unpack = .notANumber := by
  rw [← not_iff_not, Bool.not_eq_true, isNaN_eq_false_iff]

theorem zero_lt_iff : Quantity.zero < a ↔ (0 : ℤ) < worth a := by
  have hzero : worth Quantity.zero = (0 : ℤ) := rfl
  rw [lt_iff, hzero]
  refine ⟨fun h => h.2.2, fun h => ⟨rfl, isNaN_eq_false_iff.mpr fun hnan => ?_, h⟩⟩
  rw [worth, hnan] at h
  exact lt_irrefl _ h

/-- **Of two floats** the higher one less the lower one is above nothing. -/
theorem sub_pos (h : b < a) : Quantity.zero < a - b := by
  obtain ⟨hb, ha, hworth⟩ := lt_iff.mp h
  obtain ⟨hfits, hpos⟩ := units_sub_pos (canonical_unpack _) (canonical_unpack _)
    (isNaN_eq_false_iff.mp ha) (isNaN_eq_false_iff.mp hb) hworth
  exact zero_lt_iff.mpr (units_unpack_pack_pos hfits hpos)

theorem isNaN_add (ha : a.isFinite = true) (hb : b.isNaN = false) : (a + b).isNaN = false := by
  obtain ⟨hfits, hnumber⟩ := add_fits (canonical_unpack _) (canonical_unpack _) ha
    (isNaN_eq_false_iff.mp hb)
  exact isNaN_eq_false_iff.mpr (unpack_pack_ne_notANumber hfits hnumber)

/-- Not-a-number added to anything is not-a-number, and so is what is taken from it. -/
theorem isNaN_add_of_right (hb : b.isNaN = true) : (a + b).isNaN = true := by
  have hsum (x : UnpackedFloat) :
      UnpackedFloat.add Format.binary64 x .notANumber = .notANumber := by
    rcases x with _ | _ | _ | _ <;> rfl
  have hstored : (a + b).toModel =
      Float.Model.pack (UnpackedFloat.add Format.binary64 a.toModel.unpack b.toModel.unpack) := rfl
  rw [isNaN_iff, hstored, isNaN_iff.mp hb, hsum]
  rfl

theorem isNaN_sub_of_left (ha : a.isNaN = true) : (a - b).isNaN = true := by
  have hdifference (x : UnpackedFloat) :
      UnpackedFloat.sub Format.binary64 .notANumber x = .notANumber := by
    rcases x with _ | _ | _ | _ <;> rfl
  have hstored : (a - b).toModel =
      Float.Model.pack (UnpackedFloat.sub Format.binary64 a.toModel.unpack b.toModel.unpack) := rfl
  rw [isNaN_iff, hstored, isNaN_iff.mp ha, hdifference]
  rfl

/-- What is above nothing stays so when it is added to nothing. -/
theorem zero_add_pos (h : Quantity.zero < a) : Quantity.zero < Quantity.zero + a := by
  have hpos := zero_lt_iff.mp h
  have hsum : UnpackedFloat.add Format.binary64 (.zero .positive) a.toModel.unpack =
      a.toModel.unpack := by
    rcases units_pos_cases hpos with ha | ⟨m, e, hm, ha⟩ <;> rw [ha] <;> rfl
  have hfits : Fits a.toModel.unpack := (canonical_unpack _).fits
  have hstored := units_unpack_pack_pos hfits hpos
  rw [← hsum] at hstored
  exact zero_lt_iff.mpr hstored

end Settle.Binary
