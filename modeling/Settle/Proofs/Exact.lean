import Settle.Quantity
import Mathlib.Data.Rat.Floor
import Mathlib.Tactic.Linarith

/-!
# Exact quantities

Read as rationals, the operations on quantities are the familiar ones: nothing is zero, and
the lesser and the greater of two quantities are their minimum and their maximum.
-/

namespace Settle.Quantity

@[simp] theorem zero_rat : (zero : ℚ) = 0 := rfl

@[simp] theorem ofInt_rat (n : ℤ) : (ofInt n : ℚ) = n := rfl

@[simp] theorem least_rat (a b : ℚ) : least a b = min a b := by
  rw [least]
  split
  · next h => exact (min_eq_right (le_of_lt h)).symm
  · next h => exact (min_eq_left (not_lt.mp h)).symm

@[simp] theorem greatest_rat (a b : ℚ) : greatest a b = max a b := by
  rw [greatest]
  split
  · next h => exact (max_eq_right (le_of_lt h)).symm
  · next h => exact (max_eq_left (not_lt.mp h)).symm

theorem isZero_rat (a : ℚ) : isZero a = true ↔ a = 0 := by
  rw [isZero, Bool.and_eq_true, decide_eq_true_iff, decide_eq_true_iff]
  exact le_antisymm_iff.symm

end Settle.Quantity
