/-!
# Decimal digits

The character set has decimal digits of many scripts. Those of one script stand side by side,
from its zero up to its nine, so the zeros tell them all.

Main statements: `digitValue?_of_isDigit`, that the digits of the standard library are among
them and count what they should, and `digitValue?_lt`.
-/

namespace Settle.Text

/-- The zeros of all scripts. -/
def zeros : Array Nat :=
  #[48, 1632, 1776, 1984, 2406, 2534, 2662, 2790, 2918, 3046, 3174, 3302, 3430, 3558, 3664,
    3792, 3872, 4160, 4240, 6112, 6160, 6470, 6608, 6784, 6800, 6992, 7088, 7232, 7248, 42528,
    43216, 43264, 43472, 43504, 43600, 44016, 65296, 66720, 68912, 69734, 69872, 69942, 70096,
    70384, 70736, 70864, 71248, 71360, 71472, 71904, 72016, 72784, 73040, 73120, 92768, 92864,
    93008, 120782, 120792, 120802, 120812, 120822, 123200, 123632, 125264, 130032]

/-- What a character counts if it is a decimal digit. -/
def digitValue? (c : Char) : Option Nat :=
  (zeros.find? fun z => z ≤ c.toNat ∧ c.toNat < z + 10).map (c.toNat - ·)

/-- A decimal digit counts less than ten. -/
theorem digitValue?_lt {c : Char} {n : Nat} (h : digitValue? c = some n) : n < 10 := by
  unfold digitValue? at h
  rw [Option.map_eq_some_iff] at h
  obtain ⟨z, found, rfl⟩ := h
  have inside := Array.find?_some found
  simp only [decide_eq_true_eq] at inside
  omega

/-- The digits of the standard library count what they should. -/
theorem digitValue?_of_isDigit {c : Char} (h : c.isDigit = true) :
    digitValue? c = some (c.toNat - 48) := by
  have range : 48 ≤ c.toNat ∧ c.toNat < 48 + 10 := by
    simp only [Char.isDigit, Bool.and_eq_true, decide_eq_true_eq] at h
    have low : (48 : UInt32).toNat ≤ c.val.toNat := UInt32.le_iff_toNat_le.mp h.1
    have high : c.val.toNat ≤ (57 : UInt32).toNat := UInt32.le_iff_toNat_le.mp h.2
    exact ⟨low, Nat.lt_succ_of_le high⟩
  have first : zeros.find? (fun z => z ≤ c.toNat ∧ c.toNat < z + 10) = some 48 := by
    rw [← Array.find?_toList]
    show List.find? _ (48 :: _) = some 48
    rw [List.find?_cons_of_pos]
    exact decide_eq_true range
  rw [digitValue?, first]
  rfl

/-- The same digit as it is written in numerals; any other character stays. -/
def plainDigit (c : Char) : Char :=
  match digitValue? c with
  | some n => Nat.digitChar n
  | none => c

end Settle.Text
