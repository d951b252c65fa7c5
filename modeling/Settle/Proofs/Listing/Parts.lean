import Settle.Listing.Page

/-!
# The parts of a listing

A listing that is read page by page is taken apart: part `i` is the slice that follows `i` slices
of the same size. All parts are of that size up to the first that is shorter, which is part
`xs.length / size`, and with it the list is complete. Where the size divides the number of items,
the last part is empty.

Main statements: `length_part_lt_iff`, which says where the parts end, and `flatMap_part`, by
which they make up the list.
-/

namespace Settle.Listing

variable {α : Type} {size i : Nat}

/-- Part `i` of a listing. -/
def part (xs : List α) (size i : Nat) : List α := slice xs (i * size : Nat) size

theorem part_eq (xs : List α) (size i : Nat) :
    part xs size i = (xs.drop (i * size)).take size := by
  rw [part, slice, Int.toNat_natCast, Int.toNat_natCast]

/-- Parts one after the other are the front of the list. -/
theorem flatMap_part_eq_take (xs : List α) (size m : Nat) :
    (List.range m).flatMap (part xs size) = xs.take (m * size) := by
  induction m with
  | zero => rw [Nat.zero_mul, List.take_zero, List.range_zero, List.flatMap_nil]
  | succ m ih =>
    rw [List.range_succ, List.flatMap_append, ih, List.flatMap_singleton, part_eq, Nat.succ_mul,
      List.take_add]

/-- **The parts make up the list**, with none of its items missing and none twice. -/
theorem flatMap_part (xs : List α) (h : 0 < size) :
    (List.range (xs.length / size + 1)).flatMap (part xs size) = xs := by
  have hlt : xs.length < size * (xs.length / size + 1) := Nat.lt_mul_div_succ xs.length h
  rw [flatMap_part_eq_take, Nat.mul_comm]
  exact List.take_of_length_le (Nat.le_of_lt hlt)

/-- **The first short part** is the one that completes the list. -/
theorem length_part_lt_iff {xs : List α} (h : 0 < size) (hi : i ≤ xs.length / size) :
    (part xs size i).length < size ↔ i = xs.length / size := by
  have hlast : xs.length < (i + 1) * size ↔ i = xs.length / size := by
    rw [← Nat.div_lt_iff_lt_mul h]
    omega
  rw [part_eq, List.length_take, List.length_drop, ← hlast, Nat.succ_mul]
  omega

end Settle.Listing
