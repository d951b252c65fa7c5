import Settle.Value.Access

/-!
# Pages

A page is a bounded slice of a listing, with the limit and the offset it was asked for, which
are kept as they were written. A page of at least its limit is full, and more items may
follow it.

Main statement: `hasMore_iff` says which pages are full.
-/

namespace Settle

/-- A slice of a listing. -/
structure Page (α : Type) where
  items : List α
  limit : Value
  offset : Value := .int 0

namespace Page

variable {α : Type}

/-- The number of items. -/
def size (p : Page α) : Nat := p.items.length

/-- May more items follow? -/
def hasMore (p : Page α) : Bool := decide (p.limit.asInt ≤ p.size)

theorem hasMore_iff (p : Page α) : p.hasMore = true ↔ p.limit.asInt ≤ p.size :=
  decide_eq_true_iff

end Page

/-- The part of a list that a page is asked for, by an offset and a limit. -/
def Listing.slice {α : Type} (xs : List α) (offset limit : Int) : List α :=
  (xs.drop offset.toNat).take limit.toNat

end Settle
