import Settle.Value.Number

/-!
# Filters on listed items

A filter tests the items of a listing, or what stands under one key of each item: for
equality, for order, or for the remainder of a division. A test that does not apply to an
item fails, which is not the same as not being passed.

Main statements: `keeps_atLeast_int` and `keeps_leaves_int` for whole numbers.
-/

namespace Settle

/-- What a value is tested for. -/
inductive Trial where
  | equals (wanted : Value)
  | atLeast (bound : Value)
  | leaves (divisor rest : Value)
  | nothing
  | anything

/-- Does a value pass the test? -/
def Trial.passes (t : Trial) (v : Value) : Except Misuse Bool :=
  match t with
  | equals wanted => .ok (v.same wanted)
  | atLeast bound => v.atLeast bound
  | leaves divisor rest => (v.remainder divisor).map fun r => r.same rest
  | nothing => .ok false
  | anything => .ok true

/-- A test of items, or of what stands under a key of each. -/
structure ItemFilter where
  key : Option Value := none
  trial : Trial

namespace ItemFilter

/-- What the filter looks at in an item. -/
def view (f : ItemFilter) (item : Value) : Except Misuse Value :=
  match f.key with
  | some key => item.under key
  | none => .ok item

/-- Does the filter keep the item? -/
def keeps (f : ItemFilter) (item : Value) : Except Misuse Bool :=
  (f.view item).bind f.trial.passes

theorem keeps_atLeast_int (bound n : Int) :
    keeps ⟨none, .atLeast (.int bound)⟩ (.int n) = .ok (decide (bound ≤ n)) :=
  Value.atLeast_int n bound

theorem keeps_leaves_int {divisor : Int} (h : divisor ≠ 0) (rest n : Int) :
    keeps ⟨none, .leaves (.int divisor) (.int rest)⟩ (.int n)
      = .ok ((Value.int (n.fmod divisor)).same (.int rest)) := by
  simp [keeps, view, Except.bind, Trial.passes, Value.remainder_int n h, Except.map]

/-- The filter as a test that raises a fault where it does not apply. -/
def test {τ : Type} (f : ItemFilter) (item : Value) : Except (Fault τ) Bool :=
  (f.keeps item).mapError Misuse.toFault

end ItemFilter

end Settle
