import Mathlib.Order.Basic
import Settle.Listing.Page
import Settle.Task.Workflow

/-!
# Outcomes told apart

Values and faults are the same just if they are built the same way from the same parts, which can
be decided. So it can be for how a run on given data ends, by running it.

This is not how values are compared by the library, for which `1`, `1.0` and `true` are worth the
same.
-/

namespace Settle

/-! ### Values -/

namespace Value

mutual

/-- Are two values built the same way? -/
def decEq : (a b : Value) → Decidable (a = b)
  | .null, b => match b with
    | .null => isTrue rfl
    | .bool _ | .int _ | .float _ | .text _ | .list _ | .record _ => isFalse nofun
  | .bool x, b => match b with
    | .bool y => decidable_of_iff (x = y) (by rw [bool.injEq])
    | .null | .int _ | .float _ | .text _ | .list _ | .record _ => isFalse nofun
  | .int x, b => match b with
    | .int y => decidable_of_iff (x = y) (by rw [int.injEq])
    | .null | .bool _ | .float _ | .text _ | .list _ | .record _ => isFalse nofun
  | .float x, b => match b with
    | .float y => decidable_of_iff (x = y) (by rw [float.injEq])
    | .null | .bool _ | .int _ | .text _ | .list _ | .record _ => isFalse nofun
  | .text x, b => match b with
    | .text y => decidable_of_iff (x = y) (by rw [text.injEq])
    | .null | .bool _ | .int _ | .float _ | .list _ | .record _ => isFalse nofun
  | .list x, b => match b with
    | .list y =>
      haveI := decEqItems x y
      decidable_of_iff (x = y) (by rw [list.injEq])
    | .null | .bool _ | .int _ | .float _ | .text _ | .record _ => isFalse nofun
  | .record x, b => match b with
    | .record y =>
      haveI := decEqFields x y
      decidable_of_iff (x = y) (by rw [record.injEq])
    | .null | .bool _ | .int _ | .float _ | .text _ | .list _ => isFalse nofun

/-- Are the items of two lists built the same way, one by one? -/
def decEqItems : (a b : List Value) → Decidable (a = b)
  | [], [] => isTrue rfl
  | [], _ :: _ => isFalse nofun
  | _ :: _, [] => isFalse nofun
  | x :: a, y :: b =>
    haveI := decEq x y
    haveI := decEqItems a b
    decidable_of_iff (x = y ∧ a = b) (by rw [List.cons.injEq])

/-- Do two records have the same names in the same order, with values built the same way? -/
def decEqFields : (a b : List (String × Value)) → Decidable (a = b)
  | [], [] => isTrue rfl
  | [], _ :: _ => isFalse nofun
  | _ :: _, [] => isFalse nofun
  | (s, x) :: a, (t, y) :: b =>
    haveI := decEq x y
    haveI := decEqFields a b
    decidable_of_iff ((s = t ∧ x = y) ∧ a = b) (by rw [List.cons.injEq, Prod.mk.injEq])

end

instance : DecidableEq Value := decEq

end Value

/-! ### Faults -/

deriving instance DecidableEq for Kind, Context

namespace Fault

variable {τ : Type} [DecidableEq τ]

mutual

/-- Are two faults built the same way? -/
def decEq : (a b : Fault τ) → Decidable (a = b)
  | .plain s k m, b => match b with
    | .plain s' k' m' => decidable_of_iff (s = s' ∧ k = k' ∧ m = m') (by rw [plain.injEq])
    | .remote .. | .structured .. => isFalse nofun
  | .remote s c m r, b => match b with
    | .remote s' c' m' r' =>
      decidable_of_iff (s = s' ∧ c = c' ∧ m = m' ∧ r = r') (by rw [remote.injEq])
    | .plain .. | .structured .. => isFalse nofun
  | .structured s k m c x o, b => match b with
    | .structured s' k' m' c' x' o' =>
      haveI := decEqOption x x'
      haveI := decEqOption o o'
      decidable_of_iff (s = s' ∧ k = k' ∧ m = m' ∧ c = c' ∧ x = x' ∧ o = o')
        (by rw [structured.injEq])
    | .plain .. | .remote .. => isFalse nofun

/-- Is there no fault in either place, or are they built the same way? -/
def decEqOption : (a b : Option (Fault τ)) → Decidable (a = b)
  | none, none => isTrue rfl
  | none, some _ => isFalse nofun
  | some _, none => isFalse nofun
  | some x, some y =>
    haveI := decEq x y
    decidable_of_iff (x = y) (by rw [Option.some.injEq])

end

instance : DecidableEq (Fault τ) := decEq

end Fault

/-! ### What runs return -/

deriving instance DecidableEq for DealEntry, Page

-- found at once, for the search doubles its terms with each type that holds another
instance {τ α : Type} [DecidableEq τ] [DecidableEq α] :
    DecidableEq (Except (Fault τ) (Option (Page α))) :=
  inferInstance

end Settle
