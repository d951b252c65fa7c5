import Settle.Value.Number

/-!
# Sums and parts of free values

Numbers are added up, texts and lists are put one after the other. A part of a text or of a
list lies between two ends, given as counts of items from the front; a negative end counts
from the back, and null stands for the end of the whole.

Main statements: `between_eq` for ends that are counts, and `sum?_int`.
-/

namespace Settle.Value

/-- The sum of two values. -/
def sum? (a b : Value) : Except Misuse Value :=
  match a, b with
  | text s, text t => .ok (text (s ++ t))
  | list xs, list ys => .ok (list (xs ++ ys))
  | a, b =>
    match a.whole?, b.whole? with
    | some m, some n => .ok (int (m + n))
    | _, _ =>
      if a.isNumber && b.isNumber then do
        let x ← a.asFloat?
        let y ← b.asFloat?
        pure (float (x + y))
      else .error (.unadded a.kindName b.kindName)

theorem sum?_int (m n : Int) : (int m).sum? (int n) = .ok (int (m + n)) := rfl

/-- The place of an end among `size` items. -/
def place (size : Nat) (i : Int) : Nat := if i < 0 then (size + i).toNat else i.toNat

theorem place_natCast (size n : Nat) : place size n = n := by
  simp [place, Int.not_lt_of_ge (Int.natCast_nonneg n)]

/-- The items between two ends. -/
def between {α : Type} (xs : List α) (first last : Int) : List α :=
  let start := place xs.length first
  (xs.drop start).take (place xs.length last - start)

/-- Between an offset and the offset that a limit leads to are the items of a listing. -/
theorem between_eq {α : Type} (xs : List α) (offset limit : Nat) :
    between xs offset (offset + limit : Nat) = (xs.drop offset).take limit := by
  simp only [between, place_natCast, Nat.add_sub_cancel_left]

/-- An end, which is a whole number or the end of the whole. -/
def endAt (default : Int) (v : Value) : Except Misuse Int :=
  match v, v.whole? with
  | null, _ => .ok default
  | _, some n => .ok n
  | _, none => .error .notAnIndex

/-- The part of a text or of a list between two ends. -/
def slice? (v first last : Value) : Except Misuse Value :=
  match v with
  | list xs => do
    pure (list (between xs (← endAt 0 first) (← endAt xs.length last)))
  | text s => do
    pure (text (Text.ofCodes
      (between (Text.codes s) (← endAt 0 first) (← endAt (Text.count s) last))))
  | v => .error (.notSliced v)

end Settle.Value
