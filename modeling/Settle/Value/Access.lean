import Settle.Ledger
import Settle.Value

/-!
# Parts of free values

A record is asked for the value under a name, and a value is taken as a number, a text, a
series of items or a record. What is not there, or is of another kind, is taken as nothing:
zero, no text, no items. A null counts as a value for `at?` and as nothing for `given?`.

Main statements: `at?_record` and `given?_eq_some_iff`.
-/

namespace Settle.Value

/-- The value under a name of a record. -/
def at? (v : Value) (name : String) : Option Value :=
  match v with
  | record fs => Ledger.get? fs name
  | _ => none

theorem at?_record (fs : Ledger String Value) (name : String) :
    (record fs).at? name = fs.get? name := rfl

/-- What stands under a name is smaller than the whole. -/
theorem sizeOf_at? {v x : Value} {name : String} (h : v.at? name = some x) :
    sizeOf x < sizeOf v := by
  cases v with
  | record fs =>
    have hm := List.sizeOf_lt_of_mem (Ledger.mem_of_get? h)
    simp only [Prod.mk.sizeOf_spec] at hm
    simp only [record.sizeOf_spec]
    omega
  | _ => simp [at?] at h

/-- The value under a name, unless it is null. -/
def given? (v : Value) (name : String) : Option Value :=
  match v.at? name with
  | some null => none
  | o => o

theorem given?_eq_some_iff (v : Value) (name : String) (x : Value) :
    v.given? name = some x ↔ v.at? name = some x ∧ x ≠ null := by
  unfold given?
  cases v.at? name with
  | none => simp
  | some y =>
    cases y <;> simp only [Option.some.injEq, reduceCtorEq, false_iff, not_and, ne_eq] <;>
      first
        | exact fun h hn => hn h.symm
        | exact ⟨fun h => ⟨h, h ▸ by simp⟩, And.left⟩

/-- The value under a name, or another one. -/
def atOr (v : Value) (name : String) (default : Value) : Value := (v.at? name).getD default

/-- A number as a float. -/
def asFloat : Value → Float
  | float x => x
  | int n => Float.ofInt n
  | bool b => if b then 1.0 else 0.0
  | _ => 0.0

/-- A whole number. -/
def asInt : Value → Int
  | int n => n
  | bool b => if b then 1 else 0
  | _ => 0

/-- A value that is a whole number or counts as one. -/
def whole? : Value → Option Int
  | int n => some n
  | bool b => some (if b then 1 else 0)
  | _ => none

/-- The items of a value: those of a list, the characters of a text, and the names of a
record. -/
def asItems : Value → List Value
  | list xs => xs
  | text s => (Text.letters s).map .text
  | record fs => fs.map fun f => .text f.1
  | _ => []

/-- The fields of a record. -/
def asFields : Value → List (String × Value)
  | record fs => fs
  | _ => []

/-- The float under a name. -/
def floatAt? (v : Value) (name : String) : Option Float := (v.given? name).map asFloat

/-- The whole number under a name, or zero. -/
def intAt (v : Value) (name : String) : Int := (v.atOr name null).asInt

/-- The text under a name. Any other value but null is taken as its text. -/
def textAt? (v : Value) (name : String) : Option String := (v.given? name).map shown

/-- The text under a name, or another one. -/
def textAt (v : Value) (name default : String) : String := (v.textAt? name).getD default

/-- The items under a name. -/
def itemsAt (v : Value) (name : String) : List Value := (v.atOr name null).asItems

/-- The texts of the items under a name. -/
def textsAt (v : Value) (name : String) : List String := (v.itemsAt name).map shown

/-- The fields under a name. -/
def fieldsAt (v : Value) (name : String) : List (String × Value) :=
  (v.atOr name null).asFields

/-- Is the value under a name present and not empty, zero or false? -/
def flagAt (v : Value) (name : String) : Bool := (v.atOr name null).isTruthy

/-- A list of texts. -/
def ofTexts (xs : List String) : Value := list (xs.map text)

end Settle.Value
