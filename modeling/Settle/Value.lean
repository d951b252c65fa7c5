import Settle.Decimal.Form
import Settle.Text.Quoted

/-!
# Free values

Handles, status codes, requests, responses and listed items are free values: what a remote
service sends, without a schema. This file holds the type, the equality by which codes are
looked up, and the two written forms of a value.

* Numbers are compared by what they are worth, so a truth value, a whole number and a float
  can be one code. `Value.key?` names the worth of a scalar exactly; not-a-number has none,
  and neither have lists and records.
* `Value.same` compares any two values; on scalars it is equality of keys
  (`same_iff_key`).
* `Value.shown` writes a text bare; inside lists and records, and in `Value.written`, a text
  is quoted.
-/

namespace Settle

/-- A value without a schema. Records keep the order in which their names came. -/
inductive Value where
  | null
  | bool (b : Bool)
  | int (n : Int)
  | float (x : Float)
  | text (s : String)
  | list (items : List Value)
  | record (fields : List (String × Value))
  deriving Inhabited

namespace Value

/-! ### Equality by worth -/

/-- What a scalar is worth: for a number `mantissa * 2 ^ exponent` with an odd mantissa, or
zero with exponent zero. -/
inductive Key where
  | nothing
  | number (mantissa : Int) (exponent : Int)
  | infinite (negative : Bool)
  | text (s : String)
  deriving DecidableEq, Repr

/-- Take factors of two out of a mantissa, at most `n` of them. -/
def takeTwos : Nat → Nat → Int → Nat × Int
  | 0, m, e => (m, e)
  | n + 1, m, e => if m % 2 = 0 then takeTwos n (m / 2) (e + 1) else (m, e)

/-- The key of `m * 2 ^ e`. -/
def Key.ofBinary (negative : Bool) (m : Nat) (e : Int) : Key :=
  if m = 0 then .number 0 0
  else
    let r := takeTwos (m.log2 + 1) m e
    .number (if negative then -(r.1 : Int) else r.1) r.2

/-- The key of a whole number. -/
def Key.ofInt (n : Int) : Key := .ofBinary (decide (n < 0)) n.natAbs 0

/-- The key of a float, if it is a number. -/
def Key.ofFloat? (x : Float) : Option Key :=
  match Decimal.Parts.ofFloat x with
  | .notANumber => none
  | .infinite negative => some (.infinite negative)
  | .finite negative m e => some (.ofBinary negative m e)

/-- What a scalar is worth. Not-a-number, lists and records have no key. -/
def key? : Value → Option Key
  | null => some .nothing
  | bool b => some (.ofInt (if b then 1 else 0))
  | int n => some (.ofInt n)
  | float x => Key.ofFloat? x
  | text s => some (.text s)
  | list _ => none
  | record _ => none

/-- Is the value one that a table can be asked about? Lists and records are not. -/
def isScalar : Value → Bool
  | list _ => false
  | record _ => false
  | _ => true

mutual

/-- Are two values equal by worth? Lists are compared item by item, records name by name
whatever their order. Not-a-number equals nothing. -/
def same : Value → Value → Bool
  | list xs, b => match b with
    | list ys => sameItems xs ys
    | _ => false
  | record fs, b => match b with
    | record gs => fs.length == gs.length && sameFields fs gs
    | _ => false
  | a, b => match a.key?, b.key? with
    | some k, some l => decide (k = l)
    | _, _ => false

/-- Item by item. -/
def sameItems : List Value → List Value → Bool
  | [], ys => ys.isEmpty
  | x :: xs, ys => match ys with
    | [] => false
    | y :: ys => same x y && sameItems xs ys

/-- Every name of the first list has an equal value in the second. -/
def sameFields : List (String × Value) → List (String × Value) → Bool
  | [], _ => true
  | f :: fs, gs => sameField f gs && sameFields fs gs

/-- One name has an equal value in the list. -/
def sameField : String × Value → List (String × Value) → Bool
  | (name, x), gs => match gs.lookup name with
    | some y => same x y
    | none => false

end

/-- On scalars, equality is equality of worth. -/
theorem same_iff_key {a b : Value} (ha : a.isScalar = true) :
    a.same b = true ↔ ∃ k, a.key? = some k ∧ b.key? = some k := by
  have h : a.same b = match a.key?, b.key? with
      | some k, some l => decide (k = l)
      | _, _ => false := by
    cases a <;> simp_all [isScalar, same]
  rw [h]
  cases a.key? <;> cases b.key? <;> simp [eq_comm]

/-! ### Truth -/

/-- Does the value count as present? Null, false, zero and everything empty do not. -/
def isTruthy : Value → Bool
  | null => false
  | bool b => b
  | int n => n != 0
  | float x => !(x == 0.0)
  | text s => !s.isEmpty
  | list xs => !xs.isEmpty
  | record fs => !fs.isEmpty

/-- Null, or not? -/
def isNull : Value → Bool
  | null => true
  | _ => false

/-- The first value that counts as present, or the second. -/
def orElse (a b : Value) : Value := if a.isTruthy then a else b

/-- An optional text as a value. -/
def ofOption : Option String → Value
  | some s => .text s
  | none => .null

/-! ### Written forms -/

/-- Join written parts by a comma and a space. -/
def commaJoin (parts : List String) : String := ", ".intercalate parts

mutual

/-- The written form, in which a text is quoted. -/
def written : Value → String
  | null => "None"
  | bool b => if b then "True" else "False"
  | int n => toString n
  | float x => Decimal.text x
  | text s => Text.quote s
  | list xs => "[" ++ commaJoin (writtenItems xs) ++ "]"
  | record fs => "\x7b" ++ commaJoin (writtenFields fs) ++ "\x7d"

/-- The written forms of the items of a list. -/
def writtenItems : List Value → List String
  | [] => []
  | x :: xs => written x :: writtenItems xs

/-- The written forms of the fields of a record. -/
def writtenFields : List (String × Value) → List String
  | [] => []
  | f :: fs => writtenField f :: writtenFields fs

/-- A name and its value. -/
def writtenField : String × Value → String
  | (name, x) => Text.quote name ++ ": " ++ written x

end

/-- The text of a value as it stands in a message: a text is bare. -/
def shown : Value → String
  | .text s => s
  | v => v.written

/-- The name of the kind of a value, as messages call it. -/
def kindName : Value → String
  | null => "NoneType"
  | bool _ => "bool"
  | int _ => "int"
  | float _ => "float"
  | text _ => "str"
  | list _ => "list"
  | record _ => "dict"

end Value

end Settle
