import Settle.Fault.Basic
import Settle.Value.Access

/-!
# Values asked for what they do not have

A free value can turn out to be of another kind than its user counts on: no record where a
name is looked up, no number where numbers are divided, nothing that has items. A `Misuse` is
the cause, worded by `Misuse.message`, and `Misuse.toFault` is the fault that it comes up as.

Main statements: `entry_eq_ok_iff` says which look-ups succeed, `under_record` and `under_list`
what a key that is a value finds, `items?_eq_ok_iff` that
whoever has items has those of `asItems`, and `oneOf?_eq_ok_iff` which values name something.
-/

namespace Settle

/-- Why a template cannot be filled in. -/
inductive Misfit where
  | endsInMark
  | endsInName
  | noRecord
  | tooFew
  | tooMany
  | widthNotWhole
  | widthTooLarge
  | precisionTooLarge
  | widthUnheld
  | precisionUnheld
  | unknownMark (code index : Nat)
  | notReal (mark : Char) (kindName : String)
  | notWhole (mark : Char) (kindName : String)
  | notFloat (kindName : String)
  | notChar
  | noSuchChar
  | infinite
  | notANumber
  | tooManyDigits
  | tooWide
  deriving DecidableEq, Repr

namespace Misfit

/-- How a mark is shown that is none. -/
def shownMark (code : Nat) : String :=
  if 31 ≤ code ∧ code < 127 then String.singleton (Char.ofNat code) else "?"

/-- The wording. -/
def message : Misfit → String
  | endsInMark => "incomplete format"
  | endsInName => "incomplete format key"
  | noRecord => "format requires a mapping"
  | tooFew => "not enough arguments for format string"
  | tooMany => "not all arguments converted during string formatting"
  | widthNotWhole => "* wants int"
  | widthTooLarge => "width too big"
  | precisionTooLarge => "precision too big"
  | widthUnheld => "Python int too large to convert to C ssize_t"
  | precisionUnheld => "Python int too large to convert to C int"
  | unknownMark code i =>
    "unsupported format character '" ++ shownMark code ++ "' (0x"
      ++ String.ofList (Nat.toDigits 16 code) ++ ") at index " ++ toString i
  | notReal c k =>
    "%" ++ String.singleton c ++ " format: a real number is required, not " ++ k
  | notWhole c k => "%" ++ String.singleton c ++ " format: an integer is required, not " ++ k
  | notFloat k => "must be real number, not " ++ k
  | notChar => "%c requires int or char"
  | noSuchChar => "%c arg not in range(0x110000)"
  | infinite => "cannot convert float infinity to integer"
  | notANumber => "cannot convert float NaN to integer"
  | tooManyDigits => "precision too large"
  | tooWide => ""

/-- The kind of plain failure. -/
def kind : Misfit → PlainKind
  | endsInMark | endsInName | widthTooLarge | precisionTooLarge | unknownMark _ _
  | notANumber => .value
  | noSuchChar | infinite | widthUnheld | precisionUnheld | tooManyDigits => .overflow
  | tooWide => .memory
  | _ => .type

end Misfit

/-- Why a value cannot be used as it was asked to. The kinds of the operands are named. -/
inductive Misuse where
  | missing (key : Value)
  | notKeyed (value : Value) (kindName : String)
  | outOfRange (whole : String)
  | indexUnheld
  | notSliced (value : Value)
  | notAnIndex
  | notIterable (kindName : String)
  | notSearched (kindName : String)
  | noLength (kindName : String)
  | noMember (kindName member : String)
  | unordered (left right : String)
  | unadded (left right : String)
  | undivided (left right : String)
  | dividedByZero (whole : Bool)
  | beyondFloats
  | noNumeral (value : Value)
  | notJoined (index : Nat) (kindName : String)
  | unhashable (kindName : String)
  | notBelow (left right : String)
  | notCalled (kindName : String)
  | notSpread (owner kindName : String)
  | notText (kindName : String)
  | notCounted (kindName : String)
  | unwritable (name owner : String)
  | notOneOf (value : Value) (choice : String)
  | unknownArgument (owner name : String)
  | takenArgument (owner name : String)
  | misfit (trouble : Misfit)

namespace Misuse

/-- The wording. -/
def message : Misuse → String
  | missing key => key.shown
  | notKeyed (.text _) k => "string indices must be integers, not '" ++ k ++ "'"
  | notKeyed (.list _) k => "list indices must be integers or slices, not " ++ k
  | notKeyed v _ => "'" ++ v.kindName ++ "' object is not subscriptable"
  | outOfRange whole => whole ++ " index out of range"
  | indexUnheld => "cannot fit 'int' into an index-sized integer"
  | notSliced (.record _) => "unhashable type: 'slice'"
  | notSliced v => "'" ++ v.kindName ++ "' object is not subscriptable"
  | notAnIndex => "slice indices must be integers or None or have an __index__ method"
  | notIterable k => "'" ++ k ++ "' object is not iterable"
  | notSearched k => "argument of type '" ++ k ++ "' is not iterable"
  | noLength k => "object of type '" ++ k ++ "' has no len()"
  | noMember k member => "'" ++ k ++ "' object has no attribute '" ++ member ++ "'"
  | unordered a b =>
    "'>=' not supported between instances of '" ++ a ++ "' and '" ++ b ++ "'"
  | unadded a b =>
    if a = "str" ∨ a = "list" then
      "can only concatenate " ++ a ++ " (not \"" ++ b ++ "\") to " ++ a
    else "unsupported operand type(s) for +: '" ++ a ++ "' and '" ++ b ++ "'"
  | undivided a b => "unsupported operand type(s) for %: '" ++ a ++ "' and '" ++ b ++ "'"
  | dividedByZero whole => if whole then "integer modulo by zero" else "float modulo"
  | beyondFloats => "int too large to convert to float"
  | noNumeral (.text s) => "could not convert string to float: " ++ Text.quote s
  | noNumeral v => "float() argument must be a string or a real number, not '" ++ v.kindName ++ "'"
  | notJoined i k =>
    "sequence item " ++ toString i ++ ": expected str instance, " ++ k ++ " found"
  | unhashable k => "unhashable type: '" ++ k ++ "'"
  | notBelow a b =>
    "'<' not supported between instances of '" ++ a ++ "' and '" ++ b ++ "'"
  | notCalled k => "'" ++ k ++ "' object is not callable"
  | notCounted k => "'" ++ k ++ "' object cannot be interpreted as an integer"
  | notText k => "__str__ returned non-string (type " ++ k ++ ")"
  | notSpread owner k => owner ++ "() argument after ** must be a mapping, not " ++ k
  | unwritable name owner =>
    "attribute '" ++ name ++ "' of '" ++ owner ++ "' objects is not writable"
  | notOneOf v choice => v.written ++ " is not a valid " ++ choice
  | unknownArgument owner name =>
    owner ++ "() got an unexpected keyword argument '" ++ name ++ "'"
  | takenArgument owner name =>
    owner ++ "() got multiple values for argument '" ++ name ++ "'"
  | misfit trouble => trouble.message

/-- The kind of plain failure. -/
def kind : Misuse → PlainKind
  | missing _ => .key
  | noMember _ _ | unwritable _ _ => .member
  | outOfRange _ | indexUnheld => .position
  | dividedByZero _ => .division
  | beyondFloats => .overflow
  | noNumeral (.text _) | notOneOf _ _ => .value
  | misfit trouble => trouble.kind
  | _ => .type

/-- A misuse as a fault. A missing key is told as it is. -/
def toFault {τ : Type} : Misuse → Fault τ
  | missing key => .plain none .key (some key)
  | m => .ofText m.kind m.message

/-- A result that raises a fault where a value was misused. -/
def raised {τ α : Type} (r : Except Misuse α) : Except (Fault τ) α := r.mapError toFault

end Misuse

namespace Value

-- the powers below are those of core, whatever else is in scope
attribute [local instance (high)] instPowNat

/-- What a record has under a name. -/
def entry (v : Value) (name : String) : Except Misuse Value :=
  match v with
  | .record fs =>
    match Ledger.get? fs name with
    | some x => .ok x
    | none => .error (.missing (.text name))
  | v => .error (.notKeyed v "str")

/-- A look-up succeeds just where there is a value under the name. -/
theorem entry_eq_ok_iff (v : Value) (name : String) (x : Value) :
    v.entry name = .ok x ↔ v.at? name = some x := by
  cases v with
  | record fs =>
    simp only [entry, at?]
    cases Ledger.get? fs name <;> simp
  | _ => simp [entry, at?]

/-- Places are told by numbers of sixty-four bits. -/
def isPlace (n : Int) : Bool := decide (-(2 ^ (63 : Nat)) ≤ n ∧ n < 2 ^ (63 : Nat))

/-- The item at a place, counted from the end if it is negative. -/
def itemAt (whole : String) (xs : List Value) (n : Int) : Except Misuse Value :=
  let fromFront := if n < 0 then n + xs.length else n
  if !isPlace n then .error .indexUnheld
  else if fromFront < 0 then .error (.outOfRange whole)
  else
    match xs[fromFront.toNat]? with
    | some x => .ok x
    | none => .error (.outOfRange whole)

/-- What a value has under a key: a record under a name, a list or a text at a place. -/
def under (v key : Value) : Except Misuse Value :=
  match v, key with
  | .record fs, .text name => (Value.record fs).entry name
  | .record _, key =>
    .error (if key.isScalar then .missing key else .unhashable key.kindName)
  | .list xs, key =>
    match key.whole? with
    | some n => itemAt "list" xs n
    | none => .error (.notKeyed v key.kindName)
  | .text s, key =>
    match key.whole? with
    | some n => itemAt "string" (Value.text s).asItems n
    | none => .error (.notKeyed v key.kindName)
  | v, key => .error (.notKeyed v key.kindName)

/-- Under a name, a record has its entry. -/
theorem under_record (fs : List (String × Value)) (name : String) :
    (record fs).under (.text name) = (record fs).entry name := rfl

/-- A place that is there holds its item. -/
theorem under_list {xs : List Value} {i : Nat} (h : i < xs.length) (hp : isPlace i = true) :
    (list xs).under (.int i) = .ok xs[i] := by
  have hn : ¬ (i : Int) < 0 := by omega
  simp [under, whole?, itemAt, hp, hn, h]

/-- Has the value items that one can go through? -/
def isIterable : Value → Bool
  | list _ => true
  | text _ => true
  | record _ => true
  | _ => false

/-- The items that one goes through in a value. -/
def items? (v : Value) : Except Misuse (List Value) :=
  if v.isIterable then .ok v.asItems else .error (.notIterable v.kindName)

theorem items?_eq_ok_iff (v : Value) (xs : List Value) :
    v.items? = .ok xs ↔ v.isIterable = true ∧ xs = v.asItems := by
  unfold items?
  split
  · next h => simp [h, eq_comm]
  · next h => simp [h]

/-- The fields of a record. -/
def fields? (v : Value) : Except Misuse (List (String × Value)) :=
  match v with
  | record fs => .ok fs
  | v => .error (.noMember v.kindName "items")

/-- The fields of a record, to be taken one by one by whoever has the name. -/
def spread? (owner : String) (v : Value) : Except Misuse (List (String × Value)) :=
  match v with
  | record fs => .ok fs
  | v => .error (.notSpread owner v.kindName)

/-- One of several named things, by the value that names it. -/
def oneOf? {α : Type} (choice : String) (named : String → Option α) (v : Value) :
    Except Misuse α :=
  match v with
  | text s =>
    match named s with
    | some a => .ok a
    | none => .error (.notOneOf v choice)
  | v => .error (.notOneOf v choice)

/-- Only a text names something, and it names what it is the name of. -/
theorem oneOf?_eq_ok_iff {α : Type} (choice : String) (named : String → Option α) (v : Value)
    (a : α) : v.oneOf? choice named = .ok a ↔ ∃ s, v = .text s ∧ named s = some a := by
  unfold oneOf?
  cases v with
  | text s => cases h : named s <;> simp [h]
  | _ => simp

end Value

end Settle
