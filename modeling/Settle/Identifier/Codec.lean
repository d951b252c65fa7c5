import Settle.Fault.Basic
import Settle.Identifier.Delimited

/-!
# Composite identifiers

A resource without an identifier of its own is addressed by several parts, kept as one token
with a reserved delimiter between the parts. A `Codec` is such a delimiter; an `IdLayout`
names the parts of one kind of resource.

`encode` refuses a part that holds the delimiter, and `decode` a token of another number of
parts. Both say why in a `Malformed`, whose wording is `Malformed.message`.

Main statements: `encode_eq_ok_iff` and `decode_eq_ok_iff` give the exact conditions.
-/

namespace Settle

/-- Why an identifier cannot be built or taken apart. -/
inductive Malformed where
  | emptyDelimiter
  | notParts
  | arityBelowOne (arity : Int)
  | noParts
  | reserved (index : Nat) (part delimiter : String)
  | wrongCount (token : String) (count : Nat) (arity : Int)
  | missing (kind : String) (fields : List String)
  | unknown (kind : String) (fields : List String)
  | wrongToken (kind token : String) (reason : Malformed)
  deriving DecidableEq, Repr

namespace Malformed

/-- The wording for a part that holds the delimiter. -/
def reservedMessage (index : Nat) (written delimiter : String) : String :=
  "identifier part " ++ toString index ++ " (" ++ written ++ ") contains reserved delimiter "
    ++ Text.quote delimiter

/-- The wording for an arity below one. -/
def arityMessage (arity : String) : String := "expected_arity must be >= 1, got " ++ arity

/-- The wording for a token of another number of parts. -/
def countMessage (token : String) (count : Nat) (arity : String) : String :=
  "identifier " ++ Text.quote token ++ " has " ++ toString count ++ " parts, expected " ++ arity

/-- The wording of a refusal. -/
def message : Malformed → String
  | emptyDelimiter => "delimiter must not be empty"
  | notParts => "parts must be a sequence of strings, not a string"
  | arityBelowOne n => arityMessage (toString n)
  | noParts => "cannot encode an identifier with no parts"
  | reserved i part d => reservedMessage i (Text.quote part) d
  | wrongCount token n arity => countMessage token n (toString arity)
  | missing kind fields => kind ++ " id is missing fields: " ++ Value.commaJoin fields
  | unknown kind fields => kind ++ " id has unknown fields: " ++ Value.commaJoin fields
  | wrongToken kind _ reason => "id of " ++ kind ++ " is wrong: " ++ reason.message

/-- A refusal as a fault. Only a token that was to be taken apart is named in it. -/
def toFault {τ : Type} : Malformed → Fault τ
  | emptyDelimiter => .ofText .value emptyDelimiter.message
  | notParts => .ofText .type notParts.message
  | arityBelowOne n => .ofText .value (arityBelowOne n).message
  | noParts => .malformedIdentifier noParts.message .null
  | reserved i part d => .malformedIdentifier (reserved i part d).message .null
  | wrongCount token n arity =>
    .malformedIdentifier (wrongCount token n arity).message (.text token)
  | missing kind fields => .malformedIdentifier (missing kind fields).message .null
  | unknown kind fields => .malformedIdentifier (unknown kind fields).message .null
  | wrongToken kind token reason =>
    .structured none (.malformedIdentifier (.text token))
      (.text (wrongToken kind token reason).message) { resourceId := .text token } none
      (some reason.toFault)

end Malformed

/-! ### Codecs -/

/-- A reserved delimiter. -/
structure Codec where
  delimiter : String
  nonempty : delimiter.toList ≠ []

namespace Codec

/-- The codec of a delimiter that is not empty. -/
def ofDelimiter? (d : String) : Except Malformed Codec :=
  if h : d.toList = [] then .error .emptyDelimiter else .ok ⟨d, h⟩

/-- The codec that a number sign makes. -/
def field : Codec := ⟨"#", by decide⟩

/-- The codec that a comma makes. -/
def comma : Codec := ⟨",", by decide⟩

/-- Does a part hold the delimiter? -/
def reserves (c : Codec) (part : String) : Bool :=
  Delimited.holds c.delimiter.toList part.toList

/-- The first part that holds the delimiter, with its place. -/
def firstReserved? (c : Codec) : Nat → List String → Option (Nat × String)
  | _, [] => none
  | i, part :: rest => if c.reserves part then some (i, part) else c.firstReserved? (i + 1) rest

/-- The parts with the delimiter between them. -/
def join (c : Codec) (parts : List String) : String :=
  String.ofList (Delimited.join c.delimiter.toList (parts.map String.toList))

/-- The parts between the delimiters of a token. -/
def split (c : Codec) (token : String) : List String :=
  (Delimited.split c.delimiter.toList token.toList).map String.ofList

/-- Join parts into one token. -/
def encode (c : Codec) (parts : List String) : Except Malformed String :=
  if parts.isEmpty then .error .noParts
  else
    match c.firstReserved? 0 parts with
    | some (i, part) => .error (.reserved i part c.delimiter)
    | none => .ok (c.join parts)

/-- Take a token apart into the given number of parts. -/
def decode (c : Codec) (token : String) (arity : Int) : Except Malformed (List String) :=
  if arity < 1 then .error (.arityBelowOne arity)
  else
    let parts := c.split token
    if (parts.length : Int) = arity then .ok parts
    else .error (.wrongCount token parts.length arity)

theorem firstReserved?_eq_none_iff (c : Codec) (i : Nat) (parts : List String) :
    c.firstReserved? i parts = none ↔ ∀ p ∈ parts, c.reserves p = false := by
  induction parts generalizing i with
  | nil => simp [firstReserved?]
  | cons p rest ih =>
    unfold firstReserved?
    split
    · next h => simp [h]
    · next h => simp [h, ih]

/-- Parts can be joined iff there are any and none holds the delimiter. -/
theorem encode_eq_ok_iff (c : Codec) (parts : List String) (token : String) :
    c.encode parts = .ok token ↔
      parts ≠ [] ∧ (∀ p ∈ parts, c.reserves p = false) ∧ token = c.join parts := by
  unfold encode
  split
  · next h => simp [List.isEmpty_iff.1 h]
  · next h =>
    have hne : parts ≠ [] := fun e => h (by simp [e])
    rw [← c.firstReserved?_eq_none_iff 0]
    split
    · next h' => simp [h']
    · next h' => simp [h', hne, eq_comm]

/-- A token can be taken apart iff it has as many parts as asked for, and that is at least
one. -/
theorem decode_eq_ok_iff (c : Codec) (token : String) (arity : Int) (parts : List String) :
    c.decode token arity = .ok parts ↔
      1 ≤ arity ∧ parts = c.split token ∧ (parts.length : Int) = arity := by
  unfold decode
  split
  · next h =>
    constructor
    · intro e
      cases e
    · rintro ⟨h', _⟩
      omega
  · next h =>
    simp only
    split
    · next h' =>
      constructor
      · intro e
        cases e
        exact ⟨by omega, rfl, h'⟩
      · rintro ⟨_, rfl, _⟩
        rfl
    · next h' =>
      constructor
      · intro e
        cases e
      · rintro ⟨_, rfl, h''⟩
        exact absurd h'' h'

end Codec

/-! ### Layouts -/

/-- The parts of the identifiers of one kind of resource. -/
structure IdLayout where
  kind : String
  fields : List String
  codec : Codec := .field

namespace IdLayout

/-- The number of parts. -/
def arity (l : IdLayout) : Nat := l.fields.length

/-- The fields that have no value. -/
def missing {ν : Type} (l : IdLayout) (values : Ledger String ν) : List String :=
  l.fields.filter fun f => !values.has f

/-- The names that are no fields, sorted. -/
def unknown {ν : Type} (l : IdLayout) (values : Ledger String ν) : List String :=
  (values.keys.filter fun k => !l.fields.contains k).mergeSort fun a b => decide (a ≤ b)

/-- Join the values of all fields, in the order of the layout. -/
def encode (l : IdLayout) (values : Ledger String String) : Except Malformed String :=
  match l.missing values with
  | [] =>
    match l.unknown values with
    | [] => l.codec.encode (l.fields.map fun f => (values.get? f).getD "")
    | names => .error (.unknown l.kind names)
  | names => .error (.missing l.kind names)

/-- Take a token apart and name its parts. Only a refusal of the token itself is put in the
words of the layout. -/
def decode (l : IdLayout) (token : String) : Except Malformed (Ledger String String) :=
  match l.codec.decode token l.arity with
  | .ok parts => .ok (Ledger.putAll [] (l.fields.zip parts))
  | .error (.wrongCount t n a) => .error (.wrongToken l.kind token (.wrongCount t n a))
  | .error e => .error e

end IdLayout

end Settle
