import Settle.Identifier.Codec
import Settle.Value.Number

/-!
# Identifiers from free values

Parts and tokens that come as free values need not be texts. A part is searched for the
delimiter first, as far as it can be searched, and refused as a part of a token only then; so
the first trouble from the front is the one that is told.

Main statements: `encodeItems_text` says that parts that are texts are joined as ever, and
`decodeValue_text` that a text is taken apart into a whole number of parts as ever.
-/

namespace Settle

namespace Codec

variable {τ : Type}

/-- Does a part hold the delimiter? Lists and records hold it as an item or a name. -/
def holdsIn (c : Codec) : Value → Except Misuse Bool
  | .text s => .ok (c.reserves s)
  | .list xs => .ok (xs.any fun x => x.same (.text c.delimiter))
  | .record fs => .ok (fs.any fun f => f.1 == c.delimiter)
  | v => .error (.notSearched v.kindName)

/-- Search the parts for the delimiter, from the `i`th on. -/
def search (c : Codec) : Nat → List Value → Except (Fault τ) Unit
  | _, [] => .ok ()
  | i, v :: rest =>
    match c.holdsIn v with
    | .error e => .error e.toFault
    | .ok true =>
      .error (.malformedIdentifier (Malformed.reservedMessage i v.written c.delimiter) .null)
    | .ok false => c.search (i + 1) rest

/-- The texts that all values are, from the `i`th on. -/
def textsFrom : Nat → List Value → Except (Fault τ) (List String)
  | _, [] => .ok []
  | i, .text s :: rest => (textsFrom (i + 1) rest).map (s :: ·)
  | i, v :: _ => .error (Misuse.notJoined i v.kindName).toFault

/-- Join parts into one token. -/
def encodeItems (c : Codec) (parts : List Value) : Except (Fault τ) String := do
  if parts.isEmpty then throw Malformed.noParts.toFault
  c.search 0 parts
  pure (c.join (← textsFrom 0 parts))

/-- Join parts that come as one value; a single text is no list of parts. -/
def encodeValue (c : Codec) (parts : Value) : Except (Fault τ) String :=
  match parts with
  | .text _ => .error Malformed.notParts.toFault
  | v =>
    if v.isIterable then c.encodeItems v.asItems else .error (Misuse.noLength v.kindName).toFault

/-- Take a token apart that comes as a value, into a number of parts that comes as one. The
number is looked at first. -/
def decodeValue (c : Codec) (token arity : Value) : Except (Fault τ) (List String) :=
  match arity.isBelow? 1, token with
  | .error e, _ => .error e.toFault
  | .ok true, _ => .error (.ofText .value (Malformed.arityMessage arity.shown))
  | .ok false, .text s =>
    let parts := c.split s
    if arity.same (.int parts.length) then .ok parts
    else
      .error (.malformedIdentifier (Malformed.countMessage s parts.length arity.shown) token)
  | .ok false, v => .error (Misuse.noMember v.kindName "split").toFault

theorem textsFrom_text (i : Nat) (parts : List String) :
    textsFrom (τ := τ) i (parts.map .text) = .ok parts := by
  induction parts generalizing i with
  | nil => rfl
  | cons p rest ih => simp [textsFrom, ih, Except.map]

theorem search_text (c : Codec) (i : Nat) (parts : List String) :
    c.search (τ := τ) i (parts.map .text) =
      match c.firstReserved? i parts with
      | some (i, part) => .error (Malformed.reserved i part c.delimiter).toFault
      | none => .ok () := by
  induction parts generalizing i with
  | nil => rfl
  | cons p rest ih =>
    simp only [List.map_cons, search, holdsIn, firstReserved?]
    cases c.reserves p with
    | false =>
      simp only [Bool.false_eq_true, if_false]
      exact ih (i + 1)
    | true => rfl

/-- Parts that are texts are joined as texts are. -/
theorem encodeItems_text (c : Codec) (parts : List String) :
    c.encodeItems (τ := τ) (parts.map .text) = (c.encode parts).mapError Malformed.toFault := by
  unfold encodeItems encode
  rw [search_text, textsFrom_text]
  cases parts with
  | nil => rfl
  | cons p rest =>
    simp only [List.map_cons, List.isEmpty_cons, Bool.false_eq_true, if_false]
    cases c.firstReserved? 0 (p :: rest) <;> rfl

/-- A text is taken apart into a whole number of parts as texts are. -/
theorem decodeValue_text (c : Codec) (s : String) (arity : Int) :
    c.decodeValue (τ := τ) (.text s) (.int arity) =
      (c.decode s arity).mapError Malformed.toFault := by
  unfold decodeValue decode
  by_cases h : arity < 1
  · simp only [Value.isBelow?_int, h, decide_true, if_true]
    rfl
  · by_cases hl : ((c.split s).length : Int) = arity
    · simp only [Value.isBelow?_int, h, hl, Value.same_int, decide_false, decide_true, if_true,
        if_false]
      rfl
    · simp only [Value.isBelow?_int, h, hl, Ne.symm hl, Value.same_int, decide_false,
        Bool.false_eq_true, if_false]
      rfl

end Codec

namespace IdLayout

variable {τ : Type}

/-- Join the values of all fields, in the order of the layout. The name of the layout itself
is taken. -/
def encodeValues (l : IdLayout) (values : Ledger String Value) : Except (Fault τ) String :=
  if values.has "self" then .error (Misuse.takenArgument "IdLayout.encode" "self").toFault
  else
    match l.missing values with
    | [] =>
      match l.unknown values with
      | [] => l.codec.encodeItems (l.fields.map fun f => (values.get? f).getD .null)
      | names => .error (Malformed.unknown l.kind names).toFault
    | names => .error (Malformed.missing l.kind names).toFault

/-- Take a token apart that comes as a value, and name its parts. -/
def decodeValue (l : IdLayout) (token : Value) : Except (Fault τ) (Ledger String String) :=
  match token with
  | .text s => (l.decode s).mapError Malformed.toFault
  | v => (l.codec.decodeValue v (.int l.arity)).map fun _ => []

end IdLayout

end Settle
