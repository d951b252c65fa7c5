import Settle.Fault.Basic

/-!
# Variables of the environment

A variable has a name and a value, and both are kept as bytes that a zero ends. So not every
text can be set: it must hold no zero, and no lone surrogate other than those that stand for a
byte; a name is not empty and holds no equals sign. Bytes that make up a character are read back
as that character. `Variable.set?` tells the first reason why a variable cannot be set. Variables
can also come from a file, whose text holds no lone surrogate at all (`Variable.file?`).

Main statement: `set?_plain`: texts without any of these are set as they are.
-/

namespace Settle

/-- Why a variable cannot be set. -/
inductive Unsettable where
  | notText (kindName : String)
  | notEncoded (first last code : Nat)
  | holdsZero
  | holdsEquals
  | nameless
  deriving DecidableEq, Repr

namespace Unsettable

/-- The wording. -/
def message : Unsettable → String
  | notText k => "str expected, not " ++ k
  | notEncoded first last code =>
    "'utf-8' codec can't encode "
      ++ (if first = last then
          "character '\\u" ++ Text.hex 4 code ++ "' in position " ++ toString first
        else "characters in position " ++ toString first ++ "-" ++ toString last)
      ++ ": surrogates not allowed"
  | holdsZero => "embedded null byte"
  | holdsEquals => "illegal environment variable name"
  | nameless => "[Errno 22] Invalid argument"

/-- The kind of plain failure. -/
def kind : Unsettable → PlainKind
  | notText _ => .type
  | notEncoded _ _ _ => .encoding
  | holdsZero | holdsEquals => .value
  | nameless => .system

/-- As a fault. -/
def toFault {τ : Type} (u : Unsettable) : Fault τ := .ofText u.kind u.message

end Unsettable

namespace Variable

/-- Does the code stand for a single byte? -/
def isByte (n : Nat) : Bool := decide (0xDC80 ≤ n ∧ n < 0xDD00)

/-- Check that codes can be encoded, from the `i`th of a text on, single bytes being let through
if `bytes` says so. A trouble is told with all the surrogates that follow at once. -/
def encode? (bytes : Bool) (i : Nat) : List Nat → Except Unsettable Unit
  | [] => .ok ()
  | n :: ns =>
    if Text.isSurrogate n && !(bytes && isByte n) then
      .error (.notEncoded i (i + (ns.takeWhile Text.isSurrogate).length) n)
    else encode? bytes (i + 1) ns

/-- The character that the single bytes at the front make up. -/
def character? (ns : List Nat) : Option Char :=
  let bytes := ((ns.take 4).takeWhile isByte).map fun n => (n - 0xDC00).toUInt8
  ByteArray.utf8DecodeChar? ⟨bytes.toArray⟩ 0

/-- The codes that are read back. Single bytes that make up a character are that character. -/
def received : List Nat → List Nat
  | [] => []
  | n :: ns =>
    match character? (n :: ns) with
    | some c => c.toNat :: received (ns.drop (c.utf8Size - 1))
    | none => n :: received ns
termination_by ns => ns.length

/-- Encode a text as the environment does, and read it back. -/
def kept? (s : String) : Except Unsettable String := do
  let ns := Text.codes s
  encode? true 0 ns
  pure (if ns.any isByte then Text.ofCodes (received ns) else s)

/-- The text of a file. No surrogate is let through. -/
def file? (text : String) : Except Unsettable String := do
  encode? false 0 (Text.codes text)
  pure text

/-- Set a variable. -/
def set? (name : String) (v : Value) : Except Unsettable (String × String) := do
  let name ← kept? name
  let value ←
    match v with
    | .text s => kept? s
    | v => throw (.notText v.kindName)
  if name.toList.contains '\x00' || value.toList.contains '\x00' then throw .holdsZero
  if name.toList.contains '=' then throw .holdsEquals
  if name.isEmpty then throw .nameless
  pure (name, value)

theorem encode?_plain (bytes : Bool) (i : Nat) {ns : List Nat}
    (h : ∀ n ∈ ns, Text.isSurrogate n = false) : encode? bytes i ns = .ok () := by
  induction ns generalizing i with
  | nil => rfl
  | cons n ns ih =>
    simp only [List.mem_cons, forall_eq_or_imp] at h
    simp only [encode?, h.1, Bool.false_and, Bool.false_eq_true, if_false]
    exact ih (i + 1) h.2

/-- A single byte is a surrogate. -/
theorem isByte_of_not_isSurrogate {n : Nat} (h : Text.isSurrogate n = false) :
    isByte n = false := by
  rw [Text.isSurrogate, decide_eq_false_iff_not] at h
  rw [isByte, decide_eq_false_iff_not]
  omega

/-- A text without surrogates is kept as it is. -/
theorem kept?_plain {s : String} (h : ∀ n ∈ Text.codes s, Text.isSurrogate n = false) :
    kept? s = .ok s := by
  have hb : (Text.codes s).any isByte = false := by
    rw [List.any_eq_false]
    intro n hn
    simp [isByte_of_not_isSurrogate (h n hn)]
  simp [kept?, encode?_plain true 0 h, hb, bind, Except.bind, pure, Except.pure]

/-- Texts without zeros and surrogates, and a name without equals signs, are set as they are. -/
theorem set?_plain {name value : String} (hn : name.isEmpty = false)
    (hs : ∀ n ∈ Text.codes name ++ Text.codes value, Text.isSurrogate n = false)
    (hz : '\x00' ∉ name.toList ++ value.toList) (he : '=' ∉ name.toList) :
    set? name (.text value) = .ok (name, value) := by
  have hname := kept?_plain fun n h => hs n (List.mem_append_left _ h)
  have hvalue := kept?_plain fun n h => hs n (List.mem_append_right _ h)
  rw [List.mem_append, not_or] at hz
  simp [set?, hname, hvalue, hz.1, hz.2, he, hn, bind, Except.bind, pure, Except.pure]

end Variable

end Settle
