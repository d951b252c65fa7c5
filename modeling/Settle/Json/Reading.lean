import Settle.Decimal.Numeral
import Settle.Ledger
import Settle.Text.Code
import Settle.Value

/-!
# Reading JSON

`Json.read?` reads a whole text as one JSON value. Whole numbers stay whole numbers of any
size, all other numbers become floats; `NaN`, `Infinity` and `-Infinity` are numbers too. In
an object the last value under a name counts, at the place where the name came first.

The readers below take a value off the front of a text and return the rest. Each recursive
call is charged against a budget that the length of the text pays for.
-/

namespace Settle.Json

/-- The characters that may stand between tokens. -/
def isBlank (c : Char) : Bool := c == ' ' || c == '\t' || c == '\n' || c == '\r'

/-- Drop the characters between tokens. -/
def skip (cs : List Char) : List Char := cs.dropWhile isBlank

/-! ### Strings -/

/-- The worth of a hexadecimal digit. -/
def hexDigit? (c : Char) : Option Nat :=
  if c.isDigit then some (c.toNat - '0'.toNat)
  else if 'a' ≤ c ∧ c ≤ 'f' then some (c.toNat - 'a'.toNat + 10)
  else if 'A' ≤ c ∧ c ≤ 'F' then some (c.toNat - 'A'.toNat + 10)
  else none

/-- The unit that four hexadecimal digits name. -/
def unit? (a b c d : Char) : Option Nat := do
  let a ← hexDigit? a
  let b ← hexDigit? b
  let c ← hexDigit? c
  let d ← hexDigit? d
  pure (((a * 16 + b) * 16 + c) * 16 + d)

/-- A part of a string: a character as it stands, or a unit that an escape names. -/
inductive Part where
  | plain (c : Char)
  | unit (n : Nat)
  deriving DecidableEq, Repr

/-- The character that a one-letter escape names. -/
def simpleEscape? (c : Char) : Option Char :=
  match c with
  | '"' => some '"'
  | '\\' => some '\\'
  | '/' => some '/'
  | 'b' => some '\x08'
  | 'f' => some '\x0c'
  | 'n' => some '\n'
  | 'r' => some '\r'
  | 't' => some '\t'
  | _ => none

/-- Read the parts of a string up to its closing mark. -/
def readParts? : List Char → Option (List Part × List Char)
  | '"' :: rest => some ([], rest)
  | '\\' :: 'u' :: a :: b :: c :: d :: rest => do
    let u ← unit? a b c d
    let (parts, rest) ← readParts? rest
    pure (.unit u :: parts, rest)
  | '\\' :: c :: rest => do
    let e ← simpleEscape? c
    let (parts, rest) ← readParts? rest
    pure (.plain e :: parts, rest)
  | c :: rest =>
    if c.toNat < 32 then none
    else do
      let (parts, rest) ← readParts? rest
      pure (.plain c :: parts, rest)
  | [] => none

/-- The characters of the parts. Two units that follow each other and are the halves of a pair
are one code. -/
def joinParts : List Part → List Char
  | [] => []
  | .unit u :: .unit v :: rest =>
    if 0xD800 ≤ u ∧ u < 0xDC00 ∧ 0xDC00 ≤ v ∧ v < 0xE000 then
      Text.ofCode (0x10000 + (u - 0xD800) * 0x400 + (v - 0xDC00)) ++ joinParts rest
    else Text.ofCode u ++ joinParts (.unit v :: rest)
  | .unit u :: rest => Text.ofCode u ++ joinParts rest
  | .plain c :: rest => c :: joinParts rest

/-- Read a string whose opening mark is already taken. -/
def readString? (cs : List Char) : Option (String × List Char) := do
  let (parts, rest) ← readParts? cs
  pure (String.ofList (joinParts parts), rest)

/-! ### Numbers -/

/-- The digits of a whole part: a zero stands alone. -/
def readWhole? (cs : List Char) : Option (List Char × List Char) :=
  match cs with
  | '0' :: rest => some (['0'], rest)
  | _ =>
    let (ds, rest) := Decimal.spanDigits cs
    if ds.isEmpty then none else some (ds, rest)

/-- The digits of a fraction, if a point with digits follows. -/
def readFraction (cs : List Char) : List Char × List Char :=
  match cs with
  | '.' :: rest =>
    let (ds, after) := Decimal.spanDigits rest
    if ds.isEmpty then ([], cs) else (ds, after)
  | _ => ([], cs)

/-- The exponent, if a mark with digits follows. -/
def readExponent (cs : List Char) : Option Int × List Char :=
  match cs with
  | c :: rest =>
    if c = 'e' ∨ c = 'E' then
      match Decimal.readExponent? rest with
      | some (e, after) => (some e, after)
      | none => (none, cs)
    else (none, cs)
  | [] => (none, cs)

/-- Read a number whose sign is already taken. Numbers of more than 4300 digits are
refused. -/
def readNumber? (negative : Bool) (cs : List Char) : Option (Value × List Char) := do
  let (whole, rest) ← readWhole? cs
  let (fraction, rest) := readFraction rest
  let (exponent, rest) := readExponent rest
  if fraction.isEmpty && exponent.isNone then
    if 4300 < whole.length then none
    else
      let n : Int := Decimal.ofDigits whole
      pure (.int (if negative then -n else n), rest)
  else
    let s : Decimal.Scanned :=
      ⟨negative, Decimal.ofDigits (whole ++ fraction), exponent.getD 0 - fraction.length⟩
    pure (.float s.toFloat, rest)

/-! ### Values -/

/-- Read a spelled-out value. -/
def readWord? (cs : List Char) : Option (Value × List Char) :=
  match cs with
  | 'n' :: 'u' :: 'l' :: 'l' :: rest => some (.null, rest)
  | 't' :: 'r' :: 'u' :: 'e' :: rest => some (.bool true, rest)
  | 'f' :: 'a' :: 'l' :: 's' :: 'e' :: rest => some (.bool false, rest)
  | 'N' :: 'a' :: 'N' :: rest => some (.float (0.0 / 0.0), rest)
  | 'I' :: 'n' :: 'f' :: 'i' :: 'n' :: 'i' :: 't' :: 'y' :: rest =>
    some (.float (1.0 / 0.0), rest)
  | '-' :: 'I' :: 'n' :: 'f' :: 'i' :: 'n' :: 'i' :: 't' :: 'y' :: rest =>
    some (.float (-(1.0 / 0.0)), rest)
  | '-' :: rest => readNumber? true rest
  | _ => readNumber? false cs

mutual

/-- Read one value off a text that does not start with a blank. -/
def readValue? (budget : Nat) (cs : List Char) : Option (Value × List Char) :=
  match budget with
  | 0 => none
  | budget + 1 =>
    match cs with
    | '"' :: rest => do
      let (s, rest) ← readString? rest
      pure (.text s, rest)
    | '[' :: rest =>
      match skip rest with
      | ']' :: rest => some (.list [], rest)
      | rest => do
        let (items, rest) ← readItems? budget rest
        pure (.list items, rest)
    | '\x7b' :: rest =>
      match skip rest with
      | '\x7d' :: rest => some (.record [], rest)
      | rest => do
        let (fields, rest) ← readFields? budget rest []
        pure (.record fields, rest)
    | _ => readWord? cs

/-- Read the items of a list up to its closing bracket. -/
def readItems? (budget : Nat) (cs : List Char) : Option (List Value × List Char) :=
  match budget with
  | 0 => none
  | budget + 1 => do
    let (x, rest) ← readValue? budget cs
    match skip rest with
    | ']' :: rest => pure ([x], rest)
    | ',' :: rest => do
      let (xs, rest) ← readItems? budget (skip rest)
      pure (x :: xs, rest)
    | _ => none

/-- Read the fields of an object up to its closing brace, entering them in a ledger. -/
def readFields? (budget : Nat) (cs : List Char) (entered : Ledger String Value) :
    Option (Ledger String Value × List Char) :=
  match budget with
  | 0 => none
  | budget + 1 =>
    match cs with
    | '"' :: rest => do
      let (name, rest) ← readString? rest
      match skip rest with
      | ':' :: rest => do
        let (x, rest) ← readValue? budget (skip rest)
        let entered := entered.put name x
        match skip rest with
        | '\x7d' :: rest => pure (entered, rest)
        | ',' :: rest => readFields? budget (skip rest) entered
        | _ => none
      | _ => none
    | _ => none

end

/-- Read a whole text as one value. -/
def read? (s : String) : Option Value :=
  let cs := s.toList
  match readValue? (2 * cs.length + 1) (skip cs) with
  | some (v, rest) => if (skip rest).isEmpty then some v else none
  | none => none

end Settle.Json
