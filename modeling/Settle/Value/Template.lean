import Settle.Decimal.Numeral
import Settle.Decimal.Places
import Settle.Value.Misuse

/-!
# Templates

A template is a text with marks that values are filled into. A mark begins with a per cent
sign, and says in order: the name of a value between parentheses, flags, the least width of
what is filled in, its precision, and by a letter how the value is written. Two per cent
signs are one.

A mark without a name takes the one value there is, and only one mark can do so. A list or a
record need not be used up; any other value that no mark took is one too many.
-/

namespace Settle.Template

-- the powers below are those of core, whatever else is in scope
attribute [local instance (high)] instPowNat

/-! ### Marks -/

/-- A mark: its flags, the least width, the precision, and the code of the letter that says how
the value is written. -/
structure Mark where
  left : Bool := false
  plus : Bool := false
  blank : Bool := false
  marked : Bool := false
  zeros : Bool := false
  width : Option Nat := none
  precision : Option Nat := none
  code : Nat

/-- The letter of a mark. -/
def Mark.letter (m : Mark) : Char := Char.ofNat m.code

/-- What is there to fill in: where names are looked up, if anywhere, and the value that no
mark has taken yet. -/
structure Supply where
  record : Option Value
  next : Option Value

/-- The supply of a value. Names can be looked up in a list or a record. -/
def Supply.of (v : Value) : Supply := ⟨if v.isScalar then none else some v, some v⟩

/-- Take the value that no mark has taken yet. -/
def Supply.take (s : Supply) : Except Misuse (Value × Supply) :=
  match s.next with
  | some v => .ok (v, { s with next := none })
  | none => .error (.misfit .tooFew)

/-- Is there a value that no mark has taken, and that must not be left over? -/
def Supply.isLeftOver (s : Supply) : Bool := s.next.isSome && s.record.isNone

/-- A name up to the parenthesis that closes it, `depth` of them being open inside, and the
rest behind. -/
def readName (depth : Nat) : List Char → Option (List Char × List Char)
  | [] => none
  | ')' :: cs =>
    match depth with
    | 0 => some ([], cs)
    | depth + 1 => (readName depth cs).map fun r => (')' :: r.1, r.2)
  | '(' :: cs => (readName (depth + 1) cs).map fun r => ('(' :: r.1, r.2)
  | c :: cs => (readName depth cs).map fun r => (c :: r.1, r.2)

/-- Is the character a flag? -/
def isFlag (c : Char) : Bool := c == '-' || c == '+' || c == ' ' || c == '#' || c == '0'

/-- A count: digits, or an asterisk for the value to be taken. A count may be missing.
`trouble` is the trouble of digits above the limit, `unheld` that of a value beyond it. -/
def readCount (limit : Nat) (trouble unheld : Misfit) (s : Supply) :
    List Char → Except Misuse (Option Int × Supply × List Char)
  | '*' :: cs => do
    let (v, s) ← s.take
    match v with
    | .int n =>
      if n < -limit - 1 ∨ limit < n then throw (.misfit unheld) else pure (some n, s, cs)
    | .bool b => pure (some (if b then 1 else 0), s, cs)
    | _ => throw (.misfit .widthNotWhole)
  | cs =>
    let (ds, rest) := Decimal.spanDigits cs
    if ds.isEmpty then .ok (none, s, cs)
    else if limit < Decimal.ofDigits ds then .error (.misfit trouble)
    else .ok (some (Decimal.ofDigits ds : Nat), s, rest)

/-- The size letters, which mean nothing. -/
def isSize (c : Char) : Bool := c == 'h' || c == 'l' || c == 'L'

/-- What stands between a per cent sign and the letter of the mark, and the rest. -/
def readMark (s : Supply) (cs : List Char) : Except Misuse (Mark × Supply × List Char) := do
  let (s, cs) ←
    match cs with
    | '(' :: cs => do
      let some record := s.record | throw (.misfit .noRecord)
      let some (name, cs) := readName 0 cs | throw (.misfit .endsInName)
      let v ← record.entry (String.ofList name)
      pure ({ s with next := some v }, cs)
    | cs => pure (s, cs)
  let flags := cs.takeWhile isFlag
  let (width, s, cs) ←
    readCount (2 ^ (63 : Nat) - 1) .widthTooLarge .widthUnheld s (cs.dropWhile isFlag)
  let (precision, s, cs) ←
    match cs with
    | '.' :: cs => do
      let (n, s, cs) ← readCount (2 ^ (31 : Nat) - 1) .precisionTooLarge .precisionUnheld s cs
      pure (some (n.getD 0).toNat, s, cs)
    | cs => pure (none, s, cs)
  let cs :=
    match cs with
    | c :: rest => if isSize c then rest else cs
    | [] => []
  match Text.next? cs with
  | none => throw (.misfit .endsInMark)
  | some (code, rest) =>
    pure
      ({ left := flags.contains '-' || decide (width.getD 0 < 0)
         plus := flags.contains '+'
         blank := flags.contains ' '
         marked := flags.contains '#'
         zeros := flags.contains '0'
         width := width.map Int.natAbs
         precision
         code }, s, rest)

/-! ### Writing -/

/-- What is written under a mark: what stands before the digits of a number, which is sign and
base, and the rest. Only between the two can zeros be filled in. -/
structure Piece where
  head : String := ""
  body : String
  zeros : Bool := false

/-- The length of a piece. -/
def Piece.length (p : Piece) : Nat := Text.count p.head + Text.count p.body

/-- From so many characters on a filling is too wide. -/
def widthLimit : Nat := 2 ^ (32 : Nat)

/-- Fill a piece up to the width of a mark: behind it, between its parts with zeros, or in
front of it with spaces. -/
def padded (m : Mark) (p : Piece) : Except Misuse String :=
  let missing := m.width.getD 0 - p.length
  if widthLimit ≤ missing then .error (.misfit .tooWide)
  else
    let fill (c : Char) : String := Text.repeated c missing
    .ok (if m.left then p.head ++ p.body ++ fill ' '
      else if p.zeros then p.head ++ fill '0' ++ p.body
      else fill ' ' ++ p.head ++ p.body)

/-- The sign of a number under a mark. -/
def signOf (m : Mark) (negative : Bool) : String :=
  if negative then "-" else if m.plus then "+" else if m.blank then " " else ""

/-- A number under a mark. -/
def numberPiece (m : Mark) (negative : Bool) (base digits : String) : Piece :=
  ⟨signOf m negative ++ base, digits, m.zeros⟩

/-- A text under a mark, whose precision is the most that is written of it. -/
def clipped (m : Mark) (s : String) : Piece :=
  match m.precision with
  | none => { body := s }
  | some n => { body := Text.ofCodes ((Text.codes s).take n) }

/-- A value as a whole number. A fraction is cut off where the mark is of base ten. -/
def wholeOf (m : Mark) (decimal : Bool) (v : Value) : Except Misuse Int :=
  match v with
  | .int n => .ok n
  | .bool b => .ok (if b then 1 else 0)
  | .float x =>
    if !decimal then .error (.misfit (.notWhole m.letter v.kindName))
    else
      match Decimal.Parts.ofFloat x with
      | .notANumber => .error (.misfit .notANumber)
      | .infinite _ => .error (.misfit .infinite)
      | .finite negative mantissa exponent =>
        let n : Int := (mantissa * 2 ^ exponent.toNat / 2 ^ (-exponent).toNat : Nat)
        .ok (if negative then -n else n)
  | v =>
    .error (.misfit (if decimal then .notReal m.letter v.kindName
      else .notWhole m.letter v.kindName))

/-- The most digits that can be asked of a whole number. -/
def mostDigits : Nat := 2 ^ (31 : Nat) - 4

/-- A whole number under a mark, in a base that may be shown in front of the digits. The
precision is the least count of digits. -/
def wholePiece (m : Mark) (base : Nat) (n : Int) : Except Misuse Piece :=
  if mostDigits < m.precision.getD 0 then .error (.misfit .tooManyDigits)
  else
    let ds := String.ofList (Nat.toDigits base n.natAbs)
    let ds := Decimal.zeros (m.precision.getD 0 - ds.length) ++ ds
    let shown :=
      if !m.marked then "" else if base = 8 then "0o" else if base = 16 then "0x" else ""
    .ok (numberPiece m (decide (n < 0)) shown ds)

/-- A value as a float. -/
def floatOf (v : Value) : Except Misuse Float :=
  match v with
  | .float x => .ok x
  | .int _ | .bool _ =>
    if v.asFloat.isFinite then .ok v.asFloat else .error .beyondFloats
  | v => .error (.misfit (.notFloat v.kindName))

/-- The places of a number with an exponent. One more than them is counted, and the greatest
precision leaves no room for that, so it comes to none. -/
def scientificPlaces (precision : Nat) : Nat :=
  if 2 ^ (31 : Nat) - 1 ≤ precision then 0 else precision

/-- A float under a mark, with six places unless the precision says otherwise. -/
def floatPiece (m : Mark) (letter : Char) (x : Float) : Piece :=
  let places := m.precision.getD 6
  match Decimal.Parts.ofFloat x with
  | .notANumber => numberPiece m false "" "nan"
  | .infinite negative => numberPiece m negative "" "inf"
  | .finite negative mantissa exponent =>
    numberPiece m negative ""
      (if letter = 'f' then Decimal.Places.fixed m.marked places mantissa exponent
       else if letter = 'e' then
         Decimal.Places.scientific m.marked (scientificPlaces places) mantissa exponent
       else Decimal.Places.general m.marked places mantissa exponent)

/-- A value as a single character: a text of one, or the number of one. -/
def charOf (v : Value) : Except Misuse String :=
  match v with
  | .text s => if Text.count s = 1 then .ok s else .error (.misfit .notChar)
  | .int n =>
    if 0 ≤ n ∧ n < 0x110000 then .ok (Text.ofCodes [n.toNat]) else .error (.misfit .noSuchChar)
  | .bool b => .ok (Text.ofCodes [if b then 1 else 0])
  | _ => .error (.misfit .notChar)

/-- A code that is not of ASCII by its number. -/
def escaped (n : Nat) : String :=
  if n < 0x80 then String.singleton (Char.ofNat n) else Text.numbered n

/-- The same in capital letters. -/
def Piece.capital (p : Piece) : Piece := { p with head := p.head.toUpper, body := p.body.toUpper }

/-- What a value is under a mark that ends at the `index`th code of its template. -/
def piece (m : Mark) (index : Nat) (v : Value) : Except Misuse Piece :=
  if m.letter = 's' then .ok (clipped m v.shown)
  else if m.letter = 'r' then .ok (clipped m v.written)
  else if m.letter = 'a' then .ok (clipped m (String.join ((Text.codes v.written).map escaped)))
  else if m.letter = 'd' ∨ m.letter = 'i' ∨ m.letter = 'u' then
    (wholeOf m true v).bind (wholePiece m 10)
  else if m.letter = 'o' then (wholeOf m false v).bind (wholePiece m 8)
  else if m.letter = 'x' then (wholeOf m false v).bind (wholePiece m 16)
  else if m.letter = 'X' then
    ((wholeOf m false v).bind (wholePiece m 16)).map Piece.capital
  else if m.letter = 'e' ∨ m.letter = 'f' ∨ m.letter = 'g' then
    (floatOf v).map (floatPiece m m.letter)
  else if m.letter = 'E' ∨ m.letter = 'F' ∨ m.letter = 'G' then
    (floatOf v).map fun x => (floatPiece m m.letter.toLower x).capital
  else if m.letter = 'c' then (charOf v).map fun s => { body := s }
  else .error (.misfit (.unknownMark m.code index))

/-- Write a value under a mark that ends at the `index`th code of its template. -/
def write (m : Mark) (index : Nat) (v : Value) : Except Misuse String :=
  (piece m index v).bind (padded m)

/-! ### Filling in -/

/-- Fill the marks of the rest of a template of `size` codes. -/
def fillRest (size : Nat) : Nat → Supply → List Char → Except Misuse String
  | 0, _, _ => .error (.misfit .endsInMark)
  | _, s, [] => if s.isLeftOver then .error (.misfit .tooMany) else .ok ""
  | fuel + 1, s, '%' :: '%' :: cs => ("%" ++ ·) <$> fillRest size fuel s cs
  | fuel + 1, s, '%' :: cs => do
    let (m, s, cs) ← readMark s cs
    let (v, s) ← s.take
    let written ← write m (size - (Text.codesIn cs).length - 1) v
    (written ++ ·) <$> fillRest size fuel s cs
  | fuel + 1, s, c :: cs => (c.toString ++ ·) <$> fillRest size fuel s cs

/-- Fill a template from a value. -/
def fill (template : String) (v : Value) : Except Misuse String :=
  fillRest (Text.count template) (template.length + 1) (.of v) template.toList

end Settle.Template
