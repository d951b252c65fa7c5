import Settle.Decimal.Shortest
import Settle.Text.Blank

/-!
# Reading numerals

`Scanned.toFloat` is the float nearest to a decimal numeral, and the readers take numerals
off text: `readFloat?` accepts an optional sign, digits with an optional point and an
optional exponent, or a spelled-out infinity or not-a-number; `readWhole` accepts a whole
number, also one with blanks around it, with zeros behind its sign and with a fraction of
zeros, and lets single underscores stand between digits.

Main statements: `readDigits_eq_ok_iff`, which says which texts are a whole number without a sign,
and `readWhole_eq_tooLong_iff`.
-/

namespace Settle.Decimal

/-- A numeral taken apart: sign, all digits read as one number, and the power of ten that
its last digit counts. -/
structure Scanned where
  negative : Bool
  digits : Nat
  exponent : Int
  deriving DecidableEq, Repr

/-- The float nearest to the numeral. Numerals far beyond the range of floats are settled
by their size alone. -/
def Scanned.toFloat (s : Scanned) : Float :=
  let size := (digitCount s.digits : Int) + s.exponent
  let x : Float :=
    if s.digits = 0 then 0.0
    else if 400 < size then 1.0 / 0.0
    else if size < -400 then 0.0
    else if s.exponent < 0 then Float.ofScientific s.digits true s.exponent.natAbs
    else Float.ofScientific s.digits false s.exponent.natAbs
  if s.negative then -x else x

/-- The digits at the front of a text, and the rest. -/
def spanDigits (cs : List Char) : List Char × List Char :=
  (cs.takeWhile Char.isDigit, cs.dropWhile Char.isDigit)

/-- The number that digits write. -/
def ofDigits (ds : List Char) : Nat :=
  ds.foldl (fun n c => 10 * n + (c.toNat - '0'.toNat)) 0

/-- Nothing is lost when the digits are taken off. -/
theorem spanDigits_append (cs : List Char) :
    (spanDigits cs).1 ++ (spanDigits cs).2 = cs :=
  List.takeWhile_append_dropWhile

/-- Take an optional sign off. -/
def takeSign : List Char → Bool × List Char
  | '-' :: cs => (true, cs)
  | '+' :: cs => (false, cs)
  | cs => (false, cs)

/-- Read what follows an exponent mark: an optional sign and at least one digit. -/
def readExponent? (cs : List Char) : Option (Int × List Char) :=
  let (negative, rest) := takeSign cs
  let (ds, rest) := spanDigits rest
  if ds.isEmpty then none
  else
    let n : Int := ofDigits ds
    some (if negative then -n else n, rest)

/-- Read an optional exponent. -/
def readOptionalExponent? : List Char → Option (Int × List Char)
  | 'e' :: cs => readExponent? cs
  | 'E' :: cs => readExponent? cs
  | cs => some (0, cs)

/-- Read an optional fraction, whose digits may be missing. -/
def readFraction : List Char → List Char × List Char
  | '.' :: cs => spanDigits cs
  | cs => ([], cs)

/-- Small letters of ASCII. -/
def asciiLower (cs : List Char) : String := String.ofList (cs.map Char.toLower)

/-- Read a whole text as a float. -/
def readFloat? (cs : List Char) : Option Float :=
  let (negative, rest) := takeSign cs
  let word := asciiLower rest
  if word = "inf" ∨ word = "infinity" then
    some (if negative then -(1.0 / 0.0) else 1.0 / 0.0)
  else if word = "nan" then some (0.0 / 0.0)
  else
    let (whole, rest) := spanDigits rest
    let (fraction, rest) := readFraction rest
    if whole.isEmpty && fraction.isEmpty then none
    else
      match readOptionalExponent? rest with
      | some (e, []) =>
        some (Scanned.toFloat
          ⟨negative, ofDigits (whole ++ fraction), e - fraction.length⟩)
      | _ => none

/-! ### Whole numbers -/

/-- Take single underscores out of a text. They may stand neither at an end nor side by
side. -/
def dropUnderscores? (cs : List Char) : Option (List Char) :=
  if cs.head? = some '_' ∨ cs.getLast? = some '_' then none
  else go cs
where
  /-- Take single underscores out, wherever they stand. -/
  go : List Char → Option (List Char)
    | '_' :: '_' :: _ => none
    | '_' :: rest => go rest
    | c :: rest => (go rest).map (c :: ·)
    | [] => some []

/-- Why a text is no whole number. -/
inductive WholeTrouble where
  | malformed
  | tooLong
  deriving DecidableEq, Repr

/-- What zeros and underscores at the front of a numeral leave of it, where `last` is the one
before the text. A digit or a minus sign may follow them; before a point and at the end of
the text the last one stays. -/
def afterZeros? (last : Char) : List Char → Option (List Char)
  | [] => some [last]
  | c :: rest =>
    if c = '0' ∨ c = '_' then afterZeros? c rest
    else if c = '.' then some (last :: c :: rest)
    else if c.isDigit ∨ c = '-' then some (c :: rest)
    else none

/-- Drop the zeros at the front of a numeral, which begins with a digit. -/
def dropZeros? : List Char → Option (List Char)
  | [] => none
  | c :: rest =>
    if c = '0' then afterZeros? c rest
    else if c.isDigit then some (c :: rest)
    else none

/-- Drop a fraction that holds at least one zero and nothing else. -/
def dropZeroFraction (cs : List Char) : List Char :=
  match cs.span (· != '.') with
  | (whole, '.' :: fraction) =>
    if !fraction.isEmpty && fraction.all (· == '0') then whole else cs
  | _ => cs

/-- How many digits a whole number may have. -/
def digitLimit : Nat := 4300

/-- Read a whole text as digits. Only zero itself begins with a zero. A text with too many
digits at its front is too long, whatever follows them. -/
def readDigits (cs : List Char) : Except WholeTrouble Nat :=
  let (ds, rest) := spanDigits cs
  if cs = ['0'] then .ok 0
  else if ds.isEmpty ∨ ds.head? = some '0' then .error .malformed
  else if digitLimit < ds.length then .error .tooLong
  else if rest.isEmpty then .ok (ofDigits ds)
  else .error .malformed

/-- Read a whole text as digits with an optional minus sign. -/
def readSigned : List Char → Except WholeTrouble Int
  | '-' :: cs => (readDigits cs).map fun n => -(n : Int)
  | cs => (readDigits cs).map fun n => (n : Int)

/-- A numeral without what may be left out of it: a plus sign, zeros in front, a fraction of
zeros, and underscores. One sign may stand in front of its first digit. -/
def tidied? (cs : List Char) : Option (List Char) :=
  let (negative, rest) := takeSign cs
  (dropZeros? rest).map fun ds =>
    let ds := dropZeroFraction ds
    let ds := (dropUnderscores? ds).getD ds
    if negative then '-' :: ds else ds

/-- Read a whole text as a whole number. One that is none as it stands may be one without the
blanks around it and tidied; if it is not, it is malformed, however long it is. -/
def readWhole (cs : List Char) : Except WholeTrouble Int :=
  match readSigned cs with
  | .ok n => .ok n
  | .error .tooLong => .error .tooLong
  | .error .malformed =>
    match (tidied? (Text.trimBy Text.isSpace cs)).map readSigned with
    | some (.ok n) => .ok n
    | _ => .error .malformed

/-- Only what is too long as it stands is too long. -/
theorem readWhole_eq_tooLong_iff (cs : List Char) :
    readWhole cs = .error .tooLong ↔ readSigned cs = .error .tooLong := by
  unfold readWhole
  cases h : readSigned cs with
  | ok n => simp
  | error e =>
    cases e with
    | tooLong => simp
    | malformed => cases (tidied? (Text.trimBy Text.isSpace cs)).map readSigned with
      | none => simp
      | some r => cases r <;> simp

/-- The texts that are a whole number without a sign: zero itself, and up to so many digits
of which the first is not zero. -/
theorem readDigits_eq_ok_iff {cs : List Char} {n : Nat} :
    readDigits cs = .ok n ↔
      (cs = ['0'] ∧ n = 0) ∨
        ((spanDigits cs).2 = [] ∧ cs ≠ [] ∧ cs.head? ≠ some '0'
          ∧ cs.length ≤ digitLimit ∧ n = ofDigits cs) := by
  have whole : (spanDigits cs).2 = [] → (spanDigits cs).1 = cs := fun e => by
    have h := spanDigits_append cs
    rwa [e, List.append_nil] at h
  rcases hsp : spanDigits cs with ⟨ds, rest⟩
  rw [hsp] at whole
  by_cases h0 : cs = ['0']
  · have hr : readDigits cs = .ok 0 := by simp only [readDigits, h0, if_true]
    rw [hr, h0]
    simp [eq_comm]
  · cases rest with
    | cons c rest =>
      have hr : readDigits cs ≠ .ok n := by
        simp only [readDigits, hsp, h0, if_false]
        split
        · simp
        · split <;> simp
      simp [hr, h0]
    | nil =>
      have hc : ds = cs := whole rfl
      subst hc
      by_cases h1 : ds = []
      · subst h1
        simp [readDigits, spanDigits]
      · by_cases h2 : ds.head? = some '0'
        · simp [readDigits, hsp, h0, h2]
        · by_cases h3 : digitLimit < ds.length
          · simp [readDigits, hsp, h0, h1, h2, h3, Nat.not_le_of_lt h3]
          · have hr : readDigits ds = .ok (ofDigits ds) := by
              simp [readDigits, hsp, h0, h1, h2, h3]
            rw [hr]
            simp only [Except.ok.injEq, h0, h1, h2, false_and, false_or, ne_eq, not_false_eq_true,
              true_and, Nat.le_of_not_lt h3]
            exact eq_comm

end Settle.Decimal
