import Settle.Text.Printable
import Settle.Text.Code

/-!
# Quoted text

`quote` writes a text between quotation marks so that every character can be told from the
marks around it: the mark itself and the backslash are escaped, and so is every character
that is not printable, by its code. Single marks are preferred; double marks are used only
for a text that holds a single mark and no double one.

Main statement: `quote_eq` says that the written form is the mark, the escaped codes one
after another, and the mark again.
-/

namespace Settle.Text

/-- The last `width` hexadecimal digits of a number, in small letters. -/
def hex (width n : Nat) : String :=
  let digits := Nat.toDigits 16 n
  String.ofList (List.replicate (width - digits.length) '0' ++ digits)

/-- The mark for a text: single unless that would need more escapes. -/
def markFor (s : String) : Char :=
  if s.toList.contains '\'' && !s.toList.contains '"' then '"' else '\''

/-- A code by its number. -/
def numbered (n : Nat) : String :=
  if n < 256 then "\\x" ++ hex 2 n
  else if n < 65536 then "\\u" ++ hex 4 n
  else "\\U" ++ hex 8 n

/-- One code between marks. -/
def escaped (mark : Char) (n : Nat) : String :=
  let c := Char.ofNat n
  if isSurrogate n then numbered n
  else if c = mark ∨ c = '\\' then String.ofList ['\\', c]
  else if c = '\n' then "\\n"
  else if c = '\r' then "\\r"
  else if c = '\t' then "\\t"
  else if isPrintable c then String.singleton c
  else numbered n

/-- A text between quotation marks. -/
def quote (s : String) : String :=
  let mark := markFor s
  String.singleton mark ++ String.join ((codes s).map (escaped mark)) ++ String.singleton mark

/-- The written form is the mark, the escaped codes, and the mark again. -/
theorem quote_eq (s : String) :
    quote s = String.singleton (markFor s) ++ String.join ((codes s).map (escaped (markFor s)))
      ++ String.singleton (markFor s) := rfl

/-- A printable character other than the mark and the backslash is written as itself. -/
theorem escaped_of_plain (mark c : Char) (hm : c ≠ mark) (hb : c ≠ '\\')
    (hn : c ≠ '\n') (hr : c ≠ '\r') (ht : c ≠ '\t') (hp : isPrintable c = true) :
    escaped mark c.toNat = String.singleton c := by
  have hs : isSurrogate c.toNat = false := by
    have h := c.valid
    change c.toNat < 0xD800 ∨ 0xDFFF < c.toNat ∧ c.toNat < 0x110000 at h
    rw [isSurrogate, decide_eq_false_iff_not]
    omega
  simp [escaped, hs, hm, hb, hn, hr, ht, hp]

end Settle.Text
