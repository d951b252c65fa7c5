/-!
# Blank characters

Three readings of "blank" are in use. `isSpace` is the class of white-space characters of
the character set, trimmed from numerals; `isBlank` adds the four information separators,
and is what separates words and is trimmed from lines; `isGap` is a blank that does not end
a line.
-/

namespace Settle.Text

/-- White space of the character set. -/
def isSpace (c : Char) : Bool :=
  let n := c.toNat
  decide ((9 ≤ n ∧ n ≤ 13) ∨ n = 32 ∨ n = 133 ∨ n = 160 ∨ n = 5760 ∨ (8192 ≤ n ∧ n ≤ 8202)
    ∨ n = 8232 ∨ n = 8233 ∨ n = 8239 ∨ n = 8287 ∨ n = 12288)

/-- White space or an information separator. -/
def isBlank (c : Char) : Bool :=
  isSpace c || decide (28 ≤ c.toNat ∧ c.toNat ≤ 31)

/-- A blank that does not end a line. -/
def isGap (c : Char) : Bool := isBlank c && c != '\n' && c != '\r'

/-- Every white-space character of the standard library is white space here. -/
theorem isSpace_of_isWhitespace (c : Char) (h : c.isWhitespace = true) : isSpace c = true := by
  simp only [Char.isWhitespace, Bool.or_eq_true, decide_eq_true_eq] at h
  rcases h with ((rfl | rfl) | rfl) | rfl <;> decide

/-- Drop the characters of a class from both ends. -/
def trimBy (p : Char → Bool) (cs : List Char) : List Char :=
  ((cs.dropWhile p).reverse.dropWhile p).reverse

end Settle.Text
