/-!
# Runs of one character

`repeated c n` is the text of `n` times the character `c`. It is made of its halves, so that
also a very long run takes few steps.

Main statement: `toList_repeated` says which characters it has.
-/

namespace Settle.Text

/-- The text of `n` times one character. -/
def repeated (c : Char) (n : Nat) : String :=
  if n = 0 then ""
  else
    let half := repeated c (n / 2)
    if n % 2 = 0 then half ++ half else (half ++ half).push c
termination_by n

theorem toList_repeated (c : Char) (n : Nat) : (repeated c n).toList = List.replicate n c := by
  fun_induction repeated c n with
  | case1 => rfl
  | case2 n _ half even ih =>
    rw [String.toList_append, ih, List.replicate_append_replicate]
    congr 1
    omega
  | case3 n _ half odd ih =>
    rw [String.toList_push, String.toList_append, ih, List.replicate_append_replicate,
      ← List.replicate_succ']
    congr 1
    omega

@[simp] theorem repeated_zero (c : Char) : repeated c 0 = "" := by
  rw [repeated, if_pos rfl]

end Settle.Text
