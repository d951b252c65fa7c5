/-!
# Delimited lists

Splitting cuts a list at the occurrences of a delimiter, found from left to right without
overlap; joining puts the delimiter between parts. Both work on lists of any kind.

Main statements: `join_split` says that joining the parts of a list gives the list back,
for every delimiter that is not empty, and `length_split` that there is one part more than
there are occurrences. Splitting what was joined does not give the parts back in general: a
delimiter that ends as it begins may be found across the border of a part.
-/

namespace Settle.Delimited

variable {α : Type} [DecidableEq α]

/-! ### Cutting at the first occurrence -/

/-- What stands before and after the first occurrence of the delimiter. -/
def cut? (d : List α) : List α → Option (List α × List α)
  | [] => if d.isEmpty then some ([], []) else none
  | x :: xs =>
    if d.isPrefixOf (x :: xs) then some ([], (x :: xs).drop d.length)
    else (cut? d xs).map fun r => (x :: r.1, r.2)

/-- Cutting loses only the delimiter. -/
theorem append_of_cut? {d s a b : List α} (h : cut? d s = some (a, b)) : a ++ d ++ b = s := by
  induction s generalizing a with
  | nil =>
    unfold cut? at h
    split at h
    · next hd =>
      cases h
      simp [List.isEmpty_iff.1 hd]
    · cases h
  | cons x xs ih =>
    unfold cut? at h
    split at h
    · next hp =>
      cases h
      obtain ⟨t, ht⟩ := List.isPrefixOf_iff_prefix.1 hp
      rw [← ht]
      simp
    · obtain ⟨r, hr, e⟩ := Option.map_eq_some_iff.1 h
      cases e
      simpa using ih hr

/-- The rest after a cut is shorter, unless the delimiter is empty. -/
theorem length_of_cut? {d s a b : List α} (hd : d ≠ []) (h : cut? d s = some (a, b)) :
    b.length < s.length := by
  have := congrArg List.length (append_of_cut? h)
  have hpos := List.length_pos_iff.2 hd
  simp at this
  omega

/-- Does the list hold the delimiter? -/
def holds (d s : List α) : Bool := (cut? d s).isSome

/-- A list holds the delimiter iff the delimiter is a stretch of it. -/
theorem holds_iff {d s : List α} : holds d s = true ↔ d <:+: s := by
  induction s with
  | nil => cases d <;> simp [holds, cut?]
  | cons x xs ih =>
    unfold holds at ih ⊢
    unfold cut?
    split
    · next hp =>
      simp only [Option.isSome_some, true_iff]
      exact (List.isPrefixOf_iff_prefix.1 hp).isInfix
    · next hp =>
      rw [Option.isSome_map, ih, List.infix_cons_iff]
      constructor
      · exact Or.inr
      · rintro (h | h)
        · exact absurd (List.isPrefixOf_iff_prefix.2 h) hp
        · exact h

/-! ### Splitting and joining -/

/-- The parts between the occurrences of the delimiter. An empty delimiter occurs nowhere. -/
def split (d s : List α) : List (List α) :=
  if _hd : d = [] then [s]
  else
    match _h : cut? d s with
    | none => [s]
    | some (a, b) => a :: split d b
termination_by s.length
decreasing_by exact length_of_cut? _hd (by assumption)

/-- The number of occurrences of the delimiter, from left to right without overlap. -/
def occurrences (d s : List α) : Nat :=
  if _hd : d = [] then 0
  else
    match _h : cut? d s with
    | none => 0
    | some (_, b) => occurrences d b + 1
termination_by s.length
decreasing_by exact length_of_cut? _hd (by assumption)

/-- The parts with the delimiter between them. -/
def join (d : List α) : List (List α) → List α
  | [] => []
  | [a] => a
  | a :: b :: rest => a ++ d ++ join d (b :: rest)

theorem split_of_cut?_none {d s : List α} (h : cut? d s = none) : split d s = [s] := by
  unfold split
  split
  · rfl
  · split
    · rfl
    · next h' => rw [h] at h'; cases h'

theorem split_of_cut?_some {d s a b : List α} (hd : d ≠ []) (h : cut? d s = some (a, b)) :
    split d s = a :: split d b := by
  rw [split]
  rw [dif_neg hd]
  split
  · next h' => rw [h] at h'; cases h'
  · next h' => rw [h] at h'; cases h'; rfl

theorem occurrences_of_cut?_none {d s : List α} (h : cut? d s = none) :
    occurrences d s = 0 := by
  unfold occurrences
  split
  · rfl
  · split
    · rfl
    · next h' => rw [h] at h'; cases h'

theorem occurrences_of_cut?_some {d s a b : List α} (hd : d ≠ [])
    (h : cut? d s = some (a, b)) : occurrences d s = occurrences d b + 1 := by
  rw [occurrences]
  rw [dif_neg hd]
  split
  · next h' => rw [h] at h'; cases h'
  · next h' => rw [h] at h'; cases h'; rfl

theorem split_ne_nil (d s : List α) : split d s ≠ [] := by
  unfold split
  split
  · simp
  · split <;> simp

omit [DecidableEq α] in
theorem join_cons (d a : List α) {rest : List (List α)} (h : rest ≠ []) :
    join d (a :: rest) = a ++ d ++ join d rest := by
  cases rest with
  | nil => exact absurd rfl h
  | cons b rest => rfl

/-- There is one part more than there are occurrences of the delimiter. -/
theorem length_split {d : List α} (hd : d ≠ []) (s : List α) :
    (split d s).length = occurrences d s + 1 := by
  induction hn : s.length using Nat.strongRecOn generalizing s with
  | _ n ih =>
    cases hc : cut? d s with
    | none => simp [split_of_cut?_none hc, occurrences_of_cut?_none hc]
    | some r =>
      obtain ⟨a, b⟩ := r
      rw [split_of_cut?_some hd hc, occurrences_of_cut?_some hd hc, List.length_cons,
        ih b.length (hn ▸ length_of_cut? hd hc) b rfl]

/-- Joining the parts of a list gives the list back. -/
theorem join_split {d : List α} (hd : d ≠ []) (s : List α) : join d (split d s) = s := by
  induction hn : s.length using Nat.strongRecOn generalizing s with
  | _ n ih =>
    cases hc : cut? d s with
    | none => rw [split_of_cut?_none hc]; rfl
    | some r =>
      obtain ⟨a, b⟩ := r
      rw [split_of_cut?_some hd hc, join_cons d a (split_ne_nil d b),
        ih b.length (hn ▸ length_of_cut? hd hc) b rfl, append_of_cut? hc]

/-! ### Borders -/

/-- A border of a list is a shorter stretch, not empty, that both begins and ends it. -/
def IsBorder (b d : List α) : Prop := b ≠ [] ∧ b ≠ d ∧ b <+: d ∧ b <:+ d

end Settle.Delimited
