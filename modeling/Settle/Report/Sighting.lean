import Settle.Value.Access

/-!
# Numbers by first sight

Components are told apart by their numbers in a world. For a record it is enough to say
which are the same, so they are numbered anew in the order in which they are first seen.
-/

namespace Settle

/-- What was seen so far, in order. -/
abbrev Sighting := List Nat

namespace Sighting

/-- The number of something by first sight, seen before or not. -/
def number (seen : Sighting) (x : Nat) : Nat := (seen.findIdx? (· == x)).getD seen.length

/-- See something. -/
def sight (seen : Sighting) (x : Nat) : Sighting := if x ∈ seen then seen else seen ++ [x]

/-- See named things in turn, and record their numbers. -/
def sightAll (seen : Sighting) : List (String × Nat) → Ledger String Value × Sighting
  | [] => ([], seen)
  | (name, x) :: rest =>
    let (others, seen') := sightAll (sight seen x) rest
    ((name, .int (number (sight seen x) x)) :: others, seen')

end Sighting

end Settle
