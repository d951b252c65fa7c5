import Settle.Proofs.Limiter.Admission

/-!
# How long a call is held up

In exact time the sleeps of a call of `Limiter.acquire` add up to no more than the longest wait, and
nothing else in it takes time.

Main statement: `acquire_takes`.
-/

namespace Settle

open Quantity

variable {ω : Type}

/-- Only sleeps move the clock, each by just its time. -/
structure Host.Exact (host : Host ℚ ω) : Prop where
  read (o : ω) : host.reading (host.read o).2 = host.reading o
  sleep {time : ℚ} (h : 0 ≤ time) (o : ω) :
    host.reading (host.sleep time o) = host.reading o + time

theorem Host.Exact.thorough {host : Host ℚ ω} (h : host.Exact) : host.Thorough where
  read o := (h.read o).ge
  sleep hpos o := (h.sleep hpos o).ge

namespace Limiter

variable {host : Host ℚ ω} {l : Limiter ℚ} {action : String} {waited : ℚ} {slept : List ℚ}
  {w w' : World ℚ ω}

variable (hx : host.Exact)
include hx

/-- A draw takes no time. -/
theorem reading_tried :
    host.reading (l.tried host action w).outside = host.reading w.outside :=
  view_tried hx.read w

/-- The clock shows how long a call was held up. -/
theorem HeldUp.reading_eq (h : HeldUp host l action waited w slept w') :
    host.reading w'.outside = host.reading w.outside + slept.sum := by
  induction h with
  | nil => rw [List.sum_nil, add_zero]
  | cons _ hv _ ih =>
    rw [ih, World.outside_sleptBy, hx.sleep (zero_lt_delay hv).le, reading_tried hx, List.sum_cons,
      add_assoc]

/-- **A call is held up** for no longer than the longest wait. -/
theorem acquire_takes {r : Except (Fault ℚ) Unit} (h : (l.acquire host action).Ends w r w') :
    host.reading w.outside ≤ host.reading w'.outside ∧
      host.reading w'.outside ≤ host.reading w.outside + max l.maxWait 0 := by
  obtain ⟨-, slept, w₁, -, hheld, hlast⟩ := acquire_ends_iff.mp h
  have hsum : 0 ≤ slept.sum := List.sum_nonneg fun d hd => (hheld.forall_pos d hd).le
  have hle := hheld.sum_le
  rw [zero_add] at hle
  rw [hlast.outside, reading_tried hx, hheld.reading_eq hx]
  exact ⟨le_add_of_nonneg_right hsum, add_le_add_right hle _⟩

end Limiter

end Settle
