import Mathlib.Algebra.Order.BigOperators.Group.List
import Settle.Proofs.Limiter.Budget

/-!
# The course of a call

A call of `Limiter.acquire` is held up for a number of sleeps, and then it is let through. `HeldUp`
is what goes on before, one refused draw and one sleep after the other, and `Released` is the round
that lets the call through.

Main statements: `rounds_ends_iff` and `acquire_ends_iff` say that a call is just this; every sleep
takes some time (`HeldUp.forall_pos`), and all together no longer than the longest wait
(`HeldUp.sum_le`).
-/

namespace Settle.Limiter

open Quantity

variable {ω : Type} {host : Host ℚ ω} {l : Limiter ℚ} {action : String} {waited : ℚ}
  {slept : List ℚ} {w w' : World ℚ ω}

/-! ### Rounds that sleep, and the last one -/

/-- A call that has slept for `waited` seconds so far is held up further: its draws are refused, and
after each of them it sleeps. -/
inductive HeldUp (host : Host ℚ ω) (l : Limiter ℚ) (action : String) :
    ℚ → World ℚ ω → List ℚ → World ℚ ω → Prop
  | nil (waited : ℚ) (w : World ℚ ω) : HeldUp host l action waited w [] w
  | cons {waited delay : ℚ} {w w' : World ℚ ω} {slept : List ℚ}
      (refused : (l.drawn host action w).1.IsRefusal)
      (sleeps : l.verdict waited (l.drawn host action w).1 = .sleep delay)
      (rest : HeldUp host l action (waited + delay) ((l.tried host action w).sleptBy host delay)
        slept w') : HeldUp host l action waited w (delay :: slept) w'

/-- The last round of a call: it takes a token, or the longest wait is used up. -/
inductive Released (host : Host ℚ ω) (l : Limiter ℚ) (action : String) (waited : ℚ)
    (w : World ℚ ω) : World ℚ ω → Prop
  | paid (h : (l.drawn host action w).1 = .taken) : Released host l action waited w
      (admitted action waited (l.instant host action w) true (l.tried host action w))
  | unpaid (h : (l.drawn host action w).1.IsRefusal) (hw : l.maxWait ≤ waited) :
      Released host l action waited w
        (l.failedOpen action waited (l.instant host action w) (l.tried host action w))

/-- A round is the last one, or a sleep follows. -/
theorem released_or_sleeps (host : Host ℚ ω) (l : Limiter ℚ) (action : String) (waited : ℚ)
    (w : World ℚ ω) :
    (∃ w', Released host l action waited w w') ∨
      ∃ delay, l.verdict waited (l.drawn host action w).1 = .sleep delay := by
  rcases verdict_cases host l action waited w with ⟨h, -⟩ | ⟨h, hw, -⟩ | ⟨-, delay, hv, -⟩
  · exact .inl ⟨_, .paid h⟩
  · exact .inl ⟨_, .unpaid h hw⟩
  · exact .inr ⟨delay, hv⟩

/-- The last round ends the call, whatever patience is left. -/
theorem Released.rounds_ends (h : Released host l action waited w w') (fuel : ℕ) :
    (l.rounds host action waited (fuel + 1)).Ends w (.ok ()) w' := by
  rw [rounds_succ_ends_iff]
  rcases h with h | ⟨h, hw⟩
  · rw [h, verdict_taken]
    exact ⟨rfl, rfl⟩
  · rw [verdict_of_spent l h hw]
    exact ⟨rfl, rfl⟩

/-- **A call is held up and then let through**, in no more rounds than the host has patience for. -/
theorem rounds_ends_iff {fuel : ℕ} {r : Except (Fault ℚ) Unit} :
    (l.rounds host action waited fuel).Ends w r w' ↔
      r = .ok () ∧ ∃ slept w₁, slept.length < fuel ∧ HeldUp host l action waited w slept w₁ ∧
        Released host l action (waited + slept.sum) w₁ w' := by
  constructor
  · intro h
    induction fuel generalizing waited w with
    | zero => exact absurd h Run.not_ends_giveUp
    | succ fuel ih =>
      rcases released_or_sleeps host l action waited w with ⟨w₂, hlast⟩ | ⟨delay, hv⟩
      · obtain ⟨rfl, rfl⟩ := (hlast.rounds_ends fuel).unique h
        refine ⟨rfl, [], w, Nat.succ_pos fuel, .nil waited w, ?_⟩
        rwa [List.sum_nil, add_zero]
      · rw [rounds_succ_ends_iff, hv] at h
        obtain ⟨rfl, slept, w₁, hlen, hheld, hlast⟩ := ih h
        refine ⟨rfl, delay :: slept, w₁, Nat.succ_lt_succ hlen,
          .cons (drawn_of_sleep hv).1 hv hheld, ?_⟩
        rwa [List.sum_cons, ← add_assoc]
  · rintro ⟨rfl, slept, w₁, hlen, hheld, hlast⟩
    induction hheld generalizing fuel with
    | nil waited w =>
      obtain ⟨fuel, rfl⟩ := Nat.exists_eq_add_of_lt hlen
      rw [List.sum_nil, add_zero] at hlast
      rw [List.length_nil, Nat.zero_add]
      exact hlast.rounds_ends fuel
    | @cons waited delay w w₁ slept hr hv _ ih =>
      obtain ⟨fuel, rfl⟩ : ∃ k, fuel = k + 1 := Nat.exists_eq_add_of_le' (Nat.one_le_of_lt hlen)
      rw [rounds_succ_ends_iff, hv]
      refine ih (Nat.lt_of_succ_lt_succ hlen) ?_
      rwa [add_assoc, ← List.sum_cons]

theorem acquire_ends_iff {r : Except (Fault ℚ) Unit} :
    (l.acquire host action).Ends w r w' ↔ r = .ok () ∧ ∃ slept w₁, slept.length < host.patience ∧
      HeldUp host l action 0 w slept w₁ ∧ Released host l action slept.sum w₁ w' := by
  simp only [acquire, rounds_ends_iff, zero_rat, zero_add]

/-! ### Sleeps -/

theorem HeldUp.sleeps (h : HeldUp host l action waited w slept w') :
    w'.sleeps = w.sleeps ++ slept := by
  induction h with
  | nil => exact (List.append_nil _).symm
  | cons _ _ _ ih =>
    rw [ih, World.sleeps_eq_seen, World.seen_sleptBy, seen_tried, ← World.sleeps_eq_seen,
      List.append_assoc]
    rfl

theorem HeldUp.forall_pos (h : HeldUp host l action waited w slept w') : ∀ d ∈ slept, 0 < d := by
  induction h with
  | nil => exact nofun
  | cons _ hv _ ih =>
    intro d hd
    rcases List.mem_cons.mp hd with rfl | hd
    · exact zero_lt_delay hv
    · exact ih d hd

/-- The sleeps do not go beyond the longest wait. -/
theorem HeldUp.sum_le (h : HeldUp host l action waited w slept w') :
    waited + slept.sum ≤ max l.maxWait waited := by
  induction h with
  | nil waited => exact (add_zero waited).trans_le (le_max_right _ _)
  | cons _ hv _ ih =>
    have hle := add_le_maxWait hv
    rw [max_eq_left hle] at ih
    rw [List.sum_cons, ← add_assoc]
    exact ih.trans (le_max_left _ _)

/-- The last round does not sleep. -/
theorem Released.sleeps (h : Released host l action waited w w') : w'.sleeps = w.sleeps := by
  rcases h with _ | _
  · rw [sleeps_admitted, sleeps_tried]
  · rw [sleeps_failedOpen, sleeps_tried]

theorem Released.outside (h : Released host l action waited w w') :
    w'.outside = (l.tried host action w).outside := by
  rcases h with _ | _
  · exact outside_admitted _ _ _ _
  · rfl

end Settle.Limiter
