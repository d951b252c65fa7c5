import Settle.Proofs.Limiter.Rounds
import Settle.Proofs.Run.Matching

/-!
# Calls of a limiter that keep step

Of the buckets of its limiter an acquire reads only the one of its action, and of the trace it reads
nothing. So two acquires keep step as soon as the outside and that one bucket are the same
(`Limiter.Pairs`), whatever else the worlds differ in. What an acquire leaves behind is the bucket
of its action and dues of the action (`Entry.IsDue`).

Main statements: `Limiter.matches_of_pairs`, and its special case `Limiter.acquire_matches` for
relations that any step respects.
-/

namespace Settle

variable {τ ω : Type}

/-- An entry that an acquire of the action leaves: a sleep, an admission under the action, or a
report of how it came about. -/
inductive Entry.IsDue (action : String) : Entry τ → Prop
  | slept (time : τ) : IsDue action (.slept time)
  | admitted (now : τ) (paid : Bool) : IsDue action (.admitted action now paid)
  | delayed (waited : τ) : IsDue action (.logged (.limiterAdmitted action waited))
  | opened (waited longest : τ) : IsDue action (.logged (.limiterOpened action waited longest))

theorem Entry.IsDue.isRoutine {action : String} {x : Entry τ} (h : x.IsDue action) :
    x.IsRoutine := by
  cases h <;> exact ⟨rfl, rfl⟩

namespace Limiter

/-- Related worlds show the same to an acquire of the action, and what it does in both leads to
related worlds. -/
structure Pairs (l : Limiter τ) (action : String) (S : World τ ω → World τ ω → Prop) : Prop where
  outside {w v : World τ ω} (h : S w v) : w.outside = v.outside
  bucket {w v : World τ ω} (h : S w v) : l.bucket? action w = l.bucket? action v
  due {x : Entry τ} (hx : x.IsDue action) : World.Keeps S x
  acted {w v : World τ ω} (h : S w v) (o : ω) :
    S { w with outside := o } { v with outside := o }
  kept {w v : World τ ω} (h : S w v) (b : Bucket τ) : S (w.kept l action b) (v.kept l action b)

variable {S : World τ ω → World τ ω → Prop} {F : Fault τ → Fault τ → Prop} {l : Limiter τ}
  {action : String}

/-- A relation that any step respects is respected by what an acquire does. -/
theorem Pairs.of_isCongruence (hS : World.IsCongruence S) : l.Pairs action S where
  outside := hS.outside
  bucket h := bucket?_congr (hS.limiters h)
  due hx := hS.routine hx.isRoutine
  acted := hS.acted
  kept h b := by
    rw [World.kept, World.kept, buckets, buckets, ← hS.limiters h]
    exact hS.kept h _

section Pairs

variable (hS : l.Pairs action S)
include hS

theorem Pairs.readBy {w v : World τ ω} (h : S w v) (host : Host τ ω) :
    S (w.readBy host) (v.readBy host) := by
  rw [World.readBy, World.readBy, ← hS.outside h]
  exact hS.acted h _

theorem Pairs.sleptBy {w v : World τ ω} (h : S w v) (host : Host τ ω) (time : τ) :
    S (w.sleptBy host time) (v.sleptBy host time) := by
  rw [World.sleptBy, World.sleptBy, ← hS.outside h]
  exact hS.acted (hS.due (.slept time) h) _

theorem keep_matches (b : Bucket τ) :
    Run.Matches S F Eq (l.keep (ω := ω) action b) (l.keep action b) :=
  .of_step (fun _ => rfl) (fun _ => rfl) fun _ _ hw => ⟨rfl, hS.kept hw b⟩

variable [Quantity τ] {host : Host τ ω}

theorem bucketFor_matches :
    Run.Matches S F Eq (l.bucketFor host action) (l.bucketFor host action) := by
  refine .of_step bucketFor_apply bucketFor_apply fun w v hw => ?_
  have hbucket : l.bucket? action w = l.bucket? action v := hS.bucket hw
  have hin : l.bucketIn host action w = l.bucketIn host action v := by
    rw [bucketIn, bucketIn, hbucket, hS.outside hw]
  refine ⟨hin, ?_⟩
  rw [opened, opened, hbucket, hin]
  cases l.bucket? action v with
  | some b => exact hw
  | none => exact hS.kept (hS.readBy hw host) _

theorem rounds_matches (waited : τ) (fuel : Nat) :
    Run.Matches S F Eq (l.rounds host action waited fuel) (l.rounds host action waited fuel) := by
  induction fuel generalizing waited with
  | zero => exact .giveUp
  | succ fuel ih =>
    refine (bucketFor_matches hS).bind ?_
    rintro b _ rfl
    have hnow : Run.Matches S F Eq (Run.now host) (Run.now host) :=
      .of_step (fun _ => rfl) (fun _ => rfl) fun _ _ hw =>
        ⟨congrArg host.reading (hS.outside hw), hS.readBy hw host⟩
    refine hnow.bind ?_
    rintro now _ rfl
    -- the grant is the same in both runs, and so is what is done about it
    obtain ⟨grant, b⟩ := b.take now (Quantity.ofInt 1)
    refine (keep_matches hS b).bind fun _ _ _ => ?_
    cases l.verdict waited grant with
    | allow paid =>
      by_cases h : Quantity.zero < waited
      · simp only [if_pos h]
        exact (Run.matches_log (hS.due (.delayed waited))).bind fun _ _ _ =>
          Run.matches_note (hS.due (.admitted now paid))
      · simp only [if_neg h]
        exact Run.matches_note (hS.due (.admitted now paid))
    | pass =>
      exact (Run.matches_log (hS.due (.opened waited l.maxWait))).bind fun _ _ _ =>
        Run.matches_note (hS.due (.admitted now false))
    | sleep delay =>
      have hsleep : Run.Matches S F Eq (Run.sleep host delay) (Run.sleep host delay) :=
        .of_step (fun _ => rfl) (fun _ => rfl) fun _ _ hw => ⟨rfl, hS.sleptBy hw host delay⟩
      exact hsleep.bind fun _ _ _ => ih _

/-- **Acquires keep step** from worlds with the same outside and the same bucket of their action. -/
theorem matches_of_pairs :
    Run.Matches S F Eq (l.acquire host action) (l.acquire host action) := rounds_matches hS _ _

end Pairs

variable [Quantity τ] {host : Host τ ω}

/-- **Calls of a limiter** keep step, whatever happened before. -/
theorem acquire_matches (hS : World.IsCongruence S) :
    Run.Matches S F Eq (l.acquire host action) (l.acquire host action) :=
  matches_of_pairs (.of_isCongruence hS)

end Limiter

end Settle
