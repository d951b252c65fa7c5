import Settle.Proofs.Limiter.Lockstep
import Settle.Proofs.Poll.Lockstep
import Settle.Proofs.Task.Course

/-!
# The parts of a workflow keep step with themselves

The lookup of an order and the polling of a task each make calls of one kind, and are routine
otherwise (`resolve_matches`, `pollTask_matches`), so they keep step with themselves under every
congruence that survives those calls. A guard adds the announcement of a failure, and a task that is
settled the announcements of its states. Taken together, both halves of a workflow have no memory
(`resolve_oblivious`, `settle_oblivious`).
-/

namespace Settle.Workflow

variable {τ ω α : Type} {S : World τ ω → World τ ω → Prop}

theorem guarded_matches {resourceId handle : Value} {part : Run τ ω α}
    (h : part.Matches S Eq Eq part)
    (hfailed : ∀ reason, World.Keeps S (.logged (.workflow (.failed resourceId handle reason)))) :
    (guarded resourceId handle part).Matches S Eq Eq (guarded resourceId handle part) := by
  refine h.catching.bind ?_
  intro x y hxy
  obtain rfl := hxy.eq
  cases x with
  | ok v => exact .pure rfl
  | error e =>
    cases hf : e.isFatal with
    | true =>
      simp only [hf, if_true]
      exact (Run.matches_log (hfailed _)).bind fun _ _ _ => .raise rfl
    | false =>
      simp only [hf]
      exact .raise rfl

variable [Quantity τ] {host : Host τ ω} {flow : Workflow τ ω} {a : Await τ}
  {source : TaskSource τ ω} {handle : Value}

section Congruence

variable (hS : World.IsCongruence S)
include hS

theorem resolve_matches {action : Option String} {orderRef : Value}
    {lookup : Value → ω → Except (Fault τ) OrderAnswer × ω}
    (hc : World.Keeps S (.called (.resolve orderRef))) :
    (flow.resolve host action orderRef lookup).Matches S Eq Eq
      (flow.resolve host action orderRef lookup) := by
  refine (Poller.call_matches_self hS (Run.matches_call hS hc _)).bind ?_
  rintro answer _ rfl
  exact .ofExcept (.refl _)

variable (hc : World.Keeps S (.called (.query handle)))
include hc

theorem poll_matches (operation : String) :
    (flow.poll host a.table operation handle (ask source handle)).Matches S Eq Eq
      (flow.poll host a.table operation handle (ask source handle)) := by
  have hask : Run.Matches S Eq Eq (ask source handle >>= fun y =>
        Run.ofExcept (judgeAnswer a.table operation handle y))
      (ask source handle >>= fun y => Run.ofExcept (judgeAnswer a.table operation handle y)) := by
    refine (Run.matches_call hS hc _).bind ?_
    rintro answer _ rfl
    exact .ofExcept (.refl _)
  unfold poll
  cases flow.limiter with
  | none => exact hask
  | some l => exact (Limiter.acquire_matches hS).bind fun _ _ _ => hask

theorem pollTask_matches :
    (pollTask host flow a source handle).Matches S Eq Eq (pollTask host flow a source handle) :=
  Poller.runCounting_matches_self hS (poll_matches hS hc _)

end Congruence

/-! ### What the lookup and the polling leave in the trace -/

theorem resolve_added {action : Option String} {orderRef : Value}
    {lookup : Value → ω → Except (Fault τ) OrderAnswer × ω} {w w' : World τ ω}
    {r : Except (Fault τ) DealEntry}
    (h : (flow.resolve host action orderRef lookup).Ends w r w') :
    ∃ added, w'.trace.toList = w.trace.toList ++ added ∧
      ∀ x ∈ added, x.IsRoutineBut (.resolve orderRef) :=
  Run.exists_added (fun before => resolve_matches
    (World.Added.isCongruence (fun _ => .inl) before) (World.Added.keeps (.inr rfl) before)) h

theorem pollTask_added {w w' : World τ ω} {r : Except (Fault τ) (Option Value × Nat)}
    (h : (pollTask host flow a source handle).Ends w r w') :
    ∃ added, w'.trace.toList = w.trace.toList ++ added ∧
      ∀ x ∈ added, x.IsRoutineBut (.query handle) :=
  Run.exists_added (fun before => pollTask_matches
    (World.Added.isCongruence (fun _ => .inl) before) (World.Added.keeps (.inr rfl) before)) h

/-! ### Both halves of a workflow -/

theorem resolve_oblivious (action : Option String) (orderRef : Value)
    (lookup : Value → ω → Except (Fault τ) OrderAnswer × ω) :
    (flow.resolve host action orderRef lookup).Oblivious :=
  fun _ hS hkeeps => resolve_matches hS (hkeeps _)

theorem settle_oblivious (resourceId handle : Value) :
    (flow.settle host a (ask source) resourceId handle).Oblivious := by
  intro S hS hkeeps
  unfold settle
  by_cases hh : hasTask handle = true
  · simp only [if_pos hh]
    have hpolling : (announce (.polling resourceId handle) >>= fun _ =>
          pollTask host flow a source handle).Matches S Eq Eq
        (announce (.polling resourceId handle) >>= fun _ => pollTask host flow a source handle) :=
      (Run.matches_log (hkeeps _)).bind fun _ _ _ => pollTask_matches hS (hkeeps _)
    refine (guarded_matches hpolling fun _ => hkeeps _).bind ?_
    rintro ⟨v, n⟩ _ rfl
    exact (Run.matches_log (hkeeps _)).bind fun _ _ _ => .pure rfl
  · simp only [if_neg hh]
    exact (Run.matches_log (hkeeps _)).bind fun _ _ _ => .pure rfl

end Settle.Workflow
