import Settle.Proofs.Poll.Course
import Settle.Proofs.Run.Matching

/-!
# Polling runs that keep step

Two polling runs with the same clock, interval and deadline keep step, if their actions do and what
these answer is judged alike. `Polling.InStep` lists what that takes: related answers get related
verdicts, and where both runs wait, the conditions for which they wait are related. It leaves open
what is written to the log, and how the answers are related; a run keeps step with itself
(`InStep.self`), and so do runs that see one failure in two guises.

Main statements: `InStep.rounds` for the loop, and `Poller.run_matches` for whole runs.
-/

namespace Settle

variable {τ ω α : Type}

/-! ### Polling -/

/-- Verdicts correspond: both finish with the same value, or both fail with faults that correspond,
or both wait for conditions that do. -/
inductive Poll.Verdict.Matches (F : Fault τ → Fault τ → Prop)
    (C : Condition τ → Condition τ → Prop) : Poll.Verdict τ α → Poll.Verdict τ α → Prop
  | finish (v : Option α) : Matches F C (.finish v) (.finish v)
  | fail {e f : Fault τ} (h : F e f) : Matches F C (.fail e) (.fail f)
  | wait {x y : Condition τ} (h : C x y) : Matches F C (.wait x) (.wait y)

/-- What a verdict reports is routine. -/
theorem Poll.isRoutine_judge {policy : NotFoundPolicy} {classify : Classifier τ}
    {operation : String} {n : Nat} {x : Except (Fault τ) (Reply α)} :
    ∀ e ∈ (judge policy classify operation n x).1, (Entry.logged e).IsRoutine := by
  rcases x with f | v | _ | _
  · simp only [judge, judgeFault]
    rcases classOf classify f with _ | _ | k
    · exact List.forall_mem_nil _
    · exact List.forall_mem_nil _
    · cases k with
      | transient => exact List.forall_mem_nil _
      | fatal => exact List.forall_mem_singleton.mpr ⟨rfl, rfl⟩
      | notFound =>
        cases policy with
        | fatal | absent => exact List.forall_mem_singleton.mpr ⟨rfl, rfl⟩
        | retry => exact List.forall_mem_nil _
  · rw [judge]
    split
    · exact List.forall_mem_singleton.mpr ⟨rfl, rfl⟩
    · exact List.forall_mem_nil _
  · exact List.forall_mem_nil _
  · exact List.forall_mem_nil _

namespace Polling

variable [Quantity τ] {S : World τ ω → World τ ω → Prop} {F : Fault τ → Fault τ → Prop}
  {A : Except (Fault τ) (Reply α) → Except (Fault τ) (Reply α) → Prop}
  {C : Condition τ → Condition τ → Prop} {c d : Polling τ ω α}

/-- How an answer is judged after `n` attempts. -/
def judged (c : Polling τ ω α) (n : Nat) (x : Except (Fault τ) (Reply α)) :
    List (Event τ) × Poll.Verdict τ α := Poll.judge c.policy c.classify c.operation n x

/-- What two polling runs need to keep step. Answers are related by `A`, the conditions for which
the runs wait by `C`, and what the runs raise by `F`. -/
structure InStep (S : World τ ω → World τ ω → Prop) (F : Fault τ → Fault τ → Prop)
    (A : Except (Fault τ) (Reply α) → Except (Fault τ) (Reply α) → Prop)
    (C : Condition τ → Condition τ → Prop) (c d : Polling τ ω α) : Prop where
  host : d.host = c.host
  deadline : d.deadline = c.deadline
  interval : d.profile.interval = c.profile.interval
  answers : Run.Matches S F A c.action.catching d.action.catching
  verdict {n : Nat} {x y : Except (Fault τ) (Reply α)} (h : A x y) :
    (c.judged n x).2.Matches F C (d.judged n y).2
  reported {n : Nat} {x y : Except (Fault τ) (Reply α)} (h : A x y) {w v : World τ ω} (hw : S w v) :
    S (w.loggedAll (c.judged n x).1) (v.loggedAll (d.judged n y).1)
  pending {n : Nat} {x y : Condition τ} (h : C x y) (delay : τ) {w v : World τ ω} (hw : S w v) :
    S (w.logged (.retryPending c.operation n x.text delay))
      (v.logged (.retryPending d.operation n y.text delay))
  noticed {n : Nat} {x y : Condition τ} (h : C x y) (delay : τ) {w v : World τ ω} (hw : S w v) :
    S (w.noticedBy c.poller n x delay) (v.noticedBy d.poller n y delay)
  late {n : Nat} {x y : Condition τ} (h : C x y) {w v : World τ ω} (hw : S w v) :
    S (w.logged (.retryExpired c.operation c.profile.name n x.text))
      (v.logged (.retryExpired d.operation d.profile.name n y.text))
  expiry {n : Nat} {x y : Condition τ} (h : C x y) (elapsed : τ) :
    F (c.expiry n x elapsed) (d.expiry n y elapsed)

/-- A round makes an attempt, reports what its verdict says, and does what follows from it. -/
theorem rounds_succ (c : Polling τ ω α) (n fuel : Nat) :
    c.rounds n (fuel + 1) = (do
      Run.note .attempted
      let x ← c.action.catching
      Run.logAll (c.judged (n + 1) x).1
      c.follow (n + 1) fuel (c.judged (n + 1) x).2) := rfl

namespace InStep

variable (hS : World.IsCongruence S) (h : InStep S F A C c d) {n : Nat}
include hS h

theorem paused {x y : Condition τ} (hxy : C x y) {w v : World τ ω} (hw : S w v) :
    S (c.paused n x w) (d.paused n y v) := by
  have hread := hS.readBy hw c.host
  rw [Polling.paused, Polling.paused, h.host, h.deadline, h.interval, ← hS.outside hw]
  by_cases hleft : Quantity.zero < c.deadline.remaining (c.host.reading w.outside)
  · simp only [if_pos hleft]
    exact hS.sleptBy (h.noticed hxy _ (h.pending hxy _ hread)) c.host _
  · simp only [if_neg hleft]
    exact hread

theorem expire {x y : Condition τ} (hxy : C x y) {V : Option α × Nat → Option α × Nat → Prop} :
    Run.Matches S F V
      (Poller.expire c.host c.operation c.profile c.deadline n x)
      (Poller.expire d.host d.operation d.profile d.deadline n y) := by
  intro w v hw
  rw [expire_apply, expire_apply]
  have hlate := h.late (n := n) hxy hw
  have hexpired : S (c.expired n x w) (d.expired n y v) := by
    rw [expired, expired, h.host]
    exact hS.readBy hlate c.host
  rw [h.host, h.deadline, ← hS.outside hw]
  exact .raised (h.expiry hxy _) hexpired

/-- What follows a verdict keeps step, if the other rounds do. -/
theorem follow {fuel : Nat} {x y : Poll.Verdict τ α} (hxy : x.Matches F C y)
    (hrest : Run.Matches S F Eq (c.rounds n fuel) (d.rounds n fuel)) :
    Run.Matches S F Eq (c.follow n fuel x) (d.follow n fuel y) := by
  cases hxy with
  | finish v => exact .pure rfl
  | fail he => exact .raise he
  | @wait x y hxy =>
    have hpause : Run.Matches S F Eq
        (c.poller.pause c.host c.operation c.profile c.deadline n x)
        (d.poller.pause d.host d.operation d.profile d.deadline n y) :=
      .of_step (pause_apply n x) (pause_apply n y) fun _ _ hw => ⟨rfl, h.paused hS hxy hw⟩
    refine hpause.bind fun _ _ _ => ?_
    have hnow : Run.Matches S F Eq (Run.now c.host) (Run.now d.host) := by
      rw [h.host]
      exact Run.matches_now hS c.host
    refine hnow.bind ?_
    rintro now _ rfl
    rw [h.deadline]
    cases c.deadline.isExpired now with
    | true =>
      have hexpire := h.expire (n := n) hS hxy (V := Eq)
      rw [h.deadline] at hexpire
      exact hexpire
    | false => exact hrest

/-- **The loops keep step.** -/
theorem rounds (fuel : Nat) : Run.Matches S F Eq (c.rounds n fuel) (d.rounds n fuel) := by
  induction fuel generalizing n with
  | zero => exact .giveUp
  | succ fuel ih =>
    rw [rounds_succ, rounds_succ]
    refine (Run.matches_note (hS.routine ⟨rfl, rfl⟩)).bind fun _ _ _ =>
      h.answers.bind fun x y hxy => ?_
    have hlog : Run.Matches S F Eq (Run.logAll (c.judged (n + 1) x).1)
        (Run.logAll (d.judged (n + 1) y).1) :=
      .of_step (Run.logAll_apply _) (Run.logAll_apply _) fun _ _ hw => ⟨rfl, h.reported hxy hw⟩
    exact hlog.bind fun _ _ _ => h.follow hS (h.verdict hxy) ih

end InStep

omit [Quantity τ] in
theorem noticedBy_congr (hS : World.IsCongruence S) {w v : World τ ω} (hw : S w v)
    (p : Poller τ ω) (n : Nat) (x : Condition τ) (delay : τ) :
    S (w.noticedBy p n x delay) (v.noticedBy p n x delay) := by
  rw [World.noticedBy, World.noticedBy]
  cases p.notify with
  | none => exact hw
  | some f =>
    simp only [← hS.outside hw]
    exact hS.acted (hS.routine ⟨rfl, rfl⟩ hw) _

/-- A polling run keeps step with itself, if its action does. -/
theorem InStep.self (hS : World.IsCongruence S) (h : Run.Matches S Eq Eq c.action c.action) :
    InStep S Eq (Agree Eq Eq) Eq c c where
  host := rfl
  deadline := rfl
  interval := rfl
  answers := h.catching
  verdict {n x y} hxy := by
    rw [hxy.eq]
    cases (c.judged n y).2 with
    | finish v => exact .finish v
    | fail e => exact .fail rfl
    | wait x => exact .wait rfl
  reported hxy _ _ hw := by
    rw [hxy.eq]
    exact World.loggedAll_of_keeps (fun e he => hS.routine (Poll.isRoutine_judge e he)) hw
  pending hxy _ _ _ hw := by
    rw [hxy]
    exact hS.routine ⟨rfl, rfl⟩ hw
  noticed hxy _ _ _ hw := by
    rw [hxy]
    exact noticedBy_congr hS hw _ _ _ _
  late hxy _ _ hw := by
    rw [hxy]
    exact hS.routine ⟨rfl, rfl⟩ hw
  expiry hxy _ := by rw [hxy]

end Polling

/-! ### Whole runs -/

namespace Poller

variable [Quantity τ] {S : World τ ω → World τ ω → Prop} {F : Fault τ → Fault τ → Prop}
  {A : Except (Fault τ) (Reply α) → Except (Fault τ) (Reply α) → Prop}
  {C : Condition τ → Condition τ → Prop} {host : Host τ ω} {p q : Poller τ ω} {how how' : Poll τ}
  {profile profile' : Profile τ} {action action' : Run τ ω (Reply α)}

/-- **Runs keep step**, whenever they begin. -/
theorem runCounting_matches (hS : World.IsCongruence S) (hp : how.profile = some profile)
    (hp' : how'.profile = some profile')
    (h : ∀ start, (p.polling host how profile action start).InStep S F A C
      (q.polling host how' profile' action' start)) :
    Run.Matches S F Eq (p.runCounting host how action) (q.runCounting host how' action') := by
  unfold runCounting
  rw [hp, hp']
  refine (Run.matches_now hS host).bind ?_
  rintro start _ rfl
  exact (h start).rounds hS host.patience

theorem run_matches (hS : World.IsCongruence S) (hp : how.profile = some profile)
    (hp' : how'.profile = some profile')
    (h : ∀ start, (p.polling host how profile action start).InStep S F A C
      (q.polling host how' profile' action' start)) :
    Run.Matches S F Eq (p.run host how action) (q.run host how' action') := by
  refine (runCounting_matches hS hp hp' h).bind ?_
  rintro x _ rfl
  exact .pure rfl

/-- A run keeps step with itself, if its action does. -/
theorem runCounting_matches_self (hS : World.IsCongruence S)
    (h : Run.Matches S Eq Eq action action) :
    Run.Matches S Eq Eq (p.runCounting host how action) (p.runCounting host how action) := by
  cases hp : how.profile with
  | none =>
    unfold runCounting
    rw [hp]
    exact .raise rfl
  | some profile => exact runCounting_matches hS hp hp fun _ => .self hS h

theorem call_matches_self (hS : World.IsCongruence S) {f : Run τ ω α}
    (h : Run.Matches S Eq Eq f f) :
    Run.Matches S Eq Eq (p.call host how f) (p.call host how f) := by
  have hattempt : Run.Matches S Eq Eq (attempt f) (attempt f) := by
    refine h.bind ?_
    rintro v _ rfl
    exact .pure rfl
  refine (runCounting_matches_self hS hattempt).bind ?_
  rintro x _ rfl
  exact .pure rfl

end Poller

end Settle
