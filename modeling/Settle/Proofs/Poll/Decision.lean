import Settle.Proofs.Poll.Faults
import Settle.Proofs.Poll.Script

/-!
# The answer that decides a run

Every answer that a polling run takes leaves it waiting, but for the last, so the last one alone
decides how the run ends. Where the action answers by a script, the lines that a run takes are known
(`runCounting_takes_lines`, `run_takes_lines`). A run has a value iff its action was done with it in
the last attempt, and it ends without one iff that attempt raised a fault that means absence where
absence is accepted (`LastWith.eq_some_iff`, `LastWith.eq_none_iff`).

An action that raises structured faults only leaves no classifier anything to say
(`run_congr_of_structured`).
-/

namespace Settle

variable {τ ω α : Type}

/-! ### Runs without a value -/

/-- A run finishes without a value iff absence is accepted and a fault means it. -/
theorem Poll.judge_eq_finish_none_iff {policy : NotFoundPolicy} {classify : Classifier τ}
    {operation : String} {n : Nat} {x : Except (Fault τ) (Reply α)} :
    (judge policy classify operation n x).2 = .finish none ↔
      policy = .absent ∧ ∃ e, x = .error e ∧ classOf classify e = .ok (some .notFound) := by
  constructor
  · intro h
    rcases x with e | v | reason | kindName
    · simp only [judge, judgeFault] at h
      split at h
      · cases h
      · cases h
      · cases h
      · cases h
      · next hk =>
        cases policy with
        | absent => exact ⟨rfl, e, rfl, hk⟩
        | fatal => cases h
        | retry => cases h
    · cases h
    · cases h
    · cases h
  · rintro ⟨hp, e, rfl, hk⟩
    rw [judge_of_absent hk hp]

namespace Polling

variable [Quantity τ] {c : Polling τ ω α} {n : Nat} {w w₁ w' : World τ ω}
  {x : Except (Fault τ) (Reply α)} {s : Except (Fault τ) (Option α × Nat)}

/-- A run ends without a fault iff the verdict on its last answer finishes it. -/
theorem LastWith.ok_iff (h : c.LastWith n w x w₁ s w') {v : Option α} :
    s.map Prod.fst = .ok v ↔
      (Poll.judge c.policy c.classify c.operation (n + 1) x).2 = .finish v := by
  obtain ⟨-, h⟩ := h
  cases hv : (Poll.judge c.policy c.classify c.operation (n + 1) x).2 with
  | finish u =>
    rw [hv] at h
    obtain ⟨rfl, -⟩ := h
    simp [Except.map]
  | fail e =>
    rw [hv] at h
    obtain ⟨rfl, -⟩ := h
    simp [Except.map]
  | wait condition =>
    rw [hv] at h
    obtain ⟨-, rfl, -⟩ := h
    simp [Except.map]

/-- The value of a run is the one that its action was done with at last. -/
theorem LastWith.eq_some_iff (h : c.LastWith n w x w₁ s w') {v : α} :
    s.map Prod.fst = .ok (some v) ↔ x = .ok (.done v) :=
  h.ok_iff.trans Poll.judge_eq_finish_some_iff

/-- There is no value iff absence is accepted and the last attempt met with it. -/
theorem LastWith.eq_none_iff (h : c.LastWith n w x w₁ s w') :
    s.map Prod.fst = .ok none ↔
      c.policy = .absent ∧ ∃ e, x = .error e ∧ Poll.classOf c.classify e = .ok (some .notFound) :=
  h.ok_iff.trans Poll.judge_eq_finish_none_iff

end Polling

/-! ### The lines that a run takes -/

namespace Poller

variable [Quantity τ] {host : Host τ ω} {p : Poller τ ω} {how : Poll τ} {profile : Profile τ}
  {action : Run τ ω (Reply α)} {script : Nat → Except (Fault τ) (Reply α)} {position : ω → Nat}
  {call : Call} {w w' : World τ ω}

/-- **A run takes one line for each attempt.** All but the last leave it waiting, and the last round
is about the last line. -/
theorem runCounting_takes_lines (hp : how.profile = some profile)
    (hplays : ∀ start, (p.polling host how profile action start).Plays script position call)
    {s : Except (Fault τ) (Option α × Nat)} (h : (p.runCounting host how action).Ends w s w') :
    let c := p.polling host how profile action (host.reading w.outside)
    ∃ n, w'.calls = w.calls ++ List.replicate (n + 1) call ∧
      position w'.outside = position w.outside + (n + 1) ∧
      (∀ i < n, ∃ condition,
        Poll.Waits c.policy c.classify (script (position w.outside + i)) condition) ∧
      ∃ w₀ w₁, c.LastWith n w₀ (script (position w.outside + n)) w₁ s w' := by
  intro c
  obtain ⟨n, w₀, -, hcourse, hlast⟩ := (runCounting_ends_iff hp).mp h
  obtain ⟨hcalls, hpos, hwaits, w₁, hlast⟩ := hcourse.takes_lines_last (hplays _) hlast
  exact ⟨n, hcalls, hpos, hwaits, w₀, w₁, hlast⟩

theorem run_takes_lines (hp : how.profile = some profile)
    (hplays : ∀ start, (p.polling host how profile action start).Plays script position call)
    {r : Except (Fault τ) (Option α)} (h : (p.run host how action).Ends w r w') :
    let c := p.polling host how profile action (host.reading w.outside)
    ∃ n, w'.calls = w.calls ++ List.replicate (n + 1) call ∧
      position w'.outside = position w.outside + (n + 1) ∧
      (∀ i < n, ∃ condition,
        Poll.Waits c.policy c.classify (script (position w.outside + i)) condition) ∧
      ∃ w₀ w₁ s, c.LastWith n w₀ (script (position w.outside + n)) w₁ s w' ∧
        r = s.map Prod.fst := by
  intro c
  obtain ⟨s, hs, hr⟩ := run_ends_iff.mp h
  obtain ⟨n, hcalls, hpos, hwaits, w₀, w₁, hlast⟩ := runCounting_takes_lines hp hplays hs
  exact ⟨n, hcalls, hpos, hwaits, w₀, w₁, s, hlast, hr⟩

end Poller

/-! ### Actions that raise structured faults only -/

/-- Every fault that a run raises is structured. -/
def Run.RaisesStructured (m : Run τ ω α) : Prop :=
  ∀ ⦃w e w'⦄, m.Ends w (.error e) w' → e.isStructured = true

theorem Poller.attempt_raisesStructured {m : Run τ ω α} (h : m.RaisesStructured) :
    (attempt m).RaisesStructured := by
  intro w e w' hends
  obtain ⟨y, hy, he⟩ := attempt_ends_iff.mp hends
  cases y with
  | ok v => cases he
  | error f =>
    cases he
    exact h hy

/-- A structured fault is judged alike whatever the classifier says. -/
theorem Poll.judge_of_structured {policy : NotFoundPolicy} {classify classify' : Classifier τ}
    {operation : String} {n : Nat} {x : Except (Fault τ) (Reply α)}
    (h : ∀ e, x = .error e → e.isStructured = true) :
    judge policy classify operation n x = judge policy classify' operation n x := by
  rcases x with e | v | reason | kindName
  · have hclass : classOf classify e = classOf classify' e := by
      rw [classOf_of_structured (h e rfl), classOf_of_structured (h e rfl)]
    simp only [judge, judgeFault, hclass]
  · rfl
  · rfl
  · rfl

namespace Poller

variable [Quantity τ] {host : Host τ ω} {p q : Poller τ ω} {action : Run τ ω (Reply α)}

/-- What a poller does in a pause depends on its notices only. -/
theorem pause_congr (hpq : q.notify = p.notify) (operation : String) (profile : Profile τ)
    (d : Deadline τ) (n : Nat) (condition : Condition τ) :
    q.pause host operation profile d n condition =
      p.pause host operation profile d n condition := by
  simp only [pause, notice, hpq]

theorem rounds_congr_of_structured (host : Host τ ω) (hpq : q.notify = p.notify)
    (ha : action.RaisesStructured) (operation : String) (profile : Profile τ) (classify classify' : Classifier τ)
    (policy : NotFoundPolicy) (d : Deadline τ) (n fuel : Nat) :
    q.rounds host action operation profile classify' policy d n fuel =
      p.rounds host action operation profile classify policy d n fuel := by
  induction fuel generalizing n with
  | zero => rfl
  | succ fuel ih =>
    rw [rounds, rounds]
    refine congrArg _ (funext fun _ => Run.bind_congr_of_ends fun w x w' hx => ?_)
    -- what the action has answered is judged alike, and so the rounds go on alike
    obtain ⟨_, hanswer, ⟨⟩⟩ := Run.ends_catching.mp hx
    have hjudge : Poll.judge policy classify' operation (n + 1) x =
        Poll.judge policy classify operation (n + 1) x :=
      Poll.judge_of_structured fun e he => ha (he ▸ hanswer)
    simp only [hjudge, pause_congr hpq, ih]

/-- **No classifier has a say** in a run of an action that raises structured faults only. -/
theorem run_congr_of_structured (hpq : q.notify = p.notify) (ha : action.RaisesStructured)
    (how : Poll τ) : q.run host how action = p.run host how action := by
  have hcounting : q.runCounting host how action = p.runCounting host how action := by
    unfold runCounting
    cases how.profile with
    | none => rfl
    | some profile =>
      have hrounds := rounds_congr_of_structured host hpq ha
      simp only [hrounds _ _ (how.classifier.getD p.classifier)]
  unfold run
  rw [hcounting]

end Poller

end Settle
