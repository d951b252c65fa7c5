import Settle.Poll.Poller
import Settle.Proofs.Run.Ends

/-!
# The course of a polling run

A polling run is a number of rounds of waiting, followed by one last round. `Polling` holds
what stays fixed during the run; `Polling.Waited` is one round of waiting, `Polling.Course`
several of them in a row, and `Polling.Last` the round that ends the run, by a verdict on the
last answer or because the deadline has passed.

Which answers leave the run waiting is said by `Poll.Waits`, and `judge_eq_wait_iff` ties it
to the verdict.

Main statements: `rounds_ends_iff` says that the loop ends just as a course followed by a last
round does, if the patience of the host is enough for it, and `runCounting_ends_iff` and
`run_ends_iff` say so of a whole run; `run_ends_iff_of_course` says that a run passes through every
course, whether it ends or not. A call that is retried is the run of the attempts at it (`call_eq`).
-/

namespace Settle

variable {τ ω α : Type}

/-! ### Answers that leave a run waiting -/

namespace Poll

/-- An answer leaves a polling run waiting, and this is the condition it waits for: the action
is pending, or it raised a fault that is transient, or one that means absence where absence is
retried. -/
inductive Waits (policy : NotFoundPolicy) (classify : Classifier τ) :
    Except (Fault τ) (Reply α) → Condition τ → Prop
  | pending (reason : Value) : Waits policy classify (.ok (.pending reason)) (.reason reason)
  | transient {e : Fault τ} (h : classOf classify e = .ok (some .transient)) :
      Waits policy classify (.error e) (.fault e)
  | absent {e : Fault τ} (h : classOf classify e = .ok (some .notFound))
      (hp : policy = .retry) : Waits policy classify (.error e) (.fault e)

variable {policy : NotFoundPolicy} {classify : Classifier τ} {operation : String} {n : Nat}
  {x : Except (Fault τ) (Reply α)} {condition : Condition τ}

theorem judge_of_waits (h : Waits policy classify x condition) :
    judge policy classify operation n x = ([], .wait condition) := by
  cases h with
  | pending reason => rfl
  | transient h => simp only [judge, judgeFault, h]
  | absent h hp => simp only [judge, judgeFault, h, hp]

theorem judge_eq_wait_iff :
    (judge policy classify operation n x).2 = .wait condition ↔
      Waits policy classify x condition := by
  constructor
  · intro h
    match x with
    | .ok (.done v) => cases h
    | .ok (.other k) => cases h
    | .ok (.pending reason) =>
      cases h
      exact .pending reason
    | .error e =>
      have hc : condition = .fault e := by
        simp only [judge, judgeFault] at h
        split at h
        · cases h
        · cases h
        · exact (Verdict.wait.inj h).symm
        · cases h
        · cases policy
          · cases h
          · cases h
          · exact (Verdict.wait.inj h).symm
      subst hc
      rcases (judge_waits_iff policy classify operation n e).mp h with hc | ⟨hc, hp⟩
      · exact .transient hc
      · exact .absent hc hp
  · intro h
    rw [judge_of_waits h]

end Poll

/-! ### Polling runs -/

/-- What stays fixed during a polling run. -/
structure Polling (τ ω α : Type) where
  host : Host τ ω
  poller : Poller τ ω
  action : Run τ ω (Reply α)
  operation : String
  profile : Profile τ
  classify : Classifier τ
  policy : NotFoundPolicy
  deadline : Deadline τ

/-- The polling run that a poller sets up for an action. -/
def Poller.polling [Quantity τ] (host : Host τ ω) (p : Poller τ ω) (how : Poll τ)
    (profile : Profile τ) (action : Run τ ω (Reply α)) (start : τ) : Polling τ ω α where
  host := host
  poller := p
  action := action
  operation := Poll.operationName how.operation how.name "operation"
  profile := profile
  classify := how.classifier.getD p.classifier
  policy := how.policy
  deadline := .opened (.text (Poll.operationName how.operation how.name "operation"))
    profile.deadline start

namespace World

/-- The world after a poller has told of the sleep that comes. -/
def noticedBy (w : World τ ω) (p : Poller τ ω) (attempts : Nat) (condition : Condition τ)
    (delay : τ) : World τ ω :=
  match p.notify with
  | none => w
  | some f =>
    { w.noted (.noticed attempts condition delay) with
      outside := f attempts condition delay w.outside }

end World

theorem Poller.notice_apply [Quantity τ] (p : Poller τ ω) (n : Nat) (condition : Condition τ)
    (delay : τ) (w : World τ ω) :
    p.notice n condition delay w = .returned () (w.noticedBy p n condition delay) := by
  rw [Poller.notice, World.noticedBy]
  cases p.notify <;> rfl

namespace Polling

variable [Quantity τ] {c : Polling τ ω α}

/-- The rounds of the run. -/
def rounds (c : Polling τ ω α) (attempts fuel : Nat) : Run τ ω (Option α × Nat) :=
  c.poller.rounds c.host c.action c.operation c.profile c.classify c.policy c.deadline attempts
    fuel

/-- The world after the pause that follows an attempt. The clock is read, and there is a sleep
only if time is left. -/
def paused (c : Polling τ ω α) (attempts : Nat) (condition : Condition τ) (w : World τ ω) :
    World τ ω :=
  let remaining := c.deadline.remaining (c.host.reading w.outside)
  let w := w.readBy c.host
  if Quantity.zero < remaining then
    let delay := Quantity.least c.profile.interval remaining
    let w := w.logged (.retryPending c.operation attempts condition.text delay)
    (w.noticedBy c.poller attempts condition delay).sleptBy c.host delay
  else w

theorem paused_of_lt {n : Nat} {condition : Condition τ} {w : World τ ω}
    (h : Quantity.zero < c.deadline.remaining (c.host.reading w.outside)) :
    let delay :=
      Quantity.least c.profile.interval (c.deadline.remaining (c.host.reading w.outside))
    c.paused n condition w =
      (((w.readBy c.host).logged
        (.retryPending c.operation n condition.text delay)).noticedBy
          c.poller n condition delay).sleptBy c.host delay := if_pos h

theorem paused_of_not_lt {n : Nat} {condition : Condition τ} {w : World τ ω}
    (h : ¬ Quantity.zero < c.deadline.remaining (c.host.reading w.outside)) :
    c.paused n condition w = w.readBy c.host := if_neg h

theorem pause_apply (n : Nat) (condition : Condition τ) (w : World τ ω) :
    c.poller.pause c.host c.operation c.profile c.deadline n condition w =
      .returned () (c.paused n condition w) := by
  rw [Poller.pause, ← Run.ends_ok_iff, Run.ends_now_bind]
  by_cases h : Quantity.zero < c.deadline.remaining (c.host.reading w.outside)
  · rw [if_pos h, Run.ends_log_bind, Run.ends_step_bind (Poller.notice_apply ..),
      Run.ends_sleep]
    exact ⟨rfl, paused_of_lt h⟩
  · rw [if_neg h, Run.ends_pure]
    exact ⟨rfl, paused_of_not_lt h⟩

/-- One round of waiting after `n` attempts: the answer leaves the run waiting, and after the
pause there is time for another round. -/
def Waited (c : Polling τ ω α) (n : Nat) (w w' : World τ ω) : Prop :=
  ∃ x condition w₁, c.action.Ends (w.noted .attempted) x w₁ ∧
    Poll.Waits c.policy c.classify x condition ∧
    c.deadline.isExpired (c.host.reading (c.paused (n + 1) condition w₁).outside) = false ∧
    w' = (c.paused (n + 1) condition w₁).readBy c.host

/-- Several rounds of waiting in a row, with the attempts made before and after them. -/
inductive Course (c : Polling τ ω α) : Nat → World τ ω → Nat → World τ ω → Prop
  | nil (n : Nat) (w : World τ ω) : Course c n w n w
  | cons {n m : Nat} {w w₁ w' : World τ ω} (first : c.Waited n w w₁)
      (rest : Course c (n + 1) w₁ m w') : Course c n w m w'

/-- The world in which a run ends that is out of time. -/
def expired (c : Polling τ ω α) (attempts : Nat) (condition : Condition τ) (w : World τ ω) :
    World τ ω :=
  (w.logged (.retryExpired c.operation c.profile.name attempts condition.text)).readBy c.host

/-- The fault of a run that is out of time. -/
def expiry (c : Polling τ ω α) (attempts : Nat) (condition : Condition τ) (elapsed : τ) :
    Fault τ :=
  .deadlineExceeded (.text c.operation) c.profile.deadline elapsed (.int attempts) condition
    (Poller.expiryContext c.operation condition)

/-- How a verdict on the last attempt ends the run, in the world that the attempt left. -/
def Concludes (c : Polling τ ω α) (attempts : Nat) (w : World τ ω)
    (r : Except (Fault τ) (Option α × Nat)) (w' : World τ ω) : Poll.Verdict τ α → Prop
  | .finish v => r = .ok (v, attempts) ∧ w' = w
  | .fail e => r = .error e ∧ w' = w
  | .wait condition =>
    let w₁ := c.paused attempts condition w
    c.deadline.isExpired (c.host.reading w₁.outside) = true ∧
      r = .error (c.expiry attempts condition
        (c.deadline.elapsed (c.host.reading (w₁.readBy c.host).outside))) ∧
      w' = c.expired attempts condition (w₁.readBy c.host)

/-- The last round, after `n` attempts: the answer `x` of the attempt ends the run, or there is
no time for another round. -/
def LastWith (c : Polling τ ω α) (n : Nat) (w : World τ ω) (x : Except (Fault τ) (Reply α))
    (w₁ : World τ ω) (r : Except (Fault τ) (Option α × Nat)) (w' : World τ ω) : Prop :=
  c.action.Ends (w.noted .attempted) x w₁ ∧
    c.Concludes (n + 1)
      (w₁.loggedAll (Poll.judge c.policy c.classify c.operation (n + 1) x).1) r w'
      (Poll.judge c.policy c.classify c.operation (n + 1) x).2

/-- The last round of a run. -/
def Last (c : Polling τ ω α) (n : Nat) (w : World τ ω) (r : Except (Fault τ) (Option α × Nat))
    (w' : World τ ω) : Prop := ∃ x w₁, c.LastWith n w x w₁ r w'

/-! ### The loop as a course -/

theorem expire_apply (n : Nat) (condition : Condition τ) (w : World τ ω) :
    (Poller.expire c.host c.operation c.profile c.deadline n condition :
        Run τ ω (Option α × Nat)) w =
      .raised (c.expiry n condition (c.deadline.elapsed (c.host.reading w.outside)))
        (c.expired n condition w) := rfl

/-- What follows a verdict: the end of the run, or a pause and the other rounds. -/
def follow (c : Polling τ ω α) (attempts fuel : Nat) :
    Poll.Verdict τ α → Run τ ω (Option α × Nat)
  | .finish value => pure (value, attempts)
  | .fail e => Run.raise e
  | .wait condition => do
    c.poller.pause c.host c.operation c.profile c.deadline attempts condition
    if c.deadline.isExpired (← Run.now c.host) then
      Poller.expire c.host c.operation c.profile c.deadline attempts condition
    else c.rounds attempts fuel

variable {n fuel : Nat} {w w' : World τ ω} {r : Except (Fault τ) (Option α × Nat)}

/-- A round makes an attempt, reports what its verdict says, and does what follows from it. -/
theorem rounds_succ_ends_iff_follow :
    (c.rounds n (fuel + 1)).Ends w r w' ↔
      ∃ x w₁, c.action.Ends (w.noted .attempted) x w₁ ∧
        (c.follow (n + 1) fuel (Poll.judge c.policy c.classify c.operation (n + 1) x).2).Ends
          (w₁.loggedAll (Poll.judge c.policy c.classify c.operation (n + 1) x).1) r w' := by
  rw [rounds, Poller.rounds, Run.ends_note_bind, Run.ends_catching_bind]
  simp only [Run.ends_logAll_bind]
  exact Iff.rfl

/-- A verdict ends the run, or it waits and there is time for the other rounds. -/
theorem follow_ends_iff {verdict : Poll.Verdict τ α} :
    (c.follow n fuel verdict).Ends w r w' ↔
      c.Concludes n w r w' verdict ∨
        ∃ condition, verdict = .wait condition ∧
          c.deadline.isExpired (c.host.reading (c.paused n condition w).outside) = false ∧
          (c.rounds n fuel).Ends ((c.paused n condition w).readBy c.host) r w' := by
  cases verdict with
  | finish v => simp [follow, Concludes]
  | fail e => simp [follow, Concludes]
  | wait condition =>
    rw [follow, Run.ends_step_bind (pause_apply n condition w), Run.ends_now_bind]
    simp only [Concludes, Poll.Verdict.wait.injEq, exists_eq_left']
    cases c.deadline.isExpired (c.host.reading (c.paused n condition w).outside) with
    | true =>
      simp only [if_true, true_and, Bool.true_eq_false, false_and, or_false]
      rw [Run.Ends, expire_apply]
      cases r <;> simp [Ending.of, eq_comm]
    | false => simp

/-- A round is the last one, or a round of waiting that the other rounds follow. -/
theorem rounds_succ_ends_iff :
    (c.rounds n (fuel + 1)).Ends w r w' ↔
      c.Last n w r w' ∨ ∃ w₁, c.Waited n w w₁ ∧ (c.rounds (n + 1) fuel).Ends w₁ r w' := by
  simp only [rounds_succ_ends_iff_follow, follow_ends_iff]
  constructor
  · rintro ⟨x, w₁, hx, hl | ⟨condition, hj, he, hr⟩⟩
    · exact .inl ⟨x, w₁, hx, hl⟩
    · -- nothing is reported where the verdict is to wait
      have hw := Poll.judge_eq_wait_iff.mp hj
      rw [Poll.judge_of_waits hw] at he hr
      exact .inr ⟨_, ⟨x, condition, w₁, hx, hw, he, rfl⟩, hr⟩
  · rintro (⟨x, w₁, hx, hl⟩ | ⟨_, ⟨x, condition, w₁, hx, hw, he, rfl⟩, hr⟩)
    · exact ⟨x, w₁, hx, .inl hl⟩
    · refine ⟨x, w₁, hx, .inr ⟨condition, ?_⟩⟩
      rw [Poll.judge_of_waits hw]
      exact ⟨rfl, he, hr⟩

/-- After an attempt the run ends, or there is time for another round. -/
theorem last_or_waited {x : Except (Fault τ) (Reply α)} {w₁ : World τ ω}
    (hx : c.action.Ends (w.noted .attempted) x w₁) :
    (∃ r w', c.Last n w r w') ∨ ∃ w', c.Waited n w w' := by
  have hlast {r : Except (Fault τ) (Option α × Nat)} {w' : World τ ω}
      (h : c.Concludes (n + 1)
        (w₁.loggedAll (Poll.judge c.policy c.classify c.operation (n + 1) x).1) r w'
        (Poll.judge c.policy c.classify c.operation (n + 1) x).2) : c.Last n w r w' :=
    ⟨x, w₁, hx, h⟩
  cases hv : (Poll.judge c.policy c.classify c.operation (n + 1) x).2 with
  | finish v =>
    rw [hv] at hlast
    exact .inl ⟨_, _, hlast ⟨rfl, rfl⟩⟩
  | fail e =>
    rw [hv] at hlast
    exact .inl ⟨_, _, hlast ⟨rfl, rfl⟩⟩
  | wait condition =>
    have hw := Poll.judge_eq_wait_iff.mp hv
    rw [Poll.judge_of_waits hw] at hlast
    cases he : c.deadline.isExpired (c.host.reading (c.paused (n + 1) condition w₁).outside) with
    | true => exact .inl ⟨_, _, hlast ⟨he, rfl, rfl⟩⟩
    | false => exact .inr ⟨_, x, condition, w₁, hx, hw, he, rfl⟩

theorem Course.le {n m : Nat} {w w' : World τ ω} (h : c.Course n w m w') : n ≤ m := by
  induction h with
  | nil => exact Nat.le_refl _
  | cons _ _ ih => omega

/-- A course can be prolonged by a round of waiting. -/
theorem Course.snoc {n m : Nat} {w w₁ w' : World τ ω} (h : c.Course n w m w₁)
    (last : c.Waited m w₁ w') : c.Course n w (m + 1) w' := by
  induction h with
  | nil n w => exact .cons last (.nil _ _)
  | cons first _ ih => exact .cons first (ih last)

/-- If every call of the action comes to an end and courses are of bounded length, then one of them
comes to a last round. -/
theorem exists_course_last (hcalls : ∀ w, ∃ x w', c.action.Ends w x w') {n bound : Nat}
    {w : World τ ω} (hbound : ∀ m w', c.Course n w m w' → m < n + bound) :
    ∃ m w₁ r w', c.Course n w m w₁ ∧ c.Last m w₁ r w' := by
  induction bound generalizing n w with
  | zero => exact absurd (hbound n w (.nil n w)) (Nat.lt_irrefl n)
  | succ bound ih =>
    obtain ⟨x, w₂, hx⟩ := hcalls (w.noted .attempted)
    rcases last_or_waited (n := n) hx with ⟨r, w', hlast⟩ | ⟨w₁, hwaited⟩
    · exact ⟨n, w, r, w', .nil n w, hlast⟩
    · have hrest (m : Nat) (w' : World τ ω) (h : c.Course (n + 1) w₁ m w') :
          m < n + 1 + bound := by
        have := hbound m w' (.cons hwaited h)
        omega
      obtain ⟨m, w₂, r, w', hcourse, hlast⟩ := ih hrest
      exact ⟨m, w₂, r, w', .cons hwaited hcourse, hlast⟩

/-- **The loop.** It ends as a course and a last round do that it has patience for. -/
theorem rounds_ends_iff {n fuel : Nat} {w w' : World τ ω}
    {r : Except (Fault τ) (Option α × Nat)} :
    (c.rounds n fuel).Ends w r w' ↔
      ∃ m w₁, m < n + fuel ∧ c.Course n w m w₁ ∧ c.Last m w₁ r w' := by
  induction fuel generalizing n w with
  | zero =>
    constructor
    · intro h
      exact absurd h Run.not_ends_giveUp
    · rintro ⟨m, w₁, hm, hc, -⟩
      have := hc.le
      omega
  | succ fuel ih =>
    rw [rounds_succ_ends_iff]
    constructor
    · rintro (hl | ⟨w₁, hw, hr⟩)
      · exact ⟨n, w, by omega, .nil n w, hl⟩
      · obtain ⟨m, w₂, hm, hc, hl⟩ := ih.mp hr
        exact ⟨m, w₂, by omega, .cons hw hc, hl⟩
    · rintro ⟨m, w₁, hm, hc, hl⟩
      cases hc with
      | nil => exact .inl hl
      | cons first rest => exact .inr ⟨_, first, ih.mpr ⟨m, w₁, by omega, rest, hl⟩⟩

/-- After a round of waiting the loop goes on with the other rounds. -/
theorem Waited.rounds_ends_iff {w₁ : World τ ω} (h : c.Waited n w w₁) :
    (c.rounds n (fuel + 1)).Ends w r w' ↔ (c.rounds (n + 1) fuel).Ends w₁ r w' := by
  obtain ⟨x, condition, w₂, hx, hw, he, rfl⟩ := h
  have hfollow : (c.follow (n + 1) fuel (.wait condition)).Ends w₂ r w' ↔
      (c.rounds (n + 1) fuel).Ends ((c.paused (n + 1) condition w₂).readBy c.host) r w' := by
    rw [follow, Run.ends_step_bind (pause_apply (n + 1) condition w₂), Run.ends_now_bind, he]
    exact Iff.rfl
  rw [rounds_succ_ends_iff_follow, ← hfollow]
  constructor
  · rintro ⟨x', w₂', hx', hr⟩
    obtain ⟨rfl, rfl⟩ := hx.unique hx'
    rwa [Poll.judge_of_waits hw] at hr
  · intro hr
    refine ⟨x, w₂, hx, ?_⟩
    rwa [Poll.judge_of_waits hw]

/-- **The loop passes through every course** that it has patience for. -/
theorem Course.rounds_ends_iff {m : Nat} {w₁ : World τ ω} (h : c.Course n w m w₁)
    (hm : m ≤ n + fuel) :
    (c.rounds n fuel).Ends w r w' ↔ (c.rounds m (n + fuel - m)).Ends w₁ r w' := by
  induction h generalizing fuel with
  | nil n w => rw [Nat.add_sub_cancel_left]
  | @cons n m w w₂ w₁ first rest ih =>
    have hle := rest.le
    obtain ⟨fuel, rfl⟩ : ∃ k, fuel = k + 1 := Nat.exists_eq_add_of_le' (by omega : 1 ≤ fuel)
    have hsum : n + 1 + fuel = n + (fuel + 1) := by omega
    rw [first.rounds_ends_iff, ih (by omega), hsum]

end Polling

/-! ### Whole runs -/

namespace Poller

variable [Quantity τ] {host : Host τ ω} {p : Poller τ ω} {how : Poll τ} {profile : Profile τ}
  {action : Run τ ω (Reply α)} {w w' : World τ ω}

/-- A run reads the clock once and goes through its rounds. -/
theorem runCounting_ends_iff_rounds (hp : how.profile = some profile)
    {r : Except (Fault τ) (Option α × Nat)} :
    (p.runCounting host how action).Ends w r w' ↔
      ((p.polling host how profile action (host.reading w.outside)).rounds 0 host.patience).Ends
        (w.readBy host) r w' := by
  simp only [runCounting, hp, Run.ends_now_bind]
  exact Iff.rfl

theorem runCounting_ends_iff (hp : how.profile = some profile)
    {r : Except (Fault τ) (Option α × Nat)} :
    (p.runCounting host how action).Ends w r w' ↔
      let c := p.polling host how profile action (host.reading w.outside)
      ∃ m w₁, m < host.patience ∧ c.Course 0 (w.readBy host) m w₁ ∧ c.Last m w₁ r w' := by
  rw [runCounting_ends_iff_rounds hp, Polling.rounds_ends_iff, Nat.zero_add]

/-- The value of a run without the number of attempts. -/
theorem run_ends_iff {r : Except (Fault τ) (Option α)} :
    (p.run host how action).Ends w r w' ↔
      ∃ x, (p.runCounting host how action).Ends w x w' ∧ r = x.map Prod.fst := by
  simp only [run, Run.ends_bind]
  constructor
  · rintro (⟨⟨v, n⟩, w₁, h, hr⟩ | ⟨e, h, rfl⟩)
    · obtain ⟨rfl, rfl⟩ := Run.ends_pure.mp hr
      exact ⟨.ok (v, n), h, rfl⟩
    · exact ⟨.error e, h, rfl⟩
  · rintro ⟨x, h, rfl⟩
    cases x with
    | ok vn => exact .inl ⟨vn, w', h, Run.ends_pure.mpr ⟨rfl, rfl⟩⟩
    | error e => exact .inr ⟨e, h, rfl⟩

/-- A run passes through every course that it has patience for. -/
theorem run_ends_iff_of_course {w₁ : World τ ω} {n : Nat} (hp : how.profile = some profile)
    (hn : n ≤ host.patience)
    (hcourse : (p.polling host how profile action (host.reading w.outside)).Course 0
      (w.readBy host) n w₁) {r : Except (Fault τ) (Option α)} :
    (p.run host how action).Ends w r w' ↔
      ∃ s, ((p.polling host how profile action (host.reading w.outside)).rounds n
        (host.patience - n)).Ends w₁ s w' ∧ r = s.map Prod.fst := by
  have hle : n ≤ 0 + host.patience := Nat.le_trans hn (Nat.le_add_left _ _)
  simp only [run_ends_iff, runCounting_ends_iff_rounds hp, hcourse.rounds_ends_iff hle,
    Nat.zero_add]

/-- A verdict that does not wait ends the run, if it comes within the patience of the host. Nothing
happens any more but that the verdict is reported. -/
theorem run_ends_of_course {w₁ w₂ : World τ ω} {n : Nat} {x : Except (Fault τ) (Reply α)}
    (hp : how.profile = some profile) (hn : n < host.patience)
    (hcourse : (p.polling host how profile action (host.reading w.outside)).Course 0
      (w.readBy host) n w₁) (hx : action.Ends (w₁.noted .attempted) x w₂) :
    let c := p.polling host how profile action (host.reading w.outside)
    let judged := Poll.judge c.policy c.classify c.operation (n + 1) x
    (∀ v, judged.2 = .finish v →
      (p.run host how action).Ends w (.ok v) (w₂.loggedAll judged.1)) ∧
      ∀ f, judged.2 = .fail f →
        (p.run host how action).Ends w (.error f) (w₂.loggedAll judged.1) := by
  intro c judged
  have hrun {s : Except (Fault τ) (Option α × Nat)} {w' : World τ ω}
      (h : c.Concludes (n + 1) (w₂.loggedAll judged.1) s w' judged.2) :
      (p.run host how action).Ends w (s.map Prod.fst) w' :=
    run_ends_iff.mpr
      ⟨s, (runCounting_ends_iff hp).mpr ⟨n, w₁, hn, hcourse, x, w₂, hx, h⟩, rfl⟩
  constructor
  · intro v hv
    rw [hv] at hrun
    exact hrun ⟨rfl, rfl⟩
  · intro f hf
    rw [hf] at hrun
    exact hrun ⟨rfl, rfl⟩

/-! ### Calls that are retried -/

/-- An attempt at a call is done as soon as the call returns. -/
def attempt (f : Run τ ω α) : Run τ ω (Reply α) := do
  let value ← f
  pure (.done value)

omit [Quantity τ] in
theorem attempt_ends_iff {f : Run τ ω α} {x : Except (Fault τ) (Reply α)} :
    (attempt f).Ends w x w' ↔ ∃ y, f.Ends w y w' ∧ x = y.map .done := by
  simp only [attempt, Run.ends_bind]
  constructor
  · rintro (⟨v, w₁, h, hx⟩ | ⟨e, h, rfl⟩)
    · obtain ⟨rfl, rfl⟩ := Run.ends_pure.mp hx
      exact ⟨.ok v, h, rfl⟩
    · exact ⟨.error e, h, rfl⟩
  · rintro ⟨y, h, rfl⟩
    cases y with
    | ok v => exact .inl ⟨v, w', h, Run.ends_pure.mpr ⟨rfl, rfl⟩⟩
    | error e => exact .inr ⟨e, h, rfl⟩

/-- How the attempts at a call are polled. -/
def retries (how : Poll τ) : Poll τ :=
  { how with
    operation := some (Poll.operationName how.operation how.name "call"), name := some "attempt" }

/-- A call is retried by polling the attempts at it. -/
theorem call_eq (f : Run τ ω α) :
    p.call host how f = p.run host (retries how) (attempt f) := rfl

/-- A call that returns at first is not retried. -/
theorem call_ends_of_first {f : Run τ ω α} {v : α} (hp : how.profile = some profile)
    (hn : 0 < host.patience) (h : f.Ends ((w.readBy host).noted .attempted) (.ok v) w') :
    (p.call host how f).Ends w (.ok (some v)) w' := by
  have hattempt := attempt_ends_iff.mpr ⟨_, h, rfl⟩
  have hretries : (retries how).profile = some profile := hp
  have hcounting : (p.runCounting host (retries how) (attempt f)).Ends w (.ok (some v, 1)) w' :=
    (runCounting_ends_iff hretries).mpr
      ⟨0, w.readBy host, hn, .nil 0 _, _, w', hattempt, rfl, rfl⟩
  exact run_ends_iff.mpr ⟨_, hcounting, rfl⟩

end Poller

end Settle
