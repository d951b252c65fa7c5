import Settle.Gateway.Invoker
import Settle.Proofs.Limiter.Lockstep
import Settle.Proofs.Poll.Faults
import Settle.Proofs.Poll.Lockstep
import Settle.Proofs.Poll.Window
import Settle.Proofs.Run.Outcomes

/-!
# Faults are classified once

A call through an invoker is classified by the invoker; a call that a poller makes itself is
classified by the poller. With the same classifier it comes to the same: the poller of an invoker
sees faults that are classified already, and has no say in them (`poll_classOf_failure`), and to
wrap a fault twice is to wrap it once (`Fault.Alike.wrap_wrap`).

So the two runs keep step, although the one waits for failures in another guise than the other
(`Guise`), and although they report them differently. They agree in what they do
(`World.SameDeeds`), which is all but what is logged and of which condition a callback is told.
What ends them is alike (`Fault.Alike`).

Main statement: `callWithRetry_matches`.
-/

namespace Settle

variable {τ ω : Type}

/-! ### Deeds -/

/-- What an entry is a record of, if it is more than a report. Of a notice the condition is left
out. -/
def Entry.deed? : Entry τ → Option (Entry τ)
  | .logged _ => none
  | .noticed attempt _ delay => some (.noticed attempt (.reason .null) delay)
  | x => some x

/-- Worlds in which the same was done, whatever was reported of it. -/
structure World.SameDeeds (w v : World τ ω) : Prop where
  outside : w.outside = v.outside
  limiters : w.limiters = v.limiters
  deeds : w.seen Entry.deed? = v.seen Entry.deed?

namespace World.SameDeeds

theorem refl (w : World τ ω) : SameDeeds w w := ⟨rfl, rfl, rfl⟩

variable {w v : World τ ω}

/-- Entries of the same deed make no difference, and neither do entries of none. -/
theorem noted (h : SameDeeds w v) {x y : Entry τ} (hxy : x.deed? = y.deed?) :
    SameDeeds (w.noted x) (v.noted y) where
  outside := h.outside
  limiters := h.limiters
  deeds := by rw [seen_noted, seen_noted, h.deeds, hxy]

theorem loggedAll (h : SameDeeds w v) (es fs : List (Event τ)) :
    SameDeeds (w.loggedAll es) (v.loggedAll fs) where
  outside := by rw [outside_loggedAll, outside_loggedAll, h.outside]
  limiters := by rw [limiters_loggedAll, limiters_loggedAll, h.limiters]
  deeds := by
    rw [seen_loggedAll _ _ fun _ => rfl, seen_loggedAll _ _ fun _ => rfl, h.deeds]

theorem isCongruence : IsCongruence (SameDeeds (τ := τ) (ω := ω)) where
  outside h := h.outside
  limiters h := h.limiters
  routine _ _ _ h := h.noted rfl
  acted h _ := ⟨rfl, h.limiters, h.deeds⟩
  kept h _ := ⟨h.outside, rfl, h.deeds⟩

end World.SameDeeds

/-- Two pollers tell of their sleeps alike: neither has a callback, or what the callbacks do to the
outside is the same, and does not depend on the condition that they are told of. -/
def Poller.TellsLike (p q : Poller τ ω) : Prop :=
  match p.notify, q.notify with
  | none, none => True
  | some f, some g => ∀ n x y delay o, f n x delay o = g n y delay o
  | _, _ => False

theorem World.SameDeeds.noticedBy {p q : Poller τ ω} (hpq : p.TellsLike q) {w v : World τ ω}
    (h : SameDeeds w v) (n : Nat) (x y : Condition τ) (delay : τ) :
    SameDeeds (w.noticedBy p n x delay) (v.noticedBy q n y delay) := by
  rw [Poller.TellsLike] at hpq
  rw [World.noticedBy, World.noticedBy]
  cases hp : p.notify with
  | none =>
    cases hq : q.notify with
    | none => exact h
    | some g =>
      rw [hp, hq] at hpq
      exact hpq.elim
  | some f =>
    cases hq : q.notify with
    | none =>
      rw [hp, hq] at hpq
      exact hpq.elim
    | some g =>
      rw [hp, hq] at hpq
      have hnoted : SameDeeds (w.noted (.noticed n x delay)) (v.noted (.noticed n y delay)) :=
        h.noted rfl
      refine ⟨?_, hnoted.limiters, hnoted.deeds⟩
      simp only [h.outside, hpq n x y delay]

/-! ### Faults that are alike -/

/-- What ends two runs of an operation is alike: structured faults of the same kind, message and
cause, or the passing of the deadline, after the same time and as many attempts. -/
inductive Fault.Alike (operation : String) (e f : Fault τ) : Prop
  | same (structured : e.isStructured = true) (kind : f.kind? = e.kind?)
      (message : f.message? = e.message?) (cause : f.cause? = e.cause?)
  | late {deadline elapsed : τ} {attempts last last' : Value}
      (kind : e.kind? =
        some (.deadlineExceeded (.text operation) deadline elapsed attempts last))
      (kind' : f.kind? =
        some (.deadlineExceeded (.text operation) deadline elapsed attempts last'))

namespace Fault.Alike

variable {operation : String} {e f : Fault τ}

/-- Faults that are alike have the same class. -/
theorem errorClass (h : Alike operation e f) : f.errorClass = e.errorClass := by
  cases h with
  | same structured kind message cause => rw [Fault.errorClass, Fault.errorClass, kind]
  | late kind kind' =>
    rw [Fault.errorClass, Fault.errorClass, kind, kind']
    rfl

/-- Filling in the context of a fault leaves it alike. -/
theorem fill (h : e.isStructured = true) (es : List (String × Value)) :
    Alike operation (e.fill es) e := by
  cases e with
  | structured s k m c cause origin => exact .same rfl rfl rfl rfl
  | _ => cases h

/-- **To wrap a fault twice** is to wrap it once, in the class that it gets first. -/
theorem wrap_wrap (e : Fault τ) (k k' : ErrorClass) (s s' s'' : Option Nat)
    (es es' es'' : List (String × Value)) :
    Alike operation ((e.wrap s k es).wrap s' k' es') (e.wrap s'' k es'') := by
  cases e with
  | plain s k m => exact .same rfl rfl rfl rfl
  | remote s code m r => exact .same rfl rfl rfl rfl
  | structured s k m c cause origin => exact .same rfl rfl rfl rfl

end Fault.Alike

/-! ### Failures of a call -/

/-- A classifier that has a class for every fault. -/
def Classifier.IsComplete (classify : Classifier τ) : Prop := ∀ e, ∃ k, classify e = .ok (some k)

namespace Invoker

variable {classify classify' : Classifier τ} {action : String} {e : Fault τ} {k : ErrorClass}

/-- The class that a poller goes by is also the one that an invoker goes by. -/
theorem classOf_of_poll (h : Poll.classOf classify e = .ok (some k)) :
    classOf classify e = .ok (some k) := by
  cases hs : e.isStructured with
  | true =>
    rw [Poll.classOf_of_structured hs] at h
    rw [classOf, Except.ok.inj h]
  | false =>
    rw [Poll.classOf_of_not_structured hs] at h
    cases e with
    | structured => cases hs
    | plain => exact h
    | remote => exact h

theorem failure_of_class (h : Poll.classOf classify e = .ok (some k)) :
    (failure classify action e).2 =
      e.wrap none k [("action", .text action), ("request_id", e.requestId)] := by
  rw [failure, classOf_of_poll h]

/-- A structured fault without a class is raised again, with its context filled in. -/
theorem failure_of_unclassified (hc : ∃ k, classify e = .ok (some k))
    (hs : e.isStructured = true) (hn : e.errorClass = none) :
    (failure classify action e).2 =
      e.fill [("action", .text action), ("request_id", e.requestId)] := by
  obtain ⟨k, hk⟩ := hc
  have hclass : classOf classify e = .ok (some k) := by rw [classOf, hn, hk]
  exact failure_structured classify action e k hs hclass

/-- A call raises structured faults only. -/
theorem isStructured_failure (hc : ∃ k, classify e = .ok (some k)) :
    (failure classify action e).2.isStructured = true := by
  rcases Poll.classOf_eq_none_or (fun _ => hc) with ⟨hs, hn, -⟩ | ⟨k, hk⟩
  · rw [failure_of_unclassified hc hs hn, ← Fault.wrap_structured none e .fatal _ hs]
    exact Fault.isStructured_wrap ..
  · rw [failure_of_class hk]
    exact Fault.isStructured_wrap ..

/-- **Classified once.** A poller that sees the failure of a call goes by the class that the
invoker gave it, whatever its own classifier says. -/
theorem poll_classOf_failure (hc : ∃ k, classify e = .ok (some k)) :
    Poll.classOf classify' (failure classify action e).2 = Poll.classOf classify e := by
  rw [Poll.classOf_of_structured (isStructured_failure hc)]
  rcases Poll.classOf_eq_none_or (fun _ => hc) with ⟨hs, hn, hk⟩ | ⟨k, hk⟩
  · rw [hk, failure_of_unclassified hc hs hn, Fault.errorClass_fill, hn]
  · rw [hk, failure_of_class hk, Poll.errorClass_wrap hk]

/-- The same failure, as an invoker raises it and as the client does. -/
def Guise (classify : Classifier τ) (action : String) (x e : Fault τ) : Prop :=
  x = (failure classify action e).2

/-- Conditions that are the same failure. -/
inductive ConditionGuise (classify : Classifier τ) (action : String) :
    Condition τ → Condition τ → Prop
  | fault {x e : Fault τ} (h : Guise classify action x e) :
      ConditionGuise classify action (.fault x) (.fault e)

/-- Failures in two guises are judged alike. -/
theorem judge_matches {α : Type} (hc : ∃ k, classify e = .ok (some k)) {x : Fault τ}
    (h : Guise classify action x e) (policy : NotFoundPolicy) (operation : String) (n : Nat) :
    (Poll.judge (α := α) policy classify' operation n (.error x)).2.Matches
      (Fault.Alike operation) (ConditionGuise classify action)
      (Poll.judge policy classify operation n (.error e)).2 := by
  have hclass : Poll.classOf classify' x = Poll.classOf classify e := by
    rw [h]
    exact poll_classOf_failure hc
  rcases Poll.classOf_eq_none_or (fun _ => hc) with ⟨hs, hn, hk⟩ | ⟨k, hk⟩
  · rw [Poll.judge_unclassified _ _ _ _ _ hk, Poll.judge_unclassified _ _ _ _ _ (hclass.trans hk),
      h, failure_of_unclassified hc hs hn]
    exact .fail (.fill hs _)
  · have hk' := hclass.trans hk
    rcases policy.isFatal_or k with hf | (rfl | ⟨rfl, hp⟩) | ⟨rfl, hp⟩
    · rw [Poll.judge_of_isFatal hk hf, Poll.judge_of_isFatal hk' hf, h, failure_of_class hk]
      exact .fail (.wrap_wrap ..)
    · rw [Poll.judge_of_waits (.transient hk), Poll.judge_of_waits (.transient hk')]
      exact .wait (.fault h)
    · rw [Poll.judge_of_waits (.absent hk hp), Poll.judge_of_waits (.absent hk' hp)]
      exact .wait (.fault h)
    · rw [Poll.judge_of_absent hk hp, Poll.judge_of_absent hk' hp]
      exact .finish none

/-! ### Runs that see a failure in two guises -/

variable [Quantity τ] {host : Host τ ω} {p q : Poller τ ω} {i : Invoker τ ω} {l : Limiter τ}
  {request : Value} {classifier : Option (Classifier τ)} {how : Poll τ} {α : Type}

/-- A call of the client after the limiter has let it through. -/
def bareCall (host : Host τ ω) (i : Invoker τ ω) (l : Limiter τ) (action : String)
    (request : Value) : Run τ ω Value := do
  l.acquire host action
  Run.call (.invoke action request) (i.client action request)

/-- **Calls keep step**: an invoker only puts the failures of the client in another guise. -/
theorem call_matches (hl : i.limiter = some l)
    (hresponse : ∀ o, (i.client action request o).1 ≠ .ok .null) :
    Run.Matches World.SameDeeds (Guise (classifier.getD i.classifier) action) Eq
      (i.call host action request classifier) (i.bareCall host l action request) := by
  have hcongr : World.IsCongruence (World.SameDeeds (τ := τ) (ω := ω)) :=
    World.SameDeeds.isCongruence
  have hanswer : Run.Matches World.SameDeeds (Guise (classifier.getD i.classifier) action)
      (fun x y => x = y ∧ x ≠ .ok Value.null)
      (Run.call (.invoke action request) (i.client action request)).catching
      (Run.call (.invoke action request) (i.client action request)).catching := by
    refine .of_step (Run.catching_call_apply _ _) (Run.catching_call_apply _ _) fun w v hw => ?_
    rw [← hw.outside]
    exact ⟨⟨rfl, hresponse _⟩, hcongr.acted (hw.noted rfl) _⟩
  rw [bareCall, ← Run.catching_bind_ofExcept (Run.call _ _), call, hl]
  refine (Limiter.acquire_matches hcongr).bind fun _ _ _ => hanswer.bind ?_
  rintro x _ ⟨rfl, hx⟩
  cases x with
  | error e =>
    -- what the invoker reports is no deed
    intro w v hw
    change ((Run.logAll _ >>= fun _ => Run.raise _) w).Matches _ _ _ (Run.raise e v)
    rw [Run.bind_apply, Run.logAll_apply]
    exact .raised rfl (hw.loggedAll _ [])
  | ok response =>
    cases response with
    | null => exact absurd rfl hx
    | _ => exact .pure rfl

/-- The polling run in which a named call is retried. -/
theorem polling_retries (ha : action ≠ "") (hop : how.operation = some action)
    (profile : Profile τ) (f : Run τ ω α) (start : τ) :
    p.polling host (Poller.retries how) profile (Poller.attempt f) start =
      { host
        poller := p
        action := Poller.attempt f
        operation := action
        profile
        classify := how.classifier.getD p.classifier
        policy := how.policy
        deadline := .opened (.text action) profile.deadline start } := by
  have hgiven (name : Option String) (fallback : String) :
      Poll.operationName (some action) name fallback = action :=
    if_neg fun h => ha (String.isEmpty_iff.mp h)
  rw [Poller.polling, Poller.retries, hop, hgiven, hgiven]

/-- Runs that retry calls in step are in step, whatever the classifier of the poller that sees the
failures as an invoker raises them. -/
theorem retries_inStep (ha : action ≠ "") (hc : classify.IsComplete)
    (hpq : p.TellsLike q) {f g : Run τ ω α}
    (hfg : Run.Matches World.SameDeeds (Guise classify action) Eq f g)
    (given given' : Option (Profile τ)) (policy : NotFoundPolicy) (name name' : Option String)
    (profile : Profile τ) (start : τ) :
    (p.polling host
      (Poller.retries { profile := given, policy, operation := some action, name })
      profile (Poller.attempt f) start).InStep
      World.SameDeeds (Fault.Alike action)
      (Agree (Guise classify action) fun a b => ∃ v, a = .done v ∧ b = .done v)
      (ConditionGuise classify action)
      (q.polling host
        (Poller.retries
          { profile := given'
            classifier := some classify
            policy
            operation := some action
            name := name' })
        profile (Poller.attempt g) start) := by
  rw [polling_retries ha rfl, polling_retries ha rfl]
  exact {
    host := rfl
    deadline := rfl
    interval := rfl
    answers := (hfg.bind fun a b hab => .pure ⟨a, rfl, congrArg _ hab.symm⟩).catching
    verdict := by
      rintro n _ _ (⟨v, rfl, rfl⟩ | h)
      · exact .finish (some v)
      · exact judge_matches (hc _) h policy action n
    reported := fun _ _ _ hw => hw.loggedAll _ _
    pending := fun _ _ _ _ hw => hw.noted rfl
    noticed := fun _ _ _ _ hw => hw.noticedBy hpq _ _ _ _
    late := fun _ _ _ hw => hw.noted rfl
    expiry := fun _ _ => .late rfl rfl }

/-- **In the invoker or in the poller.** An invoker that retries its calls, with some poller, and a
poller that retries the calls of the client itself, classifying failures as the invoker would, keep
step: they call, sleep and are admitted at the same times, and both return the same value, raise
faults that are alike, or come to no end. What the poller of the invoker would do with a failure
that has no class makes no difference. -/
theorem callWithRetry_matches (hl : i.limiter = some l) (ha : action ≠ "")
    (hc : (classifier.getD i.classifier).IsComplete)
    (hresponse : ∀ o, (i.client action request o).1 ≠ .ok .null) (hq : i.poller.TellsLike q)
    {given : Option (Profile τ)} {profile : Profile τ} (hp : given.or i.profile = some profile)
    (policy : NotFoundPolicy) (name : Option String) :
    Run.Matches World.SameDeeds (Fault.Alike action) Eq
      (i.callWithRetry host action request given classifier policy)
      (q.call host
        { profile := some profile
          classifier := some (classifier.getD i.classifier)
          policy
          operation := some action
          name }
        (i.bareCall host l action request)) := by
  rw [callWithRetry, Poller.call_eq, Poller.call_eq]
  exact Poller.run_matches World.SameDeeds.isCongruence hp rfl
    (retries_inStep ha hc hq (call_matches hl hresponse) _ _ policy _ name profile)

/-- Remote faults may clear up by themselves, and no others. -/
def remoteTransient : Classifier ℚ
  | .remote _ _ _ _ => .ok (some .transient)
  | _ => .ok (some .fatal)

/-- An invoker whose service is busy at first, and then refuses. Its poller takes every failure for
a fatal one. -/
def refused : Invoker ℚ (ℚ × ℕ) where
  client _ _ o :=
    (.error (if o.2 = 0 then .remote none (.text "Busy") .null .null else .ofText .value "refused"),
      (o.1, o.2 + 1))
  limiter := some (.standard 0)
  classifier := remoteTransient
  poller := {}
  profile := none

/-- A poller that calls the service itself is refused after one interval, just as the invoker
is. -/
theorem callWithRetry_matches_refused :
    ∃ e f w v,
      (refused.callWithRetry (.exact 3) "Start" .null (some ⟨.null, 5, 12⟩) none .fatal).Ends
        { outside := (0, 0) } (.error e) w ∧
      (Poller.call (.exact 3) { classifier := .allTransient }
        { profile := some ⟨.null, 5, 12⟩
          classifier := some remoteTransient
          operation := some "Start" }
        (refused.bareCall (.exact 3) (.standard 0) "Start" .null)).Ends
        { outside := (0, 0) } (.error f) v ∧
      f.kind? = some .fatal ∧ f.cause? = some (.ofText .value "refused") ∧ v.outside = (5, 2) := by
  obtain ⟨w, hw, ho⟩ := Run.exists_ends_of_report
    (m := refused.callWithRetry (.exact 3) "Start" .null (some ⟨.null, 5, 12⟩) none .fatal)
    (w := { outside := (0, 0) })
    (r := .error (.structured none .fatal (.text "refused") { action := .text "Start" }
      (some (.ofText .value "refused")) (some (.ofText .value "refused"))))
    (o := (5, 2)) (by decide +kernel)
  have hc : (Option.getD none refused.classifier).IsComplete := by
    intro e
    cases e with
    | remote => exact ⟨.transient, rfl⟩
    | _ => exact ⟨.fatal, rfl⟩
  obtain ⟨y, v, hv, hy, hsame⟩ :=
    (callWithRetry_matches (q := { classifier := .allTransient }) rfl (by decide) hc
      (fun _ h => by cases h) trivial rfl .fatal none).exists_ends (.refl _) hw
  cases hy with
  | error halike =>
    cases halike with
    | same structured kind message cause =>
      exact ⟨_, _, w, v, hw, hv, kind, cause, hsame.outside.symm.trans ho⟩
    | late kind => cases kind

end Invoker

end Settle
