import Settle.Gateway.Invoker
import Settle.Proofs.Limiter.Rounds
import Settle.Proofs.Poll.Faults
import Settle.Proofs.Run.Outcomes

/-!
# Trace ids

A remote fault brings along the trace id of the request that failed. It is the layer that
classifies the fault that can put it into the context of the fault that is raised (`Fault.traceId`),
and layers differ in this. An invoker fills it in, and from there on it is kept, through retries and
the passing of a deadline. A poller that gets to see the remote fault itself fills in its operation
only: what it raises has the remote fault as its cause, but no trace id of its own.

Main statement: `traceId_by_layer`. `traceId_lost` is a run whose trace id is lost.
-/

namespace Settle

variable {τ ω α : Type}

/-! ### The trace id of a fault -/

/-- The trace id that the context of a fault shows. -/
def Fault.traceId (e : Fault τ) : Value :=
  match e.context? with
  | some c => c.requestId
  | none => .null

namespace Context

theorem requestId_fill_action (c : Context) (v : Value) :
    (c.fill "action" v).requestId = c.requestId := by
  have hfill : c.fill "action" v = _ := c.fill_name .action v
  rw [hfill]
  split <;> rfl

/-- A trace id is filled in where there is none. -/
theorem requestId_fill_requestId (c : Context) (v : Value) :
    (c.fill "request_id" v).requestId = if c.requestId.isNull then v else c.requestId := by
  have hfill : c.fill "request_id" v = _ := c.fill_name .requestId v
  rw [hfill]
  cases h : c.requestId.isNull <;> simp [get, set, h]

end Context

namespace Fault

theorem isStructured_of_kind {e : Fault τ} {k : Kind τ} (h : e.kind? = some k) :
    e.isStructured = true := by
  cases e with
  | structured => rfl
  | _ => cases h

end Fault

namespace Poll

/-- The fault that ends a polling run has the trace id of the one that the action raised, and so
none if that was not structured. -/
theorem traceId_finalFault (operation : String) (k : ErrorClass) (e : Fault τ) :
    (finalFault operation k e).traceId = e.traceId := by
  cases e with
  | structured s kind m c cause origin => exact c.requestId_fill_action (.text operation)
  | plain | remote => exact Context.requestId_fill_action {} (.text operation)

end Poll

/-! ### Pollers -/

namespace Polling

variable [Quantity τ] {c : Polling τ ω α} {n : Nat} {w w₁ w' : World τ ω} {e f : Fault τ}

theorem traceId_expiry (n : Nat) (e : Fault τ) (elapsed : τ) :
    (c.expiry n (.fault e) elapsed).traceId = e.traceId := by
  cases e <;> rfl

/-- However a fault of the last attempt ends a run, as a fatal one or as the last condition before
the deadline, what is raised has its trace id. -/
theorem LastWith.traceId {k : ErrorClass} (h : c.LastWith n w (.error e) w₁ (.error f) w')
    (hk : Poll.classOf c.classify e = .ok (some k)) :
    f.traceId = e.traceId ∧ (e.isStructured = false → f.cause? = some e) := by
  rcases c.policy.isFatal_or k with hfatal | hwaits | ⟨rfl, hpolicy⟩
  · obtain rfl := Except.error.inj (h.of_isFatal hk hfatal)
    exact ⟨Poll.traceId_finalFault _ _ _, fun hs => (Poll.finalFault_of_not_structured hs).2⟩
  · have hcondition : Poll.Waits c.policy c.classify (α := α) (.error e) (.fault e) := by
      rcases hwaits with rfl | ⟨rfl, hpolicy⟩
      · exact .transient hk
      · exact .absent hk hpolicy
    obtain ⟨elapsed, hf⟩ := h.of_waits hcondition
    obtain rfl := Except.error.inj hf
    exact ⟨traceId_expiry _ _ _, fun _ => rfl⟩
  · cases h.of_absent hk hpolicy

end Polling

namespace Poller

variable [Quantity τ] {host : Host τ ω} {p : Poller τ ω} {how : Poll τ} {profile : Profile τ}
  {action : Run τ ω (Reply α)} {w w' : World τ ω} {f : Fault τ}

/-- The run that starts in `w` raises the fault `f` after a last attempt that was made in `w₀` and
ended with `x`. -/
def RaisesAfter (host : Host τ ω) (p : Poller τ ω) (how : Poll τ) (profile : Profile τ)
    (action : Run τ ω (Reply α)) (w w₀ : World τ ω) (x : Except (Fault τ) (Reply α))
    (f : Fault τ) : Prop :=
  let c := p.polling host how profile action (host.reading w.outside)
  ∃ n w₁ w₂ w', c.Course 0 (w.readBy host) n w₁ ∧ w₀ = w₁.noted .attempted ∧
    c.LastWith n w₁ x w₂ (.error f) w'

theorem exists_raisesAfter (hp : how.profile = some profile)
    (h : (p.run host how action).Ends w (.error f) w') :
    ∃ w₀ x, p.RaisesAfter host how profile action w w₀ x f := by
  obtain ⟨s, hs, hr⟩ := run_ends_iff.mp h
  obtain ⟨n, w₁, -, hcourse, x, w₂, hlast⟩ := (runCounting_ends_iff hp).mp hs
  cases s with
  | ok v => cases hr
  | error g =>
    cases hr
    exact ⟨_, x, n, w₁, w₂, w', hcourse, rfl, hlast⟩

/-- A polling run raises faults with the trace id of what its last attempt raised. -/
theorem RaisesAfter.traceId {w₀ : World τ ω} {e : Fault τ} {k : ErrorClass}
    (h : p.RaisesAfter host how profile action w w₀ (.error e) f)
    (hk : Poll.classOf (how.classifier.getD p.classifier) e = .ok (some k)) :
    f.traceId = e.traceId ∧ (e.isStructured = false → f.cause? = some e) := by
  obtain ⟨n, w₁, w₂, w', -, -, hlast⟩ := h
  exact hlast.traceId hk

/-- The last attempt ends as the action does in its world. -/
theorem RaisesAfter.answer {w₀ w₁ : World τ ω} {x y : Except (Fault τ) (Reply α)}
    (h : p.RaisesAfter host how profile action w w₀ x f) (hy : action.Ends w₀ y w₁) : x = y := by
  obtain ⟨n, v, v', w', -, rfl, hx, -⟩ := h
  exact (hx.unique hy).1

end Poller

/-! ### Invokers -/

namespace Invoker

variable [Quantity τ] {host : Host τ ω} {i : Invoker τ ω} {action : String} {request : Value}
  {classifier : Option (Classifier τ)} {w w₁ : World τ ω} {k : ErrorClass}

omit [Quantity τ] in
/-- What is made of a remote fault has its trace id. -/
theorem failure_remote (action : String) {classify : Classifier τ} {s : Option Nat}
    {code message r : Value} (hk : classify (.remote s code message r) = .ok (some k)) :
    (failure classify action (.remote s code message r)).2.kind? = some (.ofClass k) ∧
    (failure classify action (.remote s code message r)).2.cause? =
      some (.remote s code message r) ∧
    (failure classify action (.remote s code message r)).2.traceId = r := by
  have hclass : classOf classify (.remote s code message r) = .ok (some k) := hk
  rw [failure, hclass]
  refine ⟨rfl, rfl, ?_⟩
  change ((({} : Context).fill "action" (.text action)).fill "request_id" r).requestId = r
  rw [Context.requestId_fill_requestId, Context.requestId_fill_action]
  rfl

/-- A call that the client answers with a fault raises what is made of it. -/
theorem call_ends_of_error (classifier : Option (Classifier τ)) {e : Fault τ}
    (hacquired : (Limiter.acquireFrom host i.limiter action).Ends w (.ok ()) w₁)
    (he : (i.client action request w₁.outside).1 = .error e) :
    (i.call host action request classifier).Ends w
      (.error (failure (classifier.getD i.classifier) action e).2)
      ({ w₁.noted (.called (.invoke action request)) with
        outside := (i.client action request w₁.outside).2 }.loggedAll
          (failure (classifier.getD i.classifier) action e).1) := by
  have hanswer := Run.catching_call_apply (.invoke action request) (i.client action request) w₁
  rw [he] at hanswer
  refine Run.ends_bind.mpr (.inl ⟨(), w₁, hacquired, ?_⟩)
  refine (Run.ends_step_bind hanswer).mpr ?_
  exact Run.ends_logAll_bind.mpr (Run.ends_raise.mpr ⟨rfl, rfl⟩)

/-- How the calls of an invoker are retried. -/
def retrying (i : Invoker τ ω) (action : String) (given : Option (Profile τ))
    (policy : NotFoundPolicy) : Poll τ :=
  Poller.retries
    { profile := given.or i.profile, policy, operation := some action, name := some "<lambda>" }

/-- Retried calls that end because of a remote fault keep its trace id. -/
theorem traceId_of_raisesAfter {given : Option (Profile τ)} {policy : NotFoundPolicy}
    {profile : Profile τ} {s : Option Nat} {code message r : Value} {w₀ : World τ ω}
    {x : Except (Fault τ) (Reply Value)} {f : Fault τ}
    (hk : classifier.getD i.classifier (.remote s code message r) = .ok (some k))
    (h : i.poller.RaisesAfter host (i.retrying action given policy) profile
      (Poller.attempt (i.call host action request classifier)) w w₀ x f)
    (hacquired : (Limiter.acquireFrom host i.limiter action).Ends w₀ (.ok ()) w₁)
    (he : (i.client action request w₁.outside).1 = .error (.remote s code message r)) :
    f.traceId = r := by
  obtain ⟨hkind, -, hid⟩ := failure_remote action hk
  have hcall := call_ends_of_error classifier hacquired he
  obtain rfl := h.answer (Poller.attempt_ends_iff.mpr ⟨_, hcall, rfl⟩)
  -- the poller goes by the class that the invoker has given
  have hclass : Poll.classOf ((i.retrying action given policy).classifier.getD i.poller.classifier)
      (failure (classifier.getD i.classifier) action (.remote s code message r)).2 =
        .ok (some k) := by
    rw [Poll.classOf_of_structured (Fault.isStructured_of_kind hkind), Fault.errorClass, hkind]
    exact congrArg _ (Kind.errorClass_ofClass k)
  exact (h.traceId hclass).1.trans hid

end Invoker

/-! ### Which layer keeps a trace id -/

/-- **Trace ids, layer by layer.** Let a remote fault have a trace id and a class. If an invoker
sees it first, then the fault that its call raises has that trace id, and so has the one that is
raised if the calls were retried, whether the last of them was fatal or the deadline has passed. If
a poller sees it first, then the fault that the run raises has the remote fault as its cause, but no
trace id. -/
theorem traceId_by_layer [Quantity τ] (host : Host τ ω) (s : Option Nat) (code message r : Value)
    (k : ErrorClass) :
    let e : Fault τ := .remote s code message r
    (∀ (i : Invoker τ ω) (action : String) (request : Value) (classifier : Option (Classifier τ)),
      classifier.getD i.classifier e = .ok (some k) →
      (∀ w w₁, (Limiter.acquireFrom host i.limiter action).Ends w (.ok ()) w₁ →
        (i.client action request w₁.outside).1 = .error e →
        ∃ f w', (i.call host action request classifier).Ends w (.error f) w' ∧
          f.kind? = some (.ofClass k) ∧ f.cause? = some e ∧ f.traceId = r) ∧
      ∀ given policy profile w f w', given.or i.profile = some profile →
        (i.callWithRetry host action request given classifier policy).Ends w (.error f) w' →
        ∃ w₀ x,
          i.poller.RaisesAfter host (i.retrying action given policy) profile
            (Poller.attempt (i.call host action request classifier)) w w₀ x f ∧
          ∀ w₁, (Limiter.acquireFrom host i.limiter action).Ends w₀ (.ok ()) w₁ →
            (i.client action request w₁.outside).1 = .error e → f.traceId = r) ∧
    ∀ (p : Poller τ ω) (how : Poll τ) (profile : Profile τ),
      how.classifier.getD p.classifier e = .ok (some k) → how.profile = some profile →
      (∀ (action : Run τ ω (Reply α)) w f w', (p.run host how action).Ends w (.error f) w' →
        ∃ w₀ x, p.RaisesAfter host how profile action w w₀ x f ∧
          (x = .error e → f.cause? = some e ∧ f.traceId = .null)) ∧
      ∀ (call : Run τ ω α) w f w', (p.call host how call).Ends w (.error f) w' →
        ∃ w₀ x, p.RaisesAfter host (Poller.retries how) profile (Poller.attempt call) w w₀ x f ∧
          ∀ w₁, call.Ends w₀ (.error e) w₁ → f.cause? = some e ∧ f.traceId = .null := by
  intro e
  refine ⟨fun i action request classifier hk => ⟨?_, ?_⟩, fun p how profile hk hp => ⟨?_, ?_⟩⟩
  · intro w w₁ hacquired he
    exact ⟨_, _, Invoker.call_ends_of_error classifier hacquired he,
      Invoker.failure_remote action hk⟩
  · intro given policy profile w f w' hp h
    have hprofile : (i.retrying action given policy).profile = some profile := hp
    obtain ⟨w₀, x, hx⟩ := Poller.exists_raisesAfter hprofile h
    exact ⟨w₀, x, hx, fun w₁ => Invoker.traceId_of_raisesAfter hk hx⟩
  · intro action w f w' h
    obtain ⟨w₀, x, hx⟩ := Poller.exists_raisesAfter hp h
    refine ⟨w₀, x, hx, ?_⟩
    rintro rfl
    obtain ⟨hid, hcause⟩ := hx.traceId hk
    exact ⟨hcause rfl, hid⟩
  · intro call w f w' h
    have hprofile : (Poller.retries how).profile = some profile := hp
    obtain ⟨w₀, x, hx⟩ := Poller.exists_raisesAfter hprofile h
    refine ⟨w₀, x, hx, fun w₁ hcall => ?_⟩
    obtain rfl := hx.answer (Poller.attempt_ends_iff.mpr ⟨_, hcall, rfl⟩)
    obtain ⟨hid, hcause⟩ := hx.traceId hk
    exact ⟨hcause rfl, hid⟩

/-- A failure of a request that has a trace id. -/
def boom : Fault Rat := .remote none (.text "Boom") (.text "refused") (.text "req-1")

/-- An invoker whose client fails. -/
def Invoker.failing : Invoker Rat Unit where
  client _ _ o := (.error boom, o)
  limiter := some (.standard 0)
  classifier := .allFatal
  poller := {}
  profile := none

/-- An invoker that retries the request passes its trace id on. -/
theorem traceId_by_layer_failing :
    ∃ f w', (Invoker.failing.callWithRetry (.still 0 1) "Describe" .null (some ⟨.null, 5, 12⟩) none
        .fatal).Ends { outside := () } (.error f) w' ∧
      f.traceId = .text "req-1" := by
  obtain ⟨hinvokers, -⟩ := @traceId_by_layer Rat Unit Unit _ (.still 0 1) none (.text "Boom")
    (.text "refused") (.text "req-1") .fatal
  obtain ⟨-, hretried⟩ := hinvokers Invoker.failing "Describe" .null none rfl
  obtain ⟨w', hends, -⟩ := Run.exists_ends_of_report
    (m := Invoker.failing.callWithRetry (.still 0 1) "Describe" .null (some ⟨.null, 5, 12⟩) none
      .fatal)
    (w := { outside := () })
    (r := .error (.structured none .fatal (.text "[Boom] refused (request_id=req-1)")
      { action := .text "Describe", requestId := .text "req-1" } (some boom) (some boom)))
    (o := ()) (by decide +kernel)
  refine ⟨_, w', hends, ?_⟩
  obtain ⟨w₀, x, ⟨n, w₁, w₂, -, -, rfl, hx, -⟩, hid⟩ :=
    hretried (some ⟨.null, 5, 12⟩) .fatal _ _ _ _ rfl hends
  -- the last attempt has acquired the limit, for to acquire it never fails
  obtain ⟨y, hy, -⟩ := Poller.attempt_ends_iff.mp hx
  rcases Run.ends_bind.mp hy with ⟨⟨⟩, w₃, hacquired, -⟩ | ⟨g, hg, -⟩
  · exact hid w₃ hacquired rfl
  · have hleaves : (Host.still (0 : Rat) 1).Leaves fun _ : Unit => () :=
      ⟨fun _ => rfl, fun _ _ => rfl⟩
    cases (Limiter.acquire_leaves hleaves hg).1

/-- **A trace id is lost** where a poller calls the service itself. -/
theorem traceId_lost :
    ∃ f w', (Poller.call (.still (0 : Rat) 1) {}
        { profile := some ⟨.null, 5, 12⟩, operation := some "Describe" }
        (Run.raise boom : Run Rat Unit Unit)).Ends { outside := () } (.error f) w' ∧
      f.isStructured = true ∧ f.cause? = some boom ∧ f.traceId ≠ boom.requestId := by
  refine ⟨_, _, rfl, rfl, rfl, ?_⟩
  exact nofun

end Settle
