import Settle.Gateway.CodeClassifier
import Settle.Limiter

/-!
# Calls to the remote service

An invoker is the only way to the remote service. A call first acquires the limit of its
action, then invokes the client, refuses an empty response, and gives every failure its
classification, with the action and the trace id filled in. `callWithRetry` polls such calls
within a profile.

Main statements: `failure_structured` and `failure_wrapped` say what a failed call raises.
-/

namespace Settle

/-- The way to the remote service: the client, and what its calls share. -/
structure Invoker (τ ω : Type) where
  client : String → Value → ω → Except (Fault τ) Value × ω
  limiter : Option (Limiter τ)
  classifier : Classifier τ
  poller : Poller τ ω
  profile : Option (Profile τ)

namespace Invoker

variable {τ ω : Type} [Quantity τ]

/-- The class of a failure: the one it carries, else the classifier's. -/
def classOf (classify : Classifier τ) (e : Fault τ) : Except (Fault τ) (Option ErrorClass) :=
  match e.errorClass with
  | some c => .ok (some c)
  | none => classify e

/-- What a call raises for a failure, and what it reports. A classifier that gives no class
to an unclassified failure is itself at fault. -/
def failure (classify : Classifier τ) (action : String) (e : Fault τ) :
    List (Event τ) × Fault τ :=
  match classOf classify e with
  | .error other => ([], other)
  | .ok none => ([], (Misuse.noMember "NoneType" "value").toFault)
  | .ok (some c) =>
    ([.callFailed action e.requestId c e.text],
     e.wrap none c [("action", .text action), ("request_id", e.requestId)])

omit [Quantity τ] in
/-- A structured failure is raised with its context filled in, whatever the classifier. -/
theorem failure_structured (classify : Classifier τ) (action : String) (e : Fault τ)
    (c : ErrorClass) (h : e.isStructured = true) (hc : classOf classify e = .ok (some c)) :
    (failure classify action e).2 =
      e.fill [("action", .text action), ("request_id", e.requestId)] := by
  simp only [failure, hc]
  exact Fault.wrap_structured _ _ _ _ h

omit [Quantity τ] in
/-- Any other failure is raised wrapped in its class, with itself as cause. -/
theorem failure_wrapped (classify : Classifier τ) (action : String) (e : Fault τ)
    (c : ErrorClass) (h : e.isStructured = false) (hc : classify e = .ok (some c)) :
    (failure classify action e).2.cause? = some e ∧
      (failure classify action e).2.errorClass = some c := by
  have hn : e.errorClass = none := by
    cases e <;> simp_all [Fault.isStructured, Fault.errorClass, Fault.kind?]
  simp only [failure, classOf, hn, hc]
  exact Fault.wrap_of_not_structured _ _ _ _ h

/-- Invoke an action once. -/
def call (host : Host τ ω) (i : Invoker τ ω) (action : String) (request : Value)
    (classifier : Option (Classifier τ)) : Run τ ω Value := do
  Limiter.acquireFrom host i.limiter action
  match ← (Run.call (.invoke action request) (i.client action request)).catching with
  | .error e => do
    let (events, fault) := failure (classifier.getD i.classifier) action e
    Run.logAll events
    Run.raise fault
  | .ok .null => do
    Run.log (.callEmpty action)
    Run.raise (.emptyResponse (.text action) "")
  | .ok response => pure response

/-- Invoke an action, retrying transient failures. Without a profile the one of the invoker
applies. -/
def callWithRetry (host : Host τ ω) (i : Invoker τ ω) (action : String) (request : Value)
    (profile : Option (Profile τ)) (classifier : Option (Classifier τ))
    (policy : NotFoundPolicy) : Run τ ω (Option Value) :=
  i.poller.call host
    { profile := profile.or i.profile
      policy
      operation := some action
      name := some "<lambda>" }
    (i.call host action request classifier)

end Invoker

end Settle
