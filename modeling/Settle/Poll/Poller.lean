import Settle.Deadline
import Settle.Poll.Profile

/-!
# Polling

A poller attempts an action again and again until the action is done, fails for good, or
the deadline of the profile passes; between attempts it sleeps the interval of the profile,
or what is left of the deadline if that is less.

One attempt is judged by the pure function `judge`: an answer of the action becomes a
verdict (finish, fail, or wait) and the events to report. A structured fault is judged by
the classification it carries, any other by the classifier. The loop around it
(`Poller.rounds`) only keeps the clock.

Main statements: `judge_done`, `judge_pending` and `judge_unclassified` fix the verdicts
that do not depend on a policy, `judge_of_unjudged` what a classifier that fails comes to, and
`judge_waits_iff` says when a fault is waited out.
-/

namespace Settle

/-- What an attempt answers. A null reason is none. -/
inductive Reply (α : Type) where
  | done (value : α)
  | pending (reason : Value)
  | other (kindName : String)

/-- The reason of an attempt that gave none. -/
def Reply.defaultReason : Value := .text "pending"

/-- What an absent resource means at one place of call. -/
inductive NotFoundPolicy where
  | fatal
  | absent
  | retry
  deriving DecidableEq, Repr

/-- The name of a policy. -/
def NotFoundPolicy.name : NotFoundPolicy → String
  | fatal => "fatal"
  | absent => "absent"
  | retry => "retry"

/-- All policies. -/
def NotFoundPolicy.all : List NotFoundPolicy := [fatal, absent, retry]

/-- The policy of a name. -/
def NotFoundPolicy.ofName? (s : String) : Option NotFoundPolicy :=
  all.find? fun p => p.name == s

/-- A classifier gives a fault its class. One that gives none leaves the fault as it is, and
one can fail itself. -/
abbrev Classifier (τ : Type) := Fault τ → Except (Fault τ) (Option ErrorClass)

namespace Classifier

/-- Every fault is fatal. -/
def allFatal {τ : Type} : Classifier τ := fun _ => .ok (some .fatal)

/-- Every fault may clear up by itself. -/
def allTransient {τ : Type} : Classifier τ := fun _ => .ok (some .transient)

/-- Where a classifier is missing, asking for a class fails. -/
def absent {τ : Type} : Classifier τ := fun _ => .error (Misuse.notCalled "NoneType").toFault

end Classifier

namespace Poll

variable {τ α : Type}

/-- What follows from one attempt. A run that finishes without a value found the resource
absent where that is allowed. -/
inductive Verdict (τ α : Type) where
  | finish (value : Option α)
  | fail (fault : Fault τ)
  | wait (condition : Condition τ)

/-- The class of a fault: its own if it is structured, else the classifier's. -/
def classOf (classify : Classifier τ) (e : Fault τ) : Except (Fault τ) (Option ErrorClass) :=
  if e.isStructured then .ok e.errorClass else classify e

/-- The fault that ends a polling run: a structured one is passed on with the operation
filled in, any other is wrapped. -/
def finalFault (operation : String) (c : ErrorClass) (e : Fault τ) : Fault τ :=
  e.wrap none c [("action", .text operation)]

/-- Judge a fault that an attempt raised. -/
def judgeFault (policy : NotFoundPolicy) (classify : Classifier τ) (operation : String)
    (attempts : Nat) (e : Fault τ) : List (Event τ) × Verdict τ α :=
  let giveUp (c : ErrorClass) : List (Event τ) × Verdict τ α :=
    ([.retryFatal operation attempts c e.text], .fail (finalFault operation c e))
  match classOf classify e with
  | .error other => ([], .fail other)
  | .ok none => ([], .fail e)
  | .ok (some .transient) => ([], .wait (.fault e))
  | .ok (some .fatal) => giveUp .fatal
  | .ok (some .notFound) =>
    match policy with
    | .fatal => giveUp .notFound
    | .absent => ([.retryAbsent operation attempts], .finish none)
    | .retry => ([], .wait (.fault e))

/-- The fault of an action that answers neither that it is done nor that it is pending. -/
def strangeReply (operation kindName : String) : Fault τ :=
  .simple .contractViolation
    ("poll action returned " ++ kindName ++ ", expected Done or Pending")
    { action := .text operation }

/-- Judge one attempt. -/
def judge (policy : NotFoundPolicy) (classify : Classifier τ) (operation : String)
    (attempts : Nat) : Except (Fault τ) (Reply α) → List (Event τ) × Verdict τ α
  | .error e => judgeFault policy classify operation attempts e
  | .ok (.done v) =>
    (if 1 < attempts then [.retryConverged operation attempts] else [], .finish (some v))
  | .ok (.pending reason) => ([], .wait (.reason reason))
  | .ok (.other kindName) => ([], .fail (strangeReply operation kindName))

theorem judge_done (policy : NotFoundPolicy) (classify : Classifier τ) (operation : String)
    (n : Nat) (v : α) :
    (judge policy classify operation n (.ok (.done v))).2 = .finish (some v) := rfl

theorem judge_pending (policy : NotFoundPolicy) (classify : Classifier τ)
    (operation : String) (n : Nat) (reason : Value) :
    judge (α := α) policy classify operation n (.ok (.pending reason)) =
      ([], .wait (.reason reason)) := rfl

/-- A fault without a class ends the run as it is, and nothing is reported. -/
theorem judge_unclassified (policy : NotFoundPolicy) (classify : Classifier τ)
    (operation : String) (n : Nat) (e : Fault τ) (h : classOf classify e = .ok none) :
    judge (α := α) policy classify operation n (.error e) = ([], .fail e) := by
  simp [judge, judgeFault, h]

/-- Where the classifier fails, its own fault ends the run, and nothing is reported. -/
theorem judge_of_unjudged (policy : NotFoundPolicy) (classify : Classifier τ)
    (operation : String) (n : Nat) (e other : Fault τ) (h : classOf classify e = .error other) :
    judge (α := α) policy classify operation n (.error e) = ([], .fail other) := by
  simp [judge, judgeFault, h]

/-- A fault is waited out iff it is transient, or means absence where absence is retried. -/
theorem judge_waits_iff (policy : NotFoundPolicy) (classify : Classifier τ)
    (operation : String) (n : Nat) (e : Fault τ) :
    (judge (α := α) policy classify operation n (.error e)).2 = .wait (.fault e) ↔
      classOf classify e = .ok (some .transient) ∨
        (classOf classify e = .ok (some .notFound) ∧ policy = .retry) := by
  simp only [judge, judgeFault]
  cases classOf classify e with
  | error other => simp
  | ok c =>
    cases c with
    | none => simp
    | some c => cases c <;> cases policy <;> simp

/-- The name by which an operation is known: the one given, unless that is empty, else the
name of the action, else a fallback. -/
def operationName (given name : Option String) (fallback : String) : String :=
  match given with
  | some s => if s.isEmpty then name.getD fallback else s
  | none => name.getD fallback

end Poll

/-- A poller: the classifier it uses where none is given, and whom it notifies before each
sleep. -/
structure Poller (τ ω : Type) where
  classifier : Classifier τ := Classifier.allFatal
  notify : Option (Nat → Condition τ → τ → ω → ω) := none

/-- How one action is to be polled. Without a profile it cannot be. -/
structure Poll (τ : Type) where
  profile : Option (Profile τ)
  classifier : Option (Classifier τ) := none
  policy : NotFoundPolicy := .fatal
  operation : Option String := none
  name : Option String := none

namespace Poller

variable {τ ω α : Type} [Quantity τ]

/-- Notify the caller of the sleep that comes. -/
def notice (p : Poller τ ω) (attempts : Nat) (condition : Condition τ) (delay : τ) :
    Run τ ω Unit :=
  match p.notify with
  | none => pure ()
  | some f => do
    Run.note (.noticed attempts condition delay)
    Run.outside fun o => ((), f attempts condition delay o)

/-- Sleep the interval, or what is left of the deadline, unless nothing is left. -/
def pause (host : Host τ ω) (p : Poller τ ω) (operation : String) (profile : Profile τ)
    (d : Deadline τ) (attempts : Nat) (condition : Condition τ) : Run τ ω Unit := do
  let remaining := d.remaining (← Run.now host)
  if Quantity.zero < remaining then
    let delay := Quantity.least profile.interval remaining
    Run.log (.retryPending operation attempts condition.text delay)
    p.notice attempts condition delay
    Run.sleep host delay

/-- The context of the fault that reports a passed deadline: that of the last condition, if
it has one. -/
def expiryContext (operation : String) : Condition τ → Context
  | .fault (.structured _ _ _ c _ _) =>
    { action := c.action.orElse (.text operation), requestId := c.requestId }
  | _ => { action := .text operation }

/-- Raise the fault that reports a passed deadline. -/
def expire (host : Host τ ω) (operation : String) (profile : Profile τ) (d : Deadline τ)
    (attempts : Nat) (condition : Condition τ) : Run τ ω α := do
  Run.log (.retryExpired operation profile.name attempts condition.text)
  let elapsed := d.elapsed (← Run.now host)
  Run.raise (.deadlineExceeded (.text operation) profile.deadline elapsed (.int attempts)
    condition (expiryContext operation condition))

/-- The rounds of a polling run; `attempts` have been made so far. The value comes with the
number of attempts it took. -/
def rounds (host : Host τ ω) (p : Poller τ ω) (action : Run τ ω (Reply α))
    (operation : String) (profile : Profile τ) (classify : Classifier τ)
    (policy : NotFoundPolicy) (d : Deadline τ) (attempts : Nat) :
    Nat → Run τ ω (Option α × Nat)
  | 0 => Run.giveUp
  | fuel + 1 => do
    let attempts := attempts + 1
    Run.note .attempted
    let answer ← action.catching
    let (events, verdict) := Poll.judge policy classify operation attempts answer
    Run.logAll events
    match verdict with
    | .finish value => pure (value, attempts)
    | .fail e => Run.raise e
    | .wait condition => do
      p.pause host operation profile d attempts condition
      if d.isExpired (← Run.now host) then
        expire host operation profile d attempts condition
      else
        rounds host p action operation profile classify policy d attempts fuel

/-- Poll an action, and count its attempts. -/
def runCounting (host : Host τ ω) (p : Poller τ ω) (how : Poll τ)
    (action : Run τ ω (Reply α)) : Run τ ω (Option α × Nat) := do
  let operation := Poll.operationName how.operation how.name "operation"
  match how.profile with
  | none => Run.raise (Misuse.noMember "NoneType" "deadline").toFault
  | some profile => do
    let start ← Run.now host
    rounds host p action operation profile (how.classifier.getD p.classifier) how.policy
      (.opened (.text operation) profile.deadline start) 0 host.patience

/-- Poll an action until it is done. There is no value only where absence is allowed. -/
def run (host : Host τ ω) (p : Poller τ ω) (how : Poll τ) (action : Run τ ω (Reply α)) :
    Run τ ω (Option α) := do
  let (value, _) ← p.runCounting host how action
  pure value

/-- Retry a plain call, which is done as soon as it returns. -/
def call (host : Host τ ω) (p : Poller τ ω) (how : Poll τ) (f : Run τ ω α) :
    Run τ ω (Option α) :=
  let operation := Poll.operationName how.operation how.name "call"
  p.run host { how with operation := some operation, name := some "attempt" } do
    let value ← f
    pure (.done value)

end Poller

end Settle
