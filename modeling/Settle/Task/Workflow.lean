import Settle.Limiter
import Settle.Poll.Poller
import Settle.Task.StatusTable
import Settle.Task.Submission
import Settle.Value.Misuse

/-!
# Waiting for a task

A workflow takes a submission to a terminal status: it looks the order up if there is one,
polls the status of the task, and returns the resource. Every step is announced:

    submitted, [resolving,] [polling,] succeeded or failed

`failed` is announced for fatal faults alone, with the resource and the handle known by
then filled in; a passed deadline or an absent task announces nothing.

Main statements: `guarded_returned` and `guarded_raised_of_not_fatal` say that the guard
changes nothing but fatal faults; `Move.next_iff` is the state machine as a relation.
-/

namespace Settle

/-! ### The state machine -/

/-- One step of the state machine of a workflow. -/
inductive Move : Stage → Stage → Prop where
  | resolve : Move .submitted .resolving
  | poll : Move .submitted .polling
  | pollResolved : Move .resolving .polling
  | succeed (s : Stage) (h : s = .submitted ∨ s = .resolving ∨ s = .polling) :
      Move s .succeeded
  | fail (s : Stage) (h : s = .submitted ∨ s = .resolving ∨ s = .polling) : Move s .failed

/-- Nothing follows a terminal state, and nothing leads back. -/
theorem Move.next_iff (s t : Stage) :
    Move s t ↔ (s ≠ .succeeded ∧ s ≠ .failed) ∧
      ((t = .succeeded ∨ t = .failed) ∨ (s = .submitted ∧ t = .resolving) ∨
        (s ≠ .polling ∧ t = .polling)) := by
  constructor
  · intro h
    cases h with
    | resolve => simp
    | poll => simp
    | pollResolved => simp
    | succeed _ h => rcases h with rfl | rfl | rfl <;> simp
    | fail _ h => rcases h with rfl | rfl | rfl <;> simp
  · cases s <;> cases t <;> simp <;> constructor <;> simp

/-! ### Workflows -/

/-- The answer to a status query: a report with the trace id of the query, or a bare code;
a bare null is no answer. -/
inductive StatusAnswer where
  | report (code requestId : Value)
  | bare (code : Value)

/-- Whom a workflow goes through, and its windows. -/
structure Workflow (τ ω : Type) where
  poller : Poller τ ω
  limiter : Option (Limiter τ) := none
  readProfile : Option (Profile τ)
  convergeProfile : Option (Profile τ)

/-- How a task asks its status and looks up its order. -/
structure TaskSource (τ ω : Type) where
  query : Value → ω → Except (Fault τ) StatusAnswer × ω
  resolve : Option (Value → ω → Except (Fault τ) OrderAnswer × ω) := none

/-- How one task is to be awaited. -/
structure Await (τ : Type) where
  table : StatusTable
  profile : Option (Profile τ) := none
  policy : NotFoundPolicy := .fatal
  statusAction : Option String := none
  resolveAction : Option String := none

/-- The name given, unless it is empty, or the other one. -/
def orName (given : Option String) (other : String) : String :=
  match given with
  | some s => if s.isEmpty then other else s
  | none => other

namespace Workflow

variable {τ ω α : Type} [Quantity τ]

/-- Announce a state. -/
def announce (p : Progress) : Run τ ω Unit := Run.log (.workflow p)

/-! ### Orders -/

/-- The single entry of an order, with its single resource. -/
def soleEntry (action : Option String) (orderRef : Value) :
    OrderAnswer → Except (Fault τ) DealEntry
  | .nothing =>
    .error (.emptyResponse (.text (orName action "resolve_order"))
      ("order " ++ orderRef.shown ++ " resolved to no payload"))
  | .other kindName => .error (Misuse.notIterable kindName).toFault
  | .entries [.deal entry] =>
    if entry.resourceIds.length = 1 then .ok entry
    else
      .error (.cardinality (.text "resource id in deal") (.int entry.resourceIds.length)
        (.ofOption action))
  | .entries [.other kindName] => .error (Misuse.noMember kindName "resource_ids").toFault
  | .entries items =>
    .error (.cardinality (.text "deal") (.int items.length) (.ofOption action))

/-- Look an order up. Only the call itself is retried, not the inspection of its answer. -/
def resolveWith (host : Host τ ω) (w : Workflow τ ω) (action : Option String)
    (orderRef : Value) (lookup : Run τ ω OrderAnswer) : Run τ ω DealEntry := do
  let answer ← w.poller.call host
    { profile := w.readProfile
      operation := some (orName action "resolve_order")
      name := some "<lambda>" }
    lookup
  Run.ofExcept (soleEntry action orderRef (answer.getD .nothing))

/-- Look an order up at the outside. -/
def resolve (host : Host τ ω) (w : Workflow τ ω) (action : Option String)
    (orderRef : Value) (lookup : Value → ω → Except (Fault τ) OrderAnswer × ω) :
    Run τ ω DealEntry :=
  w.resolveWith host action orderRef (Run.call (.resolve orderRef) (lookup orderRef))

/-! ### Status queries -/

/-- The wording of a status that is pending. -/
def pendingReason (table : StatusTable) (handle code requestId : Value) : String :=
  "task " ++ handle.shown ++ " status is " ++ code.shown ++ " (" ++ table.name.shown ++ ")"
    ++ (if requestId.isTruthy then ", request_id " ++ requestId.shown else "")

/-- What a reported status means. -/
def judgeStatus (table : StatusTable) (operation : String) (handle code requestId : Value) :
    Except (Fault τ) (Reply Value) := do
  match ← table.outcome? code with
  | .succeeded => pure (.done code)
  | .failed => .error (.taskFailed handle code (.text operation) requestId)
  | .pending => pure (.pending (.text (pendingReason table handle code requestId)))

/-- What the answer to a status query means. -/
def judgeAnswer (table : StatusTable) (operation : String) (handle : Value) :
    StatusAnswer → Except (Fault τ) (Reply Value)
  | .report code requestId => judgeStatus table operation handle code requestId
  | .bare code =>
    if code.isNull then .error (.emptyResponse (.text operation) "")
    else judgeStatus table operation handle code .null

/-- Ask for the status of a task once, after acquiring the limit of the status action. -/
def poll (host : Host τ ω) (w : Workflow τ ω) (table : StatusTable) (operation : String)
    (handle : Value) (query : Run τ ω StatusAnswer) : Run τ ω (Reply Value) := do
  match w.limiter with
  | some l => l.acquire host operation
  | none => pure ()
  Run.ofExcept (judgeAnswer table operation handle (← query))

/-! ### Completion -/

/-- Run a part of a workflow under guard: a fatal fault gets the resource and the handle
filled in and is announced before it is passed on. -/
def guarded (resourceId handle : Value) (part : Run τ ω α) : Run τ ω α := do
  match ← part.catching with
  | .ok a => pure a
  | .error e =>
    if e.isFatal then do
      let e := e.fill [("resource_id", resourceId), ("handle", handle)]
      announce (.failed resourceId handle e.text)
      Run.raise e
    else Run.raise e

omit [Quantity τ] in
theorem guarded_returned {r h : Value} {part : Run τ ω α}
    {w w' : World τ ω} {a : α} (e : part w = .returned a w') :
    guarded r h part w = .returned a w' := by
  simp [guarded, Run.bind_apply, Run.catching, e, Run.pure_apply]

omit [Quantity τ] in
theorem guarded_raised_of_not_fatal {r h : Value} {part : Run τ ω α}
    {w w' : World τ ω} {f : Fault τ} (e : part w = .raised f w') (hf : f.isFatal = false) :
    guarded r h part w = .raised f w' := by
  simp [guarded, Run.bind_apply, Run.catching, e, hf, Run.raise]

/-- The resource and the handle that a submission stands for. An order has to be looked
up. -/
def locate (host : Host τ ω) (w : Workflow τ ω) (a : Await τ) (s : Submission)
    (lookup : Option (Value → Run τ ω OrderAnswer)) : Run τ ω (Value × Value) :=
  if s.requiresResolution then
    match lookup with
    | none =>
      Run.raise (.ofText .value "order submissions need a resolve_order callable")
    | some lookup => do
      announce (.resolving s.orderRef)
      let entry ← w.resolveWith host a.resolveAction s.orderRef (lookup s.orderRef)
      pure (entry.resourceIds.headD .null, entry.handle)
  else pure (s.resourceId, s.handle)

/-- Poll the task behind a handle to the end. -/
def settle (host : Host τ ω) (w : Workflow τ ω) (a : Await τ)
    (query : Value → Run τ ω StatusAnswer) (resourceId handle : Value) : Run τ ω Value := do
  if hasTask handle then
    let operation := orName a.statusAction "query_status"
    let (_, polls) ← guarded resourceId handle do
      announce (.polling resourceId handle)
      w.poller.runCounting host
        { profile := a.profile.or w.convergeProfile
          policy := a.policy
          operation := some operation
          name := some "poll" }
        (w.poll host a.table operation handle (query handle))
    announce (.succeeded resourceId handle polls)
    pure resourceId
  else
    announce (.settledAtOnce resourceId)
    pure resourceId

/-- Wait until the task of a submission is terminal, with queries and lookups that are runs
themselves. -/
def awaitWith (host : Host τ ω) (w : Workflow τ ω) (a : Await τ) (s : Submission)
    (query : Value → Run τ ω StatusAnswer) (lookup : Option (Value → Run τ ω OrderAnswer)) :
    Run τ ω Value := do
  announce (.submitted s.action s.resourceId s.orderRef)
  let (resourceId, handle) ← guarded s.resourceId s.handle (w.locate host a s lookup)
  w.settle host a query resourceId handle

/-- Wait until the task of a submission is terminal. The result is the resource, or null if
there is none. -/
def awaitCompletion (host : Host τ ω) (w : Workflow τ ω) (a : Await τ) (s : Submission)
    (source : TaskSource τ ω) : Run τ ω Value :=
  w.awaitWith host a s
    (fun handle => Run.call (.query handle) (source.query handle))
    (source.resolve.map fun lookup orderRef =>
      Run.call (.resolve orderRef) (lookup orderRef))

/-! ### The state of a resource -/

/-- What a resource without a name is called. -/
def resourceName (resourceId : Value) : String := (resourceId.orElse (.text "resource")).shown

/-- The fault that stands for an absent resource. -/
def absence (operation resourceId : Value) : Fault τ :=
  .simple .notFound (resourceName resourceId ++ " not found") { action := operation, resourceId }

/-- What a described status means. A null status means that the resource is absent. -/
def judgeState (table : StatusTable) (operation resourceId code : Value) :
    Except (Fault τ) (Reply Value) := do
  if code.isNull then .error (absence operation resourceId)
  match ← table.outcome? code with
  | .succeeded => pure (.done code)
  | .failed => .error (.taskFailed (resourceId.orElse operation) code operation .null)
  | .pending =>
    pure (.pending (.text (resourceName resourceId ++ " status is " ++ code.shown ++ " ("
      ++ table.name.shown ++ ")")))

/-- Poll the status of a resource until it is terminal, with a description that is a run
itself. There is no result where absence is accepted. The operation may have no name. -/
def awaitStateWith (host : Host τ ω) (w : Workflow τ ω) (a : Await τ)
    (operation : Option String) (resourceId : Value) (describe : Run τ ω Value) :
    Run τ ω (Option Value) :=
  w.poller.run host
    { profile := a.profile.or w.readProfile
      policy := a.policy
      operation
      name := some "check" }
    do Run.ofExcept (judgeState a.table (.ofOption operation) resourceId (← describe))

/-- Poll the status of a resource until it is terminal. -/
def awaitState (host : Host τ ω) (w : Workflow τ ω) (a : Await τ) (operation : Option String)
    (resourceId : Value) (describe : ω → Except (Fault τ) Value × ω) :
    Run τ ω (Option Value) :=
  w.awaitStateWith host a operation resourceId (Run.call .describe describe)

end Workflow

end Settle
