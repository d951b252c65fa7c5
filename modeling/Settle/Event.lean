import Settle.Decimal.Rounding
import Settle.Fault.Basic

/-!
# Log events

Everything the library reports is one of the events below. An event is data; `name`,
`level`, `source` and `fields` say how a log record shows it. Times are shown as they are,
except for the time spent waiting for the limiter, which is rounded to milliseconds.
-/

namespace Settle

/-- How grave an event is. The library itself reports nothing critical. -/
inductive Level where
  | debug
  | info
  | warning
  | error
  | critical
  deriving DecidableEq, Repr

/-- The name of a level in records. -/
def Level.name : Level → String
  | debug => "debug"
  | info => "info"
  | warning => "warning"
  | error => "error"
  | critical => "critical"

/-- The level of a name. -/
def Level.ofName? (s : String) : Option Level :=
  [debug, info, warning, error, critical].find? fun l => l.name == s

/-- The weight of a level, by which records are held back. -/
def Level.weight : Level → Nat
  | debug => 10
  | info => 20
  | warning => 30
  | error => 40
  | critical => 50

/-- The states of a workflow, each with what its event reports. A null resource is none. -/
inductive Progress where
  | submitted (action resourceId orderRef : Value)
  | resolving (orderRef : Value)
  | polling (resourceId handle : Value)
  | settledAtOnce (resourceId : Value)
  | succeeded (resourceId handle : Value) (polls : Nat)
  | failed (resourceId handle : Value) (reason : String)

/-- What the library reports. -/
inductive Event (τ : Type) where
  | retryAbsent (operation : String) (attempts : Nat)
  | retryFatal (operation : String) (attempts : Nat) (errorClass : ErrorClass)
      (reason : String)
  | retryConverged (operation : String) (attempts : Nat)
  | retryPending (operation : String) (attempt : Nat) (condition : String) (delay : τ)
  | retryExpired (operation : String) (profile : Value) (attempts : Nat) (condition : String)
  | limiterAdmitted (action : String) (waited : τ)
  | limiterOpened (action : String) (waited maxWait : τ)
  | callFailed (action : String) (requestId : Value) (errorClass : ErrorClass)
      (reason : String)
  | callEmpty (action : String)
  | pageRead (action : String) (offset : Int) (count : Nat) (limit : Value)
  | pagesDone (action : String) (roundTrips : Nat)
  | workflow (progress : Progress)
  | limiterCreated (defaultRate : τ) (overrides : Nat)

/-- The states of a workflow. -/
inductive Stage where
  | submitted
  | resolving
  | polling
  | succeeded
  | failed
  deriving DecidableEq, Repr

/-- The name of a state in records. -/
def Stage.name : Stage → String
  | submitted => "submitted"
  | resolving => "resolving"
  | polling => "polling"
  | succeeded => "succeeded"
  | failed => "failed"

/-- All states, in the order in which a workflow can reach them. -/
def Stage.all : List Stage := [submitted, resolving, polling, succeeded, failed]

namespace Progress

/-- The state that a report announces. -/
def stage : Progress → Stage
  | submitted _ _ _ => .submitted
  | resolving _ => .resolving
  | polling _ _ => .polling
  | settledAtOnce _ => .succeeded
  | succeeded _ _ _ => .succeeded
  | failed _ _ _ => .failed

/-- What a report says beside the state. -/
def fields : Progress → List (String × Value)
  | submitted a r o => [("action", a), ("resource_id", r), ("order_ref", o)]
  | resolving o => [("order_ref", o)]
  | polling r h => [("resource_id", r), ("handle", h)]
  | settledAtOnce r => [("resource_id", r), ("polls", .int 0)]
  | succeeded r h n => [("resource_id", r), ("handle", h), ("polls", .int n)]
  | failed r h s => [("resource_id", r), ("handle", h), ("reason", .text s)]

end Progress

namespace Event

variable {τ : Type}

/-- The name of an event. -/
def name : Event τ → String
  | retryAbsent _ _ => "retry.absent"
  | retryFatal _ _ _ _ => "retry.fatal"
  | retryConverged _ _ => "retry.converged"
  | retryPending _ _ _ _ => "retry.pending"
  | retryExpired _ _ _ _ => "retry.deadline_exceeded"
  | limiterAdmitted _ _ => "rate_limit.admitted"
  | limiterOpened _ _ _ => "rate_limit.watchdog_fail_open"
  | callFailed _ _ _ _ => "invoker.call_failed"
  | callEmpty _ => "invoker.empty_response"
  | pageRead _ _ _ _ => "pagination.page"
  | pagesDone _ _ => "pagination.done"
  | workflow _ => "convergence.state"
  | limiterCreated _ _ => "container.rate_limiter_created"

/-- How grave an event is. A failed call that may clear up by itself is a warning. -/
def level : Event τ → Level
  | retryAbsent _ _ => .debug
  | retryFatal _ _ _ _ => .error
  | retryConverged _ _ => .info
  | retryPending _ _ _ _ => .debug
  | retryExpired _ _ _ _ => .warning
  | limiterAdmitted _ _ => .debug
  | limiterOpened _ _ _ => .warning
  | callFailed _ _ c _ => if c = .transient then .warning else .error
  | callEmpty _ => .error
  | pageRead _ _ _ _ => .debug
  | pagesDone _ _ => .debug
  | workflow _ => .info
  | limiterCreated _ _ => .debug

/-- The name of the logger that reports an event. -/
def source : Event τ → String
  | retryAbsent _ _ | retryFatal _ _ _ _ | retryConverged _ _ | retryPending _ _ _ _
  | retryExpired _ _ _ _ => "converge.execution.retry"
  | limiterAdmitted _ _ | limiterOpened _ _ _ => "converge.execution.rate_limit"
  | callFailed _ _ _ _ | callEmpty _ => "converge.execution.invoker"
  | pageRead _ _ _ _ | pagesDone _ _ => "converge.execution.pagination"
  | workflow _ => "converge.execution.convergence"
  | limiterCreated _ _ => "converge.container"

/-- The time spent waiting as records show it. -/
def shownWait (waited : Float) : Value := .float (Decimal.toPlaces 3 waited)

/-- What a record shows of an event beside its name. -/
def fields : Event Float → List (String × Value)
  | retryAbsent op n => [("operation", .text op), ("attempts", .int n)]
  | retryFatal op n c reason =>
    [("operation", .text op), ("attempts", .int n), ("error_class", .text c.name),
     ("reason", .text reason)]
  | retryConverged op n => [("operation", .text op), ("attempts", .int n)]
  | retryPending op n condition delay =>
    [("operation", .text op), ("attempt", .int n), ("condition", .text condition),
     ("delay", .float delay)]
  | retryExpired op profile n condition =>
    [("operation", .text op), ("profile", profile), ("attempts", .int n),
     ("condition", .text condition)]
  | limiterAdmitted action waited => [("action", .text action), ("waited", shownWait waited)]
  | limiterOpened action waited maxWait =>
    [("action", .text action), ("waited", shownWait waited), ("max_wait", .float maxWait)]
  | callFailed action request c reason =>
    [("action", .text action), ("request_id", request), ("error_class", .text c.name),
     ("reason", .text reason)]
  | callEmpty action => [("action", .text action)]
  | pageRead action offset count limit =>
    [("action", .text action), ("offset", .int offset), ("count", .int count),
     ("limit", limit)]
  | pagesDone action n => [("action", .text action), ("round_trips", .int n)]
  | workflow p => ("state", .text p.stage.name) :: p.fields
  | limiterCreated rate n => [("default_rate", .float rate), ("overrides", .int n)]

end Event

end Settle
