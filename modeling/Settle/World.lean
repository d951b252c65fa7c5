import Settle.Bucket
import Settle.Event

/-!
# Runs in a world

The library acts on a world: the outside (clock, remote service, whatever callables reach),
the buckets of the rate limiters, a supply of numbers for new components, and the trace of
all that happened. A `Host` says how to read the clock of an outside and how to sleep in it.

A `Run` is an operation of the library: it takes a world and ends by returning a value or
raising a fault, in either case with the world it leaves behind, or does not end within the
patience of the host. Loops take that patience as their fuel, so that every definition is
total while "the run ends" stays a statement about the run.

Everything observable goes through the trace, in order: log events, sleeps, notices to the
caller, admissions by a limiter, attempts of a polled action, and calls to the outside.
-/

namespace Settle

/-! ### Hosts and worlds -/

/-- How to read the clock of an outside and how to sleep in it. `patience` bounds the rounds
of any one loop. -/
structure Host (τ ω : Type) where
  read : ω → τ × ω
  sleep : τ → ω → ω
  patience : Nat

/-- A call to the outside, with what it was asked. -/
inductive Call where
  | invoke (action : String) (request : Value)
  | list (offset : Int) (limit : Value)
  | query (handle : Value)
  | resolve (orderRef : Value)
  | describe

/-- One thing that happened. -/
inductive Entry (τ : Type) where
  | logged (event : Event τ)
  | slept (time : τ)
  | noticed (attempt : Nat) (condition : Condition τ) (delay : τ)
  | admitted (action : String) (instant : τ) (paid : Bool)
  | attempted
  | called (call : Call)

/-- The buckets of one limiter, by action. -/
abbrev Buckets (τ : Type) := Ledger String (Bucket τ)

/-- Everything an operation of the library can change. -/
structure World (τ ω : Type) where
  outside : ω
  limiters : Ledger Nat (Buckets τ) := []
  supply : Nat := 0
  trace : Array (Entry τ) := #[]

/-- How a run ends, if it does. -/
inductive Ending (τ ω α : Type) where
  | returned (value : α) (world : World τ ω)
  | raised (fault : Fault τ) (world : World τ ω)
  | unfinished

/-- An operation of the library. -/
def Run (τ ω α : Type) : Type := World τ ω → Ending τ ω α

namespace Run

variable {τ ω α β : Type}

/-! ### Sequencing -/

/-- Return a value and change nothing. -/
def done (a : α) : Run τ ω α := fun w => .returned a w

/-- Go on with the value of a run; a fault ends the whole. -/
def andThen (m : Run τ ω α) (f : α → Run τ ω β) : Run τ ω β := fun w =>
  match m w with
  | .returned a w => f a w
  | .raised e w => .raised e w
  | .unfinished => .unfinished

instance : Monad (Run τ ω) where
  pure := done
  bind := andThen

theorem pure_apply (a : α) (w : World τ ω) : (pure a : Run τ ω α) w = .returned a w := rfl

theorem bind_apply (m : Run τ ω α) (f : α → Run τ ω β) (w : World τ ω) :
    (m >>= f) w =
      match m w with
      | .returned a w => f a w
      | .raised e w => .raised e w
      | .unfinished => .unfinished := rfl

theorem pure_bind (a : α) (f : α → Run τ ω β) : (pure a >>= f : Run τ ω β) = f a := rfl

theorem bind_pure (m : Run τ ω α) : (m >>= pure : Run τ ω α) = m := by
  funext w
  rw [bind_apply]
  cases m w <;> rfl

theorem bind_assoc {γ : Type} (m : Run τ ω α) (f : α → Run τ ω β) (g : β → Run τ ω γ) :
    (m >>= f >>= g : Run τ ω γ) = m >>= fun a => f a >>= g := by
  funext w
  simp only [bind_apply]
  cases m w <;> rfl

/-! ### Single steps -/

/-- Raise a fault. -/
def raise (e : Fault τ) : Run τ ω α := fun w => .raised e w

/-- Give up: the run does not end within the patience of the host. -/
def giveUp : Run τ ω α := fun _ => .unfinished

/-- Turn a fault into a value, so that the run goes on. -/
def catching (m : Run τ ω α) : Run τ ω (Except (Fault τ) α) := fun w =>
  match m w with
  | .returned a w => .returned (.ok a) w
  | .raised e w => .returned (.error e) w
  | .unfinished => .unfinished

/-- Record that something happened. -/
def note (entry : Entry τ) : Run τ ω Unit := fun w =>
  .returned () { w with trace := w.trace.push entry }

/-- Report an event. -/
def log (event : Event τ) : Run τ ω Unit := note (.logged event)

/-- Report events in turn. -/
def logAll : List (Event τ) → Run τ ω Unit
  | [] => pure ()
  | e :: es => do
    log e
    logAll es

/-- Read the clock. -/
def now (host : Host τ ω) : Run τ ω τ := fun w =>
  let r := host.read w.outside
  .returned r.1 { w with outside := r.2 }

/-- Sleep. -/
def sleep (host : Host τ ω) (time : τ) : Run τ ω Unit := fun w =>
  .returned ()
    { w with outside := host.sleep time w.outside, trace := w.trace.push (.slept time) }

/-- Let the outside act. -/
def outside (f : ω → α × ω) : Run τ ω α := fun w =>
  let r := f w.outside
  .returned r.1 { w with outside := r.2 }

/-- Call the outside and take its answer or its fault. -/
def call (c : Call) (f : ω → Except (Fault τ) α × ω) : Run τ ω α := do
  note (.called c)
  match ← outside f with
  | .ok a => pure a
  | .error e => raise e

/-- Take a number that no component has yet. -/
def fresh : Run τ ω Nat := fun w => .returned w.supply { w with supply := w.supply + 1 }

/-- The value of a computation that may fail, as a run. -/
def ofExcept : Except (Fault τ) α → Run τ ω α
  | .ok a => pure a
  | .error e => raise e

end Run

/-! ### Views of a trace -/

namespace World

variable {τ ω : Type}

/-- The calls to the outside, in order. -/
def calls (w : World τ ω) : List Call :=
  w.trace.toList.filterMap fun
    | .called c => some c
    | _ => none

/-- The times slept, in order. -/
def sleeps (w : World τ ω) : List τ :=
  w.trace.toList.filterMap fun
    | .slept t => some t
    | _ => none

/-- The events reported, in order. -/
def events (w : World τ ω) : List (Event τ) :=
  w.trace.toList.filterMap fun
    | .logged e => some e
    | _ => none

/-- The states that workflows announced, in order. -/
def stages (w : World τ ω) : List Stage :=
  w.events.filterMap fun
    | .workflow p => some p.stage
    | _ => none

/-- The number of attempts of polled actions. -/
def attempts (w : World τ ω) : Nat :=
  (w.trace.toList.filter fun
    | .attempted => true
    | _ => false).length

end World

end Settle
