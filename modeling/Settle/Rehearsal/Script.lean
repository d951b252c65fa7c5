import Settle.Listing.Traversal
import Settle.Report.Components
import Settle.Task.Workflow

/-!
# Rehearsals

In a rehearsal the outside is scripted: every answer is played from a script, and the clock
is a number that moves by sleeping and by the cues of the scripts alone. So a rehearsal
shows what a run does without a remote service and without waiting.

A script is a list of cues. Each call plays the next cue; the last one repeats for ever,
unless something else is said to follow it.
-/

namespace Settle

/-- The state of a rehearsal: the clock, how fast it runs while one sleeps, the least time
that a sleep takes, and how far each script has been played. -/
structure Rehearsal (τ : Type) where
  clock : τ
  pace : τ
  tick : τ
  played : Ledger String Nat := []

/-- One cue of a script: the clock moves, and then there is an answer. -/
structure Cue (τ α : Type) where
  pause : Option τ := none
  answer : Except (Fault τ) α

/-- What is played call by call. -/
abbrev Script (τ α : Type) := List (Cue τ α)

namespace Rehearsal

variable {τ α : Type} [Quantity τ]

/-- Let time pass. -/
def pass (time : τ) (r : Rehearsal τ) : Rehearsal τ := { r with clock := r.clock + time }

/-- The host of a rehearsal. A clock that does not run while one sleeps stands still; any
other moves by at least a tick. -/
def host (patience : Nat) : Host τ (Rehearsal τ) where
  read r := (r.clock, r)
  sleep time r :=
    if Quantity.zero < r.pace then r.pass (Quantity.greatest (time * r.pace) r.tick) else r
  patience := patience

omit [Quantity τ] in
/-- How often a script has been played. -/
def count (r : Rehearsal τ) (name : String) : Nat := (r.played.get? name).getD 0

omit [Quantity τ] in
/-- Count one more play of a script. -/
def counted (r : Rehearsal τ) (name : String) : Rehearsal τ :=
  { r with played := r.played.put name (r.count name + 1) }

omit [Quantity τ] in
/-- The cue of the `n`th call, counted from zero. -/
def cueAt (script : Script τ α) (after : Option (Cue τ α)) (n : Nat) : Option (Cue τ α) :=
  (script[n]?).or (after.or script.getLast?)

/-- Play the next cue of a script. One that is empty, with nothing to follow it, has none. -/
def play (name : String) (script : Script τ α) (after : Option (Cue τ α))
    (r : Rehearsal τ) : Except (Fault τ) α × Rehearsal τ :=
  let cue := cueAt script after (r.count name)
  let r := r.counted name
  match cue with
  | none => (.error (.ofText .position "list index out of range"), r)
  | some cue =>
    (cue.answer, match cue.pause with
      | some time => r.pass time
      | none => r)

end Rehearsal

/-! ### Answers of any kind -/

/-- What a cue can answer, for every kind of callable. -/
inductive Played where
  | done (value : Value)
  | pending (reason : Value)
  | report (code requestId : Value)
  | deals (entries : List DealEntry)
  | page (page : Page Value)
  | value (value : Value)

namespace Played

/-- The answer as a value. -/
def toValue : Played → Value
  | done v => .record [("done", v)]
  | pending reason => .record [("pending", reason)]
  | report code requestId => .record [("code", code), ("request_id", requestId)]
  | deals entries => .list (entries.map DealEntry.toValue)
  | page p => p.toValue
  | value v => v

/-- The name of the kind of an answer, as messages call it. -/
def kindName : Played → String
  | done _ => "Done"
  | pending _ => "Pending"
  | report _ _ => "StatusReport"
  | deals _ => "list"
  | page _ => "Page"
  | value v => v.kindName

/-- The answer as that of a polled action. -/
def toReply : Played → Reply Value
  | done v => .done v
  | pending reason => .pending reason
  | other => .other other.kindName

/-- The answer as that to a status query. -/
def toStatus : Played → StatusAnswer
  | report code requestId => .report code requestId
  | other => .bare other.toValue

/-- The answer as that to the lookup of an order. -/
def toOrder : Played → OrderAnswer
  | deals entries => .ofDeals entries
  | value .null => .nothing
  | value v =>
    if v.isIterable then .entries (v.asItems.map fun x => .other x.kindName)
    else .other v.kindName
  | other => .other other.kindName

/-- The answer as that of a list action. -/
def toListed? {τ : Type} : Played → Except (Fault τ) (Listed Value)
  | page p => .ok (.page p)
  | value .null => .ok .nothing
  | value v => (v.items?.map .items).mapError Misuse.toFault
  | deals entries => .ok (.items (entries.map DealEntry.toValue))
  | other => .error (Misuse.notIterable other.kindName).toFault

end Played

end Settle
