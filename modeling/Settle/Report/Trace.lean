import Settle.Value.Access
import Settle.World

/-!
# Records of faults and traces

The record forms of what can be observed: faults with their particulars, and the entries of
a trace. Admissions by a limiter and attempts of a polled action are kept in a trace for
statements about it and have no record form.
-/

namespace Settle

/-- A fault by its kind and its text. -/
def Fault.toValue {τ : Type} (e : Fault τ) : Value :=
  .record [("error", .text e.typeName), ("message", .text e.text)]

/-- All fields of a context, unset ones included. -/
def Context.allFields (c : Context) : Ledger String Value :=
  (Field.all.map fun f => (f.name, c.get f)) ++ [("metadata", .record c.metadata)]

/-- What the kind of a fault knows, beside its message. -/
def Kind.particulars (k : Kind Float) (cause : Option (Fault Float)) : Ledger String Value :=
  match k with
  | .cardinality what count => [("what", what), ("count", count)]
  | .malformedIdentifier identifier => [("identifier", identifier)]
  | .taskFailed handle code => [("handle", handle), ("status_code", code)]
  | .deadlineExceeded operation deadline elapsed attempts last =>
    [("operation", operation), ("deadline", .float deadline), ("elapsed", .float elapsed),
     ("attempts", attempts), ("last_error", (cause.map Fault.toValue).getD last)]
  | _ => []

/-- A condition: its reason, or its fault. -/
def Condition.toValue {τ : Type} : Condition τ → Value
  | .reason v => v
  | .fault e => e.toValue

/-- The record of a call, under the name of what was called. -/
def Call.toLedger : Call → Ledger String Value
  | .invoke action request => [("invoke", .text action), ("request", request)]
  | .list offset limit => [("list", .list [.int offset, limit])]
  | .query handle => [("query", .list [handle])]
  | .resolve orderRef => [("resolve", .list [orderRef])]
  | .describe => [("describe", .list [])]

/-- The record of an event. -/
def Event.toLedger (e : Event Float) : Ledger String Value :=
  [("log", .text e.name), ("level", .text e.level.name), ("logger", .text e.source),
   ("fields", .record e.fields)]

/-- The record of an entry of a trace, if it has one. -/
def Entry.toLedger? : Entry Float → Option (Ledger String Value)
  | .logged e => some e.toLedger
  | .slept time => some [("sleep", .float time)]
  | .noticed n condition delay =>
    some [("on_retry", .list [.int n, condition.toValue, .float delay])]
  | .called c => some c.toLedger
  | .admitted _ _ _ => none
  | .attempted => none

/-- The records of a trace, in order. -/
def World.report {ω : Type} (w : World Float ω) : List Value :=
  w.trace.toList.filterMap fun e => e.toLedger?.map .record

end Settle
