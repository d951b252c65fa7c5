import Settle.Rehearsal.Script
import Settle.Value.Slice

/-!
# A scripted remote service

The remote service of a rehearsal answers each action from a script of its own, or serves a
listing page by page, as the offset and the limit of the request ask for. Faults can be
injected: the next calls of an action then raise a remote fault instead, before anything is
played.
-/

namespace Settle

/-- How one action is answered. -/
inductive RemoteAction (τ : Type) where
  | script (script : Script τ Value)
  | listing (key : String) (items : Value)

/-- A fault to inject: what it says and how often it comes. -/
structure Injected where
  code : Value
  message : Value := .text "injected fault"
  requestId : Value := .null
  times : Int

/-- A scripted remote service. -/
structure Remote (τ : Type) where
  actions : Ledger String (RemoteAction τ) := []
  injected : Ledger String Injected := []

namespace Remote

variable {τ : Type} [Quantity τ]

/-- The fault to inject into the next call of an action, if there is one left. -/
def injection? (s : Remote τ) (action : String) (r : Rehearsal τ) : Option Injected :=
  (s.injected.get? action).filter fun i => decide ((r.count ("fault " ++ action) : Int) < i.times)

/-- The fault for an action without a script. -/
def unscripted (action : String) : Fault τ :=
  .remote none (.text "InvalidAction") (.text ("action " ++ action ++ " is not scripted")) .null

omit [Quantity τ] in
/-- The items that a request asks for by its offset and its limit. -/
def pageOf (items request : Value) : Except Misuse Value := do
  let offset ← request.entry "Offset"
  let stop ← offset.sum? (← request.entry "Limit")
  items.slice? offset stop

/-- Answer a call. -/
def invoke (s : Remote τ) (action : String) (request : Value) (r : Rehearsal τ) :
    Except (Fault τ) Value × Rehearsal τ :=
  match s.injection? action r with
  | some i => (.error (.remote none i.code i.message i.requestId), r.counted ("fault " ++ action))
  | none =>
    match s.actions.get? action with
    | none => (.error (unscripted action), r)
    | some (.script script) => r.play ("remote " ++ action) script none
    | some (.listing key items) =>
      (((pageOf items request).map fun page => .record [(key, page)]).mapError Misuse.toFault, r)

end Remote

end Settle
