import Settle.Fault.Basic

/-!
# Submissions

A submission is what a call that starts a task returns: either the resource and the handle
of the task, or the reference of an order that has to be looked up first. `create?` refuses
a submission that claims to be both; `create?_eq_ok_iff` says exactly which.
-/

namespace Settle

/-- What a call that starts a task returned. What is null is not there. -/
structure Submission where
  resourceId : Value := .null
  handle : Value := .null
  orderRef : Value := .null
  action : Value := .null

namespace Submission

/-- Must the order be looked up first? -/
def requiresResolution (s : Submission) : Bool := !s.orderRef.isNull

/-- Does the submission carry an order beside a resource or a handle? -/
def isMixed (s : Submission) : Bool :=
  s.requiresResolution && (!s.resourceId.isNull || !s.handle.isNull)

/-- The submission, unless it is mixed. -/
def create? {τ : Type} (s : Submission) : Except (Fault τ) Submission :=
  if s.isMixed then
    .error (.ofText .value "an order submission carries neither resource_id nor handle")
  else .ok s

theorem create?_eq_ok_iff {τ : Type} {s t : Submission} :
    create? (τ := τ) s = .ok t ↔ t = s ∧ s.isMixed = false := by
  unfold create?
  split
  · next h => simp [h]
  · next h => simp [h, eq_comm]

/-- A submission with its results at hand. -/
def direct (resourceId handle action : Value) : Submission := { resourceId, handle, action }

/-- A submission that names an order. -/
def order (orderRef action : Value) : Submission := { orderRef, action }

end Submission

/-! ### Orders -/

/-- One entry of an order: the resources it brought and the handle of its task. -/
structure DealEntry where
  resourceIds : List Value
  handle : Value := .null

/-- What stands among the entries of an order: an entry, or something of another kind. -/
inductive OrderItem where
  | deal (entry : DealEntry)
  | other (kindName : String)

/-- The answer to the lookup of an order: nothing, the entries of the order, or something
that has no entries. -/
inductive OrderAnswer where
  | nothing
  | entries (items : List OrderItem)
  | other (kindName : String)

/-- The answer that holds the entries of an order. -/
def OrderAnswer.ofDeals (entries : List DealEntry) : OrderAnswer :=
  .entries (entries.map .deal)

/-- Does a handle stand for a task? Null, zero and the empty text mean that the task is
finished already. -/
def hasTask (handle : Value) : Bool :=
  !handle.isNull && !handle.same (.int 0) && !handle.same (.text "")

end Settle
