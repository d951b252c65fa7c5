import Settle.Proofs.Gateway.Classified
import Settle.Proofs.Listing.Reads
import Settle.Proofs.Listing.Requests
import Settle.Proofs.Poll.Payment
import Settle.Proofs.Task.Course

/-!
# Every call to the remote service is paid for

There are three ways to call the outside under a limit: an invoker invokes an action, a reader of
listings requests a page, a workflow queries the status of a task. Each acquires the limit at
another depth: the invoker in the call that is retried, the reader in the request that is retried,
the workflow in the attempt that is polled. In each of them the acquiring and the call stand side by
side below every loop, so a call that is made again is paid for again.

Main statement: `every_call_paid`.
-/

namespace Settle

variable {τ ω α : Type}

/-- What calls are paid under: those of an invoker under the action that is invoked, requests for a
page and status queries under a name of their own. To look an order up or to describe a resource is
free. -/
def Call.fare (name : String) : Call → Option String
  | .invoke action _ => some action
  | .list _ _ | .query _ => some name
  | .resolve _ | .describe => none

variable [Quantity τ] {host : Host τ ω} {name : String}

/-! ### Invokers -/

namespace Invoker

/-- A call through an invoker is paid for under its action, whatever comes of it. -/
theorem pays_call (i : Invoker τ ω) (action : String) (request : Value)
    (classifier : Option (Classifier τ)) :
    (i.call host action request classifier).Pays (Call.fare name) := by
  have hmakes := Run.makes_call (.invoke action request) (i.client action request)
  have hpaid : (do
      Limiter.acquireFrom host i.limiter action
      (Run.call (.invoke action request) (i.client action request)).catching).Pays
        (Call.fare name) := Limiter.pays_chargedFrom i.limiter rfl hmakes.catching
  rw [call, ← Run.bind_assoc]
  -- what is made of the answer is reported and raised, or returned
  refine hpaid.bind fun answer => ?_
  split
  · exact (Run.pays_logAll _).bind fun _ => Run.pays_raise _
  · exact (Run.pays_log _).bind fun _ => Run.pays_raise _
  · exact Run.pays_pure _

end Invoker

/-! ### Listings -/

namespace Listing

variable {r : Reader τ ω} {l : Listing τ ω α}
  {ask : Int → Value → ω → Except (Fault τ) (Listed α) × ω} {given : Option String}
  (hl : l.list = .outside given ask)
include hl

/-- A request for a page is paid for under the name of the list action. -/
theorem pays_fetch (offset : Int) :
    (l.fetch host r offset).Pays (Call.fare l.actionName) := by
  have hmakes : (l.list.ask offset l.pageSize).Makes (.list offset l.pageSize) := by
    rw [hl]
    exact Run.makes_call _ _
  have hpaid : (do
      Limiter.acquireFrom host r.limiter l.actionName
      l.list.ask offset l.pageSize).Pays (Call.fare l.actionName) :=
    Limiter.pays_chargedFrom r.limiter rfl hmakes
  rw [fetch_eq, ← Run.bind_assoc]
  exact hpaid.bind fun listed => Run.pays_ofExcept _

theorem pays_fetchRetried (offset : Int) :
    (l.fetchRetried host r offset).Pays (Call.fare l.actionName) := by
  rw [fetchRetried]
  split
  · exact pays_fetch hl offset
  · refine (Poller.pays_call (pays_fetch hl offset) _).bind fun page => ?_
    split
    · exact Run.pays_pure _
    · exact Run.pays_raise _

/-- Whatever state a traversal is in, what it takes to go on is paid for. -/
theorem pays_next (t : Traversal) : (l.next host r t).Pays (Call.fare l.actionName) := by
  have hstep (offset : Int) (n : Nat) : (l.step host r offset n).Pays (Call.fare l.actionName) := by
    refine (pays_fetchRetried hl offset).bind fun page => ?_
    exact (Run.pays_log _).bind fun _ => Run.pays_pure _
  match t with
  | .fresh =>
    rw [next]
    split
    · exact Run.pays_raise _
    · exact hstep 0 0
  | .between offset n true =>
    rw [next]
    exact (Run.pays_log _).bind fun _ => Run.pays_pure _
  | .between offset n false =>
    rw [next]
    exact hstep _ n
  | .over =>
    rw [next]
    exact Run.pays_pure _

/-- **However far a traversal gets**, the pages it has read are paid for. -/
theorem Reads.paidSince {t t' : Traversal} {w w' : World τ ω} {pages : List (Page α)}
    (h : l.Reads host r t w pages t' w') : w.PaidSince (Call.fare l.actionName) w' := by
  induction h with
  | nil => exact .refl w
  | snoc _ last ih => exact ih.trans (pays_next hl _ last)

theorem pays_pullMany (count : Nat) (t : Traversal) :
    (l.pullMany host r count t).Pays (Call.fare l.actionName) := by
  induction count generalizing t with
  | zero => exact Run.pays_pure _
  | succ count ih =>
    have hpull : (l.pull host r t).Pays (Call.fare l.actionName) := by
      refine (pays_next hl t).catching.bind fun x => ?_
      split
      · exact Run.pays_pure _
      · exact Run.pays_pure _
    rw [pullMany]
    refine hpull.bind fun x => ?_
    split
    · exact (ih _).bind fun _ => Run.pays_pure _
    · exact Run.pays_pure _

theorem pays_collect (keep : α → Except (Fault τ) Bool) :
    (l.collect host r keep).Pays (Call.fare l.actionName) := by
  have hgather (fuel : Nat) (t : Traversal) (items : List α) :
      (l.gather host r keep fuel t items).Pays (Call.fare l.actionName) := by
    induction fuel generalizing t items with
    | zero =>
      intro w x w' h
      exact absurd h Run.not_ends_giveUp
    | succ fuel ih =>
      rw [gather]
      refine (pays_next hl t).bind ?_
      rintro ⟨page, t'⟩
      cases page with
      | none => exact Run.pays_pure _
      | some page => exact (Run.pays_ofExcept _).bind fun _ => ih _ _
  exact hgather _ _ _

theorem pays_findOne (wanted : α → Except (Fault τ) Bool) (what : Value) :
    (l.findOne host r wanted what).Pays (Call.fare l.actionName) := by
  refine (pays_collect hl wanted).bind fun items => ?_
  split
  · exact Run.pays_pure _
  · exact Run.pays_pure _
  · exact Run.pays_raise _

end Listing

/-! ### Workflows -/

namespace Workflow

variable {flow : Workflow τ ω} {a : Await τ} {s : Submission} {source : TaskSource τ ω}

omit [Quantity τ] in
theorem pays_guarded {fare : Call → Option String} {part : Run τ ω α} (h : part.Pays fare)
    (resourceId handle : Value) : (guarded resourceId handle part).Pays fare := by
  refine h.catching.bind fun x => ?_
  split
  · exact Run.pays_pure _
  · split
    · exact (Run.pays_log _).bind fun _ => Run.pays_raise _
    · exact Run.pays_raise _

/-- To locate a task costs nothing. -/
theorem pays_locate : (flow.locate host a s (lookUp source)).Pays (Call.fare name) := by
  have hlookup (lookup : Value → ω → Except (Fault τ) OrderAnswer × ω) (orderRef : Value) :
      (Run.call (.resolve orderRef) (lookup orderRef)).Pays (Call.fare name) :=
    (Run.makes_call _ _).pays rfl
  unfold locate
  split
  · rw [lookUp]
    cases source.resolve with
    | none => exact Run.pays_raise _
    | some lookup =>
      refine (Run.pays_log _).bind fun _ => Run.Pays.bind ?_ fun _ => Run.pays_pure _
      exact (Poller.pays_call (hlookup lookup _) _).bind fun _ => Run.pays_ofExcept _
  · exact Run.pays_pure _

/-- A status query is paid for under the name of the status operation. -/
theorem pays_poll {l : Limiter τ} (hl : flow.limiter = some l) (handle : Value) :
    (flow.poll host a.table a.statusOperation handle (ask source handle)).Pays
      (Call.fare a.statusOperation) := by
  have hpaid : (do
      l.acquire host a.statusOperation
      ask source handle).Pays (Call.fare a.statusOperation) :=
    Limiter.pays_charged rfl (Run.makes_call (.query handle) (source.query handle))
  have hpoll : flow.poll host a.table a.statusOperation handle (ask source handle) = (do
      l.acquire host a.statusOperation
      let answer ← ask source handle
      Run.ofExcept (judgeAnswer a.table a.statusOperation handle answer)) := by
    rw [poll, hl]
  rw [hpoll, ← Run.bind_assoc]
  exact hpaid.bind fun answer => Run.pays_ofExcept _

theorem pays_settle {l : Limiter τ} (hl : flow.limiter = some l) (resourceId handle : Value) :
    (flow.settle host a (ask source) resourceId handle).Pays (Call.fare a.statusOperation) := by
  have hpolls : (pollTask host flow a source handle).Pays (Call.fare a.statusOperation) :=
    Poller.pays_runCounting (pays_poll hl handle) _
  rw [settle]
  split
  · refine (pays_guarded ?_ _ _).bind fun x => ?_
    · exact (Run.pays_log _).bind fun _ => hpolls
    · exact (Run.pays_log _).bind fun _ => Run.pays_pure _
  · exact (Run.pays_log _).bind fun _ => Run.pays_pure _

theorem pays_awaitCompletion {l : Limiter τ} (hl : flow.limiter = some l) :
    (flow.awaitCompletion host a s source).Pays (Call.fare a.statusOperation) := by
  refine (Run.pays_log _).bind fun _ => ?_
  refine (pays_guarded pays_locate _ _).bind fun place => ?_
  exact pays_settle hl _ _

end Workflow

/-! ### All of them -/

/-- **Every call is paid for.** Invocations, requests for a page and status queries are each let
through by a limiter right before they are made, under the action that is invoked or the name of the
list action or of the status operation, and a limiter lets nothing else through. So it is with a
single call of an invoker and with one that is retried, with a traversal that is pulled page by page
from any state, one that is collected and one that looks for a single item, and with a workflow.

Of a run that comes to no end it holds as far as the run gets: along every course of attempts at a
call, at a page or at a status, and along all pages that are read one after the other. -/
theorem every_call_paid (host : Host τ ω) :
    (∀ (i : Invoker τ ω) (action : String) (request : Value) (classifier : Option (Classifier τ))
        (name : String),
      (i.call host action request classifier).Pays (Call.fare name) ∧
      (∀ profile policy,
        (i.callWithRetry host action request profile classifier policy).Pays (Call.fare name)) ∧
      ∀ c : Polling τ ω Value, c.action = Poller.attempt (i.call host action request classifier) →
        ∀ n w m w', c.Course n w m w' → w.PaidSince (Call.fare name) w') ∧
    (∀ (r : Reader τ ω) (given : Option String)
        (ask : Int → Value → ω → Except (Fault τ) (Listed α) × ω) (pageSize : Value)
        (action : Option String) (profile : Option (Profile τ)),
      let l : Listing τ ω α := { list := .outside given ask, pageSize, action, profile }
      (∀ count t, (l.pullMany host r count t).Pays (Call.fare l.actionName)) ∧
      (∀ keep, (l.collect host r keep).Pays (Call.fare l.actionName)) ∧
      (∀ wanted what, (l.findOne host r wanted what).Pays (Call.fare l.actionName)) ∧
      (∀ t w pages t' w', l.Reads host r t w pages t' w' →
        w.PaidSince (Call.fare l.actionName) w') ∧
      ∀ (c : Polling τ ω (Page α)) (offset : Int),
        c.action = Poller.attempt (l.fetch host r offset) →
          ∀ n w m w', c.Course n w m w' → w.PaidSince (Call.fare l.actionName) w') ∧
    ∀ (flow : Workflow τ ω) (limiter : Limiter τ) (a : Await τ) (s : Submission)
        (source : TaskSource τ ω),
      let flow := { flow with limiter := some limiter }
      (flow.awaitCompletion host a s source).Pays (Call.fare a.statusOperation) ∧
      ∀ (c : Polling τ ω Value) (handle : Value),
        c.action = flow.poll host a.table a.statusOperation handle (Workflow.ask source handle) →
          ∀ n w m w', c.Course n w m w' → w.PaidSince (Call.fare a.statusOperation) w' := by
  refine ⟨fun i action request classifier name => ?_, fun r given ask pageSize action profile => ?_,
    fun flow limiter a s source => ?_⟩
  · have hcall : (i.call host action request classifier).Pays (Call.fare name) :=
      i.pays_call action request classifier
    refine ⟨hcall, fun profile policy => Poller.pays_call hcall _, fun c hc n w m w' h => ?_⟩
    exact h.paidSince (hc ▸ Poller.pays_attempt hcall)
  · intro l
    have hl : l.list = .outside given ask := rfl
    refine ⟨Listing.pays_pullMany hl, Listing.pays_collect hl, Listing.pays_findOne hl,
      fun t w pages t' w' h => h.paidSince hl, fun c offset hc n w m w' h => ?_⟩
    exact h.paidSince (hc ▸ Poller.pays_attempt (Listing.pays_fetch hl offset))
  · intro flow
    refine ⟨Workflow.pays_awaitCompletion rfl, fun c handle hc n w m w' h => ?_⟩
    exact h.paidSince (hc ▸ Workflow.pays_poll rfl handle)

/-- An invoker that is refused at its second attempt has paid for both. -/
theorem every_call_paid_refused :
    ∃ e w,
      (Invoker.refused.callWithRetry (.exact 3) "Start" .null (some ⟨.null, 5, 12⟩) none
        .fatal).Ends { outside := (0, 0) } (.error e) w ∧
      World.PaidSince (Call.fare "") ({ outside := (0, 0) } : World ℚ (ℚ × ℕ)) w ∧
      w.outside = (5, 2) := by
  obtain ⟨w, hw, ho⟩ := Run.exists_ends_of_report
    (m := Invoker.refused.callWithRetry (.exact 3) "Start" .null (some ⟨.null, 5, 12⟩) none .fatal)
    (w := { outside := (0, 0) })
    (r := .error (.structured none .fatal (.text "refused") { action := .text "Start" }
      (some (.ofText .value "refused")) (some (.ofText .value "refused"))))
    (o := (5, 2)) (by decide +kernel)
  obtain ⟨hinvokers, -⟩ := @every_call_paid ℚ (ℚ × ℕ) Unit _ (.exact 3)
  obtain ⟨-, hretried, -⟩ := hinvokers Invoker.refused "Start" .null none ""
  exact ⟨_, w, hw, hretried (some ⟨.null, 5, 12⟩) .fatal hw, ho⟩

end Settle
