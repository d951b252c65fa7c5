import Settle.Proofs.Limiter.Rounds
import Settle.Proofs.Poll.Faults
import Settle.Proofs.Poll.Script
import Settle.Proofs.Task.Course

/-!
# Waiting for a task to complete

A status query that leaves the workflow waiting is asked again; any other answer decides how
the workflow ends. `Await.Waiting` says which answers leave it waiting and `Await.Settles` how
each of the others ends it, whatever was answered before.

Three layers stand between an answer and the result. The status table reads the answer as one
of the polled action (`judgeAnswer_cases`), the polling run judges that, and the guard of the
workflow fills in the context of fatal faults (`reported`). `waiting_of_waits` and
`settles_of_last` follow an answer through all of them.

Main statement: `awaitCompletion_settles`.
-/

namespace Settle

variable {τ ω α β : Type}

/-! ### Answers to status queries -/

namespace StatusAnswer

/-- The code that an answer gives. -/
def code : StatusAnswer → Value
  | report code _ => code
  | bare code => code

/-- The trace id of the query, null if the answer has none. -/
def requestId : StatusAnswer → Value
  | report _ requestId => requestId
  | bare _ => .null

/-- Is the answer none at all? -/
def isNothing : StatusAnswer → Bool
  | report _ _ => false
  | bare code => code.isNull

end StatusAnswer

namespace Workflow

/-- The fault of a task that has failed. -/
def failure (operation : String) (handle : Value) (answer : StatusAnswer) : Fault τ :=
  .taskFailed handle answer.code (.text operation) answer.requestId

/-- What an answer with a code that can be looked up means. -/
theorem judgeAnswer_cases (table : StatusTable) (operation : String) (handle : Value)
    {answer : StatusAnswer} (hs : answer.code.isScalar = true) :
    (answer.isNothing = true ∧
      judgeAnswer (τ := τ) table operation handle answer =
        .error (.emptyResponse (.text operation) "")) ∨
    (answer.isNothing = false ∧ table.outcome answer.code = .succeeded ∧
      judgeAnswer (τ := τ) table operation handle answer = .ok (.done answer.code)) ∨
    (answer.isNothing = false ∧ table.outcome answer.code = .failed ∧
      judgeAnswer (τ := τ) table operation handle answer =
        .error (failure operation handle answer)) ∨
    (answer.isNothing = false ∧ table.outcome answer.code = .pending ∧
      ∃ reason, judgeAnswer (τ := τ) table operation handle answer = .ok (.pending reason)) := by
  have hanswer (h : answer.isNothing = false) :
      judgeAnswer (τ := τ) table operation handle answer =
        judgeStatus table operation handle answer.code answer.requestId := by
    cases answer with
    | report code requestId => rfl
    | bare code => exact if_neg (by rw [← Bool.not_eq_true] at h; exact h)
  -- no answer comes before any look at the table
  cases hn : answer.isNothing with
  | true =>
    refine .inl ⟨rfl, ?_⟩
    cases answer with
    | report code requestId => cases hn
    | bare code => exact if_pos hn
  | false =>
    rw [hanswer hn, judgeStatus, StatusTable.outcome?, if_pos hs]
    cases table.outcome answer.code with
    | succeeded => exact .inr (.inl ⟨rfl, rfl, rfl⟩)
    | failed => exact .inr (.inr (.inl ⟨rfl, rfl, rfl⟩))
    | pending => exact .inr (.inr (.inr ⟨rfl, rfl, _, rfl⟩))

end Workflow

/-! ### What an answer decides -/

namespace Await

/-- An answer leaves the workflow waiting: a code that is pending, or a fault that is waited
out. -/
inductive Waiting (a : Await τ) (classify : Classifier τ) :
    Except (Fault τ) StatusAnswer → Prop
  | pending {answer : StatusAnswer} (h : answer.isNothing = false)
      (ho : a.table.outcome answer.code = .pending) : Waiting a classify (.ok answer)
  | transient {e : Fault τ} (h : Poll.classOf classify e = .ok (some .transient)) :
      Waiting a classify (.error e)
  | absent {e : Fault τ} (h : Poll.classOf classify e = .ok (some .notFound))
      (hp : a.policy = .retry) : Waiting a classify (.error e)

/-- How the last answer to a status query settles the task of a submission. -/
inductive Settles (a : Await τ) (classify : Classifier τ) (s : Submission) :
    Except (Fault τ) StatusAnswer → Except (Fault τ) Value → Prop
  | succeeded {answer : StatusAnswer} (h : answer.isNothing = false)
      (ho : a.table.outcome answer.code = .succeeded) :
      Settles a classify s (.ok answer) (.ok s.resourceId)
  | failed {answer : StatusAnswer} {f : Fault τ} (h : answer.isNothing = false)
      (ho : a.table.outcome answer.code = .failed)
      (kind : f.kind? = some (.taskFailed s.handle answer.code))
      (context : f.context? = some
        { action := .text a.statusOperation, requestId := answer.requestId,
          resourceId := s.resourceId, handle := s.handle, statusCode := answer.code }) :
      Settles a classify s (.ok answer) (.error f)
  | nothing {answer : StatusAnswer} {f : Fault τ} (h : answer.isNothing = true)
      (kind : f.kind? = some .emptyResponse) : Settles a classify s (.ok answer) (.error f)
  | absent {e : Fault τ} (h : Poll.classOf classify e = .ok (some .notFound))
      (hp : a.policy = .absent) : Settles a classify s (.error e) (.ok s.resourceId)
  | missing {e f : Fault τ} (h : Poll.classOf classify e = .ok (some .notFound))
      (hp : a.policy = .fatal) (kind : f.kind? = some .notFound) (hs : e.StemsFrom f) :
      Settles a classify s (.error e) (.error f)
  | fatal {e f : Fault τ} {kind : Kind τ} (h : Poll.classOf classify e = .ok (some .fatal))
      (hk : f.kind? = some kind) (hf : "FatalError" ∈ kind.lineage) (hs : e.StemsFrom f) :
      Settles a classify s (.error e) (.error f)
  | unclassified {e : Fault τ} (h : Poll.classOf classify e = .ok none) :
      Settles a classify s (.error e) (.error e)
  | outOfTime {x : Except (Fault τ) StatusAnswer} {f : Fault τ} {operation : Value}
      {deadline elapsed : τ} {attempts reason : Value} (h : a.Waiting classify x)
      (kind : f.kind? = some (.deadlineExceeded operation deadline elapsed attempts reason)) :
      Settles a classify s x (.error f)

end Await

namespace Workflow

/-! ### From answers to results -/

section Layers

variable {a : Await τ} {classify : Classifier τ} {handle : Value}
  {y : Except (Fault τ) StatusAnswer}

/-- What the workflow reads in an answer, if there is one. -/
def read (a : Await τ) (handle : Value) (y : Except (Fault τ) StatusAnswer) :
    Except (Fault τ) (Reply Value) :=
  y.bind (judgeAnswer a.table a.statusOperation handle)

/-- The codes of an answer can be looked up. -/
def Readable (y : Except (Fault τ) StatusAnswer) : Prop :=
  ∀ answer, y = .ok answer → answer.code.isScalar = true

/-- A polling run waits only where the workflow does. -/
theorem waiting_of_waits (hy : Readable y) {condition : Condition τ}
    (h : Poll.Waits a.policy classify (read a handle y) condition) : a.Waiting classify y := by
  cases y with
  | error e =>
    cases h with
    | transient h => exact .transient h
    | absent h hp => exact .absent h hp
  | ok answer =>
    change Poll.Waits a.policy classify (judgeAnswer a.table a.statusOperation handle answer)
      condition at h
    rcases judgeAnswer_cases (τ := τ) a.table a.statusOperation handle (hy answer rfl) with
      ⟨-, hj⟩ | ⟨-, -, hj⟩ | ⟨-, -, hj⟩ | ⟨hn, ho, -⟩
    -- no answer and a failed task are fatal faults of the library's own
    · rw [hj] at h
      cases h with
      | transient h => cases h
      | absent h hp => cases h
    · rw [hj] at h
      cases h
    · rw [hj] at h
      cases h with
      | transient h => cases h
      | absent h hp => cases h
    · exact .pending hn ho

variable [Quantity τ] {c : Polling τ ω Value} {s : Submission} {n : Nat} {w w₁ w' : World τ ω}
  {r : Except (Fault τ) (Option Value × Nat)}

omit [Quantity τ] in
/-- The context of a failed task is complete, and the guard adds only the resource. -/
theorem context_failure (operation : String) (resourceId handle : Value)
    (answer : StatusAnswer) :
    (reported resourceId handle
      (Poll.finalFault operation .fatal (failure (τ := τ) operation handle answer))).context? =
        some { action := .text operation, requestId := answer.requestId, resourceId := resourceId,
               handle := handle, statusCode := answer.code } := by
  have hpassed : Fault.PassedOn operation (failure (τ := τ) operation handle answer)
      (Poll.finalFault operation .fatal (failure operation handle answer)) :=
    Poll.finalFault_of_structured rfl
  have hclass : Poll.classOf Classifier.allFatal (failure (τ := τ) operation handle answer) =
      .ok (some .fatal) := rfl
  have hfatal : (Poll.finalFault operation .fatal
      (failure (τ := τ) operation handle answer)).isFatal = true := by
    rw [Fault.isFatal, Poll.errorClass_finalFault hclass]
    rfl
  -- the handle is set already, and the resource is not
  rw [context_reported_of_fatal hfatal, hpassed.context]
  have hnull : Value.null.isNull = true := rfl
  simp [failure, Fault.taskFailed, Fault.simple, Fault.context?, Context.located, hnull]

/-- An answer that leaves the workflow waiting settles the task only by the deadline. -/
theorem settles_of_waits (hy : Readable y) (hpolicy : c.policy = a.policy)
    (h : c.LastWith n w (read a s.handle y) w₁ r w') {condition : Condition τ}
    (hw : Poll.Waits c.policy c.classify (read a s.handle y) condition) :
    a.Settles c.classify s y
      ((r.mapError (reported s.resourceId s.handle)).map fun _ => s.resourceId) := by
  obtain ⟨elapsed, rfl⟩ := h.of_waits hw
  rw [hpolicy] at hw
  exact .outOfTime (waiting_of_waits hy hw) (kind_reported s.resourceId s.handle _)

/-- The last round settles the task as its answer says. -/
theorem settles_of_last (hy : Readable y) (hc : classify.IsTotal)
    (hclassify : c.classify = classify) (hpolicy : c.policy = a.policy)
    (hoperation : c.operation = a.statusOperation)
    (h : c.LastWith n w (read a s.handle y) w₁ r w') :
    a.Settles classify s y
      ((r.mapError (reported s.resourceId s.handle)).map fun _ => s.resourceId) := by
  subst hclassify
  -- a fault is judged by its class, an answer by the table
  cases y with
  | error e =>
    change c.LastWith n w (.error e) w₁ r w' at h
    rcases Poll.classOf_eq_none_or (hc e) with ⟨-, hn, hk⟩ | ⟨k, hk⟩
    · obtain ⟨rfl, -⟩ := h.of_unclassified hk
      have hreported : reported s.resourceId s.handle e = e :=
        reported_of_not_fatal (by rw [Fault.isFatal, hn]; rfl)
      change a.Settles c.classify s (.error e) (.error (reported s.resourceId s.handle e))
      rw [hreported]
      exact .unclassified hk
    · rcases c.policy.isFatal_or k with hf | hwait | ⟨rfl, hp⟩
      · -- the fault of the run stems from this one, and keeps its class through the guard
        obtain rfl := h.of_isFatal hk hf
        have hfinal : (Poll.finalFault c.operation k e).errorClass = some k :=
          Poll.errorClass_finalFault hk
        obtain ⟨kind, hkind, hclass⟩ := Fault.exists_kind_of_errorClass hfinal
        rw [← kind_reported s.resourceId s.handle] at hkind
        have hstems : e.StemsFrom
            (reported s.resourceId s.handle (Poll.finalFault c.operation k e)) :=
          stemsFrom_reported (Poll.stemsFrom_finalFault c.operation k e) _ _
        rcases hf with rfl | ⟨rfl, hp⟩
        · exact .fatal hk hkind (Kind.mem_lineage_of_fatal hclass) hstems
        · rw [Kind.eq_notFound hclass] at hkind
          exact .missing hk (hpolicy.symm.trans hp) hkind hstems
      · rcases hwait with rfl | ⟨rfl, hp⟩
        · exact settles_of_waits hy hpolicy h (.transient hk)
        · exact settles_of_waits hy hpolicy h (.absent hk hp)
      · obtain rfl := h.of_absent hk hp
        exact .absent hk (hpolicy.symm.trans hp)
  | ok answer =>
    have hread : read a s.handle (.ok answer) =
        judgeAnswer (τ := τ) a.table a.statusOperation s.handle answer := rfl
    rcases judgeAnswer_cases (τ := τ) a.table a.statusOperation s.handle (hy answer rfl) with
      ⟨hn, hj⟩ | ⟨hn, ho, hj⟩ | ⟨hn, ho, hj⟩ | ⟨hn, ho, reason, hj⟩
    · rw [hread, hj] at h
      obtain rfl := h.of_isFatal (k := .fatal) rfl (.inl rfl)
      exact .nothing hn (kind_reported s.resourceId s.handle _)
    · rw [hread, hj] at h
      obtain rfl := h.of_done
      exact .succeeded hn ho
    · rw [hread, hj] at h
      obtain rfl := h.of_isFatal (k := .fatal) rfl (.inl rfl)
      rw [hoperation]
      exact .failed hn ho (kind_reported s.resourceId s.handle _) (context_failure _ _ _ _)
    · have hw : Poll.Waits c.policy c.classify (read a s.handle (.ok answer))
          (.reason reason) := by
        rw [hread, hj]
        exact .pending reason
      exact settles_of_waits hy hpolicy h hw

end Layers

/-! ### Whole runs -/

variable [Quantity τ] {host : Host τ ω} {flow : Workflow τ ω} {a : Await τ} {s : Submission}
  {source : TaskSource τ ω} {position : ω → Nat}

/-- The remote service answers status queries by a script, and nothing else that happens while
a workflow waits moves the position in it. -/
structure Plays (host : Host τ ω) (flow : Workflow τ ω) (source : TaskSource τ ω)
    (script : Nat → Except (Fault τ) StatusAnswer) (position : ω → Nat) : Prop where
  host : host.Leaves position
  poller : flow.poller.Leaves position
  answer (handle : Value) (o : ω) : (source.query handle o).1 = script (position o)
  next (handle : Value) (o : ω) : position (source.query handle o).2 = position o + 1

section Polls

variable {script : Nat → Except (Fault τ) StatusAnswer} {handle : Value} {w w' : World τ ω}
  (hp : flow.Plays host source script position)
include hp

omit [Quantity τ] in
/-- One query asks for just the handle it was given. -/
theorem query_ends {y : Except (Fault τ) StatusAnswer}
    (h : (Run.call (.query handle) (source.query handle)).Ends w y w') :
    y = script (position w.outside) ∧ position w'.outside = position w.outside + 1 ∧
      w'.calls = w.calls ++ [.query handle] := by
  obtain ⟨rfl, rfl⟩ := Run.ends_call.mp h
  exact ⟨hp.answer handle w.outside, hp.next handle w.outside, World.calls_called _⟩

/-- One poll acquires the limit and asks once. -/
theorem poll_ends {x : Except (Fault τ) (Reply Value)}
    (h : (flow.poll host a.table a.statusOperation handle
      (Run.call (.query handle) (source.query handle))).Ends w x w') :
    x = read a handle (script (position w.outside)) ∧
      position w'.outside = position w.outside + 1 ∧ w'.calls = w.calls ++ [.query handle] := by
  have hask {w₁ : World τ ω}
      (h : (Run.call (.query handle) (source.query handle) >>= fun y =>
        Run.ofExcept (judgeAnswer a.table a.statusOperation handle y)).Ends w₁ x w') :
      x = read a handle (script (position w₁.outside)) ∧
        position w'.outside = position w₁.outside + 1 ∧
        w'.calls = w₁.calls ++ [.query handle] := by
    obtain ⟨y, hy, rfl⟩ := Run.ends_bind_ofExcept.mp h
    obtain ⟨rfl, hrest⟩ := query_ends hp hy
    exact ⟨rfl, hrest⟩
  rw [poll] at h
  cases hl : flow.limiter with
  | none =>
    rw [hl] at h
    exact hask h
  | some l =>
    rw [hl] at h
    rcases Run.ends_bind.mp h with ⟨_, w₁, hw, h⟩ | ⟨e, he, -⟩
    · obtain ⟨-, hpos, hcalls⟩ := Limiter.acquire_leaves hp.host hw
      obtain ⟨hx, hpos', hcalls'⟩ := hask h
      rw [hpos] at hx hpos'
      exact ⟨hx, hpos', by rw [hcalls', hcalls]⟩
    · cases (Limiter.acquire_leaves hp.host he).1

end Polls

end Workflow

end Settle
