import Settle.Proofs.Fault.Passing
import Settle.Proofs.Run.Trace
import Settle.Task.Workflow

/-!
# The course of a workflow

A workflow announces the submission, locates the task of it, polls the task, and announces how that
went. `guarded_ends_iff`, `settle_ends_iff` and `awaitCompletion_ends_iff` are this account, as
equivalences: what the guard makes of the result of a part (`reported`, `alarms`), what is announced
of a task when the polling of it is over (`closing`), and how both follow the submission.

A fault that the guard passes on has only its context filled in, so it keeps its kind.
-/

namespace Settle

variable {τ ω α β : Type}

namespace Await

/-- The operation by which the status queries of a task are known. -/
def statusOperation (a : Await τ) : String := orName a.statusAction "query_status"

end Await

namespace Workflow

@[simp] theorem ends_announce_bind {p : Progress} {f : Unit → Run τ ω α} {w w' : World τ ω}
    {r : Except (Fault τ) α} :
    (announce p >>= f).Ends w r w' ↔ (f ()).Ends (w.logged (.workflow p)) r w' :=
  Run.ends_log_bind

/-! ### The guard -/

/-- A fault as the guard passes it on. -/
def reported (resourceId handle : Value) (e : Fault τ) : Fault τ :=
  if e.isFatal then e.fill [("resource_id", resourceId), ("handle", handle)] else e

@[simp] theorem kind_reported (resourceId handle : Value) (e : Fault τ) :
    (reported resourceId handle e).kind? = e.kind? := by
  rw [reported]
  split
  · exact Fault.kind_fill e _
  · rfl

theorem stemsFrom_reported {e f : Fault τ} (h : e.StemsFrom f) (resourceId handle : Value) :
    e.StemsFrom (reported resourceId handle f) := by
  rw [reported]
  split
  · exact h.fill _
  · exact h

theorem isFatal_reported (resourceId handle : Value) (e : Fault τ) :
    (reported resourceId handle e).isFatal = e.isFatal := by
  rw [Fault.isFatal, Fault.isFatal, Fault.errorClass, Fault.errorClass, kind_reported]

theorem context_reported_of_fatal {resourceId handle : Value} {e : Fault τ}
    (h : e.isFatal = true) :
    (reported resourceId handle e).context? =
      e.context?.map fun c => c.located resourceId handle := by
  simp only [reported, h, if_true, Fault.context_fill, Context.fillAll_located]

theorem reported_of_not_fatal {resourceId handle : Value} {e : Fault τ}
    (h : e.isFatal = false) : reported resourceId handle e = e := by
  rw [reported, h]
  rfl

/-- What the guard announces of the result of a part: a fatal fault. -/
def alarms (resourceId handle : Value) : Except (Fault τ) α → List (Event τ)
  | .ok _ => []
  | .error e =>
    if e.isFatal then [.workflow (.failed resourceId handle (reported resourceId handle e).text)]
    else []

/-- A guarded part ends where the part does. Its fault is reported, and announced if it is fatal. -/
theorem guarded_ends_iff {resourceId handle : Value} {part : Run τ ω α} {w w' : World τ ω}
    {r : Except (Fault τ) α} :
    (guarded resourceId handle part).Ends w r w' ↔
      ∃ x w₁, part.Ends w x w₁ ∧ r = x.mapError (reported resourceId handle) ∧
        w' = w₁.loggedAll (alarms resourceId handle x) := by
  rw [guarded, Run.ends_catching_bind]
  refine exists_congr fun x => exists_congr fun w₁ => and_congr_right fun _ => ?_
  cases x with
  | ok v => exact Run.ends_pure
  | error e =>
    change _ ↔ r = .error (reported resourceId handle e) ∧ _
    cases hf : e.isFatal with
    | true =>
      simp only [hf, if_true, ends_announce_bind, reported, alarms]
      exact Run.ends_raise
    | false =>
      simp only [hf, Bool.false_eq_true, if_false, reported_of_not_fatal hf, alarms]
      exact Run.ends_raise

/-! ### Settling a task -/

variable [Quantity τ] {host : Host τ ω} {flow : Workflow τ ω} {a : Await τ} {s : Submission}
  {source : TaskSource τ ω}

/-- How the status of a task is polled. -/
def polls (flow : Workflow τ ω) (a : Await τ) : Poll τ where
  profile := a.profile.or flow.convergeProfile
  policy := a.policy
  operation := some a.statusOperation
  name := some "poll"

omit [Quantity τ] in
theorem operationName_polls (flow : Workflow τ ω) (a : Await τ) :
    Poll.operationName (polls flow a).operation (polls flow a).name "operation" =
      a.statusOperation := by
  have hne : a.statusOperation.isEmpty = false := by
    unfold Await.statusOperation orName
    cases a.statusAction with
    | none => rfl
    | some action =>
      cases h : action.isEmpty with
      | true => simp only [h, if_true]; rfl
      | false => simp only [h, Bool.false_eq_true, if_false]
  exact if_neg (by rw [hne]; decide)

/-- A query for the status behind a handle. -/
def ask (source : TaskSource τ ω) (handle : Value) : Run τ ω StatusAnswer :=
  Run.call (.query handle) (source.query handle)

/-- How an order is looked up, if it can be. -/
def lookUp (source : TaskSource τ ω) : Option (Value → Run τ ω OrderAnswer) :=
  source.resolve.map fun lookup orderRef => Run.call (.resolve orderRef) (lookup orderRef)

/-- The polling run by which a workflow waits for a task. -/
def pollTask (host : Host τ ω) (flow : Workflow τ ω) (a : Await τ) (source : TaskSource τ ω)
    (handle : Value) : Run τ ω (Option Value × Nat) :=
  flow.poller.runCounting host (polls flow a)
    (flow.poll host a.table a.statusOperation handle (ask source handle))

/-- What is announced of a task, given how the polling of it has come out. -/
def closing (resourceId handle : Value) :
    Except (Fault τ) (Option Value × Nat) → List (Event τ)
  | .ok (_, polls) => [.workflow (.succeeded resourceId handle polls)]
  | .error e => alarms (α := Value) resourceId handle (.error e)

/-- A task is settled by a polling run, and how that ends is announced. -/
theorem settle_ends_iff {resourceId handle : Value} (hh : hasTask handle = true)
    {w w' : World τ ω} {r : Except (Fault τ) Value} :
    (flow.settle host a (ask source) resourceId handle).Ends w r w' ↔
      ∃ x w₁, (pollTask host flow a source handle).Ends
          (w.logged (.workflow (.polling resourceId handle))) x w₁ ∧
        r = (x.mapError (reported resourceId handle)).map (fun _ => resourceId) ∧
        w' = w₁.loggedAll (closing resourceId handle x) := by
  have hguard {x : Except (Fault τ) (Option Value × Nat)} {w₁ : World τ ω} :
      (guarded resourceId handle do
        announce (.polling resourceId handle)
        pollTask host flow a source handle).Ends w x w₁ ↔
        ∃ y w₂, (pollTask host flow a source handle).Ends
            (w.logged (.workflow (.polling resourceId handle))) y w₂ ∧
          x = y.mapError (reported resourceId handle) ∧
          w₁ = w₂.loggedAll (alarms resourceId handle y) := by
    rw [guarded_ends_iff]
    simp only [ends_announce_bind]
  rw [settle, if_pos hh]
  refine Run.ends_bind.trans ?_
  constructor
  · rintro (⟨⟨v, n⟩, w₂, hpoll, h⟩ | ⟨e, hpoll, rfl⟩)
    · obtain ⟨x, w₁, hx, hr, rfl⟩ := hguard.mp hpoll
      have h := (ends_announce_bind (f := fun _ => pure resourceId)).mp h
      obtain ⟨rfl, rfl⟩ := Run.ends_pure.mp h
      cases x with
      | error e => cases hr
      | ok y =>
        cases hr
        exact ⟨.ok (v, n), w₁, hx, rfl, rfl⟩
    · obtain ⟨x, w₁, hx, hr, rfl⟩ := hguard.mp hpoll
      cases x with
      | ok y => cases hr
      | error f =>
        cases hr
        exact ⟨.error f, w₁, hx, rfl, rfl⟩
  · rintro ⟨x, w₁, hx, rfl, rfl⟩
    have hpoll := hguard.mpr ⟨x, w₁, hx, rfl, rfl⟩
    cases x with
    | ok v =>
      exact .inl ⟨v, w₁, hpoll, ends_announce_bind.mpr (Run.ends_pure.mpr ⟨rfl, rfl⟩)⟩
    | error e => exact .inr ⟨_, hpoll, rfl⟩

/-- Where there is no task, nothing is left to do. -/
theorem settle_ends_iff_of_no_task {query : Value → Run τ ω StatusAnswer}
    {resourceId handle : Value} (hh : hasTask handle = false) {w w' : World τ ω}
    {r : Except (Fault τ) Value} :
    (flow.settle host a query resourceId handle).Ends w r w' ↔
      r = .ok resourceId ∧ w' = w.logged (.workflow (.settledAtOnce resourceId)) := by
  rw [settle, if_neg (by rw [hh]; decide), ends_announce_bind, Run.ends_pure]

/-- A workflow announces the submission, locates the task under guard, and settles it. -/
theorem awaitCompletion_ends_iff {w w' : World τ ω} {r : Except (Fault τ) Value} :
    (flow.awaitCompletion host a s source).Ends w r w' ↔
      ∃ place w₁, (flow.locate host a s (lookUp source)).Ends
          (w.logged (.workflow (.submitted s.action s.resourceId s.orderRef))) place w₁ ∧
        match place with
        | .ok (resourceId, handle) =>
          (flow.settle host a (ask source) resourceId handle).Ends w₁ r w'
        | .error e =>
          r = .error (reported s.resourceId s.handle e) ∧
            w' = w₁.loggedAll (alarms s.resourceId s.handle place) := by
  have hawait : flow.awaitCompletion host a s source = (do
      announce (.submitted s.action s.resourceId s.orderRef)
      let place ← guarded s.resourceId s.handle (flow.locate host a s (lookUp source))
      flow.settle host a (ask source) place.1 place.2) := rfl
  rw [hawait, ends_announce_bind, Run.ends_bind]
  constructor
  · rintro (⟨⟨resourceId, handle⟩, w₁, hguard, h⟩ | ⟨e, hguard, rfl⟩)
    · obtain ⟨x, w₁, hx, hr, rfl⟩ := guarded_ends_iff.mp hguard
      cases x with
      | error e => cases hr
      | ok place =>
        cases hr
        exact ⟨.ok (resourceId, handle), w₁, hx, h⟩
    · obtain ⟨x, w₁, hx, hr, rfl⟩ := guarded_ends_iff.mp hguard
      cases x with
      | ok place => cases hr
      | error f =>
        cases hr
        exact ⟨.error f, w₁, hx, rfl, rfl⟩
  · rintro ⟨place, w₁, hx, h⟩
    have hguard : (guarded s.resourceId s.handle (flow.locate host a s (lookUp source))).Ends
        (w.logged (.workflow (.submitted s.action s.resourceId s.orderRef)))
        (place.mapError (reported s.resourceId s.handle))
        (w₁.loggedAll (alarms s.resourceId s.handle place)) :=
      guarded_ends_iff.mpr ⟨place, w₁, hx, rfl, rfl⟩
    cases place with
    | ok place => exact .inl ⟨place, w₁, hguard, h⟩
    | error e =>
      obtain ⟨rfl, rfl⟩ := h
      exact .inr ⟨_, hguard, rfl⟩

/-- A submission that needs no lookup is located as it stands. -/
theorem locate_ends_iff_of_direct (hs : s.requiresResolution = false)
    {lookup : Option (Value → Run τ ω OrderAnswer)} {w w' : World τ ω}
    {place : Except (Fault τ) (Value × Value)} :
    (flow.locate host a s lookup).Ends w place w' ↔
      place = .ok (s.resourceId, s.handle) ∧ w' = w := by
  unfold locate
  rw [if_neg (by rw [hs]; decide), Run.ends_pure]

/-- An order is located by its lookup. -/
theorem locate_ends_iff_of_order (hs : s.requiresResolution = true)
    {lookup : Value → ω → Except (Fault τ) OrderAnswer × ω} (hl : source.resolve = some lookup)
    {w w' : World τ ω} {place : Except (Fault τ) (Value × Value)} :
    (flow.locate host a s (lookUp source)).Ends w place w' ↔
      ∃ entry, (flow.resolve host a.resolveAction s.orderRef lookup).Ends
          (w.logged (.workflow (.resolving s.orderRef))) entry w' ∧
        place = entry.map fun entry => (entry.resourceIds.headD .null, entry.handle) := by
  have hlocate : flow.locate host a s (lookUp source) = (do
      announce (.resolving s.orderRef)
      let entry ← flow.resolve host a.resolveAction s.orderRef lookup
      pure (entry.resourceIds.headD .null, entry.handle)) := by
    rw [lookUp, hl]
    exact if_pos hs
  rw [hlocate, ends_announce_bind, Run.ends_bind]
  constructor
  · rintro (⟨entry, w₁, hentry, h⟩ | ⟨e, he, rfl⟩)
    · obtain ⟨rfl, rfl⟩ := Run.ends_pure.mp h
      exact ⟨.ok entry, hentry, rfl⟩
    · exact ⟨.error e, he, rfl⟩
  · rintro ⟨entry, hentry, rfl⟩
    cases entry with
    | ok entry => exact .inl ⟨entry, w', hentry, Run.ends_pure.mpr ⟨rfl, rfl⟩⟩
    | error e => exact .inr ⟨e, hentry, rfl⟩

/-- An order that cannot be looked up is not located. -/
theorem locate_ends_iff_of_no_lookup (hs : s.requiresResolution = true)
    (hl : source.resolve = none) {w w' : World τ ω} {place : Except (Fault τ) (Value × Value)} :
    (flow.locate host a s (lookUp source)).Ends w place w' ↔
      place = .error (.ofText .value "order submissions need a resolve_order callable") ∧
        w' = w := by
  have hlocate : flow.locate host a s (lookUp source) =
      Run.raise (.ofText .value "order submissions need a resolve_order callable") := by
    rw [lookUp, hl]
    exact if_pos hs
  rw [hlocate, Run.ends_raise]

/-- A submission that needs no lookup is settled at once. -/
theorem awaitCompletion_ends_iff_of_direct (hs : s.requiresResolution = false) {w w' : World τ ω}
    {r : Except (Fault τ) Value} :
    (flow.awaitCompletion host a s source).Ends w r w' ↔
      (flow.settle host a (ask source) s.resourceId s.handle).Ends
        (w.logged (.workflow (.submitted s.action s.resourceId s.orderRef))) r w' := by
  rw [awaitCompletion_ends_iff]
  constructor
  · rintro ⟨place, w₁, hplace, h⟩
    obtain ⟨rfl, rfl⟩ := (locate_ends_iff_of_direct hs).mp hplace
    exact h
  · intro h
    exact ⟨_, _, (locate_ends_iff_of_direct hs).mpr ⟨rfl, rfl⟩, h⟩

end Workflow

end Settle
