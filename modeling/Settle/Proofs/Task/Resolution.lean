import Settle.Proofs.Poll.Window
import Settle.Proofs.Run.Outcomes
import Settle.Proofs.Task.Lockstep

/-!
# Orders and what they resolve to

A workflow that is given an order looks it up and goes on with the task that it finds there. Nothing
of the lookup is carried over but the clock, the limiters and the trace: the rest of the run is the
run on the submission of that very task, started where the lookup left off.

Both halves are oblivious (`resolve_oblivious`, `settle_oblivious`): they do after any past what
they do after one. So the lookup can be moved in front, and the announcements of the order into the
past of what follows.

Main statement: `awaitCompletion_resolved`.
-/

namespace Settle.Workflow

variable {τ ω : Type}

/-- What a workflow announces before it looks an order up. -/
def orderNotices (s : Submission) : List (Entry τ) :=
  [.logged (.workflow (.submitted s.action s.resourceId s.orderRef)),
    .logged (.workflow (.resolving s.orderRef))]

variable [Quantity τ] {host : Host τ ω} {flow : Workflow τ ω} {a : Await τ} {s : Submission}
  {source : TaskSource τ ω}

/-- An order that resolves to one task is settled from where the lookup left off. -/
theorem awaitCompletion_ends_iff_of_resolved (hs : s.requiresResolution = true)
    {lookup : Value → ω → Except (Fault τ) OrderAnswer × ω} (hl : source.resolve = some lookup)
    {resourceId handle : Value} {w w₁ : World τ ω}
    (h : (flow.resolve host a.resolveAction s.orderRef lookup).Ends
      (w.withTrace (w.trace.toList ++ orderNotices s)) (.ok ⟨[resourceId], handle⟩) w₁)
    {r : Except (Fault τ) Value} {w' : World τ ω} :
    (flow.awaitCompletion host a s source).Ends w r w' ↔
      (flow.settle host a (ask source) resourceId handle).Ends w₁ r w' := by
  have hnotices : w.withTrace (w.trace.toList ++ orderNotices s) =
      (w.logged (.workflow (.submitted s.action s.resourceId s.orderRef))).logged
        (.workflow (.resolving s.orderRef)) := by
    simp [World.logged_eq_withTrace, orderNotices]
  rw [hnotices] at h
  rw [awaitCompletion_ends_iff]
  constructor
  · rintro ⟨place, w₂, hplace, hsettle⟩
    obtain ⟨entry, hentry, rfl⟩ := (locate_ends_iff_of_order hs hl).mp hplace
    obtain ⟨rfl, rfl⟩ := h.unique hentry
    exact hsettle
  · intro hsettle
    exact ⟨_, w₁, (locate_ends_iff_of_order hs hl).mpr ⟨_, h, rfl⟩, hsettle⟩

/-- **Orders.** Let an order resolve to one resource and a handle, in whatever time and after
whatever attempts. Then to wait for the order is to look it up, and to wait for that task from
there on: one run ends iff the other does, with the same result and in the same world, but for what
was announced of the submission. The window of the polling opens when the lookup is over. -/
theorem awaitCompletion_resolved (hs : s.requiresResolution = true)
    {lookup : Value → ω → Except (Fault τ) OrderAnswer × ω} (hl : source.resolve = some lookup)
    {resourceId handle : Value} (action : Value) {w w₁ : World τ ω}
    (h : (flow.resolve host a.resolveAction s.orderRef lookup).Ends w
      (.ok ⟨[resourceId], handle⟩) w₁) :
    ∃ looked, w₁.trace.toList = w.trace.toList ++ looked ∧
      (∀ r v, (flow.awaitCompletion host a (.direct resourceId handle action) source).Ends w₁ r v →
        ∃ told,
          v.trace.toList = w₁.trace.toList ++
            [.logged (.workflow (.submitted action resourceId .null))] ++ told ∧
          (flow.awaitCompletion host a s source).Ends w r
            (v.withTrace (w.trace.toList ++ orderNotices s ++ looked ++ told))) ∧
      (∀ r w', (flow.awaitCompletion host a s source).Ends w r w' →
        ∃ v, (flow.awaitCompletion host a (.direct resourceId handle action) source).Ends w₁ r v) ∧
      ∀ profile, hasTask handle = true → a.profile.or flow.convergeProfile = some profile →
        ∀ r w', (flow.awaitCompletion host a s source).Ends w r w' →
          ∃ x u u', u.outside = (host.read w₁.outside).2 ∧
            ((flow.poller.polling host (polls flow a) profile
              (flow.poll host a.table a.statusOperation handle (ask source handle))
              (host.reading w₁.outside)).rounds 0 host.patience).Ends u x u' ∧
            r = (x.mapError (reported resourceId handle)).map fun _ => resourceId := by
  obtain ⟨looked, hlooked, hresolve⟩ := (resolve_oblivious _ _ _).exists_told h
  have horder {r : Except (Fault τ) Value} {w' : World τ ω} :
      (flow.awaitCompletion host a s source).Ends w r w' ↔
        (flow.settle host a (ask source) resourceId handle).Ends
          (w₁.withTrace (w.trace.toList ++ orderNotices s ++ looked)) r w' :=
    awaitCompletion_ends_iff_of_resolved hs hl (hresolve _)
  have hdirect {r : Except (Fault τ) Value} {v : World τ ω} :
      (flow.awaitCompletion host a (.direct resourceId handle action) source).Ends w₁ r v ↔
        (flow.settle host a (ask source) resourceId handle).Ends
          (w₁.logged (.workflow (.submitted action resourceId .null))) r v :=
    awaitCompletion_ends_iff_of_direct rfl
  rw [World.logged_eq_withTrace] at hdirect
  have hsettle : (flow.settle host a (ask source) resourceId handle).Oblivious :=
    settle_oblivious resourceId handle
  refine ⟨looked, hlooked, fun r v hv => ?_, fun r w' hr => ?_, fun profile hh hp r w' hr => ?_⟩
  · obtain ⟨told, htold, hafter⟩ := hsettle.exists_told (hdirect.mp hv)
    exact ⟨told, htold, horder.mpr (hafter _)⟩
  · obtain ⟨told, -, hafter⟩ := hsettle.exists_told (horder.mp hr)
    exact ⟨_, hdirect.mpr (hafter _)⟩
  · obtain ⟨x, u, hx, rfl, -⟩ := (settle_ends_iff hh).mp (horder.mp hr)
    rw [pollTask, Poller.runCounting_ends_iff_rounds hp] at hx
    exact ⟨x, _, u, rfl, hx, rfl⟩

/-- An order that cannot be looked up at first, and whose task runs when it is asked for first. -/
def belated : TaskSource ℚ (ℚ × ℕ) where
  query _ o := (.ok (.report (.int (if o.2 = 2 then 1 else 0)) .null), (o.1, o.2 + 1))
  resolve := some fun _ o =>
    (if o.2 = 0 then .error (.ofText .value "no answer yet")
      else .ok (.ofDeals [⟨[.text "resource"], .text "task"⟩]), (o.1, o.2 + 1))

/-- A workflow that asks every five seconds, and takes every failure of a call for a passing one. -/
def everyFive : Workflow ℚ (ℚ × ℕ) where
  poller := { classifier := .allTransient }
  readProfile := some ⟨.null, 5, 12⟩
  convergeProfile := some ⟨.null, 5, 6⟩

/-- A belated order takes one interval to be looked up, and as long again to be settled: the time
of the lookup is not taken from the window. -/
theorem awaitCompletion_resolved_belated :
    ∃ w₁ v, w₁.outside = (5, 2) ∧
      (everyFive.awaitCompletion (.exact 3) { table := .flow }
        (.direct (.text "resource") (.text "task") .null) belated).Ends
          w₁ (.ok (.text "resource")) v ∧
      v.outside = (10, 4) := by
  obtain ⟨w₁, hresolve, hw₁⟩ := Run.exists_ends_of_report
    (m := everyFive.resolve (.exact 3) none (.text "order") (belated.resolve.get rfl))
    (w := { outside := (0, 0) }) (r := .ok ⟨[.text "resource"], .text "task"⟩) (o := (5, 2))
    (by decide +kernel)
  obtain ⟨w', horder, hw'⟩ := Run.exists_ends_of_report
    (m := everyFive.awaitCompletion (.exact 3) { table := .flow }
      (.order (.text "order") .null) belated)
    (w := { outside := (0, 0) }) (r := .ok (.text "resource")) (o := (10, 4)) (by decide +kernel)
  obtain ⟨looked, -, hfront, hback, -⟩ :=
    awaitCompletion_resolved (a := { table := .flow }) (s := .order (.text "order") .null)
      rfl (show belated.resolve = some _ from rfl) .null hresolve
  obtain ⟨v, hv⟩ := hback _ _ horder
  obtain ⟨told, -, hagain⟩ := hfront _ _ hv
  obtain ⟨-, rfl⟩ := horder.unique hagain
  exact ⟨w₁, v, hw₁, hv, hw'⟩

end Settle.Workflow
