import Settle.Proofs.Task.Resolution
import Mathlib.Data.List.Chain

/-!
# The states of a workflow

A run of a workflow announces its states on the way, and what it announces is a path of the state
machine `Move`. Where the path leads is decided by where the submission is located and by the result
of the run: `statePath` says how, and `awaitCompletion_told` that a run announces just that.

Main statement: `awaitCompletion_stages`.
-/

namespace Settle

variable {τ ω α : Type}

/-! ### The state machine -/

instance : DecidableRel Move := fun s t => decidable_of_iff _ (Move.next_iff s t).symm

/-- Nothing follows a terminal state. -/
theorem Move.eq_nil_of_terminal {before after : List Stage} {s : Stage}
    (h : (before ++ s :: after).IsChain Move) (hs : s = .succeeded ∨ s = .failed) :
    after = [] := by
  cases after with
  | nil => rfl
  | cons t rest =>
    have hmove := (List.isChain_append_cons_cons.mp h).2.1
    obtain ⟨hsucceeded, hfailed⟩ := ((Move.next_iff s t).mp hmove).1
    exact (hs.elim hsucceeded hfailed).elim

/-! ### The states told of -/

/-- The states announced among entries, in order. -/
def stagesIn (told : List (Entry τ)) : List Stage := told.filterMap Entry.stage?

@[simp] theorem stagesIn_append (told told' : List (Entry τ)) :
    stagesIn (told ++ told') = stagesIn told ++ stagesIn told' := List.filterMap_append

theorem stagesIn_of_routine {told : List (Entry τ)} {c : Call}
    (h : ∀ x ∈ told, x.IsRoutineBut c) : stagesIn told = [] :=
  List.filterMap_eq_nil_iff.mpr fun x hx => (h x hx).stage

theorem World.stages_eq_append {w w' : World τ ω} {told : List (Entry τ)}
    (h : w'.trace.toList = w.trace.toList ++ told) : w'.stages = w.stages ++ stagesIn told := by
  rw [stages_eq_seen, stages_eq_seen, seen, h, List.filterMap_append]
  rfl

namespace Workflow

/-! ### Paths -/

/-- The state in which a result leaves a workflow, if it is a terminal one. -/
def terminal : Except (Fault τ) α → List Stage
  | .ok _ => [.succeeded]
  | .error e => if e.isFatal then [.failed] else []

theorem terminal_cases (r : Except (Fault τ) α) :
    ((∃ v, r = .ok v) ∧ terminal r = [.succeeded]) ∨
      (∃ e, r = .error e ∧ e.isFatal = true ∧ terminal r = [.failed]) ∨
        ∃ e, r = .error e ∧ e.isFatal = false ∧ terminal r = [] := by
  cases r with
  | ok v => exact .inl ⟨⟨v, rfl⟩, rfl⟩
  | error e =>
    cases h : e.isFatal with
    | true => exact .inr (.inl ⟨e, rfl, h, if_pos h⟩)
    | false => exact .inr (.inr ⟨e, rfl, h, if_neg (by rw [h]; decide)⟩)

/-- The states that a workflow goes through, given whether it looks an order up, whether it polls a
task, and its result. -/
def statePath (looksUp polls : Bool) (r : Except (Fault τ) α) : List Stage :=
  .submitted :: (if looksUp then [.resolving] else []) ++ (if polls then [.polling] else [])
    ++ terminal r

section Paths

variable {looksUp polls : Bool} {r : Except (Fault τ) α}

/-- A path is one of the state machine, begins once, and passes through the states that it is meant
to. -/
theorem statePath_sound (looksUp polls : Bool) (r : Except (Fault τ) α) :
    (statePath looksUp polls r).IsChain Move ∧ (statePath looksUp polls r).count .submitted = 1 ∧
      (.resolving ∈ statePath looksUp polls r ↔ looksUp = true) ∧
      (.polling ∈ statePath looksUp polls r ↔ polls = true) := by
  rcases terminal_cases r with ⟨-, h⟩ | ⟨e, -, -, h⟩ | ⟨e, -, -, h⟩ <;> rw [statePath, h] <;>
    cases looksUp <;> cases polls <;> decide

theorem succeeded_mem_statePath_iff : .succeeded ∈ statePath looksUp polls r ↔ ∃ v, r = .ok v := by
  have hmem : .succeeded ∈ statePath looksUp polls r ↔ .succeeded ∈ terminal r := by
    rw [statePath, List.mem_append]
    refine or_iff_right ?_
    cases looksUp <;> cases polls <;> decide
  rw [hmem]
  rcases terminal_cases r with ⟨hr, h⟩ | ⟨e, rfl, -, h⟩ | ⟨e, rfl, -, h⟩
  · simp [h, hr]
  · simp [h]
  · simp [h]

theorem failed_mem_statePath_iff :
    .failed ∈ statePath looksUp polls r ↔ ∃ e, r = .error e ∧ e.isFatal = true := by
  have hmem : .failed ∈ statePath looksUp polls r ↔ .failed ∈ terminal r := by
    rw [statePath, List.mem_append]
    refine or_iff_right ?_
    cases looksUp <;> cases polls <;> decide
  rw [hmem]
  rcases terminal_cases r with ⟨⟨v, rfl⟩, h⟩ | ⟨e, rfl, hf, h⟩ | ⟨e, rfl, hf, h⟩
  · simp [h]
  · simp [h, hf]
  · simp [h, hf]

end Paths

/-! ### What a run tells -/

/-- The alarms of a part that fails announce the state in which its fault leaves the workflow. -/
theorem stagesIn_alarms (resourceId handle : Value) (e : Fault τ) :
    stagesIn ((alarms (α := α) resourceId handle (.error e)).map .logged) =
      terminal (α := Value) (.error (reported resourceId handle e)) := by
  rw [alarms, terminal, isFatal_reported]
  cases e.isFatal <;> rfl

theorem stagesIn_closing (resourceId handle : Value) (x : Except (Fault τ) (Option Value × Nat)) :
    stagesIn ((closing resourceId handle x).map .logged) =
      terminal ((x.mapError (reported resourceId handle)).map fun _ => resourceId) := by
  cases x with
  | ok v => rfl
  | error e => exact stagesIn_alarms (α := Value) resourceId handle e

/-- Does a workflow poll, given where the submission was located? -/
def polled : Except (Fault τ) (Value × Value) → Bool
  | .ok (_, handle) => hasTask handle
  | .error _ => false

theorem polled_iff {place : Except (Fault τ) (Value × Value)} :
    polled place = true ↔
      ∃ resourceId handle, place = .ok (resourceId, handle) ∧ hasTask handle = true := by
  constructor
  · intro h
    match place with
    | .ok (resourceId, handle) => exact ⟨resourceId, handle, rfl, h⟩
    | .error e => cases h
  · rintro ⟨resourceId, handle, rfl, h⟩
    exact h

/-! ### What is announced -/

/-- What a run of a workflow announces: `place` is where the submission was located, `r` the result
and `told` all that was added to the trace. -/
structure Announces (s : Submission) (source : TaskSource τ ω)
    (place : Except (Fault τ) (Value × Value)) (r : Except (Fault τ) Value)
    (told : List (Entry τ)) : Prop where
  path : (stagesIn told).IsChain Move
  first : (stagesIn told).head? = some .submitted
  once : (stagesIn told).count .submitted = 1
  resolving : .resolving ∈ stagesIn told ↔
    s.requiresResolution = true ∧ source.resolve.isSome = true
  polling : .polling ∈ stagesIn told ↔
    ∃ resourceId handle, place = .ok (resourceId, handle) ∧ hasTask handle = true
  query {handle : Value} {before after : List (Entry τ)}
    (h : told = before ++ .called (.query handle) :: after) :
    ∃ resourceId, place = .ok (resourceId, handle) ∧
      .logged (.workflow (.polling resourceId handle)) ∈ before
  succeeded : .succeeded ∈ stagesIn told ↔ ∃ v, r = .ok v
  failed : .failed ∈ stagesIn told ↔ ∃ e, r = .error e ∧ e.isFatal = true
  last {before after : List Stage} {stage : Stage}
    (h : stagesIn told = before ++ stage :: after) (hs : stage = .succeeded ∨ stage = .failed) :
    after = []

theorem Announces.of_statePath {s : Submission} {source : TaskSource τ ω}
    {place : Except (Fault τ) (Value × Value)} {r : Except (Fault τ) Value}
    {told : List (Entry τ)}
    (h : stagesIn told =
      Workflow.statePath (s.requiresResolution && source.resolve.isSome) (polled place) r)
    (hquery : ∀ {handle before after}, told = before ++ .called (.query handle) :: after →
      ∃ resourceId, place = .ok (resourceId, handle) ∧
        .logged (.workflow (.polling resourceId handle)) ∈ before) :
    Announces s source place r told := by
  obtain ⟨hchain, honce, hresolving, hpolling⟩ :=
    statePath_sound (s.requiresResolution && source.resolve.isSome) (polled place) r
  rw [← h] at hchain honce hresolving hpolling
  exact {
    path := hchain
    first := by rw [h]; rfl
    once := honce
    resolving := by rw [hresolving, Bool.and_eq_true]
    polling := by
      rw [hpolling]
      exact polled_iff
    query := hquery
    succeeded := by rw [h, succeeded_mem_statePath_iff]
    failed := by rw [h, failed_mem_statePath_iff]
    last := fun heq hs => Move.eq_nil_of_terminal (heq ▸ hchain) hs }

/-! ### The parts of a run -/

/-- An entry that is neither in front of another one nor that one itself comes after it. -/
theorem mem_of_append_eq {front rest before after : List (Entry τ)} {mark x : Entry τ}
    (h : front ++ mark :: rest = before ++ x :: after) (hfront : x ∉ front) (hmark : x ≠ mark) :
    mark ∈ before ∧ x ∈ rest := by
  rcases List.append_eq_append_iff.mp h with ⟨between, rfl, hrest⟩ | ⟨between, rfl, hrest⟩
  · cases between with
    | nil => exact absurd (List.cons.inj hrest).1.symm hmark
    | cons y between =>
      obtain ⟨rfl, rfl⟩ := List.cons.inj hrest
      exact ⟨List.mem_append_right _ List.mem_cons_self,
        List.mem_append_right _ List.mem_cons_self⟩
  · cases between with
    | nil => exact absurd (List.cons.inj hrest).1 hmark
    | cons y between =>
      obtain ⟨rfl, -⟩ := List.cons.inj hrest
      exact absurd (List.mem_append_right _ List.mem_cons_self) hfront

variable [Quantity τ] {host : Host τ ω} {flow : Workflow τ ω} {a : Await τ} {s : Submission}
  {source : TaskSource τ ω} {w w' : World τ ω}

theorem locate_told {place : Except (Fault τ) (Value × Value)}
    (h : (flow.locate host a s (lookUp source)).Ends w place w') :
    ∃ looked, w'.trace.toList = w.trace.toList ++ looked ∧
      stagesIn looked =
        (if s.requiresResolution && source.resolve.isSome then [.resolving] else []) ∧
      ∀ handle, .called (.query handle) ∉ looked := by
  cases hs : s.requiresResolution with
  | false =>
    obtain ⟨rfl, rfl⟩ := (locate_ends_iff_of_direct hs).mp h
    exact ⟨[], (List.append_nil _).symm, rfl, fun _ => List.not_mem_nil⟩
  | true =>
    cases hl : source.resolve with
    | none =>
      obtain ⟨rfl, rfl⟩ := (locate_ends_iff_of_no_lookup hs hl).mp h
      exact ⟨[], (List.append_nil _).symm, rfl, fun _ => List.not_mem_nil⟩
    | some lookup =>
      obtain ⟨entry, hentry, rfl⟩ := (locate_ends_iff_of_order hs hl).mp h
      obtain ⟨looked, hlooked, hroutine⟩ := resolve_added hentry
      refine ⟨.logged (.workflow (.resolving s.orderRef)) :: looked, ?_, ?_, fun handle hmem => ?_⟩
      · rw [hlooked, World.toList_trace_logged, List.append_assoc]
        rfl
      · exact congrArg (List.cons _) (stagesIn_of_routine hroutine)
      · rcases List.mem_cons.mp hmem with hx | hx
        · cases hx
        · rcases hroutine _ hx with hx | hx
          · cases hx.called
          · cases hx

theorem settle_told {resourceId handle : Value} {r : Except (Fault τ) Value}
    (h : (flow.settle host a (ask source) resourceId handle).Ends w r w') :
    ∃ mark asked, w'.trace.toList = w.trace.toList ++ .logged (.workflow mark) :: asked ∧
      stagesIn (.logged (.workflow mark) :: asked) =
        (if hasTask handle then [.polling] else []) ++ terminal r ∧
      ∀ asksFor, .called (.query asksFor) ∈ asked →
        asksFor = handle ∧ mark = .polling resourceId handle := by
  cases hh : hasTask handle with
  | false =>
    obtain ⟨rfl, rfl⟩ := (settle_ends_iff_of_no_task hh).mp h
    exact ⟨_, [], World.toList_trace_logged _ _, rfl, nofun⟩
  | true =>
    obtain ⟨x, w₁, hx, rfl, rfl⟩ := (settle_ends_iff hh).mp h
    obtain ⟨polled, hpolled, hroutine⟩ := pollTask_added hx
    refine ⟨.polling resourceId handle, polled ++ (closing resourceId handle x).map .logged,
      ?_, ?_, fun asksFor hmem => ?_⟩
    · rw [World.toList_trace_loggedAll, hpolled, World.toList_trace_logged, List.append_assoc,
        List.append_assoc]
      rfl
    · refine congrArg (List.cons _) ?_
      change stagesIn _ = _
      rw [stagesIn_append, stagesIn_of_routine hroutine, stagesIn_closing]
      rfl
    · refine ⟨?_, rfl⟩
      rcases List.mem_append.mp hmem with hmem | hmem
      · rcases hroutine _ hmem with hc | hc
        · cases hc.called
        · cases hc
          rfl
      · obtain ⟨e, -, he⟩ := List.mem_map.mp hmem
        cases he

/-! ### Whole runs -/

/-- A run tells of the submission, of locating it, and of its task. -/
theorem awaitCompletion_told {r : Except (Fault τ) Value}
    (h : (flow.awaitCompletion host a s source).Ends w r w') :
    ∃ place w₁ told,
      (flow.locate host a s (lookUp source)).Ends
        (w.logged (.workflow (.submitted s.action s.resourceId s.orderRef))) place w₁ ∧
      w'.trace.toList = w.trace.toList ++ told ∧ Announces s source place r told := by
  obtain ⟨place, w₁, hplace, h⟩ := awaitCompletion_ends_iff.mp h
  obtain ⟨looked, hlooked, hstages, hqueries⟩ := locate_told hplace
  rw [World.toList_trace_logged, List.append_assoc, List.singleton_append] at hlooked
  generalize hfront : .logged (.workflow (.submitted s.action s.resourceId s.orderRef)) :: looked =
    front at hlooked
  have hstages : stagesIn front = .submitted ::
      (if s.requiresResolution && source.resolve.isSome then [.resolving] else []) := by
    rw [← hfront, ← hstages]
    rfl
  have hqueries (handle : Value) : .called (.query handle) ∉ front := by
    rw [← hfront, List.mem_cons, not_or]
    exact ⟨nofun, hqueries handle⟩
  match place with
  | .error e =>
    obtain ⟨rfl, rfl⟩ := h
    refine ⟨.error e, w₁,
      front ++ (alarms (α := Value × Value) s.resourceId s.handle (.error e)).map .logged, hplace,
      ?_, .of_statePath ?_ fun {handle _ _} heq => ?_⟩
    · rw [World.toList_trace_loggedAll, hlooked, List.append_assoc]
    · rw [stagesIn_append, stagesIn_alarms, hstages, statePath, List.append_assoc]
      rfl
    · -- where there is no place, nothing is polled
      have hmem : .called (.query handle) ∈
          front ++ (alarms (α := Value × Value) s.resourceId s.handle (.error e)).map .logged := by
        rw [heq]
        exact List.mem_append_right _ List.mem_cons_self
      rcases List.mem_append.mp hmem with hmem | hmem
      · exact absurd hmem (hqueries handle)
      · obtain ⟨_, -, he⟩ := List.mem_map.mp hmem
        cases he
  | .ok (resourceId, handle) =>
    obtain ⟨mark, asked, hasked, hstages', hqueries'⟩ := settle_told h
    rw [hlooked, List.append_assoc] at hasked
    refine ⟨.ok (resourceId, handle), w₁, _, hplace, hasked, .of_statePath ?_ fun heq => ?_⟩
    · rw [stagesIn_append, hstages, hstages', statePath, List.append_assoc]
      rfl
    · obtain ⟨hmark, hmem⟩ := mem_of_append_eq heq (hqueries _) nofun
      obtain ⟨rfl, rfl⟩ := hqueries' _ hmem
      exact ⟨resourceId, rfl, hmark⟩

/-- The resource and the handle that are known of a submission, given where it was located. -/
def knownTask (s : Submission) : Except (Fault τ) (Value × Value) → Value × Value
  | .ok place => place
  | .error _ => (s.resourceId, s.handle)

/-- Where a fault comes from that a run raises which ends in the world `w'`: from locating the task,
which ended at `place` in the world `w₁`, or from the polling run that begins there. Nothing is done
after it but that it is announced. -/
inductive Raises (host : Host τ ω) (flow : Workflow τ ω) (a : Await τ) (s : Submission)
    (source : TaskSource τ ω) (w₁ : World τ ω) (e : Fault τ) (w' : World τ ω) :
    Except (Fault τ) (Value × Value) → Prop
  | locating (h : w' = w₁.loggedAll
      (alarms (α := Value × Value) s.resourceId s.handle (.error e))) :
      Raises host flow a s source w₁ e w' (.error e)
  | polling {resourceId handle : Value} {u : World τ ω} (task : hasTask handle = true)
      (poll : (pollTask host flow a source handle).Ends
        (w₁.logged (.workflow (.polling resourceId handle))) (.error e) u)
      (h : w' = u.loggedAll (closing resourceId handle (.error e))) :
      Raises host flow a s source w₁ e w' (.ok (resourceId, handle))

/-- A fault that a workflow raises is one of locating the task, or of polling it, as the guard
reports it. -/
theorem exists_reported_of_ends {place : Except (Fault τ) (Value × Value)} {w₁ : World τ ω}
    (hplace : (flow.locate host a s (lookUp source)).Ends
      (w.logged (.workflow (.submitted s.action s.resourceId s.orderRef))) place w₁)
    {f : Fault τ} (h : (flow.awaitCompletion host a s source).Ends w (.error f) w') :
    ∃ e, Raises host flow a s source w₁ e w' place ∧
      f = reported (knownTask s place).1 (knownTask s place).2 e := by
  obtain ⟨place', w₂, hplace', h⟩ := awaitCompletion_ends_iff.mp h
  obtain ⟨rfl, rfl⟩ := hplace.unique hplace'
  match place with
  | .error e =>
    obtain ⟨hf, hw'⟩ := h
    exact ⟨e, .locating hw', Except.error.inj hf⟩
  | .ok (resourceId, handle) =>
    change (flow.settle host a (ask source) resourceId handle).Ends w₁ (.error f) w' at h
    cases hh : hasTask handle with
    | false => cases ((settle_ends_iff_of_no_task hh).mp h).1
    | true =>
      obtain ⟨x, u, hx, hf, hw'⟩ := (settle_ends_iff hh).mp h
      cases x with
      | ok v => cases hf
      | error e => exact ⟨e, .polling hh hx hw', Except.error.inj hf⟩

end Workflow

end Settle
