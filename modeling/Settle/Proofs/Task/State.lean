import Settle.Proofs.Poll.Decision
import Settle.Proofs.Poll.Window
import Settle.Proofs.Task.Course

/-!
# Waiting for a state

A workflow that waits for the state of a resource asks for its status until that is terminal.
Absence can be described in two ways, by null and by a fault that means it, and the policy can read
it in three. `Await.Unsettled` says which answers leave the workflow waiting, and `Await.Ended` what
the last one makes of the wait.

The two ways are one: what is described is checked before the poller sees it, and a null status
becomes the fault of an absent resource there (`stateRead`). So a description that raises this
fault itself is the same to the workflow, attempt by attempt (`check_restated`).

Main statement: `awaitState_ended`.
-/

namespace Settle

variable {τ ω : Type}

namespace Await

variable {a : Await τ} {classify : Classifier τ} {y : Except (Fault τ) Value}

/-- An answer leaves the wait for a state going: a code that is pending, a transient failure, or
absence in one of its two ways, where it is retried. -/
inductive Unsettled (a : Await τ) (classify : Classifier τ) : Except (Fault τ) Value → Prop
  | pending {code : Value} (hn : code.isNull = false) (ho : a.table.outcome code = .pending) :
      Unsettled a classify (.ok code)
  | transient {e : Fault τ} (h : Poll.classOf classify e = .ok (some .transient)) :
      Unsettled a classify (.error e)
  | missing (hp : a.policy = .retry) : Unsettled a classify (.ok .null)
  | absent {e : Fault τ} (h : Poll.classOf classify e = .ok (some .notFound))
      (hp : a.policy = .retry) : Unsettled a classify (.error e)

/-- An answer says that the resource is absent. -/
def SaysAbsent (classify : Classifier τ) (y : Except (Fault τ) Value) : Prop :=
  y = .ok .null ∨ ∃ e, y = .error e ∧ Poll.classOf classify e = .ok (some .notFound)

/-- What the wait for a state comes to, told by the answers from its start on, of which the one
numbered `n` was the last. -/
structure Ended (a : Await τ) (classify : Classifier τ) (operation : Option String)
    (resourceId : Value) (answers : Nat → Except (Fault τ) Value) (n : Nat)
    (r : Except (Fault τ) (Option Value)) : Prop where
  unsettled (m : Nat) (hm : m < n) : a.Unsettled classify (answers m)
  some_iff (code : Value) : r = .ok (some code) ↔
    answers n = .ok code ∧ code.isNull = false ∧ a.table.outcome code = .succeeded
  none_iff : r = .ok none ↔ a.policy = .absent ∧ SaysAbsent classify (answers n)
  /-- A failure that stems from no fault that was described is the finding of the table. -/
  failed_iff : (∃ f handle code, r = .error f ∧ f.kind? = some (.taskFailed handle code) ∧
      ∀ m ≤ n, ∀ e, answers m = .error e → ¬ e.StemsFrom f) ↔
    ∃ code, answers n = .ok code ∧ code.isNull = false ∧ a.table.outcome code = .failed
  carries {code : Value} (h : answers n = .ok code) (hn : code.isNull = false)
      (ho : a.table.outcome code = .failed) :
    ∃ f c, r = .error f ∧
      f.kind? = some (.taskFailed (resourceId.orElse (.ofOption operation)) code) ∧
      f.context? = some c ∧ c.statusCode = code

end Await

namespace Workflow

/-! ### What is made of an answer -/

variable {a : Await τ} {operation : Option String} {resourceId : Value}
  {describe describe' : ω → Except (Fault τ) Value × ω}

/-- What an answer means to the poller. -/
def stateRead (a : Await τ) (operation : Option String) (resourceId : Value)
    (y : Except (Fault τ) Value) : Except (Fault τ) (Reply Value) :=
  y.bind (judgeState a.table (.ofOption operation) resourceId)

/-- Ask for the status of a resource once. -/
def check (a : Await τ) (operation : Option String) (resourceId : Value)
    (describe : ω → Except (Fault τ) Value × ω) : Run τ ω (Reply Value) := do
  let code ← Run.call .describe describe
  Run.ofExcept (judgeState a.table (.ofOption operation) resourceId code)

/-- A check ends with the answer as it is read, in the world that the description left. -/
theorem check_ends (a : Await τ) (operation : Option String) (resourceId : Value)
    (describe : ω → Except (Fault τ) Value × ω) (w : World τ ω) :
    (check a operation resourceId describe).Ends w
      (stateRead a operation resourceId (describe w.outside).1)
      { w.noted (.called .describe) with outside := (describe w.outside).2 } :=
  Run.ends_bind_ofExcept.mpr ⟨_, Run.ends_call.mpr ⟨rfl, rfl⟩, rfl⟩

/-- One description says by a fault what another says by null, now and then. -/
def Restates (operation : Option String) (resourceId : Value)
    (describe describe' : ω → Except (Fault τ) Value × ω) : Prop :=
  ∀ o, describe' o = describe o ∨ (describe o).1 = .ok .null ∧
    describe' o = (.error (absence (.ofOption operation) resourceId), (describe o).2)

/-- **Null and the fault of an absent resource are one** to a single check. -/
theorem check_restated (h : Restates operation resourceId describe describe') :
    check a operation resourceId describe' = check a operation resourceId describe := by
  funext w
  have hread : stateRead a operation resourceId (describe' w.outside).1 =
      stateRead a operation resourceId (describe w.outside).1 := by
    rcases h w.outside with ho | ⟨hnull, ho⟩
    · rw [ho]
    · rw [ho, hnull]
      rfl
  have hrest : (describe' w.outside).2 = (describe w.outside).2 := by
    rcases h w.outside with ho | ⟨-, ho⟩ <;> rw [ho]
  have hends := check_ends a operation resourceId describe' w
  rw [hread, hrest] at hends
  exact hends.trans (check_ends a operation resourceId describe w).symm

/-! ### How answers are read -/

variable {classify : Classifier τ} {y : Except (Fault τ) Value}

/-- The codes that are described can be looked up. -/
def IsLookable (y : Except (Fault τ) Value) : Prop := ∀ code, y = .ok code → code.isScalar = true

/-- The faults that are described have a class, if not of their own, then for the classifier. -/
def IsClassed (classify : Classifier τ) (y : Except (Fault τ) Value) : Prop :=
  ∀ e, y = .error e → e.isStructured = false → ∃ k, classify e = .ok (some k)

/-- The fault of a resource whose status says that it has failed. -/
def stateFailure (operation : Option String) (resourceId code : Value) : Fault τ :=
  .taskFailed (resourceId.orElse (.ofOption operation)) code (.ofOption operation) .null

/-- The ways in which a code is read. -/
inductive Reading (a : Await τ) (operation : Option String) (resourceId : Value) : Value → Prop
  | absent (hr : stateRead a operation resourceId (.ok .null) =
      .error (absence (.ofOption operation) resourceId)) : Reading a operation resourceId .null
  | succeeded {code : Value} (hn : code.isNull = false) (ho : a.table.outcome code = .succeeded)
      (hr : stateRead a operation resourceId (.ok code) = .ok (.done code)) :
      Reading a operation resourceId code
  | failed {code : Value} (hn : code.isNull = false) (ho : a.table.outcome code = .failed)
      (hr : stateRead a operation resourceId (.ok code) =
        .error (stateFailure operation resourceId code)) : Reading a operation resourceId code
  | pending {code : Value} (reason : Value) (hn : code.isNull = false)
      (ho : a.table.outcome code = .pending)
      (hr : stateRead a operation resourceId (.ok code) = .ok (.pending reason)) :
      Reading a operation resourceId code

/-- A code that can be looked up is read as null, or else as the table has it. -/
theorem reading (a : Await τ) (operation : Option String) (resourceId : Value) {code : Value}
    (hs : code.isScalar = true) : Reading a operation resourceId code := by
  have houtcome : a.table.outcome? (τ := τ) code = .ok (a.table.outcome code) := if_pos hs
  have hread : stateRead (τ := τ) a operation resourceId (.ok code) =
      judgeState a.table (.ofOption operation) resourceId code := rfl
  -- null comes before any look at the table
  cases hn : code.isNull with
  | true =>
    obtain rfl := Value.eq_null_of_isNull hn
    exact .absent rfl
  | false =>
    rw [judgeState, hn, houtcome] at hread
    cases ho : a.table.outcome code with
    | succeeded => exact .succeeded hn ho (by rw [hread, ho]; rfl)
    | failed => exact .failed hn ho (by rw [hread, ho]; rfl)
    | pending => exact .pending _ hn ho (by rw [hread, ho]; rfl)

/-- The poller is done with the codes that have succeeded. -/
theorem stateRead_eq_done_iff (hy : IsLookable y) {code : Value} :
    stateRead a operation resourceId y = .ok (.done code) ↔
      y = .ok code ∧ code.isNull = false ∧ a.table.outcome code = .succeeded := by
  cases y with
  | error e =>
    constructor
    · intro h
      cases h
    · rintro ⟨⟨⟩, -⟩
  | ok found =>
    rw [Except.ok.injEq]
    cases reading a operation resourceId (hy found rfl) with
    | absent hr =>
      rw [hr]
      refine iff_of_false nofun ?_
      rintro ⟨rfl, hn, -⟩
      cases hn
    | succeeded hn ho hr =>
      rw [hr]
      constructor
      · rintro ⟨⟩
        exact ⟨rfl, hn, ho⟩
      · rintro ⟨rfl, -, -⟩
        rfl
    | failed hn ho hr =>
      rw [hr]
      refine iff_of_false nofun ?_
      rintro ⟨rfl, -, ho'⟩
      cases ho.symm.trans ho'
    | pending reason hn ho hr =>
      rw [hr]
      refine iff_of_false nofun ?_
      rintro ⟨rfl, -, ho'⟩
      cases ho.symm.trans ho'

/-- What the poller takes for absence is what says so. -/
theorem exists_stateRead_notFound_iff (hy : IsLookable y) :
    (∃ e, stateRead a operation resourceId y = .error e ∧
      Poll.classOf classify e = .ok (some .notFound)) ↔ Await.SaysAbsent classify y := by
  cases y with
  | error e =>
    constructor
    · rintro ⟨_, ⟨⟩, hk⟩
      exact .inr ⟨e, rfl, hk⟩
    · rintro (h | ⟨_, ⟨⟩, hk⟩)
      · cases h
      · exact ⟨e, rfl, hk⟩
  | ok code =>
    have hcode : Await.SaysAbsent classify (.ok code) ↔ code = .null := by
      simp [Await.SaysAbsent]
    rw [hcode]
    cases reading a operation resourceId (hy code rfl) with
    | absent hr => exact iff_of_true ⟨_, hr, rfl⟩ rfl
    | succeeded hn ho hr =>
      rw [hr]
      refine iff_of_false ?_ (by rintro rfl; cases hn)
      rintro ⟨e, he, -⟩
      cases he
    | failed hn ho hr =>
      -- a task that has failed is no absent one
      rw [hr]
      refine iff_of_false ?_ (by rintro rfl; cases hn)
      rintro ⟨e, ⟨⟩, hk⟩
      cases hk
    | pending reason hn ho hr =>
      rw [hr]
      refine iff_of_false ?_ (by rintro rfl; cases hn)
      rintro ⟨e, he, -⟩
      cases he

/-- A poller waits only where the wait goes on. -/
theorem unsettled_of_waits (hy : IsLookable y) {condition : Condition τ}
    (h : Poll.Waits a.policy classify (stateRead a operation resourceId y) condition) :
    a.Unsettled classify y := by
  cases y with
  | error e =>
    cases h with
    | transient hk => exact .transient hk
    | absent hk hp => exact .absent hk hp
  | ok code =>
    cases reading a operation resourceId (hy code rfl) with
    | absent hr =>
      rw [hr] at h
      cases h with
      | transient hk => cases hk
      | absent hk hp => exact .missing hp
    | succeeded hn ho hr =>
      rw [hr] at h
      cases h
    | failed hn ho hr =>
      rw [hr] at h
      cases h with
      | transient hk => cases hk
      | absent hk hp => cases hk
    | pending reason hn ho hr => exact .pending hn ho

/-! ### The last answer -/

/-- The fault that ends a run for a failed status does not stem from one that is waited for. -/
theorem not_stemsFrom_stateFailure {e : Fault τ} {k : ErrorClass}
    (hk : Poll.classOf classify e = .ok (some k)) (hfatal : k ≠ .fatal) (name : String)
    (code : Value) :
    ¬ e.StemsFrom (Poll.finalFault name .fatal (stateFailure operation resourceId code)) := by
  have hpassed : Fault.PassedOn name (stateFailure (τ := τ) operation resourceId code)
      (Poll.finalFault name .fatal (stateFailure operation resourceId code)) :=
    Poll.finalFault_of_structured rfl
  intro h
  rw [Fault.StemsFrom] at h
  cases hs : e.isStructured with
  | true =>
    -- the two would be of one kind, and so of one class
    rw [hs, if_pos rfl, hpassed.kind] at h
    rw [Poll.classOf_of_structured hs, Fault.errorClass, ← h.2.1] at hk
    cases hk
    exact hfatal rfl
  | false =>
    rw [hs, if_neg Bool.false_ne_true, hpassed.cause] at h
    cases h

variable [Quantity τ] {c : Polling τ ω Value} {n : Nat} {w w₁ w' : World τ ω}
  {s : Except (Fault τ) (Option Value × Nat)}

/-- A fault of the last round that says that a task has failed stems from the fault that was
described, or else it is the finding of the table. -/
theorem stemsFrom_or_failed_of_last (hy : IsLookable y) (hc : IsClassed classify y)
    (hclassify : c.classify = classify)
    (h : c.LastWith n w (stateRead a operation resourceId y) w₁ s w') {f : Fault τ}
    {handle status : Value} (hs : s = .error f)
    (hkind : f.kind? = some (.taskFailed handle status)) :
    (∃ e, y = .error e ∧ e.StemsFrom f) ∨
      ∃ code, y = .ok code ∧ code.isNull = false ∧ a.table.outcome code = .failed := by
  subst hclassify
  -- a run that ends by its deadline says so
  have hlate {condition : Condition τ}
      (hw : Poll.Waits c.policy c.classify (stateRead a operation resourceId y) condition) :
      False := by
    obtain ⟨elapsed, rfl⟩ := h.of_waits hw
    cases hs
    cases hkind
  cases y with
  | error e =>
    refine .inl ⟨e, rfl, ?_⟩
    rcases Poll.classOf_eq_none_or (hc e rfl) with ⟨hstructured, -, hk⟩ | ⟨k, hk⟩
    · obtain ⟨rfl, -⟩ := h.of_unclassified hk
      cases hs
      rw [Fault.StemsFrom, if_pos hstructured]
      exact ⟨rfl, rfl, rfl, rfl⟩
    · rcases c.policy.isFatal_or k with hf | (rfl | ⟨rfl, hp⟩) | ⟨rfl, hp⟩
      · obtain rfl := h.of_isFatal hk hf
        cases hs
        exact Poll.stemsFrom_finalFault _ _ _
      · exact (hlate (.transient hk)).elim
      · exact (hlate (.absent hk hp)).elim
      · obtain rfl := h.of_absent hk hp
        cases hs
  | ok code =>
    cases reading a operation resourceId (hy code rfl) with
    | absent hr =>
      -- the fault of an absent resource says something else
      have hk : Poll.classOf c.classify (absence (.ofOption operation) resourceId) =
          .ok (some .notFound) := rfl
      rw [hr] at h hlate
      rcases c.policy.isFatal_or .notFound with hf | (hk' | ⟨-, hp⟩) | ⟨-, hp⟩
      · obtain rfl := h.of_isFatal hk hf
        cases hs
        cases hkind
      · cases hk'
      · exact (hlate (.absent hk hp)).elim
      · obtain rfl := h.of_absent hk hp
        cases hs
    | succeeded hn ho hr =>
      rw [hr] at h
      obtain rfl := h.of_done
      cases hs
    | failed hn ho hr => exact .inr ⟨code, rfl, hn, ho⟩
    | pending reason hn ho hr =>
      rw [hr] at hlate
      exact (hlate (.pending reason)).elim

/-- A failed status ends the run with a fault that says so. -/
theorem eq_finalFault_of_failed {code : Value} (hs : code.isScalar = true)
    (hn : code.isNull = false) (ho : a.table.outcome code = .failed)
    (h : c.LastWith n w (stateRead a operation resourceId (.ok code)) w₁ s w') :
    s = .error (Poll.finalFault c.operation .fatal (stateFailure operation resourceId code)) := by
  have hr : stateRead (τ := τ) a operation resourceId (.ok code) =
      .error (stateFailure operation resourceId code) := by
    cases reading a operation resourceId hs with
    | absent hr => cases hn
    | succeeded hn ho' hr => cases ho.symm.trans ho'
    | failed hn ho' hr => exact hr
    | pending reason hn ho' hr => cases ho.symm.trans ho'
  rw [hr] at h
  exact h.of_isFatal (k := .fatal) rfl (.inl rfl)

/-- The last round ends the wait for a state as its answer says. -/
theorem ended_of_last {answers : Nat → Except (Fault τ) Value} (hy : ∀ m, IsLookable (answers m))
    (hc : IsClassed classify (answers n)) (hclassify : c.classify = classify)
    (hpolicy : c.policy = a.policy) (hunsettled : ∀ m < n, a.Unsettled classify (answers m))
    (h : c.LastWith n w (stateRead a operation resourceId (answers n)) w₁ s w') :
    a.Ended classify operation resourceId answers n (s.map Prod.fst) where
  unsettled := hunsettled
  some_iff code := by
    rw [h.eq_some_iff, stateRead_eq_done_iff (hy n)]
  none_iff := by
    rw [h.eq_none_iff, hpolicy, hclassify, exists_stateRead_notFound_iff (hy n)]
  failed_iff := by
    constructor
    · rintro ⟨f, handle, status, hf, hkind, hstems⟩
      cases s with
      | ok v => cases hf
      | error g =>
        cases hf
        refine (stemsFrom_or_failed_of_last (hy n) hc hclassify h rfl hkind).resolve_left ?_
        rintro ⟨e, he, hstem⟩
        exact hstems n (Nat.le_refl n) e he hstem
    · rintro ⟨code, hcode, hn, ho⟩
      rw [hcode] at h
      obtain rfl := eq_finalFault_of_failed (hy n code hcode) hn ho h
      refine ⟨_, _, code, rfl, (Poll.finalFault_of_structured rfl).kind, fun m hm e he => ?_⟩
      rcases Nat.lt_or_eq_of_le hm with hlt | rfl
      · -- what was described before was waited for
        have hwaited := hunsettled m hlt
        rw [he] at hwaited
        cases hwaited with
        | transient hk => exact not_stemsFrom_stateFailure hk (by decide) _ _
        | absent hk hp => exact not_stemsFrom_stateFailure hk (by decide) _ _
      · cases hcode.symm.trans he
  carries {code} hcode hn ho := by
    rw [hcode] at h
    obtain rfl := eq_finalFault_of_failed (hy n code hcode) hn ho h
    have hpassed : Fault.PassedOn c.operation (stateFailure (τ := τ) operation resourceId code)
        (Poll.finalFault c.operation .fatal (stateFailure operation resourceId code)) :=
      Poll.finalFault_of_structured rfl
    refine ⟨_, _, rfl, hpassed.kind, hpassed.context, ?_⟩
    dsimp only
    split <;> rfl

/-! ### Whole runs -/

variable {host : Host τ ω} {flow : Workflow τ ω} {profile : Profile τ}
  {script : Nat → Except (Fault τ) Value} {position : ω → Nat}

/-- The resource is described by a script, and nothing else that happens while a workflow waits
moves the position in it. -/
structure Describes (host : Host τ ω) (flow : Workflow τ ω)
    (describe : ω → Except (Fault τ) Value × ω) (script : Nat → Except (Fault τ) Value)
    (position : ω → Nat) : Prop where
  host : host.Leaves position
  poller : flow.poller.Leaves position
  answer (o : ω) : (describe o).1 = script (position o)
  next (o : ω) : position (describe o).2 = position o + 1

/-- How the state of a resource is polled. -/
def statePolls (flow : Workflow τ ω) (a : Await τ) (operation : Option String) : Poll τ where
  profile := a.profile.or flow.readProfile
  policy := a.policy
  operation := operation
  name := some "check"

/-- To wait for a state is to poll the check of it. -/
theorem awaitState_eq (host : Host τ ω) (flow : Workflow τ ω) (a : Await τ)
    (operation : Option String) (resourceId : Value) (describe : ω → Except (Fault τ) Value × ω) :
    flow.awaitState host a operation resourceId describe =
      flow.poller.run host (statePolls flow a operation)
        (check a operation resourceId describe) := rfl

/-- **The state of a resource.** Let the resource be described by a script, by codes that can be
looked up and faults that have a class. Each answer that a run takes leaves it waiting, but for the
last. A code is returned iff it is the last answer and one that has succeeded. None is returned iff
absence is accepted and the last answer says so, in whichever way. The workflow says that a task has
failed, in a fault that stems from no other, iff the last answer is a code that has failed, and then
the fault carries the code.

A description that raises the fault of an absent resource in place of null, always or now and then,
makes no difference to any run, whether it ends or not. -/
theorem awaitState_ended (hp : flow.Describes host describe script position)
    (hprofile : a.profile.or flow.readProfile = some profile)
    (hy : ∀ m, IsLookable (script m)) (hc : ∀ m, IsClassed flow.poller.classifier (script m)) :
    (∀ w r w', (flow.awaitState host a operation resourceId describe).Ends w r w' →
      ∃ n, w'.calls = w.calls ++ List.replicate (n + 1) .describe ∧
        position w'.outside = position w.outside + (n + 1) ∧
        a.Ended flow.poller.classifier operation resourceId
          (fun k => script (position w.outside + k)) n r) ∧
    ∀ describe' : ω → Except (Fault τ) Value × ω,
      Restates operation resourceId describe describe' →
        flow.awaitState host a operation resourceId describe' =
          flow.awaitState host a operation resourceId describe := by
  constructor
  · intro w r w' h
    rw [awaitState_eq] at h
    have hpolls : (statePolls flow a operation).profile = some profile := hprofile
    have hplays (start : τ) :
        (flow.poller.polling host (statePolls flow a operation) profile
          (check a operation resourceId describe) start).Plays
          (fun n => stateRead a operation resourceId (script n)) position .describe := by
      refine ⟨hp.host, hp.poller, fun {w w' x} hx => ?_⟩
      obtain ⟨rfl, rfl⟩ := hx.unique (check_ends a operation resourceId describe w)
      exact ⟨congrArg _ (hp.answer _), hp.next _, World.calls_called _⟩
    obtain ⟨n, hcalls, hpos, hwaits, w₀, w₁, s, hlast, rfl⟩ :=
      Poller.run_takes_lines hpolls hplays h
    refine ⟨n, hcalls, hpos, ended_of_last (fun m => hy _) (hc _) rfl rfl (fun m hm => ?_) hlast⟩
    obtain ⟨condition, hw⟩ := hwaits m hm
    exact unsettled_of_waits (hy _) hw
  · intro describe' h
    rw [awaitState_eq, awaitState_eq, check_restated h]

/-- A disk that is being made, is not to be seen twice, and is found to have failed. -/
def ailing : Nat → Except (Fault ℚ) Value
  | 0 => .ok (.int 1)
  | 1 => .ok .null
  | 2 => .error (.simple .notFound "no such disk" {})
  | _ => .ok (.int 2)

/-- How the disk is described. -/
def ailingDescribe (o : ℚ × ℕ) : Except (Fault ℚ) Value × ℚ × ℕ := (ailing o.2, (o.1, o.2 + 1))

/-- How it is described by a fault in place of null. -/
def ailingRestated (o : ℚ × ℕ) : Except (Fault ℚ) Value × ℚ × ℕ :=
  if o.2 = 1 then (.error (absence (.text "Describe") (.text "disk")), (o.1, o.2 + 1))
  else ailingDescribe o

/-- A workflow that waits for the disk. -/
def ailingPatient : Workflow ℚ (ℚ × ℕ) where
  poller := {}
  readProfile := some ⟨.null, 5, 30⟩
  convergeProfile := none

/-- How the workflow is run, where an absent disk is waited for. -/
def ailingRun (describe : ℚ × ℕ → Except (Fault ℚ) Value × ℚ × ℕ) :
    Run ℚ (ℚ × ℕ) (Option Value) :=
  ailingPatient.awaitState (.exact 5) { table := .flow, policy := .retry } (some "Describe")
    (.text "disk") describe

/-- The failure is found in the fourth answer, and just so if null is restated. -/
theorem awaitState_ended_ailing :
    ∃ f w', (ailingRun ailingDescribe).Ends { outside := (0, 0) } (.error f) w' ∧
      f.kind? = some (.taskFailed (.text "disk") (.int 2)) ∧
      w'.calls = List.replicate 4 .describe ∧
      (ailingRun ailingRestated).Ends { outside := (0, 0) } (.error f) w' := by
  have hdescribes : ailingPatient.Describes (.exact 5) ailingDescribe ailing Prod.snd :=
    ⟨⟨fun _ => rfl, fun _ _ => rfl⟩, (fun _ h => by cases h), fun _ => rfl, fun _ => rfl⟩
  have hlookable (m : ℕ) : IsLookable (ailing m) := by
    intro code hcode
    match m with
    | 0 | 1 | m + 3 =>
      cases hcode
      rfl
    | 2 => cases hcode
  have hrestates : Restates (some "Describe") (.text "disk") ailingDescribe ailingRestated := by
    rintro ⟨time, m⟩
    by_cases hm : m = 1
    · subst hm
      exact .inr ⟨rfl, rfl⟩
    · exact .inl (if_neg hm)
  obtain ⟨hends, hrestated⟩ : (∀ w r w', (ailingRun ailingDescribe).Ends w r w' → _) ∧
      ∀ describe, Restates (some "Describe") (.text "disk") ailingDescribe describe →
        ailingRun describe = ailingRun ailingDescribe :=
    awaitState_ended hdescribes rfl hlookable (fun _ _ _ _ => ⟨.fatal, rfl⟩)
  obtain ⟨r, w', h, ho⟩ := Run.exists_ends_of_outside (m := ailingRun ailingDescribe)
    (w := { outside := (0, 0) }) (o := (15, 4)) (by decide +kernel)
  obtain ⟨n, hcalls, hpos, hended⟩ := hends _ r w' h
  rw [ho] at hpos
  change 4 = 0 + (n + 1) at hpos
  obtain rfl : n = 3 := by omega
  obtain ⟨f, -, rfl, hkind, -⟩ := hended.carries rfl rfl (by decide +kernel)
  refine ⟨f, w', h, hkind, hcalls, ?_⟩
  rwa [hrestated _ hrestates]

end Workflow

end Settle
