import Settle.Proofs.Poll.Decision
import Settle.Proofs.Poll.Window
import Settle.Proofs.Task.Course

/-!
# The lookup of an order

An order is looked up until an answer comes that is no transient failure. That answer is inspected
once, outside the calls that are retried, so that nothing it may turn out to be is asked for again.
`Decides` says what becomes of it: the lookup has an entry iff the answer is a list of one entry
with one resource, and each other answer has its fault.

In a workflow the policy for absence is the one for the task, not for its order. A lookup that fails
ends the wait before any status is asked for, and a fault that means absence is passed on as it is.

Main statement: `resolve_decides`, for lookups that are answered by a script.
-/

namespace Settle

variable {τ ω : Type}

namespace Workflow

/-! ### Answers -/

/-- The answer is a transient failure. -/
def Passing {α : Type} (classify : Classifier τ) (y : Except (Fault τ) α) : Prop :=
  ∃ e, y = .error e ∧ Poll.classOf classify e = .ok (some .transient)

/-- What becomes of an answer to a lookup that is no transient failure. -/
structure Decides (classify : Classifier τ) (y : Except (Fault τ) OrderAnswer)
    (r : Except (Fault τ) DealEntry) : Prop where
  entry_iff (entry : DealEntry) :
    r = .ok entry ↔ y = .ok (.entries [.deal entry]) ∧ entry.resourceIds.length = 1
  deals {items : List OrderItem} (h : y = .ok (.entries items)) (hn : items.length ≠ 1) :
    ∃ f, r = .error f ∧ f.kind? = some (.cardinality (.text "deal") (.int items.length))
  resources {entry : DealEntry} (h : y = .ok (.entries [.deal entry]))
    (hn : entry.resourceIds.length ≠ 1) : ∃ f, r = .error f ∧
      f.kind? = some (.cardinality (.text "resource id in deal") (.int entry.resourceIds.length))
  nothing (h : y = .ok .nothing) : ∃ f, r = .error f ∧ f.kind? = some .emptyResponse
  failed {e : Fault τ} {k : ErrorClass} (h : y = .error e)
    (hk : Poll.classOf classify e = .ok (some k)) :
    ∃ f, r = .error f ∧ f.errorClass = some k ∧ e.StemsFrom f
  unclassified {e : Fault τ} (h : y = .error e) (hk : Poll.classOf classify e = .ok none) :
    r = .error e

/-- The inspection of an answer finds just the entry that is alone in it, with its one resource. -/
theorem soleEntry_eq_ok_iff {action : Option String} {orderRef : Value} {answer : OrderAnswer}
    {entry : DealEntry} :
    soleEntry (τ := τ) action orderRef answer = .ok entry ↔
      answer = .entries [.deal entry] ∧ entry.resourceIds.length = 1 := by
  constructor
  · intro h
    rw [soleEntry.eq_def] at h
    split at h
    · cases h
    · cases h
    · next found =>
      by_cases hn : found.resourceIds.length = 1
      · rw [if_pos hn] at h
        cases h
        exact ⟨rfl, hn⟩
      · rw [if_neg hn] at h
        cases h
    · cases h
    · cases h
  · rintro ⟨rfl, hn⟩
    exact if_pos hn

theorem soleEntry_of_length_ne {action : Option String} {orderRef : Value}
    {items : List OrderItem} (h : items.length ≠ 1) :
    soleEntry (τ := τ) action orderRef (.entries items) =
      .error (.cardinality (.text "deal") (.int items.length) (.ofOption action)) := by
  match items with
  | [] => rfl
  | [item] => exact absurd rfl h
  | first :: second :: rest => cases first <;> rfl

/-- An answer is inspected as it came. -/
theorem decides_soleEntry (classify : Classifier τ) (action : Option String) (orderRef : Value)
    (answer : OrderAnswer) : Decides classify (.ok answer) (soleEntry action orderRef answer) where
  entry_iff entry := by
    rw [soleEntry_eq_ok_iff, Except.ok.injEq]
  deals h hn := by
    cases h
    exact ⟨_, soleEntry_of_length_ne hn, rfl⟩
  resources h hn := by
    cases h
    exact ⟨_, if_neg hn, rfl⟩
  nothing h := by
    cases h
    exact ⟨_, rfl, rfl⟩
  failed h _ := by cases h
  unclassified h _ := by cases h

/-! ### The last call -/

variable [Quantity τ] {c : Polling τ ω OrderAnswer} {n : Nat} {w w₁ w' : World τ ω}
  {y : Except (Fault τ) OrderAnswer} {s : Except (Fault τ) (Option OrderAnswer × Nat)}

/-- The entry that a lookup comes to, told by how the calls came out. -/
def inspected (action : Option String) (orderRef : Value)
    (s : Except (Fault τ) (Option OrderAnswer × Nat)) : Except (Fault τ) DealEntry :=
  (s.map Prod.fst).bind fun answer => soleEntry action orderRef (answer.getD .nothing)

omit [Quantity τ] in
/-- A lookup waits for transient failures alone. -/
theorem passing_of_waits {classify : Classifier τ} {condition : Condition τ}
    (h : Poll.Waits .fatal classify (y.map Reply.done) condition) : Passing classify y := by
  cases y with
  | ok answer => cases h
  | error e =>
    cases h with
    | transient hk => exact ⟨e, rfl, hk⟩
    | absent hk hp => cases hp

/-- The last call decides what the lookup comes to, if it is no transient failure. -/
theorem decides_of_last {action : Option String} {orderRef : Value} (hpolicy : c.policy = .fatal)
    (h : c.LastWith n w (y.map .done) w₁ s w') (hy : ¬ Passing c.classify y) :
    Decides c.classify y (inspected action orderRef s) := by
  cases y with
  | ok answer =>
    obtain rfl := h.of_done
    exact decides_soleEntry c.classify action orderRef answer
  | error e =>
    refine
      { entry_iff := fun entry => ?_
        deals := nofun
        resources := nofun
        nothing := nofun
        failed := fun {e' k} he hk => ?_
        unclassified := fun {e'} he hk => ?_ }
    · constructor
      · intro hr
        -- without a fault, the calls would have come to an answer, or to accepted absence
        cases hs : s.map Prod.fst with
        | error f =>
          rw [inspected, hs] at hr
          cases hr
        | ok v =>
          cases v with
          | none =>
            have hp := (h.eq_none_iff.mp hs).1
            rw [hpolicy] at hp
            cases hp
          | some answer => cases h.eq_some_iff.mp hs
      · rintro ⟨⟨⟩, -⟩
    · cases he
      have hf : c.policy.IsFatal k := by
        rcases c.policy.isFatal_or k with hf | (rfl | ⟨-, hp⟩) | ⟨-, hp⟩
        · exact hf
        · exact absurd ⟨e, rfl, hk⟩ hy
        · rw [hpolicy] at hp
          cases hp
        · rw [hpolicy] at hp
          cases hp
      obtain rfl := h.of_isFatal hk hf
      exact ⟨_, rfl, Poll.errorClass_finalFault hk, Poll.stemsFrom_finalFault _ _ _⟩
    · cases he
      obtain ⟨rfl, -⟩ := h.of_unclassified hk
      rfl

/-! ### Lookups -/

variable {host : Host τ ω} {flow : Workflow τ ω} {action : Option String} {orderRef : Value}
  {lookup : Value → ω → Except (Fault τ) OrderAnswer × ω} {profile : Profile τ}
  {script : Nat → Except (Fault τ) OrderAnswer} {position : ω → Nat}

/-- Lookups are answered by a script, and nothing else that happens while an order is looked up
moves the position in it. -/
structure Recounts (host : Host τ ω) (flow : Workflow τ ω)
    (lookup : Value → ω → Except (Fault τ) OrderAnswer × ω)
    (script : Nat → Except (Fault τ) OrderAnswer) (position : ω → Nat) : Prop where
  host : host.Leaves position
  poller : flow.poller.Leaves position
  answer (orderRef : Value) (o : ω) : (lookup orderRef o).1 = script (position o)
  next (orderRef : Value) (o : ω) : position (lookup orderRef o).2 = position o + 1

/-- How a lookup came out, told by the script. It has called `n + 1` times, and all answers but the
last were transient failures. The last one decides, unless it is a transient failure as well and the
deadline has passed. -/
structure Looked (classify : Classifier τ) (script : Nat → Except (Fault τ) OrderAnswer)
    (position : ω → Nat) (orderRef : Value) (n : Nat) (w : World τ ω)
    (r : Except (Fault τ) DealEntry) (w' : World τ ω) : Prop where
  calls : w'.calls = w.calls ++ List.replicate (n + 1) (.resolve orderRef)
  line : position w'.outside = position w.outside + (n + 1)
  passing (m : Nat) (hm : m < n) : Passing classify (script (position w.outside + m))
  decided (h : ¬ Passing classify (script (position w.outside + n))) :
    Decides classify (script (position w.outside + n)) r
  late (h : Passing classify (script (position w.outside + n))) :
    ∃ f operation deadline elapsed attempts reason,
      r = .error f ∧ f.kind? = some (.deadlineExceeded operation deadline elapsed attempts reason)

/-- How the calls of a lookup are retried. -/
def resolving (flow : Workflow τ ω) (action : Option String) : Poll τ :=
  Poller.retries
    { profile := flow.readProfile
      operation := some (orName action "resolve_order")
      name := some "<lambda>" }

/-- The polling run by which an order is looked up. -/
def resolution (host : Host τ ω) (flow : Workflow τ ω) (action : Option String)
    (lookup : Value → ω → Except (Fault τ) OrderAnswer × ω) (orderRef : Value)
    (profile : Profile τ) (start : τ) : Polling τ ω OrderAnswer :=
  flow.poller.polling host (flow.resolving action) profile
    (Poller.attempt (Run.call (.resolve orderRef) (lookup orderRef))) start

theorem resolution_plays (hp : flow.Recounts host lookup script position) (start : τ) :
    (resolution host flow action lookup orderRef profile start).Plays
      (fun n => (script n).map .done) position (.resolve orderRef) where
  host := hp.host
  poller := hp.poller
  answer h := by
    obtain ⟨y, hy, rfl⟩ := Poller.attempt_ends_iff.mp h
    obtain ⟨rfl, rfl⟩ := Run.ends_call.mp hy
    exact ⟨congrArg _ (hp.answer _ _), hp.next _ _, World.calls_called _⟩

/-- A lookup is a course of calls and a last one, whose answer is inspected. -/
theorem resolve_ends_iff (hprofile : flow.readProfile = some profile)
    {r : Except (Fault τ) DealEntry} :
    (flow.resolve host action orderRef lookup).Ends w r w' ↔
      let c := resolution host flow action lookup orderRef profile (host.reading w.outside)
      ∃ n w₀ s, n < host.patience ∧ c.Course 0 (w.readBy host) n w₀ ∧ c.Last n w₀ s w' ∧
        r = inspected action orderRef s := by
  have hresolving : (flow.resolving action).profile = some profile := hprofile
  have hcall : flow.resolve host action orderRef lookup = (do
      let answer ← flow.poller.run host (flow.resolving action)
        (Poller.attempt (Run.call (.resolve orderRef) (lookup orderRef)))
      Run.ofExcept (soleEntry action orderRef (answer.getD .nothing))) := rfl
  rw [hcall, Run.ends_bind_ofExcept]
  simp only [Poller.run_ends_iff, Poller.runCounting_ends_iff hresolving]
  constructor
  · rintro ⟨_, ⟨s, ⟨n, w₀, hn, hcourse, hlast⟩, rfl⟩, rfl⟩
    exact ⟨n, w₀, s, hn, hcourse, hlast, rfl⟩
  · rintro ⟨n, w₀, s, hn, hcourse, hlast, rfl⟩
    exact ⟨_, ⟨s, ⟨n, w₀, hn, hcourse, hlast⟩, rfl⟩, rfl⟩

/-- A course of calls and a last one are told by the answers that they took. -/
theorem looked_of_last (hp : flow.Recounts host lookup script position) {w₀ : World τ ω}
    {s : Except (Fault τ) (Option OrderAnswer × Nat)} :
    let c := resolution host flow action lookup orderRef profile (host.reading w.outside)
    c.Course 0 (w.readBy host) n w₀ → c.Last n w₀ s w' →
      Looked flow.poller.classifier script position orderRef n w (inspected action orderRef s)
        w' := by
  intro c hcourse hlast
  obtain ⟨hcalls, hpos, hwaits, w₁, hlast⟩ :=
    hcourse.takes_lines_last (resolution_plays hp _) hlast
  refine ⟨hcalls, hpos, fun m hm => ?_, fun hy => decides_of_last rfl hlast hy, ?_⟩
  · obtain ⟨condition, hw⟩ := hwaits m hm
    exact passing_of_waits hw
  · rintro ⟨e, he, hk⟩
    rw [he] at hlast
    obtain ⟨elapsed, rfl⟩ := hlast.of_waits (.transient hk)
    exact ⟨_, _, _, _, _, _, rfl, rfl⟩

/-- A lookup that ends is told by the answers that it took. -/
theorem exists_looked (hp : flow.Recounts host lookup script position)
    (hprofile : flow.readProfile = some profile) {r : Except (Fault τ) DealEntry}
    (h : (flow.resolve host action orderRef lookup).Ends w r w') :
    ∃ n, Looked flow.poller.classifier script position orderRef n w r w' := by
  obtain ⟨n, w₀, s, -, hcourse, hlast, rfl⟩ := (resolve_ends_iff hprofile).mp h
  exact ⟨n, looked_of_last hp hcourse hlast⟩

/-- An answer that is no transient failure ends the lookup, if the host has patience for it. -/
theorem exists_looked_of_course (hp : flow.Recounts host lookup script position)
    (hprofile : flow.readProfile = some profile) {w₀ : World τ ω} (hn : n < host.patience)
    (hcourse : (resolution host flow action lookup orderRef profile
      (host.reading w.outside)).Course 0 (w.readBy host) n w₀)
    (hy : ¬ Passing flow.poller.classifier (script (position w.outside + n))) :
    ∃ r w', (flow.resolve host action orderRef lookup).Ends w r w' ∧
      Looked flow.poller.classifier script position orderRef n w r w' := by
  let c := resolution host flow action lookup orderRef profile (host.reading w.outside)
  have hplays : c.Plays (fun n => (script n).map .done) position (.resolve orderRef) :=
    resolution_plays hp _
  have hpos : position w₀.outside = position w.outside + n := by
    rw [(hcourse.takes_lines hplays).2.1, Nat.sub_zero]
    exact congrArg (· + n) (hp.host.read w.outside)
  have hcall : (Poller.attempt (Run.call (.resolve orderRef) (lookup orderRef))).Ends
      (w₀.noted .attempted) _ _ :=
    Poller.attempt_ends_iff.mpr ⟨_, Run.ends_call.mpr ⟨rfl, rfl⟩, rfl⟩
  rcases Polling.last_or_waited (c := c) (n := n) hcall with ⟨s, w', hlast⟩ | ⟨w', hwaited⟩
  · exact ⟨_, w', (resolve_ends_iff hprofile).mpr ⟨n, w₀, s, hn, hcourse, hlast, rfl⟩,
      looked_of_last hp hcourse hlast⟩
  · -- such an answer is not waited for
    obtain ⟨⟨condition, hw⟩, -, -⟩ := hwaited.takes_line hplays
    rw [hpos] at hw
    exact absurd (passing_of_waits hw) hy

/-! ### Lookups in a workflow -/

variable {a : Await τ} {s : Submission} {source : TaskSource τ ω}

/-- The world in which a workflow starts to look an order up. -/
def orderAnnounced (s : Submission) (w : World τ ω) : World τ ω :=
  (w.logged (.workflow (.submitted s.action s.resourceId s.orderRef))).logged
    (.workflow (.resolving s.orderRef))

/-- A lookup that fails ends the workflow, which does nothing more than to announce that. -/
theorem awaitCompletion_ends_of_unresolved (hs : s.requiresResolution = true)
    (hl : source.resolve = some lookup) {f : Fault τ}
    (h : (flow.resolve host a.resolveAction s.orderRef lookup).Ends (orderAnnounced s w) (.error f)
      w₁) :
    (flow.awaitCompletion host a s source).Ends w (.error (reported s.resourceId s.handle f))
      (w₁.loggedAll (alarms (α := Value) s.resourceId s.handle (.error f))) :=
  awaitCompletion_ends_iff.mpr
    ⟨_, w₁, (locate_ends_iff_of_order hs hl).mpr ⟨_, h, rfl⟩, rfl, rfl⟩

/-- A workflow that comes to an end has looked its order up before. -/
theorem exists_resolve_ends_of_await (hs : s.requiresResolution = true)
    (hl : source.resolve = some lookup) {r : Except (Fault τ) Value}
    (h : (flow.awaitCompletion host a s source).Ends w r w') :
    ∃ x w₁, (flow.resolve host a.resolveAction s.orderRef lookup).Ends (orderAnnounced s w) x w₁ ∧
      ∀ f, x = .error f → r = .error (reported s.resourceId s.handle f) ∧
        w'.outside = w₁.outside ∧ w'.calls = w₁.calls := by
  obtain ⟨place, w₁, hplace, -⟩ := awaitCompletion_ends_iff.mp h
  obtain ⟨x, hx, -⟩ := (locate_ends_iff_of_order hs hl).mp hplace
  refine ⟨x, w₁, hx, ?_⟩
  rintro f rfl
  obtain ⟨rfl, rfl⟩ := h.unique (awaitCompletion_ends_of_unresolved hs hl hx)
  exact ⟨rfl, World.outside_loggedAll _ _, World.calls_loggedAll _⟩

/-- **The lookup of an order.** Let lookups be answered by a script. A lookup ends with the first
answer that is no transient failure, if the deadline has not passed by then and the host has
patience for it, and calls no more. If that is a list of one entry with one resource, then the entry
is found. For any other list, any other number of resources, and no answer, there are faults of
their own.

A workflow that is given an order looks it up first. If the lookup fails, then the workflow fails
without any query for a status. If it fails with a fault that means absence, then so does the
workflow, whatever the policy is for the task. -/
theorem resolve_decides (action : Option String) (orderRef : Value)
    (hp : flow.Recounts host lookup script position)
    (hprofile : flow.readProfile = some profile) :
    (∀ w n w₀, n < host.patience →
      (resolution host flow action lookup orderRef profile (host.reading w.outside)).Course 0
        (w.readBy host) n w₀ →
      ¬ Passing flow.poller.classifier (script (position w.outside + n)) →
      ∃ r w', (flow.resolve host action orderRef lookup).Ends w r w' ∧
        Looked flow.poller.classifier script position orderRef n w r w') ∧
    (∀ w r w', (flow.resolve host action orderRef lookup).Ends w r w' →
      ∃ n, Looked flow.poller.classifier script position orderRef n w r w') ∧
    ∀ (a : Await τ) (s : Submission) (source : TaskSource τ ω) (w : World τ ω),
      s.requiresResolution = true → source.resolve = some lookup →
      (∀ f w₁, (flow.resolve host a.resolveAction s.orderRef lookup).Ends (orderAnnounced s w)
          (.error f) w₁ → ∃ w', (flow.awaitCompletion host a s source).Ends w
            (.error (reported s.resourceId s.handle f)) w') ∧
      ∀ r w', (flow.awaitCompletion host a s source).Ends w r w' →
        ∃ n x w₁, (flow.resolve host a.resolveAction s.orderRef lookup).Ends (orderAnnounced s w) x
            w₁ ∧
          Looked flow.poller.classifier script position s.orderRef n w x w₁ ∧
          (∀ f, x = .error f → r = .error (reported s.resourceId s.handle f) ∧
            w'.outside = w₁.outside ∧
            w'.calls = w.calls ++ List.replicate (n + 1) (.resolve s.orderRef)) ∧
          ∀ e, script (position w.outside + n) = .error e →
            Poll.classOf flow.poller.classifier e = .ok (some .notFound) →
            ∃ f, r = .error f ∧ f.errorClass = some .notFound ∧ e.StemsFrom f := by
  refine ⟨fun w n w₀ hn hcourse hy => exists_looked_of_course hp hprofile hn hcourse hy,
    fun w r w' h => exists_looked hp hprofile h, fun a s source w hs hl => ⟨?_, ?_⟩⟩
  · intro f w₁ h
    exact ⟨_, awaitCompletion_ends_of_unresolved hs hl h⟩
  · intro r w' h
    obtain ⟨x, w₁, hx, hfailed⟩ := exists_resolve_ends_of_await hs hl h
    obtain ⟨n, hlooked⟩ := exists_looked hp hprofile hx
    -- what is announced beforehand is no call
    have hcalls : (orderAnnounced s w).calls = w.calls := by
      rw [orderAnnounced, World.calls_logged, World.calls_logged]
    have hlooked : Looked flow.poller.classifier script position s.orderRef n w x w₁ :=
      { hlooked with calls := hcalls ▸ hlooked.calls }
    refine ⟨n, x, w₁, hx, hlooked, fun f hf => ?_, fun e he hk => ?_⟩
    · obtain ⟨hr, ho, hcalls'⟩ := hfailed f hf
      exact ⟨hr, ho, hcalls'.trans hlooked.calls⟩
    · have hy : ¬ Passing flow.poller.classifier (script (position w.outside + n)) := by
        rintro ⟨e', he', hk'⟩
        cases he.symm.trans he'
        cases hk.symm.trans hk'
      obtain ⟨f, hf, hclass, hstems⟩ := (hlooked.decided hy).failed he hk
      obtain ⟨hr, -⟩ := hfailed f hf
      rw [reported_of_not_fatal (by rw [Fault.isFatal, hclass]; rfl)] at hr
      exact ⟨f, hr, hclass, hstems⟩

/-- A lookup that is busy now and then. First it finds two deals, and later the order is lost. -/
def fickle : Nat → Except (Fault ℚ) OrderAnswer
  | 0 | 2 => .error (.simple .transient "busy" {})
  | 1 => .ok (.ofDeals [⟨[.text "first"], .null⟩, ⟨[.text "second"], .null⟩])
  | _ => .error (.simple .notFound "lost" {})

/-- How the order is looked up there. -/
def fickleLookup (_ : Value) (o : ℚ × ℕ) : Except (Fault ℚ) OrderAnswer × ℚ × ℕ :=
  (fickle o.2, (o.1, o.2 + 1))

/-- A workflow that looks that order up. -/
def ficklePatient : Workflow ℚ (ℚ × ℕ) where
  poller := {}
  readProfile := some ⟨.null, 5, 12⟩
  convergeProfile := none

/-- How the workflow is run, where a task that is absent counts as finished. -/
def fickleRun : Run ℚ (ℚ × ℕ) Value :=
  ficklePatient.awaitCompletion (.exact 3) { table := .flow, policy := .absent }
    (.order (.text "order") .null)
    { query := fun _ o => (.ok (.bare (.int 0)), o), resolve := some fickleLookup }

/-- Two deals are too many, and an order that is lost is missed although an absent task would not
be. In either case it takes two calls, and no query. -/
theorem resolve_decides_fickle :
    (∃ f w', fickleRun.Ends { outside := (0, 0) } (.error f) w' ∧
      f.kind? = some (.cardinality (.text "deal") (.int 2)) ∧
      w'.calls = List.replicate 2 (.resolve (.text "order"))) ∧
    ∃ f w', fickleRun.Ends { outside := (0, 2) } (.error f) w' ∧ f.errorClass = some .notFound ∧
      w'.calls = List.replicate 2 (.resolve (.text "order")) := by
  have hrecounts : ficklePatient.Recounts (.exact 3) fickleLookup fickle Prod.snd :=
    ⟨⟨fun _ => rfl, fun _ _ => rfl⟩, (fun _ h => by cases h), fun _ _ => rfl, fun _ _ => rfl⟩
  obtain ⟨-, -, hawait⟩ := resolve_decides none .null hrecounts rfl
  -- a lookup that is busy at first and then is not ends with the second call, unless it is late
  have hsecond {k : ℕ} {r : Except (Fault ℚ) Value} {w' : World ℚ (ℚ × ℕ)}
      (h : fickleRun.Ends { outside := (0, k) } r w') (ho : w'.outside.2 = k + 2)
      (hbusy : Passing Classifier.allFatal (fickle k))
      (hthen : ¬ Passing Classifier.allFatal (fickle (k + 1))) :
      ∃ x : Except (Fault ℚ) DealEntry, Decides Classifier.allFatal (fickle (k + 1)) x ∧
        ∀ f, x = .error f → r = .error (reported .null .null f) ∧
          w'.calls = List.replicate 2 (.resolve (.text "order")) := by
    obtain ⟨n, x, w₁, -, hlooked, hfailed, -⟩ := (hawait _ _ _ _ rfl rfl).2 r w' h
    have hn : n = 1 := by
      rcases n with _ | _ | n
      · obtain ⟨f, -, -, -, -, -, hx, -⟩ := hlooked.late hbusy
        have hline : w₁.outside.2 = k + 1 := hlooked.line
        rw [← (hfailed f hx).2.1, ho] at hline
        omega
      · rfl
      · exact absurd (hlooked.passing 1 (by omega)) hthen
    subst hn
    exact ⟨x, hlooked.decided hthen, fun f hf => ⟨(hfailed f hf).1, (hfailed f hf).2.2⟩⟩
  constructor
  · obtain ⟨r, w', h, ho⟩ := Run.exists_ends_of_outside (m := fickleRun)
      (w := { outside := (0, 0) }) (o := (5, 2)) (by decide +kernel)
    have hthen : ¬ Passing Classifier.allFatal (fickle 1) := by
      rintro ⟨e, he, -⟩
      cases he
    obtain ⟨x, hdecides, hfailed⟩ := hsecond h (congrArg Prod.snd ho) ⟨_, rfl, rfl⟩ hthen
    obtain ⟨f, hf, hkind⟩ := hdecides.deals rfl (by decide)
    obtain ⟨rfl, hcalls⟩ := hfailed f hf
    exact ⟨_, w', h, (kind_reported _ _ f).trans hkind, hcalls⟩
  · obtain ⟨r, w', h, ho⟩ := Run.exists_ends_of_outside (m := fickleRun)
      (w := { outside := (0, 2) }) (o := (5, 4)) (by decide +kernel)
    have hthen : ¬ Passing Classifier.allFatal (fickle 3) := by
      rintro ⟨e, he, hk⟩
      cases he
      cases hk
    obtain ⟨x, hdecides, hfailed⟩ := hsecond h (congrArg Prod.snd ho) ⟨_, rfl, rfl⟩ hthen
    obtain ⟨f, hf, hclass, -⟩ := hdecides.failed (k := .notFound) rfl rfl
    obtain ⟨rfl, hcalls⟩ := hfailed f hf
    refine ⟨_, w', h, ?_, hcalls⟩
    rw [Fault.errorClass, kind_reported]
    exact hclass

end Workflow

end Settle
