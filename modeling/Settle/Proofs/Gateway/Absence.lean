import Settle.Proofs.Gateway.Classified
import Settle.Proofs.Gateway.TraceId
import Settle.Proofs.Limiter.Rounds
import Settle.Proofs.Poll.Decision
import Settle.Proofs.Poll.Window

/-!
# Absence, and an empty response

There are two ways for calls that are retried to come to nothing: the client may answer with null,
or it may fail with a fault that means absence, where absence is accepted. An invoker keeps them
apart. A null answer is refused by the call itself, as a fatal fault, so that the poller neither
returns nor retries it, and null that is returned means absence.

All that a call raises is structured (`isStructured_result`): its failures carry the classes that
the invoker gave them. The poller reads these classes (`poll_classOf_failure`) and asks for none, so
its own classifier has no say.

Main statement: `callWithRetry_null_iff`, for clients that answer by a script.
-/

namespace Settle

variable {τ ω : Type}

namespace Invoker

/-! ### One call -/

/-- What a call makes of the answer of the client. -/
def result (classify : Classifier τ) (action : String) :
    Except (Fault τ) Value → Except (Fault τ) Value
  | .error e => .error (failure classify action e).2
  | .ok .null => .error (.emptyResponse (.text action) "")
  | .ok response => .ok response

variable {classify classify' : Classifier τ} {action : String} {y : Except (Fault τ) Value}

/-- A call returns what the client has answered, unless that is null. -/
theorem result_eq_ok_iff {v : Value} :
    result classify action y = .ok v ↔ y = .ok v ∧ v.isNull = false := by
  cases y with
  | error e => simp [result]
  | ok u =>
    cases u with
    | null =>
      constructor
      · intro h
        cases h
      · rintro ⟨⟨⟩, hnull⟩
        cases hnull
    | _ =>
      constructor
      · rintro ⟨⟩
        exact ⟨rfl, rfl⟩
      · exact And.left

theorem result_eq_error {f : Fault τ} (h : result classify action y = .error f) :
    (y = .ok .null ∧ f = .emptyResponse (.text action) "") ∨
      ∃ e, y = .error e ∧ f = (failure classify action e).2 := by
  cases y with
  | error e => exact .inr ⟨e, rfl, (Except.error.inj h).symm⟩
  | ok u =>
    cases u with
    | null => exact .inl ⟨rfl, (Except.error.inj h).symm⟩
    | _ => cases h

/-- Every fault that a client raises has a class for the classifier. -/
def Classifies (classify : Classifier τ) (y : Except (Fault τ) Value) : Prop :=
  ∀ e, y = .error e → ∃ k, classify e = .ok (some k)

theorem isStructured_result (hc : Classifies classify y) {f : Fault τ}
    (h : result classify action y = .error f) : f.isStructured = true := by
  rcases result_eq_error h with ⟨-, rfl⟩ | ⟨e, he, rfl⟩
  · rfl
  · exact isStructured_failure (hc e he)

/-- A poller takes what a call raises to be of some class that does not end runs at once only if
the client has raised a fault of that class. -/
theorem exists_of_classOf_result (hc : Classifies classify y) {f : Fault τ} {k : ErrorClass}
    (h : result classify action y = .error f) (hk : Poll.classOf classify' f = .ok (some k))
    (hfatal : k ≠ .fatal) : ∃ e, y = .error e ∧ Poll.classOf classify e = .ok (some k) := by
  rcases result_eq_error h with ⟨-, rfl⟩ | ⟨e, he, rfl⟩
  · -- an empty response is fatal
    cases hk
    exact absurd rfl hfatal
  · exact ⟨e, he, (poll_classOf_failure (hc e he)).symm.trans hk⟩

variable [Quantity τ] {host : Host τ ω} {i : Invoker τ ω} {l : Limiter τ} {request : Value}
  {given : Option (Profile τ)} {profile : Profile τ} {classifier : Option (Classifier τ)}
  {policy : NotFoundPolicy} {script : Nat → Except (Fault τ) Value} {position : ω → Nat}
  {w w' : World τ ω}

/-- The client answers by a script, and nothing else that happens while its calls are retried moves
the position in it. -/
structure Plays (host : Host τ ω) (i : Invoker τ ω) (script : Nat → Except (Fault τ) Value)
    (position : ω → Nat) : Prop where
  host : host.Leaves position
  poller : i.poller.Leaves position
  answer (action : String) (request : Value) (o : ω) :
    (i.client action request o).1 = script (position o)
  next (action : String) (request : Value) (o : ω) :
    position (i.client action request o).2 = position o + 1

/-- **A call takes one line of the script**, and its result is made of that. -/
theorem call_ends (hp : i.Plays host script position) (hl : i.limiter = some l)
    {r : Except (Fault τ) Value} (h : (i.call host action request classifier).Ends w r w') :
    r = result (classifier.getD i.classifier) action (script (position w.outside)) ∧
      position w'.outside = position w.outside + 1 ∧
      w'.calls = w.calls ++ [.invoke action request] := by
  rw [call, hl] at h
  rcases Run.ends_bind.mp h with ⟨_, w₁, hacquired, h⟩ | ⟨e, he, -⟩
  · obtain ⟨-, hpos, hcalls⟩ := Limiter.acquire_leaves hp.host hacquired
    obtain ⟨x, w₂, hx, h⟩ := Run.ends_catching_bind.mp h
    obtain ⟨hanswer, hw₂⟩ := Run.ends_call.mp hx
    have hx : x = script (position w.outside) := by
      rw [hanswer, hp.answer, hpos]
    have hpos₂ : position w₂.outside = position w.outside + 1 := by
      rw [hw₂, hp.next, hpos]
    have hcalls₂ : w₂.calls = w.calls ++ [.invoke action request] := by
      rw [hw₂, ← hcalls]
      exact World.calls_called _
    rw [← hx]
    -- what follows an answer is only reported
    cases x with
    | error e =>
      obtain ⟨hr, rfl⟩ := Run.ends_raise.mp (Run.ends_logAll_bind.mp h)
      rw [World.outside_loggedAll, World.calls_loggedAll]
      exact ⟨hr, hpos₂, hcalls₂⟩
    | ok response =>
      cases response with
      | null =>
        obtain ⟨hr, rfl⟩ := Run.ends_raise.mp (Run.ends_log_bind.mp h)
        rw [World.outside_logged, World.calls_logged]
        exact ⟨hr, hpos₂, hcalls₂⟩
      | _ =>
        obtain ⟨hr, rfl⟩ := Run.ends_pure.mp h
        exact ⟨hr, hpos₂, hcalls₂⟩
  · cases (Limiter.acquire_leaves hp.host he).1

theorem call_raisesStructured (hp : i.Plays host script position) (hl : i.limiter = some l)
    (hc : ∀ n, Classifies (classifier.getD i.classifier) (script n)) :
    (i.call host action request classifier).RaisesStructured :=
  fun _ _ _ h => isStructured_result (hc _) (call_ends hp hl h).1.symm

/-- A call that the client answers with null raises that the response is empty. -/
theorem call_ends_of_null {w₁ : World τ ω}
    (hacquired : (l.acquire host action).Ends w (.ok ()) w₁) (hl : i.limiter = some l)
    (hnull : (i.client action request w₁.outside).1 = .ok .null) :
    (i.call host action request classifier).Ends w (.error (.emptyResponse (.text action) ""))
      ({ w₁.noted (.called (.invoke action request)) with
        outside := (i.client action request w₁.outside).2 }.logged (.callEmpty action)) := by
  have hanswer := Run.catching_call_apply (.invoke action request) (i.client action request) w₁
  rw [hnull] at hanswer
  rw [call, hl]
  refine Run.ends_bind.mpr (.inl ⟨(), w₁, hacquired, ?_⟩)
  refine (Run.ends_step_bind hanswer).mpr ?_
  exact Run.ends_log_bind.mpr (Run.ends_raise.mpr ⟨rfl, rfl⟩)

/-! ### Calls that are retried -/

/-- How calls that are retried come out, told by the answers of the client that they took. The one
numbered `n` was the last. Each before it was a fault that is waited for, so that no null answer is
retried. -/
structure Decided (classify : Classifier τ) (policy : NotFoundPolicy)
    (answers : Nat → Except (Fault τ) Value) (n : Nat) (r : Except (Fault τ) (Option Value)) :
    Prop where
  waited (m : Nat) (hm : m < n) : ∃ e, answers m = .error e ∧
    (Poll.classOf classify e = .ok (some .transient) ∨
      Poll.classOf classify e = .ok (some .notFound) ∧ policy = .retry)
  null_iff : r.map (·.getD .null) = .ok .null ↔
    policy = .absent ∧ ∃ e, answers n = .error e ∧ Poll.classOf classify e = .ok (some .notFound)
  value_iff (v : Value) : r = .ok (some v) ↔ answers n = .ok v ∧ v.isNull = false
  empty (h : answers n = .ok .null) : ∃ f, r = .error f ∧ f.kind? = some .emptyResponse

/-- An attempt at a call takes one line of the script. -/
theorem polling_plays (hp : i.Plays host script position) (hl : i.limiter = some l) (start : τ) :
    (i.poller.polling host (i.retrying action given policy) profile
      (Poller.attempt (i.call host action request classifier)) start).Plays
      (fun n => (result (classifier.getD i.classifier) action (script n)).map .done) position
      (.invoke action request) where
  host := hp.host
  poller := hp.poller
  answer h := by
    obtain ⟨y, hy, rfl⟩ := Poller.attempt_ends_iff.mp h
    obtain ⟨rfl, hrest⟩ := call_ends hp hl hy
    exact ⟨rfl, hrest⟩

omit [Quantity τ] in
/-- What a poller waits for is a fault of the client, of a class that is waited for. -/
theorem exists_of_waits (hc : Classifies classify y) {condition : Condition τ}
    (h : Poll.Waits policy classify' ((result classify action y).map Reply.done) condition) :
    ∃ e, y = .error e ∧ (Poll.classOf classify e = .ok (some .transient) ∨
      Poll.classOf classify e = .ok (some .notFound) ∧ policy = .retry) := by
  cases hy : result classify action y with
  | ok v =>
    rw [hy] at h
    cases h
  | error f =>
    rw [hy] at h
    cases h with
    | transient hk =>
      obtain ⟨e, he, hk⟩ := exists_of_classOf_result hc hy hk (by decide)
      exact ⟨e, he, .inl hk⟩
    | absent hk hpolicy =>
      obtain ⟨e, he, hk⟩ := exists_of_classOf_result hc hy hk (by decide)
      exact ⟨e, he, .inr ⟨hk, hpolicy⟩⟩

/-- The last round decides how the calls come out. -/
theorem decided_of_last {c : Polling τ ω Value} {answers : Nat → Except (Fault τ) Value} {n : Nat}
    {w₁ : World τ ω} {s : Except (Fault τ) (Option Value × Nat)}
    (hc : Classifies classify (answers n)) (hpolicy : c.policy = policy)
    (hwaited : ∀ m < n, ∃ e, answers m = .error e ∧
      (Poll.classOf classify e = .ok (some .transient) ∨
        Poll.classOf classify e = .ok (some .notFound) ∧ policy = .retry))
    (h : c.LastWith n w ((result classify action (answers n)).map .done) w₁ s w') :
    Decided classify policy answers n (s.map Prod.fst) := by
  have hvalue (v : Value) :
      s.map Prod.fst = .ok (some v) ↔ answers n = .ok v ∧ v.isNull = false := by
    have hresult : result classify action (answers n) = .ok v ↔
        answers n = .ok v ∧ v.isNull = false := result_eq_ok_iff
    rw [h.eq_some_iff, ← hresult]
    cases result classify action (answers n) <;> simp [Except.map]
  refine ⟨hwaited, ?_, hvalue, fun hnull => ?_⟩
  · -- no value is null, so null means that there is none
    have hnone : (s.map Prod.fst).map (·.getD .null) = .ok .null ↔ s.map Prod.fst = .ok none := by
      cases hs : s.map Prod.fst with
      | error f => simp [Except.map]
      | ok u =>
        cases u with
        | none => simp [Except.map]
        | some v =>
          have hv := ((hvalue v).mp hs).2
          simp only [Except.map, Option.getD_some, Except.ok.injEq, reduceCtorEq, iff_false]
          rintro rfl
          cases hv
    rw [hnone, h.eq_none_iff, hpolicy]
    refine and_congr_right fun _ => ?_
    constructor
    · rintro ⟨f, hf, hk⟩
      cases hy : result classify action (answers n) with
      | ok v =>
        rw [hy] at hf
        cases hf
      | error g =>
        rw [hy] at hf
        cases hf
        exact exists_of_classOf_result hc hy hk (by decide)
    · rintro ⟨e, he, hk⟩
      refine ⟨(failure classify action e).2, ?_, (poll_classOf_failure (hc e he)).trans hk⟩
      rw [he]
      rfl
  · rw [hnull] at h
    have hs := h.of_isFatal (k := .fatal) rfl (.inl rfl)
    refine ⟨_, by rw [hs]; rfl, ?_⟩
    exact (Poll.finalFault_of_structured rfl).kind

/-- The classifier of the poller makes no difference to calls that are retried. -/
theorem callWithRetry_congr (hl : i.limiter = some l) (hp : i.Plays host script position)
    (hc : ∀ n, Classifies (classifier.getD i.classifier) (script n)) (other : Classifier τ) :
    ({ i with poller := { i.poller with classifier := other } } : Invoker τ ω).callWithRetry host
        action request given classifier policy =
      i.callWithRetry host action request given classifier policy :=
  Poller.run_congr_of_structured (p := i.poller)
    (q := { i.poller with classifier := other }) rfl
    (Poller.attempt_raisesStructured (call_raisesStructured hp hl hc))
    (i.retrying action given policy)

/-- Calls that are retried are decided by the last answer of the client. -/
theorem exists_decided (hl : i.limiter = some l) (hp : i.Plays host script position)
    (hprofile : given.or i.profile = some profile)
    (hc : ∀ n, Classifies (classifier.getD i.classifier) (script n))
    {r : Except (Fault τ) (Option Value)}
    (h : (i.callWithRetry host action request given classifier policy).Ends w r w') :
    ∃ n, w'.calls = w.calls ++ List.replicate (n + 1) (.invoke action request) ∧
      position w'.outside = position w.outside + (n + 1) ∧
      Decided (classifier.getD i.classifier) policy (fun k => script (position w.outside + k)) n
        r := by
  have hretrying : (i.retrying action given policy).profile = some profile := hprofile
  obtain ⟨n, hcalls, hpos, hwaits, w₀, w₁, s, hlast, rfl⟩ :=
    Poller.run_takes_lines hretrying (fun start => polling_plays hp hl start) h
  refine ⟨n, hcalls, hpos, decided_of_last (hc _) rfl (fun m hm => ?_) hlast⟩
  obtain ⟨condition, hw⟩ := hwaits m hm
  exact exists_of_waits (hc _) hw

/-- **A null answer ends the calls** then and there, wherever in a course it comes. -/
theorem exists_ends_of_null (hl : i.limiter = some l) (hp : i.Plays host script position)
    (hprofile : given.or i.profile = some profile) {n : Nat} {w₀ w₁ : World τ ω}
    (hn : n < host.patience)
    (hcourse : (i.poller.polling host (i.retrying action given policy) profile
      (Poller.attempt (i.call host action request classifier))
      (host.reading w.outside)).Course 0 (w.readBy host) n w₀)
    (hacquired : (l.acquire host action).Ends (w₀.noted .attempted) (.ok ()) w₁)
    (hnull : script (position w₁.outside) = .ok .null) :
    ∃ f w', (i.callWithRetry host action request given classifier policy).Ends w (.error f) w' ∧
      f.kind? = some .emptyResponse ∧ w'.calls = w₀.calls ++ [.invoke action request] := by
  have hretrying : (i.retrying action given policy).profile = some profile := hprofile
  have hanswer : (i.client action request w₁.outside).1 = .ok .null := by
    rw [hp.answer, hnull]
  have hcall : (i.call host action request classifier).Ends (w₀.noted .attempted)
      (.error (.emptyResponse (.text action) "")) _ := call_ends_of_null hacquired hl hanswer
  have hattempt := Poller.attempt_ends_iff.mpr ⟨_, hcall, rfl⟩
  have hclass : Poll.classOf i.poller.classifier (.emptyResponse (.text action) "") =
      .ok (some .fatal) := rfl
  have hrun := (Poller.run_ends_of_course hretrying hn hcourse hattempt).2 _
    (congrArg Prod.snd (Poll.judge_of_isFatal hclass (.inl rfl)))
  refine ⟨_, _, hrun, (Poll.finalFault_of_structured rfl).kind, ?_⟩
  have hcalls₁ := (Limiter.acquire_leaves hp.host hacquired).2.2
  rw [World.calls_noted rfl] at hcalls₁
  rw [World.calls_loggedAll, World.calls_logged, ← hcalls₁]
  exact World.calls_called _

/-- **Absence, and an empty response.** Let the client answer by a script, and let the classifier of
the call, or else of the invoker, have a class for each fault of it.

The classifier of the poller makes no difference to the calls. Null is returned iff absence is
accepted and the last fault of the client means it. Any other answer that is returned is the last
one of the client. A null answer is not retried, and the calls end in an empty response then and
there, however many were made before. -/
theorem callWithRetry_null_iff (hl : i.limiter = some l) (hp : i.Plays host script position)
    (hprofile : given.or i.profile = some profile)
    (hc : ∀ n, Classifies (classifier.getD i.classifier) (script n)) :
    (∀ other : Classifier τ,
      ({ i with poller := { i.poller with classifier := other } } : Invoker τ ω).callWithRetry host
        action request given classifier policy =
      i.callWithRetry host action request given classifier policy) ∧
    (∀ w r w', (i.callWithRetry host action request given classifier policy).Ends w r w' →
      ∃ n, w'.calls = w.calls ++ List.replicate (n + 1) (.invoke action request) ∧
        position w'.outside = position w.outside + (n + 1) ∧
        Decided (classifier.getD i.classifier) policy (fun k => script (position w.outside + k)) n
          r) ∧
    ∀ w n w₀ w₁, n < host.patience →
      (i.poller.polling host (i.retrying action given policy) profile
        (Poller.attempt (i.call host action request classifier))
        (host.reading w.outside)).Course 0 (w.readBy host) n w₀ →
      (l.acquire host action).Ends (w₀.noted .attempted) (.ok ()) w₁ →
      script (position w₁.outside) = .ok .null →
      ∃ f w', (i.callWithRetry host action request given classifier policy).Ends w (.error f) w' ∧
        f.kind? = some .emptyResponse ∧ w'.calls = w₀.calls ++ [.invoke action request] := by
  exact ⟨fun other => callWithRetry_congr hl hp hc other,
    fun w r w' h => exists_decided hl hp hprofile hc h,
    fun w n w₀ w₁ hn hcourse hacquired hnull =>
      exists_ends_of_null hl hp hprofile hn hcourse hacquired hnull⟩

/-- A service that is busy, then has lost the resource, is busy again, and then says nothing. -/
def fading : Nat → Except (Fault ℚ) Value
  | 0 | 2 => .error (.remote none (.text "RequestLimitExceeded") .null .null)
  | 1 => .error (.remote none (.text "ResourceNotFound.Instance") .null .null)
  | _ => .ok .null

/-- An invoker of that service. Its poller takes every failure for a fatal one. -/
def fader : Invoker ℚ (ℚ × ℕ) where
  client _ _ o := (fading o.2, (o.1, o.2 + 1))
  limiter := some (.standard 0)
  classifier := CodeClassifier.standard.toClassifier
  poller := {}
  profile := none

/-- How its calls are retried, where absence is accepted. -/
def fadingRun : Run ℚ (ℚ × ℕ) (Option Value) :=
  fader.callWithRetry (.exact 3) "Describe" .null (some ⟨.null, 5, 12⟩) none .absent

/-- A lost resource is null in the second call. Later the second call ends in an empty response. -/
theorem callWithRetry_null_iff_fading :
    (∃ r w', fadingRun.Ends { outside := (0, 0) } r w' ∧ r.map (·.getD .null) = .ok .null ∧
      w'.calls = List.replicate 2 (.invoke "Describe" .null)) ∧
    ∃ f w', fadingRun.Ends { outside := (0, 2) } (.error f) w' ∧ f.kind? = some .emptyResponse ∧
      w'.calls = List.replicate 2 (.invoke "Describe" .null) := by
  have hplays : fader.Plays (.exact 3) fading Prod.snd :=
    ⟨⟨fun _ => rfl, fun _ _ => rfl⟩, (fun _ h => by cases h), fun _ _ _ => rfl, fun _ _ _ => rfl⟩
  have hbusy : (CodeClassifier.standard (τ := ℚ)).classOfCode "RequestLimitExceeded" =
      some .transient := by decide +kernel
  have hlost : (CodeClassifier.standard (τ := ℚ)).classOfCode "ResourceNotFound.Instance" =
      some .notFound := by decide +kernel
  have hclass (code : String) {k : ErrorClass}
      (h : (CodeClassifier.standard (τ := ℚ)).classOfCode code = some k) :
      fader.classifier (.remote none (.text code) .null .null) = .ok (some k) := by
    simp only [fader, CodeClassifier.toClassifier, CodeClassifier.classOfValue, h]
  have hclassifies (n : ℕ) : Classifies (Option.getD none fader.classifier) (fading n) := by
    rintro e he
    rcases n with _ | _ | _ | n <;> cases he
    · exact ⟨.transient, hclass _ hbusy⟩
    · exact ⟨.notFound, hclass _ hlost⟩
    · exact ⟨.transient, hclass _ hbusy⟩
  have hprofile : (some ⟨.null, 5, 12⟩ : Option (Profile ℚ)).or fader.profile =
      some ⟨.null, 5, 12⟩ := rfl
  -- a run in which two answers were taken was decided by the second
  have hsecond {k : ℕ} {r : Except (Fault ℚ) (Option Value)} {w' : World ℚ (ℚ × ℕ)}
      (h : fadingRun.Ends { outside := (0, k) } r w') (ho : w'.outside.2 = k + 2) :
      w'.calls = List.replicate 2 (.invoke "Describe" .null) ∧
        Decided fader.classifier .absent (fun m => fading (k + m)) 1 r := by
    obtain ⟨n, hcalls, hpos, hdecided⟩ :=
      (callWithRetry_null_iff rfl hplays hprofile hclassifies).2.1 _ r w' h
    rw [ho] at hpos
    change k + 2 = k + (n + 1) at hpos
    obtain rfl : n = 1 := by omega
    exact ⟨hcalls, hdecided⟩
  constructor
  · obtain ⟨r, w', h, ho⟩ := Run.exists_ends_of_outside (m := fadingRun)
      (w := { outside := (0, 0) }) (o := (5, 2)) (by decide +kernel)
    obtain ⟨hcalls, hdecided⟩ := hsecond h (congrArg Prod.snd ho)
    exact ⟨r, w', h, hdecided.null_iff.mpr ⟨rfl, _, rfl, hclass _ hlost⟩, hcalls⟩
  · obtain ⟨r, w', h, ho⟩ := Run.exists_ends_of_outside (m := fadingRun)
      (w := { outside := (0, 2) }) (o := (5, 4)) (by decide +kernel)
    obtain ⟨hcalls, hdecided⟩ := hsecond h (congrArg Prod.snd ho)
    obtain ⟨f, rfl, hkind⟩ := hdecided.empty rfl
    exact ⟨f, w', h, hkind, hcalls⟩

end Invoker

end Settle
