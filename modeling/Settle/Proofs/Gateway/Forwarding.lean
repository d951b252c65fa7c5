import Mathlib.Data.Rat.Init
import Settle.Proofs.Gateway.TraceId

/-!
# Faults that an invoker forwards

A client may raise a fault that is structured already. An invoker forwards it: whatever its
classifier says of the fault, the call raises that very fault, with no more than the action filled
in. If the fault carries a class, then the classifier is not asked at all, so that two calls that
differ in their classifiers only have the same ending.

A structured fault need not carry a class, and of one that does not an invoker asks its classifier
after all. The answer does not show in what is raised, but it is reported, and the report is as
grave as the answer makes it. A poller never asks for the class of a structured fault
(`Poll.classOf_of_structured`).

Main statement: `call_forwards`. `call_reclassifies` is the failure of a call that is reported in
two ways.
-/

namespace Settle

variable {τ ω : Type}

/-! ### Structured faults -/

namespace Fault

variable {e : Fault τ}

/-- A structured fault brings no trace id along. -/
theorem requestId_of_isStructured (h : e.isStructured = true) : e.requestId = .null := by
  cases e with
  | structured => rfl
  | _ => cases h

/-- No trace id is not filled in. -/
theorem fill_action_null (e : Fault τ) (v : Value) :
    e.fill [("action", v), ("request_id", .null)] = e.fill [("action", v)] := by
  cases e <;> rfl

end Fault

theorem World.events_logged (w : World τ ω) (x : Event τ) :
    (w.logged x).events = w.events ++ [x] := by
  rw [events, events, toList_trace_logged, List.filterMap_append]
  rfl

/-! ### Calls -/

namespace Invoker

variable {e : Fault τ} {k : ErrorClass} {action : String}

/-- What is made of a structured fault: it is reported in its class, and nothing but the action is
filled in. -/
theorem failure_of_isStructured {classify : Classifier τ} (hs : e.isStructured = true)
    (hk : classOf classify e = .ok (some k)) :
    failure classify action e =
      ([.callFailed action .null k e.text], e.fill [("action", .text action)]) := by
  simp only [failure, hk, Fault.requestId_of_isStructured hs, Fault.wrap_structured _ _ _ _ hs,
    Fault.fill_action_null]

/-- The class that a fault carries is not asked for. -/
theorem classOf_of_errorClass (classify : Classifier τ) (h : e.errorClass = some k) :
    classOf classify e = .ok (some k) := by
  rw [classOf, h]

/-- The class that a fault does not carry is asked for. -/
theorem classOf_of_no_errorClass (classify : Classifier τ) (h : e.errorClass = none) :
    classOf classify e = classify e := by
  rw [classOf, h]

/-- The invoker with another classifier. -/
def classifying (i : Invoker τ ω) (own : Classifier τ) : Invoker τ ω :=
  { i with classifier := own }

variable {i : Invoker τ ω} {request : Value} {w w₁ : World τ ω}

/-- The world in which a client has answered a call. -/
def answered (i : Invoker τ ω) (action : String) (request : Value) (w : World τ ω) : World τ ω :=
  { w.noted (.called (.invoke action request)) with
    outside := (i.client action request w.outside).2 }

/-- To answer a call is not to report anything. -/
theorem events_answered : (i.answered action request w).events = w.events := by
  rw [World.events, World.events, answered, World.noted, Array.toList_push, List.filterMap_append]
  exact List.append_nil _

theorem events_reported (x : Event τ) :
    ((i.answered action request w).logged x).events = w.events ++ [x] := by
  rw [World.events_logged, events_answered]

variable [Quantity τ] {host : Host τ ω}

/-- A call that the client answers with a structured fault forwards it, and reports it in the class
that it has for the invoker. -/
theorem call_ends_of_isStructured (hs : e.isStructured = true)
    (hacquired : (Limiter.acquireFrom host i.limiter action).Ends w (.ok ()) w₁)
    (he : (i.client action request w₁.outside).1 = .error e) (own : Classifier τ)
    (classifier : Option (Classifier τ))
    (hk : classOf (classifier.getD own) e = .ok (some k)) :
    ((i.classifying own).call host action request classifier).Ends w
      (.error (e.fill [("action", .text action)]))
      ((i.answered action request w₁).logged (.callFailed action .null k e.text)) := by
  have hcall := call_ends_of_error (i := i.classifying own) classifier hacquired he
  have hfailure : failure (classifier.getD own) action e = _ := failure_of_isStructured hs hk
  rw [classifying, hfailure] at hcall
  exact hcall

/-- A call whose classifier fails raises what the classifier does, and reports nothing. -/
theorem call_ends_of_unjudged (hn : e.errorClass = none)
    (hacquired : (Limiter.acquireFrom host i.limiter action).Ends w (.ok ()) w₁)
    (he : (i.client action request w₁.outside).1 = .error e) (own : Classifier τ)
    (classifier : Option (Classifier τ)) {g : Fault τ} (hg : classifier.getD own e = .error g) :
    ((i.classifying own).call host action request classifier).Ends w (.error g)
      (i.answered action request w₁) := by
  have hcall := call_ends_of_error (i := i.classifying own) classifier hacquired he
  have hfailure : failure (classifier.getD own) action e = ([], g) := by
    rw [failure, classOf_of_no_errorClass _ hn, hg]
  rw [classifying, hfailure] at hcall
  exact hcall

/-- **A structured fault is forwarded.** Let two calls differ in their classifiers only, and let the
client answer them with a structured fault. If it carries a class, then both raise the very same
fault, with the action filled in, in the same world and after the same events. If it carries none,
but each of the classifiers has a class for it, then both still raise the same fault. But each
reports it in the class of its own classifier, so that the events are the same iff the two classes
are. A classifier that fails is heard instead of the fault. -/
theorem call_forwards (hs : e.isStructured = true)
    (hacquired : (Limiter.acquireFrom host i.limiter action).Ends w (.ok ()) w₁)
    (he : (i.client action request w₁.outside).1 = .error e) (own own' : Classifier τ)
    (classifier classifier' : Option (Classifier τ)) :
    let run := (i.classifying own).call host action request classifier
    let run' := (i.classifying own').call host action request classifier'
    ∃ f, e.PassedOn action f ∧
      (∀ k, e.errorClass = some k →
        ∃ v, run.Ends w (.error f) v ∧ run'.Ends w (.error f) v ∧
          v.events = w₁.events ++ [.callFailed action .null k e.text]) ∧
      (e.errorClass = none →
        (∀ k k', classifier.getD own e = .ok (some k) → classifier'.getD own' e = .ok (some k') →
          ∃ v v', run.Ends w (.error f) v ∧ run'.Ends w (.error f) v' ∧
            v.events = w₁.events ++ [.callFailed action .null k e.text] ∧
            v'.events = w₁.events ++ [.callFailed action .null k' e.text] ∧
            (v.events = v'.events ↔ k = k')) ∧
        ∀ g, classifier.getD own e = .error g →
          ∃ v, run.Ends w (.error g) v ∧ v.events = w₁.events) := by
  intro run run'
  have hends {k : ErrorClass} (own : Classifier τ) (classifier : Option (Classifier τ))
      (hk : classOf (classifier.getD own) e = .ok (some k)) :=
    call_ends_of_isStructured hs hacquired he own classifier hk
  refine ⟨_, Fault.passedOn_fill action e, fun k hk => ?_, fun hn => ⟨fun k k' hk hk' => ?_, ?_⟩⟩
  · exact ⟨_, hends own classifier (classOf_of_errorClass _ hk),
      hends own' classifier' (classOf_of_errorClass _ hk), events_reported _⟩
  · have hclass := classOf_of_no_errorClass (classifier.getD own) hn
    have hclass' := classOf_of_no_errorClass (classifier'.getD own') hn
    refine ⟨_, _, hends own classifier (hclass.trans hk),
      hends own' classifier' (hclass'.trans hk'), events_reported _, events_reported _, ?_⟩
    rw [events_reported, events_reported, List.append_cancel_left_eq, List.singleton_inj,
      Event.callFailed.injEq]
    exact ⟨fun h => h.2.2.1, fun h => ⟨rfl, rfl, h, rfl⟩⟩
  · intro g hg
    exact ⟨_, call_ends_of_unjudged hn hacquired he own classifier hg, events_answered⟩

/-- The passing of a deadline, which carries no class. -/
def lapse : Fault ℚ := .deadlineExceeded (.text "Start") 12 15 (.int 3) (.reason .null) {}

/-- An invoker whose client has waited for too long. -/
def waiting : Invoker ℚ Unit where
  client _ _ o := (.error lapse, o)
  limiter := some (.standard 0)
  classifier := .allFatal
  poller := {}
  profile := none

theorem exists_acquired_waiting :
    ∃ w₁, (Limiter.acquireFrom (.still 0 1) waiting.limiter "Start").Ends { outside := () } (.ok ())
      w₁ ∧ w₁.events = [] := by
  have hreturned : (Limiter.acquireFrom (.still 0 1) waiting.limiter "Start"
      { outside := () }).returned?.map (fun p => p.2.events.isEmpty) = some true := by
    decide +kernel
  obtain ⟨p, hp, hevents⟩ := Option.map_eq_some_iff.mp hreturned
  exact ⟨p.2, Run.ends_of_returned hp, List.isEmpty_iff.mp hevents⟩

/-- The passing of a deadline is raised as it is, but reported in two classes. -/
theorem call_forwards_lapse :
    lapse.isStructured = true ∧
      ∃ w₁, (Limiter.acquireFrom (.still 0 1) waiting.limiter "Start").Ends { outside := () }
        (.ok ()) w₁ ∧ (waiting.client "Start" .null w₁.outside).1 = .error lapse ∧
        ∃ f v v',
          ((waiting.classifying .allFatal).call (.still 0 1) "Start" .null none).Ends
            { outside := () } (.error f) v ∧
          ((waiting.classifying .allTransient).call (.still 0 1) "Start" .null none).Ends
            { outside := () } (.error f) v' ∧
          v.events ≠ v'.events := by
  obtain ⟨w₁, hacquired, -⟩ := exists_acquired_waiting
  have he : (waiting.client "Start" .null w₁.outside).1 = .error lapse := rfl
  obtain ⟨f, -, -, hunclassified⟩ :=
    call_forwards rfl hacquired he .allFatal .allTransient none none
  obtain ⟨hboth, -⟩ := hunclassified rfl
  obtain ⟨v, v', hv, hv', -, -, hiff⟩ := hboth .fatal .transient rfl rfl
  refine ⟨rfl, w₁, hacquired, he, f, v, v', hv, hv', fun hevents => ?_⟩
  cases hiff.mp hevents

/-- **A forwarded fault is classified again.** How grave the report of a fault is that carries no
class depends on the classifier. -/
theorem call_reclassifies :
    lapse.isStructured = true ∧
      ∃ f v v',
        (waiting.call (.still 0 1) "Start" .null (some .allFatal)).Ends { outside := () }
          (.error f) v ∧
        (waiting.call (.still 0 1) "Start" .null (some .allTransient)).Ends { outside := () }
          (.error f) v' ∧
        v.events.map Event.level = [.error] ∧ v'.events.map Event.level = [.warning] := by
  obtain ⟨w₁, hacquired, hevents⟩ := exists_acquired_waiting
  have he : (waiting.client "Start" .null w₁.outside).1 = .error lapse := rfl
  have hends {k : ErrorClass} (classifier : Classifier ℚ) (hk : classifier lapse = .ok (some k)) :=
    call_ends_of_isStructured rfl hacquired he .allFatal (some classifier) hk
  refine ⟨rfl, _, _, _, hends .allFatal rfl, hends .allTransient rfl, ?_, ?_⟩
  · rw [events_reported, hevents]
    rfl
  · rw [events_reported, hevents]
    rfl

end Invoker

end Settle
