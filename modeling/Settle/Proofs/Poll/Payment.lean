import Settle.Proofs.Limiter.Rounds
import Settle.Proofs.Poll.Course

/-!
# Calls that are paid for

A call that costs something has to be let through by a limiter first. What a call is paid under is
said by its *fare*; calls without one are free. `Paid` says of a list of entries that every call
with a fare comes right after an admission under that fare, and that every admission is followed by
such a call. So admissions and calls alternate, an admission first, and neither is ever left alone.

Lists that are paid for can be put one after the other, so a run pays for its calls (`Run.Pays`) if
its parts do. The one part that is not made of parts that pay is a call and the acquiring before it
(`pays_charged`). A polling run pays if its action does, however far it gets
(`Polling.Course.paidSince`, `Poller.pays_runCounting`).
-/

namespace Settle

variable {τ ω α β : Type} {fare : Call → Option String}

/-! ### Entries that are paid for -/

/-- An entry that has nothing to do with payment: neither an admission nor a call with a fare. -/
def Entry.IsFree (fare : Call → Option String) : Entry τ → Prop
  | .admitted _ _ _ => False
  | .called c => fare c = none
  | _ => True

/-- Every call with a fare is paid for right before it is made, and nothing else is paid for. -/
inductive Paid (fare : Call → Option String) : List (Entry τ) → Prop
  | nil : Paid fare []
  | free {x : Entry τ} {rest : List (Entry τ)} (hx : x.IsFree fare) (h : Paid fare rest) :
      Paid fare (x :: rest)
  | charged {c : Call} {action : String} {now : τ} {token : Bool} {rest : List (Entry τ)}
      (hc : fare c = some action) (h : Paid fare rest) :
      Paid fare (.admitted action now token :: .called c :: rest)

theorem Paid.append {xs ys : List (Entry τ)} (h : Paid fare xs) (h' : Paid fare ys) :
    Paid fare (xs ++ ys) := by
  induction h with
  | nil => exact h'
  | free hx _ ih => exact .free hx ih
  | charged hc _ ih => exact .charged hc ih

/-- What was added to the trace between two worlds is paid for. -/
def World.PaidSince (fare : Call → Option String) (w w' : World τ ω) : Prop :=
  ∃ added, w'.trace.toList = w.trace.toList ++ added ∧ Paid fare added

namespace World.PaidSince

variable {w w₁ w' : World τ ω}

theorem of_trace (h : w'.trace = w.trace) : PaidSince fare w w' :=
  ⟨[], by rw [h, List.append_nil], .nil⟩

theorem refl (w : World τ ω) : PaidSince fare w w := of_trace rfl

theorem trans (h : PaidSince fare w w₁) (h' : PaidSince fare w₁ w') : PaidSince fare w w' := by
  obtain ⟨added, hw₁, hp⟩ := h
  obtain ⟨added', hw', hp'⟩ := h'
  exact ⟨added ++ added', by rw [hw', hw₁, List.append_assoc], hp.append hp'⟩

theorem noted (h : PaidSince fare w w') {x : Entry τ} (hx : x.IsFree fare) :
    PaidSince fare w (w'.noted x) :=
  h.trans ⟨[x], Array.toList_push, .free hx .nil⟩

theorem acted (h : PaidSince fare w w') (o : ω) : PaidSince fare w { w' with outside := o } :=
  h.trans (of_trace rfl)

theorem logged (h : PaidSince fare w w') (e : Event τ) : PaidSince fare w (w'.logged e) :=
  h.noted trivial

theorem loggedAll (h : PaidSince fare w w') (es : List (Event τ)) :
    PaidSince fare w (w'.loggedAll es) := by
  induction es generalizing w' with
  | nil => exact h
  | cons e es ih => exact ih (h.logged e)

theorem sleptBy (h : PaidSince fare w w') (host : Host τ ω) (time : τ) :
    PaidSince fare w (w'.sleptBy host time) :=
  (h.noted (x := .slept time) trivial).acted _

theorem noticedBy (h : PaidSince fare w w') (p : Poller τ ω) (n : Nat) (condition : Condition τ)
    (delay : τ) : PaidSince fare w (w'.noticedBy p n condition delay) := by
  rw [World.noticedBy]
  cases p.notify with
  | none => exact h
  | some f => exact (h.noted (x := .noticed n condition delay) trivial).acted _

/-- An admission and the call right after it. -/
theorem charged (h : PaidSince fare w w₁) {c : Call} {action : String} (hc : fare c = some action)
    {now : τ} {token : Bool}
    (h' : w'.trace = ((w₁.noted (.admitted action now token)).noted (.called c)).trace) :
    PaidSince fare w w' := by
  refine h.trans ⟨[.admitted action now token, .called c], ?_, .charged hc .nil⟩
  rw [h', World.noted, World.noted, Array.toList_push, Array.toList_push, List.append_assoc]
  rfl

end World.PaidSince

/-! ### Runs that pay -/

namespace Run

/-- The run pays for its calls: what it adds to the trace is paid for, however it ends. -/
def Pays (fare : Call → Option String) (m : Run τ ω α) : Prop :=
  ∀ ⦃w r w'⦄, m.Ends w r w' → w.PaidSince fare w'

/-- The run makes this call, and leaves nothing else in the trace. -/
def Makes (c : Call) (m : Run τ ω α) : Prop :=
  ∀ ⦃w r w'⦄, m.Ends w r w' → w'.trace = (w.noted (.called c)).trace

theorem makes_call (c : Call) (f : ω → Except (Fault τ) α × ω) : (call c f).Makes c := by
  intro w r w' h
  obtain ⟨-, rfl⟩ := ends_call.mp h
  rfl

variable {m : Run τ ω β} {f : β → Run τ ω α}

theorem Makes.catching {c : Call} (h : m.Makes c) : m.catching.Makes c := by
  intro w x w' hx
  obtain ⟨r, hr, -⟩ := ends_catching.mp hx
  exact h hr

/-- A call without a fare need not be paid for. -/
theorem Makes.pays {c : Call} (h : m.Makes c) (hc : fare c = none) : m.Pays fare := by
  intro w r w' hr
  exact ((World.PaidSince.refl w).noted (x := .called c) hc).trans (.of_trace (h hr))

theorem pays_pure (a : α) : (Pure.pure a : Run τ ω α).Pays fare := by
  intro w r w' h
  obtain ⟨-, rfl⟩ := ends_pure.mp h
  exact .refl w'

theorem pays_raise (e : Fault τ) : (raise e : Run τ ω α).Pays fare := by
  intro w r w' h
  obtain ⟨-, rfl⟩ := ends_raise.mp h
  exact .refl w'

theorem pays_ofExcept (x : Except (Fault τ) α) : (ofExcept x : Run τ ω α).Pays fare := by
  intro w r w' h
  obtain ⟨-, rfl⟩ := ends_ofExcept.mp h
  exact .refl w'

theorem pays_log (e : Event τ) : (log e : Run τ ω Unit).Pays fare := by
  intro w r w' h
  obtain ⟨-, rfl⟩ := ends_note.mp h
  exact (World.PaidSince.refl w).logged e

theorem pays_logAll (es : List (Event τ)) : (logAll es : Run τ ω Unit).Pays fare := by
  intro w r w' h
  rw [Ends, logAll_apply] at h
  cases r <;> cases h
  exact (World.PaidSince.refl w).loggedAll es

/-- A sequence pays if its parts do. -/
theorem Pays.bind (h : m.Pays fare) (hf : ∀ b, (f b).Pays fare) : (m >>= f).Pays fare := by
  intro w r w' hr
  rcases ends_bind.mp hr with ⟨b, w₁, hb, hr⟩ | ⟨e, he, -⟩
  · exact (h hb).trans (hf b hr)
  · exact h he

theorem Pays.catching (h : m.Pays fare) : m.catching.Pays fare := by
  intro w x w' hx
  obtain ⟨r, hr, -⟩ := ends_catching.mp hx
  exact h hr

end Run

/-! ### Acquiring -/

namespace Limiter

variable [Quantity τ] {host : Host τ ω} {l : Limiter τ} {action : String} {w w' : World τ ω}

/-- The rounds of a limiter end with an admission, and before it there was nothing to pay for. -/
theorem exists_admission_of_rounds (fare : Call → Option String) {waited : τ} {fuel : Nat}
    {r : Except (Fault τ) Unit} (h : (l.rounds host action waited fuel).Ends w r w') :
    ∃ w₁ now token, w.PaidSince fare w₁ ∧ w' = w₁.noted (.admitted action now token) := by
  have htried {v : World τ ω} (hv : w.PaidSince fare v) :
      w.PaidSince fare (l.tried host action v) := hv.trans (.of_trace (trace_tried v))
  have hcarries : l.Carries host action (fun _ v => w.PaidSince fare v)
      (fun v => ∃ w₁ now token, w.PaidSince fare w₁ ∧
        v = w₁.noted (.admitted action now token)) := by
    refine ⟨fun hv _ => ⟨_, _, _, ?_, rfl⟩, fun hv _ => ?_, fun hv _ => ?_⟩
    · split
      · exact (htried hv).logged _
      · exact htried hv
    · exact ⟨_, _, _, (htried hv).logged _, rfl⟩
    · exact (htried hv).sleptBy host _
  exact (hcarries.rounds (.refl w) h).2

/-- **A call that was acquired** is paid for. -/
theorem pays_charged {c : Call} (hc : fare c = some action) {m : Run τ ω α} (hm : m.Makes c) :
    (do l.acquire host action; m : Run τ ω α).Pays fare := by
  intro w r w' h
  rcases Run.ends_bind.mp h with ⟨_, w₁, hw₁, h⟩ | ⟨e, he, -⟩
  · obtain ⟨w₀, now, token, hpaid, rfl⟩ := exists_admission_of_rounds fare hw₁
    exact hpaid.charged hc (hm h)
  · have hleaves : host.Leaves fun _ => () := ⟨fun _ => rfl, fun _ _ => rfl⟩
    cases (acquire_leaves hleaves he).1

/-- Where there is no limiter to be asked, the call is not made. -/
theorem pays_chargedFrom (given : Option (Limiter τ)) {c : Call} (hc : fare c = some action)
    {m : Run τ ω α} (hm : m.Makes c) :
    (do acquireFrom host given action; m : Run τ ω α).Pays fare := by
  cases given with
  | some l => exact pays_charged hc hm
  | none =>
    intro w r w' h
    rcases Run.ends_bind.mp h with ⟨_, w₁, hw₁, -⟩ | ⟨e, he, -⟩
    · cases (Run.ends_raise.mp hw₁).1
    · exact Run.pays_raise _ he

end Limiter

/-! ### Polling -/

namespace Polling

variable [Quantity τ] {c : Polling τ ω α} {n m : Nat} {w w' : World τ ω}

theorem paidSince_paused (n : Nat) (condition : Condition τ) (w : World τ ω) :
    w.PaidSince fare (c.paused n condition w) := by
  have hread : w.PaidSince fare (w.readBy c.host) := .of_trace rfl
  rw [paused]
  split
  · exact ((hread.logged _).noticedBy ..).sleptBy ..
  · exact hread

/-- A round of waiting pays for its attempt. -/
theorem Waited.paidSince (ha : c.action.Pays fare) (h : c.Waited n w w') :
    w.PaidSince fare w' := by
  obtain ⟨x, condition, w₁, hx, -, -, rfl⟩ := h
  have hattempt : w.PaidSince fare (w.noted .attempted) := (World.PaidSince.refl w).noted trivial
  exact ((hattempt.trans (ha hx)).trans (paidSince_paused _ _ _)).acted _

/-- **However far a run gets**, it pays for its attempts. -/
theorem Course.paidSince (ha : c.action.Pays fare) (h : c.Course n w m w') :
    w.PaidSince fare w' := by
  induction h with
  | nil n w => exact .refl w
  | cons first _ ih => exact (first.paidSince ha).trans ih

theorem Last.paidSince (ha : c.action.Pays fare) {r : Except (Fault τ) (Option α × Nat)}
    (h : c.Last n w r w') : w.PaidSince fare w' := by
  obtain ⟨x, w₁, hx, hlast⟩ := h
  have hattempt : w.PaidSince fare (w.noted .attempted) := (World.PaidSince.refl w).noted trivial
  have hjudged := (hattempt.trans (ha hx)).loggedAll
    (Poll.judge c.policy c.classify c.operation (n + 1) x).1
  cases hj : (Poll.judge c.policy c.classify c.operation (n + 1) x).2 with
  | finish v =>
    rw [hj] at hlast
    rw [hlast.2]
    exact hjudged
  | fail e =>
    rw [hj] at hlast
    rw [hlast.2]
    exact hjudged
  | wait condition =>
    rw [hj] at hlast
    rw [hlast.2.2]
    exact ((((hjudged.trans (paidSince_paused _ _ _)).acted _).logged _).acted _)

end Polling

namespace Poller

variable [Quantity τ] {host : Host τ ω} {p : Poller τ ω} {action : Run τ ω (Reply α)}

/-- **A polling run pays** if its action does. -/
theorem pays_runCounting (ha : action.Pays fare) (how : Poll τ) :
    (p.runCounting host how action).Pays fare := by
  intro w r w' h
  cases hp : how.profile with
  | none =>
    unfold runCounting at h
    rw [hp] at h
    exact Run.pays_raise _ h
  | some profile =>
    obtain ⟨n, w₁, -, hcourse, hlast⟩ := (runCounting_ends_iff hp).mp h
    have hread : w.PaidSince fare (w.readBy host) := .of_trace rfl
    exact (hread.trans (hcourse.paidSince ha)).trans (hlast.paidSince ha)

theorem pays_run (ha : action.Pays fare) (how : Poll τ) : (p.run host how action).Pays fare :=
  (pays_runCounting ha how).bind fun _ => Run.pays_pure _

omit [Quantity τ] in
theorem pays_attempt {f : Run τ ω α} (hf : f.Pays fare) : (attempt f).Pays fare :=
  hf.bind fun _ => Run.pays_pure _

theorem pays_call {f : Run τ ω α} (hf : f.Pays fare) (how : Poll τ) :
    (p.call host how f).Pays fare := pays_run (pays_attempt hf) _

end Poller

end Settle
