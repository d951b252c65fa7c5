import Settle.Proofs.Limiter.Wait
import Settle.Proofs.Poll.Pace
import Settle.Proofs.Task.Course

/-!
# How long a workflow takes

Where nothing but sleeps takes time, a workflow comes to an end, whatever it is answered. The lookup
of an order may use up its own deadline, and the polling of the task its own. The limiter is asked
before each status query, within the window of the polling: its waits count there, but the last of
them may go beyond the deadline, once.

`Asked` is the invariant of both polling runs: so many calls of one kind were made, and the buckets
of the limiter have room for a token.

Main statement: `awaitCompletion_bounded`.
-/

namespace Settle.Workflow

variable {ω : Type} {host : Host ℚ ω} {flow : Workflow ℚ ω} {a : Await ℚ} {s : Submission}
  {source : TaskSource ℚ ω} {w w' : World ℚ ω}

/-- Only sleeps take time, each just what was asked for. -/
structure Timely (host : Host ℚ ω) (flow : Workflow ℚ ω) (source : TaskSource ℚ ω) : Prop where
  exact : host.Exact
  notify : flow.poller.Leaves host.reading
  query (handle : Value) (o : ω) : host.reading (source.query handle o).2 = host.reading o
  lookup {lookup : Value → ω → Except (Fault ℚ) OrderAnswer × ω} (h : source.resolve = some lookup)
    (orderRef : Value) (o : ω) : host.reading (lookup orderRef o).2 = host.reading o

/-- The longest that the limiter holds a call up. -/
def holdUp (flow : Workflow ℚ ω) : ℚ := flow.limiter.elim 0 fun l => max l.maxWait 0

theorem holdUp_nonneg (flow : Workflow ℚ ω) : 0 ≤ flow.holdUp := by
  rw [holdUp]
  cases flow.limiter with
  | none => exact le_rfl
  | some l => exact le_max_right _ _

/-- Since a time at which the calls were `before`, so many of the one kind were made. The limiter
can hand out tokens. -/
structure Asked (flow : Workflow ℚ ω) (before : List Call) (c : Call) (n : ℕ) (w : World ℚ ω) :
    Prop where
  calls : w.calls = before ++ List.replicate n c
  roomy {l : Limiter ℚ} (h : flow.limiter = some l) : l.Roomy w

namespace Asked

variable {before : List Call} {c : Call} {n : ℕ}

theorem inert (h : flow.Asked before c n w) (hl : w'.limiters = w.limiters)
    (hc : w'.calls = w.calls) : flow.Asked before c n w' where
  calls := hc.trans h.calls
  roomy hf := (h.roomy hf).of_limiters hl

/-- One call more. -/
theorem called (h : flow.Asked before c n w) (o : ω) :
    flow.Asked before c (n + 1) { w.noted (.called c) with outside := o } where
  calls := by
    change (w.noted (.called c)).calls = _
    rw [World.calls_called, h.calls, List.append_assoc, List.replicate_succ']
  roomy hf := (h.roomy hf).of_limiters rfl

end Asked

/-! ### Status queries -/

/-- A poll waits for the limiter, and then asks. -/
theorem exists_poll_ends (ht : Timely host flow source) (hp : 2 ≤ host.patience)
    (operation : String) {before : List Call} {handle : Value} {n : ℕ}
    (h : flow.Asked before (.query handle) n w) :
    ∃ x w', (flow.poll host a.table operation handle (ask source handle)).Ends w x w' ∧
      host.reading w.outside ≤ host.reading w'.outside ∧
      host.reading w'.outside ≤ host.reading w.outside + flow.holdUp ∧
      flow.Asked before (.query handle) (n + 1) w' := by
  have hask {u : World ℚ ω} (hu : flow.Asked before (.query handle) n u) :
      ∃ x u', (ask source handle >>= fun y =>
          Run.ofExcept (judgeAnswer a.table operation handle y)).Ends u x u' ∧
        host.reading u'.outside = host.reading u.outside ∧
        flow.Asked before (.query handle) (n + 1) u' := by
    refine ⟨_, _, Run.ends_bind_ofExcept.mpr ⟨_, Run.ends_call.mpr ⟨rfl, rfl⟩, rfl⟩, ?_, ?_⟩
    · exact ht.query handle u.outside
    · exact hu.called _
  unfold poll holdUp
  cases hl : flow.limiter with
  | none =>
    obtain ⟨x, u, hx, hreading, hasked⟩ := hask h
    exact ⟨x, u, hx, hreading.ge, by rw [hreading]; exact (add_zero _).ge, hasked⟩
  | some l =>
    obtain ⟨w₁, hacquire, hroomy, hcalls⟩ :=
      l.exists_acquire_ends ht.exact.thorough hp (h.roomy hl) operation
    obtain ⟨hle, hle'⟩ := Limiter.acquire_takes ht.exact hacquire
    have hasked : flow.Asked before (.query handle) n w₁ :=
      ⟨hcalls.trans h.calls, fun hl' => Option.some.inj (hl.symm.trans hl') ▸ hroomy⟩
    obtain ⟨x, u, hx, hreading, hasked⟩ := hask hasked
    rw [← hreading] at hle hle'
    exact ⟨x, u, Run.ends_bind.mpr (.inl ⟨(), w₁, hacquire, hx⟩), hle, hle', hasked⟩

/-- The polling of a task comes to an end. -/
theorem exists_pollTask_ends (ht : Timely host flow source) {profile : Profile ℚ}
    (hprofile : a.profile.or flow.convergeProfile = some profile) (hv : profile.IsValid)
    (hp : 2 ≤ host.patience)
    (hpatience : ⌈profile.deadline / profile.interval⌉₊ ≤ host.patience) (handle : Value)
    (hroomy : ∀ {l}, flow.limiter = some l → l.Roomy w) :
    ∃ r w' n, (pollTask host flow a source handle).Ends w r w' ∧
      host.reading w'.outside ≤ host.reading w.outside + profile.deadline + flow.holdUp ∧
      n ≤ ⌈profile.deadline / profile.interval⌉₊ ∧ flow.Asked w.calls (.query handle) n w' := by
  refine Poller.exists_runCounting_ends hprofile hv (fun start => ?_) (holdUp_nonneg flow)
    hpatience ⟨(List.append_nil _).symm, hroomy⟩
  exact {
    timed := ⟨ht.exact.read, ht.notify⟩
    sleep := ht.exact.sleep
    interval_pos := not_le.mp hv.1
    expiry := rfl
    inert := Asked.inert
    attempt := exists_poll_ends ht hp a.statusOperation }

/-- The lookup of an order comes to an end. -/
theorem exists_resolve_ends (ht : Timely host flow source)
    {lookup : Value → ω → Except (Fault ℚ) OrderAnswer × ω} (hl : source.resolve = some lookup)
    {profile : Profile ℚ} (hprofile : flow.readProfile = some profile) (hv : profile.IsValid)
    (hpatience : ⌈profile.deadline / profile.interval⌉₊ ≤ host.patience)
    (action : Option String) (orderRef : Value)
    (hroomy : ∀ {l}, flow.limiter = some l → l.Roomy w) :
    ∃ r w' n, (flow.resolve host action orderRef lookup).Ends w r w' ∧
      host.reading w'.outside ≤ host.reading w.outside + profile.deadline ∧
      n ≤ ⌈profile.deadline / profile.interval⌉₊ ∧ flow.Asked w.calls (.resolve orderRef) n w' := by
  have hpaced (start : ℚ) : (flow.poller.polling host
      (Poller.retries { profile := flow.readProfile,
                        operation := some (orName action "resolve_order"),
                        name := some "<lambda>" }) profile
      (Poller.attempt (Run.call (.resolve orderRef) (lookup orderRef))) start).Paced 0
        (flow.Asked w.calls (.resolve orderRef)) := {
    timed := ⟨ht.exact.read, ht.notify⟩
    sleep := ht.exact.sleep
    interval_pos := not_le.mp hv.1
    expiry := rfl
    inert := Asked.inert
    attempt := fun {n u} hu => by
      refine ⟨_, _, Poller.attempt_ends_iff.mpr ⟨_, Run.ends_call.mpr ⟨rfl, rfl⟩, rfl⟩, ?_, ?_,
        hu.called _⟩
      · exact (ht.lookup hl orderRef u.outside).ge
      · exact (ht.lookup hl orderRef u.outside).le.trans (le_add_of_nonneg_right le_rfl) }
  obtain ⟨r, w', n, hends, hreading, hn, hasked⟩ := Poller.exists_call_ends hprofile hv hpaced
    le_rfl hpatience ⟨(List.append_nil _).symm, hroomy⟩
  rw [add_zero] at hreading
  exact ⟨_, w', n, Run.ends_bind_ofExcept.mpr ⟨r, hends, rfl⟩, hreading, hn, hasked⟩

/-! ### Whole runs -/

/-- Where the task of a submission is comes to light within the time for a lookup. -/
theorem exists_locate_ends (ht : Timely host flow source) {read : Profile ℚ}
    (hread : s.requiresResolution = true → flow.readProfile = some read ∧ read.IsValid ∧
      ⌈read.deadline / read.interval⌉₊ ≤ host.patience)
    (hroomy : ∀ {l}, flow.limiter = some l → l.Roomy w) :
    ∃ place w' n, (flow.locate host a s (lookUp source)).Ends w place w' ∧
      host.reading w'.outside ≤
        host.reading w.outside + (if s.requiresResolution then read.deadline else 0) ∧
      n ≤ (if s.requiresResolution then ⌈read.deadline / read.interval⌉₊ else 0) ∧
      flow.Asked w.calls (.resolve s.orderRef) n w' := by
  have hasked : flow.Asked w.calls (.resolve s.orderRef) 0 w :=
    ⟨(List.append_nil _).symm, hroomy⟩
  cases hs : s.requiresResolution with
  | false =>
    exact ⟨_, w, 0, (locate_ends_iff_of_direct hs).mpr ⟨rfl, rfl⟩, (add_zero _).ge, le_rfl, hasked⟩
  | true =>
    obtain ⟨hprofile, hv, hpatience⟩ := hread hs
    cases hl : source.resolve with
    | none =>
      have hdeadline : 0 < read.deadline := not_le.mp hv.2
      exact ⟨_, w, 0, (locate_ends_iff_of_no_lookup hs hl).mpr ⟨rfl, rfl⟩,
        le_add_of_nonneg_right hdeadline.le, Nat.zero_le _, hasked⟩
    | some lookup =>
      obtain ⟨entry, w', n, hentry, hreading, hn, hasked⟩ := exists_resolve_ends
        (w := w.logged (.workflow (.resolving s.orderRef))) ht hl hprofile hv hpatience
        a.resolveAction s.orderRef fun hf => (hroomy hf).of_limiters rfl
      rw [World.calls_logged] at hasked
      exact ⟨_, w', n, (locate_ends_iff_of_order hs hl).mpr ⟨entry, hentry, rfl⟩, hreading, hn,
        hasked⟩

/-- A task is settled within the time for polling it. -/
theorem exists_settle_ends (ht : Timely host flow source) {profile : Profile ℚ}
    (hprofile : a.profile.or flow.convergeProfile = some profile) (hv : profile.IsValid)
    (hp : 2 ≤ host.patience)
    (hpatience : ⌈profile.deadline / profile.interval⌉₊ ≤ host.patience)
    (resourceId handle : Value) (hroomy : ∀ {l}, flow.limiter = some l → l.Roomy w) :
    ∃ r w' n, (flow.settle host a (ask source) resourceId handle).Ends w r w' ∧
      host.reading w'.outside ≤ host.reading w.outside + profile.deadline + flow.holdUp ∧
      n ≤ ⌈profile.deadline / profile.interval⌉₊ ∧
      w'.calls = w.calls ++ List.replicate n (.query handle) := by
  cases hh : hasTask handle with
  | false =>
    have hdeadline : 0 < profile.deadline := not_le.mp hv.2
    have hhold := holdUp_nonneg flow
    refine ⟨_, _, 0, (settle_ends_iff_of_no_task hh).mpr ⟨rfl, rfl⟩, ?_, Nat.zero_le _, ?_⟩
    · rw [World.outside_logged]
      linarith
    · rw [World.calls_logged]
      exact (List.append_nil _).symm
  | true =>
    obtain ⟨x, w', n, hx, hreading, hn, hasked⟩ := exists_pollTask_ends
      (w := w.logged (.workflow (.polling resourceId handle))) ht hprofile hv hp hpatience handle
      fun hf => (hroomy hf).of_limiters rfl
    refine ⟨_, _, n, (settle_ends_iff hh).mpr ⟨x, w', hx, rfl, rfl⟩, ?_, hn, ?_⟩
    · rwa [World.outside_loggedAll]
    · rw [World.calls_loggedAll, hasked.calls, World.calls_logged]

/-- **The time a workflow takes**, where nothing but sleeps takes time. Whatever it is answered, a
run comes to an end, and no later than the deadlines allow: that of the lookup, if there is one, and
that of the polling, which the limiter may overrun by its longest wait. The calls it makes are
lookups of the order and queries for one task, no more than fit into the deadlines. Of the host it
takes the patience for as many rounds, and for two rounds of the limiter. -/
theorem awaitCompletion_bounded (ht : Timely host flow source)
    (hroomy : ∀ {l}, flow.limiter = some l → l.Roomy w) {read profile : Profile ℚ}
    (hread : s.requiresResolution = true → flow.readProfile = some read ∧ read.IsValid ∧
      ⌈read.deadline / read.interval⌉₊ ≤ host.patience)
    (hprofile : a.profile.or flow.convergeProfile = some profile) (hv : profile.IsValid)
    (hp : 2 ≤ host.patience)
    (hpatience : ⌈profile.deadline / profile.interval⌉₊ ≤ host.patience) :
    ∃ r w' handle lookups queries, (flow.awaitCompletion host a s source).Ends w r w' ∧
      host.reading w'.outside ≤
        host.reading w.outside + (if s.requiresResolution then read.deadline else 0) +
          profile.deadline + flow.limiter.elim 0 (fun l => max l.maxWait 0) ∧
      w'.calls = w.calls ++ List.replicate lookups (.resolve s.orderRef) ++
        List.replicate queries (.query handle) ∧
      lookups ≤ (if s.requiresResolution then ⌈read.deadline / read.interval⌉₊ else 0) ∧
      queries ≤ ⌈profile.deadline / profile.interval⌉₊ := by
  obtain ⟨place, w₁, lookups, hplace, hreading, hlookups, hasked⟩ := exists_locate_ends
    (w := w.logged (.workflow (.submitted s.action s.resourceId s.orderRef))) (a := a) ht hread
    fun hf => (hroomy hf).of_limiters rfl
  have hcalls := hasked.calls
  rw [World.calls_logged] at hcalls
  rw [World.outside_logged] at hreading
  match place with
  | .ok (resourceId, handle) =>
    obtain ⟨r, w', queries, hsettle, hreading', hqueries, hcalls'⟩ :=
      exists_settle_ends ht hprofile hv hp hpatience resourceId handle hasked.roomy
    refine ⟨r, w', handle, lookups, queries,
      awaitCompletion_ends_iff.mpr ⟨_, w₁, hplace, hsettle⟩, ?_, ?_, hlookups, hqueries⟩
    · rw [holdUp] at hreading'
      linarith
    · rw [hcalls', hcalls]
  | .error e =>
    have hdeadline : 0 < profile.deadline := not_le.mp hv.2
    have hhold := holdUp_nonneg flow
    rw [holdUp] at hhold
    refine ⟨_, _, .null, lookups, 0, awaitCompletion_ends_iff.mpr ⟨_, w₁, hplace, rfl, rfl⟩, ?_, ?_,
      hlookups, Nat.zero_le _⟩
    · rw [World.outside_loggedAll]
      linarith
    · rw [World.calls_loggedAll, hcalls]
      exact (List.append_nil _).symm

/-- An order whose task runs for ever. -/
def endless : TaskSource ℚ (ℚ × ℕ) where
  query _ o := (.ok (.report (.int 1) .null), o)
  resolve := some fun _ o => (.ok (.ofDeals [⟨[.text "resource"], .text "task"⟩]), o)

/-- A workflow that waits twelve seconds for an order, and as long for a task. -/
def twelveSeconds : Workflow ℚ (ℚ × ℕ) where
  poller := {}
  limiter := some (.standard 0)
  readProfile := some ⟨.null, 5, 12⟩
  convergeProfile := some ⟨.null, 5, 12⟩

theorem timely_endless : Timely (.exact 3) twelveSeconds endless where
  exact := ⟨fun _ => rfl, fun _ _ => rfl⟩
  notify := nofun
  query _ _ := rfl
  lookup := by
    rintro _ ⟨⟩ _ _
    rfl

/-- An endless order is given up after no more than three lookups and three queries. -/
theorem awaitCompletion_bounded_endless :
    ∃ r w', (twelveSeconds.awaitCompletion (.exact 3) { table := .flow }
        (.order (.text "order") .null) endless).Ends { outside := (0, 0) } r w' ∧
      w'.outside.1 ≤ 34 ∧ w'.calls.length ≤ 6 := by
  have hvalid : (⟨.null, 5, 12⟩ : Profile ℚ).IsValid := ⟨by decide, by decide⟩
  have hroom : ⌈(12 : ℚ) / 5⌉₊ ≤ 3 := Nat.ceil_le.mpr (by norm_num)
  have hroomy (l : Limiter ℚ) : l.Roomy ({ outside := (0, 0) } : World ℚ (ℚ × ℕ)) :=
    .start rfl
  obtain ⟨r, w', handle, lookups, queries, hends, hreading, hcalls, hlookups, hqueries⟩ :=
    awaitCompletion_bounded (s := .order (.text "order") .null) (a := { table := .flow })
      timely_endless (fun {l} _ => hroomy l) (fun _ => ⟨rfl, hvalid, hroom⟩) rfl hvalid
      (Nat.le_succ 2) hroom
  have hlookups : lookups ≤ 3 := hlookups.trans hroom
  have hqueries : queries ≤ 3 := hqueries.trans hroom
  refine ⟨r, w', hends, hreading.trans ?_, ?_⟩
  · change (0 : ℚ) + 12 + 12 + max ((10 : ℤ) : ℚ) 0 ≤ 34
    norm_num
  · rw [hcalls, List.length_append, List.length_append, List.length_replicate,
      List.length_replicate]
    change 0 + lookups + queries ≤ 6
    omega

end Settle.Workflow
