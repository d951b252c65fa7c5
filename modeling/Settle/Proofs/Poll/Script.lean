import Settle.Proofs.Poll.Course
import Settle.Proofs.Run.Trace

/-!
# Scripted actions

The answers of an action can be thought of as a script that is played line by line, with a
position in it that belongs to the outside. `Polling.Plays` says that an action plays a
script, and that nothing else in a polling run moves the position. Nothing is said about the
clock, which may move in any way.

The script itself can be anything, so a statement about all scripts is one about all answers
that an action can give. Main statement: `Course.takes_lines`, by which every round of waiting
takes one line that leaves the run waiting.

Where every attempt makes the same call, a run makes it once for each attempt (`Course.calls`,
`Poller.exists_calls_of_call`).
-/

namespace Settle

variable {τ ω α β : Type}

/-- The notices of a poller leave alone what a view of the outside shows. -/
def Poller.Leaves (p : Poller τ ω) (view : ω → β) : Prop :=
  ∀ f, p.notify = some f → ∀ n condition delay o, view (f n condition delay o) = view o

namespace World

variable (w : World τ ω) {p : Poller τ ω}

theorem view_noticedBy {view : ω → β} (h : p.Leaves view) (n : Nat) (condition : Condition τ)
    (delay : τ) : view (w.noticedBy p n condition delay).outside = view w.outside := by
  rw [noticedBy]
  cases hf : p.notify with
  | none => rfl
  | some f => exact h f hf n condition delay w.outside

/-- A view that overlooks notices sees nothing in one. -/
theorem seen_noticedBy {view : Entry τ → Option β}
    (h : ∀ n condition delay, view (.noticed n condition delay) = none) (n : Nat)
    (condition : Condition τ) (delay : τ) :
    (w.noticedBy p n condition delay).seen view = w.seen view := by
  rw [noticedBy]
  cases p.notify with
  | none => rfl
  | some f => exact seen_noted_of_none w view (h n condition delay)

end World

namespace Polling

variable [Quantity τ] {c : Polling τ ω α}

/-! ### What a pause leaves alone -/

theorem view_paused {view : ω → β} (hh : c.host.Leaves view) (hp : c.poller.Leaves view)
    (n : Nat) (condition : Condition τ) (w : World τ ω) :
    view (c.paused n condition w).outside = view w.outside := by
  have hr : view (w.readBy c.host).outside = view w.outside := hh.read w.outside
  by_cases h : Quantity.zero < c.deadline.remaining (c.host.reading w.outside)
  · rw [paused_of_lt h, World.outside_sleptBy, hh.sleep, World.view_noticedBy _ hp,
      World.outside_logged, hr]
  · rw [paused_of_not_lt h]
    exact hr

/-- A view that overlooks events, notices and sleeps sees nothing in a pause. -/
theorem seen_paused {view : Entry τ → Option β} (hl : ∀ e, view (.logged e) = none)
    (hn : ∀ n condition delay, view (.noticed n condition delay) = none)
    (hs : ∀ time, view (.slept time) = none) (n : Nat) (condition : Condition τ)
    (w : World τ ω) : (c.paused n condition w).seen view = w.seen view := by
  by_cases h : Quantity.zero < c.deadline.remaining (c.host.reading w.outside)
  · rw [paused_of_lt h, World.seen_sleptBy, hs, World.seen_noticedBy _ hn,
      World.seen_logged _ view hl, World.seen_readBy, Option.toList_none, List.append_nil]
  · rw [paused_of_not_lt h, World.seen_readBy]

/-- Nothing is called in a pause. -/
theorem calls_paused (n : Nat) (condition : Condition τ) (w : World τ ω) :
    (c.paused n condition w).calls = w.calls := by
  rw [World.calls_eq_seen, seen_paused (fun _ => rfl) (fun _ _ _ => rfl) (fun _ => rfl),
    ← World.calls_eq_seen]

/-- Nothing is called in the conclusion of a run. -/
theorem Concludes.leaves {view : ω → β} (hh : c.host.Leaves view) (hp : c.poller.Leaves view)
    {n : Nat} {w w' : World τ ω} {r : Except (Fault τ) (Option α × Nat)}
    {verdict : Poll.Verdict τ α} (h : c.Concludes n w r w' verdict) :
    view w'.outside = view w.outside ∧ w'.calls = w.calls := by
  cases verdict with
  | finish v =>
    obtain ⟨-, rfl⟩ := h
    exact ⟨rfl, rfl⟩
  | fail e =>
    obtain ⟨-, rfl⟩ := h
    exact ⟨rfl, rfl⟩
  | wait condition =>
    obtain ⟨-, -, rfl⟩ := h
    rw [expired]
    constructor
    · rw [World.outside_readBy, hh.read, World.outside_logged, World.outside_readBy, hh.read,
        view_paused hh hp]
    · rw [World.calls_readBy, World.calls_logged, World.calls_readBy, calls_paused]

section Leaves

variable {view : ω → β} (hh : c.host.Leaves view) (hp : c.poller.Leaves view)
  (ha : ∀ w x w', c.action.Ends w x w' → view w'.outside = view w.outside)
  {n m : Nat} {w w' : World τ ω}
include hh hp ha

/-- What the action leaves alone, a course leaves alone. -/
theorem Course.leaves (h : c.Course n w m w') : view w'.outside = view w.outside := by
  induction h with
  | nil => rfl
  | cons first rest ih =>
    obtain ⟨x, condition, w₁, hx, -, -, rfl⟩ := first
    rw [ih, World.outside_readBy, hh.read, view_paused hh hp, ha _ _ _ hx, World.outside_noted]

theorem LastWith.leaves {x : Except (Fault τ) (Reply α)} {w₁ : World τ ω}
    {r : Except (Fault τ) (Option α × Nat)} (h : c.LastWith n w x w₁ r w') :
    view w'.outside = view w.outside := by
  obtain ⟨hx, hc⟩ := h
  rw [(hc.leaves hh hp).1, World.outside_loggedAll, ha _ _ _ hx, World.outside_noted]

end Leaves

/-! ### Actions that make one call -/

section Calls

variable {call : Call}
  (ha : ∀ ⦃w x w'⦄, c.action.Ends w x w' → w'.calls = w.calls ++ [call])
  {n m : Nat} {w w' : World τ ω}
include ha

/-- A round of waiting makes the call of its attempt. -/
theorem Waited.calls (h : c.Waited n w w') : w'.calls = w.calls ++ [call] := by
  obtain ⟨x, condition, w₁, hx, -, -, rfl⟩ := h
  rw [World.calls_readBy, calls_paused, ha hx, World.calls_noted rfl]

/-- A course makes one call for each round. -/
theorem Course.calls (h : c.Course n w m w') :
    w'.calls = w.calls ++ List.replicate (m - n) call := by
  induction h with
  | nil n w => rw [Nat.sub_self, List.replicate_zero, List.append_nil]
  | @cons n m w w₁ w' first rest ih =>
    have hm : m - n = m - (n + 1) + 1 := by
      have := rest.le
      omega
    rw [ih, first.calls ha, hm, List.append_assoc, List.replicate_succ, List.singleton_append]

/-- The last round makes one more. -/
theorem LastWith.calls {x : Except (Fault τ) (Reply α)} {w₁ : World τ ω}
    {r : Except (Fault τ) (Option α × Nat)} (h : c.LastWith n w x w₁ r w') :
    w'.calls = w.calls ++ [call] := by
  obtain ⟨hx, h⟩ := h
  have hhost : c.host.Leaves fun _ => () := ⟨fun _ => rfl, fun _ _ => rfl⟩
  have hpoller : c.poller.Leaves fun _ => () := fun _ _ _ _ _ _ => rfl
  rw [(h.leaves hhost hpoller).2, World.calls_loggedAll, ha hx, World.calls_noted rfl]

end Calls

/-! ### Scripts -/

/-- The action answers by a script, line by line, each with the same call, and nothing else
moves the position in it. -/
structure Plays (c : Polling τ ω α) (script : Nat → Except (Fault τ) (Reply α))
    (position : ω → Nat) (call : Call) : Prop where
  host : c.host.Leaves position
  poller : c.poller.Leaves position
  answer {w w' : World τ ω} {x : Except (Fault τ) (Reply α)} (h : c.action.Ends w x w') :
    x = script (position w.outside) ∧ position w'.outside = position w.outside + 1 ∧
      w'.calls = w.calls ++ [call]

variable {script : Nat → Except (Fault τ) (Reply α)} {position : ω → Nat} {call : Call}

omit [Quantity τ] in
theorem Plays.calls (hp : c.Plays script position call) ⦃w : World τ ω⦄
    ⦃x : Except (Fault τ) (Reply α)⦄ ⦃w' : World τ ω⦄ (h : c.action.Ends w x w') :
    w'.calls = w.calls ++ [call] := (hp.answer h).2.2

/-- A round of waiting takes one line of the script, which leaves the run waiting. -/
theorem Waited.takes_line (hp : c.Plays script position call) {n : Nat} {w w' : World τ ω}
    (h : c.Waited n w w') :
    (∃ condition, Poll.Waits c.policy c.classify (script (position w.outside)) condition) ∧
      position w'.outside = position w.outside + 1 ∧ w'.calls = w.calls ++ [call] := by
  have hcalls := h.calls hp.calls
  obtain ⟨x, condition, w₁, hx, hw, -, rfl⟩ := h
  obtain ⟨rfl, hpos, -⟩ := hp.answer hx
  refine ⟨⟨condition, hw⟩, ?_, hcalls⟩
  rw [World.outside_readBy, hp.host.read, view_paused hp.host hp.poller, hpos,
    World.outside_noted]

/-- **A course takes one line for each round**, and each of them leaves the run waiting. -/
theorem Course.takes_lines (hp : c.Plays script position call) {n m : Nat} {w w' : World τ ω}
    (h : c.Course n w m w') :
    (∀ i < m - n, ∃ condition,
      Poll.Waits c.policy c.classify (script (position w.outside + i)) condition) ∧
      position w'.outside = position w.outside + (m - n) ∧
      w'.calls = w.calls ++ List.replicate (m - n) call := by
  have hcalls := h.calls hp.calls
  rw [← and_assoc]
  refine ⟨?_, hcalls⟩
  clear hcalls
  induction h with
  | nil n w =>
    rw [Nat.sub_self]
    exact ⟨nofun, rfl⟩
  | @cons n m w w₁ w' first rest ih =>
    obtain ⟨hfirst, hpos, -⟩ := first.takes_line hp
    obtain ⟨hrest, hpos'⟩ := ih
    have hm : m - n = m - (n + 1) + 1 := by
      have := rest.le
      omega
    rw [hm]
    refine ⟨fun i hi => ?_, by omega⟩
    -- the first line belongs to the first round, the others to the rest of the course
    cases i with
    | zero => exact hfirst
    | succ i =>
      have h := hrest i (by omega)
      rwa [hpos, Nat.add_assoc, Nat.add_comm 1 i] at h

/-- The last round takes one more line. -/
theorem LastWith.takes_line (hp : c.Plays script position call) {n : Nat} {w w₁ w' : World τ ω}
    {x : Except (Fault τ) (Reply α)} {r : Except (Fault τ) (Option α × Nat)}
    (h : c.LastWith n w x w₁ r w') :
    x = script (position w.outside) ∧ position w'.outside = position w.outside + 1 ∧
      w'.calls = w.calls ++ [call] := by
  have hcalls := h.calls hp.calls
  obtain ⟨hx, h⟩ := h
  obtain ⟨rfl, hpos, -⟩ := hp.answer hx
  refine ⟨rfl, ?_, hcalls⟩
  rw [(h.leaves hp.host hp.poller).1, World.outside_loggedAll, hpos, World.outside_noted]

/-- **A whole run takes one line for each of its rounds.** All but the last leave it waiting, and
the last round is about the last line. -/
theorem Course.takes_lines_last (hp : c.Plays script position call) {n : Nat}
    {w w₀ w' : World τ ω} {r : Except (Fault τ) (Option α × Nat)}
    (hcourse : c.Course 0 (w.readBy c.host) n w₀) (hlast : c.Last n w₀ r w') :
    w'.calls = w.calls ++ List.replicate (n + 1) call ∧
      position w'.outside = position w.outside + (n + 1) ∧
      (∀ i < n, ∃ condition,
        Poll.Waits c.policy c.classify (script (position w.outside + i)) condition) ∧
      ∃ w₁, c.LastWith n w₀ (script (position w.outside + n)) w₁ r w' := by
  obtain ⟨x, w₁, hlast⟩ := hlast
  obtain ⟨hwaits, hpos, hcalls⟩ := hcourse.takes_lines hp
  obtain ⟨rfl, hpos', hcalls'⟩ := hlast.takes_line hp
  -- the clock is read once before the first line is taken
  have hstart : position (w.readBy c.host).outside = position w.outside := hp.host.read w.outside
  rw [hstart, Nat.sub_zero] at hpos
  rw [hstart] at hwaits
  rw [World.calls_readBy, Nat.sub_zero] at hcalls
  refine ⟨?_, ?_, hwaits, w₁, ?_⟩
  · rw [hcalls', hcalls, List.append_assoc, List.replicate_succ']
  · rw [hpos', hpos, Nat.add_assoc]
  · rw [← hpos]
    exact hlast

end Polling

/-! ### Calls that are retried -/

/-- A run that ends without a fault ends by its verdict. -/
theorem Polling.Concludes.eq_finish [Quantity τ] {c : Polling τ ω α} {n : Nat} {w w' : World τ ω}
    {v : Option α × Nat} {verdict : Poll.Verdict τ α} (h : c.Concludes n w (.ok v) w' verdict) :
    verdict = .finish v.1 := by
  cases verdict with
  | finish v' =>
    cases h.1
    rfl
  | fail e => cases h.1
  | wait condition => cases h.2.1

/-- A run finishes with a value iff the action is done with it. -/
theorem Poll.judge_eq_finish_some_iff {policy : NotFoundPolicy} {classify : Classifier τ}
    {operation : String} {n : Nat} {x : Except (Fault τ) (Reply α)} {v : α} :
    (judge policy classify operation n x).2 = .finish (some v) ↔ x = .ok (.done v) := by
  constructor
  · intro h
    rcases x with e | v' | reason | kindName
    · simp only [judge, judgeFault] at h
      split at h
      · cases h
      · cases h
      · cases h
      · cases h
      · cases policy <;> cases h
    · cases h
      rfl
    · cases h
    · cases h
  · rintro rfl
    rfl

namespace Poller

variable [Quantity τ] {host : Host τ ω} {p : Poller τ ω} {how : Poll τ} {profile : Profile τ}
  {f : Run τ ω α} {w w' : World τ ω} {x : Except (Fault τ) (Option α)}

/-- A call that makes one call to the outside makes it once for each attempt, at least once. -/
theorem exists_calls_of_call (hp : how.profile = some profile) {call : Call}
    (hf : ∀ ⦃w x w'⦄, f.Ends w x w' → w'.calls = w.calls ++ [call])
    (h : (p.call host how f).Ends w x w') :
    ∃ n, w'.calls = w.calls ++ List.replicate (n + 1) call := by
  have hattempt ⦃w x w'⦄ (h : (attempt f).Ends w x w') : w'.calls = w.calls ++ [call] := by
    obtain ⟨y, hy, -⟩ := attempt_ends_iff.mp h
    exact hf hy
  obtain ⟨s, hs, -⟩ := run_ends_iff.mp h
  have hretries : (retries how).profile = some profile := hp
  obtain ⟨n, w₁, -, hcourse, y, w₂, hlast⟩ := (runCounting_ends_iff hretries).mp hs
  refine ⟨n, ?_⟩
  rw [hlast.calls hattempt, hcourse.calls hattempt, World.calls_readBy, Nat.sub_zero,
    List.append_assoc, ← List.replicate_succ']

/-- The value of a call that is retried is one that an attempt returned. -/
theorem exists_ends_of_call (hp : how.profile = some profile) {v : α}
    (h : (p.call host how f).Ends w (.ok (some v)) w') : ∃ w₁ w₂, f.Ends w₁ (.ok v) w₂ := by
  obtain ⟨s, hs, hv⟩ := run_ends_iff.mp h
  have hretries : (retries how).profile = some profile := hp
  obtain ⟨n, w₁, -, -, y, w₂, hy, hlast⟩ := (runCounting_ends_iff hretries).mp hs
  obtain ⟨z, hz, rfl⟩ := attempt_ends_iff.mp hy
  cases s with
  | error e => cases hv
  | ok s =>
    have hfinish := hlast.eq_finish
    rw [← Except.ok.inj hv] at hfinish
    have hdone := Poll.judge_eq_finish_some_iff.mp hfinish
    cases z with
    | error e => cases hdone
    | ok u =>
      cases hdone
      exact ⟨_, _, hz⟩

end Poller

end Settle
