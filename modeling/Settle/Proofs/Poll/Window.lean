import Settle.Proofs.Exact
import Settle.Proofs.Poll.Script
import Mathlib.Algebra.Order.Floor.Semiring

/-!
# The window of a polling run

In exact time, and with a clock that moves only while the poller sleeps, the schedule of a
run can be computed: attempt `i` (counting from 0) happens `i * interval` after the start,
as long as that is within the deadline. A run whose action is done after `k` rounds of waiting
converges iff `k * interval < deadline`, and otherwise fails after `⌈deadline / interval⌉`
attempts, the last sleep being cut off at the deadline.

`Standing` says where a run stands: the time that has passed, the answers given, the sleeps
made. `Waited` and `Last` move it on in one way only (`exists_waited`, `exists_last_done`,
`exists_last_expired`), and `exists_course` puts the rounds of waiting together. All of this asks
for the answers only where the run comes to need them (`Clocked`); `Scheduled` is the case of an
action that recites its script everywhere.

Main statement: `run_window`.
-/

namespace Settle

open Quantity

variable {ω α : Type}

/-! ### Clocks that only sleeps move -/

/-- Only sleeps move the clock, each by just its time, and only the action moves the position
in its script. -/
structure Poller.Exact (host : Host ℚ ω) (p : Poller ℚ ω) (position : ω → ℕ) : Prop where
  read (o : ω) : host.reading (host.read o).2 = host.reading o
  sleep {time : ℚ} (h : 0 ≤ time) (o : ω) : host.reading (host.sleep time o) = host.reading o + time
  notify : p.Leaves host.reading
  script : host.Leaves position
  scriptNotify : p.Leaves position

/-- How far a world is from another: so much time has passed, so many answers were given, and
these sleeps were made. -/
structure World.Standing (host : Host ℚ ω) (position : ω → ℕ) (w₀ : World ℚ ω) (time : ℚ)
    (answers : ℕ) (slept : List ℚ) (w : World ℚ ω) : Prop where
  reading : host.reading w.outside = host.reading w₀.outside + time
  position : position w.outside = position w₀.outside + answers
  sleeps : w.sleeps = w₀.sleeps ++ slept

/-- The action answers by a script, line by line, in no time and without a sleep. -/
def Run.Recites (host : Host ℚ ω) (action : Run ℚ ω (Reply α))
    (script : ℕ → Except (Fault ℚ) (Reply α)) (position : ω → ℕ) : Prop :=
  ∀ w, ∃ w', action.Ends w (script (position w.outside)) w' ∧
    World.Standing host position w 0 1 [] w'

namespace World.Standing

variable {host : Host ℚ ω} {p : Poller ℚ ω} {position : ω → ℕ} {w₀ w w' : World ℚ ω}
  {time : ℚ} {answers : ℕ} {slept : List ℚ}

theorem self (w : World ℚ ω) : Standing host position w 0 0 [] w where
  reading := (add_zero _).symm
  position := rfl
  sleeps := (List.append_nil _).symm

theorem trans {time' : ℚ} {answers' : ℕ} {slept' : List ℚ}
    (h : Standing host position w₀ time answers slept w)
    (h' : Standing host position w time' answers' slept' w') :
    Standing host position w₀ (time + time') (answers + answers') (slept ++ slept') w' where
  reading := by rw [h'.reading, h.reading, add_assoc]
  position := by rw [h'.position, h.position, Nat.add_assoc]
  sleeps := by rw [h'.sleeps, h.sleeps, List.append_assoc]

/-- Only sleeps count among the entries of a trace. -/
theorem noted (h : Standing host position w₀ time answers slept w) {x : Entry ℚ}
    (hx : x.slept? = none) : Standing host position w₀ time answers slept (w.noted x) where
  reading := h.reading
  position := h.position
  sleeps := (sleeps_noted hx).trans h.sleeps

theorem logged (h : Standing host position w₀ time answers slept w) (e : Event ℚ) :
    Standing host position w₀ time answers slept (w.logged e) := h.noted rfl

theorem loggedAll (h : Standing host position w₀ time answers slept w) (es : List (Event ℚ)) :
    Standing host position w₀ time answers slept (w.loggedAll es) := by
  induction es generalizing w with
  | nil => exact h
  | cons e es ih => exact ih (h.logged e)

theorem readBy (hx : p.Exact host position) (h : Standing host position w₀ time answers slept w) :
    Standing host position w₀ time answers slept (w.readBy host) where
  reading := by rw [outside_readBy, hx.read, h.reading]
  position := by rw [outside_readBy, hx.script.read, h.position]
  sleeps := h.sleeps

theorem noticedBy (hx : p.Exact host position)
    (h : Standing host position w₀ time answers slept w) (n : ℕ) (condition : Condition ℚ)
    (delay : ℚ) :
    Standing host position w₀ time answers slept (w.noticedBy p n condition delay) where
  reading := by rw [view_noticedBy _ hx.notify, h.reading]
  position := by rw [view_noticedBy _ hx.scriptNotify, h.position]
  sleeps := by
    rw [sleeps_eq_seen, seen_noticedBy w fun _ _ _ => rfl, ← sleeps_eq_seen, h.sleeps]

theorem sleptBy (hx : p.Exact host position)
    (h : Standing host position w₀ time answers slept w) {delay : ℚ} (hd : 0 ≤ delay) :
    Standing host position w₀ (time + delay) answers (slept ++ [delay])
      (w.sleptBy host delay) where
  reading := by rw [outside_sleptBy, hx.sleep hd, h.reading, add_assoc]
  position := by rw [outside_sleptBy, hx.script.sleep, h.position]
  sleeps := by
    rw [sleeps_eq_seen, seen_sleptBy, ← sleeps_eq_seen, h.sleeps, List.append_assoc]
    rfl

end World.Standing

/-! ### Rounds in exact time -/

namespace Polling

open World

variable {c : Polling ℚ ω α} {position : ω → ℕ} {script : ℕ → Except (Fault ℚ) (Reply α)}
  {w₀ w : World ℚ ω} {time : ℚ} {n answers : ℕ} {slept : List ℚ} {condition : Condition ℚ}

/-- In this world the action gives the answer that is due, in no time and without a sleep. -/
def Answers (c : Polling ℚ ω α) (script : ℕ → Except (Fault ℚ) (Reply α)) (position : ω → ℕ)
    (w : World ℚ ω) : Prop :=
  ∃ w', c.action.Ends (w.noted .attempted) (script (position w.outside)) w' ∧
    Standing c.host position w 0 1 [] w'

/-- Time is exact, and the deadline was opened in the world `w₀`. -/
structure Clocked (c : Polling ℚ ω α) (position : ω → ℕ) (w₀ : World ℚ ω) : Prop where
  exact : c.poller.Exact c.host position
  start : c.deadline.start = c.host.reading w₀.outside
  expiry : c.deadline.expiry = c.host.reading w₀.outside + c.profile.deadline
  interval_pos : 0 < c.profile.interval

namespace Clocked

variable (hc : c.Clocked position w₀)
include hc

/-- A pause before the deadline sleeps the interval, or what is left. -/
theorem paused (n : ℕ) (condition : Condition ℚ) {delay : ℚ}
    (h : Standing c.host position w₀ time answers slept w) (ht : time < c.profile.deadline)
    (hd : min c.profile.interval (c.profile.deadline - time) = delay) :
    Standing c.host position w₀ (time + delay) answers (slept ++ [delay])
      (c.paused n condition w) := by
  have hleft : c.deadline.remaining (c.host.reading w.outside) = c.profile.deadline - time := by
    rw [Deadline.remaining, hc.expiry, h.reading]
    ring
  have hpos : 0 < c.profile.deadline - time := sub_pos.mpr ht
  have hlt : zero < c.deadline.remaining (c.host.reading w.outside) := by
    rw [hleft]
    exact hpos
  -- the clock is read, then an event and a notice, and only the sleep takes time
  rw [paused_of_lt hlt, hleft, least_rat, hd]
  refine (((h.readBy hc.exact).logged _).noticedBy hc.exact n condition _).sleptBy hc.exact ?_
  rw [← hd]
  exact le_min (le_of_lt hc.interval_pos) (le_of_lt hpos)

/-- The deadline has passed as soon as its time has. -/
theorem isExpired_iff (h : Standing c.host position w₀ time answers slept w) :
    c.deadline.isExpired (c.host.reading w.outside) = true ↔ c.profile.deadline ≤ time := by
  rw [Deadline.isExpired_iff, hc.expiry, h.reading]
  exact add_le_add_iff_left _

omit hc in
/-- The action plays the line at which the run stands. -/
theorem exists_answer (ha : c.Answers script position w)
    (h : Standing c.host position w₀ time answers slept w) :
    ∃ w₁, c.action.Ends (w.noted .attempted) (script (position w₀.outside + answers)) w₁ ∧
      Standing c.host position w₀ time (answers + 1) slept w₁ := by
  obtain ⟨w₁, hends, hw₁⟩ := ha
  rw [h.position] at hends
  refine ⟨w₁, hends, ?_⟩
  have := h.trans hw₁
  rwa [add_zero, List.append_nil] at this

/-- A round of waiting takes the interval, if the deadline is further off. -/
theorem exists_waited (ha : c.Answers script position w)
    (h : Standing c.host position w₀ time answers slept w)
    (ht : time + c.profile.interval < c.profile.deadline)
    (hw : Poll.Waits c.policy c.classify (script (position w₀.outside + answers)) condition) :
    ∃ w', c.Waited n w w' ∧
      Standing c.host position w₀ (time + c.profile.interval) (answers + 1)
        (slept ++ [c.profile.interval]) w' := by
  obtain ⟨w₁, hends, h₁⟩ := exists_answer ha h
  have hi := hc.interval_pos
  have h₂ := hc.paused (n + 1) condition h₁ (by linarith)
    (min_eq_left (by linarith))
  refine ⟨_, ⟨_, condition, w₁, hends, hw, ?_, rfl⟩, h₂.readBy hc.exact⟩
  rw [← Bool.not_eq_true, hc.isExpired_iff h₂]
  exact not_le.mpr ht

/-- Rounds of waiting follow each other at intervals until the deadline. -/
theorem exists_course (ha : ∀ n w, c.Course 0 (w₀.readBy c.host) n w → c.Answers script position w)
    {i : ℕ} (hi : i * c.profile.interval < c.profile.deadline)
    (hw : ∀ j < i, ∃ condition,
      Poll.Waits c.policy c.classify (script (position w₀.outside + j)) condition) :
    ∃ w', c.Course 0 (w₀.readBy c.host) i w' ∧
      Standing c.host position w₀ (i * c.profile.interval) i
        (List.replicate i c.profile.interval) w' := by
  -- by the rounds made so far: each begins at a multiple of the interval
  induction i with
  | zero =>
    refine ⟨_, .nil 0 _, ?_⟩
    rw [Nat.cast_zero, zero_mul]
    exact (Standing.self w₀).readBy hc.exact
  | succ i ih =>
    have hnext : ((i + 1 : ℕ) : ℚ) * c.profile.interval =
        i * c.profile.interval + c.profile.interval := by
      push_cast
      ring
    rw [hnext] at hi ⊢
    have hpos := hc.interval_pos
    obtain ⟨w', hcourse, h⟩ := ih (by linarith) fun j hj => hw j (by omega)
    obtain ⟨condition, hwait⟩ := hw i (by omega)
    obtain ⟨w'', hwaited, h'⟩ := hc.exists_waited (ha i w' hcourse) h hi hwait
    refine ⟨w'', hcourse.snoc hwaited, ?_⟩
    rwa [List.replicate_succ']

omit hc in
/-- The last round of a run whose action is done. -/
theorem exists_last_done (ha : c.Answers script position w)
    (h : Standing c.host position w₀ time answers slept w) {v : α}
    (hv : script (position w₀.outside + answers) = .ok (.done v)) :
    ∃ w', c.Last n w (.ok (some v, n + 1)) w' ∧
      Standing c.host position w₀ time (answers + 1) slept w' := by
  obtain ⟨w₁, hends, h₁⟩ := exists_answer ha h
  rw [hv] at hends
  exact ⟨_, ⟨_, w₁, hends, rfl, rfl⟩, h₁.loggedAll _⟩

/-- The last round of a run that is out of time: the sleep is cut off at the deadline. -/
theorem exists_last_expired (ha : c.Answers script position w)
    (h : Standing c.host position w₀ time answers slept w)
    (ht : time < c.profile.deadline) (ht' : c.profile.deadline ≤ time + c.profile.interval)
    (hw : Poll.Waits c.policy c.classify (script (position w₀.outside + answers)) condition) :
    ∃ w', c.Last n w (.error (c.expiry (n + 1) condition c.profile.deadline)) w' ∧
      Standing c.host position w₀ c.profile.deadline (answers + 1)
        (slept ++ [c.profile.deadline - time]) w' := by
  obtain ⟨w₁, hends, h₁⟩ := exists_answer ha h
  have h₂ := hc.paused (n + 1) condition h₁ ht
    (min_eq_right (by linarith))
  rw [add_sub_cancel] at h₂
  have h₃ := h₂.readBy hc.exact
  have helapsed : c.deadline.elapsed
      (c.host.reading ((c.paused (n + 1) condition w₁).readBy c.host).outside) =
        c.profile.deadline := by
    rw [Deadline.elapsed, hc.start, h₃.reading, add_sub_cancel_left]
  refine ⟨c.expired (n + 1) condition ((c.paused (n + 1) condition w₁).readBy c.host),
    ⟨_, w₁, hends, ?_⟩, (h₃.logged _).readBy hc.exact⟩
  rw [Poll.judge_of_waits hw]
  exact ⟨(hc.isExpired_iff h₂).mpr le_rfl, by rw [World.loggedAll_nil, helapsed], rfl⟩

end Clocked

/-- What the schedule of a run rests on: exact time, an action that recites its script, and a
deadline that was opened in the world `w₀`. -/
structure Scheduled (c : Polling ℚ ω α) (script : ℕ → Except (Fault ℚ) (Reply α))
    (position : ω → ℕ) (w₀ : World ℚ ω) : Prop where
  exact : c.poller.Exact c.host position
  recites : c.action.Recites c.host script position
  start : c.deadline.start = c.host.reading w₀.outside
  expiry : c.deadline.expiry = c.host.reading w₀.outside + c.profile.deadline
  interval_pos : 0 < c.profile.interval

namespace Scheduled

variable (hc : c.Scheduled script position w₀)
include hc

theorem clocked : c.Clocked position w₀ := ⟨hc.exact, hc.start, hc.expiry, hc.interval_pos⟩

/-- An action that recites its script answers in every world. -/
theorem answered (w : World ℚ ω) : c.Answers script position w := by
  obtain ⟨w', hends, hw'⟩ := hc.recites (w.noted .attempted)
  have := ((Standing.self w).noted rfl).trans hw'
  exact ⟨w', hends, by rwa [add_zero, Nat.zero_add, List.append_nil] at this⟩

theorem exists_course {i : ℕ} (hi : i * c.profile.interval < c.profile.deadline)
    (hw : ∀ j < i, ∃ condition,
      Poll.Waits c.policy c.classify (script (position w₀.outside + j)) condition) :
    ∃ w', c.Course 0 (w₀.readBy c.host) i w' ∧
      Standing c.host position w₀ (i * c.profile.interval) i
        (List.replicate i c.profile.interval) w' :=
  hc.clocked.exists_course (fun _ w _ => hc.answered w) hi hw

theorem exists_last_done (h : Standing c.host position w₀ time answers slept w) {v : α}
    (hv : script (position w₀.outside + answers) = .ok (.done v)) :
    ∃ w', c.Last n w (.ok (some v, n + 1)) w' ∧
      Standing c.host position w₀ time (answers + 1) slept w' :=
  Clocked.exists_last_done (hc.answered w) h hv

theorem exists_last_expired (h : Standing c.host position w₀ time answers slept w)
    (ht : time < c.profile.deadline) (ht' : c.profile.deadline ≤ time + c.profile.interval)
    (hw : Poll.Waits c.policy c.classify (script (position w₀.outside + answers)) condition) :
    ∃ w', c.Last n w (.error (c.expiry (n + 1) condition c.profile.deadline)) w' ∧
      Standing c.host position w₀ c.profile.deadline (answers + 1)
        (slept ++ [c.profile.deadline - time]) w' :=
  hc.clocked.exists_last_expired (hc.answered w) h ht ht' hw

end Scheduled

end Polling

/-! ### A stage in exact time -/

/-- A host whose outside is an instant of a clock that only sleeps move, and a position in a
script. -/
def Host.exact (patience : ℕ) : Host ℚ (ℚ × ℕ) where
  read o := (o.1, o)
  sleep time o := (o.1 + time, o.2)
  patience := patience

/-- The action that answers by a script. -/
def Run.recital (script : ℕ → Except (Fault ℚ) (Reply α)) : Run ℚ (ℚ × ℕ) (Reply α) :=
  fun w => Ending.of (script w.outside.2) { w with outside := (w.outside.1, w.outside.2 + 1) }

theorem Poller.exact_of_notify_none {p : Poller ℚ (ℚ × ℕ)} (h : p.notify = none)
    (patience : ℕ) : p.Exact (Host.exact patience) Prod.snd where
  read _ := rfl
  sleep _ _ := rfl
  notify f hf := by
    rw [h] at hf
    cases hf
  script := ⟨fun _ => rfl, fun _ _ => rfl⟩
  scriptNotify f hf := by
    rw [h] at hf
    cases hf

theorem Run.recites_recital (patience : ℕ) (script : ℕ → Except (Fault ℚ) (Reply α)) :
    (recital script).Recites (Host.exact patience) script Prod.snd :=
  fun _ => ⟨_, rfl, (add_zero _).symm, rfl, (List.append_nil _).symm⟩

/-! ### Whole runs -/

/-- How many attempts fit into a deadline: the last of them is the first that is not followed
by a whole interval. -/
theorem lt_and_le_of_ceil {interval deadline : ℚ} (hi : 0 < interval) {n : ℕ}
    (hn : ⌈deadline / interval⌉₊ = n + 1) :
    n * interval < deadline ∧ deadline ≤ n * interval + interval := by
  constructor
  · have hlt : n < ⌈deadline / interval⌉₊ := by omega
    exact (lt_div_iff₀ hi).mp (Nat.lt_ceil.mp hlt)
  · have hle := Nat.le_ceil (deadline / interval)
    rw [hn, div_le_iff₀ hi] at hle
    push_cast at hle
    linarith

/-- An action that is not done within the deadline is attempted for the last time before. -/
theorem exists_last_attempt {interval deadline : ℚ} (hi : 0 < interval) (hd : 0 < deadline)
    {k : ℕ} (hk : deadline ≤ k * interval) :
    ∃ n, n + 1 = ⌈deadline / interval⌉₊ ∧ n < k ∧ n * interval < deadline ∧
      deadline ≤ n * interval + interval := by
  have hpos : 0 < ⌈deadline / interval⌉₊ := Nat.ceil_pos.mpr (div_pos hd hi)
  obtain ⟨n, hn⟩ : ∃ n, ⌈deadline / interval⌉₊ = n + 1 := ⟨_, (Nat.sub_add_cancel hpos).symm⟩
  have hnk : ⌈deadline / interval⌉₊ ≤ k := Nat.ceil_le.mpr ((div_le_iff₀ hi).mpr hk)
  exact ⟨n, hn.symm, by omega, lt_and_le_of_ceil hi hn⟩

namespace Poller

/-- **The window of a run.** In exact time, an action that leaves the run waiting `k` times and
is done then converges after `k` whole intervals, if these end before the deadline. Otherwise
the run ends just at the deadline, with the condition of the last attempt that was made. The
host needs the patience for the attempts that either makes. -/
theorem run_window {host : Host ℚ ω} {p : Poller ℚ ω} {how : Poll ℚ} {profile : Profile ℚ}
    {action : Run ℚ ω (Reply α)} {script : ℕ → Except (Fault ℚ) (Reply α)}
    {position : ω → ℕ} (exact : p.Exact host position)
    (recites : action.Recites host script position) (hp : how.profile = some profile)
    (hi : 0 < profile.interval) (hd : 0 < profile.deadline) (w : World ℚ ω) (k : ℕ)
    (condition : ℕ → Condition ℚ) (v : α)
    (waits : ∀ i < k, Poll.Waits how.policy (how.classifier.getD p.classifier)
      (script (position w.outside + i)) (condition i))
    (done : script (position w.outside + k) = .ok (.done v))
    (patience : min (k + 1) ⌈profile.deadline / profile.interval⌉₊ ≤ host.patience) :
    (k * profile.interval < profile.deadline →
      ∃ w', (p.run host how action).Ends w (.ok (some v)) w' ∧
        position w'.outside = position w.outside + (k + 1) ∧
        w'.sleeps = w.sleeps ++ List.replicate k profile.interval) ∧
    (profile.deadline ≤ k * profile.interval →
      ∃ w' n, n + 1 = ⌈profile.deadline / profile.interval⌉₊ ∧ n < k ∧
        (p.run host how action).Ends w
          (.error (.deadlineExceeded
            (.text (Poll.operationName how.operation how.name "operation"))
            profile.deadline profile.deadline (.int (n + 1 : ℕ)) (condition n)
            (expiryContext (Poll.operationName how.operation how.name "operation")
              (condition n)))) w' ∧
        position w'.outside = position w.outside + (n + 1) ∧
        w'.sleeps = w.sleeps ++ (List.replicate n profile.interval ++
          [profile.deadline - n * profile.interval])) := by
  have hc : (p.polling host how profile action (host.reading w.outside)).Scheduled script
      position w := ⟨exact, recites, rfl, rfl, hi⟩
  constructor
  · -- the deadline is further off than the last interval, so every round of waiting fits
    intro hk
    have hceil : k < ⌈profile.deadline / profile.interval⌉₊ :=
      Nat.lt_ceil.mpr ((lt_div_iff₀ hi).mpr hk)
    obtain ⟨w₁, hcourse, h₁⟩ := hc.exists_course hk fun i hlt => ⟨condition i, waits i hlt⟩
    obtain ⟨w', hlast, h'⟩ := hc.exists_last_done (n := k) h₁ done
    have hrun := (runCounting_ends_iff hp).mpr ⟨k, w₁, by omega, hcourse, hlast⟩
    exact ⟨w', run_ends_iff.mpr ⟨_, hrun, rfl⟩, h'.position, h'.sleeps⟩
  · -- the first round that has no whole interval left is the last one
    intro hk
    have hpos : 0 < ⌈profile.deadline / profile.interval⌉₊ := Nat.ceil_pos.mpr (div_pos hd hi)
    obtain ⟨n, hn⟩ : ∃ n, ⌈profile.deadline / profile.interval⌉₊ = n + 1 :=
      ⟨_, (Nat.sub_add_cancel hpos).symm⟩
    have hnk : ⌈profile.deadline / profile.interval⌉₊ ≤ k :=
      Nat.ceil_le.mpr ((div_le_iff₀ hi).mpr hk)
    obtain ⟨hlt, hle⟩ := lt_and_le_of_ceil hi hn
    obtain ⟨w₁, hcourse, h₁⟩ :=
      hc.exists_course hlt fun i hin => ⟨condition i, waits i (by omega)⟩
    obtain ⟨w', hlast, h'⟩ := hc.exists_last_expired (n := n) h₁ hlt hle (waits n (by omega))
    have hrun := (runCounting_ends_iff hp).mpr ⟨n, w₁, by omega, hcourse, hlast⟩
    exact ⟨w', n, hn.symm, by omega, run_ends_iff.mpr ⟨_, hrun, rfl⟩, h'.position, h'.sleeps⟩

/-- Every five seconds within twelve: the third sleep is cut off. -/
theorem run_window_cut_off :
    ∃ w', (Poller.run (Host.exact 3) {} { profile := some ⟨.null, 5, 12⟩ }
        (Run.recital fun i => .ok (if i < 3 then .pending .null else .done ()))).Ends
          { outside := (0, 0) }
          (.error (.deadlineExceeded (.text "operation") 12 12 (.int 3) (.reason .null)
            { action := .text "operation" })) w' ∧
      w'.outside.2 = 3 ∧ w'.sleeps = [5, 5, 2] := by
  have hceil : ⌈(12 : ℚ) / 5⌉₊ = 3 := by
    rw [Nat.ceil_eq_iff (by decide)]
    norm_num
  have hwaits : ∀ i < 3, Poll.Waits .fatal Classifier.allFatal
      (.ok (if 0 + i < 3 then Reply.pending .null else Reply.done ()))
      (.reason .null : Condition ℚ) := by
    intro i hi
    rw [Nat.zero_add, if_pos hi]
    exact .pending .null
  obtain ⟨w', n, hn, -, hrun, hpos, hsleeps⟩ :=
    (@run_window _ _ (.exact 3) {} { profile := some ⟨.null, 5, 12⟩ } ⟨.null, 5, 12⟩ _ _ _
      (exact_of_notify_none rfl 3)
      (Run.recites_recital 3 fun i => .ok (if i < 3 then .pending .null else .done ()))
      rfl (by norm_num) (by norm_num) { outside := (0, 0) } 3 (fun _ => .reason .null) ()
      hwaits rfl (by rw [hceil]; decide)).2 (by norm_num)
  rw [hceil] at hn
  obtain rfl : n = 2 := by omega
  refine ⟨w', hrun, hpos, hsleeps.trans ?_⟩
  norm_num [World.sleeps, List.replicate]

end Poller

end Settle
