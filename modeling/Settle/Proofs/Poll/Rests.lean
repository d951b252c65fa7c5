import Settle.Proofs.Exact
import Settle.Proofs.Poll.Script

/-!
# The sleeps of a polling run

A poller asks for a sleep after an attempt that leaves it waiting, if there is time left, and it
tells the caller just before. `Polling.Asks` is how a sleep is asked for. Nothing is asked of the
clock but that looking at it, and telling the caller, takes no time (`Poller.Timed`): attempts may
take any time, and sleeps may be shorter or longer than was asked for.

`Polling.Rested` is a course together with the list of its sleeps, and `Polling.Closes` is all that
a poller still does after the last answer of a run, with the sleep that it may have to make before
it finds that the time is up. Between them they say what becomes of the world in every step that
is not the action's own.

Main statements: every course is one with sleeps (`Course.exists_rested`), and every last round
closes a run (`LastWith.exists_closes`); `Rested.polled` and `Closes.polled` read the attempts, the
notices and the sleeps off the trace, in their order.
-/

namespace Settle

open Quantity

variable {ω α : Type}

/-- Neither reading the clock nor telling the caller takes any time. -/
structure Poller.Timed (host : Host ℚ ω) (p : Poller ℚ ω) : Prop where
  read (o : ω) : host.reading (host.read o).2 = host.reading o
  notify : p.Leaves host.reading

namespace Polling

variable {c : Polling ℚ ω α} {n m : ℕ} {w w₁ w' : World ℚ ω} {condition : Condition ℚ} {delay : ℚ}
  {x : Except (Fault ℚ) (Reply α)}

/-- Time is left until the deadline just before it. -/
theorem zero_lt_remaining_iff {now : ℚ} :
    zero < c.deadline.remaining now ↔ now < c.deadline.expiry := sub_pos

/-! ### How a sleep is asked for -/

/-- The world in which a sleep is asked for: the clock was read, the sleep was reported, and the
caller was told of it. -/
def asking (c : Polling ℚ ω α) (attempts : ℕ) (condition : Condition ℚ) (delay : ℚ)
    (w : World ℚ ω) : World ℚ ω :=
  ((w.readBy c.host).logged
    (.retryPending c.operation attempts condition.text delay)).noticedBy
      c.poller attempts condition delay

/-- After an attempt that ended in the world `w`, a sleep of `delay` is asked for in the world
`w'`: for some time, for no more than the interval, and not beyond the deadline. In between the
caller was told of it just once, if there is one to be told, and neither was there another sleep
nor did any time pass. -/
structure Asks (c : Polling ℚ ω α) (attempts : ℕ) (condition : Condition ℚ) (w : World ℚ ω)
    (delay : ℚ) (w' : World ℚ ω) : Prop where
  delay_pos : 0 < delay
  delay_le : delay ≤ c.profile.interval
  le_expiry : c.host.reading w'.outside + delay ≤ c.deadline.expiry
  world : w' = c.asking attempts condition delay w
  told : w'.seen Entry.noticed? = w.seen Entry.noticed? ++
    if c.poller.notify.isSome then [(attempts, condition, delay)] else []
  outside : w'.outside =
    (c.poller.notify.elim id fun f => f attempts condition delay) (c.host.read w.outside).2
  sleeps : w'.sleeps = w.sleeps
  reading : c.host.reading w'.outside = c.host.reading w.outside

/-- Telling the caller takes no time. -/
theorem reading_asking (ht : c.poller.Timed c.host) (n : ℕ) (condition : Condition ℚ) (delay : ℚ)
    (w : World ℚ ω) :
    c.host.reading (c.asking n condition delay w).outside = c.host.reading w.outside := by
  rw [asking, World.view_noticedBy _ ht.notify, World.outside_logged, World.outside_readBy,
    ht.read]

/-- What a view sees of a sleep that is asked for is the notice. -/
theorem seen_asking {β : Type} {view : Entry ℚ → Option β} (hl : ∀ e, view (.logged e) = none)
    (n : ℕ) (condition : Condition ℚ) (delay : ℚ) (w : World ℚ ω) :
    (c.asking n condition delay w).seen view = w.seen view ++
      if c.poller.notify.isSome then (view (.noticed n condition delay)).toList else [] := by
  rw [asking, World.noticedBy]
  cases c.poller.notify with
  | none => exact (World.seen_logged _ _ hl _).trans (List.append_nil _).symm
  | some f =>
    change ((_ : World ℚ ω).noted _).seen _ = _
    rw [World.seen_noted, World.seen_logged _ _ hl]
    rfl

/-- A sleep for a time that is left is asked for as it should be. -/
theorem asks_asking (ht : c.poller.Timed c.host) (hpos : 0 < delay)
    (hle : delay ≤ c.profile.interval)
    (hlimit : c.host.reading w.outside + delay ≤ c.deadline.expiry) :
    c.Asks n condition w delay (c.asking n condition delay w) where
  delay_pos := hpos
  delay_le := hle
  le_expiry := by rwa [reading_asking ht]
  world := rfl
  told := seen_asking (fun _ => rfl) n condition delay w
  outside := by
    rw [asking, World.noticedBy]
    cases c.poller.notify <;> rfl
  sleeps := by
    rw [World.sleeps_eq_seen, seen_asking fun _ => rfl, ← World.sleeps_eq_seen]
    cases c.poller.notify <;> exact List.append_nil _
  reading := reading_asking ht n condition delay w

/-- Before the deadline a pause is a sleep for the interval, or for the time that is left. -/
theorem paused_of_early (n : ℕ) (condition : Condition ℚ)
    (h : c.host.reading w.outside < c.deadline.expiry) :
    let delay := min c.profile.interval (c.deadline.expiry - c.host.reading w.outside)
    c.paused n condition w = (c.asking n condition delay w).sleptBy c.host delay := by
  rw [paused_of_lt (zero_lt_remaining_iff.mpr h), least_rat]
  rfl

/-- **A sleep** is asked for if an attempt ends before the deadline. -/
theorem exists_asks (ht : c.poller.Timed c.host) (hi : 0 < c.profile.interval) (n : ℕ)
    (condition : Condition ℚ) (h : c.host.reading w.outside < c.deadline.expiry) :
    ∃ delay w', c.Asks n condition w delay w' ∧
      c.paused n condition w = w'.sleptBy c.host delay := by
  refine ⟨_, _, asks_asking ht ?_ ?_ ?_, paused_of_early n condition h⟩
  · exact lt_min hi (sub_pos.mpr h)
  · exact min_le_left _ _
  · exact le_sub_iff_add_le'.mp (min_le_right _ _)

/-- Once the deadline has passed there is no sleep. -/
theorem paused_of_expired (h : c.deadline.expiry ≤ c.host.reading w.outside) :
    c.paused n condition w = w.readBy c.host :=
  paused_of_not_lt (mt zero_lt_remaining_iff.mp (not_lt.mpr h))

/-- If there is still time after a pause, then there was a sleep in it. -/
theorem exists_asks_of_not_expired (ht : c.poller.Timed c.host) (hi : 0 < c.profile.interval)
    (h : c.deadline.isExpired (c.host.reading (c.paused n condition w).outside) = false) :
    ∃ delay w₁, c.Asks n condition w delay w₁ ∧
      c.paused n condition w = w₁.sleptBy c.host delay ∧
      c.host.reading (w₁.sleptBy c.host delay).outside < c.deadline.expiry := by
  rw [← Bool.not_eq_true, Deadline.isExpired_iff, not_le] at h
  rcases lt_or_ge (c.host.reading w.outside) c.deadline.expiry with hlt | hge
  · obtain ⟨delay, w₁, hasks, hpaused⟩ := exists_asks ht hi n condition hlt
    rw [hpaused] at h
    exact ⟨delay, w₁, hasks, hpaused, h⟩
  · rw [paused_of_expired hge, World.outside_readBy, ht.read] at h
    exact absurd h (not_lt.mpr hge)

/-! ### The sleeps of a course -/

/-- A sleep between two attempts: how many have been made, what the last one left the run waiting
for, and the time that is asked for. -/
structure Rest where
  attempts : ℕ
  condition : Condition ℚ
  delay : ℚ

/-- What a round with a sleep enters in the trace, besides what the action does: the attempt, the
notice, if there is one to be told, and the sleep. -/
def Rest.entries (told : Bool) (rest : Rest) : List (Entry ℚ) :=
  .attempted :: ((if told then [.noticed rest.attempts rest.condition rest.delay] else []) ++
    [.slept rest.delay])

/-- A course with its sleeps. In each round an attempt leaves the run waiting, a sleep is asked for,
and after it there is time for another attempt. -/
inductive Rested (c : Polling ℚ ω α) : ℕ → World ℚ ω → List Rest → World ℚ ω → Prop
  | nil (n : ℕ) (w : World ℚ ω) : Rested c n w [] w
  | cons {n : ℕ} {w w₁ w₂ w' : World ℚ ω} {x : Except (Fault ℚ) (Reply α)}
      {condition : Condition ℚ} {delay : ℚ} {rests : List Rest}
      (attempt : c.action.Ends (w.noted .attempted) x w₁)
      (waits : Poll.Waits c.policy c.classify x condition)
      (asks : c.Asks (n + 1) condition w₁ delay w₂)
      (early : c.host.reading (w₂.sleptBy c.host delay).outside < c.deadline.expiry)
      (others : Rested c (n + 1) ((w₂.sleptBy c.host delay).readBy c.host) rests w') :
      Rested c n w (⟨n + 1, condition, delay⟩ :: rests) w'

/-- **Every course has its sleeps**, one in each round. -/
theorem Course.exists_rested (ht : c.poller.Timed c.host) (hi : 0 < c.profile.interval)
    (h : c.Course n w m w') : ∃ rests, n + rests.length = m ∧ c.Rested n w rests w' := by
  induction h with
  | nil n w => exact ⟨[], Nat.add_zero n, .nil n w⟩
  | @cons n m w _ w' first _ ih =>
    obtain ⟨x, condition, w₁, hx, hw, he, rfl⟩ := first
    obtain ⟨delay, w₂, hasks, hpaused, hearly⟩ := exists_asks_of_not_expired ht hi he
    obtain ⟨rests, hlen, hrested⟩ := ih
    rw [hpaused] at hrested
    refine ⟨_, ?_, .cons hx hw hasks hearly hrested⟩
    rw [List.length_cons, ← hlen, Nat.add_assoc, Nat.add_comm 1]

/-- An attempt is entered in the trace, if the action enters nothing itself. -/
theorem seen_attempt (ha : ∀ w x w', c.action.Ends w x w' →
      w'.seen Entry.polled? = w.seen Entry.polled?)
    (hx : c.action.Ends (w.noted .attempted) x w₁) :
    w₁.seen Entry.polled? = w.seen Entry.polled? ++ [.attempted] :=
  (ha _ _ _ hx).trans (World.seen_noted w _ _)

/-- So is the sleep that follows it, with the notice. -/
theorem Asks.polled (h : c.Asks n condition w₁ delay w')
    (hw : w₁.seen Entry.polled? = w.seen Entry.polled? ++ [.attempted]) :
    (w'.sleptBy c.host delay).seen Entry.polled? = w.seen Entry.polled? ++
      Rest.entries c.poller.notify.isSome ⟨n, condition, delay⟩ := by
  rw [World.seen_sleptBy, h.world, seen_asking fun _ => rfl, hw, List.append_assoc,
    List.append_assoc]
  rfl

/-- What a course shows of its steps, if the action has none of its own: one attempt after the
other, and each with its sleep. -/
theorem Rested.polled {rests : List Rest} (h : c.Rested n w rests w')
    (ha : ∀ w x w', c.action.Ends w x w' → w'.seen Entry.polled? = w.seen Entry.polled?) :
    w'.seen Entry.polled? = w.seen Entry.polled? ++
      rests.flatMap (Rest.entries c.poller.notify.isSome) := by
  induction h with
  | nil => exact (List.append_nil _).symm
  | cons attempt _ asks _ _ ih =>
    rw [ih, World.seen_readBy, asks.polled (seen_attempt ha attempt), List.append_assoc,
      List.flatMap_cons]

/-! ### What follows the last answer -/

/-- All that is done after `x`, the last answer of a run, which came after `n` attempts. Where it
decides the run, that is reported, and nothing else happens. Where it leaves the run waiting, then
the deadline has passed, or it passes in a sleep that is still asked for. -/
inductive Closes (c : Polling ℚ ω α) (n : ℕ) (x : Except (Fault ℚ) (Reply α)) (w : World ℚ ω) :
    Option Rest → World ℚ ω → Prop
  | decided (decides : ∀ condition, ¬ Poll.Waits c.policy c.classify x condition) :
      Closes c n x w none (w.loggedAll (Poll.judge c.policy c.classify c.operation n x).1)
  | late {condition : Condition ℚ} (waits : Poll.Waits c.policy c.classify x condition)
      (past : c.deadline.expiry ≤ c.host.reading w.outside) :
      Closes c n x w none (c.expired n condition ((w.readBy c.host).readBy c.host))
  | slept {condition : Condition ℚ} {delay : ℚ} {w₁ : World ℚ ω}
      (waits : Poll.Waits c.policy c.classify x condition) (asks : c.Asks n condition w delay w₁)
      (past : c.deadline.expiry ≤ c.host.reading (w₁.sleptBy c.host delay).outside) :
      Closes c n x w (some ⟨n, condition, delay⟩)
        (c.expired n condition ((w₁.sleptBy c.host delay).readBy c.host))

/-- A verdict that does not wait changes nothing. -/
theorem Concludes.eq_of_decided {r : Except (Fault ℚ) (Option α × ℕ)} {verdict : Poll.Verdict ℚ α}
    (h : c.Concludes n w r w' verdict) (hv : ∀ condition, verdict ≠ .wait condition) :
    w' = w := by
  cases verdict with
  | finish v => exact h.2
  | fail f => exact h.2
  | wait condition => exact absurd rfl (hv condition)

/-- **Every last round closes the run.** -/
theorem LastWith.exists_closes (ht : c.poller.Timed c.host) (hi : 0 < c.profile.interval)
    {r : Except (Fault ℚ) (Option α × ℕ)} (h : c.LastWith n w x w₁ r w') :
    ∃ last, c.Closes (n + 1) x w₁ last w' := by
  have hc := h.2
  by_cases hw : ∃ condition, Poll.Waits c.policy c.classify x condition
  · obtain ⟨condition, hw⟩ := hw
    rw [Poll.judge_of_waits hw, World.loggedAll_nil] at hc
    obtain ⟨he, -, rfl⟩ := hc
    rcases lt_or_ge (c.host.reading w₁.outside) c.deadline.expiry with hlt | hge
    · obtain ⟨delay, w₂, hasks, hpaused⟩ := exists_asks ht hi (n + 1) condition hlt
      rw [hpaused, Deadline.isExpired_iff] at he
      rw [hpaused]
      exact ⟨_, .slept hw hasks he⟩
    · rw [paused_of_expired hge]
      exact ⟨none, .late hw hge⟩
  · have hdecides := not_exists.mp hw
    rw [hc.eq_of_decided fun condition => mt Poll.judge_eq_wait_iff.mp (hdecides condition)]
    exact ⟨none, .decided hdecides⟩

/-- What the last round shows of its steps, if the action has none of its own. -/
theorem Closes.polled {last : Option Rest} (h : c.Closes n x w₁ last w')
    (hw : w₁.seen Entry.polled? = w.seen Entry.polled? ++ [.attempted]) :
    w'.seen Entry.polled? = w.seen Entry.polled? ++
      last.elim [.attempted] (Rest.entries c.poller.notify.isSome) := by
  cases h with
  | decided =>
    rw [World.seen_loggedAll _ _ fun _ => rfl]
    exact hw
  | late =>
    rw [expired, World.seen_readBy, World.seen_logged _ _ fun _ => rfl]
    exact hw
  | slept _ asks =>
    rw [expired, World.seen_readBy, World.seen_logged _ _ fun _ => rfl, World.seen_readBy]
    exact asks.polled hw

end Polling

end Settle
