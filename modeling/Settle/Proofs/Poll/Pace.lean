import Settle.Proofs.Poll.Lockstep
import Settle.Proofs.Poll.Timing
import Settle.Proofs.Poll.Window

/-!
# How long a polling run takes

In exact time a run whose attempts take a bounded time each comes to an end, and soon after its
deadline: an attempt is begun before the deadline, so only the last one can go beyond it. Every
attempt but the first begins a whole interval after the one before it, so the deadline has room for
no more than `⌈deadline / interval⌉` of them.

`Polling.Paced` says what this takes of a run. It carries along an invariant `P` of the world that
may depend on the number of attempts made, to be used for whatever else is to be known at the end.

Main statements: `Polling.Paced.exists_rounds_ends` for the loop, `Poller.exists_runCounting_ends`
and `Poller.exists_call_ends` for whole runs.
-/

namespace Settle

open Quantity

variable {ω α : Type}

namespace Polling

variable {c : Polling ℚ ω α} {P : ℕ → World ℚ ω → Prop} {slack : ℚ} {n fuel : ℕ} {w : World ℚ ω}

theorem limiters_noticedBy (p : Poller ℚ ω) (n : ℕ) (condition : Condition ℚ) (delay : ℚ) :
    (w.noticedBy p n condition delay).limiters = w.limiters := by
  rw [World.noticedBy]
  cases p.notify <;> rfl

theorem limiters_paused (n : ℕ) (condition : Condition ℚ) (w : World ℚ ω) :
    (c.paused n condition w).limiters = w.limiters := by
  by_cases h : zero < c.deadline.remaining (c.host.reading w.outside)
  · rw [paused_of_lt h, World.limiters_sleptBy, limiters_noticedBy]
    rfl
  · rw [paused_of_not_lt h, World.limiters_readBy]

/-- Time is exact but for the attempts, which take up to `slack` each, and each of which takes the
invariant `P` one step further. -/
structure Paced (c : Polling ℚ ω α) (slack : ℚ) (P : ℕ → World ℚ ω → Prop) : Prop where
  timed : c.poller.Timed c.host
  sleep {time : ℚ} (h : 0 ≤ time) (o : ω) :
    c.host.reading (c.host.sleep time o) = c.host.reading o + time
  interval_pos : 0 < c.profile.interval
  expiry : c.deadline.expiry = c.deadline.start + c.profile.deadline
  inert {n : ℕ} {w w' : World ℚ ω} (h : P n w) (hl : w'.limiters = w.limiters)
    (hc : w'.calls = w.calls) : P n w'
  attempt {n : ℕ} {w : World ℚ ω} (h : P n w) : ∃ x w', c.action.Ends w x w' ∧
    c.host.reading w.outside ≤ c.host.reading w'.outside ∧
    c.host.reading w'.outside ≤ c.host.reading w.outside + slack ∧ P (n + 1) w'

/-- A round is the last one and ends soon after the deadline, or there is time for another one,
which begins an interval later. -/
def Proceeds (c : Polling ℚ ω α) (slack : ℚ) (P : ℕ → World ℚ ω → Prop) (n : ℕ)
    (w : World ℚ ω) : Prop :=
  (∃ r w', c.Last n w r w' ∧ c.host.reading w'.outside ≤ c.deadline.expiry + slack ∧
      P (n + 1) w') ∨
    ∃ w', c.Waited n w w' ∧
      c.deadline.start + (n + 1 : ℕ) * c.profile.interval ≤ c.host.reading w'.outside ∧
      c.host.reading w'.outside < c.deadline.expiry ∧ P (n + 1) w'

namespace Paced

variable (hc : c.Paced slack P)
include hc

/-- An attempt that is not too early and not too late is one of those there is room for. -/
theorem lt_ceil (h : c.deadline.start + n * c.profile.interval < c.deadline.expiry) :
    n < ⌈c.profile.deadline / c.profile.interval⌉₊ := by
  rw [hc.expiry] at h
  exact Nat.lt_ceil.mpr ((lt_div_iff₀ hc.interval_pos).mpr (by linarith))

/-- A pause before the deadline takes the interval, or what is left. -/
theorem reading_paused (n : ℕ) (condition : Condition ℚ)
    (h : c.host.reading w.outside < c.deadline.expiry) :
    c.host.reading (c.paused n condition w).outside =
      c.host.reading w.outside +
        min c.profile.interval (c.deadline.expiry - c.host.reading w.outside) := by
  have hpos : 0 ≤ min c.profile.interval (c.deadline.expiry - c.host.reading w.outside) :=
    le_min hc.interval_pos.le (sub_pos.mpr h).le
  rw [paused_of_early n condition h, World.outside_sleptBy, hc.sleep hpos, reading_asking hc.timed]

/-- After a pause the run is out of time, or another interval has passed. -/
theorem reading_paused_le (condition : Condition ℚ)
    (hearly : c.deadline.start + n * c.profile.interval ≤ c.host.reading w.outside)
    (hslack : 0 ≤ slack) (hlate : c.host.reading w.outside ≤ c.deadline.expiry + slack) :
    c.host.reading (c.paused (n + 1) condition w).outside ≤ c.deadline.expiry + slack ∧
      (c.host.reading (c.paused (n + 1) condition w).outside < c.deadline.expiry →
        c.deadline.start + (n + 1 : ℕ) * c.profile.interval ≤
          c.host.reading (c.paused (n + 1) condition w).outside) := by
  by_cases hleft : c.host.reading w.outside < c.deadline.expiry
  · rw [hc.reading_paused (n + 1) condition hleft]
    push_cast
    rcases min_choice c.profile.interval (c.deadline.expiry - c.host.reading w.outside) with
      hmin | hmin
    · have hrest := min_eq_left_iff.mp hmin
      rw [hmin]
      exact ⟨by linarith, fun _ => by linarith⟩
    · -- a sleep that is cut off ends at the deadline
      rw [hmin]
      exact ⟨by linarith, fun h => by linarith⟩
  · rw [paused_of_expired (not_lt.mp hleft), World.outside_readBy, hc.timed.read]
    exact ⟨hlate, fun h => absurd h hleft⟩

/-- After an attempt that leaves the run waiting there is a pause, and then time is up or there is
another round. -/
theorem proceeds_of_waits {w₁ : World ℚ ω} {x : Except (Fault ℚ) (Reply α)}
    {condition : Condition ℚ} (hx : c.action.Ends (w.noted .attempted) x w₁)
    (hw : Poll.Waits c.policy c.classify x condition) (hP : P (n + 1) w₁) (hslack : 0 ≤ slack)
    (hearly : c.deadline.start + n * c.profile.interval ≤ c.host.reading w₁.outside)
    (hlate : c.host.reading w₁.outside ≤ c.deadline.expiry + slack) : c.Proceeds slack P n w := by
  obtain ⟨hpaused, hnext⟩ := hc.reading_paused_le condition hearly hslack hlate
  have hP' : P (n + 1) (c.paused (n + 1) condition w₁) :=
    hc.inert hP (limiters_paused _ condition w₁) (calls_paused _ condition w₁)
  have hread : P (n + 1) ((c.paused (n + 1) condition w₁).readBy c.host) := hc.inert hP' rfl rfl
  cases he : c.deadline.isExpired (c.host.reading (c.paused (n + 1) condition w₁).outside) with
  | true =>
    have hlast : c.Last n w
        (.error (c.expiry (n + 1) condition (c.deadline.elapsed
          (c.host.reading ((c.paused (n + 1) condition w₁).readBy c.host).outside))))
        (c.expired (n + 1) condition ((c.paused (n + 1) condition w₁).readBy c.host)) := by
      refine ⟨x, w₁, hx, ?_⟩
      rw [Poll.judge_of_waits hw]
      exact ⟨he, rfl, rfl⟩
    refine .inl ⟨_, _, hlast, ?_, hc.inert hread rfl ?_⟩
    · rw [expired, World.outside_readBy, hc.timed.read, World.outside_logged,
        World.outside_readBy, hc.timed.read]
      exact hpaused
    · rw [expired, World.calls_readBy, World.calls_logged]
  | false =>
    have hlt : c.host.reading (c.paused (n + 1) condition w₁).outside < c.deadline.expiry := by
      rw [← Bool.not_eq_true, Deadline.isExpired_iff] at he
      exact not_le.mp he
    refine .inr ⟨_, ⟨x, condition, w₁, hx, hw, he, rfl⟩, ?_⟩
    rw [World.outside_readBy, hc.timed.read]
    exact ⟨hnext hlt, hlt, hread⟩

/-- **A round** that begins in time proceeds as it should. -/
theorem proceeds (hslack : 0 ≤ slack) (hP : P n w)
    (hearly : c.deadline.start + n * c.profile.interval ≤ c.host.reading w.outside)
    (hlate : c.host.reading w.outside < c.deadline.expiry) :
    c.Proceeds slack P n w := by
  have hP₀ : P n (w.noted .attempted) := hc.inert hP rfl (World.calls_noted rfl)
  obtain ⟨x, w₁, hx, hle, hle', hP₁⟩ := hc.attempt hP₀
  rw [World.outside_noted] at hle hle'
  -- a verdict that does not wait ends the run where the attempt ended
  have hends {r : Except (Fault ℚ) (Option α × ℕ)}
      (h : c.Concludes (n + 1) (w₁.loggedAll (c.judged (n + 1) x).1) r
        (w₁.loggedAll (c.judged (n + 1) x).1) (c.judged (n + 1) x).2) :
      ∃ r w', c.Last n w r w' ∧ c.host.reading w'.outside ≤ c.deadline.expiry + slack ∧
        P (n + 1) w' := by
    refine ⟨r, _, ⟨x, w₁, hx, h⟩, ?_,
      hc.inert hP₁ (World.limiters_loggedAll _ _) (World.calls_loggedAll _)⟩
    rw [World.outside_loggedAll]
    linarith
  cases hv : (c.judged (n + 1) x).2 with
  | finish v =>
    rw [hv] at hends
    exact .inl (hends ⟨rfl, rfl⟩)
  | fail e =>
    rw [hv] at hends
    exact .inl (hends ⟨rfl, rfl⟩)
  | wait condition =>
    exact hc.proceeds_of_waits hx (Poll.judge_eq_wait_iff.mp hv) hP₁ hslack (by linarith)
      (by linarith)

/-- **The rounds** that the deadline has room for come to an end. -/
theorem exists_rounds_ends (hslack : 0 ≤ slack) (hP : P n w)
    (hearly : c.deadline.start + n * c.profile.interval ≤ c.host.reading w.outside)
    (hlate : c.host.reading w.outside < c.deadline.expiry)
    (hfuel : ⌈c.profile.deadline / c.profile.interval⌉₊ ≤ n + fuel) :
    ∃ r w' m, (c.rounds n fuel).Ends w r w' ∧
      c.host.reading w'.outside ≤ c.deadline.expiry + slack ∧
      m ≤ ⌈c.profile.deadline / c.profile.interval⌉₊ ∧ P m w' := by
  have hroom := hc.lt_ceil (hearly.trans_lt hlate)
  induction fuel generalizing n w with
  | zero => omega
  | succ fuel ih =>
    rcases hc.proceeds hslack hP hearly hlate with
      ⟨r, w', hlast, hreading, hP'⟩ | ⟨w₁, hwaited, hearly', hlate', hP'⟩
    · exact ⟨r, w', n + 1, rounds_succ_ends_iff.mpr (.inl hlast), hreading, hroom, hP'⟩
    · obtain ⟨r, w', m, hends, hrest⟩ :=
        ih hP' hearly' hlate' (by omega) (hc.lt_ceil (hearly'.trans_lt hlate'))
      exact ⟨r, w', m, rounds_succ_ends_iff.mpr (.inr ⟨w₁, hwaited, hends⟩), hrest⟩

end Paced

end Polling

/-! ### Whole runs -/

namespace Poller

variable {host : Host ℚ ω} {p : Poller ℚ ω} {how : Poll ℚ} {profile : Profile ℚ} {slack : ℚ}
  {P : ℕ → World ℚ ω → Prop} {w : World ℚ ω}

/-- **A run comes to an end** soon after its deadline, and makes no more attempts than the deadline
has room for. -/
theorem exists_runCounting_ends {action : Run ℚ ω (Reply α)} (hp : how.profile = some profile)
    (hv : profile.IsValid)
    (hc : ∀ start, (p.polling host how profile action start).Paced slack P) (hslack : 0 ≤ slack)
    (hpatience : ⌈profile.deadline / profile.interval⌉₊ ≤ host.patience) (hP : P 0 w) :
    ∃ r w' m, (p.runCounting host how action).Ends w r w' ∧
      host.reading w'.outside ≤ host.reading w.outside + profile.deadline + slack ∧
      m ≤ ⌈profile.deadline / profile.interval⌉₊ ∧ P m w' := by
  have hpaced := hc (host.reading w.outside)
  have hread : host.reading (w.readBy host).outside = host.reading w.outside := hpaced.timed.read _
  have hdeadline : 0 < profile.deadline := not_le.mp hv.2
  have hearly : host.reading w.outside + (0 : ℕ) * profile.interval ≤
      host.reading (w.readBy host).outside := by
    rw [hread, Nat.cast_zero, zero_mul, add_zero]
  have hlate : host.reading (w.readBy host).outside <
      host.reading w.outside + profile.deadline := by
    rw [hread]
    exact lt_add_of_pos_right _ hdeadline
  obtain ⟨r, w', m, hends, hrest⟩ := hpaced.exists_rounds_ends hslack
    (hpaced.inert hP (World.limiters_readBy w host) rfl) hearly hlate
    (hpatience.trans (Nat.le_add_left _ _))
  exact ⟨r, w', m, (runCounting_ends_iff_rounds hp).mpr hends, hrest⟩

theorem exists_call_ends {f : Run ℚ ω α} (hp : how.profile = some profile) (hv : profile.IsValid)
    (hc : ∀ start, (p.polling host (retries how) profile (attempt f) start).Paced slack P)
    (hslack : 0 ≤ slack)
    (hpatience : ⌈profile.deadline / profile.interval⌉₊ ≤ host.patience) (hP : P 0 w) :
    ∃ r w' m, (p.call host how f).Ends w r w' ∧
      host.reading w'.outside ≤ host.reading w.outside + profile.deadline + slack ∧
      m ≤ ⌈profile.deadline / profile.interval⌉₊ ∧ P m w' := by
  have hretries : (retries how).profile = some profile := hp
  obtain ⟨r, w', m, hends, hrest⟩ := exists_runCounting_ends hretries hv hc hslack hpatience hP
  exact ⟨_, w', m, run_ends_iff.mpr ⟨r, hends, rfl⟩, hrest⟩

end Poller

end Settle
