import Settle.Proofs.Poll.Faults
import Settle.Proofs.Poll.Rests

/-!
# A polling run against an adverse clock

Calls of the action may take any time, and a sleep may be shorter or longer than was asked for.
What a poller keeps to all the same is a matter of when it looks at the clock: once after each
attempt, to see how long it may sleep, and once after the sleep, to see whether there is time for
another attempt.

`Polling.Course` reaches the world in which an attempt is made, so what holds of every course
holds of every attempt of a run. `Polling.Rested` tells the sleeps of a course, and
`Polling.Closes` what is done after the last answer.

Main statements: `Course.reading_lt`, by which no attempt but the first is made once the deadline
has passed, and `run_timing`, the account of a whole run.
-/

namespace Settle

open Quantity

variable {ω α : Type}

namespace Polling

variable {c : Polling ℚ ω α} {n m : ℕ} {w w' : World ℚ ω} {condition : Condition ℚ}

/-! ### Attempts -/

section Attempts

variable (ht : c.poller.Timed c.host)
include ht

/-- A round of waiting ends before the deadline. -/
theorem Waited.reading_lt (h : c.Waited n w w') :
    c.host.reading w'.outside < c.deadline.expiry := by
  obtain ⟨x, condition, w₁, -, -, he, rfl⟩ := h
  rw [World.outside_readBy, ht.read]
  rw [← Bool.not_eq_true, Deadline.isExpired_iff] at he
  exact not_le.mp he

/-- **Every attempt but the first** is made before the deadline. -/
theorem Course.reading_lt (h : c.Course n w m w') (hnm : n < m) :
    c.host.reading w'.outside < c.deadline.expiry := by
  induction h with
  | nil n w => exact absurd hnm (lt_irrefl n)
  | cons first rest ih =>
    -- the last round is the one that looked at the clock before the attempt
    cases rest with
    | nil => exact first.reading_lt ht
    | cons second others => exact ih (Nat.lt_of_lt_of_le (Nat.lt_succ_self _) others.le)

end Attempts

/-! ### The deadline -/

/-- A run is out of time only when the deadline has passed, and says how long it took. -/
theorem Concludes.reading_le (ht : c.poller.Timed c.host)
    {r : Except (Fault ℚ) (Option α × ℕ)} (h : c.Concludes n w r w' (.wait condition)) :
    c.deadline.expiry ≤ c.host.reading w'.outside ∧
      r = .error (c.expiry n condition (c.host.reading w'.outside - c.deadline.start)) := by
  obtain ⟨he, rfl, rfl⟩ := h
  -- none of the readings after the pause takes time
  have hsame : c.host.reading (c.expired n condition
      ((c.paused n condition w).readBy c.host)).outside =
        c.host.reading (c.paused n condition w).outside := by
    rw [expired, World.outside_readBy, ht.read, World.outside_logged, World.outside_readBy, ht.read]
  rw [hsame, World.outside_readBy, ht.read]
  exact ⟨(c.deadline.isExpired_iff _).mp he, rfl⟩

/-! ### Counting attempts -/

/-- The conclusion of a run makes no attempt. -/
theorem Concludes.attempts {r : Except (Fault ℚ) (Option α × ℕ)} {verdict : Poll.Verdict ℚ α}
    (h : c.Concludes n w r w' verdict) : w'.attempts = w.attempts := by
  cases verdict with
  | finish v => rw [h.2]
  | fail e => rw [h.2]
  | wait condition =>
    obtain ⟨-, -, rfl⟩ := h
    rw [World.attempts_eq_length_seen, World.attempts_eq_length_seen, expired, World.seen_readBy,
      World.seen_logged _ _ fun _ => rfl, World.seen_readBy,
      seen_paused (fun _ => rfl) (fun _ _ _ => rfl) fun _ => rfl]

/-- An attempt counts once, if the action makes none of its own. -/
theorem attempts_of_ends (ha : ∀ w x w', c.action.Ends w x w' → w'.attempts = w.attempts)
    {x : Except (Fault ℚ) (Reply α)} (h : c.action.Ends (w.noted .attempted) x w') :
    w'.attempts = w.attempts + 1 := by
  rw [ha _ _ _ h, World.attempts_eq_length_seen, World.attempts_eq_length_seen,
    World.seen_noted, List.length_append]
  rfl

theorem Course.attempts (ha : ∀ w x w', c.action.Ends w x w' → w'.attempts = w.attempts)
    (h : c.Course n w m w') : w'.attempts = w.attempts + (m - n) := by
  induction h with
  | nil n w => rw [Nat.sub_self, Nat.add_zero]
  | @cons n m w w₁ w' first rest ih =>
    obtain ⟨x, condition, w₂, hx, -, -, rfl⟩ := first
    have hone := attempts_of_ends ha hx
    have hpause : ((c.paused (n + 1) condition w₂).readBy c.host).attempts = w₂.attempts := by
      rw [World.attempts_eq_length_seen, World.attempts_eq_length_seen, World.seen_readBy,
        seen_paused (fun _ => rfl) (fun _ _ _ => rfl) fun _ => rfl]
    have := rest.le
    rw [ih, hpause, hone]
    omega

theorem LastWith.attempts (ha : ∀ w x w', c.action.Ends w x w' → w'.attempts = w.attempts)
    {x : Except (Fault ℚ) (Reply α)} {w₁ : World ℚ ω} {r : Except (Fault ℚ) (Option α × ℕ)}
    (h : c.LastWith n w x w₁ r w') : w'.attempts = w.attempts + 1 := by
  obtain ⟨hx, hc⟩ := h
  rw [hc.attempts, World.attempts_eq_length_seen, World.seen_loggedAll _ _ fun _ => rfl,
    ← World.attempts_eq_length_seen, attempts_of_ends ha hx]

end Polling

/-! ### Whole runs -/

namespace Poller

/-- **The timing of a run**, however long calls take and however far off sleeps are. A run passes
through every course of waiting, and makes its next attempt at the end of it. Every attempt but the
first is made before the deadline. After one that leaves the run waiting there is a sleep if time
is left, which is asked for as `Polling.Asks` says, and none otherwise. A value that the action is
done with, or a fault that ends the run, is honoured whatever the clock shows, and nothing happens
after it but that it is reported.

A run that ends is a course with the sleeps `rests`, each asked for as it should be, one more
attempt, and what `Polling.Closes` allows after it, which is at most one more sleep. If the action
itself neither attempts, tells nor sleeps, then all the attempts, notices and sleeps that the trace
has are these, in this order. The run ends as its last answer says. If that would leave the run
waiting, then the deadline has passed, and the fault that says so counts the attempts, carries the
last condition, and says how long the run took, which is no less than the deadline. -/
theorem run_timing {host : Host ℚ ω} {p : Poller ℚ ω} {how : Poll ℚ} {profile : Profile ℚ}
    {action : Run ℚ ω (Reply α)} (ht : p.Timed host) (hp : how.profile = some profile)
    (hv : profile.IsValid) (w : World ℚ ω) :
    let c := p.polling host how profile action (host.reading w.outside)
    let limit := host.reading w.outside + profile.deadline
    let told := p.notify.isSome
    (∀ n w₁, c.Course 0 (w.readBy host) n w₁ →
      (∃ rests, rests.length = n ∧ c.Rested 0 (w.readBy host) rests w₁) ∧
      (n ≤ host.patience → ∀ r w', (p.run host how action).Ends w r w' ↔
        ∃ s, (c.rounds n (host.patience - n)).Ends w₁ s w' ∧ r = s.map Prod.fst) ∧
      (0 < n → host.reading w₁.outside < limit) ∧
      ∀ x w₂, action.Ends (w₁.noted .attempted) x w₂ →
        (∀ condition, Poll.Waits c.policy c.classify x condition →
          (host.reading w₂.outside < limit →
            ∃ delay w₃, c.Asks (n + 1) condition w₂ delay w₃ ∧
              p.pause host c.operation profile c.deadline (n + 1) condition w₂ =
                .returned () (w₃.sleptBy host delay)) ∧
          (limit ≤ host.reading w₂.outside →
            p.pause host c.operation profile c.deadline (n + 1) condition w₂ =
              .returned () (w₂.readBy host))) ∧
        (n < host.patience →
          let reported := w₂.loggedAll (Poll.judge c.policy c.classify c.operation (n + 1) x).1
          (∀ v, x = .ok (.done v) → (p.run host how action).Ends w (.ok (some v)) reported) ∧
          ∀ e k, x = .error e → Poll.classOf c.classify e = .ok (some k) → c.policy.IsFatal k →
            (p.run host how action).Ends w (.error (Poll.finalFault c.operation k e))
              reported)) ∧
    ∀ r w', (p.run host how action).Ends w r w' →
      ∃ rests last w₁ x w₂, c.Course 0 (w.readBy host) rests.length w₁ ∧
        c.Rested 0 (w.readBy host) rests w₁ ∧ action.Ends (w₁.noted .attempted) x w₂ ∧
        c.Closes (rests.length + 1) x w₂ last w' ∧
        ((∀ w x w', action.Ends w x w' → w'.seen Entry.polled? = w.seen Entry.polled?) →
          w'.seen Entry.polled? = w.seen Entry.polled? ++
            (rests.flatMap (Polling.Rest.entries told) ++
              last.elim [.attempted] (Polling.Rest.entries told))) ∧
        ((∀ w x w', action.Ends w x w' → w'.attempts = w.attempts) →
          w'.attempts = w.attempts + (rests.length + 1)) ∧
        (∀ v, (Poll.judge c.policy c.classify c.operation (rests.length + 1) x).2 = .finish v →
          r = .ok v) ∧
        (∀ f, (Poll.judge c.policy c.classify c.operation (rests.length + 1) x).2 = .fail f →
          r = .error f) ∧
        ∀ condition, Poll.Waits c.policy c.classify x condition →
          limit ≤ host.reading w'.outside ∧
          profile.deadline ≤ host.reading w'.outside - host.reading w.outside ∧
          r = .error (.deadlineExceeded (.text c.operation) profile.deadline
            (host.reading w'.outside - host.reading w.outside) (.int (rests.length + 1 : ℕ))
            condition (expiryContext c.operation condition)) := by
  intro c limit told
  have hi : 0 < c.profile.interval := not_le.mp hv.1
  constructor
  · intro n w₁ hcourse
    obtain ⟨rests, hlen, hrested⟩ := hcourse.exists_rested ht hi
    have hcount : rests.length = n := (Nat.zero_add _).symm.trans hlen
    refine ⟨⟨rests, hcount, hrested⟩, fun hn _ _ => run_ends_iff_of_course hp hn hcourse,
      hcourse.reading_lt ht, fun x w₂ hx => ⟨fun condition _ => ?_, fun hn => ?_⟩⟩
    · have hpause : p.pause host c.operation profile c.deadline (n + 1) condition w₂ =
          .returned () (c.paused (n + 1) condition w₂) := Polling.pause_apply _ _ _
      constructor
      · intro hlt
        obtain ⟨delay, w₃, hasks, hpaused⟩ :=
          Polling.exists_asks (c := c) ht hi (n + 1) condition hlt
        rw [hpaused] at hpause
        exact ⟨delay, w₃, hasks, hpause⟩
      · intro hle
        rwa [Polling.paused_of_expired (c := c) hle] at hpause
    · obtain ⟨hfinish, hfail⟩ := run_ends_of_course hp hn hcourse hx
      constructor
      · rintro v rfl
        exact hfinish (some v) rfl
      · rintro e k rfl hk hf
        refine hfail _ ?_
        rw [Poll.judge_of_isFatal hk hf]
  · intro r w' h
    obtain ⟨s, hs, rfl⟩ := run_ends_iff.mp h
    obtain ⟨n, w₁, -, hcourse, x, w₂, hlast⟩ := (runCounting_ends_iff hp).mp hs
    obtain ⟨rests, hlen, hrested⟩ := hcourse.exists_rested ht hi
    obtain rfl : rests.length = n := (Nat.zero_add _).symm.trans hlen
    obtain ⟨last, hcloses⟩ := hlast.exists_closes ht hi
    have hc := hlast.2
    refine ⟨rests, last, w₁, x, w₂, hcourse, hrested, hlast.1, hcloses, fun ha => ?_,
      fun ha => ?_, fun v hv => ?_, fun f hf => ?_, fun condition hw => ?_⟩
    · rw [hcloses.polled (Polling.seen_attempt ha hlast.1), hrested.polled ha, World.seen_readBy,
        List.append_assoc]
      rfl
    · rw [hlast.attempts ha, hcourse.attempts ha]
      rfl
    · rw [hv] at hc
      rw [hc.1]
      rfl
    · rw [hf] at hc
      rw [hc.1]
      rfl
    · rw [Poll.judge_of_waits hw] at hc
      obtain ⟨hle, rfl⟩ := hc.reading_le ht
      have hlimit : limit ≤ host.reading w'.outside := hle
      exact ⟨hlimit, le_sub_iff_add_le'.mpr hlimit, rfl⟩

end Poller

/-- A host whose outside is a clock and a notebook, and where a sleep is over in half the time. -/
def Host.restless (patience : ℕ) : Host ℚ (ℚ × List (ℕ × ℚ)) where
  read o := (o.1, o)
  sleep time o := (o.1 + time / 2, o.2)
  patience := patience

namespace Poller

/-- A poller whose caller takes down every sleep. -/
def noting : Poller ℚ (ℚ × List (ℕ × ℚ)) where
  notify := some fun attempts _ delay o => (o.1, o.2 ++ [(attempts, delay)])

/-- An action that takes a second and is never done. -/
def tarrying : Run ℚ (ℚ × List (ℕ × ℚ)) (Reply Unit) :=
  Run.outside fun o => (.pending .null, o.1 + 1, o.2)

/-- Where calls take a second and sleeps are over in half the time, the caller is told of four
sleeps, the last two of them cut short, and the run is out of time after twelve seconds and a
half. -/
theorem run_timing_restless :
    ∃ (rests : List Polling.Rest) (last : Option Polling.Rest)
      (w' : World ℚ (ℚ × List (ℕ × ℚ))),
      (noting.run (.restless 5) { profile := some ⟨.null, 5, 12⟩ } tarrying).Ends
        { outside := (0, []) }
        (.error (.deadlineExceeded (.text "operation") 12 (25 / 2) (.int (rests.length + 1 : ℕ))
          (.reason .null) { action := .text "operation" })) w' ∧
      w'.outside = (25 / 2, [(1, 5), (2, 5), (3, 4), (4, 1)]) ∧
      w'.seen Entry.polled? = rests.flatMap (Polling.Rest.entries true) ++
        last.elim [.attempted] (Polling.Rest.entries true) ∧
      w'.attempts = rests.length + 1 := by
  have htimed : noting.Timed (.restless 5) := by
    refine ⟨fun _ => rfl, ?_⟩
    rintro _ ⟨⟩ n condition delay o
    rfl
  have h := (@run_timing _ Unit (.restless 5) noting { profile := some ⟨.null, 5, 12⟩ } _ tarrying
    htimed rfl ⟨by decide, by decide⟩ { outside := (0, []) }).2
  obtain ⟨r, w', hends, hw⟩ := Run.exists_ends_of_outside (w := { outside := (0, []) })
    (m := noting.run (.restless 5) { profile := some ⟨.null, 5, 12⟩ } tarrying)
    (o := (25 / 2, [(1, 5), (2, 5), (3, 4), (4, 1)])) (by decide +kernel)
  obtain ⟨rests, last, w₁, x, w₂, -, -, hx, -, hpolled, hattempts, -, -, hwaits⟩ := h r w' hends
  have hquiet {w w' : World ℚ (ℚ × List (ℕ × ℚ))} {x : Except (Fault ℚ) (Reply Unit)}
      (hx : tarrying.Ends w x w') : x = .ok (.pending .null) ∧ w'.trace = w.trace := by
    cases x <;> cases hx
    exact ⟨rfl, rfl⟩
  obtain ⟨rfl, -⟩ := hquiet hx
  obtain ⟨-, -, rfl⟩ := hwaits (.reason .null) (.pending .null)
  refine ⟨rests, last, w', ?_, hw, hpolled fun w x w' hx => ?_,
    (hattempts fun w x w' hx => ?_).trans (Nat.zero_add _)⟩
  · -- the clock started at nothing, so it shows how long the run took
    have helapsed : w'.outside.1 - 0 = 25 / 2 := by
      rw [hw, sub_zero]
    rw [← helapsed]
    exact hends
  · rw [World.seen, World.seen, (hquiet hx).2]
  · rw [World.attempts, World.attempts, (hquiet hx).2]

end Poller

end Settle
