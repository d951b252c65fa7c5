import Settle.Proofs.Binary.Difference
import Settle.Proofs.Poll.Script
import Settle.Settings.Basic

/-!
# The sleeps between attempts

After an attempt that leaves a run waiting, the poller looks at the clock to see whether there is
time left to sleep, and then at the clock again to see whether the deadline has passed. If neither
is so, the next attempt follows without a sleep.

Between numbers this cannot be, on a clock that is `Steady`: before a deadline there is time left,
even where floats are rounded (`Binary.sub_pos`). But a profile is accepted if its times are not at
most nothing, and not-a-number is not. A deadline that is not-a-number never passes and never leaves
any time, so the attempts follow one another without a sleep and without an end.

Main statement: `Profile.Accepted.sleepsBetween_iff`; `Profile.spins_of_nan` is a run that does not
sleep.
-/

namespace Settle

open Quantity

variable {τ ω α : Type}

/-! ### Profiles that are accepted -/

/-- The profiles that one can come by: they are created, scaled from another one, or made from valid
settings. -/
inductive Profile.Accepted [Quantity τ] : Profile τ → Prop
  | created {name : Value} {interval deadline : τ} {p : Profile τ}
      (h : create? name interval deadline = .ok p) : Accepted p
  | scaled {p q : Profile τ} {factor : τ} (hp : Accepted p) (h : p.scaled factor = .ok q) :
      Accepted q
  | settings {s : Settings τ} (hs : s.IsValid) {profiles : Ledger String (Profile τ)}
      (h : s.profiles? = .ok profiles) {name : String} {p : Profile τ}
      (hp : (name, p) ∈ profiles) : Accepted p

/-- Neither time is at most nothing. -/
theorem Profile.Accepted.isValid [Quantity τ] {p : Profile τ} (h : p.Accepted) : p.IsValid := by
  induction h with
  | created h => exact (create?_eq_ok_iff.mp h).2
  | scaled _ h _ => exact (create?_eq_ok_iff.mp h).2
  | @settings s _ profiles h name p hp =>
    rw [Settings.profiles?] at h
    rcases hshort : create? (.text "short_read") s.shortReadInterval s.shortReadDeadline with
      e | short
    · rw [hshort] at h
      cases h
    rcases hlong : create? (.text "long_converge") s.longConvergeInterval
      s.longConvergeDeadline with e | long
    · rw [hshort, hlong] at h
      cases h
    rw [hshort, hlong] at h
    obtain rfl : [("short_read", short), ("long_converge", long)] = profiles := Except.ok.inj h
    rcases List.mem_cons.mp hp with hp | hp
    · obtain ⟨-, rfl⟩ := Prod.mk.inj hp
      exact (create?_eq_ok_iff.mp hshort).2
    · obtain ⟨-, rfl⟩ := Prod.mk.inj (List.mem_singleton.mp hp)
      exact (create?_eq_ok_iff.mp hlong).2

/-! ### The sleeps of one round -/

namespace Polling

variable [Quantity τ] {c : Polling τ ω α} {n : ℕ} {w w' : World τ ω}

/-- The sleeps of a pause that begins when there is time `left`: one or none. -/
def rest (c : Polling τ ω α) (left : τ) : List τ :=
  if zero < left then [least c.profile.interval left] else []

theorem sleeps_paused (n : ℕ) (condition : Condition τ) (w : World τ ω) :
    (c.paused n condition w).sleeps =
      w.sleeps ++ c.rest (c.deadline.remaining (c.host.reading w.outside)) := by
  by_cases h : zero < c.deadline.remaining (c.host.reading w.outside)
  · rw [rest, if_pos h, paused_of_lt h, World.sleeps_eq_seen, World.seen_sleptBy,
      World.seen_noticedBy _ fun _ _ _ => rfl, World.seen_logged _ _ fun _ => rfl,
      World.seen_readBy, ← World.sleeps_eq_seen]
    rfl
  · rw [rest, if_neg h, paused_of_not_lt h, List.append_nil]
    rfl

/-- The sleeps between an attempt that leaves the run waiting and the next one. -/
theorem Waited.sleeps (h : c.Waited n w w') :
    ∃ x w₁, c.action.Ends (w.noted .attempted) x w₁ ∧
      w'.sleeps = w₁.sleeps ++ c.rest (c.deadline.remaining (c.host.reading w₁.outside)) := by
  obtain ⟨x, condition, w₁, hx, -, -, rfl⟩ := h
  exact ⟨x, w₁, hx, sleeps_paused (n + 1) condition w₁⟩

end Polling

/-! ### The sleeps of runs -/

/-- A clock that shows finite numbers, and does not go back from one look to the next. -/
structure Host.Steady (host : Host Float ω) : Prop where
  finite (o : ω) : (host.reading o).isFinite = true
  read (o : ω) : host.reading o ≤ host.reading (host.read o).2

/-- One sleep, for some time. -/
def IsRest (slept : List Float) : Prop := ∃ delay, slept = [delay] ∧ zero < delay

/-- Between any two attempts of any run with the profile, on a host that is `fit`, the sleeps of
the poller are `good`. The attempts of a run are those of its course
(`Poller.run_ends_iff_of_course`). -/
def Profile.SleepsBetween (profile : Profile Float) (fit : ∀ {ω : Type}, Host Float ω → Prop)
    (good : List Float → Prop) : Prop :=
  ∀ (ω α : Type) (host : Host Float ω) (p : Poller Float ω) (how : Poll Float)
    (action : Run Float ω (Reply α)) (w : World Float ω), fit host → how.profile = some profile →
    let c := p.polling host how profile action (host.reading w.outside)
    ∀ n w₁ w₂, c.Course 0 (w.readBy host) n w₁ → c.Waited n w₁ w₂ →
      ∃ x w' slept, action.Ends (w₁.noted .attempted) x w' ∧ w₂.sleeps = w'.sleeps ++ slept ∧
        good slept

namespace Polling

variable {c : Polling Float ω α} {n : ℕ} {w w' : World Float ω}

/-- A sleep that is made lasts for some time, if the interval does. -/
theorem isRest_rest {left : Float} (hi : zero < c.profile.interval) (h : zero < left) :
    IsRest (c.rest left) := by
  refine ⟨_, if_pos h, ?_⟩
  rw [least]
  split
  · exact h
  · exact hi

/-- **A round of waiting** on a steady clock has time left to sleep. -/
theorem Waited.zero_lt_remaining (hs : c.host.Steady) (he : c.deadline.expiry.isNaN = false)
    (h : c.Waited n w w') :
    ∃ x w₁, c.action.Ends (w.noted .attempted) x w₁ ∧
      zero < c.deadline.remaining (c.host.reading w₁.outside) ∧
      w'.sleeps = w₁.sleeps ++ c.rest (c.deadline.remaining (c.host.reading w₁.outside)) := by
  obtain ⟨x, condition, w₁, hx, -, hleft, rfl⟩ := h
  refine ⟨x, w₁, hx, ?_, sleeps_paused (n + 1) condition w₁⟩
  by_contra hnone
  -- without a sleep the clock is looked at twice in a row
  rw [paused_of_not_lt hnone, World.outside_readBy, ← Bool.not_eq_true,
    Deadline.isExpired_iff] at hleft
  have hlook := hs.read w₁.outside
  have hlater : c.host.reading (c.host.read w₁.outside).2 < c.deadline.expiry :=
    Binary.lt_of_not_le he (Binary.le_iff.mp hlook).2.1 hleft
  exact hnone (Binary.sub_pos (Binary.lt_of_le_of_lt hlook hlater))

/-- A deadline that is not-a-number leaves no time. -/
theorem rest_of_isNaN {now : Float} (h : c.deadline.expiry.isNaN = true) :
    c.rest (c.deadline.remaining now) = [] := by
  refine if_neg fun hleft => ?_
  have hnumber := (Binary.lt_iff.mp hleft).2.1
  rw [Deadline.remaining, Binary.isNaN_sub_of_left h] at hnumber
  cases hnumber

end Polling

namespace Profile

variable {profile : Profile Float}

theorem steady_still (patience : ℕ) : (Host.still zero patience : Host Float ω).Steady where
  finite _ := by
    change (zero : Float).isFinite = true
    decide +kernel
  read _ := by
    change (zero : Float) ≤ zero
    decide +kernel

/-- A run on a clock that stands still is left waiting as long as its deadline is not at once. -/
theorem waited_still {w : World Float Unit} (h : ¬ zero + profile.deadline ≤ zero) :
    let c := Poller.polling (.still zero 1) {} { profile := some profile } profile
      (pure (.pending .null) : Run Float Unit (Reply Unit)) zero
    ∃ w', c.Waited 0 w w' := by
  intro c
  refine ⟨_, .ok (.pending .null), .reason .null, w.noted .attempted,
    Run.ends_pure.mpr ⟨rfl, rfl⟩, .pending .null, ?_, rfl⟩
  exact decide_eq_false h

/-- What it takes to sleep between the attempts of such a run. -/
theorem SleepsBetween.zero_lt (hb : profile.SleepsBetween Host.Steady IsRest)
    (h : ¬ zero + profile.deadline ≤ zero) :
    zero < zero + profile.deadline - zero ∧
      zero < least profile.interval (zero + profile.deadline - zero) := by
  obtain ⟨w₂, hwaited⟩ := waited_still (w := { outside := () }) h
  obtain ⟨x, w', slept, hx, hslept, delay, rfl, hpos⟩ :=
    hb Unit Unit (.still zero 1) {} { profile := some profile } _ { outside := () }
      (steady_still 1) rfl 0 _ w₂ (.nil 0 _) hwaited
  obtain ⟨x', w'', hx', hrest⟩ := hwaited.sleeps
  obtain ⟨rfl, rfl⟩ := hx.unique hx'
  have hdelay : [delay] = Polling.rest _ (zero + profile.deadline - zero) :=
    List.append_cancel_left (hslept.symm.trans hrest)
  by_cases hleft : zero < zero + profile.deadline - zero
  · rw [Polling.rest, if_pos hleft] at hdelay
    obtain rfl := List.singleton_inj.mp hdelay
    exact ⟨hleft, hpos⟩
  · rw [Polling.rest, if_neg hleft] at hdelay
    cases hdelay

/-- Only numbers make runs sleep. -/
theorem SleepsBetween.isNaN (hv : profile.IsValid)
    (hb : profile.SleepsBetween Host.Steady IsRest) :
    profile.interval.isNaN = false ∧ profile.deadline.isNaN = false := by
  have hd : profile.deadline.isNaN = false := by
    by_contra hnan
    have hsum : (zero + profile.deadline).isNaN = true :=
      Binary.isNaN_add_of_right ((Bool.not_eq_false _).mp hnan)
    have hlater : ¬ zero + profile.deadline ≤ zero := by
      intro hle
      have hnumber := (Binary.le_iff.mp hle).1
      rw [hsum] at hnumber
      cases hnumber
    have hnumber := (Binary.lt_iff.mp (hb.zero_lt hlater).1).2.1
    rw [Binary.isNaN_sub_of_left hsum] at hnumber
    cases hnumber
  refine ⟨?_, hd⟩
  have hpos : zero < profile.deadline := Binary.lt_of_not_le hd (by decide +kernel) hv.2
  have hdelay := (hb.zero_lt (Binary.not_le_of_lt (Binary.zero_add_pos hpos))).2
  by_contra hnan
  -- the lesser of not-a-number and another time is not-a-number
  have hleast : ¬ zero + profile.deadline - zero < profile.interval := fun hlt =>
    hnan (Binary.lt_iff.mp hlt).2.1
  rw [least_eq_of_not_lt hleast] at hdelay
  exact hnan (Binary.lt_iff.mp hdelay).2.1

/-- **When runs sleep between their attempts.** With a profile that is accepted, there is one sleep
of some time between two attempts, on every steady clock, just if neither time is not-a-number.
Whatever the clock shows, there is no second sleep, nor one of no time if the interval is a number;
and if the deadline is not-a-number, there is none at all. -/
theorem Accepted.sleepsBetween_iff (h : profile.Accepted) :
    (profile.SleepsBetween Host.Steady IsRest ↔
      profile.interval.isNaN = false ∧ profile.deadline.isNaN = false) ∧
    (profile.interval.isNaN = false →
      profile.SleepsBetween (fun _ => True) fun slept => slept = [] ∨ IsRest slept) ∧
    (profile.deadline.isNaN = true →
      profile.SleepsBetween (fun _ => True) fun slept => slept = []) := by
  obtain ⟨hinterval, hdeadline⟩ := h.isValid
  have hzero : (zero : Float).isNaN = false := by decide +kernel
  refine ⟨⟨SleepsBetween.isNaN h.isValid, fun ⟨hi, hd⟩ => ?_⟩, fun hi => ?_, fun hd => ?_⟩
  · intro ω α host p how action w hs hp c n w₁ w₂ _ hwaited
    have hexpiry : c.deadline.expiry.isNaN = false := Binary.isNaN_add (hs.finite _) hd
    obtain ⟨x, w', hx, hleft, hslept⟩ := hwaited.zero_lt_remaining hs hexpiry
    exact ⟨x, w', _, hx, hslept,
      Polling.isRest_rest (Binary.lt_of_not_le hi hzero hinterval) hleft⟩
  · intro ω α host p how action w _ hp c n w₁ w₂ _ hwaited
    obtain ⟨x, w', hx, hslept⟩ := hwaited.sleeps
    refine ⟨x, w', _, hx, hslept, ?_⟩
    by_cases hleft : zero < c.deadline.remaining (host.reading w'.outside)
    · exact .inr (Polling.isRest_rest (Binary.lt_of_not_le hi hzero hinterval) hleft)
    · exact .inl (if_neg hleft)
  · intro ω α host p how action w _ hp c n w₁ w₂ _ hwaited
    obtain ⟨x, w', hx, hslept⟩ := hwaited.sleeps
    have hexpiry : c.deadline.expiry.isNaN = true := Binary.isNaN_add_of_right hd
    exact ⟨x, w', _, hx, hslept, Polling.rest_of_isNaN hexpiry⟩

/-- A profile of twelve seconds with an interval of five. -/
theorem Accepted.sleepsBetween_five :
    (⟨.null, 5, 12⟩ : Profile Float).SleepsBetween Host.Steady IsRest := by
  have hv : (⟨.null, 5, 12⟩ : Profile Float).IsValid := by
    constructor <;> decide +kernel
  have haccepted := Accepted.created (create?_eq_ok_iff.mpr ⟨rfl, hv⟩)
  refine (Accepted.sleepsBetween_iff haccepted).1.mpr ?_
  constructor <;> decide +kernel

/-- A deadline of not-a-number is accepted. A run whose action is done at the second attempt makes
the two without a sleep. -/
theorem spins_of_nan :
    let profile : Profile Float := ⟨.null, 5, 0 / 0⟩
    let action : Run Float Bool (Reply Unit) :=
      Run.outside fun asked => (if asked then .done () else .pending .null, true)
    create? .null 5 (0 / 0) = .ok profile ∧
      ∃ w', (Poller.run (.still zero 2) {} { profile := some profile } action).Ends
          { outside := false } (.ok (some ())) w' ∧
        w'.attempts = 2 ∧ w'.sleeps = [] := by
  intro profile action
  have hv : profile.IsValid := by
    constructor <;> decide +kernel
  refine ⟨create?_eq_ok_iff.mpr ⟨rfl, hv⟩, ?_⟩
  have hcheck : ((Poller.run (.still zero 2) {} { profile := some profile } action
      { outside := false }).returned?.map fun p => (p.1, p.2.attempts, p.2.sleeps.isEmpty)) =
      some (some (), 2, true) := by decide +kernel
  obtain ⟨p, hreturned, hp⟩ := Option.map_eq_some_iff.mp hcheck
  obtain ⟨hvalue, hrest⟩ := Prod.mk.inj hp
  obtain ⟨hattempts, hsleeps⟩ := Prod.mk.inj hrest
  have hends := Run.ends_of_returned hreturned
  rw [hvalue] at hends
  exact ⟨p.2, hends, hattempts, List.isEmpty_iff.mp hsleeps⟩

end Profile

end Settle
