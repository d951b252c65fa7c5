import Settle.Proofs.Poll.Timing

/-!
# How many attempts a polling run makes

A poller sleeps for the interval of its profile, or for what is left of the deadline. An attempt
that another one follows has therefore moved the clock on by a whole stride: by the interval, if
sleeps last as long as they were asked to, for a shorter sleep would have been the one that reaches
the deadline. Where sleeps fall short of what they were asked for, however far, the least that they
last is the stride. Either way there is room for no more than `⌈deadline / stride⌉` attempts,
however long the calls of the action take.

`Polling.Strides` is what the two cases have in common.

Main statement: `run_endsWithin`.
-/

namespace Settle

open Quantity

variable {ω α : Type}

/-- Nothing sets the clock back: neither looking at it, nor telling the caller, nor the action. -/
structure Poller.Forward (host : Host ℚ ω) (p : Poller ℚ ω) (action : Run ℚ ω (Reply α)) :
    Prop where
  read (o : ω) : host.reading o ≤ host.reading (host.read o).2
  notify {f : ℕ → Condition ℚ → ℚ → ω → ω} (h : p.notify = some f) (n : ℕ)
    (condition : Condition ℚ) (delay : ℚ) (o : ω) :
    host.reading o ≤ host.reading (f n condition delay o)
  action {w w' : World ℚ ω} {x : Except (Fault ℚ) (Reply α)} (h : action.Ends w x w') :
    host.reading w.outside ≤ host.reading w'.outside

namespace Polling

variable {c : Polling ℚ ω α} {n m : ℕ} {w w' : World ℚ ω} {condition : Condition ℚ}
  {stride start : ℚ}

/-- A sleep that the poller asks for when there is time `left` moves the clock on by the stride, or
to the deadline. -/
def Strides (c : Polling ℚ ω α) (stride : ℚ) : Prop :=
  ∀ left o, 0 < left →
    c.host.reading o + min stride left ≤
      c.host.reading (c.host.sleep (min c.profile.interval left) o)

section Strides

variable (hf : c.poller.Forward c.host c.action)
include hf

theorem reading_le_noticedBy (n : ℕ) (delay : ℚ) :
    c.host.reading w.outside ≤
      c.host.reading (w.noticedBy c.poller n condition delay).outside := by
  rw [World.noticedBy]
  cases h : c.poller.notify with
  | none => exact le_rfl
  | some f => exact hf.notify h n condition delay w.outside

variable (hs : c.Strides stride)
include hs

/-- A pause that ends before the deadline takes a whole stride. -/
theorem add_le_reading_paused
    (h : c.host.reading (c.paused n condition w).outside < c.deadline.expiry) :
    c.host.reading w.outside + stride ≤
      c.host.reading (c.paused n condition w).outside := by
  by_cases hleft : c.host.reading w.outside < c.deadline.expiry
  · rw [paused_of_early n condition hleft, World.outside_sleptBy] at h ⊢
    set delay := min c.profile.interval (c.deadline.expiry - c.host.reading w.outside)
    have htold : c.host.reading w.outside ≤
        c.host.reading (c.asking n condition delay w).outside :=
      (hf.read w.outside).trans (reading_le_noticedBy hf n delay)
    have hslept := hs _ (c.asking n condition delay w).outside (sub_pos.mpr hleft)
    -- a sleep that is cut off would have reached the deadline
    rcases min_choice stride (c.deadline.expiry - c.host.reading w.outside) with hmin | hmin
    · rw [hmin] at hslept
      exact (add_le_add_left htold stride).trans hslept
    · rw [hmin] at hslept
      linarith
  · rw [paused_of_expired (not_lt.mp hleft), World.outside_readBy] at h
    exact absurd ((hf.read w.outside).trans_lt h) hleft

/-- **A round of waiting** takes a whole stride, and that was before the deadline. -/
theorem Waited.add_le_reading (h : c.Waited n w w') :
    c.host.reading w.outside + stride ≤ c.host.reading w'.outside ∧
      c.host.reading w.outside + stride < c.deadline.expiry := by
  obtain ⟨x, condition, w₁, hx, -, he, rfl⟩ := h
  have hearly : c.host.reading (c.paused (n + 1) condition w₁).outside < c.deadline.expiry := by
    rw [← Bool.not_eq_true, Deadline.isExpired_iff] at he
    exact not_le.mp he
  have hcall := hf.action hx
  rw [World.outside_noted] at hcall
  have hstride : c.host.reading w.outside + stride ≤
      c.host.reading (c.paused (n + 1) condition w₁).outside :=
    (add_le_add_left hcall stride).trans (add_le_reading_paused hf hs hearly)
  exact ⟨hstride.trans (hf.read _), hstride.trans_lt hearly⟩

/-- An attempt that `m` others precede is made `m` strides after the start at the earliest, and so
many there are before the deadline. -/
theorem Course.add_le_reading (h : c.Course n w m w')
    (hn : start + n * stride ≤ c.host.reading w.outside) :
    start + m * stride ≤ c.host.reading w'.outside ∧
      (n < m → start + m * stride < c.deadline.expiry) := by
  induction h with
  | nil n w => exact ⟨hn, fun h => absurd h (lt_irrefl n)⟩
  | @cons n m w w₁ w' first rest ih =>
    obtain ⟨hfirst, hearly⟩ := first.add_le_reading hf hs
    have hnext : start + (n + 1 : ℕ) * stride ≤ c.host.reading w.outside + stride := by
      push_cast
      linarith
    obtain ⟨hrest, hlate⟩ := ih (hnext.trans hfirst)
    refine ⟨hrest, fun _ => ?_⟩
    rcases rest.le.eq_or_lt with rfl | hlt
    · exact hnext.trans_lt hearly
    · exact hlate hlt

/-- There is room for so many attempts. -/
theorem Course.lt_ceil (hstride : 0 < stride) (hd : 0 < c.profile.deadline)
    (hexpiry : c.deadline.expiry = start + c.profile.deadline)
    (hstart : start ≤ c.host.reading w.outside) (h : c.Course 0 w n w') :
    n < ⌈c.profile.deadline / stride⌉₊ := by
  have hbegin : start + (0 : ℕ) * stride ≤ c.host.reading w.outside := by
    rwa [Nat.cast_zero, zero_mul, add_zero]
  rw [Nat.lt_ceil, lt_div_iff₀ hstride]
  rcases n.eq_zero_or_pos with rfl | hn
  · rwa [Nat.cast_zero, zero_mul]
  · have hlate := (h.add_le_reading hf hs hbegin).2 hn
    rw [hexpiry] at hlate
    exact lt_of_add_lt_add_left hlate

end Strides

/-- Sleeps that last as long as they were asked to make strides of the interval. -/
theorem strides_interval
    (h : ∀ time o, 0 < time → c.host.reading o + time ≤ c.host.reading (c.host.sleep time o))
    (hi : 0 < c.profile.interval) : c.Strides c.profile.interval :=
  fun _ o hleft => h _ o (lt_min hi hleft)

/-- Sleeps that last for some least time make strides of it. -/
theorem strides_of_least
    (h : ∀ time o, 0 < time → c.host.reading o + stride ≤ c.host.reading (c.host.sleep time o))
    (hi : 0 < c.profile.interval) : c.Strides stride :=
  fun _ o hleft => (add_le_add_right (min_le_left _ _) _).trans (h _ o (lt_min hi hleft))

end Polling

namespace Poller

variable {host : Host ℚ ω} {p : Poller ℚ ω} {how : Poll ℚ} {profile : Profile ℚ}
  {action : Run ℚ ω (Reply α)}

/-- A run makes no more than `bound` attempts, and ends if the host has patience for so many. The
attempts are those of its course and the last one; they are all there are in the trace if the action
makes none of its own. -/
def EndsWithin (host : Host ℚ ω) (p : Poller ℚ ω) (how : Poll ℚ) (profile : Profile ℚ)
    (action : Run ℚ ω (Reply α)) (w : World ℚ ω) (bound : ℕ) : Prop :=
  let c := p.polling host how profile action (host.reading w.outside)
  (∀ n w₁, c.Course 0 (w.readBy host) n w₁ → n + 1 ≤ bound) ∧
    (bound ≤ host.patience →
      ∃ n w₁ s w', c.Course 0 (w.readBy host) n w₁ ∧ c.Last n w₁ s w' ∧
        (p.run host how action).Ends w (s.map Prod.fst) w' ∧
        ((∀ w x w', action.Ends w x w' → w'.attempts = w.attempts) →
          w'.attempts = w.attempts + (n + 1)))

theorem endsWithin_of_strides (hp : how.profile = some profile) (hv : profile.IsValid)
    (hf : p.Forward host action) (hcalls : ∀ w, ∃ x w', action.Ends w x w') {stride : ℚ}
    (hstride : 0 < stride) (w : World ℚ ω)
    (hs : (p.polling host how profile action (host.reading w.outside)).Strides stride) :
    EndsWithin host p how profile action w ⌈profile.deadline / stride⌉₊ := by
  set c := p.polling host how profile action (host.reading w.outside)
  have hd : 0 < c.profile.deadline := not_le.mp hv.2
  have hstart : host.reading w.outside ≤ c.host.reading (w.readBy host).outside :=
    hf.read w.outside
  have hbound (n : ℕ) (w₁ : World ℚ ω) (h : c.Course 0 (w.readBy host) n w₁) :
      n < ⌈profile.deadline / stride⌉₊ := h.lt_ceil hf hs hstride hd rfl hstart
  refine ⟨hbound, fun hpatience => ?_⟩
  obtain ⟨n, w₁, s, w', hcourse, hlast⟩ := Polling.exists_course_last (c := c) hcalls
    fun m w' h => (hbound m w' h).trans_eq (Nat.zero_add _).symm
  refine ⟨n, w₁, s, w', hcourse, hlast, ?_, fun ha => ?_⟩
  · have hn : n < host.patience := (hbound n w₁ hcourse).trans_le hpatience
    exact run_ends_iff.mpr ⟨s, (runCounting_ends_iff hp).mpr ⟨n, w₁, hn, hcourse, hlast⟩, rfl⟩
  · obtain ⟨x, w₂, hlast⟩ := hlast
    rw [hlast.attempts ha, hcourse.attempts ha]
    rfl

/-- **A run comes to an end**, whatever the action answers and however long its calls take. There
are no more than `⌈deadline / interval⌉` attempts if sleeps last as long as they were asked to, and
no more than `⌈deadline / δ⌉` if all that is known is that they last for `δ`. -/
theorem run_endsWithin (hp : how.profile = some profile) (hv : profile.IsValid)
    (hf : p.Forward host action) (hcalls : ∀ w, ∃ x w', action.Ends w x w') (w : World ℚ ω) :
    ((∀ time o, 0 < time → host.reading o + time ≤ host.reading (host.sleep time o)) →
      EndsWithin host p how profile action w ⌈profile.deadline / profile.interval⌉₊) ∧
    ∀ δ, 0 < δ →
      (∀ time o, 0 < time → host.reading o + δ ≤ host.reading (host.sleep time o)) →
      EndsWithin host p how profile action w ⌈profile.deadline / δ⌉₊ := by
  have hi : 0 < profile.interval := not_le.mp hv.1
  constructor
  · intro h
    exact endsWithin_of_strides hp hv hf hcalls hi w (Polling.strides_interval h hi)
  · intro δ hδ h
    exact endsWithin_of_strides hp hv hf hcalls hδ w (Polling.strides_of_least h hi)

theorem EndsWithin.exists_ends {w : World ℚ ω} {bound : ℕ}
    (h : EndsWithin host p how profile action w bound) (hpatience : bound ≤ host.patience)
    (ha : ∀ w x w', action.Ends w x w' → w'.attempts = w.attempts) :
    ∃ r w', (p.run host how action).Ends w r w' ∧ w'.attempts ≤ w.attempts + bound := by
  obtain ⟨n, w₁, s, w', hcourse, -, hends, hattempts⟩ := h.2 hpatience
  refine ⟨_, w', hends, ?_⟩
  rw [hattempts ha]
  exact Nat.add_le_add_left (h.1 n w₁ hcourse) _

/-- In twelve seconds an action that is never done is attempted three times at most if the sleeps
are of five seconds, and twelve times if every sleep is over in a second. -/
theorem run_endsWithin_pending :
    let how : Poll ℚ := { profile := some ⟨.null, 5, 12⟩ }
    let action : Run ℚ ℚ (Reply Unit) := pure (.pending .null)
    let hasty : Host ℚ ℚ := ⟨fun now => (now, now), fun _ now => now + 1, 12⟩
    (∃ r w', (Poller.run (.punctual 3) {} how action).Ends { outside := 0 } r w' ∧
      w'.attempts ≤ 3) ∧
    ∃ r w', (Poller.run hasty {} how action).Ends { outside := 0 } r w' ∧ w'.attempts ≤ 12 := by
  intro how action hasty
  have hv : (⟨.null, 5, 12⟩ : Profile ℚ).IsValid := ⟨by decide, by decide⟩
  have hends {w w' : World ℚ ℚ} {x : Except (Fault ℚ) (Reply Unit)} :
      action.Ends w x w' ↔ x = .ok (.pending .null) ∧ w' = w := Run.ends_pure
  have hcalls (w : World ℚ ℚ) : ∃ x w', action.Ends w x w' := ⟨_, w, hends.mpr ⟨rfl, rfl⟩⟩
  have hsame (w : World ℚ ℚ) (x : Except (Fault ℚ) (Reply Unit)) (w' : World ℚ ℚ)
      (h : action.Ends w x w') : w' = w := (hends.mp h).2
  have hforward (host : Host ℚ ℚ) (hread : ∀ o, (host.read o).2 = o) :
      Poller.Forward host {} action := by
    refine ⟨fun o => ?_, nofun, fun h => ?_⟩
    · rw [hread]
    · rw [hsame _ _ _ h]
  have hsilent (w : World ℚ ℚ) (x : Except (Fault ℚ) (Reply Unit)) (w' : World ℚ ℚ)
      (h : action.Ends w x w') : w'.attempts = w.attempts := by
    rw [hsame w x w' h]
  constructor
  · have h : EndsWithin (.punctual 3) {} how ⟨.null, 5, 12⟩ action { outside := 0 }
        ⌈(12 : ℚ) / 5⌉₊ :=
      (run_endsWithin rfl hv (hforward _ fun _ => rfl) hcalls _).1 fun _ _ _ => le_rfl
    have hceil : ⌈(12 : ℚ) / 5⌉₊ = 3 := by norm_num [Nat.ceil_eq_iff]
    rw [hceil] at h
    exact h.exists_ends le_rfl hsilent
  · have h : EndsWithin hasty {} how ⟨.null, 5, 12⟩ action { outside := 0 } ⌈(12 : ℚ) / 1⌉₊ :=
      (run_endsWithin rfl hv (hforward _ fun _ => rfl) hcalls _).2 1 one_pos fun _ _ _ => le_rfl
    have hceil : ⌈(12 : ℚ) / 1⌉₊ = 12 := by norm_num
    rw [hceil] at h
    exact h.exists_ends le_rfl hsilent

end Poller

end Settle
