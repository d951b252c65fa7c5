import Settle.Proofs.Limiter.Course

/-!
# Every call is let through

A limiter holds a call up, but only for so long. If a sleep lasts at least as long as it was asked
to, a call of `Limiter.acquire` goes through two rounds at most: the sleep of the first is long
enough for a token to come in, or it uses up the longest wait, and either way the second does not
sleep (`HeldUp.length_le`). This rests on every bucket having room for a token (`Roomy`), which is
so of the buckets that a limiter makes (`Roomy.start`), and stays so (`Roomy.serves`).

Main statement: `exists_acquire_ends`.
-/

namespace Settle

open Quantity

variable {ω : Type}

/-- The clock never goes back, and a sleep lasts at least as long as it was asked to. -/
structure Host.Thorough (host : Host ℚ ω) : Prop where
  read (o : ω) : host.reading o ≤ host.reading (host.read o).2
  sleep {time : ℚ} (h : 0 ≤ time) (o : ω) :
    host.reading o + time ≤ host.reading (host.sleep time o)

theorem Host.Thorough.forward {host : Host ℚ ω} (h : host.Thorough) : host.Forward where
  read := h.read
  sleep hpos o := (le_add_of_nonneg_right hpos).trans (h.sleep hpos o)

namespace Bucket

/-- A take that comes after the time that an earlier one said to wait gets a token, if the bucket
has room for one. -/
theorem take_of_waited {b : Bucket ℚ} {now time now' : ℚ} (hc : 1 ≤ b.capacity)
    (hg : (b.take now 1).1 = .wait time) (hn : now + time ≤ now') :
    ((b.take now 1).2.take now' 1).1 = .taken := by
  have hrefused : (b.take now 1).1 ≠ .taken := by
    rw [hg]
    exact nofun
  have hrate : 0 < b.rate := by
    by_contra hr
    rw [take_fst_of_nonpos (not_lt.mp hr) hrefused] at hg
    cases hg
  obtain rfl := Grant.wait.inj ((take_fst_of_pos hrate hrefused).symm.trans hg)
  -- the earlier take left a bucket of its own instant, so the wait counts from there
  have hrefilled : 0 < (b.refill now).rate := hrate
  rw [take_snd_of_ne_taken hrefused, take_eq_taken_iff, le_tokens_refill_iff hrefilled]
  exact ⟨hn, hc⟩

end Bucket

namespace Limiter

variable {host : Host ℚ ω} {l : Limiter ℚ} {action : String} {waited : ℚ} {slept : List ℚ}
  {w w' : World ℚ ω}

/-! ### Room for a token -/

/-- Every bucket of the limiter has room for a token. -/
def Roomy (l : Limiter ℚ) (w : World ℚ ω) : Prop :=
  ∀ a b, l.bucket? a w = some b → 1 ≤ b.capacity

/-- A limiter that has made no bucket yet has none that is too small. -/
theorem Roomy.start (h : l.buckets w = []) : l.Roomy w := by
  intro a b hb
  rw [bucket?, h] at hb
  cases hb

theorem Roomy.of_limiters (h : l.Roomy w) (hl : w'.limiters = w.limiters) : l.Roomy w' := by
  intro a b hb
  rw [bucket?_congr hl] at hb
  exact h a b hb

/-- A round draws from a bucket with room for a token. -/
theorem Roomy.bucketIn (h : l.Roomy w) : 1 ≤ (l.bucketIn host action w).capacity := by
  rw [Limiter.bucketIn]
  cases hb : l.bucket? action w with
  | some b => exact h action b hb
  | none => exact one_le_capacityOf l action

theorem Roomy.tried (h : l.Roomy w) : l.Roomy (l.tried host action w) := by
  intro a b hb
  rw [bucket?_tried] at hb
  by_cases ha : action = a
  · rw [if_pos ha] at hb
    obtain rfl := Option.some.inj hb
    rw [drawn, Bucket.capacity_take]
    exact h.bucketIn
  · rw [if_neg ha] at hb
    exact h a b hb

/-- There is room for a token in every bucket after a call, if there was before it. -/
theorem Roomy.rounds (h : l.Roomy w) {waited : ℚ} {fuel : ℕ} {r : Except (Fault ℚ) Unit}
    (he : (l.rounds host action waited fuel).Ends w r w') : l.Roomy w' := by
  have hcarries : l.Carries host action (fun _ v => l.Roomy v) (fun v => l.Roomy v) := by
    refine ⟨fun h _ => ?_, fun h _ => ?_, fun h _ => ?_⟩
    · exact h.tried.of_limiters (limiters_admitted _ _ _ _)
    · exact h.tried.of_limiters rfl
    · exact h.tried.of_limiters (World.limiters_sleptBy _ host _)
  exact (hcarries.rounds h he).2

/-- However a limiter is used, there is room for a token in all its buckets. -/
theorem Roomy.serves {actions : List String} (hr : l.Roomy w) (h : l.Serves host w actions w') :
    l.Roomy w' := by
  induction h with
  | nil => exact hr
  | acquire _ he ih => exact ih.rounds he
  | advance _ _ ih => exact ih.of_limiters rfl

/-! ### Two rounds -/

/-- The next draw finds the bucket that the one before it left. -/
theorem bucketIn_sleptBy (delay : ℚ) (w : World ℚ ω) :
    l.bucketIn host action ((l.tried host action w).sleptBy host delay) =
      (l.drawn host action w).2 := by
  rw [bucketIn, bucket?_congr (World.limiters_sleptBy _ host delay), bucket?_tried, if_pos rfl,
    Option.getD_some]

/-- If sleeps last as long as they were asked to, a call is not held up by a second one. -/
theorem HeldUp.length_le (ht : host.Thorough) (hc : 1 ≤ (l.bucketIn host action w).capacity)
    (h : HeldUp host l action waited w slept w') : slept.length ≤ 1 := by
  cases h with
  | nil => exact Nat.zero_le 1
  | @cons _ delay _ _ _ hr hv rest =>
    rcases rest with _ | ⟨hr', hv', _⟩
    · exact le_rfl
    -- the second draw is not refused, or there is no wait left
    exfalso
    obtain ⟨-, hpos, -, hwait | hspent⟩ := drawn_of_sleep hv
    · have htime : l.instant host action w + delay ≤
          l.instant host action ((l.tried host action w).sleptBy host delay) :=
        (add_le_add_left (instant_le_reading ht.forward action w) delay).trans
          ((ht.sleep hpos.le _).trans (reading_le_instant ht.forward action _))
      have htaken :
          (l.drawn host action ((l.tried host action w).sleptBy host delay)).1 = .taken := by
        rw [drawn, bucketIn_sleptBy]
        exact Bucket.take_of_waited hc hwait htime
      rw [htaken] at hr'
      cases hr'
    · have hpos' := zero_lt_delay hv'
      have hle := add_le_maxWait hv'
      linarith

/-- **Two rounds** are enough: a call is held up once at most, and let through. -/
theorem exists_released (ht : host.Thorough) (hc : 1 ≤ (l.bucketIn host action w).capacity)
    (waited : ℚ) :
    ∃ slept w₁ w', HeldUp host l action waited w slept w₁ ∧
      Released host l action (waited + slept.sum) w₁ w' := by
  rcases released_or_sleeps host l action waited w with ⟨w', hlast⟩ | ⟨delay, hv⟩
  · refine ⟨[], w, w', .nil waited w, ?_⟩
    rwa [List.sum_nil, add_zero]
  have hr := (drawn_of_sleep hv).1
  rcases released_or_sleeps host l action (waited + delay)
    ((l.tried host action w).sleptBy host delay) with ⟨w', hlast⟩ | ⟨delay', hv'⟩
  · refine ⟨[delay], _, w', .cons hr hv (.nil _ _), ?_⟩
    rwa [List.sum_singleton]
  · have htwice := HeldUp.cons hr hv (.cons (drawn_of_sleep hv').1 hv' (.nil _ _))
    exact absurd (htwice.length_le ht hc) (Nat.not_succ_le_self 1)

/-- A limiter that may not wait at all makes no call wait. -/
theorem exists_acquire_ends_of_maxWait (hp : 0 < host.patience) (hw : l.maxWait ≤ 0)
    (w : World ℚ ω) :
    ∃ w', (l.acquire host action).Ends w (.ok ()) w' ∧ w'.sleeps = w.sleeps := by
  rcases released_or_sleeps host l action 0 w with ⟨w', hlast⟩ | ⟨delay, hv⟩
  · exact ⟨w', acquire_ends_iff.mpr ⟨rfl, [], w, hp, .nil 0 w, hlast⟩, hlast.sleeps⟩
  · have hpos := zero_lt_delay hv
    have hle := add_le_maxWait hv
    rw [zero_add] at hle
    exact absurd (hpos.trans_le (hle.trans hw)) (lt_irrefl 0)

/-- **Every call is let through**, with no call made, and with room for a token left in every
bucket. -/
theorem exists_acquire_ends (ht : host.Thorough) (hp : 2 ≤ host.patience) (h : l.Roomy w)
    (action : String) :
    ∃ w', (l.acquire host action).Ends w (.ok ()) w' ∧ l.Roomy w' ∧ w'.calls = w.calls := by
  have hc : 1 ≤ (l.bucketIn host action w).capacity := h.bucketIn
  obtain ⟨slept, w₁, w', hheld, hlast⟩ := exists_released ht hc 0
  rw [zero_add] at hlast
  have hpatience := Nat.lt_of_le_of_lt (hheld.length_le ht hc) hp
  have he := acquire_ends_iff.mpr ⟨rfl, slept, w₁, hpatience, hheld, hlast⟩
  have hnothing : host.Leaves fun _ => () := ⟨fun _ => rfl, fun _ _ => rfl⟩
  exact ⟨w', he, h.rounds he, (acquire_leaves hnothing he).2.2⟩

end Limiter

end Settle
