import Settle.Proofs.Bucket.Prospect

/-!
# The potential of a token bucket

Read the tokens of a bucket as a potential: every token that is taken was there, and tokens
come in at the rate of the bucket only. So for every instant `s`, the tokens taken from `s` on
and those still there are at most a full bucket and what has come in since `s`. `Bucket.Sound`
states this of the instants at which tokens were taken; `Sound.full`, `Sound.refill` and
`Sound.take` say that it holds of a new bucket and survives the two things that happen to one.

Main statement: `Sound.window`, by which taking a token keeps every window within the budget.
-/

namespace Settle

/-- The number of instants in a window. -/
def within (s t : ℚ) (instants : List ℚ) : ℕ := instants.countP fun x => s ≤ x ∧ x ≤ t

/-- What a window can let through: a full bucket, and what comes in meanwhile. -/
def budget (rate capacity s t : ℚ) : ℚ := capacity + max rate 0 * (t - s)

theorem budget_mono (rate capacity s : ℚ) {t t' : ℚ} (h : t ≤ t') :
    budget rate capacity s t ≤ budget rate capacity s t' := by
  unfold budget
  have := mul_le_mul_of_nonneg_left (sub_le_sub_right h s) (le_max_right rate 0)
  linarith

/-- A budget grows by what comes in. -/
theorem budget_add (rate capacity s t t' : ℚ) :
    budget rate capacity s t + max rate 0 * (t' - t) = budget rate capacity s t' := by
  unfold budget
  ring

theorem capacity_le_budget (rate capacity : ℚ) {s t : ℚ} (h : s ≤ t) :
    capacity ≤ budget rate capacity s t := by
  rw [budget]
  have := mul_nonneg (le_max_right rate 0) (sub_nonneg.mpr h)
  linarith

theorem within_append (s t : ℚ) (xs ys : List ℚ) :
    within s t (xs ++ ys) = within s t xs + within s t ys := List.countP_append

theorem within_mono {s t t' : ℚ} (h : t ≤ t') (xs : List ℚ) : within s t xs ≤ within s t' xs := by
  refine List.countP_mono_left fun x _ hx => ?_
  rw [decide_eq_true_iff] at hx ⊢
  exact ⟨hx.1, hx.2.trans h⟩

theorem within_singleton_of_mem {s t x : ℚ} (hs : s ≤ x) (ht : x ≤ t) : within s t [x] = 1 := by
  rw [within, List.countP_singleton, if_pos (decide_eq_true ⟨hs, ht⟩)]

theorem within_singleton_of_lt {s t x : ℚ} (h : t < x) : within s t [x] = 0 := by
  rw [within]
  rw [List.countP_singleton, if_neg fun hx => absurd (of_decide_eq_true hx).2 (not_le.mpr h)]

/-- A window has nothing beyond the last instant. -/
theorem within_le_of_le {s t u : ℚ} {xs : List ℚ} (h : ∀ x ∈ xs, x ≤ u) :
    within s t xs ≤ within s u xs := by
  refine List.countP_mono_left fun x hx hd => ?_
  rw [decide_eq_true_iff] at hd ⊢
  exact ⟨hd.1, h x hx⟩

theorem within_eq_zero {s t u : ℚ} {xs : List ℚ} (h : ∀ x ∈ xs, x ≤ u) (hs : u < s) :
    within s t xs = 0 := by
  refine List.countP_eq_zero.mpr fun x hx hd => ?_
  have := (of_decide_eq_true hd).1
  have := h x hx
  linarith

namespace Bucket

/-- A bucket of the rate and capacity accounts for the tokens taken at these instants. -/
structure Sound (rate capacity : ℚ) (taken : List ℚ) (b : Bucket ℚ) : Prop where
  rate_eq : b.rate = rate
  capacity_eq : b.capacity = capacity
  tokens_le : b.tokens ≤ capacity
  taken_le : ∀ x ∈ taken, x ≤ b.updated
  potential : ∀ s ≤ b.updated,
    (within s b.updated taken : ℚ) + b.tokens ≤ budget rate capacity s b.updated

variable {rate capacity : ℚ} {taken : List ℚ} {b : Bucket ℚ}

/-- A new bucket is full, and nothing has been taken from it. -/
theorem Sound.full (rate capacity now : ℚ) :
    Sound rate capacity [] (Bucket.full rate capacity now) where
  rate_eq := rfl
  capacity_eq := rfl
  tokens_le := le_rfl
  taken_le := nofun
  potential s hs := by
    change ((0 : ℕ) : ℚ) + capacity ≤ _
    rw [Nat.cast_zero, zero_add]
    exact capacity_le_budget rate capacity hs

/-- Refilling adds what came in, and never more than fits. -/
theorem tokens_refill_le (hs : b.Sound rate capacity taken) (now : ℚ) :
    (b.refill now).tokens ≤ capacity ∧
      (b.refill now).tokens ≤ b.tokens + max rate 0 * (now - b.updated) := by
  rcases lt_or_ge 0 rate with hr | hr
  · have hrate : 0 < b.rate := hs.rate_eq ▸ hr
    rw [tokens_refill_of_pos hrate, hs.rate_eq, hs.capacity_eq, max_eq_left hr.le, mul_comm rate]
    exact ⟨min_le_left _ _, min_le_right _ _⟩
  · have hrate : b.rate ≤ 0 := hs.rate_eq ▸ hr
    rw [tokens_refill_of_nonpos hrate, max_eq_right hr, zero_mul, add_zero]
    exact ⟨hs.tokens_le, le_rfl⟩

/-- A bucket stays sound when it is refilled later. -/
theorem Sound.refill (hs : b.Sound rate capacity taken) {now : ℚ} (hnow : b.updated ≤ now) :
    (b.refill now).Sound rate capacity taken where
  rate_eq := hs.rate_eq
  capacity_eq := hs.capacity_eq
  tokens_le := (tokens_refill_le hs now).1
  taken_le x hx := (hs.taken_le x hx).trans hnow
  potential s hlt := by
    rw [updated_refill] at hlt ⊢
    obtain ⟨hcapacity, htokens⟩ := tokens_refill_le hs now
    by_cases h : s ≤ b.updated
    · -- the tokens there and those that came in since the last refill
      have hp := hs.potential s h
      have hsame : within s now taken = within s b.updated taken :=
        le_antisymm (within_le_of_le hs.taken_le) (within_mono hnow taken)
      rw [hsame, ← budget_add rate capacity s b.updated now]
      linarith
    · -- nothing was taken since `s`, and what is there fits
      rw [within_eq_zero hs.taken_le (not_le.mp h), Nat.cast_zero, zero_add]
      exact hcapacity.trans (capacity_le_budget rate capacity hlt)

/-- A bucket stays sound when a token is taken just after a refill. -/
theorem Sound.take (hs : b.Sound rate capacity taken) :
    Sound rate capacity (taken ++ [b.updated]) { b with tokens := b.tokens - 1 } where
  rate_eq := hs.rate_eq
  capacity_eq := hs.capacity_eq
  tokens_le := (sub_le_self b.tokens zero_le_one).trans hs.tokens_le
  taken_le x hx := by
    rcases List.mem_append.mp hx with h | h
    · exact hs.taken_le x h
    · rw [List.mem_singleton.mp h]
  potential s hlt := by
    have hp := hs.potential s hlt
    change ((within s b.updated (taken ++ [b.updated]) : ℕ) : ℚ) + (b.tokens - 1) ≤
      budget rate capacity s b.updated
    rw [within_append, within_singleton_of_mem hlt le_rfl]
    push_cast
    linarith

/-- **A token that is there keeps every window within the budget**, if all windows were. -/
theorem Sound.window (hs : b.Sound rate capacity taken) (ht : 1 ≤ b.tokens)
    (hw : ∀ s t, s ≤ t → (within s t taken : ℚ) ≤ budget rate capacity s t) {s t : ℚ}
    (hst : s ≤ t) : (within s t (taken ++ [b.updated]) : ℚ) ≤ budget rate capacity s t := by
  have hafter := hs.take
  -- the window ends before the last token, holds it, or begins after it
  by_cases hlt : t < b.updated
  · rw [within_append, within_singleton_of_lt hlt, Nat.add_zero]
    exact hw s t hst
  · by_cases hsu : s ≤ b.updated
    · -- the window holds the last token, so the potential counts all that is in it
      have hp : (within s b.updated (taken ++ [b.updated]) : ℚ) + (b.tokens - 1) ≤
          budget rate capacity s b.updated := hafter.potential s hsu
      have hle : (within s t (taken ++ [b.updated]) : ℚ) ≤
          within s b.updated (taken ++ [b.updated]) :=
        Nat.cast_le.mpr (within_le_of_le hafter.taken_le)
      have hb := budget_mono rate capacity s (not_lt.mp hlt)
      linarith
    · rw [within_eq_zero hafter.taken_le (not_le.mp hsu), Nat.cast_zero]
      have hcapacity := hs.tokens_le.trans (capacity_le_budget rate capacity hst)
      linarith

end Bucket

end Settle
