import Settle.Bucket
import Settle.Proofs.Exact

/-!
# The prospect of a refused take

A take that is refused says how long to wait. What this is worth depends on what the bucket can
come to hold: refills are cut off at the capacity, and the wait is computed as if they were not.

* Refills compose: one in between makes no difference (`refill_refill`), so neither does a refused
  take (`refill_take_of_ne_taken`). `Untouched` is what can become of a bucket while nobody takes
  tokens from it.
* `le_tokens_refill_iff` says when a bucket with a positive rate holds `n` tokens again: after
  `(n - tokens) / rate`, if so many fit.

Main statement: `take_again_iff`. No take of the amount that was refused succeeds before the wait is
over, and every later one does, if the bucket has room for the amount; there is no prospect just
where the rate is not positive. A take of more than the capacity is told a time to wait all the
same, and that time never comes (`wait_above_capacity`).
-/

namespace Settle.Bucket

open Quantity

variable {b b' : Bucket ℚ} {now s t n wait : ℚ}

/-! ### Refills -/

theorem tokens_refill_of_pos (h : 0 < b.rate) (now : ℚ) :
    (b.refill now).tokens = min b.capacity (b.tokens + (now - b.updated) * b.rate) := by
  rw [refill, least_rat]
  exact if_pos h

/-- Nothing comes in at a rate that is not positive. -/
theorem tokens_refill_of_nonpos (h : b.rate ≤ 0) (now : ℚ) :
    (b.refill now).tokens = b.tokens := by
  rw [refill]
  exact if_neg (not_lt.mpr h)

/-- Buckets that were refilled at one instant differ in their tokens at most. -/
theorem refill_congr (hr : b'.rate = b.rate) (hc : b'.capacity = b.capacity)
    (ht : (b'.refill now).tokens = (b.refill now).tokens) : b'.refill now = b.refill now := by
  have h (b : Bucket ℚ) :
      b.refill now = ⟨b.rate, b.capacity, (b.refill now).tokens, now⟩ := rfl
  rw [h b', h b, hr, hc, ht]

/-- **Refills compose.** -/
theorem refill_refill (b : Bucket ℚ) (h : s ≤ t) : (b.refill s).refill t = b.refill t := by
  refine refill_congr rfl rfl ?_
  rcases lt_or_ge 0 b.rate with hr | hr
  · have hin : 0 ≤ (t - s) * b.rate := mul_nonneg (sub_nonneg.mpr h) hr.le
    have hsum : b.tokens + (s - b.updated) * b.rate + (t - s) * b.rate =
        b.tokens + (t - b.updated) * b.rate := by ring
    have hrate : 0 < (b.refill s).rate := hr
    rw [tokens_refill_of_pos hrate, tokens_refill_of_pos hr, capacity_refill, updated_refill,
      rate_refill, tokens_refill_of_pos hr, ← min_add_add_right, hsum, ← min_assoc,
      min_eq_left (le_add_of_nonneg_right hin)]
  · have hrate : (b.refill s).rate ≤ 0 := hr
    rw [tokens_refill_of_nonpos hrate, tokens_refill_of_nonpos hr, tokens_refill_of_nonpos hr]

/-- When a bucket holds `n` tokens. -/
theorem le_tokens_refill_iff (hr : 0 < b.rate) :
    n ≤ (b.refill t).tokens ↔ b.updated + (n - b.tokens) / b.rate ≤ t ∧ n ≤ b.capacity := by
  have hin : n ≤ b.tokens + (t - b.updated) * b.rate ↔
      b.updated + (n - b.tokens) / b.rate ≤ t := by
    rw [← sub_le_iff_le_add', ← div_le_iff₀ hr, le_sub_iff_add_le']
  rw [tokens_refill_of_pos hr, le_min_iff, hin, and_comm]

/-- When a bucket with room for `n` tokens holds them, by what it held at an earlier instant. -/
theorem le_tokens_refill_iff_of_le (hst : s ≤ t) (hc : n ≤ b.capacity) :
    n ≤ (b.refill t).tokens ↔ n ≤ (b.refill s).tokens ∨
      (0 < b.rate ∧ (n - (b.refill s).tokens) / b.rate ≤ t - s) := by
  rw [← refill_refill b hst]
  rcases lt_or_ge 0 b.rate with hr | hr
  · have hrate : 0 < (b.refill s).rate := hr
    have hroom : n ≤ (b.refill s).capacity := hc
    rw [le_tokens_refill_iff hrate, and_iff_left hroom, updated_refill, rate_refill,
      ← le_sub_iff_add_le', and_iff_right hr, or_iff_right_of_imp]
    intro hheld
    exact (div_nonpos_of_nonpos_of_nonneg (sub_nonpos.mpr hheld) hr.le).trans
      (sub_nonneg.mpr hst)
  · have hrate : (b.refill s).rate ≤ 0 := hr
    rw [tokens_refill_of_nonpos hrate, or_iff_left fun h => absurd h.1 (not_lt.mpr hr)]

/-! ### Takes -/

theorem take_eq_taken_iff : (b.take now n).1 = .taken ↔ n ≤ (b.refill now).tokens := by
  by_cases h : n ≤ (b.refill now).tokens
  · rw [take_of_le h]
    exact iff_of_true rfl h
  · rw [take_of_not_le h, prospect]
    refine iff_of_false ?_ h
    split_ifs <;> exact nofun

/-- A refused take leaves the refilled bucket. -/
theorem take_snd_of_ne_taken (h : (b.take now n).1 ≠ .taken) : (b.take now n).2 = b.refill now := by
  rw [take_of_not_le (mt take_eq_taken_iff.mpr h)]

/-- **A refused take makes no difference** to what the bucket is refilled to. -/
theorem refill_take_of_ne_taken (h : (b.take s n).1 ≠ .taken) (hst : s ≤ t) :
    (b.take s n).2.refill t = b.refill t := by
  rw [take_snd_of_ne_taken h, refill_refill b hst]

/-- There is no prospect of tokens where none come in. -/
theorem take_fst_of_nonpos (hr : b.rate ≤ 0) (h : (b.take now n).1 ≠ .taken) :
    (b.take now n).1 = .never := by
  rw [take_of_not_le (mt take_eq_taken_iff.mpr h), prospect]
  exact if_pos hr

/-- Otherwise the wait is as long as it takes for the missing tokens to come in. -/
theorem take_fst_of_pos (hr : 0 < b.rate) (h : (b.take now n).1 ≠ .taken) :
    (b.take now n).1 = .wait ((n - (b.refill now).tokens) / b.rate) := by
  rw [take_of_not_le (mt take_eq_taken_iff.mpr h), prospect]
  exact if_neg (not_le.mpr hr)

/-- From the bucket `b` at the instant `now` it can come to the bucket `b'` at the instant `t`
without anyone taking tokens: time passes, and takes of any amount are refused. -/
inductive Untouched (b : Bucket ℚ) (now : ℚ) : Bucket ℚ → ℚ → Prop
  | start : Untouched b now b now
  | wait {b' : Bucket ℚ} {s t : ℚ} (h : Untouched b now b' s) (hle : s ≤ t) : Untouched b now b' t
  | refused {b' : Bucket ℚ} {t n : ℚ} (h : Untouched b now b' t) (hr : (b'.take t n).1 ≠ .taken) :
      Untouched b now (b'.take t n).2 t

/-- From then on the bucket is refilled as if nothing had happened meanwhile. -/
theorem Untouched.refill_eq (h : Untouched b now b' s) :
    now ≤ s ∧ ∀ t, s ≤ t → b'.refill t = b.refill t := by
  induction h with
  | start => exact ⟨le_rfl, fun _ _ => rfl⟩
  | wait _ hle ih => exact ⟨ih.1.trans hle, fun t ht => ih.2 t (hle.trans ht)⟩
  | refused _ hr ih =>
    refine ⟨ih.1, fun t ht => ?_⟩
    rw [refill_take_of_ne_taken hr ht, ih.2 t ht]

/-- A take after a refused one, with nobody taking tokens in between. -/
theorem Untouched.take_eq_taken_iff (h : Untouched (b.refill now) now b' t) :
    (b'.take t n).1 = .taken ↔ n ≤ ((b.refill now).refill t).tokens := by
  rw [Bucket.take_eq_taken_iff, h.refill_eq.2 t le_rfl]

/-- **When a refused take can be made.** A take of `n` tokens is refused, and nobody takes tokens
afterwards. If it was told to wait, there was some time to wait, and another take of `n` tokens is
refused before it is over and succeeds from then on, provided that so many tokens fit. It is told
that there is no prospect just where the rate is not positive. No later take succeeds in just two
cases: it was told so, or so many tokens do not fit. -/
theorem take_again_iff (h : (b.take now n).1 ≠ .taken) :
    (∀ wait, (b.take now n).1 = .wait wait → 0 < wait ∧
      ∀ b' t, Untouched (b.take now n).2 now b' t →
        ((b'.take t n).1 = .taken ↔ now + wait ≤ t ∧ n ≤ b.capacity)) ∧
    ((b.take now n).1 = .never ↔ b.rate ≤ 0) ∧
    ((∀ b' t, Untouched (b.take now n).2 now b' t → (b'.take t n).1 ≠ .taken) ↔
      (b.take now n).1 = .never ∨ b.capacity < n) := by
  have hlack : (b.refill now).tokens < n := not_le.mp (mt take_eq_taken_iff.mpr h)
  rw [take_snd_of_ne_taken h]
  rcases le_or_gt b.rate 0 with hr | hr
  · -- the tokens stay as they are, whatever time passes
    have hrate : (b.refill now).rate ≤ 0 := hr
    have hnone (b' : Bucket ℚ) (t : ℚ) (hu : Untouched (b.refill now) now b' t) :
        (b'.take t n).1 ≠ .taken := by
      rw [Ne, hu.take_eq_taken_iff, tokens_refill_of_nonpos hrate]
      exact not_le.mpr hlack
    rw [take_fst_of_nonpos hr h]
    exact ⟨nofun, iff_of_true rfl hr, iff_of_true hnone (.inl rfl)⟩
  · have hrate : 0 < (b.refill now).rate := hr
    have hwait : 0 < (n - (b.refill now).tokens) / b.rate := div_pos (sub_pos.mpr hlack) hr
    have hagain (b' : Bucket ℚ) (t : ℚ) (hu : Untouched (b.refill now) now b' t) :
        (b'.take t n).1 = .taken ↔
          now + (n - (b.refill now).tokens) / b.rate ≤ t ∧ n ≤ b.capacity :=
      hu.take_eq_taken_iff.trans (le_tokens_refill_iff hrate)
    rw [take_fst_of_pos hr h]
    refine ⟨?_, iff_of_false nofun (not_le.mpr hr), ?_, ?_⟩
    · intro wait hw
      obtain rfl := Grant.wait.inj hw
      exact ⟨hwait, hagain⟩
    · -- nothing but the capacity can stand in the way of a take when the wait is over
      intro hnone
      right
      have hover : Untouched (b.refill now) now (b.refill now)
          (now + (n - (b.refill now).tokens) / b.rate) :=
        .wait .start (le_add_of_nonneg_right hwait.le)
      exact not_le.mp fun hroom => hnone _ _ hover ((hagain _ _ hover).mpr ⟨le_rfl, hroom⟩)
    · rintro (hnever | hroom) b' t hu htaken
      · cases hnever
      · exact absurd ((hagain b' t hu).mp htaken).2 (not_le.mpr hroom)

/-- Two tokens of five are left. A third one is there half a second later, and not before. -/
theorem take_again_iff_half :
    ((⟨2, 5, 2, 0⟩ : Bucket ℚ).take 0 3).1 = .wait (1 / 2) ∧
      ∀ b' t, Untouched ((⟨2, 5, 2, 0⟩ : Bucket ℚ).take 0 3).2 0 b' t →
        ((b'.take t 3).1 = .taken ↔ 1 / 2 ≤ t) := by
  have htokens : ((⟨2, 5, 2, 0⟩ : Bucket ℚ).refill 0).tokens = 2 := by
    rw [tokens_refill_of_pos (by norm_num)]
    norm_num
  have hrefused : ((⟨2, 5, 2, 0⟩ : Bucket ℚ).take 0 3).1 ≠ .taken := by
    rw [Ne, take_eq_taken_iff, htokens]
    norm_num
  have hwait : ((⟨2, 5, 2, 0⟩ : Bucket ℚ).take 0 3).1 = .wait (1 / 2) := by
    rw [take_fst_of_pos (by norm_num) hrefused, htokens]
    norm_num
  refine ⟨hwait, fun b' t hu => ?_⟩
  have hagain := ((take_again_iff hrefused).1 _ hwait).2 b' t hu
  norm_num at hagain
  exact hagain

/-- A full bucket of five tokens tells a take of ten to wait for five seconds, but at no time will
there be ten tokens in it. -/
theorem wait_above_capacity :
    ((full 1 5 0 : Bucket ℚ).take 0 10).1 = .wait 5 ∧
      ∀ b' t, Untouched ((full 1 5 0 : Bucket ℚ).take 0 10).2 0 b' t →
        (b'.take t 10).1 ≠ .taken := by
  have hrate : 0 < (full 1 5 0 : Bucket ℚ).rate := zero_lt_one
  have htokens : ((full 1 5 0 : Bucket ℚ).refill 0).tokens = 5 := by
    rw [tokens_refill_of_pos hrate, full]
    norm_num
  have hrefused : ((full 1 5 0 : Bucket ℚ).take 0 10).1 ≠ .taken := by
    rw [Ne, take_eq_taken_iff, htokens]
    norm_num
  constructor
  · rw [take_fst_of_pos hrate hrefused, htokens, full]
    norm_num
  · intro b' t hu
    rw [take_snd_of_ne_taken hrefused] at hu
    have hroom : (full 1 5 0 : Bucket ℚ).capacity < 10 := by
      rw [full]
      norm_num
    have hrefilled : 0 < ((full 1 5 0 : Bucket ℚ).refill 0).rate := hrate
    rw [Ne, hu.take_eq_taken_iff, le_tokens_refill_iff hrefilled]
    exact fun h => absurd h.2 (not_le.mpr hroom)

end Settle.Bucket
