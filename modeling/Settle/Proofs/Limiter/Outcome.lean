import Settle.Proofs.Limiter.Wait

/-!
# What comes of a call

A call of `Limiter.acquire` that is held up for a while draws from its bucket again and again, but
nothing that happens to the bucket in between shows in the end (`HeldUp.refill_bucketIn`): it is
refilled up to the instant of the last draw, and that draw either takes one token or none
(`Released.outcome`).

Main statement: `acquire_outcome`.
-/

namespace Settle

open Quantity

variable {ω : Type}

/-- The warning that an entry reports, if it does. -/
def Entry.warning? {τ : Type} : Entry τ → Option (Event τ)
  | .logged e => if e.level = .warning then some e else none
  | _ => none

/-- The warnings reported, in order. -/
def World.warnings {τ : Type} (w : World τ ω) : List (Event τ) := w.seen Entry.warning?

theorem Host.punctual_exact (patience : ℕ) : (Host.punctual patience : Host ℚ ℚ).Exact where
  read _ := rfl
  sleep _ _ := rfl

namespace Limiter

variable {host : Host ℚ ω} {l : Limiter ℚ} {action : String} {waited : ℚ} {slept : List ℚ}
  {w w' : World ℚ ω}

/-! ### While a call is held up -/

/-- A call that is held up gives no warning. -/
theorem HeldUp.warnings (h : HeldUp host l action waited w slept w') :
    w'.warnings = w.warnings := by
  induction h with
  | nil => rfl
  | cons _ _ _ ih =>
    rw [ih, World.warnings, World.seen_sleptBy, seen_tried]
    exact List.append_nil _

/-- A refused draw only refills. -/
theorem drawn_snd_of_isRefusal (hr : (l.drawn host action w).1.IsRefusal) :
    (l.drawn host action w).2 = (l.bucketIn host action w).refill (l.instant host action w) := by
  rcases drawn_cases host l action w with ⟨-, hd⟩ | ⟨-, hd⟩
  · rw [hd] at hr
    cases hr
  · exact hd

section Forward

variable (hf : host.Forward)
include hf

theorem instant_le_reading_sleptBy {delay : ℚ} (hd : 0 ≤ delay) :
    l.instant host action w ≤
      host.reading ((l.tried host action w).sleptBy host delay).outside :=
  (instant_le_reading hf action w).trans (hf.sleep hd _)

theorem HeldUp.reading_le (h : HeldUp host l action waited w slept w') :
    host.reading w.outside ≤ host.reading w'.outside := by
  induction h with
  | nil => exact le_rfl
  | cons hr hv _ ih =>
    exact (reading_le_instant hf action _).trans
      ((instant_le_reading_sleptBy hf (zero_lt_delay hv).le).trans ih)

/-- **What goes on in the bucket meanwhile does not show** in it later on. -/
theorem HeldUp.refill_bucketIn (h : HeldUp host l action waited w slept w') {t : ℚ}
    (ht : host.reading w'.outside ≤ t) :
    (l.bucketIn host action w').refill t = (l.bucketIn host action w).refill t := by
  induction h with
  | nil => rfl
  | cons hr hv rest ih =>
    rw [ih ht, bucketIn_sleptBy, drawn_snd_of_isRefusal hr, Bucket.refill_refill]
    exact (instant_le_reading_sleptBy hf (zero_lt_delay hv).le).trans
      ((rest.reading_le hf).trans ht)

end Forward

theorem instant_eq_reading (hx : host.Exact) (w : World ℚ ω) :
    l.instant host action w = host.reading w.outside := by
  rw [instant, opened]
  cases l.bucket? action w with
  | some b => rfl
  | none => exact hx.read w.outside

/-! ### The outcome -/

/-- A call took a token: there was one in the bucket `b`, which has lost just this one, and there
was no warning. -/
structure Admits (l : Limiter ℚ) (action : String) (b : Bucket ℚ) (w w' : World ℚ ω) : Prop where
  one_le : 1 ≤ b.tokens
  bucket : l.bucket? action w' = some { b with tokens := b.tokens - 1 }
  warnings : w'.warnings = w.warnings

/-- A call was let through without a token: there was none in the bucket `b`, which is left as it
is. The sleeps made up the longest wait, and there was one warning, which says so. -/
structure FailsOpen (l : Limiter ℚ) (action : String) (b : Bucket ℚ) (slept : List ℚ)
    (w w' : World ℚ ω) : Prop where
  lt_one : b.tokens < 1
  bucket : l.bucket? action w' = some b
  warnings : w'.warnings = w.warnings ++ [.limiterOpened action slept.sum l.maxWait]
  sum_eq : slept.sum = max l.maxWait 0

theorem Admits.not_failsOpen {b b' : Bucket ℚ} (h : l.Admits action b w w') :
    ¬ l.FailsOpen action b' slept w w' := by
  intro h'
  have hwarnings := h.warnings.symm.trans h'.warnings
  exact absurd (List.self_eq_append_right.mp hwarnings) (List.cons_ne_nil _ _)

/-- The last round leaves the bucket refilled up to its instant, less the token that it took. -/
theorem Released.outcome (h : Released host l action waited w w')
    {b : Bucket ℚ} (hb : (l.bucketIn host action w).refill (l.instant host action w) = b) :
    l.Admits action b w w' ∨
      (b.tokens < 1 ∧ l.bucket? action w' = some b ∧ l.maxWait ≤ waited ∧
        w'.warnings = w.warnings ++ [.limiterOpened action waited l.maxWait]) := by
  have hbucket : l.bucket? action (l.tried host action w) = some (l.drawn host action w).2 := by
    rw [bucket?_tried, if_pos rfl]
  have htaken : (l.drawn host action w).1 = .taken ↔ 1 ≤ b.tokens := by
    rw [← hb]
    exact Bucket.take_eq_taken_iff
  rcases h with h | ⟨h, hspent⟩
  · have hleft : (l.drawn host action w).2 = { b with tokens := b.tokens - 1 } := by
      rcases drawn_cases host l action w with ⟨-, hd⟩ | ⟨hr, -⟩
      · rw [hd, hb]
      · rw [h] at hr
        cases hr
    refine .inl ⟨htaken.mp h, ?_, ?_⟩
    · rw [bucket?_congr (limiters_admitted _ _ _ _), hbucket, hleft]
    · rw [World.warnings, seen_admitted fun _ => rfl, seen_tried]
      exact List.append_nil _
  · refine .inr ⟨?_, ?_, hspent, ?_⟩
    · rw [← not_le, ← htaken]
      intro ht
      rw [ht] at h
      cases h
    · rw [← hb, ← drawn_snd_of_isRefusal h]
      exact hbucket
    · rw [World.warnings, seen_failedOpen, seen_tried]
      exact List.append_nil _

/-- A call that was held up and then let through took a token, or it failed open. -/
theorem HeldUp.admits_or_failsOpen (hf : host.Forward) {w₁ : World ℚ ω}
    (h : HeldUp host l action 0 w slept w₁) (hlast : Released host l action slept.sum w₁ w') :
    l.Admits action ((l.bucketIn host action w).refill (l.instant host action w₁)) w w' ∨
      l.FailsOpen action ((l.bucketIn host action w).refill (l.instant host action w₁)) slept
        w w' := by
  have hb : (l.bucketIn host action w₁).refill (l.instant host action w₁) =
      (l.bucketIn host action w).refill (l.instant host action w₁) :=
    h.refill_bucketIn hf (reading_le_instant hf action w₁)
  rcases hlast.outcome hb with hpaid | ⟨hlack, hbucket, hspent, hwarning⟩
  · exact .inl ⟨hpaid.one_le, hpaid.bucket, hpaid.warnings.trans h.warnings⟩
  · have hle := h.sum_le
    rw [zero_add] at hle
    have hsum : 0 ≤ slept.sum := List.sum_nonneg fun d hd => (h.forall_pos d hd).le
    refine .inr ⟨hlack, hbucket, ?_, le_antisymm hle (max_le hspent hsum)⟩
    rw [hwarning, h.warnings]

/-- In exact time the last draw finds a token just if there was one to begin with or one comes in
within the longest wait. -/
theorem HeldUp.one_le_tokens_iff (hx : host.Exact)
    (hc : 1 ≤ (l.bucketIn host action w).capacity) {w₁ : World ℚ ω}
    (h : HeldUp host l action 0 w slept w₁) (hlast : Released host l action slept.sum w₁ w')
    {b : Bucket ℚ} (hb : (l.bucketIn host action w).refill (host.reading w.outside) = b) :
    1 ≤ ((l.bucketIn host action w).refill (l.instant host action w₁)).tokens ↔
      1 ≤ b.tokens ∨ (0 < b.rate ∧ (1 - b.tokens) / b.rate ≤ l.maxWait) := by
  subst hb
  set b := (l.bucketIn host action w).refill (host.reading w.outside)
  have hforward := hx.thorough.forward
  have hsum : 0 ≤ slept.sum := List.sum_nonneg fun d hd => (h.forall_pos d hd).le
  have hnow : l.instant host action w₁ = host.reading w.outside + slept.sum :=
    (instant_eq_reading hx w₁).trans (h.reading_eq hx)
  have hheld : 1 ≤ ((l.bucketIn host action w).refill (l.instant host action w₁)).tokens ↔
      1 ≤ b.tokens ∨ (0 < b.rate ∧ (1 - b.tokens) / b.rate ≤ slept.sum) := by
    rw [Bucket.le_tokens_refill_iff_of_le (hnow ▸ le_add_of_nonneg_right hsum) hc, hnow,
      add_sub_cancel_left]
    rfl
  constructor
  · intro htokens
    rcases hheld.mp htokens with hb | ⟨hrate, hwait⟩
    · exact .inl hb
    by_cases hb : 1 ≤ b.tokens
    · exact .inl hb
    -- there was some time to wait, so the longest wait is not nothing
    have hpos : 0 < (1 - b.tokens) / b.rate := div_pos (sub_pos.mpr (not_le.mp hb)) hrate
    have hle := h.sum_le
    rw [zero_add] at hle
    exact .inr ⟨hrate, (le_max_iff.mp (hwait.trans hle)).resolve_right (not_le.mpr hpos)⟩
  · intro hprospect
    rcases h.admits_or_failsOpen hforward hlast with hpaid | hpassed
    · exact hpaid.one_le
    · refine hheld.mpr (hprospect.imp_right fun ⟨hrate, hwait⟩ => ⟨hrate, hwait.trans ?_⟩)
      rw [hpassed.sum_eq]
      exact le_max_left _ _

/-- **The outcome of a call**, with a clock that never goes back. Each of its sleeps takes some
time, and all together no longer than the longest wait. Either it takes one token and nothing is
amiss, or it takes none, after all of the longest wait, and says so.

The buckets that a limiter makes have room for a token (`Roomy.serves`). If so, and if sleeps last
as long as they were asked to, then a call does end, after one sleep at most; and if they last just
as long, then it takes a token just if there was one to begin with or one comes in within the
longest wait. -/
theorem acquire_outcome (hf : host.Forward) (l : Limiter ℚ) (action : String) (w : World ℚ ω) :
    (∀ r w', (l.acquire host action).Ends w r w' →
      ∃ slept now, r = .ok () ∧ w'.sleeps = w.sleeps ++ slept ∧ (∀ d ∈ slept, 0 < d) ∧
        slept.sum ≤ max l.maxWait 0 ∧
        host.reading w.outside ≤ now ∧ now ≤ host.reading w'.outside ∧
        let b := (l.bucketIn host action w).refill now
        (l.Admits action b w w' ∨ l.FailsOpen action b slept w w') ∧
          ¬ (l.Admits action b w w' ∧ l.FailsOpen action b slept w w') ∧
          (1 ≤ b.capacity → host.Exact →
            let b₀ := (l.bucketIn host action w).refill (host.reading w.outside)
            (l.Admits action b w w' ↔
              1 ≤ b₀.tokens ∨ (0 < b₀.rate ∧ (1 - b₀.tokens) / b₀.rate ≤ l.maxWait)))) ∧
    (1 ≤ (l.bucketIn host action w).capacity → host.Thorough → 2 ≤ host.patience →
      ∃ w' slept, (l.acquire host action).Ends w (.ok ()) w' ∧
        w'.sleeps = w.sleeps ++ slept ∧ slept.length ≤ 1) := by
  refine ⟨fun r w' he => ?_, fun hc ht hp => ?_⟩
  · obtain ⟨rfl, slept, w₁, -, hheld, hlast⟩ := acquire_ends_iff.mp he
    have houtcome := hheld.admits_or_failsOpen hf hlast
    have hle := hheld.sum_le
    rw [zero_add] at hle
    refine ⟨slept, l.instant host action w₁, rfl, ?_, hheld.forall_pos, hle, ?_, ?_, houtcome,
      fun h => h.1.not_failsOpen h.2, fun hc hx => ?_⟩
    · rw [hlast.sleeps, hheld.sleeps]
    · exact (hheld.reading_le hf).trans (reading_le_instant hf action w₁)
    · rw [hlast.outside]
      exact instant_le_reading hf action w₁
    · intro b₀
      rw [← hheld.one_le_tokens_iff hx hc hlast rfl]
      refine ⟨Admits.one_le, fun htokens => ?_⟩
      exact houtcome.resolve_right fun h => not_lt.mpr htokens h.lt_one
  · obtain ⟨slept, w₁, w', hheld, hlast⟩ := exists_released ht hc 0
    rw [zero_add] at hlast
    have honce := hheld.length_le ht hc
    refine ⟨w', slept, ?_, ?_, honce⟩
    · exact acquire_ends_iff.mpr ⟨rfl, slept, w₁, Nat.lt_of_le_of_lt honce hp, hheld, hlast⟩
    · rw [hlast.sleeps, hheld.sleeps]

/-- The one token that there is room for is gone, and will be back in a second. With no more than
half a second to wait, a call sleeps for that long and fails open. -/
theorem acquire_outcome_spent :
    let l : Limiter ℚ := { (standard 0 : Limiter ℚ) with maxWait := 1 / 2 }
    let w : World ℚ ℚ := { outside := 0, limiters := [(0, [("action", ⟨1, 1, 0, 0⟩)])] }
    ∃ w', (l.acquire (Host.punctual 2) "action").Ends w (.ok ()) w' ∧ w'.sleeps = [1 / 2] ∧
      w'.warnings = [.limiterOpened "action" (1 / 2) (1 / 2)] := by
  intro l w
  have hx := Host.punctual_exact 2
  have hb : l.bucketIn (Host.punctual 2) "action" w = ⟨1, 1, 0, 0⟩ := rfl
  have htokens : ((l.bucketIn (Host.punctual 2) "action" w).refill 0).tokens = 0 := by
    rw [hb, Bucket.tokens_refill_of_pos zero_lt_one]
    norm_num
  obtain ⟨hended, hends⟩ := acquire_outcome hx.thorough.forward l "action" w
  obtain ⟨w', slept, he, hs, honce⟩ := hends (hb ▸ le_rfl) hx.thorough le_rfl
  obtain ⟨slept', now, -, hs', -, -, -, -, houtcome, -, hadmits⟩ := hended _ w' he
  obtain rfl := List.append_cancel_left (hs'.symm.trans hs)
  -- a token would take a second to come in
  have hpassed := houtcome.resolve_left fun hpaid => by
    have hprospect := (hadmits (hb ▸ le_rfl) hx).mp hpaid
    have hrate : (l.bucketIn (Host.punctual 2) "action" w).rate = 1 := rfl
    have hreading : (Host.punctual 2).reading w.outside = 0 := rfl
    rw [hreading, htokens, Bucket.rate_refill, hrate] at hprospect
    norm_num [l] at hprospect
  have hsum : slept'.sum = 1 / 2 := hpassed.sum_eq.trans (max_eq_left (by norm_num))
  have hsleeps : slept' = [1 / 2] := by
    rcases slept' with _ | ⟨d, _ | ⟨d', rest⟩⟩
    · norm_num at hsum
    · rw [List.sum_singleton] at hsum
      rw [hsum]
    · exact absurd (Nat.le_of_succ_le_succ honce) (Nat.not_succ_le_zero _)
  have hwarnings := hpassed.warnings
  rw [hsum] at hwarnings
  exact ⟨w', he, hs.trans (hsleeps ▸ rfl), hwarnings⟩

end Limiter

end Settle
