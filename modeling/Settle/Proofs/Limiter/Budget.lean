import Settle.Proofs.Limiter.Potential
import Settle.Proofs.Limiter.Rounds

/-!
# The budget of a limiter

However the calls of several actions are mixed and whenever they are made, the calls of one
action that took a token stay within its budget in every window of time: a full bucket, and
what comes in at its rate during the window. Calls that were let through without a token, when
the longest wait was used up, are not counted, and each of them was reported.

`Serves` is the use of a limiter: calls of any actions one after the other, with any time in
between. `Books` is the invariant that a use preserves for each action: the bucket accounts for
the tokens taken (`Bucket.Sound`), every window is within the budget, and the trace tells the
tokens taken and the calls let through without one. Each way on from a draw has its lemma
(`Books.refused`, `Books.slept`, `Books.paid`, `Books.passed`); `Books.rounds` puts them together
for a whole call, and `Serves.books` for a use.

Main statement: `Serves.within_budget`.
-/

namespace Settle

open Quantity

variable {ω : Type}

/-- The clock never goes back, neither when it is read nor during a sleep. -/
structure Host.Forward (host : Host ℚ ω) : Prop where
  read (o : ω) : host.reading o ≤ host.reading (host.read o).2
  sleep {time : ℚ} (h : 0 ≤ time) (o : ω) : host.reading o ≤ host.reading (host.sleep time o)

/-! ### What a trace says of an action -/

/-- The instant at which a call of the action took a token. -/
def Entry.paid? (action : String) : Entry ℚ → Option ℚ
  | .admitted a now true => if a = action then some now else none
  | _ => none

/-- The report that a call of the action was let through without a token. -/
def Entry.alarm? (action : String) : Entry ℚ → Option Unit
  | .logged (.limiterOpened a _ _) => if a = action then some () else none
  | _ => none

/-- The instants at which calls of the action took a token. -/
def World.payments (w : World ℚ ω) (action : String) : List ℚ := w.seen (Entry.paid? action)

/-- The number of reports that calls of the action were let through without a token. -/
def World.alarms (w : World ℚ ω) (action : String) : ℕ := (w.seen (Entry.alarm? action)).length

/-! ### Refusals -/

/-- A grant of no tokens, with a time to wait for them if there is a prospect. -/
inductive Grant.IsRefusal : Grant ℚ → Prop
  | wait {time : ℚ} (h : 0 < time) : IsRefusal (.wait time)
  | never : IsRefusal .never

namespace Limiter

variable {host : Host ℚ ω} {l : Limiter ℚ} {action a : String} {w : World ℚ ω}

theorem one_le_capacityOf (l : Limiter ℚ) (action : String) : 1 ≤ l.capacityOf action := by
  have h (rate : ℚ) : 1 ≤ greatest rate (ofInt 1) := by
    rw [greatest_rat, ofInt_rat]
    exact le_max_right rate 1
  rw [capacityOf]
  cases l.rates.get? action with
  | some rate => exact h rate
  | none => exact h l.defaultBurst

/-- After a refusal a call is let through once the longest wait is used up. -/
theorem verdict_of_spent (l : Limiter ℚ) {waited : ℚ} {g : Grant ℚ} (h : g.IsRefusal)
    (hw : l.maxWait ≤ waited) : l.verdict waited g = .pass := by
  have hr : l.maxWait - waited ≤ 0 := sub_nonpos.mpr hw
  cases h with
  | wait h =>
    rw [verdict_wait l waited _ (by rw [← Bool.not_eq_true, isZero_rat]; exact ne_of_gt h)]
    exact if_pos hr
  | never => exact if_pos hr

/-- Before that a call sleeps: as long as it takes for a token, or for the rest of the wait. -/
theorem exists_sleep_of_isRefusal (l : Limiter ℚ) {waited : ℚ} {g : Grant ℚ} (h : g.IsRefusal)
    (hw : waited < l.maxWait) :
    ∃ delay, l.verdict waited g = .sleep delay ∧ 0 < delay ∧ waited + delay ≤ l.maxWait ∧
      (g = .wait delay ∨ waited + delay = l.maxWait) := by
  have hpos : 0 < l.maxWait - waited := sub_pos.mpr hw
  have hr : ¬ l.maxWait - waited ≤ 0 := not_le.mpr hpos
  cases h with
  | @wait time h =>
    refine ⟨min time (l.maxWait - waited), ?_, lt_min h hpos,
      le_sub_iff_add_le'.mp (min_le_right _ _), ?_⟩
    · rw [verdict_wait l waited _ (by rw [← Bool.not_eq_true, isZero_rat]; exact ne_of_gt h),
        least_rat]
      exact if_neg hr
    · rcases min_choice time (l.maxWait - waited) with hmin | hmin
      · left
        rw [hmin]
      · right
        rw [hmin, add_sub_cancel]
  | never =>
    have hall : waited + (l.maxWait - waited) = l.maxWait := add_sub_cancel _ _
    exact ⟨l.maxWait - waited, if_neg hr, hpos, hall.le, .inr hall⟩

/-- A draw takes a token that is there, or is refused and only refills. -/
theorem drawn_cases (host : Host ℚ ω) (l : Limiter ℚ) (action : String) (w : World ℚ ω) :
    let b := (l.bucketIn host action w).refill (l.instant host action w)
    (1 ≤ b.tokens ∧ l.drawn host action w = (.taken, { b with tokens := b.tokens - 1 })) ∨
      ((l.drawn host action w).1.IsRefusal ∧ (l.drawn host action w).2 = b) := by
  intro b
  by_cases h : 1 ≤ b.tokens
  · exact .inl ⟨h, Bucket.take_of_le h⟩
  · have hdrawn : l.drawn host action w = (b.prospect 1, b) := Bucket.take_of_not_le h
    refine .inr ⟨?_, by rw [hdrawn]⟩
    rw [hdrawn, Bucket.prospect]
    split
    · exact .never
    · next hr =>
      exact .wait (div_pos (sub_pos.mpr (not_le.mp h)) (not_le.mp hr))

/-! ### What a round comes to -/

/-- **A round** lets the call through with a token, or once the longest wait is used up, or there
is a sleep after it. -/
theorem verdict_cases (host : Host ℚ ω) (l : Limiter ℚ) (action : String) (waited : ℚ)
    (w : World ℚ ω) :
    let g := (l.drawn host action w).1
    (g = .taken ∧ l.verdict waited g = .allow true) ∨
      (g.IsRefusal ∧ l.maxWait ≤ waited ∧ l.verdict waited g = .pass) ∨
      (g.IsRefusal ∧ ∃ delay, l.verdict waited g = .sleep delay ∧ 0 < delay ∧
        waited + delay ≤ l.maxWait ∧ (g = .wait delay ∨ waited + delay = l.maxWait)) := by
  intro g
  rcases drawn_cases host l action w with ⟨-, hd⟩ | ⟨hr, -⟩
  · have htaken : g = .taken := congrArg Prod.fst hd
    exact .inl ⟨htaken, htaken ▸ verdict_taken l waited⟩
  · rcases le_or_gt l.maxWait waited with hspent | hleft
    · exact .inr (.inl ⟨hr, hspent, verdict_of_spent l hr hspent⟩)
    · exact .inr (.inr ⟨hr, exists_sleep_of_isRefusal l hr hleft⟩)

theorem drawn_of_allow {waited : ℚ} {paid : Bool}
    (h : l.verdict waited (l.drawn host action w).1 = .allow paid) :
    (l.drawn host action w).1 = .taken ∧ paid = true := by
  rcases verdict_cases host l action waited w with ⟨ht, hv⟩ | ⟨-, -, hv⟩ | ⟨-, delay, hv, -⟩
  · exact ⟨ht, Decision.allow.inj (h.symm.trans hv)⟩
  · cases h.symm.trans hv
  · cases h.symm.trans hv

theorem drawn_of_pass {waited : ℚ} (h : l.verdict waited (l.drawn host action w).1 = .pass) :
    (l.drawn host action w).1.IsRefusal ∧ l.maxWait ≤ waited := by
  rcases verdict_cases host l action waited w with ⟨-, hv⟩ | ⟨hr, hspent, -⟩ | ⟨-, delay, hv, -⟩
  · cases h.symm.trans hv
  · exact ⟨hr, hspent⟩
  · cases h.symm.trans hv

/-- A sleep takes some time and does not go beyond the longest wait. -/
theorem drawn_of_sleep {waited delay : ℚ}
    (h : l.verdict waited (l.drawn host action w).1 = .sleep delay) :
    (l.drawn host action w).1.IsRefusal ∧ 0 < delay ∧ waited + delay ≤ l.maxWait ∧
      ((l.drawn host action w).1 = .wait delay ∨ waited + delay = l.maxWait) := by
  rcases verdict_cases host l action waited w with ⟨-, hv⟩ | ⟨-, -, hv⟩ | ⟨hr, delay', hv, hrest⟩
  · cases h.symm.trans hv
  · cases h.symm.trans hv
  · obtain rfl := Decision.sleep.inj (h.symm.trans hv)
    exact ⟨hr, hrest⟩

theorem zero_lt_delay {waited delay : ℚ}
    (h : l.verdict waited (l.drawn host action w).1 = .sleep delay) : 0 < delay :=
  (drawn_of_sleep h).2.1

theorem add_le_maxWait {waited delay : ℚ}
    (h : l.verdict waited (l.drawn host action w).1 = .sleep delay) :
    waited + delay ≤ l.maxWait := (drawn_of_sleep h).2.2.1

/-! ### The books of an action -/

/-- The bucket of an action accounts for the tokens taken at these instants, and every window
is within the budget. -/
structure Sound (host : Host ℚ ω) (l : Limiter ℚ) (a : String) (taken : List ℚ)
    (w : World ℚ ω) : Prop where
  bucket : ∀ b, l.bucket? a w = some b →
    b.Sound (l.rateOf a) (l.capacityOf a) taken ∧ b.updated ≤ host.reading w.outside
  fresh : l.bucket? a w = none → taken = []
  window : ∀ s t, s ≤ t →
    (within s t taken : ℚ) ≤ budget (l.rateOf a) (l.capacityOf a) s t

variable {taken : List ℚ} {missed : ℕ} {w₀ w' : World ℚ ω}

/-- Before an action is first asked for nothing was taken. -/
theorem Sound.start (h : l.bucket? a w = none) : Sound host l a [] w where
  bucket b hb := by
    rw [h] at hb
    cases hb
  fresh _ := rfl
  window s t hst := by
    change ((0 : ℕ) : ℚ) ≤ _
    rw [Nat.cast_zero]
    exact (zero_le_one.trans (one_le_capacityOf l a)).trans (capacity_le_budget _ _ hst)

/-- Soundness is a matter of the limiters and of a clock that does not go back. -/
theorem Sound.moved (h : Sound host l a taken w) (hl : w'.limiters = w.limiters)
    (hr : host.reading w.outside ≤ host.reading w'.outside) : Sound host l a taken w' where
  bucket b hb := by
    rw [bucket?_congr hl] at hb
    obtain ⟨hs, hu⟩ := h.bucket b hb
    exact ⟨hs, hu.trans hr⟩
  fresh hn := by
    rw [bucket?_congr hl] at hn
    exact h.fresh hn
  window := h.window

section Draws

variable (hf : host.Forward)
include hf

theorem reading_le_instant (action : String) (w : World ℚ ω) :
    host.reading w.outside ≤ l.instant host action w := by
  rw [instant, opened]
  cases l.bucket? action w with
  | some b => exact le_rfl
  | none => exact hf.read w.outside

theorem instant_le_reading (action : String) (w : World ℚ ω) :
    l.instant host action w ≤ host.reading (l.tried host action w).outside := hf.read _

/-- The bucket from which a round draws is sound, and not newer than the draw. -/
theorem Sound.bucketIn (h : Sound host l a taken w) :
    (l.bucketIn host a w).Sound (l.rateOf a) (l.capacityOf a) taken ∧
      (l.bucketIn host a w).updated ≤ l.instant host a w := by
  have hle : host.reading w.outside ≤ l.instant host a w := reading_le_instant hf a w
  cases hb : l.bucket? a w with
  | some b =>
    obtain ⟨hs, hu⟩ := h.bucket b hb
    have hin : l.bucketIn host a w = b := by
      rw [Limiter.bucketIn, hb, Option.getD_some]
    rw [hin]
    exact ⟨hs, hu.trans hle⟩
  | none =>
    have hin : l.bucketIn host a w =
        Bucket.full (l.rateOf a) (l.capacityOf a) (host.reading w.outside) := by
      rw [Limiter.bucketIn, hb, Option.getD_none]
    rw [hin, h.fresh hb]
    exact ⟨.full _ _ _, hle⟩

/-- A draw for another action changes nothing. -/
theorem Sound.tried_of_ne (hne : action ≠ a) (h : Sound host l a taken w) :
    Sound host l a taken (l.tried host action w) := by
  have hbucket : l.bucket? a (l.tried host action w) = l.bucket? a w := by
    rw [bucket?_tried, if_neg hne]
  have hr : host.reading w.outside ≤ host.reading (l.tried host action w).outside :=
    (reading_le_instant hf action w).trans (instant_le_reading hf action w)
  refine ⟨fun b hb => ?_, fun hn => h.fresh (hbucket ▸ hn), h.window⟩
  obtain ⟨hs, hu⟩ := h.bucket b (hbucket ▸ hb)
  exact ⟨hs, hu.trans hr⟩

/-- A draw that leaves a sound bucket of the present instant is sound if its windows are. -/
theorem Sound.tried_of_bucket {taken' : List ℚ}
    (hs : (l.drawn host a w).2.Sound (l.rateOf a) (l.capacityOf a) taken')
    (hu : (l.drawn host a w).2.updated = l.instant host a w)
    (hw : ∀ s t, s ≤ t →
      (within s t taken' : ℚ) ≤ budget (l.rateOf a) (l.capacityOf a) s t) :
    Sound host l a taken' (l.tried host a w) := by
  have hbucket : l.bucket? a (l.tried host a w) = some (l.drawn host a w).2 := by
    rw [bucket?_tried, if_pos rfl]
  refine ⟨fun b hb => ?_, fun hn => ?_, hw⟩
  · rw [hbucket] at hb
    cases hb
    exact ⟨hs, hu ▸ instant_le_reading hf a w⟩
  · rw [hbucket] at hn
    cases hn

/-- A draw for the action takes a token at its instant, or is refused and takes none. -/
theorem Sound.tried (h : Sound host l a taken w) :
    ((l.drawn host a w).1 = .taken ∧
      Sound host l a (taken ++ [l.instant host a w]) (l.tried host a w)) ∨
    ((l.drawn host a w).1.IsRefusal ∧ Sound host l a taken (l.tried host a w)) := by
  obtain ⟨hs, hu⟩ := h.bucketIn hf
  have hrefill := hs.refill hu
  rcases drawn_cases host l a w with ⟨htokens, hdrawn⟩ | ⟨hrefused, hdrawn⟩
  · have htake := hrefill.take
    have hwindow {s t : ℚ} (hst : s ≤ t) := hrefill.window htokens h.window hst
    rw [Bucket.updated_refill] at htake
    simp only [Bucket.updated_refill] at hwindow
    left
    refine ⟨by rw [hdrawn], Sound.tried_of_bucket hf ?_ ?_ fun s t hst => hwindow hst⟩
    · rw [hdrawn]
      exact htake
    · rw [hdrawn]
      exact Bucket.updated_refill (l.bucketIn host a w) (l.instant host a w)
  · right
    refine ⟨hrefused, Sound.tried_of_bucket hf ?_ ?_ h.window⟩
    · rw [hdrawn]
      exact hrefill
    · rw [hdrawn]
      exact Bucket.updated_refill (l.bucketIn host a w) (l.instant host a w)

end Draws

/-- The books of an action since a world: the tokens taken and the calls let through without
one are those of the trace, and the tokens are sound. -/
structure Books (host : Host ℚ ω) (l : Limiter ℚ) (a : String) (w₀ : World ℚ ω)
    (taken : List ℚ) (missed : ℕ) (w : World ℚ ω) : Prop where
  sound : Sound host l a taken w
  payments : w.payments a = w₀.payments a ++ taken
  alarms : w.alarms a = w₀.alarms a + missed

section Books

variable (hf : host.Forward) (h : Books host l a w₀ taken missed w)
include hf h

/-- A refused draw changes nothing in the books. -/
theorem Books.refused (hr : (l.drawn host action w).1.IsRefusal) :
    Books host l a w₀ taken missed (l.tried host action w) where
  sound := by
    by_cases ha : action = a
    · subst ha
      rcases h.sound.tried hf with ⟨ht, -⟩ | ⟨-, hs⟩
      · rw [ht] at hr
        cases hr
      · exact hs
    · exact h.sound.tried_of_ne hf ha
  payments := by
    rw [World.payments, seen_tried]
    exact h.payments
  alarms := by
    rw [World.alarms, seen_tried]
    exact h.alarms

/-- A sleep changes nothing in the books. -/
theorem Books.slept {delay : ℚ} (hd : 0 ≤ delay) :
    Books host l a w₀ taken missed (w.sleptBy host delay) where
  sound := h.sound.moved (World.limiters_sleptBy w host delay) (hf.sleep hd w.outside)
  payments := by
    rw [World.payments, World.seen_sleptBy]
    exact (List.append_nil _).trans h.payments
  alarms := by
    rw [World.alarms, World.seen_sleptBy]
    exact (congrArg List.length (List.append_nil _)).trans h.alarms

/-- A call that took a token is entered if it is one of the action. -/
theorem Books.paid (hd : (l.drawn host action w).1 = .taken) (waited : ℚ) :
    ∃ new, Books host l a w₀ (taken ++ new) missed
        (admitted action waited (l.instant host action w) true (l.tried host action w)) ∧
      new.length = if action = a then 1 else 0 := by
  have hsound {taken' : List ℚ} (hs : Sound host l a taken' (l.tried host action w)) :
      Sound host l a taken'
        (admitted action waited (l.instant host action w) true (l.tried host action w)) :=
    hs.moved (limiters_admitted _ _ _ _) (by rw [outside_admitted])
  have halarms :
      (admitted action waited (l.instant host action w) true (l.tried host action w)).alarms a =
        w₀.alarms a + missed := by
    rw [World.alarms, seen_admitted fun _ => rfl, seen_tried]
    exact (congrArg List.length (List.append_nil _)).trans h.alarms
  by_cases ha : action = a
  · subst ha
    -- the token was taken at the instant of the draw, which is the one that the trace tells
    refine ⟨[l.instant host action w], ⟨hsound ?_, ?_, halarms⟩, by rw [if_pos rfl]; rfl⟩
    · rcases h.sound.tried hf with ⟨-, hs⟩ | ⟨hr, -⟩
      · exact hs
      · rw [hd] at hr
        cases hr
    · rw [World.payments, seen_admitted fun _ => rfl, seen_tried, Entry.paid?, if_pos rfl,
        ← List.append_assoc]
      exact congrArg (· ++ _) h.payments
  · refine ⟨[], ⟨hsound ?_, ?_, halarms⟩, by rw [if_neg ha]; rfl⟩
    · rw [List.append_nil]
      exact h.sound.tried_of_ne hf ha
    · rw [World.payments, seen_admitted fun _ => rfl, seen_tried, Entry.paid?, if_neg ha,
        List.append_nil]
      exact (List.append_nil _).trans h.payments

omit hf in
/-- A call that was let through without a token is reported, and nothing is taken. -/
theorem Books.passed (waited now : ℚ) :
    ∃ n, Books host l a w₀ taken (missed + n) (l.failedOpen action waited now w) ∧
      n = if action = a then 1 else 0 := by
  refine ⟨_, ⟨h.sound.moved rfl le_rfl, ?_, ?_⟩, rfl⟩
  · rw [World.payments, seen_failedOpen]
    exact (List.append_nil _).trans ((List.append_nil _).trans h.payments)
  · have hw : w.alarms a = w₀.alarms a + missed := h.alarms
    rw [World.alarms] at hw ⊢
    rw [seen_failedOpen, List.length_append, List.length_append, hw]
    by_cases ha : action = a
    · simp only [Entry.alarm?, if_pos ha]
      rfl
    · simp only [Entry.alarm?, if_neg ha]
      rfl

/-- **A call of any action** leaves the books in order, and enters one of the action just
once. -/
theorem Books.rounds {waited : ℚ} {fuel : ℕ} {r : Except (Fault ℚ) Unit}
    (he : (l.rounds host action waited fuel).Ends w r w') :
    ∃ taken' missed', Books host l a w₀ taken' missed' w' ∧
      taken'.length + missed' = taken.length + missed + if action = a then 1 else 0 := by
  -- a refusal leaves the books as they are, so the books of the start are the invariant
  have hcarries : l.Carries host action (fun _ v => Books host l a w₀ taken missed v)
      (fun v => ∃ taken' missed', Books host l a w₀ taken' missed' v ∧
        taken'.length + missed' = taken.length + missed + if action = a then 1 else 0) := by
    refine ⟨?_, ?_, ?_⟩
    · intro waited v paid h hv
      obtain ⟨htaken, rfl⟩ := drawn_of_allow hv
      obtain ⟨new, hbooks, hlen⟩ := h.paid hf htaken waited
      refine ⟨_, _, hbooks, ?_⟩
      rw [List.length_append, hlen]
      omega
    · intro waited v h hv
      have hrefused := h.refused hf (drawn_of_pass hv).1
      obtain ⟨n, hbooks, rfl⟩ := hrefused.passed waited (l.instant host action v)
      exact ⟨_, _, hbooks, (Nat.add_assoc _ _ _).symm⟩
    · intro waited delay v h hv
      obtain ⟨hr, hdelay, -⟩ := drawn_of_sleep hv
      exact (h.refused hf hr).slept hf hdelay.le
  exact (hcarries.rounds h he).2

end Books

/-! ### Uses of a limiter -/

/-- A use of a limiter: calls of any actions, the last one first, with any time in between. -/
inductive Serves (host : Host ℚ ω) (l : Limiter ℚ) :
    World ℚ ω → List String → World ℚ ω → Prop
  | nil (w : World ℚ ω) : Serves host l w [] w
  | acquire {w w₁ w₂ : World ℚ ω} {actions : List String} {action : String}
      (h : Serves host l w actions w₁) (he : (l.acquire host action).Ends w₁ (.ok ()) w₂) :
      Serves host l w (action :: actions) w₂
  | advance {w w₁ : World ℚ ω} {actions : List String} (h : Serves host l w actions w₁) {o : ω}
      (ho : host.reading w₁.outside ≤ host.reading o) :
      Serves host l w actions { w₁ with outside := o }

/-- A use keeps the books of every action, and enters each of its calls. -/
theorem Serves.books (hf : host.Forward) {actions : List String}
    (h : l.Serves host w actions w') (hn : l.bucket? a w = none) :
    ∃ taken missed, Books host l a w taken missed w' ∧
      taken.length + missed = actions.count a := by
  induction h with
  | nil => exact ⟨[], 0, ⟨Sound.start hn, (List.append_nil _).symm, rfl⟩, rfl⟩
  | @acquire w₁ w₂ actions action _ he ih =>
    obtain ⟨taken, missed, hbooks, hlen⟩ := ih
    obtain ⟨taken', missed', hbooks', hlen'⟩ := hbooks.rounds hf he
    refine ⟨taken', missed', hbooks', ?_⟩
    rw [hlen', hlen, List.count_cons]
    by_cases ha : action = a
    · rw [if_pos ha, if_pos (beq_iff_eq.mpr ha)]
    · rw [if_neg ha, if_neg fun hb => ha (beq_iff_eq.mp hb)]
  | advance _ ho ih =>
    obtain ⟨taken, missed, hbooks, hlen⟩ := ih
    exact ⟨taken, missed, ⟨hbooks.sound.moved rfl ho, hbooks.payments, hbooks.alarms⟩, hlen⟩

/-- **The budget.** Use a limiter in any way from before an action is first asked for. Each call
of the action either took a token, at one of the instants `taken`, or was reported as let
through without one, and in every window the tokens taken are at most a full bucket and what
comes in meanwhile. -/
theorem Serves.within_budget (hf : host.Forward) {actions : List String}
    (h : l.Serves host w actions w') (hn : l.bucket? a w = none) :
    ∃ taken missed, w'.payments a = w.payments a ++ taken ∧
      w'.alarms a = w.alarms a + missed ∧ taken.length + missed = actions.count a ∧
      ∀ s t, s ≤ t → (within s t taken : ℚ) ≤
        l.capacityOf a + max (l.rateOf a) 0 * (t - s) := by
  obtain ⟨taken, missed, hbooks, hlen⟩ := h.books hf hn
  exact ⟨taken, missed, hbooks.payments, hbooks.alarms, hlen, hbooks.sound.window⟩

/-- Two actions may be called at a time, one of them once a second. A call waits for no more than
half a second. -/
def tight : Limiter ℚ where
  number := 0
  defaultRate := 1 / 2
  defaultBurst := 0
  rates := [("list", 1)]
  maxWait := 1 / 2

/-- Five calls of two actions, with time in between. -/
def contend (host : Host ℚ ℚ) : Run ℚ ℚ Unit := do
  tight.acquire host "list"
  Run.outside fun now => ((), now + 1 / 2)
  tight.acquire host "list"
  tight.acquire host "query"
  tight.acquire host "list"
  Run.outside fun now => ((), now + 1 / 2)
  tight.acquire host "list"

/-- Of four calls of one action in two seconds the first has its token at once, the second waits
for one, the third waits in vain and is let through, and the last comes when there is one again.
That is all that the window of the two seconds has room for. -/
theorem Serves.within_budget_contended :
    ∃ w', tight.Serves (Host.punctual 2) { outside := 0 } ["list", "list", "query", "list", "list"]
        w' ∧
      w'.payments "list" = [0, 1, 2] ∧ w'.alarms "list" = 1 ∧
      (within 0 2 (w'.payments "list") : ℚ) = 1 + 1 * (2 - 0) ∧
      ∀ s t, s ≤ t → (within s t (w'.payments "list") : ℚ) ≤ 1 + 1 * (t - s) := by
  have hcheck : ((contend (Host.punctual 2) { outside := 0 }).returned?.map fun p =>
      (p.2.payments "list", p.2.alarms "list")) = some ([0, 1, 2], 1) := by decide +kernel
  obtain ⟨⟨_, w'⟩, hreturned, hw'⟩ := Option.map_eq_some_iff.mp hcheck
  obtain ⟨hpayments, halarms⟩ := Prod.mk.inj hw'
  have hends := Run.ends_of_returned hreturned
  simp only [contend, Run.ends_ok_bind] at hends
  obtain ⟨⟨⟩, w₁, h₁, ⟨⟩, w₂, h₂, ⟨⟩, w₃, h₃, ⟨⟩, w₄, h₄, ⟨⟩, w₅, h₅, ⟨⟩, w₆, h₆, h₇⟩ := hends
  have hadvance {actions : List String} {u v : World ℚ ℚ}
      (hu : tight.Serves (Host.punctual 2) { outside := 0 } actions u)
      (hv : (Run.outside fun now => ((), now + 1 / 2)).Ends u (.ok ()) v) :
      tight.Serves (Host.punctual 2) { outside := 0 } actions v := by
    cases hv
    have hle : u.outside ≤ u.outside + 1 / 2 := le_add_of_nonneg_right (by norm_num)
    exact hu.advance hle
  have hfirst := hadvance ((Serves.nil _).acquire h₁) h₂
  have hothers := hadvance (((hfirst.acquire h₃).acquire h₄).acquire h₅) h₆
  have hserves := hothers.acquire h₇
  obtain ⟨taken, missed, htaken, -, -, hbudget⟩ :=
    Serves.within_budget (a := "list") ⟨fun _ => le_rfl, fun ht o => le_add_of_nonneg_right ht⟩
      hserves rfl
  obtain rfl : taken = [0, 1, 2] := htaken.symm.trans hpayments
  have hrate : tight.rateOf "list" = 1 := rfl
  have hcapacity : tight.capacityOf "list" = 1 := by
    change greatest (1 : ℚ) 1 = 1
    rw [greatest_rat, max_self]
  rw [hrate, hcapacity, max_eq_left zero_le_one] at hbudget
  refine ⟨w', hserves, hpayments, halarms, ?_, ?_⟩
  · have hthree : within 0 2 [0, 1, 2] = 3 := by decide +kernel
    rw [hpayments, hthree]
    norm_num
  · rw [hpayments]
    exact hbudget

end Limiter

end Settle
