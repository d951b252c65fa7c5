import Settle.Limiter
import Settle.Proofs.Run.Trace

/-!
# The rounds of a limiter

A round of `Limiter.acquire` makes sure that the action has a bucket (`opened`), reads the clock
(`instant`), and draws one token (`drawn`); what it then does is decided by the grant alone.
`rounds_succ_ends_iff` is this account of a round, and `Carries.rounds` follows an invariant from
one round to the next, to the end of the call. So `rounds_leaves` says what a whole `acquire` leaves
alone: everything that only calls and limiters change. A call that does not sleep only reads the
clock (`acquire_unslept`).
-/

namespace Settle

variable {τ ω β : Type}

/-! ### Keeping a bucket -/

/-- The world after a limiter has kept a bucket. -/
def World.kept (w : World τ ω) (l : Limiter τ) (action : String) (b : Bucket τ) : World τ ω :=
  { w with limiters := w.limiters.put l.number ((l.buckets w).put action b) }

@[simp] theorem World.outside_kept (w : World τ ω) (l : Limiter τ) (action : String)
    (b : Bucket τ) : (w.kept l action b).outside = w.outside := rfl

namespace Limiter

variable {l : Limiter τ} {action : String}

/-- Buckets are a matter of the limiters of a world alone. -/
theorem bucket?_congr {w w' : World τ ω} (h : w'.limiters = w.limiters) :
    l.bucket? action w' = l.bucket? action w := by
  unfold bucket? buckets
  rw [h]

theorem bucket?_kept (w : World τ ω) (b : Bucket τ) (a : String) :
    l.bucket? a (w.kept l action b) = if action = a then some b else l.bucket? a w := by
  rw [bucket?, buckets, World.kept, Ledger.get?_put_self, Option.getD_some, Ledger.get?_put]
  rfl

theorem ends_keep_bind {α : Type} {b : Bucket τ} {f : Unit → Run τ ω α} {w w' : World τ ω}
    {r : Except (Fault τ) α} :
    (l.keep action b >>= f).Ends w r w' ↔ (f ()).Ends (w.kept l action b) r w' :=
  Run.ends_step_bind rfl

/-! ### Rounds -/

variable [Quantity τ] {host : Host τ ω}

/-- The bucket of an action, a full one if there is none yet. -/
def bucketIn (host : Host τ ω) (l : Limiter τ) (action : String) (w : World τ ω) : Bucket τ :=
  (l.bucket? action w).getD
    (Bucket.full (l.rateOf action) (l.capacityOf action) (host.reading w.outside))

/-- The world once the action has a bucket. -/
def opened (host : Host τ ω) (l : Limiter τ) (action : String) (w : World τ ω) : World τ ω :=
  match l.bucket? action w with
  | some _ => w
  | none => (w.readBy host).kept l action (l.bucketIn host action w)

/-- The instant at which a round draws. -/
def instant (host : Host τ ω) (l : Limiter τ) (action : String) (w : World τ ω) : τ :=
  host.reading (l.opened host action w).outside

/-- What a round draws, and the bucket it leaves. -/
def drawn (host : Host τ ω) (l : Limiter τ) (action : String) (w : World τ ω) :
    Grant τ × Bucket τ :=
  (l.bucketIn host action w).take (l.instant host action w) (Quantity.ofInt 1)

/-- The world after a draw. -/
def tried (host : Host τ ω) (l : Limiter τ) (action : String) (w : World τ ω) : World τ ω :=
  ((l.opened host action w).readBy host).kept l action (l.drawn host action w).2

theorem bucketFor_apply (w : World τ ω) :
    l.bucketFor host action w =
      .returned (l.bucketIn host action w) (l.opened host action w) := by
  rw [bucketFor, opened, bucketIn]
  cases l.bucket? action w <;> rfl

/-- A draw keeps the bucket that it leaves, and no other. -/
theorem bucket?_tried (a : String) (w : World τ ω) :
    l.bucket? a (l.tried host action w) =
      if action = a then some (l.drawn host action w).2 else l.bucket? a w := by
  rw [tried, bucket?_kept]
  by_cases ha : action = a
  · rw [if_pos ha, if_pos ha]
  · -- the bucket that is kept to begin with is one of the same action
    have hopened : l.bucket? a (l.opened host action w) = l.bucket? a w := by
      rw [opened]
      cases l.bucket? action w with
      | some b => rfl
      | none => rw [bucket?_kept, if_neg ha, bucket?_congr (World.limiters_readBy w host)]
    rw [if_neg ha, if_neg ha, bucket?_congr (World.limiters_readBy _ host), hopened]

/-- The world after a call was let through. -/
def admitted (action : String) (waited now : τ) (paid : Bool) (w : World τ ω) : World τ ω :=
  (if Quantity.zero < waited then w.logged (.limiterAdmitted action waited) else w).noted
    (.admitted action now paid)

/-- The world after the longest wait was used up. -/
def failedOpen (l : Limiter τ) (action : String) (waited now : τ) (w : World τ ω) : World τ ω :=
  (w.logged (.limiterOpened action waited l.maxWait)).noted (.admitted action now false)

@[simp] theorem outside_admitted (waited now : τ) (paid : Bool) (w : World τ ω) :
    (admitted action waited now paid w).outside = w.outside := by
  rw [admitted]
  split <;> rfl

@[simp] theorem limiters_admitted (waited now : τ) (paid : Bool) (w : World τ ω) :
    (admitted action waited now paid w).limiters = w.limiters := by
  rw [admitted]
  split <;> rfl

/-- **A round.** The grant decides whether the call is let through, with or without a token, or
another round follows a sleep. -/
theorem rounds_succ_ends_iff {waited : τ} {fuel : Nat} {w w' : World τ ω}
    {r : Except (Fault τ) Unit} :
    (l.rounds host action waited (fuel + 1)).Ends w r w' ↔
      match l.verdict waited (l.drawn host action w).1 with
      | .allow paid => r = .ok () ∧
          w' = admitted action waited (l.instant host action w) paid (l.tried host action w)
      | .pass => r = .ok () ∧
          w' = l.failedOpen action waited (l.instant host action w) (l.tried host action w)
      | .sleep delay =>
        (l.rounds host action (waited + delay) fuel).Ends
          ((l.tried host action w).sleptBy host delay) r w' := by
  have hdrawn : (l.bucketIn host action w).take (host.reading (l.opened host action w).outside)
      (Quantity.ofInt 1) = l.drawn host action w := rfl
  simp only [rounds, Run.ends_step_bind (bucketFor_apply w), Run.ends_now_bind, ends_keep_bind,
    hdrawn]
  change Run.Ends _ (l.tried host action w) r w' ↔ _
  cases l.verdict waited (l.drawn host action w).1 with
  | allow paid =>
    by_cases h : Quantity.zero < waited
    · simp only [admitted, if_pos h, Run.ends_log_bind, Run.ends_note]
      rfl
    · simp only [admitted, if_neg h, Run.ends_note]
      rfl
  | pass =>
    rw [Run.ends_log_bind, Run.ends_note]
    rfl
  | sleep delay => exact Run.ends_sleep_bind

/-- What holds where a round begins, after so much waiting, carries over to the next round, and it
leads to what is to hold where the call is let through. -/
structure Carries (host : Host τ ω) (l : Limiter τ) (action : String)
    (P : τ → World τ ω → Prop) (Q : World τ ω → Prop) : Prop where
  allow {waited : τ} {w : World τ ω} {paid : Bool} (h : P waited w)
    (hv : l.verdict waited (l.drawn host action w).1 = .allow paid) :
    Q (admitted action waited (l.instant host action w) paid (l.tried host action w))
  pass {waited : τ} {w : World τ ω} (h : P waited w)
    (hv : l.verdict waited (l.drawn host action w).1 = .pass) :
    Q (l.failedOpen action waited (l.instant host action w) (l.tried host action w))
  sleep {waited delay : τ} {w : World τ ω} (h : P waited w)
    (hv : l.verdict waited (l.drawn host action w).1 = .sleep delay) :
    P (waited + delay) ((l.tried host action w).sleptBy host delay)

/-- **Rounds** carry an invariant to their end, and never fail. -/
theorem Carries.rounds {P : τ → World τ ω → Prop} {Q : World τ ω → Prop}
    (hc : Carries host l action P Q) {waited : τ} {fuel : Nat} {w w' : World τ ω}
    {r : Except (Fault τ) Unit} (hP : P waited w)
    (h : (l.rounds host action waited fuel).Ends w r w') : r = .ok () ∧ Q w' := by
  induction fuel generalizing waited w with
  | zero => exact absurd h Run.not_ends_giveUp
  | succ fuel ih =>
    rw [rounds_succ_ends_iff] at h
    cases hv : l.verdict waited (l.drawn host action w).1 with
    | allow paid =>
      rw [hv] at h
      obtain ⟨rfl, rfl⟩ := h
      exact ⟨rfl, hc.allow hP hv⟩
    | pass =>
      rw [hv] at h
      obtain ⟨rfl, rfl⟩ := h
      exact ⟨rfl, hc.pass hP hv⟩
    | sleep delay =>
      rw [hv] at h
      exact ih (hc.sleep hP hv) h

/-! ### What a limiter leaves alone -/

/-- A draw only reads the clock. -/
theorem view_tried {view : ω → β} (hread : ∀ o, view (host.read o).2 = view o) (w : World τ ω) :
    view (l.tried host action w).outside = view w.outside := by
  have hopened : view (l.opened host action w).outside = view w.outside := by
    rw [opened]
    cases l.bucket? action w with
    | some b => rfl
    | none => exact hread w.outside
  rw [tried, World.outside_kept, World.outside_readBy, hread, hopened]

/-- A draw leaves nothing in the trace. -/
theorem trace_tried (w : World τ ω) : (l.tried host action w).trace = w.trace := by
  have hopened : (l.opened host action w).trace = w.trace := by
    rw [opened]
    cases l.bucket? action w <;> rfl
  exact hopened

@[simp] theorem seen_tried (w : World τ ω) (view : Entry τ → Option β) :
    (l.tried host action w).seen view = w.seen view := by
  rw [World.seen, trace_tried, World.seen]

theorem seen_admitted {view : Entry τ → Option β}
    (h : ∀ waited, view (.logged (.limiterAdmitted action waited)) = none) (waited now : τ)
    (paid : Bool) (w : World τ ω) :
    (admitted action waited now paid w).seen view =
      w.seen view ++ (view (.admitted action now paid)).toList := by
  rw [admitted, World.seen_noted]
  congr 1
  split
  · exact World.seen_noted_of_none w view (h waited)
  · rfl

omit [Quantity τ] in
theorem seen_failedOpen (view : Entry τ → Option β) (waited now : τ) (w : World τ ω) :
    (l.failedOpen action waited now w).seen view =
      w.seen view ++ (view (.logged (.limiterOpened action waited l.maxWait))).toList ++
        (view (.admitted action now false)).toList := by
  rw [failedOpen, World.logged, World.seen_noted, World.seen_noted]

theorem sleeps_tried (w : World τ ω) : (l.tried host action w).sleeps = w.sleeps := by
  rw [World.sleeps_eq_seen, seen_tried, ← World.sleeps_eq_seen]

theorem sleeps_admitted (waited now : τ) (paid : Bool) (w : World τ ω) :
    (admitted action waited now paid w).sleeps = w.sleeps := by
  rw [World.sleeps_eq_seen, seen_admitted fun _ => rfl, ← World.sleeps_eq_seen]
  exact List.append_nil _

omit [Quantity τ] in
theorem sleeps_failedOpen (waited now : τ) (w : World τ ω) :
    (l.failedOpen action waited now w).sleeps = w.sleeps := by
  rw [World.sleeps_eq_seen, seen_failedOpen, ← World.sleeps_eq_seen]
  exact (List.append_nil _).trans (List.append_nil _)

theorem rounds_leaves {view : ω → β} (hh : host.Leaves view) {waited : τ} {fuel : Nat}
    {w w' : World τ ω} {r : Except (Fault τ) Unit}
    (h : (l.rounds host action waited fuel).Ends w r w') :
    r = .ok () ∧ view w'.outside = view w.outside ∧ w'.calls = w.calls := by
  have hview (v : World τ ω) : view (l.tried host action v).outside = view v.outside :=
    view_tried hh.read v
  have hcalls (v : World τ ω) : (l.tried host action v).calls = v.calls := by
    rw [World.calls_eq_seen, seen_tried, ← World.calls_eq_seen]
  have hcarries : l.Carries host action
      (fun _ v => view v.outside = view w.outside ∧ v.calls = w.calls)
      (fun v => view v.outside = view w.outside ∧ v.calls = w.calls) := by
    refine ⟨fun ⟨hv, hc⟩ _ => ⟨?_, ?_⟩, fun ⟨hv, hc⟩ _ => ⟨?_, ?_⟩, fun ⟨hv, hc⟩ _ => ⟨?_, ?_⟩⟩
    · rw [outside_admitted, hview, hv]
    · rw [World.calls_eq_seen, seen_admitted fun _ => rfl, ← World.calls_eq_seen, hcalls, hc]
      exact List.append_nil _
    · exact (hview _).trans hv
    · rw [failedOpen, World.calls_noted rfl, World.calls_logged, hcalls, hc]
    · rw [World.outside_sleptBy, hh.sleep, hview, hv]
    · rw [World.calls_sleptBy, hcalls, hc]
  exact hcarries.rounds ⟨rfl, rfl⟩ h

/-- A call that does not sleep only reads the clock. -/
theorem rounds_sleeps {view : ω → β} (hread : ∀ o, view (host.read o).2 = view o) {waited : τ}
    {fuel : Nat} {w w' : World τ ω} {r : Except (Fault τ) Unit}
    (h : (l.rounds host action waited fuel).Ends w r w') :
    ∃ slept, w'.sleeps = w.sleeps ++ slept ∧
      (slept = [] → view w'.outside = view w.outside) := by
  have hview (v : World τ ω) : view (l.tried host action v).outside = view v.outside :=
    view_tried hread v
  have hcarries : l.Carries host action
      (fun _ v => ∃ slept, v.sleeps = w.sleeps ++ slept ∧
        (slept = [] → view v.outside = view w.outside))
      (fun v => ∃ slept, v.sleeps = w.sleeps ++ slept ∧
        (slept = [] → view v.outside = view w.outside)) := by
    refine ⟨?_, ?_, ?_⟩
    · rintro waited v paid ⟨slept, hslept, hv⟩ -
      refine ⟨slept, by rw [sleeps_admitted, sleeps_tried, hslept], fun hnone => ?_⟩
      rw [outside_admitted, hview, hv hnone]
    · rintro waited v ⟨slept, hslept, hv⟩ -
      refine ⟨slept, by rw [sleeps_failedOpen, sleeps_tried, hslept], fun hnone => ?_⟩
      exact (hview v).trans (hv hnone)
    · -- from here on there is a sleep, so nothing is said of the view
      rintro waited delay v ⟨slept, hslept, -⟩ -
      refine ⟨slept ++ [delay], ?_, fun hnone => ?_⟩
      · rw [World.sleeps_eq_seen, World.seen_sleptBy, ← World.sleeps_eq_seen, sleeps_tried,
          hslept, List.append_assoc]
        rfl
      · exact absurd hnone (List.append_ne_nil_of_right_ne_nil _ (List.cons_ne_nil _ _))
  exact (hcarries.rounds ⟨[], (List.append_nil _).symm, fun _ => rfl⟩ h).2

/-- **Acquiring** never fails, calls nothing, and leaves alone what the clock leaves alone. -/
theorem acquire_leaves {view : ω → β} (hh : host.Leaves view) {w w' : World τ ω}
    {r : Except (Fault τ) Unit} (h : (l.acquire host action).Ends w r w') :
    r = .ok () ∧ view w'.outside = view w.outside ∧ w'.calls = w.calls := rounds_leaves hh h

/-- Acquiring without a sleep only reads the clock. -/
theorem acquire_unslept {view : ω → β} (hread : ∀ o, view (host.read o).2 = view o)
    {w w' : World τ ω} {r : Except (Fault τ) Unit} (h : (l.acquire host action).Ends w r w')
    (hs : w'.sleeps = w.sleeps) : view w'.outside = view w.outside := by
  obtain ⟨slept, hslept, hview⟩ := rounds_sleeps hread h
  rw [hs] at hslept
  exact hview (List.self_eq_append_right.mp hslept)

end Limiter

end Settle
