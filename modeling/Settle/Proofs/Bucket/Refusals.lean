import Mathlib.Data.NNRat.Defs
import Settle.Proofs.Bucket.Prospect

/-!
# Refused takes

A run of a bucket is a list of takes with pauses in between. A take that is refused refills the
bucket all the same and moves the instant of its last refill, and yet nobody can tell: from then on
the bucket is refilled as if nobody had asked (`refill_take_of_ne_taken`, `Alike.refused`).

* What a bucket holds after a run is never below nothing and never above the capacity
  (`InRange.after`); `InRange.refill` and `InRange.take` say that refills and takes see to it.
* A course lists the takes of a run, each with its answer and the tokens after it. Where some
  refused takes are left out of a course, those that are kept have the very answers, and leave the
  very tokens, that they have if no others are made (`served_of_thinned`).

Main statement: `refused_without_effect`. It compares two runs that make the same takes at the same
instants but for some refused takes of either, so it covers refused takes that are added to a run,
those that are dropped from it, and both at once. They may lie anywhere, also within a pause.
-/

namespace Settle.Bucket

open Quantity

/-! ### Runs -/

/-- What is done with a bucket: nothing for a time, or a take. -/
inductive Use where
  | pause (time : ℚ≥0)
  | take (n : ℚ≥0)

/-- A take at an instant. -/
structure Ask where
  instant : ℚ
  n : ℚ≥0

/-- A take, its answer and the tokens after it. -/
structure Served where
  ask : Ask
  answer : Grant ℚ
  left : ℚ

variable {b b' : Bucket ℚ} {now t n : ℚ}

/-- The bucket after a run that begins at the instant `now`. -/
def after (b : Bucket ℚ) (now : ℚ) : List Use → Bucket ℚ
  | [] => b
  | .pause time :: rest => b.after (now + time) rest
  | .take n :: rest => (b.take now n).2.after now rest

/-- Serve a take. -/
def serve (b : Bucket ℚ) (a : Ask) : Served where
  ask := a
  answer := (b.take a.instant a.n).1
  left := (b.take a.instant a.n).2.tokens

/-- The takes of a run that begins at the instant `now`, as they were served. -/
def course (b : Bucket ℚ) (now : ℚ) : List Use → List Served
  | [] => []
  | .pause time :: rest => b.course (now + time) rest
  | .take n :: rest => b.serve ⟨now, n⟩ :: (b.take now n).2.course now rest

/-- Takes at given instants, as they are served one after the other. -/
def served (b : Bucket ℚ) : List Ask → List Served
  | [] => []
  | a :: rest => b.serve a :: (b.take a.instant a.n).2.served rest

/-- Some refused takes are left out. -/
inductive Thinned : List Served → List Served → Prop
  | nil : Thinned [] []
  | keep {all kept : List Served} (s : Served) (h : Thinned all kept) :
      Thinned (s :: all) (s :: kept)
  | drop {all kept : List Served} {s : Served} (refused : s.answer ≠ .taken)
      (h : Thinned all kept) : Thinned (s :: all) kept

/-- Nothing need be left out. -/
theorem Thinned.refl (all : List Served) : Thinned all all := by
  induction all with
  | nil => exact .nil
  | cons s _ ih => exact .keep s ih

/-! ### The tokens of a bucket -/

/-- A bucket holds no less than nothing and no more than fits, and was last refilled by the instant
`now`. -/
structure InRange (b : Bucket ℚ) (now : ℚ) : Prop where
  nonneg : 0 ≤ b.tokens
  le_capacity : b.tokens ≤ b.capacity
  updated_le : b.updated ≤ now

theorem InRange.later (h : b.InRange now) (ht : now ≤ t) : b.InRange t :=
  ⟨h.nonneg, h.le_capacity, h.updated_le.trans ht⟩

theorem InRange.refill (h : b.InRange now) : (b.refill now).InRange now := by
  rcases lt_or_ge 0 b.rate with hr | hr
  · have hcapacity : 0 ≤ b.capacity := h.nonneg.trans h.le_capacity
    have hin : 0 ≤ (now - b.updated) * b.rate := mul_nonneg (sub_nonneg.mpr h.updated_le) hr.le
    have htokens := tokens_refill_of_pos hr now
    refine ⟨?_, ?_, le_rfl⟩
    · rw [htokens]
      exact le_min hcapacity (add_nonneg h.nonneg hin)
    · rw [htokens]
      exact min_le_left _ _
  · have htokens := tokens_refill_of_nonpos hr now
    exact ⟨htokens ▸ h.nonneg, htokens ▸ h.le_capacity, le_rfl⟩

theorem InRange.take (h : b.InRange now) (hn : 0 ≤ n) : (b.take now n).2.InRange now := by
  have hb := h.refill
  by_cases hle : n ≤ (b.refill now).tokens
  · rw [take_of_le hle]
    exact ⟨sub_nonneg.mpr hle, (sub_le_self _ hn).trans hb.le_capacity, le_rfl⟩
  · rw [take_of_not_le hle]
    exact hb

/-- **The tokens stay between nothing and the capacity.** -/
theorem InRange.after (h : b.InRange now) (uses : List Use) :
    0 ≤ (b.after now uses).tokens ∧ (b.after now uses).tokens ≤ b.capacity := by
  induction uses generalizing b now with
  | nil => exact ⟨h.nonneg, h.le_capacity⟩
  | cons u rest ih =>
    cases u with
    | pause time => exact ih (h.later (le_add_of_nonneg_right time.coe_nonneg))
    | take n =>
      rw [← capacity_take b now n]
      exact ih (h.take n.coe_nonneg)

/-! ### Buckets that nobody can tell apart -/

/-- From the instant `now` on, two buckets are refilled to the same. -/
def Alike (now : ℚ) (b b' : Bucket ℚ) : Prop := ∀ t, now ≤ t → b.refill t = b'.refill t

theorem Alike.refl (now : ℚ) (b : Bucket ℚ) : Alike now b b := fun _ _ => rfl

theorem Alike.later (h : Alike now b b') (ht : now ≤ t) : Alike t b b' :=
  fun s hs => h s (ht.trans hs)

/-- A take finds no difference between them. -/
theorem Alike.take_eq (h : Alike now b b') (n : ℚ) : b.take now n = b'.take now n := by
  rw [take, take, h now le_rfl]

/-- A refused take makes no difference. -/
theorem Alike.refused (h : Alike now b b') (hr : (b.take now n).1 ≠ .taken) :
    Alike now (b.take now n).2 b' := by
  intro t ht
  rw [refill_take_of_ne_taken hr ht, h t ht]

/-! ### Runs without their refused takes -/

/-- **Takes are served as if some refused ones had not been made.** -/
theorem served_of_thinned {uses : List Use} {kept : List Served} (ha : Alike now b b')
    (h : Thinned (b.course now uses) kept) : b'.served (kept.map Served.ask) = kept := by
  induction uses generalizing b b' now kept with
  | nil =>
    cases h
    rfl
  | cons u rest ih =>
    cases u with
    | pause time => exact ih (ha.later (le_add_of_nonneg_right time.coe_nonneg)) h
    | take n =>
      cases h with
      | keep _ h =>
        -- what is left of the two buckets is one bucket, as the take found no difference
        have hserve : b'.serve ⟨now, n⟩ = b.serve ⟨now, n⟩ := by
          rw [serve, serve, ha.take_eq]
        have hrest := ih (Alike.refl now (b.take now n).2) h
        rw [ha.take_eq] at hrest
        exact congr (congrArg List.cons hserve) hrest
      | drop refused h => exact ih (ha.refused refused) h

/-- **Refused takes are without effect.** In a run of a bucket that is full at the start, the tokens
stay between nothing and the capacity. Let some refused takes be left out of it, and some out of
another run of the bucket: if what is left are the same takes at the same instants, each of them has
the same answer in both runs and leaves the same tokens. -/
theorem refused_without_effect {rate capacity start : ℚ} (hc : 0 ≤ capacity) (uses : List Use) :
    let b := full rate capacity start
    (0 ≤ (b.after start uses).tokens ∧ (b.after start uses).tokens ≤ capacity) ∧
      ∀ (uses' : List Use) (kept kept' : List Served),
        Thinned (b.course start uses) kept → Thinned (b.course start uses') kept' →
          kept.map Served.ask = kept'.map Served.ask → kept = kept' := by
  intro b
  have hb : b.InRange start := ⟨hc, le_rfl, le_rfl⟩
  refine ⟨hb.after uses, ?_⟩
  intro uses' kept kept' h h' same
  calc
    kept = b.served (kept.map Served.ask) := (served_of_thinned (Alike.refl start b) h).symm
    _ = b.served (kept'.map Served.ask) := by rw [same]
    _ = kept' := served_of_thinned (Alike.refl start b) h'

/-- A bucket of one token is emptied, and full again a second later. Someone asks it halfway and is
told to wait for half a second; that nobody else can tell. -/
theorem refused_without_effect_halfway :
    let b : Bucket ℚ := full 1 1 0
    b.course 0 [.take 1, .pause (1 / 2), .take 1, .pause (1 / 2), .take 1] =
        [⟨⟨0, 1⟩, .taken, 0⟩, ⟨⟨1 / 2, 1⟩, .wait (1 / 2), 1 / 2⟩, ⟨⟨1, 1⟩, .taken, 0⟩] ∧
      b.course 0 [.take 1, .pause 1, .take 1] = [⟨⟨0, 1⟩, .taken, 0⟩, ⟨⟨1, 1⟩, .taken, 0⟩] := by
  intro b
  have hasked : b.course 0 [.take 1, .pause (1 / 2), .take 1, .pause (1 / 2), .take 1] =
      [⟨⟨0, 1⟩, .taken, 0⟩, ⟨⟨1 / 2, 1⟩, .wait (1 / 2), 1 / 2⟩, ⟨⟨1, 1⟩, .taken, 0⟩] := by
    norm_num [b, course, serve, take, refill, full, prospect]
  have hthinned : Thinned (b.course 0 [.take 1, .pause (1 / 2), .take 1, .pause (1 / 2), .take 1])
      [⟨⟨0, 1⟩, .taken, 0⟩, ⟨⟨1, 1⟩, .taken, 0⟩] := by
    have hrefused : (.wait (1 / 2) : Grant ℚ) ≠ .taken := by
      intro h
      cases h
    rw [hasked]
    exact .keep _ (.drop hrefused (.keep _ .nil))
  have hsame : [(⟨⟨0, 1⟩, .taken, 0⟩ : Served), ⟨⟨1, 1⟩, .taken, 0⟩].map Served.ask =
      (b.course 0 [.take 1, .pause 1, .take 1]).map Served.ask := by
    norm_num [course, serve]
  exact ⟨hasked,
    ((refused_without_effect zero_le_one _).2 _ _ _ hthinned (Thinned.refl _) hsame).symm⟩

end Settle.Bucket
