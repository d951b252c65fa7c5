import Settle.Quantity

/-!
# Token buckets

A bucket holds at most `capacity` tokens and gains `rate` of them per second. A take either
gets all the tokens it asks for or leaves the bucket as it is and says how long to wait: for
ever, if the rate is not positive. Every take first refills the bucket up to the present
instant.

Main statements: `take_of_le` and `take_of_not_le` give the two outcomes of a take.
-/

namespace Settle

/-- A token bucket, as of the instant of its last refill. -/
structure Bucket (τ : Type) where
  rate : τ
  capacity : τ
  tokens : τ
  updated : τ

/-- What a take got: the tokens, a time to wait for them, or no prospect of them. -/
inductive Grant (τ : Type) where
  | taken
  | wait (time : τ)
  | never

namespace Bucket

variable {τ : Type} [Quantity τ]

/-- A full bucket. -/
def full (rate capacity now : τ) : Bucket τ := ⟨rate, capacity, capacity, now⟩

/-- Add the tokens of the time since the last refill, up to the capacity. -/
def refill (b : Bucket τ) (now : τ) : Bucket τ :=
  let tokens :=
    if Quantity.zero < b.rate then
      Quantity.least b.capacity (b.tokens + (now - b.updated) * b.rate)
    else b.tokens
  { b with tokens, updated := now }

/-- The prospect of `n` tokens for a bucket that lacks them. -/
def prospect (b : Bucket τ) (n : τ) : Grant τ :=
  if b.rate ≤ Quantity.zero then .never else .wait ((n - b.tokens) / b.rate)

/-- Take `n` tokens at the instant `now`. -/
def take (b : Bucket τ) (now n : τ) : Grant τ × Bucket τ :=
  let b := b.refill now
  if n ≤ b.tokens then (.taken, { b with tokens := b.tokens - n }) else (b.prospect n, b)

theorem take_of_le {b : Bucket τ} {now n : τ} (h : n ≤ (b.refill now).tokens) :
    b.take now n =
      (.taken, { b.refill now with tokens := (b.refill now).tokens - n }) := if_pos h

/-- A refused take only refills. -/
theorem take_of_not_le {b : Bucket τ} {now n : τ} (h : ¬ n ≤ (b.refill now).tokens) :
    b.take now n = ((b.refill now).prospect n, b.refill now) := if_neg h

@[simp] theorem rate_refill (b : Bucket τ) (now : τ) : (b.refill now).rate = b.rate := rfl

@[simp] theorem capacity_refill (b : Bucket τ) (now : τ) :
    (b.refill now).capacity = b.capacity := rfl

@[simp] theorem updated_refill (b : Bucket τ) (now : τ) :
    (b.refill now).updated = now := rfl

@[simp] theorem rate_take (b : Bucket τ) (now n : τ) : (b.take now n).2.rate = b.rate := by
  by_cases h : n ≤ (b.refill now).tokens
  · rw [take_of_le h, rate_refill]
  · rw [take_of_not_le h, rate_refill]

@[simp] theorem capacity_take (b : Bucket τ) (now n : τ) :
    (b.take now n).2.capacity = b.capacity := by
  by_cases h : n ≤ (b.refill now).tokens
  · rw [take_of_le h, capacity_refill]
  · rw [take_of_not_le h, capacity_refill]

end Bucket

end Settle
