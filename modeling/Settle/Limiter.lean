import Settle.Value.Misuse
import Settle.World

/-!
# Rate limits per action

A limiter gives every action a token bucket of its own, made when the action is first
asked for. `acquire` takes one token, sleeping until there is one, but never for longer than
`maxWait` in all: when that time is used up the call is let through without a token.

The buckets live in the world, under the number of the limiter, so that everyone who holds
the limiter draws from the same buckets.

Main statements: `verdict_taken` and `verdict_wait` say what one round of `acquire` decides.
-/

namespace Settle

/-- The configuration of a limiter, and the number under which the world keeps its
buckets. -/
structure Limiter (τ : Type) where
  number : Nat
  defaultRate : τ
  defaultBurst : τ
  rates : Ledger String τ
  maxWait : τ

namespace Limiter

variable {τ ω : Type} [Quantity τ]

/-- The limits of a limiter that was given none. -/
def standard (number : Nat) : Limiter τ :=
  { number
    defaultRate := Quantity.ofInt 20
    defaultBurst := Quantity.ofInt 20
    rates := []
    maxWait := Quantity.ofInt 10 }

/-- The rate of an action: its own, or the default. -/
def rateOf (l : Limiter τ) (action : String) : τ := (l.rates.get? action).getD l.defaultRate

/-- The capacity of the bucket of an action, at least one: its own rate, or the default
burst. -/
def capacityOf (l : Limiter τ) (action : String) : τ :=
  match l.rates.get? action with
  | some rate => Quantity.greatest rate (Quantity.ofInt 1)
  | none => Quantity.greatest l.defaultBurst (Quantity.ofInt 1)

/-! ### Buckets -/

/-- All buckets of the limiter. -/
def buckets (l : Limiter τ) (w : World τ ω) : Buckets τ := (w.limiters.get? l.number).getD []

/-- The bucket of an action, if there is one. -/
def bucket? (l : Limiter τ) (action : String) (w : World τ ω) : Option (Bucket τ) :=
  (l.buckets w).get? action

/-- The names of the actions asked for so far, sorted. -/
def actions (l : Limiter τ) (w : World τ ω) : List String :=
  (l.buckets w).keys.mergeSort fun a b => decide (a ≤ b)

/-- Keep a bucket. -/
def keep (l : Limiter τ) (action : String) (b : Bucket τ) : Run τ ω Unit := fun w =>
  .returned ()
    { w with limiters := w.limiters.put l.number ((l.buckets w).put action b) }

/-- Forget every bucket. -/
def reset (l : Limiter τ) : Run τ ω Unit := fun w =>
  .returned () { w with limiters := w.limiters.put l.number [] }

/-- The bucket of an action; a new one is full. -/
def bucketFor (host : Host τ ω) (l : Limiter τ) (action : String) : Run τ ω (Bucket τ) :=
  fun w =>
    match l.bucket? action w with
    | some b => .returned b w
    | none =>
      (do
        let now ← Run.now host
        let b := Bucket.full (l.rateOf action) (l.capacityOf action) now
        l.keep action b
        pure b : Run τ ω (Bucket τ)) w

/-! ### Acquiring -/

/-- What a round of `acquire` decides: to let the call through, with or without a token, or
to sleep. -/
inductive Decision (τ : Type) where
  | allow (paid : Bool)
  | pass
  | sleep (delay : τ)

/-- Decide a round, after `waited` seconds of sleep. A wait of no time at all admits the
call. -/
def verdict (l : Limiter τ) (waited : τ) (grant : Grant τ) : Decision τ :=
  let remaining := l.maxWait - waited
  let refuse (delay : τ) : Decision τ :=
    if remaining ≤ Quantity.zero then .pass else .sleep delay
  match grant with
  | .taken => .allow true
  | .wait time => if Quantity.isZero time then .allow false
    else refuse (Quantity.least time remaining)
  | .never => refuse remaining

theorem verdict_taken (l : Limiter τ) (waited : τ) :
    l.verdict waited .taken = .allow true := rfl

/-- A call that has to wait sleeps, but not past the longest wait; when that is used up it
is let through. -/
theorem verdict_wait (l : Limiter τ) (waited time : τ) (h : Quantity.isZero time = false) :
    l.verdict waited (.wait time) =
      if l.maxWait - waited ≤ Quantity.zero then .pass
      else .sleep (Quantity.least time (l.maxWait - waited)) := by
  simp [verdict, h]

/-- The rounds of `acquire`. -/
def rounds (host : Host τ ω) (l : Limiter τ) (action : String) (waited : τ) :
    Nat → Run τ ω Unit
  | 0 => Run.giveUp
  | fuel + 1 => do
    let b ← l.bucketFor host action
    let now ← Run.now host
    let (grant, b) := b.take now (Quantity.ofInt 1)
    l.keep action b
    match l.verdict waited grant with
    | .allow paid => do
      if Quantity.zero < waited then
        Run.log (.limiterAdmitted action waited)
      Run.note (.admitted action now paid)
    | .pass => do
      Run.log (.limiterOpened action waited l.maxWait)
      Run.note (.admitted action now false)
    | .sleep delay => do
      Run.sleep host delay
      rounds host l action (waited + delay) fuel

/-- Wait until a call of the action may be issued. -/
def acquire (host : Host τ ω) (l : Limiter τ) (action : String) : Run τ ω Unit :=
  rounds host l action Quantity.zero host.patience

/-- Wait until a call may be issued, if there is a limiter; it cannot be asked if there is
none. -/
def acquireFrom (host : Host τ ω) (l : Option (Limiter τ)) (action : String) : Run τ ω Unit :=
  match l with
  | some l => l.acquire host action
  | none => Run.raise (Misuse.noMember "NoneType" "acquire").toFault

end Limiter

end Settle
