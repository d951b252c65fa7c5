import Settle.World

/-!
# Deadlines

A deadline is opened at an instant of the clock and passes a fixed time later. All its
questions are asked with the present instant. `isExpired_iff` ties expiry to the instant.
-/

namespace Settle

/-- A time limit on an operation. -/
structure Deadline (τ : Type) where
  operation : Value
  start : τ
  timeout : τ
  expiry : τ

namespace Deadline

variable {τ : Type} [Quantity τ]

/-- Open a deadline `timeout` seconds from now. -/
def opened (operation : Value) (timeout now : τ) : Deadline τ :=
  { operation, start := now, timeout, expiry := now + timeout }

/-- Open a deadline, unless the time is negative. -/
def open? (operation : Value) (timeout now : τ) : Except (Fault τ) (Deadline τ) :=
  if timeout < Quantity.zero then
    .error (.ofText .value
      ("Timeout must be non-negative, got " ++ Quantity.text timeout))
  else .ok (opened operation timeout now)

/-- The time left, negative once the deadline has passed. -/
def remaining (d : Deadline τ) (now : τ) : τ := d.expiry - now

/-- The time since the start. -/
def elapsed (d : Deadline τ) (now : τ) : τ := now - d.start

/-- Has the deadline passed? -/
def isExpired (d : Deadline τ) (now : τ) : Bool := decide (d.expiry ≤ now)

theorem isExpired_iff (d : Deadline τ) (now : τ) :
    d.isExpired now = true ↔ d.expiry ≤ now := decide_eq_true_iff

end Deadline

end Settle
