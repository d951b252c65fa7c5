import Settle.Value.Misuse
import Settle.World

/-!
# Polling windows

A profile is a window for polling: how long to sleep between two attempts and how long to
go on in all. Profiles come from `Profile.create?`, which refuses times that are not
positive; `create?_eq_ok_iff` says exactly when it accepts.
-/

namespace Settle

/-- A window for polling. -/
structure Profile (τ : Type) where
  name : Value
  interval : τ
  deadline : τ

namespace Profile

variable {τ : Type} [Quantity τ]

/-- The refusal of a time that is not positive. -/
def refusal (what : String) (time : τ) : Fault τ :=
  .ofText .value (what ++ " must be positive, got " ++ Quantity.text time)

/-- A profile of the given times, if both are positive. Not-a-number passes, for it is not
at most zero. -/
def create? (name : Value) (interval deadline : τ) : Except (Fault τ) (Profile τ) :=
  if interval ≤ Quantity.zero then .error (refusal "interval" interval)
  else if deadline ≤ Quantity.zero then .error (refusal "deadline" deadline)
  else .ok ⟨name, interval, deadline⟩

/-- A profile that `create?` accepts. -/
def IsValid (p : Profile τ) : Prop :=
  ¬ p.interval ≤ Quantity.zero ∧ ¬ p.deadline ≤ Quantity.zero

theorem create?_eq_ok_iff {name : Value} {interval deadline : τ} {p : Profile τ} :
    create? name interval deadline = .ok p ↔
      p = ⟨name, interval, deadline⟩ ∧ p.IsValid := by
  unfold create? IsValid
  split
  · next h =>
    constructor
    · intro e
      cases e
    · rintro ⟨rfl, h', _⟩
      exact absurd h h'
  · split
    · next h =>
      constructor
      · intro e
        cases e
      · rintro ⟨rfl, _, h'⟩
        exact absurd h h'
    · next h1 h2 =>
      constructor
      · intro e
        cases e
        exact ⟨rfl, h1, h2⟩
      · rintro ⟨rfl, _⟩
        rfl

/-- The same interval and a deadline `factor` times as long. -/
def scaled (p : Profile τ) (factor : τ) : Except (Fault τ) (Profile τ) :=
  create? p.name p.interval (p.deadline * factor)

/-- The window for failures that clear up in moments. -/
def shortRead : Profile τ := ⟨.text "short_read", Quantity.ofInt 5, Quantity.ofInt 180⟩

/-- The window for a task to finish. -/
def longConverge : Profile τ :=
  ⟨.text "long_converge", Quantity.ofInt 10, Quantity.ofInt 1200⟩

/-- Look a profile up among named profiles. What is no text names none of them, and lists and
records are not looked up at all. -/
def find? (profiles : Ledger String (Profile τ)) (name : Value) :
    Except (Fault τ) (Profile τ) :=
  let held :=
    match name with
    | .text s => profiles.get? s
    | _ => none
  match held with
  | some p => .ok p
  | none =>
    let names := profiles.keys.mergeSort fun a b => decide (a ≤ b)
    if name.isScalar then
      .error (.ofText .value
        ("unknown retry profile " ++ name.written ++ "; expected one of "
          ++ (Value.list (names.map .text)).written))
    else .error (Misuse.unhashable name.kindName).toFault

omit [Quantity τ] in
/-- A name that is held is found. -/
theorem find?_text {profiles : Ledger String (Profile τ)} {s : String} {p : Profile τ}
    (h : profiles.get? s = some p) : find? profiles (.text s) = .ok p := by
  simp [find?, h]

/-- The two profiles that need no settings. -/
def presets : Ledger String (Profile τ) :=
  [("short_read", shortRead), ("long_converge", longConverge)]

end Profile

end Settle
