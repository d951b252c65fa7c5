import Settle.Assembly.Container

/-!
# What a process keeps

A process keeps the settings it loaded last and one container. Settings are loaded when they
are first asked for, or when a reload is asked for; a load that fails changes nothing, so the
settings of before stay in force.

Loading is a parameter: any function that yields settings or a failure.

Main statements: `getSettings_held` and `getSettings_failed`.
-/

namespace Settle

/-- The settings and the container that a process keeps. -/
structure Shared (τ : Type) where
  settings : Option (Numbered (Settings τ)) := none
  container : Option (Numbered (Container τ)) := none

namespace Shared

variable {τ ω ε : Type}

/-- The settings in force. They are loaded if there are none, or if `reload` asks for it. -/
def getSettings (load : Except ε (Settings τ)) (reload : Bool) (p : Shared τ) :
    Run τ ω (Except ε (Numbered (Settings τ)) × Shared τ) :=
  match reload, p.settings with
  | false, some s => pure (.ok s, p)
  | _, _ =>
    match load with
    | .error e => pure (.error e, p)
    | .ok s => do
      let s ← Numbered.make s
      pure (.ok s, { p with settings := some s })

/-- Settings that are kept are handed out again, whatever loading would yield. -/
theorem getSettings_held (load : Except ε (Settings τ)) {p : Shared τ}
    {s : Numbered (Settings τ)} (h : p.settings = some s) :
    p.getSettings load false = (pure (.ok s, p) : Run τ ω _) := by
  simp [getSettings, h]

/-- A load that fails changes nothing. -/
theorem getSettings_failed (e : ε) (reload : Bool) (p : Shared τ)
    (h : reload = true ∨ p.settings = none) :
    p.getSettings (.error e) reload = (pure (.error e, p) : Run τ ω _) := by
  rcases h with rfl | h
  · rfl
  · cases reload <;> simp [getSettings, h]

/-- Forget the settings. -/
def clearSettings (p : Shared τ) : Shared τ := { p with settings := none }

/-- Change the settings in force in place, for everyone who holds them. -/
def amendSettings (f : Settings τ → Settings τ) (p : Shared τ) : Shared τ :=
  let amend (number : Nat) (s : Numbered (Settings τ)) : Numbered (Settings τ) :=
    if s.number = number then ⟨s.number, f s.value⟩ else s
  match p.settings with
  | none => p
  | some s =>
    { settings := some (amend s.number s)
      container := p.container.map fun c =>
        ⟨c.number, { c.value with settings := c.value.settings.map (amend s.number) }⟩ }

/-- The container; a new one is empty. -/
def getContainer (p : Shared τ) : Run τ ω (Numbered (Container τ) × Shared τ) :=
  match p.container with
  | some c => pure (c, p)
  | none => do
    let c ← Numbered.make ({} : Container τ)
    pure (c, { p with container := some c })

/-- The settings of a container: its own, or those in force. -/
def settingsFor (load : Except ε (Settings τ)) (c : Container τ) (p : Shared τ) :
    Run τ ω (Except ε (Numbered (Settings τ)) × Shared τ) :=
  match c.settings with
  | some s => pure (.ok s, p)
  | none => p.getSettings load false

/-- Keep a container. -/
def keepContainer (c : Numbered (Container τ)) (p : Shared τ) : Shared τ :=
  { p with container := some c }

/-- The limiter of the container, with the container and its settings. -/
def getLimiter [Quantity τ] (load : Except ε (Settings τ)) (p : Shared τ) :
    Run τ ω (Except ε (Numbered (Container τ) × Numbered (Settings τ) × Limiter τ)
      × Shared τ) := do
  let (c, p) ← p.getContainer
  match ← p.settingsFor load c.value with
  | (.error e, p) => pure (.error e, p)
  | (.ok s, p) => do
    let (l, box) ← { c.value with settings := some s }.getLimiter s.value
    let c : Numbered (Container τ) := ⟨c.number, box⟩
    pure (.ok (c, s, l), p.keepContainer c)

/-- Close the container and forget it. -/
def resetContainer (p : Shared τ) : Run τ ω (Shared τ) :=
  match p.container with
  | none => pure p
  | some c => do
    let _ ← c.value.close
    pure { p with container := none }

end Shared

end Settle
