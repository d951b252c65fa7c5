import Settle.Gateway.Invoker
import Settle.Identifier.Codec
import Settle.Listing.Traversal
import Settle.Settings.Basic
import Settle.Task.Workflow

/-!
# The components of a process

A container holds the components that a process shares. Each is made from the settings when
it is first asked for, of the components the container already holds, and is handed out
again on every later request, until the container is closed; then all but the settings are
made anew.

Every component has a number of its own, drawn from the supply of the world, and a component
that uses another holds it with its number. So "uses the same limiter" is a statement about
values.

Main statements: `getPoller_of_some` and its like say that a component once made is handed out
unchanged; `close_settings` says that closing keeps the settings.
-/

namespace Settle

/-- A value with a number that tells it from all others. -/
structure Numbered (α : Type) where
  number : Nat
  value : α

/-- Give a value a number that no component has yet. -/
def Numbered.make {τ ω α : Type} (value : α) : Run τ ω (Numbered α) := do
  pure ⟨← Run.fresh, value⟩

namespace Assembly

variable {τ ω : Type}

/-! ### Components and their parts -/

/-- The two profiles of a process. -/
structure Profiles (τ : Type) where
  short : Numbered (Profile τ)
  long : Numbered (Profile τ)

/-- A poller and the classifier it uses. -/
structure PollerPart (τ : Type) where
  classifier : Numbered (CodeClassifier τ)

/-- A reader of listings and what it goes through. -/
structure ReaderPart (τ : Type) where
  limiter : Limiter τ
  poller : Numbered (PollerPart τ)

/-- A workflow and what it goes through. -/
structure WorkflowPart (τ : Type) where
  poller : Numbered (PollerPart τ)
  limiter : Limiter τ
  read : Numbered (Profile τ)
  converge : Numbered (Profile τ)

/-- An invoker, but for its client, and what it goes through. -/
structure InvokerPart (τ : Type) where
  limiter : Limiter τ
  classifier : Numbered (CodeClassifier τ)
  poller : Numbered (PollerPart τ)
  profile : Numbered (Profile τ)

/-- The poller of a part. -/
def PollerPart.poller (p : PollerPart τ) : Poller τ ω :=
  { classifier := p.classifier.value.toClassifier }

/-- The reader of a part. -/
def ReaderPart.reader (p : ReaderPart τ) : Reader τ ω := ⟨some p.limiter, p.poller.value.poller⟩

/-- The workflow of a part. -/
def WorkflowPart.workflow (p : WorkflowPart τ) : Workflow τ ω :=
  { poller := p.poller.value.poller
    limiter := some p.limiter
    readProfile := some p.read.value
    convergeProfile := some p.converge.value }

/-- The invoker of a part for a client. -/
def InvokerPart.invoker (p : InvokerPart τ)
    (client : String → Value → ω → Except (Fault τ) Value × ω) : Invoker τ ω :=
  { client
    limiter := some p.limiter
    classifier := p.classifier.value.toClassifier
    poller := p.poller.value.poller
    profile := some p.profile.value }

end Assembly

open Assembly

/-- The components that a process shares, as far as they are made. -/
structure Container (τ : Type) where
  settings : Option (Numbered (Settings τ)) := none
  limiter : Option (Limiter τ) := none
  classifier : Option (Numbered (CodeClassifier τ)) := none
  poller : Option (Numbered (PollerPart τ)) := none
  profiles : Option (Numbered (Profiles τ)) := none
  reader : Option (Numbered (ReaderPart τ)) := none
  workflow : Option (Numbered (WorkflowPart τ)) := none
  codec : Option (Numbered Codec) := none

namespace Container

variable {τ ω : Type} [Quantity τ]

/-! ### Making components -/

/-- The limiter. Making it is reported. -/
def getLimiter (s : Settings τ) (c : Container τ) : Run τ ω (Limiter τ × Container τ) :=
  match c.limiter with
  | some l => pure (l, c)
  | none => do
    let l := s.limiter (← Run.fresh)
    Run.log (.limiterCreated s.defaultRate s.actionLimits.length)
    pure (l, { c with limiter := some l })

/-- The classifier. -/
def getClassifier (s : Settings τ) (c : Container τ) :
    Run τ ω (Numbered (CodeClassifier τ) × Container τ) :=
  match c.classifier with
  | some k => pure (k, c)
  | none => do
    let k ← Numbered.make s.classifier
    pure (k, { c with classifier := some k })

/-- The poller. -/
def getPoller (s : Settings τ) (c : Container τ) :
    Run τ ω (Numbered (PollerPart τ) × Container τ) :=
  match c.poller with
  | some p => pure (p, c)
  | none => do
    let (k, c) ← c.getClassifier s
    let p ← Numbered.make ⟨k⟩
    pure (p, { c with poller := some p })

/-- The profiles. -/
def getProfiles (s : Settings τ) (c : Container τ) :
    Run τ ω (Numbered (Profiles τ) × Container τ) :=
  match c.profiles with
  | some p => pure (p, c)
  | none => do
    let short ← Run.ofExcept
      (Profile.create? (.text "short_read") s.shortReadInterval s.shortReadDeadline)
    let long ← Run.ofExcept
      (Profile.create? (.text "long_converge") s.longConvergeInterval s.longConvergeDeadline)
    let p ← Numbered.make ⟨← Numbered.make short, ← Numbered.make long⟩
    pure (p, { c with profiles := some p })

/-- The reader of listings. -/
def getReader (s : Settings τ) (c : Container τ) :
    Run τ ω (Numbered (ReaderPart τ) × Container τ) :=
  match c.reader with
  | some r => pure (r, c)
  | none => do
    let (limiter, c) ← c.getLimiter s
    let (poller, c) ← c.getPoller s
    let r ← Numbered.make ⟨limiter, poller⟩
    pure (r, { c with reader := some r })

/-- The workflow. -/
def getWorkflow (s : Settings τ) (c : Container τ) :
    Run τ ω (Numbered (WorkflowPart τ) × Container τ) :=
  match c.workflow with
  | some w => pure (w, c)
  | none => do
    let (poller, c) ← c.getPoller s
    let (limiter, c) ← c.getLimiter s
    let (profiles, c) ← c.getProfiles s
    let w ← Numbered.make ⟨poller, limiter, profiles.value.short, profiles.value.long⟩
    pure (w, { c with workflow := some w })

/-- The codec. -/
def getCodec (s : Settings τ) (c : Container τ) :
    Run τ ω (Numbered Codec × Container τ) :=
  match c.codec with
  | some k => pure (k, c)
  | none =>
    match Codec.ofDelimiter? s.idDelimiter with
    | .error e => Run.raise e.toFault
    | .ok codec => do
      let k ← Numbered.make codec
      pure (k, { c with codec := some k })

/-- A new invoker, which shares the components of the container. -/
def getInvoker (s : Settings τ) (c : Container τ) :
    Run τ ω (Numbered (InvokerPart τ) × Container τ) := do
  let (limiter, c) ← c.getLimiter s
  let (classifier, c) ← c.getClassifier s
  let (poller, c) ← c.getPoller s
  let (profiles, c) ← c.getProfiles s
  let i ← Numbered.make ⟨limiter, classifier, poller, profiles.value.short⟩
  pure (i, c)

omit [Quantity τ] in
theorem getPoller_of_some (s : Settings τ) {c : Container τ} {p : Numbered (PollerPart τ)}
    (h : c.poller = some p) : c.getPoller s = (pure (p, c) : Run τ ω _) := by
  simp [getPoller, h]

omit [Quantity τ] in
theorem getLimiter_of_some (s : Settings τ) {c : Container τ} {l : Limiter τ}
    (h : c.limiter = some l) : c.getLimiter s = (pure (l, c) : Run τ ω _) := by
  simp [getLimiter, h]

/-! ### Closing -/

/-- Forget every component but the settings, and every bucket of the limiter. -/
def close (c : Container τ) : Run τ ω (Container τ) := do
  match c.limiter with
  | some l => l.reset
  | none => pure ()
  pure { settings := c.settings }

omit [Quantity τ] in
/-- Closing keeps the settings and nothing else. -/
theorem close_settings (c : Container τ) (w : World τ ω) :
    ∃ w', c.close w = .returned { settings := c.settings } w' := by
  unfold close
  cases c.limiter with
  | none => exact ⟨w, rfl⟩
  | some l => exact ⟨_, rfl⟩

/-! ### Reading any component -/

/-- What a container can be asked for. -/
inductive Property where
  | settings
  | limiter
  | classifier
  | poller
  | profiles
  | shortRead
  | longConverge
  | reader
  | workflow
  | codec
  | invoker
  deriving DecidableEq, Repr

/-- What a container hands out. -/
inductive Component (τ : Type) where
  | settings (s : Numbered (Settings τ))
  | limiter (l : Limiter τ)
  | classifier (k : Numbered (CodeClassifier τ))
  | poller (p : Numbered (PollerPart τ))
  | profiles (p : Numbered (Profiles τ))
  | profile (p : Numbered (Profile τ))
  | reader (r : Numbered (ReaderPart τ))
  | workflow (w : Numbered (WorkflowPart τ))
  | codec (k : Numbered Codec)
  | invoker (i : Numbered (InvokerPart τ))

/-- The number of a component. -/
def Component.number : Component τ → Nat
  | settings x => x.number
  | limiter x => x.number
  | classifier x => x.number
  | poller x => x.number
  | profiles x => x.number
  | profile x => x.number
  | reader x => x.number
  | workflow x => x.number
  | codec x => x.number
  | invoker x => x.number

/-- Ask a container, whose settings are `s`, for a component. -/
def ask (s : Numbered (Settings τ)) (c : Container τ) :
    Property → Run τ ω (Component τ × Container τ)
  | .settings => pure (.settings s, { c with settings := some s })
  | .limiter => do
    let (l, c) ← c.getLimiter s.value
    pure (.limiter l, c)
  | .classifier => do
    let (k, c) ← c.getClassifier s.value
    pure (.classifier k, c)
  | .poller => do
    let (p, c) ← c.getPoller s.value
    pure (.poller p, c)
  | .profiles => do
    let (p, c) ← c.getProfiles s.value
    pure (.profiles p, c)
  | .shortRead => do
    let (p, c) ← c.getProfiles s.value
    pure (.profile p.value.short, c)
  | .longConverge => do
    let (p, c) ← c.getProfiles s.value
    pure (.profile p.value.long, c)
  | .reader => do
    let (r, c) ← c.getReader s.value
    pure (.reader r, c)
  | .workflow => do
    let (w, c) ← c.getWorkflow s.value
    pure (.workflow w, c)
  | .codec => do
    let (k, c) ← c.getCodec s.value
    pure (.codec k, c)
  | .invoker => do
    let (i, c) ← c.getInvoker s.value
    pure (.invoker i, c)

end Container

end Settle
