import Settle.Assembly.Container
import Settle.Proofs.Run.Ends

/-!
# How a container is wired

Whatever a container is asked for first, its components go through each other: a poller through the
classifier that the container holds, a reader and a workflow through its limiter and its poller, a
workflow and every invoker through its profiles (`Container.IsWired`, `InvokerPart.IsOf`).

To ask a container for a component makes it grow (`Container.Grows`): it keeps every component that
it holds, and what it holds now and did not before has a number that was drawn meanwhile. The rules
for runs that make a container grow (`Builds.bind`) put the account of a component together from
those of its parts.

Main statement: `Container.ask_builds`.
-/

namespace Settle

open Assembly

variable {τ ω α β : Type}

namespace Container

/-! ### Numbers -/

/-- The numbers of a component and of all that it goes through. Settings are no component. -/
def Component.numbers : Component τ → List Nat
  | settings _ => []
  | limiter l => [l.number]
  | classifier k => [k.number]
  | poller p => [p.number, p.value.classifier.number]
  | profiles p => [p.number, p.value.short.number, p.value.long.number]
  | profile p => [p.number]
  | reader r =>
    [r.number, r.value.limiter.number, r.value.poller.number,
      r.value.poller.value.classifier.number]
  | workflow f =>
    [f.number, f.value.limiter.number, f.value.poller.number,
      f.value.poller.value.classifier.number, f.value.read.number, f.value.converge.number]
  | codec k => [k.number]
  | invoker i =>
    [i.number, i.value.limiter.number, i.value.classifier.number, i.value.poller.number,
      i.value.poller.value.classifier.number, i.value.profile.number]

/-- The limiter that a component is or goes through. -/
def Component.limiter? : Component τ → Option (Limiter τ)
  | limiter l => some l
  | reader r => some r.value.limiter
  | workflow f => some f.value.limiter
  | invoker i => some i.value.limiter
  | _ => none

/-- The container holds a component with this number, or profiles that have a profile with it. -/
def Owns (c : Container τ) (n : Nat) : Prop :=
  c.limiter.map Limiter.number = some n ∨ c.classifier.map Numbered.number = some n ∨
    c.poller.map Numbered.number = some n ∨ c.profiles.map Numbered.number = some n ∨
    (c.profiles.map fun p => p.value.short.number) = some n ∨
    (c.profiles.map fun p => p.value.long.number) = some n ∨
    c.reader.map Numbered.number = some n ∨ c.workflow.map Numbered.number = some n ∨
    c.codec.map Numbered.number = some n

/-! ### Wiring -/

/-- The components that a container holds go through each other. -/
structure IsWired (c : Container τ) : Prop where
  poller {p : Numbered (PollerPart τ)} (h : c.poller = some p) :
    c.classifier = some p.value.classifier
  reader {r : Numbered (ReaderPart τ)} (h : c.reader = some r) :
    c.limiter = some r.value.limiter ∧ c.poller = some r.value.poller
  workflow {f : Numbered (WorkflowPart τ)} (h : c.workflow = some f) :
    c.limiter = some f.value.limiter ∧ c.poller = some f.value.poller ∧
      ∃ p, c.profiles = some p ∧ f.value.read = p.value.short ∧ f.value.converge = p.value.long

/-- An invoker goes through the components that the container holds. -/
structure Shares (c : Container τ) (i : InvokerPart τ) : Prop where
  limiter : c.limiter = some i.limiter
  classifier : c.classifier = some i.classifier
  poller : c.poller = some i.poller
  profile : ∃ p, c.profiles = some p ∧ i.profile = p.value.short

/-- A container holds at least the components that another one does. -/
structure Extends (c c' : Container τ) : Prop where
  settings : ∀ x, c.settings = some x → c'.settings = some x
  limiter : ∀ x, c.limiter = some x → c'.limiter = some x
  classifier : ∀ x, c.classifier = some x → c'.classifier = some x
  poller : ∀ x, c.poller = some x → c'.poller = some x
  profiles : ∀ x, c.profiles = some x → c'.profiles = some x
  reader : ∀ x, c.reader = some x → c'.reader = some x
  workflow : ∀ x, c.workflow = some x → c'.workflow = some x
  codec : ∀ x, c.codec = some x → c'.codec = some x

namespace Extends

variable {c c₁ c' : Container τ}

theorem refl (c : Container τ) : Extends c c where
  settings _ h := h
  limiter _ h := h
  classifier _ h := h
  poller _ h := h
  profiles _ h := h
  reader _ h := h
  workflow _ h := h
  codec _ h := h

theorem trans (h : Extends c c₁) (h' : Extends c₁ c') : Extends c c' where
  settings x hx := h'.settings x (h.settings x hx)
  limiter x hx := h'.limiter x (h.limiter x hx)
  classifier x hx := h'.classifier x (h.classifier x hx)
  poller x hx := h'.poller x (h.poller x hx)
  profiles x hx := h'.profiles x (h.profiles x hx)
  reader x hx := h'.reader x (h.reader x hx)
  workflow x hx := h'.workflow x (h.workflow x hx)
  codec x hx := h'.codec x (h.codec x hx)

end Extends

/-- In the second world the container holds more than in the first: all that it held, and what was
made meanwhile. -/
structure Grows (c : Container τ) (w : World τ ω) (c' : Container τ) (w' : World τ ω) : Prop where
  keeps : c.Extends c'
  wired : c'.IsWired
  owns : ∀ n, c'.Owns n → c.Owns n ∨ w.supply ≤ n ∧ n < w'.supply
  supply : w.supply ≤ w'.supply
  limiters : w'.limiters = w.limiters

namespace Grows

variable {c c₁ c' : Container τ} {w w₁ w' : World τ ω}

theorem refl (hc : c.IsWired) (w : World τ ω) : c.Grows w c w where
  keeps := .refl c
  wired := hc
  owns _ h := .inl h
  supply := Nat.le_refl _
  limiters := rfl

theorem trans (h : c.Grows w c₁ w₁) (h' : c₁.Grows w₁ c' w') : c.Grows w c' w' where
  keeps := h.keeps.trans h'.keeps
  wired := h'.wired
  owns n hn := by
    have := h.supply
    have := h'.supply
    rcases h'.owns n hn with hn | hn
    · rcases h.owns n hn with hn | hn
      · exact .inl hn
      · exact .inr (by omega)
    · exact .inr (by omega)
  supply := Nat.le_trans h.supply h'.supply
  limiters := h'.limiters.trans h.limiters

/-- One component was made, in the place of none. -/
theorem of_made (hkeeps : c.Extends c') (hwired : c'.IsWired)
    (howns : ∀ n, c'.Owns n → c.Owns n ∨ n = w.supply) (hsupply : w'.supply = w.supply + 1)
    (hlimiters : w'.limiters = w.limiters) : c.Grows w c' w' where
  keeps := hkeeps
  wired := hwired
  owns n hn := by
    rcases howns n hn with hn | rfl
    · exact .inl hn
    · exact .inr (by omega)
  supply := by omega
  limiters := hlimiters

end Grows

/-- The run makes the container grow, and gives something of it. -/
def Builds (m : Run τ ω (α × Container τ)) (c : Container τ) (w : World τ ω)
    (P : α → Container τ → World τ ω → Prop) : Prop :=
  ∃ x c' w', m.Ends w (.ok (x, c')) w' ∧ c.Grows w c' w' ∧ P x c' w'

namespace Builds

variable {m : Run τ ω (α × Container τ)} {c : Container τ} {w : World τ ω}
  {P : α → Container τ → World τ ω → Prop} {Q : β → Container τ → World τ ω → Prop}

theorem pure {x : α} (hc : c.IsWired) (hx : P x c w) :
    Builds (Pure.pure (x, c) : Run τ ω (α × Container τ)) c w P :=
  ⟨x, c, w, rfl, .refl hc w, hx⟩

theorem bind {f : α × Container τ → Run τ ω (β × Container τ)} (h : Builds m c w P)
    (hf : ∀ x c' w', c.Grows w c' w' → P x c' w' → Builds (f (x, c')) c' w' Q) :
    Builds (m >>= f) c w Q := by
  obtain ⟨x, c₁, w₁, hm, hgrows, hx⟩ := h
  obtain ⟨y, c', w', hy, hgrows', hQ⟩ := hf x c₁ w₁ hgrows hx
  exact ⟨y, c', w', (Run.ends_step_bind hm).mpr hy, hgrows.trans hgrows', hQ⟩

end Builds

/-! ### Making components -/

section Valid

variable [Quantity τ] {s : Settings τ} (hs : s.IsValid)
include hs

/-- Valid settings make profiles. -/
theorem exists_profiles : ∃ short long,
    Profile.create? (.text "short_read") s.shortReadInterval s.shortReadDeadline = .ok short ∧
    Profile.create? (.text "long_converge") s.longConvergeInterval s.longConvergeDeadline =
      .ok long := by
  obtain ⟨hpositive, -⟩ := s.isValid_iff.mp hs
  refine ⟨_, _, Profile.create?_eq_ok_iff.mpr ⟨rfl, ?_, ?_⟩,
    Profile.create?_eq_ok_iff.mpr ⟨rfl, ?_, ?_⟩⟩
  · exact hpositive ("short_read_interval", s.shortReadInterval) (by simp [Settings.positives])
  · exact hpositive ("short_read_deadline", s.shortReadDeadline) (by simp [Settings.positives])
  · exact hpositive ("long_converge_interval", s.longConvergeInterval)
      (by simp [Settings.positives])
  · exact hpositive ("long_converge_deadline", s.longConvergeDeadline)
      (by simp [Settings.positives])

/-- Valid settings have a delimiter. -/
theorem delimiter_ne_nil : s.idDelimiter.toList ≠ [] := by
  obtain ⟨-, -, -, hd, -⟩ := s.isValid_iff.mp hs
  intro h
  rw [String.toList_eq_nil_iff.mp h] at hd
  cases hd

end Valid

section Getters

variable (s : Settings τ) {c : Container τ} (hc : c.IsWired) (w : World τ ω)
include hc

theorem getLimiter_builds :
    Builds (c.getLimiter s) c w fun l c' _ => c' = { c with limiter := some l } := by
  rw [getLimiter]
  cases hl : c.limiter with
  | some l => exact .pure hc (by rw [← hl])
  | none =>
    have hnone := Option.eq_none_iff_forall_ne_some.mp hl
    refine ⟨s.limiter w.supply, _, _, rfl, .of_made ?_ ?_ ?_ rfl rfl, rfl⟩
    · exact { Extends.refl c with limiter := fun l h => absurd h (hnone l) }
    · exact {
        poller := hc.poller
        reader := fun h => absurd (hc.reader h).1 (hnone _)
        workflow := fun h => absurd (hc.workflow h).1 (hnone _) }
    · grind [Owns, Settings.limiter]

theorem getClassifier_builds :
    Builds (c.getClassifier s) c w fun k c' _ => c' = { c with classifier := some k } := by
  rw [getClassifier]
  cases hk : c.classifier with
  | some k => exact .pure hc (by rw [← hk])
  | none =>
    have hnone := Option.eq_none_iff_forall_ne_some.mp hk
    refine ⟨⟨w.supply, s.classifier⟩, _, _, rfl, .of_made ?_ ?_ ?_ rfl rfl, rfl⟩
    · exact { Extends.refl c with classifier := fun k h => absurd h (hnone k) }
    · exact {
        poller := fun h => absurd (hc.poller h) (hnone _)
        reader := hc.reader
        workflow := hc.workflow }
    · grind [Owns]

theorem getPoller_builds :
    Builds (c.getPoller s) c w fun p c' _ =>
      c' = { c with classifier := some p.value.classifier, poller := some p } := by
  rw [getPoller]
  cases hp : c.poller with
  | some p => exact .pure hc (by rw [← hp, ← hc.poller hp])
  | none =>
    have hnone := Option.eq_none_iff_forall_ne_some.mp hp
    refine (getClassifier_builds s hc w).bind ?_
    rintro k _ w₁ hgrows rfl
    -- what goes through a poller would have been made after one, so there is none yet
    refine ⟨⟨w₁.supply, ⟨k⟩⟩, _, _, rfl, .of_made ?_ ?_ ?_ rfl rfl, rfl⟩
    · exact { Extends.refl _ with poller := fun p h => absurd h (hnone p) }
    · exact {
        poller := fun h => by cases h; rfl
        reader := fun h => absurd (hc.reader h).2 (hnone _)
        workflow := fun h => absurd (hc.workflow h).2.1 (hnone _) }
    · grind [Owns]

theorem getReader_builds :
    Builds (c.getReader s) c w fun r c' _ => c'.reader = some r := by
  rw [getReader]
  cases hr : c.reader with
  | some r => exact .pure hc hr
  | none =>
    have hnone := Option.eq_none_iff_forall_ne_some.mp hr
    refine (getLimiter_builds s hc w).bind ?_
    rintro l _ w₁ hgrows₁ rfl
    refine (getPoller_builds s hgrows₁.wired w₁).bind ?_
    rintro p _ w₂ hgrows₂ rfl
    refine ⟨⟨w₂.supply, ⟨l, p⟩⟩, _, _, rfl, .of_made ?_ ?_ ?_ rfl rfl, rfl⟩
    · exact { Extends.refl _ with reader := fun r h => absurd h (hnone r) }
    · exact {
        poller := hgrows₂.wired.poller
        reader := fun h => by
          cases h
          exact ⟨rfl, rfl⟩
        workflow := hgrows₂.wired.workflow }
    · grind [Owns]

theorem getCodec_builds (hs : s.idDelimiter.toList ≠ []) :
    Builds (c.getCodec s) c w fun k c' _ => c'.codec = some k := by
  rw [getCodec]
  cases hk : c.codec with
  | some k => exact .pure hc hk
  | none =>
    have hnone := Option.eq_none_iff_forall_ne_some.mp hk
    have hcodec : Codec.ofDelimiter? s.idDelimiter = .ok ⟨s.idDelimiter, hs⟩ := dif_neg hs
    rw [hcodec]
    refine ⟨⟨w.supply, ⟨s.idDelimiter, hs⟩⟩, _, _, rfl, .of_made ?_ ?_ ?_ rfl rfl, rfl⟩
    · exact { Extends.refl c with codec := fun k h => absurd h (hnone k) }
    · exact ⟨hc.poller, hc.reader, hc.workflow⟩
    · grind [Owns]

variable [Quantity τ]

theorem getProfiles_builds (hs : s.IsValid) :
    Builds (c.getProfiles s) c w fun p c' _ => c' = { c with profiles := some p } := by
  rw [getProfiles]
  cases hp : c.profiles with
  | some p => exact .pure hc (by rw [← hp])
  | none =>
    have hnone := Option.eq_none_iff_forall_ne_some.mp hp
    obtain ⟨short, long, hshort, hlong⟩ := exists_profiles hs
    rw [hshort, hlong]
    refine ⟨⟨w.supply + 2, ⟨⟨w.supply, short⟩, ⟨w.supply + 1, long⟩⟩⟩, _, _, rfl, ?_, rfl⟩
    exact {
      keeps := { Extends.refl c with profiles := fun p h => absurd h (hnone p) }
      wired := {
        poller := hc.poller
        reader := hc.reader
        workflow := fun h => by
          obtain ⟨p, hp', -⟩ := (hc.workflow h).2.2
          exact absurd hp' (hnone _) }
      owns := by grind [Owns]
      supply := Nat.le_add_right _ 3
      limiters := rfl }

theorem getWorkflow_builds (hs : s.IsValid) :
    Builds (c.getWorkflow s) c w fun f c' _ => c'.workflow = some f := by
  rw [getWorkflow]
  cases hf : c.workflow with
  | some f => exact .pure hc hf
  | none =>
    have hnone := Option.eq_none_iff_forall_ne_some.mp hf
    refine (getPoller_builds s hc w).bind ?_
    rintro p _ w₁ hgrows₁ rfl
    refine (getLimiter_builds s hgrows₁.wired w₁).bind ?_
    rintro l _ w₂ hgrows₂ rfl
    refine (getProfiles_builds s hgrows₂.wired w₂ hs).bind ?_
    rintro profiles _ w₃ hgrows₃ rfl
    refine ⟨⟨w₃.supply, ⟨p, l, profiles.value.short, profiles.value.long⟩⟩, _, _, rfl,
      .of_made ?_ ?_ ?_ rfl rfl, rfl⟩
    · exact { Extends.refl _ with workflow := fun f h => absurd h (hnone f) }
    · exact {
        poller := hgrows₃.wired.poller
        reader := hgrows₃.wired.reader
        workflow := fun h => by
          cases h
          exact ⟨rfl, rfl, profiles, rfl, rfl, rfl⟩ }
    · grind [Owns]

theorem getInvoker_builds (hs : s.IsValid) :
    Builds (c.getInvoker s) c w fun i c' w' =>
      c'.Shares i.value ∧ w.supply ≤ i.number ∧ i.number < w'.supply := by
  rw [getInvoker]
  refine (getLimiter_builds s hc w).bind fun l c₁ w₁ hgrows₁ hl => ?_
  refine (getClassifier_builds s hgrows₁.wired w₁).bind fun k c₂ w₂ hgrows₂ hk => ?_
  refine (getPoller_builds s hgrows₂.wired w₂).bind fun p c₃ w₃ hgrows₃ hp => ?_
  refine (getProfiles_builds s hgrows₃.wired w₃ hs).bind fun profiles c₄ w₄ hgrows₄ hprofiles => ?_
  have hgrows : c.Grows w c₄ w₄ := ((hgrows₁.trans hgrows₂).trans hgrows₃).trans hgrows₄
  -- what was found or made first is still held when the last part is there
  have hkeeps : c₂.Extends c₄ := hgrows₃.keeps.trans hgrows₄.keeps
  have hshares : c₄.Shares ⟨l, k, p, profiles.value.short⟩ := {
    limiter := hkeeps.limiter l (hgrows₂.keeps.limiter l (by rw [hl]))
    classifier := hkeeps.classifier k (by rw [hk])
    poller := hgrows₄.keeps.poller p (by rw [hp])
    profile := ⟨profiles, by rw [hprofiles], rfl⟩ }
  refine ⟨⟨w₄.supply, ⟨l, k, p, profiles.value.short⟩⟩, c₄, { w₄ with supply := w₄.supply + 1 },
    rfl, ?_, hshares, hgrows.supply, Nat.lt_succ_self _⟩
  exact .of_made (.refl c₄) hgrows₄.wired (fun _ hn => .inl hn) rfl rfl

end Getters

/-! ### Asking for any component -/

/-- What the container holds of what it can be asked for. -/
def found? (c : Container τ) : Property → Option (Component τ)
  | .settings => c.settings.map .settings
  | .limiter => c.limiter.map .limiter
  | .classifier => c.classifier.map .classifier
  | .poller => c.poller.map .poller
  | .profiles => c.profiles.map .profiles
  | .shortRead => c.profiles.map fun p => .profile p.value.short
  | .longConverge => c.profiles.map fun p => .profile p.value.long
  | .reader => c.reader.map .reader
  | .workflow => c.workflow.map .workflow
  | .codec => c.codec.map .codec
  | .invoker => none

/-- The component is the one that the container holds, or an invoker that goes through those. -/
inductive Gives (c : Container τ) : Property → Component τ → Prop
  | held {q : Property} {x : Component τ} (h : c.found? q = some x) : Gives c q x
  | invoker {i : Numbered (InvokerPart τ)} (h : c.Shares i.value) : Gives c .invoker (.invoker i)

namespace Gives

variable {c c' : Container τ} {q : Property} {x y : Component τ}

/-- A container that holds more gives what it gave. -/
theorem mono (h : c.Gives q x) (hc : c.Extends c') : c'.Gives q x := by
  cases h with
  | held h =>
    refine .held ?_
    cases q <;> simp only [found?, Option.map_eq_some_iff, reduceCtorEq] at h ⊢
    all_goals obtain ⟨y, hy, rfl⟩ := h
    · exact ⟨y, hc.settings y hy, rfl⟩
    · exact ⟨y, hc.limiter y hy, rfl⟩
    · exact ⟨y, hc.classifier y hy, rfl⟩
    · exact ⟨y, hc.poller y hy, rfl⟩
    · exact ⟨y, hc.profiles y hy, rfl⟩
    · exact ⟨y, hc.profiles y hy, rfl⟩
    · exact ⟨y, hc.profiles y hy, rfl⟩
    · exact ⟨y, hc.reader y hy, rfl⟩
    · exact ⟨y, hc.workflow y hy, rfl⟩
    · exact ⟨y, hc.codec y hy, rfl⟩
  | invoker h =>
    obtain ⟨p, hp, hprofile⟩ := h.profile
    exact .invoker {
      limiter := hc.limiter _ h.limiter
      classifier := hc.classifier _ h.classifier
      poller := hc.poller _ h.poller
      profile := ⟨p, hc.profiles p hp, hprofile⟩ }

/-- Whatever it gives but invokers it gives again. -/
theorem unique (h : c.Gives q x) (h' : c.Gives q y) (hq : q ≠ .invoker) : x = y := by
  cases h with
  | held h =>
    cases h' with
    | held h' => exact Option.some.inj (h.symm.trans h')
    | invoker => exact absurd rfl hq
  | invoker => exact absurd rfl hq

/-- What is held is given, and is no invoker. -/
theorem of_found {P : Prop} (h : c.found? q = some x) : c.Gives q x ∧ (q = .invoker → P) := by
  refine ⟨.held h, ?_⟩
  rintro rfl
  cases h

theorem exists_settings (h : c.Gives .settings x) :
    ∃ s, c.settings = some s ∧ x = .settings s := by
  cases h with
  | held h =>
    obtain ⟨s, hs, hx⟩ := Option.map_eq_some_iff.mp h
    exact ⟨s, hs, hx.symm⟩

/-- The limiter that a component goes through is the one of the container. -/
theorem limiter (h : c.Gives q x) (hc : c.IsWired) {l : Limiter τ} (hl : x.limiter? = some l) :
    c.limiter = some l := by
  cases h with
  | held h =>
    cases q <;> simp only [found?, Option.map_eq_some_iff, reduceCtorEq] at h
    all_goals
      obtain ⟨y, hy, rfl⟩ := h
      cases hl
    · exact hy
    · exact (hc.reader hy).1
    · exact (hc.workflow hy).1
  | invoker h =>
    cases hl
    exact h.limiter

/-- The numbers of a component belong to the container, but for the one of an invoker itself. -/
theorem owns (h : c.Gives q x) (hc : c.IsWired) {n : Nat} (hn : n ∈ x.numbers) :
    c.Owns n ∨ q = .invoker ∧ n = x.number := by
  cases h with
  | held h =>
    refine .inl ?_
    cases q <;> simp only [found?, Option.map_eq_some_iff, reduceCtorEq] at h
    all_goals
      obtain ⟨y, hy, rfl⟩ := h
      simp only [Component.numbers, List.mem_cons, List.not_mem_nil, or_false] at hn
    · grind [Owns]
    · grind [Owns]
    · grind [Owns, hc.poller hy]
    · grind [Owns]
    · grind [Owns]
    · grind [Owns]
    · grind [Owns, hc.reader hy, hc.poller (hc.reader hy).2]
    · grind [Owns, hc.workflow hy, hc.poller (hc.workflow hy).2.1]
    · grind [Owns]
  | invoker h =>
    simp only [Component.numbers, List.mem_cons, List.not_mem_nil, or_false] at hn
    grind [Owns, h.limiter, h.classifier, h.poller, h.profile, hc.poller h.poller, Component.number]

end Gives

/-- **Whatever a container is asked for** it gives, and grows by what it took to make it. An invoker
is new. -/
theorem ask_builds [Quantity τ] {s : Numbered (Settings τ)} (hs : s.value.IsValid) {c : Container τ}
    (hc : c.IsWired) (hset : c.settings = some s) (q : Property) (w : World τ ω) :
    Builds (c.ask s q) c w fun x c' w' =>
      c'.Gives q x ∧ (q = .invoker → w.supply ≤ x.number ∧ x.number < w'.supply) := by
  cases q with
  | settings =>
    have hsame : { c with settings := some s } = c := by rw [← hset]
    rw [ask, hsame]
    exact .pure hc (Gives.of_found (by rw [found?, hset]; rfl))
  | limiter =>
    refine (getLimiter_builds s.value hc w).bind fun l c' w' hgrows hc' => ?_
    exact .pure hgrows.wired (Gives.of_found (by rw [hc']; rfl))
  | classifier =>
    refine (getClassifier_builds s.value hc w).bind fun k c' w' hgrows hc' => ?_
    exact .pure hgrows.wired (Gives.of_found (by rw [hc']; rfl))
  | poller =>
    refine (getPoller_builds s.value hc w).bind fun p c' w' hgrows hc' => ?_
    exact .pure hgrows.wired (Gives.of_found (by rw [hc']; rfl))
  | profiles | shortRead | longConverge =>
    refine (getProfiles_builds s.value hc w hs).bind fun p c' w' hgrows hc' => ?_
    exact .pure hgrows.wired (Gives.of_found (by rw [hc']; rfl))
  | reader =>
    refine (getReader_builds s.value hc w).bind fun r c' w' hgrows hr => ?_
    exact .pure hgrows.wired (Gives.of_found (by rw [found?, hr]; rfl))
  | workflow =>
    refine (getWorkflow_builds s.value hc w hs).bind fun f c' w' hgrows hf => ?_
    exact .pure hgrows.wired (Gives.of_found (by rw [found?, hf]; rfl))
  | codec =>
    refine (getCodec_builds s.value hc w (delimiter_ne_nil hs)).bind fun k c' w' hgrows hk => ?_
    exact .pure hgrows.wired (Gives.of_found (by rw [found?, hk]; rfl))
  | invoker =>
    refine (getInvoker_builds s.value hc w hs).bind fun i c' w' hgrows hi => ?_
    exact .pure hgrows.wired ⟨.invoker hi.1, fun _ => hi.2⟩

end Container

end Settle
