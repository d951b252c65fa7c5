import Settle.Proofs.Assembly.Lifecycle

/-!
# The settings in force

Settings are loaded from an environment, which may change at any time, and may then have none to
offer. What a process does with its settings is a course of turns: the environment changes, settings
are asked for, with or without a reload, or they are forgotten. `Keeper.Step.account` says once what
one turn does.

From the turn that gave settings up to the next clearing or the next reload that goes through, the
very same settings are in force (`Course.kept`). Where there are none, the last ones that were given
have been forgotten (`Course.given_of_some`). Every instance has a number that none before it has,
so that "the very same" tells one load from another, even of equal settings.

Main statement: `Keeper.get_after_course`.
-/

namespace Settle

variable {τ ω ε : Type}

/-- What a process keeps, and the world; the environment is its outside. -/
structure Keeper (τ ω : Type) where
  shared : Shared τ
  world : World τ ω

/-- What can be done: the environment changes, settings are asked for, or they are forgotten. -/
inductive Deed (ω : Type) where
  | change (environment : ω)
  | get (reload : Bool)
  | clear

/-- What comes of a deed. -/
inductive Turn (τ ω ε : Type) where
  | changed (environment : ω)
  | given (reload : Bool) (x : Numbered (Settings τ))
  | refused (reload : Bool) (e : ε)
  | cleared

/-- The deed of a turn. -/
def Turn.deed : Turn τ ω ε → Deed ω
  | changed o => .change o
  | given reload _ => .get reload
  | refused reload _ => .get reload
  | cleared => .clear

namespace Keeper

/-- Ask for the settings, in the environment as it is. -/
def get (load : ω → Except ε (Settings τ)) (s : Keeper τ ω) (reload : Bool) :
    Run τ ω (Except ε (Numbered (Settings τ)) × Shared τ) :=
  s.shared.getSettings (load s.world.outside) reload

/-- One turn. -/
inductive Step (load : ω → Except ε (Settings τ)) (s : Keeper τ ω) :
    Turn τ ω ε → Keeper τ ω → Prop
  | changed (o : ω) : Step load s (.changed o) { s with world := { s.world with outside := o } }
  | given {reload : Bool} {x : Numbered (Settings τ)} {p : Shared τ} {w : World τ ω}
      (h : (s.get load reload).Ends s.world (.ok (.ok x, p)) w) :
      Step load s (.given reload x) ⟨p, w⟩
  | refused {reload : Bool} {e : ε} {p : Shared τ} {w : World τ ω}
      (h : (s.get load reload).Ends s.world (.ok (.error e, p)) w) :
      Step load s (.refused reload e) ⟨p, w⟩
  | cleared : Step load s .cleared { s with shared := s.shared.clearSettings }

/-- Turns one after the other. -/
inductive Course (load : ω → Except ε (Settings τ)) :
    Keeper τ ω → List (Turn τ ω ε) → Keeper τ ω → Prop
  | nil (s : Keeper τ ω) : Course load s [] s
  | cons {s s₁ s' : Keeper τ ω} {t : Turn τ ω ε} {turns : List (Turn τ ω ε)}
      (first : s.Step load t s₁) (rest : Course load s₁ turns s') : Course load s (t :: turns) s'

/-! ### Asking for the settings -/

/-- The keeper once settings were loaded. -/
def loaded (s : Keeper τ ω) (v : Settings τ) : Keeper τ ω where
  shared := { s.shared with settings := some ⟨s.world.supply, v⟩ }
  world := { s.world with supply := s.world.supply + 1 }

variable {load : ω → Except ε (Settings τ)} {s s₁ s' : Keeper τ ω} {reload : Bool}

theorem get_held {x : Numbered (Settings τ)} (h : s.shared.settings = some x) :
    (s.get load false).Ends s.world (.ok (.ok x, s.shared)) s.world := by
  rw [get, Shared.getSettings_held _ h]
  rfl

theorem get_loaded (h : reload = true ∨ s.shared.settings = none) {v : Settings τ}
    (hv : load s.world.outside = .ok v) :
    (s.get load reload).Ends s.world (.ok (.ok ⟨s.world.supply, v⟩, (s.loaded v).shared))
      (s.loaded v).world := by
  rw [get, hv]
  exact Shared.getSettings_loaded h v s.world

theorem get_failed (h : reload = true ∨ s.shared.settings = none) {e : ε}
    (he : load s.world.outside = .error e) :
    (s.get load reload).Ends s.world (.ok (.error e, s.shared)) s.world := by
  rw [get, he, Shared.getSettings_failed e reload s.shared h]
  rfl

/-- Whether they are asked for, settings are in force, or they are to be loaded. -/
theorem held_or (load : ω → Except ε (Settings τ)) (s : Keeper τ ω) (reload : Bool) :
    (∃ x, reload = false ∧ s.shared.settings = some x) ∨
    (reload = true ∨ s.shared.settings = none) ∧
      ((∃ v, load s.world.outside = .ok v) ∨ ∃ e, load s.world.outside = .error e) := by
  have hload : (∃ v, load s.world.outside = .ok v) ∨ ∃ e, load s.world.outside = .error e := by
    cases load s.world.outside with
    | ok v => exact .inl ⟨v, rfl⟩
    | error e => exact .inr ⟨e, rfl⟩
  cases reload with
  | true => exact .inr ⟨.inl rfl, hload⟩
  | false =>
    cases hs : s.shared.settings with
    | some x => exact .inl ⟨x, rfl, rfl⟩
    | none => exact .inr ⟨.inr rfl, hload⟩

/-- **What one turn does.** -/
theorem Step.account {t : Turn τ ω ε} (h : s.Step load t s') :
    (∃ o, t = .changed o ∧ s' = { s with world := { s.world with outside := o } }) ∨
    (∃ x, t = .given false x ∧ s.shared.settings = some x ∧ s' = s) ∨
    (∃ reload v, t = .given reload ⟨s.world.supply, v⟩ ∧
      (reload = true ∨ s.shared.settings = none) ∧ s' = s.loaded v) ∨
    (∃ reload e, t = .refused reload e ∧ s' = s) ∨
    t = .cleared ∧ s' = { s with shared := s.shared.clearSettings } := by
  cases h with
  | changed o => exact .inl ⟨o, rfl, rfl⟩
  | @given reload x p w h =>
    rcases held_or load s reload with ⟨y, rfl, hy⟩ | ⟨hr, ⟨v, hv⟩ | ⟨e, he⟩⟩
    · obtain ⟨hx, rfl⟩ := h.unique (get_held hy)
      cases hx
      exact .inr (.inl ⟨_, rfl, hy, rfl⟩)
    · obtain ⟨hx, rfl⟩ := h.unique (get_loaded hr hv)
      cases hx
      exact .inr (.inr (.inl ⟨reload, v, rfl, hr, rfl⟩))
    · cases (h.unique (get_failed hr he)).1
  | @refused reload e p w h =>
    rcases held_or load s reload with ⟨y, rfl, hy⟩ | ⟨hr, ⟨v, hv⟩ | ⟨e', he⟩⟩
    · cases (h.unique (get_held hy)).1
    · cases (h.unique (get_loaded hr hv)).1
    · obtain ⟨hx, rfl⟩ := h.unique (get_failed hr he)
      cases hx
      exact .inr (.inr (.inr (.inl ⟨reload, e, rfl, rfl⟩)))
  | cleared => exact .inr (.inr (.inr (.inr ⟨rfl, rfl⟩)))

/-- Whatever is done, something comes of it. -/
theorem exists_step (load : ω → Except ε (Settings τ)) (s : Keeper τ ω) (deed : Deed ω) :
    ∃ t s', t.deed = deed ∧ s.Step load t s' := by
  cases deed with
  | change o => exact ⟨.changed o, _, rfl, .changed o⟩
  | get reload =>
    rcases held_or load s reload with ⟨x, rfl, hx⟩ | ⟨hr, ⟨v, hv⟩ | ⟨e, he⟩⟩
    · exact ⟨.given false x, _, rfl, .given (get_held hx)⟩
    · exact ⟨.given reload _, _, rfl, .given (get_loaded hr hv)⟩
    · exact ⟨.refused reload e, _, rfl, .refused (get_failed hr he)⟩
  | clear => exact ⟨.cleared, _, rfl, .cleared⟩

/-! ### Turns one after the other -/

/-- The settings in force have a number that was drawn. -/
def IsDrawn (s : Keeper τ ω) : Prop := ∀ x, s.shared.settings = some x → x.number < s.world.supply

section Step

variable {t : Turn τ ω ε} (h : s.Step load t s')
include h

/-- What is given is in force from then on. -/
theorem Step.settings {x : Numbered (Settings τ)} (ht : t = .given reload x) :
    s'.shared.settings = some x := by
  rcases h.account with
    ⟨o, rfl, -⟩ | ⟨y, rfl, hy, rfl⟩ | ⟨r, v, rfl, -, rfl⟩ | ⟨r, e, rfl, -⟩ | ⟨rfl, -⟩
  all_goals cases ht
  · exact hy
  · rfl

/-- Settings stay in force through every turn but a clearing or a reload that goes through. -/
theorem Step.kept {x : Numbered (Settings τ)} (hx : s.shared.settings = some x)
    (hc : t ≠ .cleared) (hr : ∀ y, t ≠ .given true y) : s'.shared.settings = some x := by
  rcases h.account with
    ⟨o, -, rfl⟩ | ⟨y, -, -, rfl⟩ | ⟨r, v, rfl, rfl | hnone, -⟩ | ⟨r, e, -, rfl⟩ | ⟨rfl, -⟩
  · exact hx
  · exact hx
  · exact absurd rfl (hr _)
  · cases hx.symm.trans hnone
  · exact hx
  · exact absurd rfl hc

/-- Settings that are in force after a turn were given by it, or in force before. -/
theorem Step.given_or_kept {x : Numbered (Settings τ)} (hx : s'.shared.settings = some x) :
    (∃ reload, t = .given reload x) ∨ t ≠ .cleared ∧ s.shared.settings = some x := by
  rcases h.account with
    ⟨o, rfl, rfl⟩ | ⟨y, rfl, -, rfl⟩ | ⟨r, v, rfl, -, rfl⟩ | ⟨r, e, rfl, rfl⟩ | ⟨-, rfl⟩
  · exact .inr ⟨nofun, hx⟩
  · exact .inr ⟨nofun, hx⟩
  · cases hx
    exact .inl ⟨r, rfl⟩
  · exact .inr ⟨nofun, hx⟩
  · cases hx

/-- No number is given back, and the settings in force go on having one that was drawn. -/
theorem Step.isDrawn (hs : s.IsDrawn) : s.world.supply ≤ s'.world.supply ∧ s'.IsDrawn := by
  rcases h.account with
    ⟨o, -, rfl⟩ | ⟨y, -, -, rfl⟩ | ⟨r, v, -, -, rfl⟩ | ⟨r, e, -, rfl⟩ | ⟨-, rfl⟩
  · exact ⟨Nat.le_refl _, hs⟩
  · exact ⟨Nat.le_refl _, hs⟩
  · refine ⟨Nat.le_succ _, fun x hx => ?_⟩
    cases hx
    exact Nat.lt_succ_self _
  · exact ⟨Nat.le_refl _, hs⟩
  · exact ⟨Nat.le_refl _, nofun⟩

end Step

namespace Course

variable {turns turns' : List (Turn τ ω ε)}

theorem exists_of_append (h : s.Course load (turns ++ turns') s') :
    ∃ s₁, s.Course load turns s₁ ∧ s₁.Course load turns' s' := by
  induction turns generalizing s with
  | nil => exact ⟨s, .nil s, h⟩
  | cons t turns ih =>
    cases h with
    | cons first rest =>
      obtain ⟨s₁, h₁, h'⟩ := ih rest
      exact ⟨s₁, .cons first h₁, h'⟩

/-- **The very same settings** stay in force up to the next clearing or the next reload that goes
through. -/
theorem kept (h : s.Course load turns s') {x : Numbered (Settings τ)}
    (hx : s.shared.settings = some x) (hc : .cleared ∉ turns) (hr : ∀ y, .given true y ∉ turns) :
    s'.shared.settings = some x := by
  induction h with
  | nil => exact hx
  | cons first _ ih =>
    refine ih (first.kept hx ?_ ?_) ?_ ?_
    · rintro rfl
      exact hc (.head _)
    · rintro y rfl
      exact hr y (.head _)
    · exact fun hmem => hc (.tail _ hmem)
    · exact fun y hmem => hr y (.tail _ hmem)

/-- Settings in force were given, and not forgotten since, or they were in force to begin with. -/
theorem given_of_some (h : s.Course load turns s') {x : Numbered (Settings τ)}
    (hx : s'.shared.settings = some x) :
    (∃ before reload after, turns = before ++ .given reload x :: after ∧ .cleared ∉ after) ∨
      .cleared ∉ turns ∧ s.shared.settings = some x := by
  induction h with
  | nil => exact .inr ⟨List.not_mem_nil, hx⟩
  | @cons s s₁ s' t turns first rest ih =>
    rcases ih hx with ⟨before, reload, after, rfl, hafter⟩ | ⟨hturns, hx₁⟩
    · exact .inl ⟨t :: before, reload, after, rfl, hafter⟩
    · rcases first.given_or_kept hx₁ with ⟨reload, rfl⟩ | ⟨ht, hx₀⟩
      · exact .inl ⟨[], reload, turns, rfl, hturns⟩
      · refine .inr ⟨?_, hx₀⟩
        rintro (_ | ⟨_, hmem⟩)
        · exact ht rfl
        · exact hturns hmem

/-- The numbers of all settings that were given were drawn. -/
theorem number_lt (h : s.Course load turns s') (hs : s.IsDrawn) :
    s.world.supply ≤ s'.world.supply ∧
      ∀ reload x, .given reload x ∈ turns → x.number < s'.world.supply := by
  induction h with
  | nil => exact ⟨Nat.le_refl _, nofun⟩
  | @cons s s₁ s' t turns first rest ih =>
    obtain ⟨hle, hs₁⟩ := first.isDrawn hs
    obtain ⟨hle', hall⟩ := ih hs₁
    refine ⟨Nat.le_trans hle hle', fun reload x hmem => ?_⟩
    rcases List.mem_cons.mp hmem with ht | hmem
    · -- what a turn gives is in force after it, and so its number is drawn by then
      exact Nat.lt_of_lt_of_le (hs₁ x (first.settings ht.symm)) hle'
    · exact hall reload x hmem

end Course

/-! ### What is given next -/

/-- These settings were given, and neither forgotten since nor replaced by a reload. -/
def Stands (turns : List (Turn τ ω ε)) (x : Numbered (Settings τ)) : Prop :=
  ∃ before reload after, turns = before ++ .given reload x :: after ∧ .cleared ∉ after ∧
    ∀ y, .given true y ∉ after

/-- All settings that were given were forgotten since. -/
def Forgotten (turns : List (Turn τ ω ε)) : Prop :=
  ∀ before reload x after, turns = before ++ .given reload x :: after → .cleared ∈ after

variable {turns : List (Turn τ ω ε)}

theorem Stands.settings {x : Numbered (Settings τ)} (hx : Stands turns x)
    (h : s.Course load turns s') : s'.shared.settings = some x := by
  obtain ⟨before, reload, after, rfl, hc, hr⟩ := hx
  obtain ⟨s₁, -, h'⟩ := h.exists_of_append
  cases h' with
  | cons first rest => exact rest.kept (first.settings rfl) hc hr

theorem Forgotten.settings (hf : Forgotten turns) (hnone : s.shared.settings = none)
    (h : s.Course load turns s') : s'.shared.settings = none := by
  refine Option.eq_none_iff_forall_ne_some.mpr fun x hx => ?_
  rcases h.given_of_some hx with ⟨before, reload, after, hturns, hafter⟩ | ⟨-, hx₀⟩
  · exact hafter (hf before reload x after hturns)
  · cases hnone.symm.trans hx₀

/-- **The settings in force.** Let the environment change, and settings be asked for and forgotten,
in any order, beginning with none in force. Then to ask for them gives the very instance that was
loaded last, whatever has become of the environment, unless it was forgotten meanwhile. To ask for
a reload, or to ask at all when everything that was given has been forgotten, puts in force what the
environment as it is yields, as an instance that was never given before; and if it yields a failure
instead, that is what comes of it, and nothing has changed. Something comes of whatever is done. -/
theorem get_after_course {s₀ : Keeper τ ω} (hnone : s₀.shared.settings = none)
    (h : s₀.Course load turns s) :
    (∀ x, Stands turns x →
      (s.get load false).Ends s.world (.ok (.ok x, s.shared)) s.world) ∧
    (∀ reload, reload = true ∨ Forgotten turns →
      (∀ v, load s.world.outside = .ok v → ∃ n w,
        (s.get load reload).Ends s.world
          (.ok (.ok ⟨n, v⟩, { s.shared with settings := some ⟨n, v⟩ })) w ∧
        w.outside = s.world.outside ∧ ∀ r x, .given r x ∈ turns → x.number ≠ n) ∧
      ∀ e, load s.world.outside = .error e →
        (s.get load reload).Ends s.world (.ok (.error e, s.shared)) s.world) ∧
    ∀ deed, ∃ t s', t.deed = deed ∧ s.Step load t s' := by
  refine ⟨fun x hx => get_held (hx.settings h), fun reload hreload => ?_, exists_step load s⟩
  have hload : reload = true ∨ s.shared.settings = none :=
    hreload.imp_right fun hf => hf.settings hnone h
  refine ⟨fun v hv => ?_, fun e he => get_failed hload he⟩
  have hdrawn : s₀.IsDrawn := fun x hx => by cases hnone.symm.trans hx
  refine ⟨s.world.supply, _, get_loaded hload hv, rfl, fun r x hmem => ?_⟩
  exact Nat.ne_of_lt ((h.number_lt hdrawn).2 r x hmem)

/-- An environment that has settings to offer while it is there. -/
def loadWhile (there : Bool) : Except String (Settings Rat) :=
  if there then .ok .standard else .error "no settings"

/-- The environment goes away, a reload fails, and the settings of before are given all the same. -/
theorem get_after_course_away :
    ∃ (x : Numbered (Settings Rat)) (s : Keeper Rat Bool),
      (⟨{}, { outside := true }⟩ : Keeper Rat Bool).Course loadWhile
        [.given false x, .changed false, .refused true "no settings"] s ∧
      (s.get loadWhile false).Ends s.world (.ok (.ok x, s.shared)) s.world := by
  have hfirst : ((⟨{}, { outside := true }⟩ : Keeper Rat Bool).get loadWhile false).Ends _ _ _ :=
    get_loaded (.inr rfl) rfl
  have hcourse := Course.cons (.given hfirst) (.cons (.changed false)
    (.cons (.refused (get_failed (.inl rfl) rfl)) (.nil _)))
  obtain ⟨hstands, -, -⟩ := get_after_course rfl hcourse
  refine ⟨_, _, hcourse, hstands _ ⟨[], false, _, rfl, ?_, ?_⟩⟩
  · simp
  · simp

end Keeper

end Settle
