import Settle.Assembly.Shared
import Settle.Proofs.Assembly.Wiring

/-!
# The life of a container

A container is read, asked for invokers and closed, in any order (`Scene.Course`), and meanwhile
anything may happen elsewhere. `Step.account` says once what one such step does to the container;
the rest follows by induction along a course.

Between two closings a container only grows, so what it has handed out it holds, and hands out
again. A closing empties it but for its settings, and every number that is drawn later is new
(`Scene.IsAbove`): nothing of what was handed out before is ever a part of what is handed out after.

Main statement: `container_shares`.
-/

namespace Settle

open Container

variable {τ ω ε : Type}

/-! ### Reading a property -/

/-- Where there are no settings in force, or a reload is asked for, those that are loaded are in
force from then on. -/
theorem Shared.getSettings_loaded {p : Shared τ} {reload : Bool}
    (h : reload = true ∨ p.settings = none) (v : Settings τ) (w : World τ ω) :
    p.getSettings (ε := ε) (.ok v) reload w =
      .returned (.ok ⟨w.supply, v⟩, { p with settings := some ⟨w.supply, v⟩ })
        { w with supply := w.supply + 1 } := by
  rcases h with rfl | h
  · rfl
  · cases reload <;> simp only [getSettings, h] <;> rfl

/-- Read a property of a container, or ask it for an invoker. The settings that this takes are its
own, or those in force; from then on it keeps them. -/
def Container.read [Quantity τ] (load : Except ε (Settings τ)) (q : Property) (c : Container τ)
    (p : Shared τ) : Run τ ω (Except ε (Component τ × Container τ) × Shared τ) := do
  match ← p.settingsFor load c with
  | (.error e, p) => pure (.error e, p)
  | (.ok s, p) => do
    let (x, c) ← { c with settings := some s }.ask s q
    pure (.ok (x, c), p)

section Read

variable [Quantity τ] {load : Except ε (Settings τ)} (hload : ∀ v, load = .ok v → v.IsValid)
  {c : Container τ} (hown : ∀ x, c.settings = some x → x.value.IsValid) {p : Shared τ}
  (hshared : ∀ x, p.settings = some x → x.value.IsValid) (w : World τ ω)
include hload hown hshared

/-- A container has settings to be read with, unless there are none to be had. -/
theorem exists_settingsFor_ends :
    (∃ set p' w', (p.settingsFor load c).Ends w (.ok (.ok set, p')) w' ∧ set.value.IsValid ∧
      (∀ x, c.settings = some x → x = set) ∧ (∀ x, p'.settings = some x → x.value.IsValid) ∧
      w.supply ≤ w'.supply ∧ w'.limiters = w.limiters) ∨
    ∃ e, load = .error e ∧ c.settings = none ∧ p.settings = none ∧
      (p.settingsFor load c).Ends w (.ok (.error e, p)) w := by
  rw [Shared.settingsFor]
  cases hc : c.settings with
  | some set =>
    have hsame (x : Numbered (Settings τ)) (h : some set = some x) : x = set :=
      (Option.some.inj h).symm
    exact .inl ⟨set, p, w, rfl, hown set hc, hsame, hshared, Nat.le_refl _, rfl⟩
  | none =>
    change (∃ set p' w', (p.getSettings load false).Ends w (.ok (.ok set, p')) w' ∧ _) ∨ _
    cases hp : p.settings with
    | some set =>
      rw [Shared.getSettings_held load hp]
      exact .inl ⟨set, p, w, rfl, hshared set hp, nofun, hshared, Nat.le_refl _, rfl⟩
    | none =>
      cases load with
      | error e =>
        rw [Shared.getSettings_failed e false p (.inr hp)]
        exact .inr ⟨e, rfl, rfl, rfl, rfl⟩
      | ok v =>
        have hv (x : Numbered (Settings τ)) (h : some ⟨w.supply, v⟩ = some x) :
            x.value.IsValid := by
          cases h
          exact hload v rfl
        exact .inl ⟨⟨w.supply, v⟩, _, _, Shared.getSettings_loaded (.inr hp) v w, hload v rfl,
          nofun, hv, Nat.le_succ _, rfl⟩

/-- **To read a property** gives it, and makes the container grow, unless there are no settings to
be had. -/
theorem exists_read_ends (hc : c.IsWired) (q : Property) :
    (∃ x c' p' w', (c.read load q p).Ends w (.ok (.ok (x, c'), p')) w' ∧ c.Grows w c' w' ∧
      c'.Gives q x ∧ (q = .invoker → w.supply ≤ x.number ∧ x.number < w'.supply) ∧
      (∀ x, c'.settings = some x → x.value.IsValid) ∧
      ∀ x, p'.settings = some x → x.value.IsValid) ∨
    ∃ e, load = .error e ∧ c.settings = none ∧ p.settings = none ∧
      (c.read load q p).Ends w (.ok (.error e, p)) w := by
  rcases exists_settingsFor_ends hload hown hshared w with
    ⟨set, p', w₁, hset, hvalid, hsame, hshared', hsupply, hlimiters⟩ | ⟨e, he, hc', hp, hset⟩
  · -- the settings come first, and whatever is made then is made of them
    have hwired : { c with settings := some set }.IsWired := ⟨hc.poller, hc.reader, hc.workflow⟩
    have hfirst : c.Grows w { c with settings := some set } w₁ := {
      keeps := { Extends.refl c with settings := fun x h => by rw [hsame x h] }
      wired := hwired
      owns := fun n hn => .inl hn
      supply := hsupply
      limiters := hlimiters }
    obtain ⟨x, c', w', hx, hgrows, hgives, hnew⟩ := ask_builds hvalid hwired rfl q w₁
    refine .inl ⟨x, c', p', w', ?_, hfirst.trans hgrows, hgives, ?_, ?_, hshared'⟩
    · refine (Run.ends_step_bind hset).mpr ((Run.ends_step_bind hx).mpr ?_)
      exact Run.ends_pure.mpr ⟨rfl, rfl⟩
    · intro hq
      have := hnew hq
      omega
    · intro y hy
      have hset' : c'.settings = some set := hgrows.keeps.settings set rfl
      cases hset'.symm.trans hy
      exact hvalid
  · exact .inr ⟨e, he, hc', hp, (Run.ends_step_bind hset).mpr (Run.ends_pure.mpr ⟨rfl, rfl⟩)⟩

end Read

/-- A container, with what the process keeps and the world. -/
structure Scene (τ ω : Type) where
  shared : Shared τ
  container : Container τ
  world : World τ ω

/-- What one act comes to: a component is handed out, or refused because there are no settings to be
had; the container is closed; or something happens elsewhere. -/
inductive Deal (τ : Type) where
  | handed (q : Property) (x : Component τ)
  | refused (q : Property)
  | closed
  | elsewhere

namespace Scene

variable [Quantity τ]

/-- All settings at hand break no rule. -/
structure IsValid (s : Scene τ ω) : Prop where
  own : ∀ x, s.container.settings = some x → x.value.IsValid
  shared : ∀ x, s.shared.settings = some x → x.value.IsValid

/-- One act. Whatever happens elsewhere leaves the container alone and gives no number back. -/
inductive Step (s : Scene τ ω) : Deal τ → Scene τ ω → Prop
  | handed {ε : Type} {load : Except ε (Settings τ)} (hload : ∀ v, load = .ok v → v.IsValid)
      {q : Property} {x : Component τ} {p : Shared τ} {c : Container τ} {w : World τ ω}
      (h : (s.container.read load q s.shared).Ends s.world (.ok (.ok (x, c), p)) w) :
      Step s (.handed q x) ⟨p, c, w⟩
  | refused {ε : Type} {load : Except ε (Settings τ)} (hload : ∀ v, load = .ok v → v.IsValid)
      {q : Property} {e : ε} {p : Shared τ} {w : World τ ω}
      (h : (s.container.read load q s.shared).Ends s.world (.ok (.error e, p)) w) :
      Step s (.refused q) ⟨p, s.container, w⟩
  | closed {c : Container τ} {w : World τ ω} (h : s.container.close.Ends s.world (.ok c) w) :
      Step s .closed ⟨s.shared, c, w⟩
  | elsewhere {s' : Scene τ ω} (hc : s'.container = s.container) (hv : s'.IsValid)
      (hsupply : s.world.supply ≤ s'.world.supply) : Step s .elsewhere s'

/-- Acts one after the other. -/
inductive Course : Scene τ ω → List (Deal τ) → Scene τ ω → Prop
  | nil (s : Scene τ ω) : Course s [] s
  | cons {s s₁ s' : Scene τ ω} {d : Deal τ} {deals : List (Deal τ)} (first : s.Step d s₁)
      (rest : Course s₁ deals s') : Course s (d :: deals) s'

/-- What the acts before have left: valid settings, a container that is wired, and no number in it
that is still to be drawn. -/
structure IsSound (s : Scene τ ω) : Prop extends s.IsValid where
  wired : s.container.IsWired
  drawn : ∀ n, s.container.Owns n → n < s.world.supply

/-! ### One act -/

variable {s s₁ s' : Scene τ ω} {d : Deal τ}

/-- What is left of a container that was closed. -/
structure Closed (s s' : Scene τ ω) : Prop where
  container : s'.container = { settings := s.container.settings }
  shared : s'.shared = s.shared
  supply : s'.world.supply = s.world.supply
  emptied : ∀ l : Limiter τ, s.container.limiter = some l → l.buckets s'.world = []
  empty : ∀ l : Limiter τ, l.buckets s.world = [] → l.buckets s'.world = []

omit [Quantity τ] in
theorem closed_of_ends {c : Container τ} {w : World τ ω}
    (h : s.container.close.Ends s.world (.ok c) w) : s.Closed ⟨s.shared, c, w⟩ := by
  rw [close] at h
  cases hl : s.container.limiter with
  | none =>
    rw [hl] at h
    cases h
    have hnone := Option.eq_none_iff_forall_ne_some.mp hl
    exact ⟨rfl, rfl, rfl, fun l hl' => absurd hl' (hnone l), fun _ h => h⟩
  | some l =>
    rw [hl] at h
    cases h
    refine ⟨rfl, rfl, rfl, ?_, ?_⟩
    · intro l' hl'
      obtain rfl := Option.some.inj (hl.symm.trans hl')
      rw [Limiter.buckets, Ledger.get?_put_self]
      rfl
    · intro l' hempty
      rw [Limiter.buckets, Ledger.get?_put]
      split
      · rfl
      · exact hempty

/-- A component that is handed out is one that the container gives from then on, and made it
grow. -/
theorem Step.handing {q : Property} {x : Component τ} (h : s.Step (.handed q x) s')
    (hs : s.IsSound) :
    s.container.Grows s.world s'.container s'.world ∧ s'.container.Gives q x ∧
      (q = .invoker → s.world.supply ≤ x.number ∧ x.number < s'.world.supply) ∧ s'.IsValid := by
  cases h with
  | @handed _ load hload _ _ p c w h =>
    rcases exists_read_ends hload hs.own hs.shared s.world hs.wired q with
      ⟨y, c', p', w', hread, hgrows, hgives, hnew, hown, hshared⟩ | ⟨e, -, -, -, hread⟩
    · obtain ⟨hr, rfl⟩ := h.unique hread
      cases hr
      exact ⟨hgrows, hgives, hnew, hown, hshared⟩
    · cases (h.unique hread).1

/-- A component that is refused changes nothing. -/
theorem Step.refusing {q : Property} (h : s.Step (.refused q) s') (hs : s.IsSound) : s' = s := by
  cases h with
  | @refused _ load hload _ e p w h =>
    rcases exists_read_ends hload hs.own hs.shared s.world hs.wired q with
      ⟨y, c', p', w', hread, -⟩ | ⟨e, -, -, -, hread⟩
    · cases (h.unique hread).1
    · obtain ⟨hr, rfl⟩ := h.unique hread
      cases hr
      rfl

theorem Step.closing (h : s.Step .closed s') : s.Closed s' := by
  cases h with
  | closed h => exact closed_of_ends h

/-- **What one act does.** -/
theorem Step.account (h : s.Step d s') (hs : s.IsSound) :
    (∃ q x, d = .handed q x ∧ s.container.Grows s.world s'.container s'.world ∧ s'.IsValid) ∨
    (∃ q, d = .refused q ∧ s' = s) ∨
    (d = .closed ∧ s.Closed s') ∨
    d = .elsewhere ∧ s'.container = s.container ∧ s'.IsValid ∧
      s.world.supply ≤ s'.world.supply := by
  cases d with
  | handed q x =>
    obtain ⟨hgrows, -, -, hv⟩ := h.handing hs
    exact .inl ⟨q, x, rfl, hgrows, hv⟩
  | refused q => exact .inr (.inl ⟨q, rfl, h.refusing hs⟩)
  | closed => exact .inr (.inr (.inl ⟨rfl, h.closing⟩))
  | elsewhere =>
    cases h with
    | elsewhere hc hv hsupply => exact .inr (.inr (.inr ⟨rfl, hc, hv, hsupply⟩))

omit [Quantity τ] in
theorem Closed.owns (h : s.Closed s') (n : Nat) : ¬ s'.container.Owns n := by
  rw [h.container]
  simp [Owns]

omit [Quantity τ] in
theorem Closed.wired (h : s.Closed s') : s'.container.IsWired := by
  rw [h.container]
  exact ⟨nofun, nofun, nofun⟩

theorem Step.isSound (h : s.Step d s') (hs : s.IsSound) : s'.IsSound := by
  rcases h.account hs with
    ⟨q, x, -, hgrows, hv⟩ | ⟨q, -, rfl⟩ | ⟨-, hclosed⟩ | ⟨-, hc, hv, hsupply⟩
  · refine { hv with wired := hgrows.wired, drawn := fun n hn => ?_ }
    have := hgrows.supply
    rcases hgrows.owns n hn with hn | hn
    · have := hs.drawn n hn
      omega
    · exact hn.2
  · exact hs
  · refine { own := ?_, shared := ?_, wired := hclosed.wired, drawn := fun n hn => ?_ }
    · rw [hclosed.container]
      exact hs.own
    · rw [hclosed.shared]
      exact hs.shared
    · exact absurd hn (hclosed.owns n)
  · refine { hv with wired := ?_, drawn := fun n hn => ?_ }
    · rw [hc]
      exact hs.wired
    · rw [hc] at hn
      exact Nat.lt_of_lt_of_le (hs.drawn n hn) hsupply

/-- Whatever is done but closing it, a container keeps what it holds. -/
theorem Step.keeps (h : s.Step d s') (hs : s.IsSound) (hd : d ≠ .closed) :
    s.container.Extends s'.container := by
  rcases h.account hs with
    ⟨q, x, -, hgrows, -⟩ | ⟨q, -, rfl⟩ | ⟨rfl, -⟩ | ⟨-, hc, -⟩
  · exact hgrows.keeps
  · exact .refl _
  · exact absurd rfl hd
  · rw [hc]
    exact .refl _

/-- Settings are kept for good. -/
theorem Step.settings (h : s.Step d s') (hs : s.IsSound) {x : Numbered (Settings τ)}
    (hx : s.container.settings = some x) : s'.container.settings = some x := by
  rcases h.account hs with
    ⟨q, x', -, hgrows, -⟩ | ⟨q, -, rfl⟩ | ⟨-, hclosed⟩ | ⟨-, hc, -⟩
  · exact hgrows.keeps.settings x hx
  · exact hx
  · rw [hclosed.container]
    exact hx
  · rw [hc]
    exact hx

/-- A limiter without buckets gets none by what is done with a container. -/
theorem Step.empty (h : s.Step d s') (hs : s.IsSound) (hd : d ≠ .elsewhere) {l : Limiter τ}
    (hl : l.buckets s.world = []) : l.buckets s'.world = [] := by
  rcases h.account hs with
    ⟨q, x, -, hgrows, -⟩ | ⟨q, -, rfl⟩ | ⟨-, hclosed⟩ | ⟨rfl, -⟩
  · rw [Limiter.buckets, hgrows.limiters]
    exact hl
  · exact hl
  · exact hclosed.empty l hl
  · exact absurd rfl hd

/-- No number is given back. -/
theorem Step.supply (h : s.Step d s') (hs : s.IsSound) :
    s.world.supply ≤ s'.world.supply := by
  rcases h.account hs with
    ⟨q, x, -, hgrows, -⟩ | ⟨q, -, rfl⟩ | ⟨-, hclosed⟩ | ⟨-, -, -, hsupply⟩
  · exact hgrows.supply
  · exact Nat.le_refl _
  · exact Nat.le_of_eq hclosed.supply.symm
  · exact hsupply

/-- All numbers in the container, and all that are still to be drawn, are from this one on. -/
structure IsAbove (bound : Nat) (s : Scene τ ω) : Prop where
  supply : bound ≤ s.world.supply
  owned : ∀ n, s.container.Owns n → bound ≤ n

theorem Step.isAbove {bound : Nat} (h : s.Step d s') (hs : s.IsSound) (hb : s.IsAbove bound) :
    s'.IsAbove bound := by
  have hsupply := hb.supply
  rcases h.account hs with
    ⟨q, x, -, hgrows, -⟩ | ⟨q, -, rfl⟩ | ⟨-, hclosed⟩ | ⟨-, hc, -, hle⟩
  · refine ⟨Nat.le_trans hsupply hgrows.supply, fun n hn => ?_⟩
    rcases hgrows.owns n hn with hn | hn
    · exact hb.owned n hn
    · omega
  · exact hb
  · exact ⟨by rw [hclosed.supply]; exact hsupply, fun n hn => absurd hn (hclosed.owns n)⟩
  · exact ⟨Nat.le_trans hsupply hle, fun n hn => hb.owned n (hc ▸ hn)⟩

/-- The numbers of what is handed out are drawn by then, and none of them is below the bound. -/
theorem Step.numbers {bound : Nat} {q : Property} {x : Component τ} (h : s.Step (.handed q x) s')
    (hs : s.IsSound) (hb : s.IsAbove bound) {n : Nat} (hn : n ∈ x.numbers) :
    bound ≤ n ∧ n < s'.world.supply := by
  have hs' := h.isSound hs
  have hb' := h.isAbove hs hb
  have hsupply := hb.supply
  obtain ⟨-, hgives, hnew, -⟩ := h.handing hs
  -- only the number of an invoker itself is not held by the container
  rcases hgives.owns hs'.wired hn with hown | ⟨hq, rfl⟩
  · exact ⟨hb'.owned n hown, hs'.drawn n hown⟩
  · have := hnew hq
    omega

/-- What is handed out is what the container gives. -/
theorem Step.gives {q : Property} {x : Component τ} (h : s.Step (.handed q x) s')
    (hs : s.IsSound) : s'.container.Gives q x :=
  (h.handing hs).2.1

/-- The limiters of all containers may be used elsewhere. -/
theorem Step.of_limiters (hs : s.IsSound) (limiters : Ledger Nat (Buckets τ)) :
    s.Step .elsewhere { s with world := { s.world with limiters } } :=
  .elsewhere rfl ⟨hs.own, hs.shared⟩ (Nat.le_refl _)

/-! ### Acts one after the other -/

namespace Course

variable {deals deals' : List (Deal τ)}

theorem exists_of_append (h : s.Course (deals ++ deals') s') :
    ∃ s₁, s.Course deals s₁ ∧ s₁.Course deals' s' := by
  induction deals generalizing s with
  | nil => exact ⟨s, .nil s, h⟩
  | cons d deals ih =>
    cases h with
    | cons first rest =>
      obtain ⟨s₁, h₁, h'⟩ := ih rest
      exact ⟨s₁, .cons first h₁, h'⟩

theorem exists_of_cons (h : s.Course (d :: deals) s') : ∃ s₁, s.Step d s₁ ∧ s₁.Course deals s' := by
  cases h with
  | cons first rest => exact ⟨_, first, rest⟩

theorem isSound (h : s.Course deals s') (hs : s.IsSound) : s'.IsSound := by
  induction h with
  | nil => exact hs
  | cons first _ ih => exact ih (first.isSound hs)

theorem keeps (h : s.Course deals s') (hs : s.IsSound) (hd : .closed ∉ deals) :
    s.container.Extends s'.container := by
  induction h with
  | nil => exact .refl _
  | cons first _ ih =>
    rw [List.mem_cons, not_or] at hd
    exact (first.keeps hs (Ne.symm hd.1)).trans (ih (first.isSound hs) hd.2)

theorem settings (h : s.Course deals s') (hs : s.IsSound) {x : Numbered (Settings τ)}
    (hx : s.container.settings = some x) : s'.container.settings = some x := by
  induction h with
  | nil => exact hx
  | cons first _ ih => exact ih (first.isSound hs) (first.settings hs hx)

theorem empty (h : s.Course deals s') (hs : s.IsSound) (hd : .elsewhere ∉ deals) {l : Limiter τ}
    (hl : l.buckets s.world = []) : l.buckets s'.world = [] := by
  induction h with
  | nil => exact hl
  | cons first _ ih =>
    rw [List.mem_cons, not_or] at hd
    exact ih (first.isSound hs) hd.2 (first.empty hs (Ne.symm hd.1) hl)

theorem supply (h : s.Course deals s') (hs : s.IsSound) : s.world.supply ≤ s'.world.supply := by
  induction h with
  | nil => exact Nat.le_refl _
  | cons first _ ih => exact Nat.le_trans (first.supply hs) (ih (first.isSound hs))

/-- Whatever is handed out along a course has numbers that are drawn by its end, and none below the
bound. -/
theorem numbers {bound : Nat} (h : s.Course deals s') (hs : s.IsSound) (hb : s.IsAbove bound)
    {q : Property} {x : Component τ} (hx : .handed q x ∈ deals) {n : Nat} (hn : n ∈ x.numbers) :
    bound ≤ n ∧ n < s'.world.supply := by
  induction h with
  | nil => cases hx
  | cons first rest ih =>
    have hs₁ := first.isSound hs
    rcases List.mem_cons.mp hx with rfl | hx
    · obtain ⟨hle, hlt⟩ := first.numbers hs hb hn
      exact ⟨hle, Nat.lt_of_lt_of_le hlt (rest.supply hs₁)⟩
    · exact ih hs₁ (first.isAbove hs hb) hx

/-- What was handed out the container gives until it is closed. -/
theorem gives {q : Property} {x : Component τ} (h : s.Course (.handed q x :: deals) s')
    (hs : s.IsSound) (hd : .closed ∉ deals) : s'.container.Gives q x := by
  obtain ⟨s₁, hx, hrest⟩ := h.exists_of_cons
  exact (hx.gives hs).mono (hrest.keeps (hx.isSound hs) hd)

/-- **The same component** is handed out again until the container is closed. -/
theorem same {q : Property} {x y : Component τ} (hs : s.IsSound)
    (h : s.Course (.handed q x :: (deals ++ .handed q y :: deals')) s') (hq : q ≠ .invoker)
    (hd : .closed ∉ deals) : x = y := by
  obtain ⟨s₁, hx, h⟩ := h.exists_of_cons
  have hs₁ := hx.isSound hs
  obtain ⟨s₂, hbetween, h⟩ := h.exists_of_append
  have hs₂ := hbetween.isSound hs₁
  obtain ⟨s₃, hy, -⟩ := h.exists_of_cons
  have hkept : s₁.container.Extends s₃.container :=
    (hbetween.keeps hs₁ hd).trans (hy.keeps hs₂ nofun)
  exact ((hx.gives hs).mono hkept).unique (hy.gives hs₂) hq

/-- The settings are the same whatever happens. -/
theorem same_settings {x y : Component τ} (hs : s.IsSound)
    (h : s.Course (.handed .settings x :: (deals ++ .handed .settings y :: deals')) s') :
    x = y := by
  obtain ⟨s₁, hx, h⟩ := h.exists_of_cons
  have hs₁ := hx.isSound hs
  obtain ⟨s₂, hbetween, h⟩ := h.exists_of_append
  have hs₂ := hbetween.isSound hs₁
  obtain ⟨s₃, hy, -⟩ := h.exists_of_cons
  obtain ⟨a, ha, rfl⟩ := (hx.gives hs).exists_settings
  obtain ⟨b, hb, rfl⟩ := (hy.gives hs₂).exists_settings
  have hkept := hy.settings hs₂ (hbetween.settings hs₁ ha)
  rw [Option.some.inj (hkept.symm.trans hb)]

/-- **Nothing is shared across a closing.** -/
theorem disjoint (h : s.Course (deals ++ .closed :: deals') s') (hs : s.IsSound) {q q' : Property}
    {x y : Component τ} (hx : .handed q x ∈ deals) (hy : .handed q' y ∈ deals') {n : Nat}
    (hn : n ∈ x.numbers) : n ∉ y.numbers := by
  intro hn'
  obtain ⟨s₁, h₁, h⟩ := h.exists_of_append
  have hs₁ := h₁.isSound hs
  obtain ⟨s₂, hclose, h₂⟩ := h.exists_of_cons
  -- what was handed out has numbers drawn before the closing, what is handed out then has not
  have hlow : s.IsAbove 0 := ⟨Nat.zero_le _, fun _ _ => Nat.zero_le _⟩
  have hlt := (h₁.numbers hs hlow hx hn).2
  have hclosed : s₁.Closed s₂ := hclose.closing
  have habove : s₂.IsAbove s₁.world.supply :=
    ⟨Nat.le_of_eq hclosed.supply.symm, fun n hn => absurd hn (hclosed.owns n)⟩
  have hle := (h₂.numbers (hclose.isSound hs₁) habove hy hn').1
  omega

/-- A closing empties the limiter in use, and it stays empty. -/
theorem emptied {q : Property} {x : Component τ} {l : Limiter τ} (hs : s.IsSound)
    (h : s.Course (.handed q x :: (deals ++ .closed :: deals')) s') (hd : .closed ∉ deals)
    (hd' : .elsewhere ∉ deals') (hl : x.limiter? = some l) : l.buckets s'.world = [] := by
  rw [← List.cons_append] at h
  obtain ⟨s₁, h₁, h⟩ := h.exists_of_append
  have hs₁ := h₁.isSound hs
  have huse : s₁.container.limiter = some l := (h₁.gives hs hd).limiter hs₁.wired hl
  obtain ⟨s₂, hclose, h₂⟩ := h.exists_of_cons
  exact h₂.empty (hclose.isSound hs₁) hd' (hclose.closing.emptied l huse)

end Course

/-- A container at first has at most settings. -/
theorem isSound_of_empty {given : Option (Numbered (Settings τ))}
    (hempty : s.container = { settings := given }) (hv : s.IsValid) : s.IsSound where
  toIsValid := hv
  wired := by
    rw [hempty]
    exact ⟨nofun, nofun, nofun⟩
  drawn n hn := by
    rw [hempty] at hn
    simp [Owns] at hn

end Scene

open Assembly Scene

/-- **A container shares its components.** Start with one that has at most its settings, and let it
be read, asked for invokers and closed in any order, while anything may happen elsewhere. Then its
components are wired to each other, and what it has handed out since it was last closed are the
components that it holds, or invokers that go through these. What is read twice with no closing in
between, and the settings in any case, is the same component. Nothing that is handed out after a
closing has a part that was handed out, or was a part of what was handed out, before it. A closing
leaves the limiter that was in use without buckets, and it gets none by what is done with the
container. And every reading goes through, unless there are no settings to be had. -/
theorem container_shares [Quantity τ] {given : Option (Numbered (Settings τ))} {s₀ s : Scene τ ω}
    {deals : List (Deal τ)} (hempty : s₀.container = { settings := given }) (hv : s₀.IsValid)
    (h : s₀.Course deals s) :
    s.container.IsWired ∧
    (∀ (before after : List (Deal τ)) (q : Property) (x : Component τ),
      deals = before ++ .handed q x :: after → .closed ∉ after → s.container.Gives q x) ∧
    (∀ (before between after : List (Deal τ)) (q : Property) (x y : Component τ),
      deals = before ++ .handed q x :: (between ++ .handed q y :: after) →
      q = .settings ∨ q ≠ .invoker ∧ .closed ∉ between → x = y) ∧
    (∀ before after : List (Deal τ), deals = before ++ .closed :: after →
      ∀ (q q' : Property) (x y : Component τ), .handed q x ∈ before → .handed q' y ∈ after →
        ∀ n ∈ x.numbers, n ∉ y.numbers) ∧
    (∀ (before between after : List (Deal τ)) (q : Property) (x : Component τ) (l : Limiter τ),
      deals = before ++ .handed q x :: (between ++ .closed :: after) →
      .closed ∉ between → .elsewhere ∉ after → x.limiter? = some l → l.buckets s.world = []) ∧
    (∀ (load : Except ε (Settings τ)) (q : Property), (∀ v, load = .ok v → v.IsValid) →
      (∃ x c p w, (s.container.read load q s.shared).Ends s.world (.ok (.ok (x, c), p)) w) ∨
      ∃ e, load = .error e ∧ s.container.settings = none ∧ s.shared.settings = none ∧
        (s.container.read load q s.shared).Ends s.world (.ok (.error e, s.shared)) s.world) ∧
    ∃ s', s.Step .closed s' := by
  have hs₀ : s₀.IsSound := isSound_of_empty hempty hv
  have hs : s.IsSound := h.isSound hs₀
  refine ⟨hs.wired, ?_, ?_, ?_, ?_, ?_, ?_⟩
  · rintro before after q x rfl hafter
    obtain ⟨s₁, h₁, h'⟩ := h.exists_of_append
    exact h'.gives (h₁.isSound hs₀) hafter
  · rintro before between after q x y rfl hq
    obtain ⟨s₁, h₁, h'⟩ := h.exists_of_append
    rcases hq with rfl | ⟨hq, hbetween⟩
    · exact h'.same_settings (h₁.isSound hs₀)
    · exact h'.same (h₁.isSound hs₀) hq hbetween
  · rintro before after rfl q q' x y hx hy n hn
    exact h.disjoint hs₀ hx hy hn
  · rintro before between after q x l rfl hbetween hafter hl
    obtain ⟨s₁, h₁, h'⟩ := h.exists_of_append
    exact h'.emptied (h₁.isSound hs₀) hbetween hafter hl
  · intro load q hload
    rcases exists_read_ends hload hs.own hs.shared s.world hs.wired q with
      ⟨x, c, p, w, hread, -⟩ | hnone
    · exact .inl ⟨x, c, p, w, hread⟩
    · exact .inr hnone
  · obtain ⟨w, hclose⟩ := s.container.close_settings s.world
    exact ⟨_, .closed hclose⟩

/-- A process that has made nothing yet. -/
def Scene.start : Scene Rat Unit := ⟨{}, {}, { outside := () }⟩

/-- A reader is handed out, its limiter is used, and after a closing another reader is handed out:
it goes through another limiter, and the first one has no buckets. -/
theorem container_shares_start :
    ∃ (r r' : Numbered (ReaderPart Rat)) (s : Scene Rat Unit),
      start.Course
        [.handed .reader (.reader r), .elsewhere, .closed, .handed .reader (.reader r')] s ∧
      r'.value.limiter.number ≠ r.value.limiter.number ∧ r.value.limiter.buckets s.world = [] := by
  have hvalid : start.IsValid := {
    own := fun _ h => by cases h
    shared := fun _ h => by cases h }
  have hload (v : Settings Rat)
      (h : (.ok .standard : Except Empty (Settings Rat)) = .ok v) : v.IsValid := by
    cases h
    change Settings.standard.complaint? = none
    decide +kernel
  obtain ⟨r, r', s, hcourse⟩ : ∃ r r' s, start.Course
      [.handed .reader (.reader r), .elsewhere, .closed, .handed .reader (.reader r')] s := by
    have hread := Step.handed (s := start) (q := .reader) hload rfl
    -- the limiter is the first component that is made, after the settings
    have huse := Step.of_limiters (hread.isSound (isSound_of_empty rfl hvalid))
      [(1, [("Start", ⟨20, 20, 19, 0⟩)])]
    exact ⟨_, _, _, .cons hread (.cons huse (.cons (.closed rfl)
      (.cons (.handed (q := .reader) hload rfl) (.nil _))))⟩
  obtain ⟨-, -, -, hdisjoint, hemptied, -⟩ :=
    @container_shares Rat Unit Empty _ none _ _ _ rfl hvalid hcourse
  refine ⟨r, r', s, hcourse, ?_, ?_⟩
  · have hnew := hdisjoint [.handed .reader (.reader r), .elsewhere] [.handed .reader (.reader r')]
      rfl .reader .reader (.reader r) (.reader r') (.head _) (.head _)
    intro hsame
    apply hnew r.value.limiter.number
    · simp [Component.numbers]
    · simp [Component.numbers, hsame]
  · exact hemptied [] [.elsewhere] [.handed .reader (.reader r')] .reader (.reader r)
      r.value.limiter rfl (by simp) (by simp) rfl

end Settle
