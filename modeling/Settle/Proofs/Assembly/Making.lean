import Settle.Proofs.Assembly.Wiring
import Settle.Proofs.Limiter.Budget

/-!
# What a container makes of valid settings

Settings are checked once, and components are made of them much later, each with checks of its own:
a profile wants positive times, a codec a delimiter. Whatever a container with valid settings is
asked for, in any order and with closings anywhere in between (`Container.serve`), no check refuses
what the settings let through.

All that is handed out is fixed by the settings but for its numbers (`Container.Made`). A container
holds nothing that is not made of them (`IsMadeOf`), which every getter preserves (`Returns`), and
what else it gives is wired of what it holds. So the profiles have the times of the settings, and
the first bucket that a limiter makes for an action has the rate of the settings and room for a
token.

Main statement: `Container.serve_gives`.
-/

namespace Settle

open Assembly

variable {τ ω α β : Type}

/-! ### What settings say -/

namespace Settings

/-- The profile of short reads. -/
def shortRead (s : Settings τ) : Profile τ :=
  ⟨.text "short_read", s.shortReadInterval, s.shortReadDeadline⟩

/-- The profile of long waits. -/
def longConverge (s : Settings τ) : Profile τ :=
  ⟨.text "long_converge", s.longConvergeInterval, s.longConvergeDeadline⟩

/-- A bucket as the settings want it for an action: of its rate, and with room for a token. -/
structure Allots (s : Settings ℚ) (action : String) (b : Bucket ℚ) : Prop where
  rate : b.rate = s.rateFor action
  capacity : 1 ≤ b.capacity

variable {s : Settings ℚ} {n : ℕ} {action : String} {host : Host ℚ ω} {w w' : World ℚ ω}

/-- Short reads do not go on for longer than long waits. -/
theorem IsValid.deadline_le (hs : s.IsValid) :
    s.shortRead.deadline ≤ s.longConverge.deadline := by
  obtain ⟨-, -, hle, -⟩ := s.isValid_iff.mp hs
  exact not_lt.mp hle

/-! ### The first bucket of an action -/

/-- A take changes neither the rate nor the capacity. -/
theorem Allots.take {b : Bucket ℚ} (h : s.Allots action b) (now m : ℚ) :
    s.Allots action (b.take now m).2 where
  rate := (b.rate_take now m).trans h.rate
  capacity := by
    rw [Bucket.capacity_take]
    exact h.capacity

/-- The bucket that a limiter of the settings has or makes is as they want it. -/
theorem allots_bucketIn
    (h : ∀ b, (s.limiter n).bucket? action w = some b → s.Allots action b) :
    s.Allots action ((s.limiter n).bucketIn host action w) := by
  rw [Limiter.bucketIn]
  cases hb : (s.limiter n).bucket? action w with
  | some b => exact h b hb
  | none => exact ⟨s.rateOf_limiter n action, Limiter.one_le_capacityOf _ _⟩

/-- To look for a bucket makes one, if there is none. -/
theorem bucketFor_allots (hnone : (s.limiter n).bucket? action w = none) :
    ∃ b w', ((s.limiter n).bucketFor host action).Ends w (.ok b) w' ∧
      (s.limiter n).bucket? action w' = some b ∧ s.Allots action b := by
  refine ⟨_, _, Limiter.bucketFor_apply w, ?_, allots_bucketIn ?_⟩
  · rw [Limiter.opened, hnone]
    exact (Limiter.bucket?_kept _ _ _).trans (if_pos rfl)
  · intro b hb
    cases hnone.symm.trans hb

/-- A round leaves a bucket as the settings want it. -/
theorem allots_tried (host : Host ℚ ω)
    (h : ∀ b, (s.limiter n).bucket? action w = some b → s.Allots action b) :
    ∃ b, (s.limiter n).bucket? action ((s.limiter n).tried host action w) = some b ∧
      s.Allots action b := by
  rw [Limiter.bucket?_tried, if_pos rfl]
  exact ⟨_, rfl, (allots_bucketIn h).take _ _⟩

/-- **The first call** of an action leaves it with a bucket as the settings want it. -/
theorem acquire_allots (hnone : (s.limiter n).bucket? action w = none)
    {r : Except (Fault ℚ) Unit} (h : ((s.limiter n).acquire host action).Ends w r w') :
    r = .ok () ∧ ∃ b, (s.limiter n).bucket? action w' = some b ∧ s.Allots action b := by
  -- only before the first round is there no bucket, so the invariant is about whatever there is
  have hcarries : Limiter.Carries host (s.limiter n) action
      (fun _ v => ∀ b, (s.limiter n).bucket? action v = some b → s.Allots action b)
      (fun v => ∃ b, (s.limiter n).bucket? action v = some b ∧ s.Allots action b) := by
    refine ⟨fun h _ => ?_, fun h _ => ?_, fun h _ => ?_⟩
    · rw [Limiter.bucket?_congr (Limiter.limiters_admitted _ _ _ _)]
      exact allots_tried host h
    · exact allots_tried host h
    · obtain ⟨b, hb, hallots⟩ := allots_tried host h
      intro b' hb'
      rw [Limiter.bucket?_congr (World.limiters_sleptBy _ host _), hb] at hb'
      exact Option.some.inj hb' ▸ hallots
  refine hcarries.rounds (fun b hb => ?_) h
  cases hnone.symm.trans hb

end Settings

/-- The codec of a delimiter uses this delimiter. -/
theorem Codec.exists_of_eq_ok {d : String} {k : Codec} (h : ofDelimiter? d = .ok k) :
    ∃ hd, k = ⟨d, hd⟩ := by
  rw [ofDelimiter?] at h
  split at h <;> cases h
  exact ⟨_, rfl⟩

namespace Container

/-! ### Runs that return something of a kind -/

/-- Whatever the run returns is of the kind. -/
def Returns (P : α → Prop) (m : Run τ ω α) : Prop := ∀ w x w', m.Ends w (.ok x) w' → P x

namespace Returns

variable {P : α → Prop} {Q : β → Prop} {m : Run τ ω α}

theorem pure {x : α} (hx : P x) : Returns P (Pure.pure x : Run τ ω α) := by
  intro w y w' h
  obtain ⟨hy, -⟩ := Run.ends_pure.mp h
  exact Except.ok.inj hy ▸ hx

theorem raise (e : Fault τ) : Returns P (Run.raise e : Run τ ω α) := by
  intro w y w' h
  cases (Run.ends_raise.mp h).1

theorem bind {f : α → Run τ ω β} (h : Returns P m) (hf : ∀ x, P x → Returns Q (f x)) :
    Returns Q (m >>= f) := by
  intro w y w' hy
  rcases Run.ends_bind.mp hy with ⟨x, w₁, hx, hy⟩ | ⟨e, -, he⟩
  · exact hf x (h w x w₁ hx) w₁ y w' hy
  · cases he

/-- Nothing is asked of what a step returns. -/
theorem step {f : α → Run τ ω β} (hf : ∀ x, Returns Q (f x)) : Returns Q (m >>= f) :=
  bind (P := fun _ => True) (fun _ _ _ _ => trivial) fun x _ => hf x

/-- Nothing is open of a component but its number. -/
theorem make (v : α) : Returns (fun x => ∃ n, x = ⟨n, v⟩) (Numbered.make v : Run τ ω _) := by
  rw [Numbered.make]
  exact step fun n => pure ⟨n, rfl⟩

/-- What `Profile.create?` does not refuse is the profile it was asked for. -/
theorem create [Quantity τ] (name : Value) (interval deadline : τ) :
    Returns (fun p => p = ⟨name, interval, deadline⟩)
      (Run.ofExcept (Profile.create? name interval deadline) : Run τ ω _) := by
  intro w p w' h
  obtain ⟨hp, -⟩ := Run.ends_ofExcept.mp h
  exact (Profile.create?_eq_ok_iff.mp hp.symm).1

end Returns

/-! ### What is made of settings -/

/-- The components that can be made of the settings for what a container is asked for. Nothing of
them is open but the numbers of the component and of its parts. -/
inductive Made (s : Numbered (Settings τ)) : Property → Component τ → Prop
  | settings : Made s .settings (.settings s)
  | limiter (n : Nat) : Made s .limiter (.limiter (s.value.limiter n))
  | classifier (n : Nat) : Made s .classifier (.classifier ⟨n, s.value.classifier⟩)
  | poller (n k : Nat) : Made s .poller (.poller ⟨n, ⟨⟨k, s.value.classifier⟩⟩⟩)
  | profiles (n short long : Nat) :
      Made s .profiles
        (.profiles ⟨n, ⟨⟨short, s.value.shortRead⟩, ⟨long, s.value.longConverge⟩⟩⟩)
  | shortRead (n : Nat) : Made s .shortRead (.profile ⟨n, s.value.shortRead⟩)
  | longConverge (n : Nat) : Made s .longConverge (.profile ⟨n, s.value.longConverge⟩)
  | reader (n l p k : Nat) :
      Made s .reader (.reader ⟨n, ⟨s.value.limiter l, ⟨p, ⟨⟨k, s.value.classifier⟩⟩⟩⟩⟩)
  | workflow (n p k l short long : Nat) :
      Made s .workflow
        (.workflow ⟨n, ⟨⟨p, ⟨⟨k, s.value.classifier⟩⟩⟩, s.value.limiter l,
          ⟨short, s.value.shortRead⟩, ⟨long, s.value.longConverge⟩⟩⟩)
  | codec (n : Nat) (h : s.value.idDelimiter.toList ≠ []) :
      Made s .codec (.codec ⟨n, ⟨s.value.idDelimiter, h⟩⟩)
  | invoker (n l k p k' short : Nat) :
      Made s .invoker
        (.invoker ⟨n, ⟨s.value.limiter l, ⟨k, s.value.classifier⟩,
          ⟨p, ⟨⟨k', s.value.classifier⟩⟩⟩, ⟨short, s.value.shortRead⟩⟩⟩)

/-- All that a container holds is made of the settings. This is said of what goes through no other
component; the rest is wired of that. -/
structure IsMadeOf (s : Numbered (Settings τ)) (c : Container τ) : Prop where
  limiter {l : Limiter τ} (h : c.limiter = some l) : Made s .limiter (.limiter l)
  classifier {k : Numbered (CodeClassifier τ)} (h : c.classifier = some k) :
    Made s .classifier (.classifier k)
  profiles {p : Numbered (Profiles τ)} (h : c.profiles = some p) : Made s .profiles (.profiles p)
  codec {k : Numbered Codec} (h : c.codec = some k) : Made s .codec (.codec k)

section Getters

variable {s : Numbered (Settings τ)} {c : Container τ} (hc : c.IsMadeOf s)
include hc

theorem getLimiter_made :
    Returns (fun r => r.2.IsMadeOf s) (c.getLimiter s.value : Run τ ω (_ × Container τ)) := by
  rw [getLimiter]
  cases c.limiter with
  | some l => exact .pure hc
  | none =>
    refine .step fun n => .step fun _ => .pure { hc with limiter := fun h => ?_ }
    cases h
    exact .limiter n

theorem getClassifier_made :
    Returns (fun r => r.2.IsMadeOf s) (c.getClassifier s.value : Run τ ω (_ × Container τ)) := by
  rw [getClassifier]
  cases c.classifier with
  | some k => exact .pure hc
  | none =>
    refine (Returns.make _).bind fun k hk => .pure { hc with classifier := fun h => ?_ }
    obtain ⟨n, rfl⟩ := hk
    cases h
    exact .classifier n

theorem getPoller_made :
    Returns (fun r => r.2.IsMadeOf s) (c.getPoller s.value : Run τ ω (_ × Container τ)) := by
  rw [getPoller]
  cases c.poller with
  | some p => exact .pure hc
  | none =>
    refine (getClassifier_made hc).bind fun _ hc => .step fun _ => ?_
    exact .pure { hc with }

theorem getReader_made :
    Returns (fun r => r.2.IsMadeOf s) (c.getReader s.value : Run τ ω (_ × Container τ)) := by
  rw [getReader]
  cases c.reader with
  | some r => exact .pure hc
  | none =>
    refine (getLimiter_made hc).bind fun _ hc => (getPoller_made hc).bind fun _ hc => ?_
    exact .step fun _ => .pure { hc with }

theorem getCodec_made :
    Returns (fun r => r.2.IsMadeOf s) (c.getCodec s.value : Run τ ω (_ × Container τ)) := by
  rw [getCodec]
  cases c.codec with
  | some k => exact .pure hc
  | none =>
    cases hcodec : Codec.ofDelimiter? s.value.idDelimiter with
    | error e => exact .raise _
    | ok codec =>
      obtain ⟨hd, rfl⟩ := Codec.exists_of_eq_ok hcodec
      refine (Returns.make _).bind fun k hk => .pure { hc with codec := fun h => ?_ }
      obtain ⟨n, rfl⟩ := hk
      cases h
      exact .codec n hd

variable [Quantity τ]

theorem getProfiles_made :
    Returns (fun r => r.2.IsMadeOf s) (c.getProfiles s.value : Run τ ω (_ × Container τ)) := by
  rw [getProfiles]
  cases c.profiles with
  | some p => exact .pure hc
  | none =>
    refine (Returns.create _ _ _).bind fun short hshort => ?_
    refine (Returns.create _ _ _).bind fun long hlong => ?_
    refine (Returns.make short).bind fun x hx => (Returns.make long).bind fun y hy => ?_
    refine (Returns.make _).bind fun p hp => .pure { hc with profiles := fun h => ?_ }
    obtain ⟨i, rfl⟩ := hx
    obtain ⟨j, rfl⟩ := hy
    obtain ⟨n, rfl⟩ := hp
    subst hshort hlong
    cases h
    exact .profiles n i j

theorem getWorkflow_made :
    Returns (fun r => r.2.IsMadeOf s) (c.getWorkflow s.value : Run τ ω (_ × Container τ)) := by
  rw [getWorkflow]
  cases c.workflow with
  | some f => exact .pure hc
  | none =>
    refine (getPoller_made hc).bind fun _ hc => (getLimiter_made hc).bind fun _ hc => ?_
    refine (getProfiles_made hc).bind fun _ hc => .step fun _ => ?_
    exact .pure { hc with }

theorem getInvoker_made :
    Returns (fun r => r.2.IsMadeOf s) (c.getInvoker s.value : Run τ ω (_ × Container τ)) := by
  rw [getInvoker]
  refine (getLimiter_made hc).bind fun _ hc => (getClassifier_made hc).bind fun _ hc => ?_
  refine (getPoller_made hc).bind fun _ hc => (getProfiles_made hc).bind fun _ hc => ?_
  exact .step fun _ => .pure hc

/-- Whatever a container is asked for, it goes on holding only what is made of its settings. -/
theorem ask_made (q : Property) :
    Returns (fun r => r.2.IsMadeOf s) (c.ask s q : Run τ ω (_ × Container τ)) := by
  cases q with
  | settings => exact .pure { hc with }
  | limiter => exact (getLimiter_made hc).bind fun _ hc => .pure hc
  | classifier => exact (getClassifier_made hc).bind fun _ hc => .pure hc
  | poller => exact (getPoller_made hc).bind fun _ hc => .pure hc
  | profiles | shortRead | longConverge =>
    exact (getProfiles_made hc).bind fun _ hc => .pure hc
  | reader => exact (getReader_made hc).bind fun _ hc => .pure hc
  | workflow => exact (getWorkflow_made hc).bind fun _ hc => .pure hc
  | codec => exact (getCodec_made hc).bind fun _ hc => .pure hc
  | invoker => exact (getInvoker_made hc).bind fun _ hc => .pure hc

end Getters

/-! ### What a container gives -/

/-- A limiter that a component is or goes through is one of the settings. -/
theorem Made.limiter_of {s : Numbered (Settings τ)} {q : Property} {x : Component τ}
    (h : Made s q x) {l : Limiter τ} (hl : x.limiter? = some l) : ∃ n, l = s.value.limiter n := by
  cases h <;> cases hl
  all_goals exact ⟨_, rfl⟩

/-- A container that can be asked for anything. -/
structure IsReady (s : Numbered (Settings τ)) (c : Container τ) : Prop where
  settings : c.settings = some s
  wired : c.IsWired
  made : c.IsMadeOf s

namespace IsReady

variable {s : Numbered (Settings τ)} {c : Container τ}

/-- A container with nothing but settings. -/
theorem of_empty (s : Numbered (Settings τ)) : IsReady s { settings := some s } where
  settings := rfl
  wired := ⟨nofun, nofun, nofun⟩
  made := ⟨nofun, nofun, nofun, nofun⟩

/-- What goes through others is made of the settings as these are. -/
theorem poller (hc : c.IsReady s) {p : Numbered (PollerPart τ)} (hp : c.poller = some p) :
    Made s .poller (.poller p) := by
  obtain ⟨n, ⟨k⟩⟩ := p
  have hk : Made s .classifier (.classifier k) := hc.made.classifier (hc.wired.poller hp)
  cases hk
  exact .poller _ _

/-- What it gives is made of its settings. -/
theorem made_of_gives (hc : c.IsReady s) {q : Property} {x : Component τ} (h : c.Gives q x) :
    Made s q x := by
  cases h with
  | held h =>
    -- by wiring, the parts of what is held are held themselves, and made of the settings
    cases q <;> simp only [found?, Option.map_eq_some_iff, reduceCtorEq] at h
    all_goals obtain ⟨y, hy, rfl⟩ := h
    · cases hc.settings.symm.trans hy
      exact .settings
    · exact hc.made.limiter hy
    · exact hc.made.classifier hy
    · exact hc.poller hy
    · exact hc.made.profiles hy
    · cases hc.made.profiles hy
      exact .shortRead _
    · cases hc.made.profiles hy
      exact .longConverge _
    · obtain ⟨n, l, p⟩ := y
      obtain ⟨hl, hp⟩ := hc.wired.reader hy
      cases hc.made.limiter hl
      cases hc.poller hp
      exact .reader _ _ _ _
    · obtain ⟨n, p, l, read, converge⟩ := y
      obtain ⟨hl, hp, profiles, hprofiles, hread, hconverge⟩ := hc.wired.workflow hy
      cases hc.made.limiter hl
      cases hc.poller hp
      cases hc.made.profiles hprofiles
      cases hread
      cases hconverge
      exact .workflow _ _ _ _ _ _
    · exact hc.made.codec hy
  | @invoker i h =>
    obtain ⟨n, l, k, p, profile⟩ := i
    obtain ⟨profiles, hprofiles, hprofile⟩ := h.profile
    cases hc.made.limiter h.limiter
    cases hc.made.classifier h.classifier
    cases hc.poller h.poller
    cases hc.made.profiles hprofiles
    cases hprofile
    exact .invoker _ _ _ _ _ _

variable [Quantity τ]

/-- **Whatever is asked for** is given, and the container can be asked again. -/
theorem ask (hc : c.IsReady s) (hs : s.value.IsValid) (q : Property) (w : World τ ω) :
    ∃ x c' w', (c.ask s q).Ends w (.ok (x, c')) w' ∧ c'.IsReady s ∧ Made s q x := by
  obtain ⟨x, c', w', hends, hgrows, hgives, -⟩ := ask_builds hs hc.wired hc.settings q w
  have hc' : c'.IsReady s := {
    settings := hgrows.keeps.settings s hc.settings
    wired := hgrows.wired
    made := ask_made hc.made q w _ w' hends }
  exact ⟨x, c', w', hends, hc', hc'.made_of_gives hgives⟩

omit [Quantity τ] in
theorem close (hc : c.IsReady s) (w : World τ ω) :
    ∃ c' w', c.close.Ends w (.ok c') w' ∧ c'.IsReady s := by
  obtain ⟨w', hw'⟩ := c.close_settings w
  rw [hc.settings] at hw'
  exact ⟨_, w', hw', .of_empty s⟩

end IsReady

/-! ### Asking and closing, over and over -/

/-- What can be demanded of a container. -/
inductive Demand where
  | ask (q : Property)
  | close
  deriving DecidableEq, Repr

/-- What a demand asks for. -/
def Demand.asked? : Demand → Option Property
  | ask q => some q
  | close => none

variable [Quantity τ]

/-- Meet demands one after the other, and list what was given. -/
def serve (s : Numbered (Settings τ)) :
    List Demand → Container τ → Run τ ω (List (Property × Component τ) × Container τ)
  | [], c => pure ([], c)
  | .ask q :: demands, c => do
    let (x, c) ← c.ask s q
    let (given, c) ← serve s demands c
    pure ((q, x) :: given, c)
  | .close :: demands, c => do
    serve s demands (← c.close)

/-- All demands are met, and with what is made of the settings. -/
theorem IsReady.serve {s : Numbered (Settings τ)} {c : Container τ} (hc : c.IsReady s)
    (hs : s.value.IsValid) (demands : List Demand) (w : World τ ω) :
    ∃ given c' w', (serve s demands c).Ends w (.ok (given, c')) w' ∧
      given.map Prod.fst = demands.filterMap Demand.asked? ∧
      ∀ q x, (q, x) ∈ given → Made s q x := by
  induction demands generalizing c w with
  | nil => exact ⟨[], c, w, rfl, rfl, nofun⟩
  | cons demand demands ih =>
    cases demand with
    | ask q =>
      obtain ⟨x, c₁, w₁, hx, hc₁, hmade⟩ := hc.ask hs q w
      obtain ⟨given, c', w', hgiven, hasked, hall⟩ := ih hc₁ w₁
      refine ⟨(q, x) :: given, c', w', ?_, congrArg (q :: ·) hasked, ?_⟩
      · exact (Run.ends_step_bind hx).mpr ((Run.ends_step_bind hgiven).mpr rfl)
      · rintro q' x' (_ | ⟨_, hmem⟩)
        · exact hmade
        · exact hall q' x' hmem
    | close =>
      obtain ⟨c₁, w₁, hclose, hc₁⟩ := hc.close w
      obtain ⟨given, c', w', hgiven, hasked, hall⟩ := ih hc₁ w₁
      exact ⟨given, c', w', (Run.ends_step_bind hclose).mpr hgiven, hasked, hall⟩

/-- **Valid settings are enough** for whatever is demanded of a container, in any order and with
closings anywhere in between: all of it is given, and is what can be made of the settings. Short
reads never go on for longer than long waits. And wherever an action has no bucket yet, looking for
one makes it of the rate of the settings and with room for a token, and a call that is let through
leaves such a bucket. -/
theorem serve_gives {s : Numbered (Settings ℚ)} (hs : s.value.IsValid) (demands : List Demand)
    (w : World ℚ ω) :
    ∃ given c w', (serve s demands { settings := some s }).Ends w (.ok (given, c)) w' ∧
      given.map Prod.fst = demands.filterMap Demand.asked? ∧
      (∀ q x, (q, x) ∈ given → Made s q x) ∧
      (∀ short long, (.shortRead, .profile short) ∈ given →
        (.longConverge, .profile long) ∈ given → short.value.deadline ≤ long.value.deadline) ∧
      ∀ q x l, (q, x) ∈ given → x.limiter? = some l →
        ∀ (host : Host ℚ ω) (action : String) (v : World ℚ ω), l.bucket? action v = none →
          (∃ b v', (l.bucketFor host action).Ends v (.ok b) v' ∧
            l.bucket? action v' = some b ∧ s.value.Allots action b) ∧
          ∀ r v', (l.acquire host action).Ends v r v' →
            r = .ok () ∧ ∃ b, l.bucket? action v' = some b ∧ s.value.Allots action b := by
  obtain ⟨given, c, w', hends, hasked, hmade⟩ := (IsReady.of_empty s).serve hs demands w
  refine ⟨given, c, w', hends, hasked, hmade, ?_, ?_⟩
  · intro short long hshort hlong
    cases hmade _ _ hshort
    cases hmade _ _ hlong
    exact hs.deadline_le
  · intro q x l hx hl host action v hnone
    obtain ⟨n, rfl⟩ := (hmade q x hx).limiter_of hl
    exact ⟨Settings.bucketFor_allots hnone, fun r v' h => Settings.acquire_allots hnone h⟩

/-- Settings with a limit of their own for one action, a closing in the middle, and the bucket that
is then made for the action. -/
theorem serve_gives_limited :
    ∃ (s : Numbered (Settings ℚ)) (given : List (Property × Component ℚ)) (c : Container ℚ)
      (w v' : World ℚ Unit) (l : Limiter ℚ) (b : Bucket ℚ),
      s.value.IsValid ∧
      (serve s [.ask .shortRead, .ask .reader, .close, .ask .limiter] { settings := some s }).Ends
        { outside := () } (.ok (given, c)) w ∧
      (.limiter, .limiter l) ∈ given ∧
      (l.bucketFor (Host.still 0 1) "Start").Ends { outside := () } (.ok b) v' ∧
      b.rate = 1 / 2 ∧ 1 ≤ b.capacity := by
  let s : Numbered (Settings ℚ) :=
    ⟨0, { Settings.standard with actionLimits := [("Start", 1 / 2)] }⟩
  have hs : s.value.complaint? = none := by decide +kernel
  obtain ⟨given, c, w, hends, hasked, hmade, -, hbuckets⟩ :=
    serve_gives hs [.ask .shortRead, .ask .reader, .close, .ask .limiter] { outside := () }
  obtain ⟨⟨_, x⟩, hx, rfl⟩ : ∃ p ∈ given, p.1 = .limiter := by
    have hmem : Property.limiter ∈ given.map Prod.fst := by
      rw [hasked]
      decide
    exact List.mem_map.mp hmem
  cases hmade _ _ hx with
  | limiter n =>
    obtain ⟨⟨b, v', hb, -, hallots⟩, -⟩ :=
      hbuckets _ _ _ hx rfl (Host.still 0 1) "Start" { outside := () } rfl
    exact ⟨s, given, c, w, v', _, b, hs, hends, hx, hb, hallots.rate, hallots.capacity⟩

end Container

end Settle
