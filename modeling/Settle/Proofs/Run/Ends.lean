import Settle.World

/-!
# How runs end

`m.Ends w r w'` says that the run `m`, started in the world `w`, ends with the result `r` in
the world `w'`. The result is a value or a fault; a run that exhausts the patience of the
host ends with neither, so a statement about all endings leaves such runs out, and a
statement that a run ends excludes them.

Every step of a run has its rule here, written as an equivalence, so that a run is followed
forwards and backwards with the same lemmas: `ends_bind` for sequencing in general, and one
rule for each step that cannot fail, which just moves on to the next world. Worlds are moved
on by `noted`, `readBy` and `sleptBy`.
-/

namespace Settle

variable {τ ω α β : Type}

/-! ### Worlds one step on -/

/-- The instant that the clock shows. -/
def Host.reading (host : Host τ ω) (o : ω) : τ := (host.read o).1

/-- A host whose clock stands still, whatever the outside is. -/
def Host.still (time : τ) (patience : Nat) : Host τ ω where
  read o := (time, o)
  sleep _ o := o
  patience := patience

/-- A host whose outside is its clock, which moves with sleeps alone. -/
def Host.punctual [Add τ] (patience : Nat) : Host τ τ where
  read now := (now, now)
  sleep time now := now + time
  patience := patience

namespace World

/-- The world after an entry in the trace. -/
def noted (w : World τ ω) (x : Entry τ) : World τ ω := { w with trace := w.trace.push x }

/-- The world after an event was reported. -/
def logged (w : World τ ω) (e : Event τ) : World τ ω := w.noted (.logged e)

/-- The world after several events were reported. -/
def loggedAll (w : World τ ω) (es : List (Event τ)) : World τ ω := es.foldl logged w

/-- The world after its clock was read. -/
def readBy (w : World τ ω) (host : Host τ ω) : World τ ω :=
  { w with outside := (host.read w.outside).2 }

/-- The world after a sleep. -/
def sleptBy (w : World τ ω) (host : Host τ ω) (time : τ) : World τ ω :=
  { w with outside := host.sleep time w.outside, trace := w.trace.push (.slept time) }

@[simp] theorem outside_noted (w : World τ ω) (x : Entry τ) :
    (w.noted x).outside = w.outside := rfl

@[simp] theorem outside_logged (w : World τ ω) (e : Event τ) :
    (w.logged e).outside = w.outside := rfl

@[simp] theorem loggedAll_nil (w : World τ ω) : w.loggedAll [] = w := rfl

@[simp] theorem loggedAll_cons (w : World τ ω) (e : Event τ) (es : List (Event τ)) :
    w.loggedAll (e :: es) = (w.logged e).loggedAll es := rfl

@[simp] theorem outside_loggedAll (w : World τ ω) (es : List (Event τ)) :
    (w.loggedAll es).outside = w.outside := by
  induction es generalizing w with
  | nil => rfl
  | cons e es ih => rw [loggedAll_cons, ih, outside_logged]

@[simp] theorem limiters_loggedAll (w : World τ ω) (es : List (Event τ)) :
    (w.loggedAll es).limiters = w.limiters := by
  induction es generalizing w with
  | nil => rfl
  | cons e es ih => exact ih (w.logged e)

@[simp] theorem outside_readBy (w : World τ ω) (host : Host τ ω) :
    (w.readBy host).outside = (host.read w.outside).2 := rfl

@[simp] theorem limiters_readBy (w : World τ ω) (host : Host τ ω) :
    (w.readBy host).limiters = w.limiters := rfl

@[simp] theorem outside_sleptBy (w : World τ ω) (host : Host τ ω) (time : τ) :
    (w.sleptBy host time).outside = host.sleep time w.outside := rfl

@[simp] theorem limiters_sleptBy (w : World τ ω) (host : Host τ ω) (time : τ) :
    (w.sleptBy host time).limiters = w.limiters := rfl

end World

/-! ### Endings -/

/-- The ending with a result in a world. -/
def Ending.of (r : Except (Fault τ) α) (w : World τ ω) : Ending τ ω α :=
  match r with
  | .ok a => .returned a w
  | .error e => .raised e w

/-- Did a run end? -/
def Ending.isDone : Ending τ ω α → Bool
  | .unfinished => false
  | _ => true

/-- The result of a run that ended, and the outside it left behind. -/
def Ending.report? : Ending τ ω α → Option (Except (Fault τ) α × ω)
  | .returned a w => some (.ok a, w.outside)
  | .raised e w => some (.error e, w.outside)
  | .unfinished => none

/-- The value that a run returned, and the world it left behind. -/
def Ending.returned? : Ending τ ω α → Option (α × World τ ω)
  | .returned a w => some (a, w)
  | _ => none

namespace Run

/-- The run, started in a world, ends with a result in another world. -/
def Ends (m : Run τ ω α) (w : World τ ω) (r : Except (Fault τ) α) (w' : World τ ω) : Prop :=
  m w = Ending.of r w'

theorem ends_ok_iff {m : Run τ ω α} {w w' : World τ ω} {a : α} :
    m.Ends w (.ok a) w' ↔ m w = .returned a w' := Iff.rfl

/-- A run ends in one way only. -/
theorem Ends.unique {m : Run τ ω α} {w w₁ w₂ : World τ ω} {r₁ r₂ : Except (Fault τ) α}
    (h₁ : m.Ends w r₁ w₁) (h₂ : m.Ends w r₂ w₂) : r₁ = r₂ ∧ w₁ = w₂ := by
  have h : Ending.of r₁ w₁ = Ending.of r₂ w₂ := h₁.symm.trans h₂
  cases r₁ <;> cases r₂ <;> cases h <;> exact ⟨rfl, rfl⟩

/-- Whether a run ends can be computed. -/
theorem exists_ends_of_isDone {m : Run τ ω α} {w : World τ ω} (h : (m w).isDone = true) :
    ∃ r w', m.Ends w r w' := by
  cases hm : m w with
  | returned a w' => exact ⟨.ok a, w', hm⟩
  | raised e w' => exact ⟨.error e, w', hm⟩
  | unfinished =>
    rw [hm] at h
    cases h

/-- A run ends as it returned. -/
theorem ends_of_returned {m : Run τ ω α} {w : World τ ω} {p : α × World τ ω}
    (h : (m w).returned? = some p) : m.Ends w (.ok p.1) p.2 := by
  cases hm : m w with
  | returned a w' =>
    rw [hm] at h
    obtain rfl := Option.some.inj h
    exact hm
  | raised e w' =>
    rw [hm] at h
    cases h
  | unfinished =>
    rw [hm] at h
    cases h

/-- How a run ends can be computed. -/
theorem exists_ends_of_report {m : Run τ ω α} {w : World τ ω} {r : Except (Fault τ) α} {o : ω}
    (h : (m w).report? = some (r, o)) : ∃ w', m.Ends w r w' ∧ w'.outside = o := by
  cases hm : m w with
  | returned a w' =>
    rw [hm] at h
    cases h
    exact ⟨w', hm, rfl⟩
  | raised e w' =>
    rw [hm] at h
    cases h
    exact ⟨w', hm, rfl⟩
  | unfinished =>
    rw [hm] at h
    cases h

/-- The outside that a run leaves behind can be computed. -/
theorem exists_ends_of_outside {m : Run τ ω α} {w : World τ ω} {o : ω}
    (h : (m w).report?.map Prod.snd = some o) : ∃ r w', m.Ends w r w' ∧ w'.outside = o := by
  obtain ⟨⟨r, _⟩, hr, rfl⟩ := Option.map_eq_some_iff.mp h
  exact ⟨r, exists_ends_of_report hr⟩

/-! ### Rules for single steps -/

section Rules

variable {w w' : World τ ω} {r : Except (Fault τ) α}

@[simp] theorem ends_pure {a : α} :
    (pure a : Run τ ω α).Ends w r w' ↔ r = .ok a ∧ w' = w := by
  constructor
  · intro h
    cases r <;> cases h
    exact ⟨rfl, rfl⟩
  · rintro ⟨rfl, rfl⟩
    rfl

@[simp] theorem ends_raise {e : Fault τ} :
    (raise e : Run τ ω α).Ends w r w' ↔ r = .error e ∧ w' = w := by
  constructor
  · intro h
    cases r <;> cases h
    exact ⟨rfl, rfl⟩
  · rintro ⟨rfl, rfl⟩
    rfl

@[simp] theorem not_ends_giveUp : ¬ (giveUp : Run τ ω α).Ends w r w' := by
  intro h
  cases r <;> cases h

@[simp] theorem ends_ofExcept {x : Except (Fault τ) α} :
    (ofExcept x : Run τ ω α).Ends w r w' ↔ r = x ∧ w' = w := by
  cases x
  · exact ends_raise
  · exact ends_pure

/-- A sequence ends as its second part does, or with the fault of its first. -/
theorem ends_bind {m : Run τ ω β} {f : β → Run τ ω α} :
    (m >>= f).Ends w r w' ↔
      (∃ b w₁, m.Ends w (.ok b) w₁ ∧ (f b).Ends w₁ r w') ∨
        ∃ e, m.Ends w (.error e) w' ∧ r = .error e := by
  simp only [Ends, bind_apply]
  cases h : m w with
  | returned b w₁ =>
    constructor
    · intro hf
      exact .inl ⟨b, w₁, rfl, hf⟩
    · rintro (⟨b', w₂, hb, hf⟩ | ⟨e, he, -⟩)
      · cases hb
        exact hf
      · cases he
  | raised e w₁ =>
    constructor
    · intro hr
      cases r <;> cases hr
      exact .inr ⟨e, rfl, rfl⟩
    · rintro (⟨b, w₂, hb, -⟩ | ⟨e', he, rfl⟩)
      · cases hb
      · cases he
        rfl
  | unfinished =>
    constructor
    · intro hr
      cases r <;> cases hr
    · rintro (⟨b, w₂, hb, -⟩ | ⟨e, he, -⟩)
      · cases hb
      · cases he

/-- A sequence that returns a value returned one from its first part. -/
theorem ends_ok_bind {m : Run τ ω β} {f : β → Run τ ω α} {a : α} :
    (m >>= f).Ends w (.ok a) w' ↔ ∃ b w₁, m.Ends w (.ok b) w₁ ∧ (f b).Ends w₁ (.ok a) w' := by
  rw [ends_bind]
  constructor
  · rintro (h | ⟨e, -, he⟩)
    · exact h
    · cases he
  · exact .inl

/-- What follows a run is asked only about the values that it can return. -/
theorem bind_congr_of_ends {m : Run τ ω β} {f g : β → Run τ ω α}
    (h : ∀ w b w', m.Ends w (.ok b) w' → f b = g b) : (m >>= f) = m >>= g := by
  funext w
  rw [bind_apply, bind_apply]
  cases hm : m w with
  | returned b w' => exact congrFun (h w b w' hm) w'
  | raised e w' => rfl
  | unfinished => rfl

/-- Computing with the value of a run changes its result only. -/
theorem ends_bind_ofExcept {m : Run τ ω β} {f : β → Except (Fault τ) α} :
    (m >>= fun b => ofExcept (f b)).Ends w r w' ↔ ∃ x, m.Ends w x w' ∧ r = x.bind f := by
  rw [ends_bind]
  constructor
  · rintro (⟨b, w₁, hb, hr⟩ | ⟨e, he, rfl⟩)
    · obtain ⟨rfl, rfl⟩ := ends_ofExcept.mp hr
      exact ⟨.ok b, hb, rfl⟩
    · exact ⟨.error e, he, rfl⟩
  · rintro ⟨x, hx, rfl⟩
    cases x with
    | ok b => exact .inl ⟨b, w', hx, ends_ofExcept.mpr ⟨rfl, rfl⟩⟩
    | error e => exact .inr ⟨e, hx, rfl⟩

/-- A value that is passed on is passed on changed, and nothing else is. -/
theorem ends_bind_pure {m : Run τ ω β} {f : β → α} :
    (m >>= fun b => pure (f b)).Ends w r w' ↔ ∃ x, m.Ends w x w' ∧ r = x.map f :=
  ends_bind_ofExcept (f := fun b => .ok (f b))

/-- A run that is made to return its result ends whenever the run does. -/
theorem ends_catching {m : Run τ ω α} {x : Except (Fault τ) (Except (Fault τ) α)} :
    m.catching.Ends w x w' ↔ ∃ r, m.Ends w r w' ∧ x = .ok r := by
  simp only [Ends, catching]
  constructor
  · intro h
    cases hm : m w with
    | returned a w₁ =>
      rw [hm] at h
      cases x <;> cases h
      exact ⟨.ok a, rfl, rfl⟩
    | raised e w₁ =>
      rw [hm] at h
      cases x <;> cases h
      exact ⟨.error e, rfl, rfl⟩
    | unfinished =>
      rw [hm] at h
      cases x <;> cases h
  · rintro ⟨r, hm, rfl⟩
    rw [hm]
    cases r <;> rfl

@[simp] theorem ends_catching_bind {m : Run τ ω β} {f : Except (Fault τ) β → Run τ ω α} :
    (m.catching >>= f).Ends w r w' ↔ ∃ x w₁, m.Ends w x w₁ ∧ (f x).Ends w₁ r w' := by
  simp only [ends_bind, ends_catching]
  constructor
  · rintro (⟨x, w₁, ⟨y, hy, hxy⟩, hf⟩ | ⟨e, ⟨y, -, hy⟩, -⟩)
    · cases hxy
      exact ⟨x, w₁, hy, hf⟩
    · cases hy
  · rintro ⟨x, w₁, hx, hf⟩
    exact .inl ⟨x, w₁, ⟨x, hx, rfl⟩, hf⟩

/-- A run that is made to return its result, which is then raised or returned again, is the run. -/
theorem catching_bind_ofExcept (m : Run τ ω α) : m.catching >>= ofExcept = m := by
  funext w
  rw [bind_apply, catching]
  cases m w <;> rfl

/-- A step that always returns moves on to the next world. -/
theorem ends_step_bind {m : Run τ ω β} {f : β → Run τ ω α} {b : β} {w₁ : World τ ω}
    (h : m w = .returned b w₁) : (m >>= f).Ends w r w' ↔ (f b).Ends w₁ r w' := by
  simp only [Ends, bind_apply, h]

@[simp] theorem ends_note_bind {x : Entry τ} {f : Unit → Run τ ω α} :
    (note x >>= f).Ends w r w' ↔ (f ()).Ends (w.noted x) r w' := ends_step_bind rfl

@[simp] theorem ends_log_bind {e : Event τ} {f : Unit → Run τ ω α} :
    (log e >>= f).Ends w r w' ↔ (f ()).Ends (w.logged e) r w' := ends_step_bind rfl

@[simp] theorem ends_now_bind {host : Host τ ω} {f : τ → Run τ ω α} :
    (now host >>= f).Ends w r w' ↔
      (f (host.reading w.outside)).Ends (w.readBy host) r w' := ends_step_bind rfl

@[simp] theorem ends_sleep_bind {host : Host τ ω} {time : τ} {f : Unit → Run τ ω α} :
    (sleep host time >>= f).Ends w r w' ↔ (f ()).Ends (w.sleptBy host time) r w' :=
  ends_step_bind rfl

@[simp] theorem ends_outside_bind {g : ω → β × ω} {f : β → Run τ ω α} :
    (outside g >>= f).Ends w r w' ↔
      (f (g w.outside).1).Ends { w with outside := (g w.outside).2 } r w' :=
  ends_step_bind rfl

/-- Reporting events only adds them to the trace. -/
theorem logAll_apply (es : List (Event τ)) (w : World τ ω) :
    logAll es w = .returned () (w.loggedAll es) := by
  induction es generalizing w with
  | nil => rfl
  | cons e es ih => exact ih (w.logged e)

@[simp] theorem ends_logAll_bind {es : List (Event τ)} {f : Unit → Run τ ω α} :
    (logAll es >>= f).Ends w r w' ↔ (f ()).Ends (w.loggedAll es) r w' :=
  ends_step_bind (logAll_apply es w)

theorem ends_note {x : Entry τ} {r : Except (Fault τ) Unit} :
    (note x).Ends w r w' ↔ r = .ok () ∧ w' = w.noted x := by
  rw [← bind_pure (note x), ends_note_bind, ends_pure]

theorem ends_sleep {host : Host τ ω} {time : τ} {r : Except (Fault τ) Unit} :
    (sleep host time).Ends w r w' ↔ r = .ok () ∧ w' = w.sleptBy host time := by
  rw [← bind_pure (sleep host time), ends_sleep_bind, ends_pure]

/-- A call is noted, and then the outside answers. -/
theorem ends_call {c : Call} {f : ω → Except (Fault τ) α × ω} :
    (call c f).Ends w r w' ↔
      r = (f w.outside).1 ∧
        w' = { w.noted (.called c) with outside := (f w.outside).2 } := by
  simp only [call, ends_note_bind, ends_outside_bind, World.outside_noted]
  cases (f w.outside).1
  · exact ends_raise
  · exact ends_pure

/-- A call that is made to return its result always does. -/
theorem catching_call_apply (c : Call) (f : ω → Except (Fault τ) α × ω) (w : World τ ω) :
    (call c f).catching w =
      .returned (f w.outside).1 { w.noted (.called c) with outside := (f w.outside).2 } :=
  ends_ok_iff.mp (ends_catching.mpr ⟨_, ends_call.mpr ⟨rfl, rfl⟩, rfl⟩)

end Rules

end Run

end Settle
