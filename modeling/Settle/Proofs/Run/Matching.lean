import Settle.Proofs.Run.Trace

/-!
# Runs that keep step

Two runs keep step, if, started in worlds that correspond, either neither ends, or both return
values that correspond or raise faults that do, and leave worlds that correspond again. What
corresponds is up to three relations: one between worlds, one between faults and one between values.

`Ending.Matches` says so of two endings and `Run.Matches` of two runs. Every way to build a run has
its rule here; the one for sequences (`Matches.bind`) makes it possible to follow two runs step by
step. `World.IsCongruence` is asked of a relation between worlds that any step respects which both
runs make: related worlds show the same to a run, and a step leads to related worlds again.

How much two worlds have to agree in what happened before is a matter of the relation. Worlds that
are `World.Apart` need not agree in it at all; a run that keeps step with itself there has no memory
(`Run.Oblivious`), and `Oblivious.exists_told` says what follows: it does after any past what it
does after one.
-/

namespace Settle

variable {τ ω α β γ δ : Type}

/-! ### Relations between worlds -/

/-- A relation survives an entry: worlds that are related still are when both have the entry. -/
def World.Keeps (S : World τ ω → World τ ω → Prop) (x : Entry τ) : Prop :=
  ∀ ⦃w v⦄, S w v → S (w.noted x) (v.noted x)

/-- Related worlds show the same to every step, and a step that is made in both leads to related
worlds. Of calls and announcements nothing is said. -/
structure World.IsCongruence (S : World τ ω → World τ ω → Prop) : Prop where
  outside {w v : World τ ω} (h : S w v) : w.outside = v.outside
  limiters {w v : World τ ω} (h : S w v) : w.limiters = v.limiters
  routine {x : Entry τ} (hx : x.IsRoutine) : Keeps S x
  acted {w v : World τ ω} (h : S w v) (o : ω) :
    S { w with outside := o } { v with outside := o }
  kept {w v : World τ ω} (h : S w v) (buckets : Ledger Nat (Buckets τ)) :
    S { w with limiters := buckets } { v with limiters := buckets }

theorem World.loggedAll_of_keeps {S : World τ ω → World τ ω → Prop} {es : List (Event τ)}
    (hes : ∀ e ∈ es, Keeps S (.logged e)) {w v : World τ ω} (h : S w v) :
    S (w.loggedAll es) (v.loggedAll es) := by
  induction es generalizing w v with
  | nil => exact h
  | cons e es ih =>
    rw [List.forall_mem_cons] at hes
    exact ih hes.2 (hes.1 h)

namespace World.IsCongruence

variable {S : World τ ω → World τ ω → Prop} (hS : IsCongruence S) {w v : World τ ω}
include hS

theorem readBy (h : S w v) (host : Host τ ω) : S (w.readBy host) (v.readBy host) := by
  rw [World.readBy, World.readBy, ← hS.outside h]
  exact hS.acted h _

theorem sleptBy (h : S w v) (host : Host τ ω) (time : τ) :
    S (w.sleptBy host time) (v.sleptBy host time) := by
  rw [World.sleptBy, World.sleptBy, ← hS.outside h]
  exact hS.acted (hS.routine ⟨rfl, rfl⟩ h) _

end World.IsCongruence

/-- Worlds that differ only in what happened before: since then the same was added to either
trace. -/
structure World.Apart (before before' : List (Entry τ)) (w v : World τ ω) : Prop where
  outside : w.outside = v.outside
  limiters : w.limiters = v.limiters
  supply : w.supply = v.supply
  trace : ∃ added, w.trace.toList = before ++ added ∧ v.trace.toList = before' ++ added

/-- The world with another past. -/
def World.withTrace (w : World τ ω) (past : List (Entry τ)) : World τ ω :=
  { w with trace := past.toArray }

@[simp] theorem World.toList_withTrace (w : World τ ω) (past : List (Entry τ)) :
    (w.withTrace past).trace.toList = past := rfl

@[simp] theorem World.withTrace_withTrace (w : World τ ω) (past past' : List (Entry τ)) :
    (w.withTrace past).withTrace past' = w.withTrace past' := rfl

theorem World.logged_eq_withTrace (w : World τ ω) (e : Event τ) :
    w.logged e = w.withTrace (w.trace.toList ++ [.logged e]) := by
  rw [logged, noted, withTrace, ← Array.toList_push, Array.toArray_toList]

theorem World.Apart.start (w : World τ ω) (past : List (Entry τ)) :
    Apart w.trace.toList past w (w.withTrace past) :=
  ⟨rfl, rfl, rfl, [], (List.append_nil _).symm, (List.append_nil _).symm⟩

theorem World.Apart.keeps (before before' : List (Entry τ)) (x : Entry τ) :
    Keeps (Apart (ω := ω) before before') x := by
  intro w v h
  obtain ⟨added, hw, hv⟩ := h.trace
  refine ⟨h.outside, h.limiters, h.supply, added ++ [x], ?_, ?_⟩
  · rw [World.noted, Array.toList_push, hw, List.append_assoc]
  · rw [World.noted, Array.toList_push, hv, List.append_assoc]

theorem World.Apart.isCongruence (before before' : List (Entry τ)) :
    IsCongruence (Apart (ω := ω) before before') where
  outside h := h.outside
  limiters h := h.limiters
  routine _ := keeps before before' _
  acted h _ := ⟨rfl, h.limiters, h.supply, h.trace⟩
  kept h _ := ⟨h.outside, rfl, h.supply, h.trace⟩

/-- The two worlds are one, and what it has had happen since `before` is all of one sort. -/
def World.Added (P : Entry τ → Prop) (before : List (Entry τ)) (w v : World τ ω) : Prop :=
  w = v ∧ ∃ added, w.trace.toList = before ++ added ∧ ∀ x ∈ added, P x

theorem World.Added.keeps {P : Entry τ → Prop} {x : Entry τ} (hx : P x)
    (before : List (Entry τ)) : Keeps (Added (ω := ω) P before) x := by
  rintro w _ ⟨rfl, added, hw, hP⟩
  refine ⟨rfl, added ++ [x], ?_, List.forall_mem_append.mpr ⟨hP, ?_⟩⟩
  · rw [World.noted, Array.toList_push, hw, List.append_assoc]
  · rw [List.forall_mem_singleton]
    exact hx

theorem World.Added.isCongruence {P : Entry τ → Prop} (hP : ∀ x : Entry τ, x.IsRoutine → P x)
    (before : List (Entry τ)) : IsCongruence (Added (ω := ω) P before) where
  outside := by
    rintro w _ ⟨rfl, -⟩
    rfl
  limiters := by
    rintro w _ ⟨rfl, -⟩
    rfl
  routine hx := keeps (hP _ hx) before
  acted := by
    rintro w _ ⟨rfl, h⟩ o
    exact ⟨rfl, h⟩
  kept := by
    rintro w _ ⟨rfl, h⟩ buckets
    exact ⟨rfl, h⟩

/-! ### Matching endings -/

/-- Results correspond: both are values that do, or both are faults that do. -/
inductive Agree (F : Fault τ → Fault τ → Prop) (V : α → β → Prop) :
    Except (Fault τ) α → Except (Fault τ) β → Prop
  | ok {a : α} {b : β} (h : V a b) : Agree F V (.ok a) (.ok b)
  | error {e f : Fault τ} (h : F e f) : Agree F V (.error e) (.error f)

/-- Results that correspond as equals are equal. -/
theorem Agree.eq {x y : Except (Fault τ) α} (h : Agree Eq Eq x y) : x = y := by
  cases h with
  | ok h => rw [h]
  | error h => rw [h]

theorem Agree.refl (x : Except (Fault τ) α) : Agree Eq Eq x x := by
  cases x with
  | ok a => exact .ok rfl
  | error e => exact .error rfl

/-- Two endings correspond: in results and worlds, or in that there is no end. -/
inductive Ending.Matches (S : World τ ω → World τ ω → Prop) (F : Fault τ → Fault τ → Prop)
    (V : α → β → Prop) : Ending τ ω α → Ending τ ω β → Prop
  | returned {a : α} {b : β} {w v : World τ ω} (value : V a b) (world : S w v) :
      Matches S F V (.returned a w) (.returned b v)
  | raised {e f : Fault τ} {w v : World τ ω} (fault : F e f) (world : S w v) :
      Matches S F V (.raised e w) (.raised f v)
  | unfinished : Matches S F V .unfinished .unfinished

namespace Run

/-- Two runs keep step: from worlds that correspond they come to endings that do. -/
def Matches (S : World τ ω → World τ ω → Prop) (F : Fault τ → Fault τ → Prop) (V : α → β → Prop)
    (m : Run τ ω α) (n : Run τ ω β) : Prop :=
  ∀ ⦃w v⦄, S w v → (m w).Matches S F V (n v)

variable {S : World τ ω → World τ ω → Prop} {F F' : Fault τ → Fault τ → Prop} {V : α → β → Prop}
  {V' : γ → δ → Prop} {m : Run τ ω α} {n : Run τ ω β}

/-- Where one of two runs in step ends, the other one does. -/
theorem Matches.exists_ends (h : Matches S F V m n) {w v w' : World τ ω} (hw : S w v)
    {x : Except (Fault τ) α} (hm : m.Ends w x w') :
    ∃ y v', n.Ends v y v' ∧ Agree F V x y ∧ S w' v' := by
  have hend := h hw
  rw [show m w = Ending.of x w' from hm] at hend
  cases hn : n v with
  | returned b v' =>
    rw [hn] at hend
    cases x with
    | ok a =>
      cases hend with
      | returned value world => exact ⟨.ok b, v', hn, .ok value, world⟩
    | error e => cases hend
  | raised f v' =>
    rw [hn] at hend
    cases x with
    | ok a => cases hend
    | error e =>
      cases hend with
      | raised fault world => exact ⟨.error f, v', hn, .error fault, world⟩
  | unfinished =>
    rw [hn] at hend
    cases x <;> cases hend

/-! ### Rules -/

theorem Matches.pure {a : α} {b : β} (h : V a b) : Matches S F V (Pure.pure a) (Pure.pure b) :=
  fun _ _ hw => .returned h hw

theorem Matches.raise {e f : Fault τ} (h : F e f) : Matches S F V (raise e) (raise f) :=
  fun _ _ hw => .raised h hw

theorem Matches.giveUp : Matches S F V giveUp giveUp := fun _ _ _ => .unfinished

/-- Sequences keep step, if their parts do. -/
theorem Matches.bind (h : Matches S F V m n) {f : α → Run τ ω γ} {g : β → Run τ ω δ}
    (hfg : ∀ a b, V a b → Matches S F V' (f a) (g b)) :
    Matches S F V' (m >>= f) (n >>= g) := by
  intro w v hw
  have hend := h hw
  rw [bind_apply, bind_apply]
  generalize m w = x, n v = y at hend ⊢
  cases hend with
  | returned value world => exact hfg _ _ value world
  | raised fault world => exact .raised fault world
  | unfinished => exact .unfinished

/-- Runs that are made to return their results keep step, whatever faults then correspond. -/
theorem Matches.catching (h : Matches S F V m n) :
    Matches S F' (Agree F V) m.catching n.catching := by
  intro w v hw
  have hend := h hw
  rw [Run.catching, Run.catching]
  generalize m w = x, n v = y at hend ⊢
  cases hend with
  | returned value world => exact .returned (.ok value) world
  | raised fault world => exact .returned (.error fault) world
  | unfinished => exact .unfinished

theorem Matches.ofExcept {x : Except (Fault τ) α} {y : Except (Fault τ) β} (h : Agree F V x y) :
    Matches S F V (ofExcept x) (ofExcept y) := by
  cases h with
  | ok h => exact .pure h
  | error h => exact .raise h

/-- Steps that always return keep step, if they lead to worlds that correspond. -/
theorem Matches.of_step {s t : World τ ω → World τ ω} {a : World τ ω → α} {b : World τ ω → β}
    (hm : ∀ w, m w = .returned (a w) (s w)) (hn : ∀ w, n w = .returned (b w) (t w))
    (h : ∀ ⦃w v⦄, S w v → V (a w) (b v) ∧ S (s w) (t v)) : Matches S F V m n := by
  intro w v hw
  rw [hm, hn]
  exact .returned (h hw).1 (h hw).2

/-! ### Steps that both runs make -/

theorem matches_note {x : Entry τ} (hx : World.Keeps S x) :
    Matches S F Eq (note x) (note x) :=
  .of_step (fun _ => rfl) (fun _ => rfl) fun _ _ hw => ⟨rfl, hx hw⟩

theorem matches_log {e : Event τ} (he : World.Keeps S (.logged e)) :
    Matches S F Eq (log e) (log e) := matches_note he

section Congruence

variable (hS : World.IsCongruence S)
include hS

theorem matches_now (host : Host τ ω) : Matches S F Eq (now host) (now host) :=
  .of_step (fun _ => rfl) (fun _ => rfl) fun _ _ hw =>
    ⟨congrArg host.reading (hS.outside hw), hS.readBy hw host⟩

theorem matches_outside (f : ω → α × ω) : Matches S F Eq (outside f) (outside f) := by
  refine .of_step (fun _ => rfl) (fun _ => rfl) fun w v hw => ?_
  rw [← hS.outside hw]
  exact ⟨rfl, hS.acted hw _⟩

theorem matches_call {c : Call} (hc : World.Keeps S (.called c))
    (f : ω → Except (Fault τ) α × ω) : Matches S Eq Eq (call c f) (call c f) := by
  refine (matches_note hc).bind fun _ _ _ => (matches_outside hS f).bind ?_
  rintro x _ rfl
  cases x with
  | ok a => exact .pure rfl
  | error e => exact .raise rfl

end Congruence

/-! ### Runs that have no memory -/

/-- A run that keeps step with itself, however much of the world it cannot see differs. It has no
memory of what happened before. -/
def Oblivious (m : Run τ ω α) : Prop :=
  ∀ ⦃S : World τ ω → World τ ω → Prop⦄, World.IsCongruence S → (∀ x, World.Keeps S x) →
    m.Matches S Eq Eq m

/-- **What an oblivious run tells** it tells after any past, and ends in the same way. -/
theorem Oblivious.exists_told (hm : m.Oblivious) {w w' : World τ ω} {r : Except (Fault τ) α}
    (h : m.Ends w r w') :
    ∃ told, w'.trace.toList = w.trace.toList ++ told ∧
      ∀ past, m.Ends (w.withTrace past) r (w'.withTrace (past ++ told)) := by
  have hpast (past : List (Entry τ)) :
      ∃ told, w'.trace.toList = w.trace.toList ++ told ∧
        m.Ends (w.withTrace past) r (w'.withTrace (past ++ told)) := by
    obtain ⟨y, v', hy, hr, hv⟩ :=
      (hm (World.Apart.isCongruence _ _) (World.Apart.keeps _ _)).exists_ends
        (World.Apart.start w past) h
    obtain ⟨told, hw, hpast⟩ := hv.trace
    obtain rfl := hr.eq
    have hv' : w'.withTrace (past ++ told) = v' := by
      rw [World.withTrace, hv.outside, hv.limiters, hv.supply, ← hpast]
    exact ⟨told, hw, hv' ▸ hy⟩
  -- what is told is read off the trace, so it is the same after any past
  obtain ⟨told, htold, -⟩ := hpast []
  refine ⟨told, htold, fun past => ?_⟩
  obtain ⟨told', htold', h'⟩ := hpast past
  rw [htold] at htold'
  rwa [List.append_cancel_left htold']

/-! ### What a run leaves in the trace -/

/-- A run that keeps step with itself as long as only entries of one sort are added adds no
others. -/
theorem exists_added {P : Entry τ → Prop}
    (hm : ∀ before, m.Matches (World.Added P before) Eq Eq m) {w w' : World τ ω}
    {r : Except (Fault τ) α} (h : m.Ends w r w') :
    ∃ added, w'.trace.toList = w.trace.toList ++ added ∧ ∀ x ∈ added, P x := by
  have hw : World.Added P w.trace.toList w w := ⟨rfl, [], (List.append_nil _).symm, nofun⟩
  obtain ⟨y, v', -, -, -, hadded⟩ := (hm _).exists_ends hw h
  exact hadded

end Run

end Settle
