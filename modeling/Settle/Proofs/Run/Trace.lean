import Settle.Proofs.Run.Ends

/-!
# Views of a world

The trace of a world only grows, so whatever a run leaves there can be read off entry by
entry. A *view* picks what it is after from single entries, and `World.seen` collects it in
order. The rules say what each step adds to what a view has seen; `sleeps_eq_seen` and
`calls_eq_seen` make the views of the library instances of it.

The outside can change in any way when it is called, but much of it has nothing to do with
the clock. `Host.Leaves host view` says so of what `view` shows of it.
-/

namespace Settle

variable {τ ω β : Type}

/-- The time of an entry that is a sleep. -/
def Entry.slept? : Entry τ → Option τ
  | .slept time => some time
  | _ => none

/-- The call of an entry that is one. -/
def Entry.called? : Entry τ → Option Call
  | .called call => some call
  | _ => none

/-- The mark of an entry that is an attempt of a polled action. -/
def Entry.attempted? : Entry τ → Option Unit
  | .attempted => some ()
  | _ => none

/-- What an entry told the caller of the sleep that comes, if it did: how many attempts had been
made, what the run was waiting for, and how long the sleep was to be. -/
def Entry.noticed? : Entry τ → Option (Nat × Condition τ × τ)
  | .noticed attempts condition delay => some (attempts, condition, delay)
  | _ => none

/-- An entry that tells the steps of a polling run: an attempt, a notice or a sleep. -/
def Entry.polled? : Entry τ → Option (Entry τ)
  | .attempted => some .attempted
  | .noticed attempts condition delay => some (.noticed attempts condition delay)
  | .slept time => some (.slept time)
  | _ => none

/-- The state that an entry announces, if it does. -/
def Entry.stage? : Entry τ → Option Stage
  | .logged (.workflow p) => some p.stage
  | _ => none

/-- An entry that is neither a call nor the announcement of a state. Limiters and pollers leave no
other ones. -/
structure Entry.IsRoutine (x : Entry τ) : Prop where
  called : x.called? = none
  stage : x.stage? = none

/-- An entry made by a part of a run that makes only calls of one kind, and is routine otherwise. -/
def Entry.IsRoutineBut (c : Call) (x : Entry τ) : Prop := x.IsRoutine ∨ x = .called c

theorem Entry.IsRoutineBut.stage {c : Call} {x : Entry τ} (h : x.IsRoutineBut c) :
    x.stage? = none := by
  rcases h with h | rfl
  · exact h.stage
  · rfl

namespace World

/-- What a view sees in the trace, in order. -/
def seen (w : World τ ω) (view : Entry τ → Option β) : List β :=
  w.trace.toList.filterMap view

theorem sleeps_eq_seen (w : World τ ω) : w.sleeps = w.seen Entry.slept? := by
  rw [sleeps, seen]
  congr 1

theorem calls_eq_seen (w : World τ ω) : w.calls = w.seen Entry.called? := by
  rw [calls, seen]
  congr 1

theorem attempts_eq_length_seen (w : World τ ω) :
    w.attempts = (w.seen Entry.attempted?).length := by
  rw [attempts, seen, List.length_filterMap_eq_countP, List.countP_eq_length_filter]
  congr 2
  funext x
  cases x <;> rfl

theorem stages_eq_seen (w : World τ ω) : w.stages = w.seen Entry.stage? := by
  rw [stages, events, seen, List.filterMap_filterMap]
  congr 1
  funext x
  cases x with
  | logged e => cases e <;> rfl
  | _ => rfl

variable (w : World τ ω) (view : Entry τ → Option β)

/-- A new entry is seen last. -/
theorem seen_noted (x : Entry τ) :
    (w.noted x).seen view = w.seen view ++ (view x).toList := by
  unfold seen noted
  rw [Array.toList_push, List.filterMap_append]
  cases h : view x <;> simp [h]

theorem seen_noted_of_none {x : Entry τ} (h : view x = none) :
    (w.noted x).seen view = w.seen view := by
  rw [seen_noted, h, Option.toList_none, List.append_nil]

theorem seen_noted_of_some {x : Entry τ} {b : β} (h : view x = some b) :
    (w.noted x).seen view = w.seen view ++ [b] := by
  rw [seen_noted, h, Option.toList_some]

/-- A view that overlooks events sees nothing in a report. -/
theorem seen_logged (h : ∀ e, view (.logged e) = none) (e : Event τ) :
    (w.logged e).seen view = w.seen view := seen_noted_of_none w view (h e)

theorem seen_loggedAll (h : ∀ e, view (.logged e) = none) (es : List (Event τ)) :
    (w.loggedAll es).seen view = w.seen view := by
  induction es generalizing w with
  | nil => rfl
  | cons e es ih => rw [loggedAll_cons, ih, seen_logged w view h]

@[simp] theorem seen_readBy (host : Host τ ω) : (w.readBy host).seen view = w.seen view := rfl

theorem seen_sleptBy (host : Host τ ω) (time : τ) :
    (w.sleptBy host time).seen view = w.seen view ++ (view (.slept time)).toList :=
  seen_noted w view (.slept time)

theorem toList_trace_logged (e : Event τ) :
    (w.logged e).trace.toList = w.trace.toList ++ [.logged e] := Array.toList_push

theorem toList_trace_loggedAll (es : List (Event τ)) :
    (w.loggedAll es).trace.toList = w.trace.toList ++ es.map .logged := by
  induction es generalizing w with
  | nil => exact (List.append_nil _).symm
  | cons e es ih =>
    rw [loggedAll_cons, ih, toList_trace_logged, List.append_assoc]
    rfl

/-! ### Sleeps and calls -/

variable {w}

theorem sleeps_noted {x : Entry τ} (h : x.slept? = none) : (w.noted x).sleeps = w.sleeps := by
  rw [sleeps_eq_seen, seen_noted_of_none w _ h, ← sleeps_eq_seen]

theorem calls_noted {x : Entry τ} (h : x.called? = none) : (w.noted x).calls = w.calls := by
  rw [calls_eq_seen, seen_noted_of_none w _ h, ← calls_eq_seen]

theorem calls_called (c : Call) : (w.noted (.called c)).calls = w.calls ++ [c] := by
  rw [calls_eq_seen, seen_noted_of_some w Entry.called? rfl, ← calls_eq_seen]

@[simp] theorem calls_logged (e : Event τ) : (w.logged e).calls = w.calls := calls_noted rfl

@[simp] theorem calls_loggedAll (es : List (Event τ)) : (w.loggedAll es).calls = w.calls := by
  rw [calls_eq_seen, seen_loggedAll w _ fun _ => rfl, ← calls_eq_seen]

@[simp] theorem calls_readBy (host : Host τ ω) : (w.readBy host).calls = w.calls := rfl

@[simp] theorem calls_sleptBy (host : Host τ ω) (time : τ) :
    (w.sleptBy host time).calls = w.calls := calls_noted rfl

end World

/-- Reading the clock and sleeping leave alone what a view of the outside shows. -/
structure Host.Leaves (host : Host τ ω) (view : ω → β) : Prop where
  read (o : ω) : view (host.read o).2 = view o
  sleep (time : τ) (o : ω) : view (host.sleep time o) = view o

end Settle
