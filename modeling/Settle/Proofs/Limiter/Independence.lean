import Settle.Proofs.Exact
import Settle.Proofs.Limiter.Lockstep

/-!
# Actions do not influence each other

All actions of a limiter share one registry of buckets, one clock and one way to sleep. Still, what
is done under one action shows in another only through the time that it takes: if every acquire of
another action is replaced by a pause of the clock as long as it (`Limiter.alone`), nothing changes
in what is seen of an action (`Limiter.sights`): its bucket after every use of the limiter, and what
its acquires and everything said of it leave in the trace.

An acquire of another action leaves the bucket and the entries of an action alone (`Spared`); an
acquire of the action itself reads nothing but its bucket and the outside, so it keeps step with
itself in any world that agrees in these (`Twin`).

Main statement: `actions_independent`.
-/

namespace Settle

variable {σ : Type}

/-- The action that an entry is about. A sleep does not say for whom it is. -/
def Entry.names? {τ : Type} : Entry τ → Option String
  | .admitted action _ _ => some action
  | .logged (.limiterAdmitted action _) => some action
  | .logged (.limiterOpened action _ _) => some action
  | _ => none

theorem Entry.IsDue.names {τ : Type} {action other : String} {x : Entry τ} (h : x.IsDue other)
    (hne : other ≠ action) : x.names? ≠ some action := by
  cases h with
  | slept => exact nofun
  | admitted | delayed | opened => exact fun hx => hne (Option.some.inj hx)

namespace Limiter

/-! ### Uses of a limiter -/

/-- What is done with a limiter, or meanwhile with the clock. An acquire finds everything but the
clock in some state, on which may depend how the clock runs while it is read and how long its sleeps
take. -/
inductive Use (σ : Type) where
  | acquire (action : String) (state : σ)
  | advance (time : ℚ)
  | get (action : String)
  | actions
  | reset
  deriving DecidableEq, Repr

/-- To look a bucket up, or the names of all actions, has no effect. -/
def Use.run (host : Host ℚ (ℚ × σ)) (l : Limiter ℚ) : Use σ → Run ℚ (ℚ × σ) Unit
  | .acquire action state => do
    Run.outside fun o => ((), (o.1, state))
    l.acquire host action
  | .advance time => Run.outside fun o => ((), (o.1 + time, o.2))
  | .get _ | .actions => pure ()
  | .reset => l.reset

/-- An acquire of another action. -/
def Use.isOther (action : String) : Use σ → Bool
  | .acquire other _ => other != action
  | _ => false

/-- What a use of the limiter shows of an action: the entries that it leaves (those about the
action, if it is an acquire of another one), the bucket of the action after it, and the time on the
clock. -/
structure Sight where
  told : List (Entry ℚ)
  bucket : Option (Bucket ℚ)
  clock : ℚ

def sight (l : Limiter ℚ) (action : String) (u : Use σ) (w w' : World ℚ (ℚ × σ)) : Sight :=
  let added := w'.trace.toList.drop w.trace.toList.length
  { told := if u.isOther action then added.filter fun x => x.names? = some action else added
    bucket := l.bucket? action w'
    clock := w'.outside.1 }

/-- What uses one after the other show of an action, as far as they end. -/
def sights (host : Host ℚ (ℚ × σ)) (l : Limiter ℚ) (action : String) :
    List (Use σ) → World ℚ (ℚ × σ) → List Sight
  | [], _ => []
  | u :: us, w =>
    match u.run host l w with
    | .returned _ w' => l.sight action u w w' :: sights host l action us w'
    | .raised _ _ | .unfinished => []

/-- The same uses with nothing under any other action: every acquire of one is replaced by an
advance of the clock by the time that passed meanwhile. One that does not end is left out, with all
that would come after it. -/
def alone (host : Host ℚ (ℚ × σ)) (l : Limiter ℚ) (action : String) :
    List (Use σ) → World ℚ (ℚ × σ) → List (Use σ)
  | [], _ => []
  | u :: us, w =>
    match u.run host l w with
    | .returned _ w' =>
      (if u.isOther action then .advance (w'.outside.1 - w.outside.1) else u) ::
        alone host l action us w'
    | .raised _ _ | .unfinished => if u.isOther action then [] else [u]

/-! ### Acquires of the action -/

variable {host : Host ℚ (ℚ × σ)} {l : Limiter ℚ} {action : String} {w w' v : World ℚ (ℚ × σ)}

/-- Worlds that agree in the outside and in the bucket of an action, and in what was added to either
trace. -/
structure Twin (l : Limiter ℚ) (action : String) (before before' : List (Entry ℚ))
    (w v : World ℚ (ℚ × σ)) : Prop where
  outside : w.outside = v.outside
  bucket : l.bucket? action w = l.bucket? action v
  trace : ∃ added, w.trace.toList = before ++ added ∧ v.trace.toList = before' ++ added

theorem Twin.pairs (before before' : List (Entry ℚ)) :
    l.Pairs action (Twin (σ := σ) l action before before') where
  outside h := h.outside
  bucket h := h.bucket
  due := by
    intro x _ w v h
    obtain ⟨added, hw, hv⟩ := h.trace
    refine ⟨h.outside, h.bucket, added ++ [x], ?_, ?_⟩
    · rw [World.noted, Array.toList_push, hw, List.append_assoc]
    · rw [World.noted, Array.toList_push, hv, List.append_assoc]
  acted h _ := ⟨rfl, h.bucket, h.trace⟩
  kept h b := ⟨h.outside, by rw [bucket?_kept, bucket?_kept, if_pos rfl, if_pos rfl], h.trace⟩

/-- What is seen of an action, whatever else there is in the world. -/
structure Alike (l : Limiter ℚ) (action : String) (w v : World ℚ (ℚ × σ)) : Prop where
  clock : w.outside.1 = v.outside.1
  bucket : l.bucket? action w = l.bucket? action v

theorem Alike.symm (h : Alike l action w v) : Alike l action v w := ⟨h.clock.symm, h.bucket.symm⟩

theorem Alike.of_sight {u u' : Use σ} {v' : World ℚ (ℚ × σ)}
    (h : l.sight action u w w' = l.sight action u' v v') : Alike l action w' v' :=
  ⟨congrArg Sight.clock h, congrArg Sight.bucket h⟩

theorem told_sight {u : Use σ} {added : List (Entry ℚ)}
    (h : w'.trace.toList = w.trace.toList ++ added) :
    (l.sight action u w w').told =
      if u.isOther action then added.filter fun x => x.names? = some action else added := by
  rw [sight, h, List.drop_left]

/-- A use that leaves the trace as it is tells nothing. -/
theorem told_sight_of_trace {u : Use σ} (h : w'.trace = w.trace) :
    (l.sight action u w w').told = [] := by
  have hadded : w'.trace.toList = w.trace.toList ++ [] := by rw [h, List.append_nil]
  rw [told_sight hadded, List.filter_nil, ite_self]

/-- Sights are the same if the worlds are alike afterwards and the same was told. -/
theorem Alike.sight_eq {u u' : Use σ} {v' : World ℚ (ℚ × σ)} (h : Alike l action w' v')
    (ht : (l.sight action u w w').told = (l.sight action u' v v').told) :
    l.sight action u w w' = l.sight action u' v v' := by
  rw [sight, sight] at ht ⊢
  rw [Sight.mk.injEq]
  exact ⟨ht, h.bucket, h.clock⟩

theorem Alike.sight_eq_of_trace {u u' : Use σ} {v' : World ℚ (ℚ × σ)} (h : Alike l action w' v')
    (hw : w'.trace = w.trace) (hv : v'.trace = v.trace) :
    l.sight action u w w' = l.sight action u' v v' := by
  refine h.sight_eq ?_
  rw [told_sight_of_trace hw, told_sight_of_trace hv]

/-- A use that is no acquire of another action shows the same in worlds that are alike. -/
theorem exists_run_of_alike {u : Use σ} (hu : u.isOther action = false) (h : Alike l action w v)
    (hw : u.run host l w = .returned () w') :
    ∃ v', u.run host l v = .returned () v' ∧
      l.sight action u w w' = l.sight action u v v' := by
  cases u with
  | acquire other state =>
    obtain rfl : other = action := by
      rw [Use.isOther, bne_eq_false_iff_eq] at hu
      exact hu
    have hstart : Twin l other w.trace.toList v.trace.toList
        { w with outside := (w.outside.1, state) } { v with outside := (v.outside.1, state) } :=
      ⟨by rw [h.clock], h.bucket, [], (List.append_nil _).symm, (List.append_nil _).symm⟩
    obtain ⟨_, v', hv, hresult, htwin⟩ :=
      (matches_of_pairs (F := Eq) (Twin.pairs _ _)).exists_ends hstart (Run.ends_ok_iff.mpr hw)
    obtain rfl := hresult.eq
    obtain ⟨added, hadded, hadded'⟩ := htwin.trace
    have halike : Alike l other w' v' := ⟨by rw [htwin.outside], htwin.bucket⟩
    refine ⟨v', hv, halike.sight_eq ?_⟩
    rw [told_sight hadded, told_sight hadded']
  | advance time =>
    cases hw
    have halike : Alike l action { w with outside := (w.outside.1 + time, w.outside.2) }
        { v with outside := (v.outside.1 + time, v.outside.2) } := ⟨by rw [h.clock], h.bucket⟩
    exact ⟨_, rfl, halike.sight_eq_of_trace rfl rfl⟩
  | get | actions =>
    cases hw
    exact ⟨v, rfl, h.sight_eq_of_trace rfl rfl⟩
  | reset =>
    cases hw
    have halike : Alike l action { w with limiters := w.limiters.put l.number [] }
        { v with limiters := v.limiters.put l.number [] } := by
      refine ⟨h.clock, ?_⟩
      rw [bucket?, bucket?, buckets, buckets, Ledger.get?_put_self, Ledger.get?_put_self]
    exact ⟨_, rfl, halike.sight_eq_of_trace rfl rfl⟩

/-! ### Acquires of another action -/

/-- The two worlds are one. It still has a given bucket of the action, and nothing was added to the
trace that is about the action. -/
def Spared (l : Limiter ℚ) (action : String) (bucket : Option (Bucket ℚ))
    (before : List (Entry ℚ)) (w v : World ℚ (ℚ × σ)) : Prop :=
  w = v ∧ l.bucket? action w = bucket ∧
    ∃ added, w.trace.toList = before ++ added ∧ ∀ x ∈ added, x.names? ≠ some action

theorem Spared.pairs {other : String} (hne : other ≠ action) (bucket : Option (Bucket ℚ))
    (before : List (Entry ℚ)) : l.Pairs other (Spared (σ := σ) l action bucket before) where
  outside := by
    rintro w _ ⟨rfl, -⟩
    rfl
  bucket := by
    rintro w _ ⟨rfl, -⟩
    rfl
  due := by
    rintro x hx w _ ⟨rfl, hb, added, hw, hadded⟩
    refine ⟨rfl, hb, added ++ [x], ?_, List.forall_mem_append.mpr ⟨hadded, ?_⟩⟩
    · rw [World.noted, Array.toList_push, hw, List.append_assoc]
    · rw [List.forall_mem_singleton]
      exact hx.names hne
  acted := by
    rintro w _ ⟨rfl, h⟩ o
    exact ⟨rfl, h⟩
  kept := by
    rintro w _ ⟨rfl, hb, h⟩ b
    exact ⟨rfl, by rw [bucket?_kept, if_neg hne, hb], h⟩

/-- An acquire of another action shows no more of the action than the passing of time does. -/
theorem sight_advance_of_other {u : Use σ} (hu : u.isOther action = true)
    (hw : u.run host l w = .returned () w') (h : Alike l action w v) :
    ∃ v', (Use.advance (w'.outside.1 - w.outside.1)).run host l v = .returned () v' ∧
      l.sight action u w w' = l.sight action (Use.advance (w'.outside.1 - w.outside.1)) v v' := by
  refine ⟨_, rfl, ?_⟩
  cases u with
  | acquire other state =>
    have hne : other ≠ action := by
      rw [Use.isOther, bne_iff_ne] at hu
      exact hu
    have hstart : Spared l action (l.bucket? action w) w.trace.toList
        { w with outside := (w.outside.1, state) } { w with outside := (w.outside.1, state) } :=
      ⟨rfl, rfl, [], (List.append_nil _).symm, nofun⟩
    obtain ⟨-, -, -, -, -, hbucket, added, htrace, hadded⟩ :=
      (matches_of_pairs (F := Eq) (Spared.pairs hne _ _)).exists_ends hstart
        (Run.ends_ok_iff.mpr hw)
    have halike : Alike l action w'
        { v with outside := (v.outside.1 + (w'.outside.1 - w.outside.1), v.outside.2) } :=
      ⟨by rw [h.clock, add_sub_cancel], hbucket.trans h.bucket⟩
    -- neither of the two has anything to tell about the action
    have hnone : (added.filter fun x => x.names? = some action) = [] := by
      rw [List.filter_eq_nil_iff]
      intro x hx
      rw [decide_eq_true_iff]
      exact hadded x hx
    have htold : (l.sight action (.acquire other state) w w').told = [] := by
      rw [told_sight htrace, if_pos hu, hnone]
    refine halike.sight_eq (htold.trans (Eq.symm ?_))
    exact told_sight_of_trace rfl
  | advance | get | actions | reset => cases hu

/-! ### Independence -/

theorem sights_cons {u : Use σ} {us : List (Use σ)} (hw : u.run host l w = .returned () w') :
    sights host l action (u :: us) w =
      l.sight action u w w' :: sights host l action us w' := by
  rw [sights, hw]

/-- Where a use does not return, nothing more is seen. -/
theorem sights_cons_of_forall {u : Use σ} {us : List (Use σ)}
    (hw : ∀ w', u.run host l w ≠ .returned () w') : sights host l action (u :: us) w = [] := by
  rw [sights]
  cases h : u.run host l w with
  | returned _ w' => exact absurd h (hw w')
  | raised | unfinished => rfl

theorem alone_cons {u : Use σ} {us : List (Use σ)} (hw : u.run host l w = .returned () w') :
    alone host l action (u :: us) w =
      (if u.isOther action then .advance (w'.outside.1 - w.outside.1) else u) ::
        alone host l action us w' := by
  rw [alone, hw]

theorem alone_cons_of_forall {u : Use σ} {us : List (Use σ)}
    (hw : ∀ w', u.run host l w ≠ .returned () w') :
    alone host l action (u :: us) w = if u.isOther action then [] else [u] := by
  rw [alone]
  cases h : u.run host l w with
  | returned _ w' => exact absurd h (hw w')
  | raised | unfinished => rfl

/-- Uses show the same of an action as those of it alone do in a world that is alike to begin
with. -/
theorem sights_alone (us : List (Use σ)) (h : Alike l action w v) :
    sights host l action us w = sights host l action (alone host l action us w) v := by
  induction us generalizing w v with
  | nil => rfl
  | cons u us ih =>
    by_cases hreturns : ∃ w', u.run host l w = .returned () w'
    · obtain ⟨w', hw⟩ := hreturns
      rw [sights_cons hw, alone_cons hw]
      cases hu : u.isOther action with
      | true =>
        obtain ⟨v', hv, hsight⟩ := sight_advance_of_other hu hw h
        rw [if_pos rfl, sights_cons hv, hsight, ih (.of_sight hsight)]
      | false =>
        obtain ⟨v', hv, hsight⟩ := exists_run_of_alike hu h hw
        rw [if_neg Bool.false_ne_true, sights_cons hv, hsight, ih (.of_sight hsight)]
    · have hw : ∀ w', u.run host l w ≠ .returned () w' := not_exists.mp hreturns
      rw [sights_cons_of_forall hw, alone_cons_of_forall hw]
      cases hu : u.isOther action with
      | true => rfl
      | false =>
        have hv : ∀ v', u.run host l v ≠ .returned () v' := by
          intro v' hv
          obtain ⟨w', hw', -⟩ := exists_run_of_alike hu h.symm hv
          exact hw w' hw'
        rw [if_neg Bool.false_ne_true, sights_cons_of_forall hv]

/-- **Actions do not influence each other.** Whatever is done with a limiter, in whatever state the
rest of the outside is, and in whatever world it begins: it shows the same of an action, use by use,
as if the acquires of all other actions were pauses of the clock. -/
theorem actions_independent (host : Host ℚ (ℚ × σ)) (l : Limiter ℚ) (action : String)
    (us : List (Use σ)) (w : World ℚ (ℚ × σ)) :
    sights host l action us w = sights host l action (alone host l action us w) w :=
  sights_alone us ⟨rfl, rfl⟩

/-- With one token a second, the second acquire of `"b"` is held up. To `"a"` this is a second like
any other. -/
example :
    alone
      { read := fun o => (o.1, o), sleep := fun time o => (o.1 + time, o.2), patience := 2 }
      { number := 0, defaultRate := 1, defaultBurst := 1, rates := [], maxWait := 10 } "a"
      [.acquire "a" (), .acquire "b" (), .acquire "b" (), .acquire "a" ()]
      { outside := (0, ()) } =
    [.acquire "a" (), .advance 0, .advance 1, .acquire "a" ()] := by
  decide +kernel

end Limiter

end Settle
