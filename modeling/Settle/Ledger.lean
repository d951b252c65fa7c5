/-!
# Ledgers

A ledger maps keys to values and remembers in which order the keys were first entered. A
new value under an old key keeps the old place. The rules of the three operations are stated
through the view `get?`: `get?_put`, `get?_putNew` and `get?_erase`; `keys_put` gives the
order of the keys. Where every key stands once, `get?_eq_some_iff` reads the view off the pairs,
and `get?_of_perm` says that their order does not show in it.
-/

namespace Settle

/-- Pairs in the order in which their keys were first entered. -/
abbrev Ledger (κ ν : Type) := List (κ × ν)

namespace Ledger

variable {κ ν : Type} [DecidableEq κ]

/-- The value under a key. -/
def get? (l : Ledger κ ν) (k : κ) : Option ν :=
  match l with
  | [] => none
  | (k', v) :: rest => if k' = k then some v else get? rest k

/-- Is there a value under the key? -/
def has (l : Ledger κ ν) (k : κ) : Bool := (l.get? k).isSome

/-- Enter a value; an old key keeps its place. -/
def put (l : Ledger κ ν) (k : κ) (v : ν) : Ledger κ ν :=
  match l with
  | [] => [(k, v)]
  | (k', v') :: rest => if k' = k then (k', v) :: rest else (k', v') :: put rest k v

/-- Enter a value only under a key that has none. -/
def putNew (l : Ledger κ ν) (k : κ) (v : ν) : Ledger κ ν :=
  if l.has k then l else l.put k v

/-- Take a key out. -/
def erase (l : Ledger κ ν) (k : κ) : Ledger κ ν := l.filter fun p => p.1 ≠ k

/-- The keys in order. -/
def keys (l : Ledger κ ν) : List κ := l.map Prod.fst

/-- Enter every pair of a list in turn. -/
def putAll (l : Ledger κ ν) (pairs : List (κ × ν)) : Ledger κ ν :=
  pairs.foldl (fun l p => l.put p.1 p.2) l

@[simp] theorem get?_nil (k : κ) : get? ([] : Ledger κ ν) k = none := rfl

theorem get?_cons (k' : κ) (v : ν) (l : Ledger κ ν) (k : κ) :
    get? ((k', v) :: l) k = if k' = k then some v else l.get? k := rfl

/-- What is found under a key stands in the ledger. -/
theorem mem_of_get? {l : Ledger κ ν} {k : κ} {v : ν} (h : l.get? k = some v) : (k, v) ∈ l := by
  induction l with
  | nil => cases h
  | cons p rest ih =>
    obtain ⟨k', v'⟩ := p
    rw [get?_cons] at h
    split at h
    · next e =>
      cases h
      simp [e]
    · exact List.mem_cons_of_mem _ (ih h)

/-- After entering a value it is found under its key, and every other key is as before. -/
theorem get?_put (l : Ledger κ ν) (k : κ) (v : ν) (j : κ) :
    (l.put k v).get? j = if k = j then some v else l.get? j := by
  induction l with
  | nil => rfl
  | cons p rest ih =>
    obtain ⟨k', v'⟩ := p
    unfold put
    split
    · next h =>
      subst h
      simp only [get?_cons]
      split <;> rfl
    · next h =>
      simp only [get?_cons, ih]
      split
      · next h' =>
        subst h'
        simp [Ne.symm h]
      · rfl

@[simp] theorem get?_put_self (l : Ledger κ ν) (k : κ) (v : ν) :
    (l.put k v).get? k = some v := by simp [get?_put]

theorem get?_put_of_ne (l : Ledger κ ν) (v : ν) {k j : κ} (h : k ≠ j) :
    (l.put k v).get? j = l.get? j := by simp [get?_put, h]

/-- A key that no pair has keeps what it had. -/
theorem get?_putAll_of_not_mem (l : Ledger κ ν) (pairs : List (κ × ν)) {j : κ}
    (h : j ∉ pairs.map Prod.fst) : (l.putAll pairs).get? j = l.get? j := by
  induction pairs generalizing l with
  | nil => rfl
  | cons p rest ih =>
    simp only [List.map_cons, List.mem_cons, not_or] at h
    have step : l.putAll (p :: rest) = putAll (l.put p.1 p.2) rest := rfl
    rw [step, ih _ h.2, get?_put_of_ne _ _ (Ne.symm h.1)]

/-- Entering a value only where there is none keeps every value there is. -/
theorem get?_putNew (l : Ledger κ ν) (k : κ) (v : ν) (j : κ) :
    (l.putNew k v).get? j = if k = j then some ((l.get? k).getD v) else l.get? j := by
  unfold putNew has
  cases h : l.get? k with
  | none => simp [get?_put]
  | some w =>
    simp only [Option.isSome_some, if_true, Option.getD_some]
    split
    · next e => rw [← e, h]
    · rfl

/-- A key that was taken out is absent, and every other key is as before. -/
theorem get?_erase (l : Ledger κ ν) (k j : κ) :
    (l.erase k).get? j = if k = j then none else l.get? j := by
  induction l with
  | nil => simp [erase]
  | cons p rest ih =>
    obtain ⟨k', v'⟩ := p
    simp only [erase, List.filter_cons] at ih ⊢
    by_cases h : k' = k
    · subst h
      simp only [ne_eq, not_true_eq_false, decide_false, Bool.false_eq_true, if_false, ih,
        get?_cons]
      split <;> rfl
    · simp only [ne_eq, h, not_false_eq_true, decide_true, if_true, get?_cons, ih]
      split
      · next e =>
        subst e
        simp [Ne.symm h]
      · rfl

/-- Entering a value under an old key changes no order; a new key comes last. -/
theorem keys_put (l : Ledger κ ν) (k : κ) (v : ν) :
    (l.put k v).keys = if l.has k then l.keys else l.keys ++ [k] := by
  induction l with
  | nil => rfl
  | cons p rest ih =>
    obtain ⟨k', v'⟩ := p
    by_cases h : k' = k
    · subst h
      simp [put, keys, has, get?_cons]
    · have e : has ((k', v') :: rest) k = has rest k := by simp [has, get?_cons, h]
      rw [e]
      simp only [put, h, if_false, keys, List.map_cons] at ih ⊢
      rw [ih]
      split <;> simp

/-- A key has a value iff it is one of the keys. -/
theorem has_iff_mem_keys (l : Ledger κ ν) (k : κ) : l.has k = true ↔ k ∈ l.keys := by
  induction l with
  | nil => simp [has, keys]
  | cons p rest ih =>
    obtain ⟨k', v⟩ := p
    unfold has keys at ih ⊢
    rw [get?_cons, List.map_cons, List.mem_cons, ← ih]
    split
    · next h => simp [h]
    · next h => simp [Ne.symm h]

/-- Where no key is entered twice, what stands under a key is found under it. -/
theorem get?_eq_some_iff {l : Ledger κ ν} (h : l.keys.Nodup) (k : κ) (v : ν) :
    l.get? k = some v ↔ (k, v) ∈ l := by
  refine ⟨mem_of_get?, fun hmem => ?_⟩
  induction l with
  | nil => cases hmem
  | cons p rest ih =>
    obtain ⟨k', v'⟩ := p
    obtain ⟨hnew, hrest⟩ := List.nodup_cons.1 h
    rw [get?_cons]
    rcases List.mem_cons.1 hmem with e | hmem
    · cases e
      exact if_pos rfl
    · have hne : k' ≠ k := by
        rintro rfl
        exact hnew (List.mem_map.2 ⟨_, hmem, rfl⟩)
      rw [if_neg hne, ih hrest hmem]

/-- The order in which keys were entered has no say in what is found under them. -/
theorem get?_of_perm {l l' : Ledger κ ν} (h : l.keys.Nodup) (hp : l.Perm l') (k : κ) :
    l.get? k = l'.get? k := by
  have h' : l'.keys.Nodup := (hp.map Prod.fst).nodup_iff.1 h
  apply Option.ext
  intro v
  rw [get?_eq_some_iff h, get?_eq_some_iff h', hp.mem_iff]

/-- A value under a new key comes last. -/
theorem put_of_not_mem {l : Ledger κ ν} {k : κ} (h : k ∉ l.keys) (v : ν) :
    l.put k v = l ++ [(k, v)] := by
  induction l with
  | nil => rfl
  | cons p rest ih =>
    obtain ⟨k', v'⟩ := p
    obtain ⟨hne, hrest⟩ := not_or.1 (mt List.mem_cons.2 h)
    rw [put, if_neg (Ne.symm hne), ih hrest]
    rfl

/-- Pairs of new keys, each entered once, come last in their order. -/
theorem putAll_of_nodup {l : Ledger κ ν} {pairs : List (κ × ν)}
    (h : (keys (l ++ pairs)).Nodup) : l.putAll pairs = l ++ pairs := by
  induction pairs generalizing l with
  | nil => exact (List.append_nil l).symm
  | cons p rest ih =>
    obtain ⟨k, v⟩ := p
    have hnew : k ∉ l.keys := by
      unfold keys at h
      rw [List.map_append, List.map_cons, List.nodup_append] at h
      exact fun hmem => h.2.2 k hmem k (.head _) rfl
    have step : l.putAll ((k, v) :: rest) = putAll (l.put k v) rest := rfl
    rw [step, put_of_not_mem hnew, ih]
    · rw [List.append_assoc]
      rfl
    · rwa [List.append_assoc]

end Ledger

end Settle
