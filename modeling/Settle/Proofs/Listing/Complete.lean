import Settle.Proofs.Limiter.Admission
import Settle.Proofs.Listing.Reads
import Settle.Proofs.Listing.Requests

/-!
# A listing is read in full

A list action that answers each request with the slice it asks for (`ListAction.Slices`) is read
to its end, whatever the limiter makes of it: every request is let through, and gets the part
that is due. So what is gathered are the items that the filter picks, in their order, the pages
that are pulled make up the list, and there is one request for each part, the short one at the end
among them.

Main statement: `collect_complete`.
-/

namespace Settle

variable {τ ω α : Type}

/-- The list action answers every request with the slice of a list that it asks for. It makes no
other call, and leaves the limiters alone. -/
def ListAction.Slices (a : ListAction τ ω α) (xs : List α) (limit : Value) : Prop :=
  ∀ (offset : ℕ) (w : World τ ω), ∃ listed w', (a.ask offset limit).Ends w (.ok listed) w' ∧
    listed.items? = some (Listing.slice xs offset limit.asInt) ∧
    w'.calls = w.calls ++ [.list offset limit] ∧ w'.limiters = w.limiters

/-- The list action that serves a list. -/
def ListAction.serving (xs : List α) : ListAction τ ω α :=
  .outside none fun offset limit o => (.ok (.items (Listing.slice xs offset limit.asInt)), o)

theorem ListAction.slices_serving (xs : List α) (limit : Value) :
    (serving xs : ListAction τ ω α).Slices xs limit :=
  fun _ _ => ⟨_, _, Run.ends_call.mpr ⟨rfl, rfl⟩, rfl, World.calls_called _, rfl⟩

namespace Listing

variable {host : Host ℚ ω} {r : Reader ℚ ω} {l : Listing ℚ ω α} {limiter : Limiter ℚ}
  {xs : List α} {size : ℕ}

/-- A world between two pages: just these pages were requested, each of them once, and calls are
let through. -/
structure Progress (l : Listing ℚ ω α) (limiter : Limiter ℚ) (size : ℕ) (w₀ : World ℚ ω) (m : ℕ)
    (w : World ℚ ω) : Prop where
  calls : w.calls = w₀.calls ++ l.requests size (fun _ => 0) m
  roomy : limiter.Roomy w

/-- Every page that is due is answered, at the first attempt. -/
theorem answered_of_slices (ht : host.Thorough) (hr : r.limiter = some limiter)
    (hl : l.size = size) (hs : l.list.Slices xs l.pageSize) (hp : 2 ≤ host.patience)
    (w₀ : World ℚ ω) (i : ℕ) :
    l.Answered host r xs size (l.Progress limiter size w₀) w₀ i := by
  rintro - w - hw
  have hroomy : limiter.Roomy (l.asked host w) := hw.roomy.of_limiters (limiters_asked w)
  obtain ⟨w₁, hacquire, hroomy₁, hcalls₁⟩ :=
    Limiter.exists_acquire_ends ht hp hroomy l.actionName
  -- the limiter lets the request through, and the list action answers it
  obtain ⟨listed, w', hask, hitems, hcalls, hlimiters⟩ := hs (i * size) w₁
  have hfrom : (Limiter.acquireFrom host r.limiter l.actionName).Ends (l.asked host w)
      (.ok ()) w₁ := by
    rw [hr]
    exact hacquire
  obtain ⟨page, hreceived, hpage⟩ := exists_received_eq (l := l) hitems
  have hfetch := (fetch_ends_iff hfrom).mpr ⟨_, hask, hreceived.symm⟩
  refine ⟨page, w', fetchRetried_ends (by omega) hfetch, ?_, fun e => ⟨?_, ?_⟩⟩
  · rw [hpage, part, ← hl]
    rfl
  · rw [World.calls_logged, hcalls, hcalls₁, calls_asked, hw.calls, List.append_assoc,
      requests_succ]
    rfl
  · exact hroomy₁.of_limiters hlimiters

/-- **A listing is read in full**, with or without a profile and whatever the limiter makes of the
requests. Gathering its items ends with those that the filter picks, in their order, and pulling
its pages ends with pages that make up the list, if there is patience for all of them. In either
case there is one request for each part of the list, in order, and no other. -/
theorem collect_complete (ht : host.Thorough) (hr : r.limiter = some limiter)
    (hl : l.size = size) (hpos : 0 < size) (hs : l.list.Slices xs l.pageSize) (w : World ℚ ω)
    (hroomy : limiter.Roomy w) (patience : xs.length / size + 2 ≤ host.patience) :
    (∀ f : α → Bool, ∃ w',
      (l.collect host r fun x => .ok (f x)).Ends w (.ok (xs.filter f)) w' ∧
      w'.calls = w.calls ++ l.requests size (fun _ => 0) (xs.length / size + 1)) ∧
    ∀ count, xs.length / size + 2 ≤ count → ∃ (pages : List (Page α)) (w' : World ℚ ω),
      (l.pullMany host r count .fresh).Ends w
        (.ok (pages.map (fun p => .ok (some p)) ++ [.ok none], .over)) w' ∧
      pages.flatMap Page.items = xs ∧
      w'.calls = w.calls ++ l.requests size (fun _ => 0) (xs.length / size + 1) := by
  have hstart : l.Progress limiter size w 0 w := ⟨(List.append_nil _).symm, hroomy⟩
  -- the pages are read once, whatever is done with them
  obtain ⟨pages, w₁, hreads, hw₁, hlength, hitems⟩ :=
    exists_reads_all hl hpos hstart fun i _ => answered_of_slices ht hr hl hs (by omega) w i
  have hcalls (e : Event ℚ) :
      (w₁.logged e).calls = w.calls ++ l.requests size (fun _ => 0) (xs.length / size + 1) := by
    rw [World.calls_logged, hw₁.calls]
  constructor
  · intro f
    have hcollect := hreads.collect_ends f (by omega)
    rw [hitems] at hcollect
    exact ⟨_, hcollect, hcalls _⟩
  · intro count hcount
    obtain ⟨fuel, rfl⟩ := Nat.exists_eq_add_of_le' hcount
    have hpull := hreads.pullMany_ends (pullMany_short_ends fuel _ _ w₁)
    rw [hlength, Nat.add_assoc, Nat.add_comm 1] at hpull
    exact ⟨pages, _, hpull, hitems, hcalls _⟩

/-- Four items in pages of two, at one request per second: the third page is empty. -/
theorem collect_complete_even :
    ∃ w', (collect (⟨fun o => (o, o), fun time o => o + time, 4⟩ : Host ℚ ℚ)
        ⟨some ⟨0, 1, 1, [], 10⟩, {}⟩ { list := .serving [1, 2, 3, 4], pageSize := .int 2 }
        fun x : ℕ => .ok (x % 2 == 0)).Ends { outside := 0 } (.ok [2, 4]) w' ∧
      w'.calls = [.list 0 (.int 2), .list 2 (.int 2), .list 4 (.int 2)] := by
  exact (@collect_complete ℚ ℕ ⟨fun o => (o, o), fun time o => o + time, 4⟩
    ⟨some ⟨0, 1, 1, [], 10⟩, {}⟩ { list := .serving [1, 2, 3, 4], pageSize := .int 2 } _ _ 2
    ⟨fun _ => le_rfl, fun _ _ => le_rfl⟩ rfl rfl (by decide)
    (ListAction.slices_serving [1, 2, 3, 4] (.int 2)) { outside := 0 } (.start rfl) (by decide)).1
      fun x => x % 2 == 0

end Listing

end Settle
