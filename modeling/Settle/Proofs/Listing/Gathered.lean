import Mathlib.Data.List.Basic
import Settle.Proofs.Listing.Reads

/-!
# What is gathered from a traversal

Gathering goes through the pages of a traversal until it stops (`Stops`): after its last page, or
with a fault. `gather_ends_iff` says this of any list action at all, and that the filter has no say
in it. The filter only picks from the items of the pages that were read, so gathering with a filter
is gathering without one and filtering in the end: the same pages are read, in the same worlds.

Main statement: `collect_filtered`. A run that does not end within the patience of the host has no
result to compare, so the statement also says that the two runs pass through the same pages, however
far they get.
-/

namespace Settle

variable {τ ω α : Type}

namespace Listing

variable [Quantity τ] {host : Host τ ω} {r : Reader τ ω} {l : Listing τ ω α}
  {t t₁ t' : Traversal} {w w₁ w' : World τ ω} {pages : List (Page α)}

/-! ### How a traversal stops -/

/-- A traversal stops: there is no page after the last one, or a fault. -/
def Stops (host : Host τ ω) (r : Reader τ ω) (l : Listing τ ω α) (t : Traversal) (w : World τ ω)
    (stop : Except (Fault τ) Unit) (w' : World τ ω) : Prop :=
  (l.next host r t).Ends w (stop.map fun _ => (none, .over)) w'

/-- Pages in a row may be counted from the first. -/
theorem Reads.cons {page : Page α} (first : (l.next host r t).Ends w (.ok (some page, t₁)) w₁)
    (others : l.Reads host r t₁ w₁ pages t' w') : l.Reads host r t w (page :: pages) t' w' := by
  induction others with
  | nil => exact .snoc .nil first
  | snoc _ last ih => exact ih.snoc last

section Steps

variable {x : Except (Fault τ) (Option (Page α) × Traversal)}

/-- A step gives the page that was requested, or the fault of the request. -/
theorem step_ends_iff {offset : Int} {n : Nat} :
    (l.step host r offset n).Ends w x w' ↔
      (∃ page w₁, (l.fetchRetried host r offset).Ends w (.ok page) w₁ ∧
        x = .ok (some page, .between offset (n + 1) (l.isShort page)) ∧
        w' = w₁.logged (.pageRead l.actionName offset page.size l.pageSize)) ∨
      ∃ e, (l.fetchRetried host r offset).Ends w (.error e) w' ∧ x = .error e := by
  rw [step, Run.ends_bind]
  refine or_congr (exists_congr fun page => exists_congr fun w₁ => and_congr_right fun _ => ?_)
    Iff.rfl
  rw [Run.ends_log_bind, Run.ends_pure]

theorem step_cases {offset : Int} {n : Nat} (h : (l.step host r offset n).Ends w x w') :
    (∃ page t', x = .ok (some page, t')) ∨
      ∃ stop : Except (Fault τ) Unit, x = stop.map fun _ => (none, .over) := by
  rcases step_ends_iff.mp h with ⟨page, w₁, -, rfl, -⟩ | ⟨e, -, rfl⟩
  · exact .inl ⟨page, _, rfl⟩
  · exact .inr ⟨.error e, rfl⟩

/-- The next thing to happen is a page, or the traversal stops. -/
theorem next_cases (h : (l.next host r t).Ends w x w') :
    (∃ page t', x = .ok (some page, t')) ∨
      ∃ stop, l.Stops host r t w stop w' ∧ x = stop.map fun _ => (none, .over) := by
  suffices hcases : (∃ page t', x = .ok (some page, t')) ∨
      ∃ stop : Except (Fault τ) Unit, x = stop.map fun _ => (none, .over) by
    refine hcases.imp_right ?_
    rintro ⟨stop, rfl⟩
    exact ⟨stop, h, rfl⟩
  rcases t with _ | ⟨offset, n, short⟩ | _
  · rw [next] at h
    split at h
    · exact .inr ⟨.error _, (Run.ends_raise.mp h).1⟩
    · exact step_cases h
  · cases short with
    | false => exact step_cases h
    | true =>
      rw [next, Run.ends_log_bind] at h
      exact .inr ⟨.ok (), (Run.ends_pure.mp h).1⟩
  · exact .inr ⟨.ok (), (Run.ends_pure.mp h).1⟩

end Steps

/-! ### Gathering -/

/-- Gathering goes on with the items that the filter picks from the next page, until the traversal
stops. -/
theorem gather_succ_ends_iff {f : α → Bool} {fuel : Nat} {items : List α}
    {y : Except (Fault τ) (List α)} :
    (l.gather host r (fun x => .ok (f x)) (fuel + 1) t items).Ends w y w' ↔
      (∃ page t₁ w₁, (l.next host r t).Ends w (.ok (some page, t₁)) w₁ ∧
        (l.gather host r (fun x => .ok (f x)) fuel t₁ (items ++ page.items.filter f)).Ends w₁ y
          w') ∨
      ∃ stop, l.Stops host r t w stop w' ∧ y = stop.map fun _ => items := by
  rw [gather, Run.ends_bind]
  constructor
  · rintro (⟨⟨page, t₁⟩, w₁, hnext, h⟩ | ⟨e, hnext, rfl⟩)
    · cases page with
      | some page =>
        simp only [filterM_ok] at h
        exact .inl ⟨page, t₁, w₁, hnext, (Run.ends_step_bind rfl).mp h⟩
      | none =>
        obtain ⟨rfl, rfl⟩ := Run.ends_pure.mp h
        rcases next_cases hnext with ⟨page, t', heq⟩ | ⟨stop, hstops, heq⟩
        · cases heq
        · cases stop with
          | error e => cases heq
          | ok _ => exact .inr ⟨.ok (), hstops, rfl⟩
    · exact .inr ⟨.error e, hnext, rfl⟩
  · rintro (⟨page, t₁, w₁, hnext, h⟩ | ⟨stop, hstops, rfl⟩)
    · refine .inl ⟨_, w₁, hnext, ?_⟩
      simp only [filterM_ok]
      exact (Run.ends_step_bind rfl).mpr h
    · cases stop with
      | error e => exact .inr ⟨e, hstops, rfl⟩
      | ok _ => exact .inl ⟨_, w', hstops, Run.ends_pure.mpr ⟨rfl, rfl⟩⟩

/-- **How gathering ends**: after some pages in a row the traversal stops, within the patience that
there is, and without a fault the result is what the filter picks from these pages. -/
theorem gather_ends_iff {f : α → Bool} {fuel : Nat} {items : List α}
    {y : Except (Fault τ) (List α)} :
    (l.gather host r (fun x => .ok (f x)) fuel t items).Ends w y w' ↔
      ∃ pages t₁ w₁ stop, l.Reads host r t w pages t₁ w₁ ∧ pages.length < fuel ∧
        l.Stops host r t₁ w₁ stop w' ∧
        y = stop.map fun _ => items ++ (pages.flatMap Page.items).filter f := by
  constructor
  · intro h
    induction fuel generalizing t w items with
    | zero => exact absurd h Run.not_ends_giveUp
    | succ fuel ih =>
      rcases gather_succ_ends_iff.mp h with ⟨page, t₁, w₁, hnext, h⟩ | ⟨stop, hstops, rfl⟩
      · obtain ⟨pages, t₂, w₂, stop, hreads, hlt, hstops, rfl⟩ := ih h
        refine ⟨page :: pages, t₂, w₂, stop, .cons hnext hreads, Nat.succ_lt_succ hlt, hstops, ?_⟩
        rw [List.flatMap_cons, List.filter_append, List.append_assoc]
      · refine ⟨[], t, w, stop, .nil, Nat.succ_pos fuel, hstops, ?_⟩
        rw [List.flatMap_nil, List.filter_nil, List.append_nil]
  · rintro ⟨pages, t₁, w₁, stop, hreads, hlt, hstops, rfl⟩
    obtain ⟨rest, rfl⟩ := Nat.exists_eq_add_of_le' hlt
    rw [Nat.succ_eq_add_one, ← Nat.add_assoc, Nat.add_right_comm, Run.Ends, hreads.gather_apply]
    exact gather_succ_ends_iff.mpr (.inr ⟨stop, hstops, rfl⟩)

/-- So it is with all items of a listing. -/
theorem collect_ends_iff {f : α → Bool} {y : Except (Fault τ) (List α)} :
    (l.collect host r fun x => .ok (f x)).Ends w y w' ↔
      ∃ pages t₁ w₁ stop, l.Reads host r .fresh w pages t₁ w₁ ∧ pages.length < host.patience ∧
        l.Stops host r t₁ w₁ stop w' ∧
        y = stop.map fun _ => (pages.flatMap Page.items).filter f :=
  gather_ends_iff

/-- Without a filter, all items of the pages are gathered. -/
theorem collect_all_ends_iff {y : Except (Fault τ) (List α)} :
    (l.collect host r fun _ => .ok true).Ends w y w' ↔
      ∃ pages t₁ w₁ stop, l.Reads host r .fresh w pages t₁ w₁ ∧ pages.length < host.patience ∧
        l.Stops host r t₁ w₁ stop w' ∧ y = stop.map fun _ => pages.flatMap Page.items := by
  simp only [collect_ends_iff, List.filter_true]

/-- **Filtering while gathering** comes to the same as filtering in the end, for every list action.
A run with a filter and one without, which keeps everything, end in the same world, so that they
made the same requests, slept as often and reported the same; either both end with the same fault,
or the filter picks the one result from the other. However far the runs get, they pass through the
same pages in the same worlds, and what they gathered so far differs by the filter alone. -/
theorem collect_filtered (host : Host τ ω) (r : Reader τ ω) (l : Listing τ ω α) (f : α → Bool)
    (w : World τ ω) :
    (∀ y w', (l.collect host r fun x => .ok (f x)).Ends w y w' ↔
      ∃ z, (l.collect host r fun _ => .ok true).Ends w z w' ∧ y = z.map (List.filter f)) ∧
    ∀ pages t w₁ fuel, l.Reads host r .fresh w pages t w₁ → host.patience = fuel + pages.length →
      l.collect host r (fun x => .ok (f x)) w =
        l.gather host r (fun x => .ok (f x)) fuel t ((pages.flatMap Page.items).filter f) w₁ ∧
      l.collect host r (fun _ => .ok true) w =
        l.gather host r (fun _ => .ok true) fuel t (pages.flatMap Page.items) w₁ := by
  refine ⟨fun y w' => ?_, fun pages t w₁ fuel hreads hfuel => ?_⟩
  · rw [collect_ends_iff]
    simp only [collect_all_ends_iff]
    constructor
    · rintro ⟨pages, t₁, w₁, stop, hreads, hlt, hstops, rfl⟩
      refine ⟨_, ⟨pages, t₁, w₁, stop, hreads, hlt, hstops, rfl⟩, ?_⟩
      cases stop <;> rfl
    · rintro ⟨z, ⟨pages, t₁, w₁, stop, hreads, hlt, hstops, rfl⟩, rfl⟩
      refine ⟨pages, t₁, w₁, stop, hreads, hlt, hstops, ?_⟩
      cases stop <;> rfl
  · refine ⟨hreads.collect_apply f hfuel, ?_⟩
    rw [hreads.collect_apply _ hfuel, List.filter_true]

end Listing

end Settle
