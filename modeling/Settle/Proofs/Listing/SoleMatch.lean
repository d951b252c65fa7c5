import Settle.Proofs.Listing.Complete

/-!
# The single match of a listing

Looking for a single item gathers all that match and then judges them (`found`), so the listing is
read to its end however early a match turns up. What comes of it depends on the matches in the whole
list alone: none, the item if it is the only one, or a fault that counts them. In particular the
page size has no say in it, although the matches may lie on one page or on several.

Main statement: `findOne_complete`.
-/

namespace Settle.Listing

section Found

variable {τ ω α : Type} [Quantity τ]

/-- What comes of the items that match. -/
def found (l : Listing τ ω α) (what : Value) : List α → Except (Fault τ) (Option α)
  | [] => .ok none
  | [x] => .ok (some x)
  | xs => .error (.cardinality what (.int xs.length) (.ofOption l.action))

omit [Quantity τ] in
/-- Several items are a fault that counts them. -/
theorem found_of_le {l : Listing τ ω α} {what : Value} {xs : List α} (h : 2 ≤ xs.length) :
    l.found what xs = .error (.cardinality what (.int xs.length) (.ofOption l.action)) := by
  rcases xs with _ | ⟨x, _ | ⟨y, xs⟩⟩
  · cases h
  · exact absurd h (Nat.lt_irrefl 1)
  · rfl

/-- All matches are gathered before anything is made of them. -/
theorem findOne_eq (host : Host τ ω) (r : Reader τ ω) (l : Listing τ ω α)
    (wanted : α → Except (Fault τ) Bool) (what : Value) :
    l.findOne host r wanted what =
      l.collect host r wanted >>= fun xs => Run.ofExcept (l.found what xs) := by
  unfold findOne
  congr 1
  funext xs
  rcases xs with _ | ⟨x, _ | ⟨y, xs⟩⟩ <;> rfl

end Found

variable {ω α : Type} {host : Host ℚ ω} {r : Reader ℚ ω} {l : Listing ℚ ω α} {limiter : Limiter ℚ}
  {xs : List α}

/-- Matches are found in the whole list, with one request for each part of it. -/
theorem exists_findOne_ends (ht : host.Thorough) (hr : r.limiter = some limiter) {size : ℕ}
    (hl : l.size = size) (hpos : 0 < size) (hs : l.list.Slices xs l.pageSize) {w : World ℚ ω}
    (hroomy : limiter.Roomy w) (patience : xs.length / size + 2 ≤ host.patience) (f : α → Bool)
    (what : Value) :
    ∃ w', (l.findOne host r (fun x => .ok (f x)) what).Ends w (l.found what (xs.filter f)) w' ∧
      w'.calls = w.calls ++ l.requests size (fun _ => 0) (xs.length / size + 1) := by
  have hstart : l.Progress limiter size w 0 w := ⟨(List.append_nil _).symm, hroomy⟩
  obtain ⟨pages, w₁, hreads, hw₁, hlength, hitems⟩ :=
    exists_reads_all hl hpos hstart fun i _ => answered_of_slices ht hr hl hs (by omega) w i
  have hcollect := hreads.collect_ends f (by omega)
  rw [hitems] at hcollect
  refine ⟨w₁.logged (.pagesDone l.actionName (xs.length / size + 1)), ?_, ?_⟩
  · rw [findOne_eq, Run.ends_bind_ofExcept]
    exact ⟨_, hcollect, rfl⟩
  · rw [World.calls_logged, hw₁.calls]

/-- **The single match of a listing** is decided by the matches in the whole list. There is one
answer for all page sizes: none without a match, the item if it is the only match, and otherwise a
fault that counts the matches. Whatever the page size, the listing is read to its short page, with
one request for each of its parts. -/
theorem findOne_complete (ht : host.Thorough) (hr : r.limiter = some limiter)
    (hs : ∀ limit, l.list.Slices xs limit) (w : World ℚ ω) (hroomy : limiter.Roomy w)
    (f : α → Bool) (what : Value) :
    ∃ answer : Except (Fault ℚ) (Option α),
      (xs.countP f = 0 → answer = .ok none) ∧
      (∀ x, xs.filter f = [x] → answer = .ok (some x)) ∧
      (2 ≤ xs.countP f →
        answer = .error (.cardinality what (.int (xs.countP f)) (.ofOption l.action))) ∧
      ∀ (pageSize : Value) (size : ℕ), pageSize.asInt = size → 0 < size →
        xs.length / size + 2 ≤ host.patience →
        ∃ w', ({ l with pageSize }.findOne host r (fun x => .ok (f x)) what).Ends w answer w' ∧
          w'.calls = w.calls ++
            { l with pageSize }.requests size (fun _ => 0) (xs.length / size + 1) := by
  refine ⟨l.found what (xs.filter f), ?_, ?_, ?_, ?_⟩
  · intro hnone
    rw [List.filter_eq_nil_iff.mpr (List.countP_eq_zero.mp hnone)]
    rfl
  · intro x hsole
    rw [hsole]
    rfl
  · intro hmany
    rw [List.countP_eq_length_filter] at hmany ⊢
    exact found_of_le hmany
  · intro pageSize size hsize hpos patience
    exact exists_findOne_ends (l := { l with pageSize }) ht hr hsize hpos (hs pageSize) hroomy
      patience f what

/-- Two matches among five items, on two pages of two or on one page of four. -/
theorem findOne_complete_two :
    let host : Host ℚ ℚ := ⟨fun o => (o, o), fun time o => o + time, 4⟩
    let r : Reader ℚ ℚ := ⟨some ⟨0, 1, 1, [], 10⟩, {}⟩
    let l (p : ℤ) : Listing ℚ ℚ ℕ := { list := .serving [1, 2, 3, 4, 5], pageSize := .int p }
    let several : Fault ℚ := .cardinality (.text "item") (.int 2) (.ofOption none)
    (∃ w', ((l 2).findOne host r (fun x => .ok (x % 2 == 0)) (.text "item")).Ends
        { outside := 0 } (.error several) w' ∧
      w'.calls = [.list 0 (.int 2), .list 2 (.int 2), .list 4 (.int 2)]) ∧
    ∃ w', ((l 4).findOne host r (fun x => .ok (x % 2 == 0)) (.text "item")).Ends
        { outside := 0 } (.error several) w' ∧
      w'.calls = [.list 0 (.int 4), .list 4 (.int 4)] := by
  intro host r l several
  obtain ⟨answer, -, -, hmany, hfind⟩ := @findOne_complete ℚ ℕ host r (l 1) _ _
    ⟨fun _ => le_rfl, fun _ _ => le_rfl⟩ rfl (ListAction.slices_serving [1, 2, 3, 4, 5])
    { outside := 0 } (.start rfl) (fun x => x % 2 == 0) (.text "item")
  obtain rfl : answer = .error several := hmany (by decide)
  exact ⟨hfind (.int 2) 2 rfl (by decide) (by decide),
    hfind (.int 4) 4 rfl (by decide) (by decide)⟩

end Settle.Listing
