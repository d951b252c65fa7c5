import Settle.Proofs.Exact
import Settle.Proofs.Listing.Gathered
import Settle.Proofs.Listing.Requests
import Settle.Proofs.Run.Outcomes

/-!
# Pages that are pulled

A traversal that is pulled asks for no page before it is due. Pulling `m` pages (`pulls`) makes the
first `m` requests of the traversal, in the worlds in which the whole traversal makes them; what
comes next waits in the state between two pulls.

That state says no more than how many pages were read, and whether the last of them was short
(`stateAfter`). So page `i` is requested at the offset `i * size` whatever the pages before it held
(`Fetched`), all of them are full, and the traversal ends with the first that is short or with a
fault (`Closes`). A pull after the end finds nothing and changes nothing.

Main statement: `pulls_fetched`.
-/

namespace Settle

variable {τ ω α : Type}

namespace Listing

variable [Quantity τ]

/-! ### Pulling -/

/-- Pull a number of times, also after the end. -/
def pulls (host : Host τ ω) (r : Reader τ ω) (l : Listing τ ω α) :
    Nat → Traversal → Run τ ω (List (Except (Fault τ) (Option (Page α))) × Traversal)
  | 0, t => pure ([], t)
  | count + 1, t => do
    let x ← l.pull host r t
    let xs ← l.pulls host r count x.2
    pure (x.1 :: xs.1, xs.2)

variable {host : Host τ ω} {r : Reader τ ω} {l : Listing τ ω α} {t t' : Traversal}
  {w w' : World τ ω} {m : Nat}

/-- After the end there is nothing to pull. -/
theorem pulls_over (host : Host τ ω) (r : Reader τ ω) (l : Listing τ ω α) (m : Nat) :
    l.pulls host r m .over = pure (List.replicate m (.ok none), .over) := by
  induction m with
  | zero => rfl
  | succ m ih =>
    rw [pulls, pull_over, Run.pure_bind, ih]
    rfl

/-- A pull gives the next page, or the end of the traversal. -/
theorem pull_ends_iff {y : Except (Fault τ) (Except (Fault τ) (Option (Page α)) × Traversal)} :
    (l.pull host r t).Ends w y w' ↔
      (∃ page t', (l.next host r t).Ends w (.ok (some page, t')) w' ∧
        y = .ok (.ok (some page), t')) ∨
      ∃ stop, l.Stops host r t w stop w' ∧ y = .ok (stop.map fun _ => none, .over) := by
  rw [pull, Run.ends_catching_bind]
  constructor
  · rintro ⟨x, w₁, hnext, hy⟩
    rcases next_cases hnext with ⟨page, t', rfl⟩ | ⟨stop, hstops, rfl⟩
    · obtain ⟨rfl, rfl⟩ := Run.ends_pure.mp hy
      exact .inl ⟨page, t', hnext, rfl⟩
    · cases stop with
      | error e =>
        obtain ⟨rfl, rfl⟩ := Run.ends_pure.mp hy
        exact .inr ⟨_, hstops, rfl⟩
      | ok _ =>
        obtain ⟨rfl, rfl⟩ := Run.ends_pure.mp hy
        exact .inr ⟨_, hstops, rfl⟩
  · rintro (⟨page, t', hnext, rfl⟩ | ⟨stop, hstops, rfl⟩)
    · exact ⟨_, w', hnext, Run.ends_pure.mpr ⟨rfl, rfl⟩⟩
    · refine ⟨_, w', hstops, ?_⟩
      cases stop <;> exact Run.ends_pure.mpr ⟨rfl, rfl⟩

/-- Pulling on after the end finds nothing more than pulling up to it. -/
theorem pulls_eq_pullMany (host : Host τ ω) (r : Reader τ ω) (l : Listing τ ω α) (m : Nat)
    (t : Traversal) :
    l.pulls host r m t = l.pullMany host r m t >>= fun xs =>
      pure (xs.1 ++ List.replicate (m - xs.1.length) (.ok none), xs.2) := by
  induction m generalizing t with
  | zero => rfl
  | succ m ih =>
    funext w
    rw [pulls, pullMany, Run.bind_assoc, Run.bind_apply, Run.bind_apply]
    cases h : l.pull host r t w with
    | unfinished => rfl
    | raised e w₁ => rfl
    | returned x w₁ =>
      rcases pull_ends_iff.mp (Run.ends_ok_iff.mpr h) with ⟨page, t₁, -, hx⟩ | ⟨stop, -, hx⟩
      · cases hx
        simp only [ih, Run.bind_assoc, Run.pure_bind, List.length_cons, Nat.add_sub_add_right,
          List.cons_append]
      · cases hx
        -- this was the end, for the one as for the other
        cases stop <;> simp only [Except.map, pulls_over] <;> rfl

/-- Pulling goes on after a page, and adds nothing after the end. -/
theorem pulls_succ_ends_iff
    {y : Except (Fault τ) (List (Except (Fault τ) (Option (Page α))) × Traversal)} :
    (l.pulls host r (m + 1) t).Ends w y w' ↔
      (∃ page t₁ w₁ x, (l.next host r t).Ends w (.ok (some page, t₁)) w₁ ∧
        (l.pulls host r m t₁).Ends w₁ x w' ∧
        y = x.map fun xs => (.ok (some page) :: xs.1, xs.2)) ∨
      ∃ stop, l.Stops host r t w stop w' ∧
        y = .ok ((stop.map fun _ => none) :: List.replicate m (.ok none), .over) := by
  rw [pulls, Run.ends_bind]
  constructor
  · rintro (⟨x, w₁, hpull, h⟩ | ⟨e, hpull, -⟩)
    · obtain ⟨z, hz, rfl⟩ := Run.ends_bind_pure.mp h
      rcases pull_ends_iff.mp hpull with ⟨page, t₁, hnext, hx⟩ | ⟨stop, hstops, hx⟩
      · cases hx
        exact .inl ⟨page, t₁, w₁, z, hnext, hz, rfl⟩
      · cases hx
        rw [pulls_over] at hz
        obtain ⟨rfl, rfl⟩ := Run.ends_pure.mp hz
        exact .inr ⟨stop, hstops, rfl⟩
    · rcases pull_ends_iff.mp hpull with ⟨page, t₁, -, he⟩ | ⟨stop, -, he⟩
      · cases he
      · cases he
  · rintro (⟨page, t₁, w₁, x, hnext, hx, rfl⟩ | ⟨stop, hstops, rfl⟩)
    · exact .inl ⟨_, w₁, pull_ends_iff.mpr (.inl ⟨page, t₁, hnext, rfl⟩),
        Run.ends_bind_pure.mpr ⟨x, hx, rfl⟩⟩
    · refine .inl ⟨_, w', pull_ends_iff.mpr (.inr ⟨stop, hstops, rfl⟩), ?_⟩
      rw [pulls_over]
      exact Run.ends_bind_pure.mpr ⟨_, Run.ends_pure.mpr ⟨rfl, rfl⟩, rfl⟩

/-- What is pulled from a traversal that gives these pages. -/
def pulledPages (pages : List (Page α)) : List (Except (Fault τ) (Option (Page α))) :=
  pages.map fun page => .ok (some page)

/-- What is pulled from a traversal that stops after these pages, in `m` pulls. -/
def exhausted (m : Nat) (pages : List (Page α)) (stop : Except (Fault τ) Unit) :
    List (Except (Fault τ) (Option (Page α))) :=
  pulledPages pages ++
    (stop.map fun _ => none) :: List.replicate (m - (pages.length + 1)) (.ok none)

/-- Pulling goes on after pages in a row. -/
theorem Reads.pulls_ends {pages : List (Page α)} (h : l.Reads host r t w pages t' w')
    {xs : List (Except (Fault τ) (Option (Page α))) × Traversal} {w'' : World τ ω}
    (hrest : (l.pulls host r m t').Ends w' (.ok xs) w'') :
    (l.pulls host r (m + pages.length) t).Ends w (.ok (pulledPages pages ++ xs.1, xs.2)) w'' := by
  induction h generalizing m xs with
  | nil => exact hrest
  | @snoc _ _ _ _ pages page _ last ih =>
    rw [List.length_append, List.length_singleton, ← Nat.add_assoc, Nat.add_right_comm, pulledPages,
      List.map_append, List.append_assoc]
    exact ih (pulls_succ_ends_iff.mpr (.inl ⟨page, _, _, _, last, hrest, rfl⟩))

/-- **How pulling ends**: with as many pages in a row, or, if the traversal stops before, where it
stops. -/
theorem pulls_ends_iff
    {y : Except (Fault τ) (List (Except (Fault τ) (Option (Page α))) × Traversal)} :
    (l.pulls host r m t).Ends w y w' ↔
      (∃ pages t₁, pages.length = m ∧ l.Reads host r t w pages t₁ w' ∧
        y = .ok (pulledPages pages, t₁)) ∨
      ∃ pages t₁ w₁ stop, pages.length < m ∧ l.Reads host r t w pages t₁ w₁ ∧
        l.Stops host r t₁ w₁ stop w' ∧ y = .ok (exhausted m pages stop, .over) := by
  constructor
  · intro h
    induction m generalizing t w y with
    | zero =>
      obtain ⟨rfl, rfl⟩ := Run.ends_pure.mp h
      exact .inl ⟨[], t, rfl, .nil, rfl⟩
    | succ m ih =>
      rcases pulls_succ_ends_iff.mp h with ⟨page, t₁, w₁, x, hnext, hx, rfl⟩ | ⟨stop, hstops, rfl⟩
      · rcases ih hx with
          ⟨pages, t₂, hm, hreads, rfl⟩ | ⟨pages, t₂, w₂, stop, hm, hreads, hstops, rfl⟩
        · exact .inl ⟨page :: pages, t₂, congrArg Nat.succ hm, .cons hnext hreads, rfl⟩
        · refine .inr ⟨page :: pages, t₂, w₂, stop, Nat.succ_lt_succ hm, .cons hnext hreads, hstops,
            ?_⟩
          rw [exhausted, exhausted, List.length_cons, Nat.add_sub_add_right]
          rfl
      · exact .inr ⟨[], t, w, stop, Nat.succ_pos m, .nil, hstops, rfl⟩
  · rintro (⟨pages, t₁, rfl, hreads, rfl⟩ | ⟨pages, t₁, w₁, stop, hm, hreads, hstops, rfl⟩)
    · have hnone : (l.pulls host r 0 t₁).Ends w' (.ok ([], t₁)) w' := rfl
      have hpulls := hreads.pulls_ends hnone
      rwa [Nat.zero_add, List.append_nil] at hpulls
    · obtain ⟨rest, rfl⟩ := Nat.exists_eq_add_of_le' hm
      have hpulls := hreads.pulls_ends (m := rest + 1)
        (pulls_succ_ends_iff.mpr (.inr ⟨stop, hstops, rfl⟩))
      rwa [exhausted, Nat.succ_eq_add_one, Nat.add_sub_cancel, Nat.add_comm pages.length,
        ← Nat.add_assoc]

/-! ### The requests of a traversal -/

/-- Pages that were requested one after the other, the first at offset 0 and each at the next
multiple of the size. A page is requested only if all before it were full. -/
inductive Fetched (host : Host τ ω) (r : Reader τ ω) (l : Listing τ ω α) (size : Nat)
    (w : World τ ω) : List (Page α) → World τ ω → Prop
  | nil : Fetched host r l size w [] w
  | snoc {pages : List (Page α)} {page : Page α} {w₁ w₂ : World τ ω}
      (others : Fetched host r l size w pages w₁) (full : ∀ p ∈ pages, size ≤ p.size)
      (last : (l.fetchRetried host r (pages.length * size : Nat)).Ends w₁ (.ok page) w₂) :
      Fetched host r l size w (pages ++ [page])
        (w₂.logged (.pageRead l.actionName (pages.length * size : Nat) page.size l.pageSize))

/-- How a traversal closes after pages that were requested: the last of them was short, or the
request for the next one fails. -/
inductive Closes (host : Host τ ω) (r : Reader τ ω) (l : Listing τ ω α) (size : Nat)
    (pages : List (Page α)) (w : World τ ω) : Except (Fault τ) Unit → World τ ω → Prop
  | short {others : List (Page α)} {page : Page α} (eq : pages = others ++ [page])
      (h : page.size < size) :
      Closes host r l size pages w (.ok ()) (w.logged (.pagesDone l.actionName pages.length))
  | failed {e : Fault τ} {w' : World τ ω} (full : ∀ p ∈ pages, size ≤ p.size)
      (h : (l.fetchRetried host r (pages.length * size : Nat)).Ends w (.error e) w') :
      Closes host r l size pages w (.error e) w'

/-- The state of a traversal that has read these pages. -/
def stateAfter (size : Nat) (pages : List (Page α)) : Traversal :=
  match pages.getLast? with
  | none => .fresh
  | some page =>
    .between ((pages.length - 1) * size : Nat) pages.length (decide (page.size < size))

variable {size : Nat} {pages : List (Page α)} {page : Page α} {w₁ : World τ ω}

theorem stateAfter_concat (size : Nat) (pages : List (Page α)) (page : Page α) :
    stateAfter size (pages ++ [page]) =
      .between (pages.length * size : Nat) (pages.length + 1) (decide (page.size < size)) := by
  rw [stateAfter, List.getLast?_concat, List.length_append, List.length_singleton,
    Nat.add_sub_cancel]

/-- No page before the next was short, if all are full. -/
theorem stateAfter_of_full (h : ∀ p ∈ pages, size ≤ p.size) :
    stateAfter size pages = stateBefore size pages.length := by
  rcases List.eq_nil_or_concat pages with rfl | ⟨others, page, rfl⟩
  · rfl
  · rw [List.concat_eq_append] at h ⊢
    have hfull := h page (List.mem_append_right _ (List.mem_singleton_self page))
    rw [stateAfter_concat, decide_eq_false (Nat.not_lt.mpr hfull), List.length_append,
      List.length_singleton, stateBefore]

omit [Quantity τ] in
theorem isShort_eq (hl : l.size = size) (page : Page α) :
    l.isShort page = decide (page.size < size) := by
  rw [isShort, hl]
  exact decide_eq_decide.mpr Int.ofNat_lt

/-- Only the last page may be short. -/
theorem Fetched.full_or_short (h : l.Fetched host r size w pages w') :
    (∀ p ∈ pages, size ≤ p.size) ∨
      ∃ others page, pages = others ++ [page] ∧ page.size < size := by
  cases h with
  | nil => exact .inl (List.forall_mem_nil _)
  | @snoc others page _ _ _ full _ =>
    by_cases hshort : page.size < size
    · exact .inr ⟨others, page, rfl, hshort⟩
    · refine .inl (List.forall_mem_append.mpr ⟨full, ?_⟩)
      rw [List.forall_mem_singleton]
      exact Nat.not_lt.mp hshort

theorem Fetched.full_dropLast (h : l.Fetched host r size w pages w') :
    ∀ p ∈ pages.dropLast, size ≤ p.size := by
  cases h with
  | nil => exact List.forall_mem_nil _
  | snoc _ full _ =>
    rw [List.dropLast_concat]
    exact full

/-- The last page was requested after the others, which were full. -/
theorem fetched_concat_iff :
    l.Fetched host r size w (pages ++ [page]) w' ↔
      ∃ w₁ w₂, l.Fetched host r size w pages w₁ ∧ (∀ p ∈ pages, size ≤ p.size) ∧
        (l.fetchRetried host r (pages.length * size : Nat)).Ends w₁ (.ok page) w₂ ∧
        w' = w₂.logged
          (.pageRead l.actionName (pages.length * size : Nat) page.size l.pageSize) := by
  constructor
  · generalize hall : pages ++ [page] = all
    rintro (- | ⟨others, full, last⟩)
    · exact absurd hall (List.append_ne_nil_of_right_ne_nil _ (List.cons_ne_nil _ _))
    · obtain ⟨rfl, hpage⟩ := List.append_inj' hall rfl
      obtain rfl := List.singleton_inj.mp hpage
      exact ⟨_, _, others, full, last, rfl⟩
  · rintro ⟨w₁, w₂, others, full, last, rfl⟩
    exact .snoc others full last

/-- The world in which the pages are read is determined by the pages. -/
theorem Fetched.unique (h : l.Fetched host r size w pages w₁)
    (h' : l.Fetched host r size w pages w') : w₁ = w' := by
  induction h generalizing w' with
  | nil =>
    generalize hnone : ([] : List (Page α)) = none at h'
    cases h' with
    | nil => rfl
    | snoc => exact absurd hnone.symm (List.append_ne_nil_of_right_ne_nil _ (List.cons_ne_nil _ _))
  | snoc _ _ last ih =>
    obtain ⟨v₁, v₂, others, -, last', rfl⟩ := fetched_concat_iff.mp h'
    obtain rfl := ih others
    rw [(last.unique last').2]

/-- The first pages were requested in the same way. -/
theorem Fetched.take (h : l.Fetched host r size w pages w') (m : Nat) :
    ∃ w₁, l.Fetched host r size w (pages.take m) w₁ := by
  induction h with
  | nil =>
    rw [List.take_nil]
    exact ⟨w, .nil⟩
  | @snoc pages page _ _ others full last ih =>
    rcases Nat.lt_or_ge pages.length m with hlt | hle
    · have hall : (pages ++ [page]).take m = pages ++ [page] :=
        List.take_of_length_le (by rwa [List.length_append, List.length_singleton])
      rw [hall]
      exact ⟨_, .snoc others full last⟩
    · rw [List.take_append_of_le_length hle]
      exact ih

/-- After a short page nothing is due. -/
theorem next_stateAfter_of_short {others : List (Page α)} (h : page.size < size) :
    l.next host r (stateAfter size (others ++ [page])) = (do
      Run.log (.pagesDone l.actionName (others.length + 1))
      pure (none, .over)) := by
  rw [stateAfter_concat, decide_eq_true h, next_of_short]

section Offsets

variable (hl : l.size = size) (hpos : 0 < size)
include hl hpos

/-- After full pages it is the next page that is requested. -/
theorem next_stateAfter_of_full (h : ∀ p ∈ pages, size ≤ p.size) :
    l.next host r (stateAfter size pages) =
      l.step host r (pages.length * size : Nat) pages.length := by
  rw [stateAfter_of_full h, next_stateBefore hl hpos]

/-- **The pages of a traversal** are those that were requested in a row, at multiples of the size,
whatever is on them. -/
theorem reads_iff_fetched :
    l.Reads host r .fresh w pages t w' ↔
      l.Fetched host r size w pages w' ∧ t = stateAfter size pages := by
  constructor
  · intro h
    induction h with
    | nil => exact ⟨.nil, rfl⟩
    | snoc _ last ih =>
      obtain ⟨hfetched, rfl⟩ := ih
      rcases hfetched.full_or_short with full | ⟨others, page, rfl, hshort⟩
      · rw [next_stateAfter_of_full hl hpos full] at last
        rcases step_ends_iff.mp last with ⟨page, w₁, hfetch, hx, rfl⟩ | ⟨e, -, hx⟩
        · cases hx
          refine ⟨.snoc hfetched full hfetch, ?_⟩
          rw [stateAfter_concat, isShort_eq hl]
        · cases hx
      · -- after a short page there is no other
        rw [next_stateAfter_of_short hshort, Run.ends_log_bind] at last
        cases (Run.ends_pure.mp last).1
  · rintro ⟨h, rfl⟩
    induction h with
    | nil => exact .nil
    | snoc _ full last ih =>
      refine ih.snoc ?_
      rw [next_stateAfter_of_full hl hpos full, stateAfter_concat, ← isShort_eq hl]
      exact step_ends last

/-- A traversal stops where its requests close it. -/
theorem Fetched.stops_iff (h : l.Fetched host r size w pages w₁)
    {stop : Except (Fault τ) Unit} :
    l.Stops host r (stateAfter size pages) w₁ stop w' ↔ l.Closes host r size pages w₁ stop w' := by
  constructor
  · intro hstops
    rcases h.full_or_short with full | ⟨others, page, rfl, hshort⟩
    · rw [Stops, next_stateAfter_of_full hl hpos full] at hstops
      rcases step_ends_iff.mp hstops with ⟨page, w₂, -, hx, -⟩ | ⟨e, hfetch, hx⟩
      · cases stop <;> cases hx
      · cases stop with
        | ok _ => cases hx
        | error e' =>
          cases hx
          exact .failed full hfetch
    · rw [Stops, next_stateAfter_of_short hshort, Run.ends_log_bind] at hstops
      obtain ⟨hx, rfl⟩ := Run.ends_pure.mp hstops
      cases stop with
      | error e => cases hx
      | ok _ =>
        have hlength : (others ++ [page]).length = others.length + 1 := List.length_append
        rw [← hlength]
        exact .short rfl hshort
  · rintro (⟨rfl, hshort⟩ | ⟨full, hfetch⟩)
    · rw [Stops, next_stateAfter_of_short hshort, List.length_append, List.length_singleton]
      rfl
    · rw [Stops, next_stateAfter_of_full hl hpos full]
      exact step_ends_of_error hfetch

/-- **How pulling ends**, in terms of the requests that it makes. -/
theorem pulls_fresh_ends_iff
    {y : Except (Fault τ) (List (Except (Fault τ) (Option (Page α))) × Traversal)} :
    (l.pulls host r m .fresh).Ends w y w' ↔
      (∃ pages, pages.length = m ∧ l.Fetched host r size w pages w' ∧
        y = .ok (pulledPages pages, stateAfter size pages)) ∨
      ∃ pages w₁ stop, pages.length < m ∧ l.Fetched host r size w pages w₁ ∧
        l.Closes host r size pages w₁ stop w' ∧ y = .ok (exhausted m pages stop, .over) := by
  rw [pulls_ends_iff]
  constructor
  · rintro (⟨pages, t₁, hm, hreads, rfl⟩ | ⟨pages, t₁, w₁, stop, hm, hreads, hstops, rfl⟩)
    · obtain ⟨hfetched, rfl⟩ := (reads_iff_fetched hl hpos).mp hreads
      exact .inl ⟨pages, hm, hfetched, rfl⟩
    · obtain ⟨hfetched, rfl⟩ := (reads_iff_fetched hl hpos).mp hreads
      exact .inr ⟨pages, w₁, stop, hm, hfetched, (hfetched.stops_iff hl hpos).mp hstops, rfl⟩
  · rintro (⟨pages, hm, hfetched, rfl⟩ | ⟨pages, w₁, stop, hm, hfetched, hcloses, rfl⟩)
    · exact .inl ⟨pages, _, hm, (reads_iff_fetched hl hpos).mpr ⟨hfetched, rfl⟩, rfl⟩
    · exact .inr ⟨pages, _, w₁, stop, hm, (reads_iff_fetched hl hpos).mpr ⟨hfetched, rfl⟩,
        (hfetched.stops_iff hl hpos).mpr hcloses, rfl⟩

/-- The whole traversal makes its requests until they close it. -/
theorem collect_all_ends_iff_closes {y : Except (Fault τ) (List α)} :
    (l.collect host r fun _ => .ok true).Ends w y w' ↔
      ∃ pages w₁ stop, pages.length < host.patience ∧ l.Fetched host r size w pages w₁ ∧
        l.Closes host r size pages w₁ stop w' ∧ y = stop.map fun _ => pages.flatMap Page.items := by
  rw [collect_all_ends_iff]
  constructor
  · rintro ⟨pages, t₁, w₁, stop, hreads, hlt, hstops, rfl⟩
    obtain ⟨hfetched, rfl⟩ := (reads_iff_fetched hl hpos).mp hreads
    exact ⟨pages, w₁, stop, hlt, hfetched, (hfetched.stops_iff hl hpos).mp hstops, rfl⟩
  · rintro ⟨pages, w₁, stop, hlt, hfetched, hcloses, rfl⟩
    exact ⟨pages, _, w₁, stop, (reads_iff_fetched hl hpos).mpr ⟨hfetched, rfl⟩, hlt,
      (hfetched.stops_iff hl hpos).mpr hcloses, rfl⟩

end Offsets

/-! ### The calls of a traversal -/

omit [Quantity τ] in
theorem requests_congr {n n' : Nat → Nat} (h : ∀ i < m, n i = n' i) :
    l.requests size n m = l.requests size n' m :=
  List.flatMap_congr fun i hi => by rw [h i (List.mem_range.mp hi)]

section Calls

variable {given : Option String} {f : Int → Value → ω → Except (Fault τ) (Listed α) × ω}
  {limiter : Limiter τ} (hlist : l.list = .outside given f) (hr : r.limiter = some limiter)
include hlist hr

/-- The requests of a traversal make the calls for their own pages, at least one for each. -/
theorem Fetched.exists_calls (h : l.Fetched host r size w pages w') :
    ∃ n, ∀ m ≤ pages.length, ∀ w₁, l.Fetched host r size w (pages.take m) w₁ →
      w₁.calls = w.calls ++ l.requests size n m := by
  induction h with
  | nil =>
    refine ⟨fun _ => 0, fun m hm w₁ h => ?_⟩
    rw [List.take_nil] at h
    rw [h.unique .nil, Nat.le_zero.mp hm]
    exact (List.append_nil _).symm
  | @snoc pages page w₁ w₂ others full last ih =>
    obtain ⟨n, hn⟩ := ih
    obtain ⟨k, hk⟩ := exists_calls_of_fetchRetried hlist hr last
    refine ⟨fun i => if i = pages.length then k else n i, fun m hm w' h => ?_⟩
    -- the calls for the pages before stay what they are
    have hbefore {m : Nat} (hm : m ≤ pages.length) :
        l.requests size (fun i => if i = pages.length then k else n i) m = l.requests size n m :=
      requests_congr fun i hi => if_neg (Nat.ne_of_lt (Nat.lt_of_lt_of_le hi hm))
    rw [List.length_append, List.length_singleton] at hm
    rcases Nat.lt_or_eq_of_le hm with hlt | rfl
    · have hle := Nat.le_of_lt_succ hlt
      rw [List.take_append_of_le_length hle] at h
      rw [hbefore hle]
      exact hn m hle w' h
    · have hall : (pages ++ [page]).take (pages.length + 1) = pages ++ [page] :=
        List.take_of_length_le (by rw [List.length_append, List.length_singleton])
      rw [hall] at h
      have hothers := hn pages.length (Nat.le_refl _) w₁ (by rwa [List.take_length])
      rw [h.unique (.snoc others full last), World.calls_logged, hk, hothers, requests_succ,
        hbefore (Nat.le_refl _), if_pos rfl, List.append_assoc]

/-- The end of a traversal makes no call after a short page, and otherwise those for the page that
fails. -/
theorem Closes.exists_calls {stop : Except (Fault τ) Unit}
    (h : l.Closes host r size pages w stop w') :
    ∃ k, w'.calls = w.calls ++ List.replicate k (.list (pages.length * size : Nat) l.pageSize) ∧
      (k = 0 ↔ stop = .ok ()) := by
  rcases h with ⟨rfl, -⟩ | ⟨-, hfetch⟩
  · exact ⟨0, by rw [World.calls_logged, List.replicate_zero, List.append_nil], iff_of_true rfl rfl⟩
  · obtain ⟨k, hk⟩ := exists_calls_of_fetchRetried hlist hr hfetch
    exact ⟨k + 1, hk, iff_of_false (Nat.succ_ne_zero k) nofun⟩

end Calls

/-- **Pulling is lazy**, for every list action. Pulling `m` times makes the first `m` requests of
the traversal or, if it closes before, all of them; what is gathered from the whole traversal is
made of the same requests, in the same worlds. Page `i` is requested at the offset `i * size`
whatever the pages before it held, and all pages but the last are full. Once the traversal has
closed, with a short page or a fault, every further pull leaves the world as it is.

A list action that asks the outside makes one call each time. Then the calls for page `i` all ask
for the offset `i * size` with the page size for a limit, one for each of its attempts, and nothing
else is called, and nothing at all after a short page. -/
theorem pulls_fetched (hl : l.size = size) (hpos : 0 < size) (w : World τ ω) :
    (∀ m y w', (l.pulls host r m .fresh).Ends w y w' ↔
      (∃ pages, pages.length = m ∧ l.Fetched host r size w pages w' ∧
        y = .ok (pulledPages pages, stateAfter size pages)) ∨
      ∃ pages w₁ stop, pages.length < m ∧ l.Fetched host r size w pages w₁ ∧
        l.Closes host r size pages w₁ stop w' ∧ y = .ok (exhausted m pages stop, .over)) ∧
    (∀ y w', (l.collect host r fun _ => .ok true).Ends w y w' ↔
      ∃ pages w₁ stop, pages.length < host.patience ∧ l.Fetched host r size w pages w₁ ∧
        l.Closes host r size pages w₁ stop w' ∧ y = stop.map fun _ => pages.flatMap Page.items) ∧
    ∀ pages w', l.Fetched host r size w pages w' →
      (∀ p ∈ pages.dropLast, size ≤ p.size) ∧
      (∀ m ≤ pages.length, ∃ w₁, l.Fetched host r size w (pages.take m) w₁ ∧
        (l.pulls host r m .fresh).Ends w
          (.ok (pulledPages (pages.take m), stateAfter size (pages.take m))) w₁) ∧
      (∀ stop w'', l.Closes host r size pages w' stop w'' → ∀ m, pages.length < m →
        (l.pulls host r m .fresh).Ends w (.ok (exhausted m pages stop, .over)) w'') ∧
      ∀ given f limiter, l.list = .outside given f → r.limiter = some limiter →
        (∃ n, ∀ m ≤ pages.length, ∀ w₁, l.Fetched host r size w (pages.take m) w₁ →
          w₁.calls = w.calls ++ l.requests size n m) ∧
        ∀ stop w'', l.Closes host r size pages w' stop w'' →
          ∃ k, w''.calls =
              w'.calls ++ List.replicate k (.list (pages.length * size : Nat) l.pageSize) ∧
            (k = 0 ↔ stop = .ok ()) := by
  refine ⟨fun m y w' => pulls_fresh_ends_iff hl hpos,
    fun y w' => collect_all_ends_iff_closes hl hpos, fun pages w' h =>
      ⟨h.full_dropLast, fun m hm => ?_, fun stop w'' hcloses m hm => ?_,
        fun given f limiter hlist hr => ⟨h.exists_calls hlist hr, fun stop w'' hcloses => ?_⟩⟩⟩
  · -- the worlds after the first pulls are those that the traversal goes through
    obtain ⟨w₁, hw₁⟩ := h.take m
    exact ⟨w₁, hw₁, (pulls_fresh_ends_iff hl hpos).mpr
      (.inl ⟨_, List.length_take_of_le hm, hw₁, rfl⟩)⟩
  · exact (pulls_fresh_ends_iff hl hpos).mpr (.inr ⟨pages, w', stop, hm, h, hcloses, rfl⟩)
  · exact hcloses.exists_calls hlist hr

/-- Pages of two, of which the first holds three items and tells another limit and offset: the
second is requested at the offset two all the same, and is the last. -/
theorem pulls_fetched_overfull :
    let l : Listing ℚ Unit ℕ := {
      list := .outside none fun offset _ o =>
        (.ok (if offset = 0 then .page ⟨[1, 2, 3], .int 7, .int 9⟩ else .items [4]), o)
      pageSize := .int 2 }
    ∃ (n : ℕ → ℕ) (w : World ℚ Unit),
      (l.pulls (.still 0 4) ⟨some ⟨0, 1, 1, [], 0⟩, {}⟩ 4 .fresh).Ends { outside := () }
        (.ok ([.ok (some ⟨[1, 2, 3], .int 7, .int 9⟩), .ok (some ⟨[4], .int 2, .int 2⟩), .ok none,
          .ok none], .over)) w ∧
      w.calls = List.replicate (n 0 + 1) (.list 0 (.int 2)) ++
        List.replicate (n 1 + 1) (.list 2 (.int 2)) := by
  intro l
  let r : Reader ℚ Unit := ⟨some ⟨0, 1, 1, [], 0⟩, {}⟩
  let first : Page ℕ := ⟨[1, 2, 3], .int 7, .int 9⟩
  let second : Page ℕ := ⟨[4], .int 2, .int 2⟩
  obtain ⟨w, hw, -⟩ := Run.exists_ends_of_report (m := l.pulls (.still 0 4) r 2 .fresh)
    (w := { outside := () }) (r := .ok ([.ok (some first), .ok (some second)], .between 2 2 true))
    (o := ()) (by decide +kernel)
  obtain ⟨hpulls, -, hfetched⟩ :=
    @pulls_fetched ℚ Unit ℕ _ (.still 0 4) r l 2 rfl (by decide) { outside := () }
  rcases (hpulls 2 _ w).mp hw with ⟨pages, -, h, hx⟩ | ⟨pages, w₁, stop, -, -, -, hx⟩
  · have htaken : pulledPages [first, second] = pulledPages pages :=
      congrArg Prod.fst (Except.ok.inj hx)
    obtain rfl : [first, second] = pages :=
      List.map_injective_iff.mpr (fun _ _ h => Option.some.inj (Except.ok.inj h)) htaken
    obtain ⟨-, -, hcloses, hcalls⟩ := hfetched _ w h
    obtain ⟨⟨n, hn⟩, -⟩ := hcalls _ _ _ rfl rfl
    have heq : [first, second] = [first] ++ [second] := rfl
    refine ⟨n, _, hcloses _ _ (.short heq (by decide)) 4 (by decide), ?_⟩
    rw [World.calls_logged, hn 2 (by decide) w h, requests_succ, requests_succ]
    rfl
  · cases congrArg Prod.snd (Except.ok.inj hx)

end Listing

end Settle
