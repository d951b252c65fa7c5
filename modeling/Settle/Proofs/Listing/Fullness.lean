import Settle.Proofs.Listing.Pulls

/-!
# Full pages, and pages that are followed by another

A page is full by its own limit (`Page.hasMore`), and a traversal asks for another page after one
that is full by the page size (`Asks`). Where the limit of a page is the page size, the two agree:
so it is with bare items, and with pages of a list action that keeps to the limit it was asked for.
A list action may answer with pages of any limit, though. Then the two agree unless the number of
items lies between the limits (`Page.Disputed`), and it is the page size that counts.

Main statements: `asks_iff_hasMore`, and `hasMore_unasked`, in which the last page that is read is
full by its own limit.
-/

namespace Settle

variable {τ ω α : Type}

/-- The number of items lies between the limit of the page and a size, so that the page is full by
one of them and short by the other. -/
def Page.Disputed (p : Page α) (size : Nat) : Prop :=
  min p.limit.asInt size ≤ p.size ∧ (p.size : Int) < max p.limit.asInt size

namespace Listing

variable [Quantity τ] {host : Host τ ω} {r : Reader τ ω} {l : Listing τ ω α} {t : Traversal}
  {w w₁ w₂ : World τ ω} {size : Nat} {pages : List (Page α)} {page : Page α}

/-- What comes next is the request for a page. -/
def Asks (host : Host τ ω) (r : Reader τ ω) (l : Listing τ ω α) (t : Traversal) : Prop :=
  ∃ offset n, l.next host r t = l.step host r offset n

omit [Quantity τ] in
/-- Bare items make a page with the page size for its limit. -/
theorem limit_of_received {offset : Int} {x : Except (Fault τ) (Listed α)}
    (h : l.received offset x = .ok page) : x = .ok (.page page) ∨ page.limit = l.pageSize := by
  rcases x with e | p | xs | _
  · cases h
  · cases h
    exact .inl rfl
  · cases h
    exact .inr rfl
  · cases h

section Asks

variable (hl : l.size = size) (hpos : 0 < size)
include hl hpos

/-- After a page that is full by the page size, the next one is requested. -/
theorem Fetched.next_of_full (h : l.Fetched host r size w (pages ++ [page]) w₁)
    (hfull : size ≤ page.size) :
    l.next host r (stateAfter size (pages ++ [page])) =
      l.step host r ((pages.length + 1) * size : Nat) (pages.length + 1) := by
  have hothers := h.full_dropLast
  rw [List.dropLast_concat] at hothers
  have hall : ∀ p ∈ pages ++ [page], size ≤ p.size :=
    List.forall_mem_append.mpr ⟨hothers, List.forall_mem_singleton.mpr hfull⟩
  rw [next_stateAfter_of_full hl hpos hall, List.length_append, List.length_singleton]

/-- **A traversal asks for another page** just after one that is full by the page size. -/
theorem Fetched.asks_iff (h : l.Fetched host r size w (pages ++ [page]) w₁) :
    l.Asks host r (stateAfter size (pages ++ [page])) ↔ size ≤ page.size := by
  constructor
  · rintro ⟨offset, n, hstep⟩
    by_contra hshort
    -- a request for a page gives one or fails, and here there is neither
    have hover : (l.step host r offset n).Ends w₁ (.ok (none, .over))
        (w₁.logged (.pagesDone l.actionName (pages.length + 1))) := by
      rw [← hstep, next_stateAfter_of_short (Nat.not_le.mp hshort)]
      rfl
    rcases step_ends_iff.mp hover with ⟨page, w₂, -, hx, -⟩ | ⟨e, -, hx⟩
    · cases hx
    · cases hx
  · intro hfull
    exact ⟨_, _, h.next_of_full hl hpos hfull⟩

end Asks

section Calls

variable {given : Option String} {f : Int → Value → ω → Except (Fault τ) (Listed α) × ω}
  {limiter : Limiter τ} (hlist : l.list = .outside given f) (hr : r.limiter = some limiter)
include hlist hr

/-- If the pages of the list action keep to the limit that it was asked for, all pages do. -/
theorem Fetched.limit_eq (h : l.Fetched host r size w (pages ++ [page]) w₁) (hl : l.size = size)
    (hlimit : ∀ offset o p, (f offset l.pageSize o).1 = .ok (.page p) → p.limit.asInt = size) :
    page.limit.asInt = size := by
  generalize heq : pages ++ [page] = all at h
  cases h with
  | nil => exact absurd heq (List.append_ne_nil_of_right_ne_nil pages (List.cons_ne_nil _ _))
  | snoc _ _ last =>
    obtain ⟨-, heq⟩ := List.append_inj' heq rfl
    obtain rfl := List.head_eq_of_cons_eq heq
    obtain ⟨w₂, w₃, hfetch⟩ := exists_fetch_of_fetchRetried last
    obtain ⟨w₄, x, -, hask, hpage⟩ := exists_ask_of_fetch hr hfetch
    rw [hlist] at hask
    obtain ⟨rfl, -⟩ := Run.ends_call.mp hask
    rcases limit_of_received hpage.symm with hown | hbare
    · exact hlimit _ _ _ hown
    · rw [hbare]
      exact hl

/-- **When another page is asked for**: after every page that has at least as many items as the page
size. This is whenever the page says that more may follow, unless the page is disputed; no page is
if the list action keeps to the limit that it was asked for. If another page is asked for, it is
requested in the next pull, and otherwise that pull ends the traversal without a call. -/
theorem asks_iff_hasMore (hl : l.size = size) (hpos : 0 < size)
    (h : l.Reads host r .fresh w (pages ++ [page]) t w₁) :
    (l.Asks host r t ↔ size ≤ page.size) ∧
    ((l.Asks host r t ↔ page.hasMore = true) ↔ ¬ page.Disputed size) ∧
    ((∀ offset o p, (f offset l.pageSize o).1 = .ok (.page p) → p.limit.asInt = size) →
      (l.Asks host r t ↔ page.hasMore = true)) ∧
    ∀ x w₂, (l.next host r t).Ends w₁ x w₂ →
      (l.Asks host r t → ∃ k, w₂.calls = w₁.calls ++
        List.replicate (k + 1) (.list ((pages.length + 1) * size : Nat) l.pageSize)) ∧
      (¬ l.Asks host r t → x = .ok (none, .over) ∧ w₂.calls = w₁.calls) := by
  obtain ⟨hfetched, rfl⟩ := (reads_iff_fetched hl hpos).mp h
  have hasks := hfetched.asks_iff hl hpos
  refine ⟨hasks, ?_, fun hlimit => ?_, fun x w₂ hnext => ⟨fun hask => ?_, fun hask => ?_⟩⟩
  · rw [hasks, Page.hasMore_iff, Page.Disputed]
    omega
  · have heq := hfetched.limit_eq hlist hr hl hlimit
    rw [hasks, Page.hasMore_iff, heq, Int.ofNat_le]
  · rw [hfetched.next_of_full hl hpos (hasks.mp hask)] at hnext
    rcases step_ends_iff.mp hnext with ⟨page', w₃, hfetch, -, rfl⟩ | ⟨e, hfetch, -⟩
    · rw [World.calls_logged]
      exact exists_calls_of_fetchRetried hlist hr hfetch
    · exact exists_calls_of_fetchRetried hlist hr hfetch
  · rw [hasks] at hask
    rw [next_stateAfter_of_short (Nat.not_le.mp hask), Run.ends_log_bind] at hnext
    obtain ⟨rfl, rfl⟩ := Run.ends_pure.mp hnext
    exact ⟨rfl, World.calls_logged _⟩

end Calls

/-- A listing whose list action answers first with two items, the most that it gives at a time, and
then with one. -/
def capped (pageSize : ℤ) : Listing ℚ Unit ℕ where
  list := .outside none fun offset _ o =>
    (.ok (if offset = 0 then .page ⟨[1, 2], .int 2, .int 0⟩ else .items [9]), o)
  pageSize := .int pageSize

/-- At a page size of two, the page of two says that more may follow, and more is asked for. -/
theorem asks_iff_hasMore_capped :
    ∃ page w, (capped 2).Reads (.still 0 3) ⟨some ⟨0, 1, 1, [], 0⟩, {}⟩ .fresh { outside := () }
        [page] (.between 0 1 false) w ∧
      page.hasMore = true ∧
      (capped 2).Asks (.still 0 3) ⟨some ⟨0, 1, 1, [], 0⟩, {}⟩ (.between 0 1 false) := by
  let r : Reader ℚ Unit := ⟨some ⟨0, 1, 1, [], 0⟩, {}⟩
  let page : Page ℕ := ⟨[1, 2], .int 2, .int 0⟩
  obtain ⟨w, hw, -⟩ := Run.exists_ends_of_report (m := (capped 2).next (.still 0 3) r .fresh)
    (w := { outside := () }) (r := .ok (some page, .between 0 1 false)) (o := ())
    (by decide +kernel)
  have hreads : (capped 2).Reads (.still 0 3) r .fresh { outside := () } [page]
      (.between 0 1 false) w := .snoc .nil hw
  obtain ⟨hasks, -⟩ := @asks_iff_hasMore ℚ Unit ℕ _ (.still 0 3) r (capped 2) _ _ _ 2 [] page _ _ _
    rfl rfl rfl (by decide) hreads
  exact ⟨page, w, hreads, rfl, hasks.mpr (by decide)⟩

/-- **The last page may say that more may follow.** At a page size of three the same page is short,
although it is full by its own limit, and the item after it is never asked for. -/
theorem hasMore_unasked :
    ∃ page w, (capped 3).Reads (.still 0 3) ⟨some ⟨0, 1, 1, [], 0⟩, {}⟩ .fresh { outside := () }
        [page] (.between 0 1 true) w ∧
      page.hasMore = true ∧
      ¬ (capped 3).Asks (.still 0 3) ⟨some ⟨0, 1, 1, [], 0⟩, {}⟩ (.between 0 1 true) ∧
      ∃ w', ((capped 3).next (.still 0 3) ⟨some ⟨0, 1, 1, [], 0⟩, {}⟩ (.between 0 1 true)).Ends w
          (.ok (none, .over)) w' ∧ w'.calls = w.calls := by
  let r : Reader ℚ Unit := ⟨some ⟨0, 1, 1, [], 0⟩, {}⟩
  let page : Page ℕ := ⟨[1, 2], .int 2, .int 0⟩
  obtain ⟨w, hw, -⟩ := Run.exists_ends_of_report (m := (capped 3).next (.still 0 3) r .fresh)
    (w := { outside := () }) (r := .ok (some page, .between 0 1 true)) (o := ())
    (by decide +kernel)
  have hreads : (capped 3).Reads (.still 0 3) r .fresh { outside := () } ([] ++ [page])
      (.between 0 1 true) w := .snoc .nil hw
  have hsize : (capped 3).size = (3 : ℕ) := rfl
  obtain ⟨hfetched, -⟩ := (reads_iff_fetched hsize (by decide)).mp hreads
  have hasks : (capped 3).Asks (.still 0 3) r (.between 0 1 true) ↔ 3 ≤ page.size :=
    hfetched.asks_iff hsize (by decide)
  exact ⟨page, w, hreads, rfl, fun h => absurd (hasks.mp h) (by decide), _, rfl,
    World.calls_logged _⟩

end Listing

end Settle
