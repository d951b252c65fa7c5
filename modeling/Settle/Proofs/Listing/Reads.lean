import Settle.Listing.Traversal
import Settle.Proofs.Listing.Parts
import Settle.Proofs.Run.Ends

/-!
# Reading pages in a row

`Reads` says that a traversal takes these pages one after the other, without a fault and without
coming to its end. What is done with the pages is another matter: `Reads.collect_ends` and
`Reads.pullMany_ends` say what becomes of them when they are gathered and when they are pulled.

A listing is read part by part, if every request is answered with the part that is due.
`exists_reads` is the induction that this takes, with an invariant of the worlds between two
pages, and `exists_reads_all` adds the last page, which is the only short one.
-/

namespace Settle

variable {τ ω α : Type}

namespace Listing

variable [Quantity τ] {host : Host τ ω} {r : Reader τ ω} {l : Listing τ ω α}

/-! ### Pages in a row -/

/-- Pages taken one after the other, from one state of a traversal to another. -/
inductive Reads (host : Host τ ω) (r : Reader τ ω) (l : Listing τ ω α) (t : Traversal)
    (w : World τ ω) : List (Page α) → Traversal → World τ ω → Prop
  | nil : Reads host r l t w [] t w
  | snoc {t₁ t₂ : Traversal} {w₁ w₂ : World τ ω} {pages : List (Page α)} {page : Page α}
      (others : Reads host r l t w pages t₁ w₁)
      (last : (l.next host r t₁).Ends w₁ (.ok (some page, t₂)) w₂) :
      Reads host r l t w (pages ++ [page]) t₂ w₂

variable {t t' : Traversal} {w w' : World τ ω} {pages : List (Page α)}

/-- Gathering goes on after pages in a row, with the items that the filter picks from them. -/
theorem Reads.gather_apply (h : l.Reads host r t w pages t' w') (f : α → Bool) (fuel : Nat)
    (items : List α) :
    l.gather host r (fun x => .ok (f x)) (fuel + pages.length) t items w =
      l.gather host r (fun x => .ok (f x)) fuel t'
        (items ++ (pages.flatMap Page.items).filter f) w' := by
  induction h generalizing fuel with
  | nil => rw [List.flatMap_nil, List.filter_nil, List.append_nil, List.length_nil, Nat.add_zero]
  | @snoc t₁ t₂ w₁ w₂ pages page _ last ih =>
    -- the last page is what the traversal goes on with after the others
    rw [List.length_append, List.length_singleton, ← Nat.add_assoc, Nat.add_right_comm, ih, gather,
      Run.bind_apply, last]
    simp only [Ending.of, filterM_ok]
    rw [List.flatMap_append, List.flatMap_singleton, List.filter_append, ← List.append_assoc]
    rfl

/-- So what is gathered in all is what is gathered after them. -/
theorem Reads.collect_apply (h : l.Reads host r .fresh w pages t' w') (f : α → Bool) {fuel : Nat}
    (hfuel : host.patience = fuel + pages.length) :
    l.collect host r (fun x => .ok (f x)) w =
      l.gather host r (fun x => .ok (f x)) fuel t' ((pages.flatMap Page.items).filter f) w' := by
  rw [collect, hfuel, h.gather_apply, List.nil_append]

/-- A pull gives the page that comes next. -/
theorem pull_ends {page : Option (Page α)} (h : (l.next host r t).Ends w (.ok (page, t')) w') :
    (l.pull host r t).Ends w (.ok (.ok page, t')) w' := by
  have hcatching := Run.ends_catching.mpr ⟨_, h, rfl⟩
  rw [pull, Run.ends_step_bind hcatching]
  exact Run.ends_pure.mpr ⟨rfl, rfl⟩

/-- Pages that are pulled come one after the other. -/
theorem Reads.pullMany_ends (h : l.Reads host r t w pages t' w') {count : Nat}
    {rest : List (Except (Fault τ) (Option (Page α)))} {t'' : Traversal} {w'' : World τ ω}
    (hrest : (l.pullMany host r count t').Ends w' (.ok (rest, t'')) w'') :
    (l.pullMany host r (count + pages.length) t).Ends w
      (.ok (pages.map (fun p => .ok (some p)) ++ rest, t'')) w'' := by
  induction h generalizing count rest with
  | nil => exact hrest
  | snoc _ last ih =>
    rw [List.length_append, List.length_singleton, ← Nat.add_assoc, Nat.add_right_comm,
      List.map_append, List.append_assoc]
    refine ih ?_
    rw [pullMany, Run.ends_step_bind (pull_ends last), Run.ends_step_bind hrest]
    exact Run.ends_pure.mpr ⟨rfl, rfl⟩

/-- After a short page there is nothing more to pull. -/
theorem pullMany_short_ends (count : Nat) (offset : Int) (n : Nat) (w : World τ ω) :
    (l.pullMany host r (count + 1) (.between offset n true)).Ends w (.ok ([.ok none], .over))
      (w.logged (.pagesDone l.actionName n)) := rfl

/-- A listing is gathered once a short page was read. -/
theorem Reads.collect_ends {offset : Int} {n : Nat}
    (h : l.Reads host r .fresh w pages (.between offset n true) w') (f : α → Bool)
    (hp : pages.length < host.patience) :
    (l.collect host r fun x => .ok (f x)).Ends w (.ok ((pages.flatMap Page.items).filter f))
      (w'.logged (.pagesDone l.actionName n)) := by
  obtain ⟨fuel, hfuel⟩ := Nat.exists_eq_add_of_le' hp
  rw [Nat.succ_eq_add_one, ← Nat.add_assoc, Nat.add_right_comm] at hfuel
  rw [Run.Ends, h.collect_apply f hfuel]
  rfl

/-- A fault on the way ends what is gathered. -/
theorem Reads.collect_ends_of_error (h : l.Reads host r .fresh w pages t' w') (f : α → Bool)
    (hp : pages.length < host.patience) {e : Fault τ} {w'' : World τ ω}
    (he : (l.next host r t').Ends w' (.error e) w'') :
    (l.collect host r fun x => .ok (f x)).Ends w (.error e) w'' := by
  obtain ⟨fuel, hfuel⟩ := Nat.exists_eq_add_of_le' hp
  rw [Nat.succ_eq_add_one, ← Nat.add_assoc, Nat.add_right_comm] at hfuel
  rw [Run.Ends, h.collect_apply f hfuel]
  exact Run.ends_bind.mpr (.inr ⟨e, he, rfl⟩)

/-! ### Part by part -/

/-- The state of a traversal in which page `i` comes next, if none before it was short. -/
def stateBefore (size : Nat) : Nat → Traversal
  | 0 => .fresh
  | i + 1 => .between (i * size : Nat) (i + 1) false

variable {size : Nat}

/-- Page `i` is requested at the offset of part `i`. -/
theorem next_stateBefore (hl : l.size = size) (hpos : 0 < size) (i : Nat) :
    l.next host r (stateBefore size i) = l.step host r (i * size : Nat) i := by
  cases i with
  | zero =>
    rw [stateBefore, next, if_neg (by omega), Nat.zero_mul]
    rfl
  | succ i =>
    have hoffset : ((i * size : Nat) : Int) + l.size = ((i + 1) * size : Nat) := by
      rw [hl, Nat.succ_mul, Int.natCast_add]
    rw [stateBefore, next, hoffset]

/-- A page that was read is reported, and whether more follow depends on its size. -/
theorem step_ends {offset : Int} {n : Nat} {page : Page α}
    (h : (l.fetchRetried host r offset).Ends w (.ok page) w') :
    (l.step host r offset n).Ends w
      (.ok (some page, .between offset (n + 1) (l.isShort page)))
      (w'.logged (.pageRead l.actionName offset page.size l.pageSize)) := by
  rw [step, Run.ends_step_bind h, Run.ends_log_bind]
  exact Run.ends_pure.mpr ⟨rfl, rfl⟩

/-- Without a page there is no step. -/
theorem step_ends_of_error {offset : Int} {n : Nat} {e : Fault τ}
    (h : (l.fetchRetried host r offset).Ends w (.error e) w') :
    (l.step host r offset n).Ends w (.error e) w' :=
  Run.ends_bind.mpr (.inr ⟨e, h, rfl⟩)

section Parts

variable {xs : List α} {P : Nat → World τ ω → Prop} {w₀ : World τ ω}

/-- A request for page `i` is answered with part `i`, wherever the traversal comes to make it, and
this leads from a world between two pages to another. -/
def Answered (host : Host τ ω) (r : Reader τ ω) (l : Listing τ ω α) (xs : List α) (size : Nat)
    (P : Nat → World τ ω → Prop) (w₀ : World τ ω) (i : Nat) : Prop :=
  ∀ pages w, l.Reads host r .fresh w₀ pages (stateBefore size i) w → P i w →
    ∃ page w', (l.fetchRetried host r (i * size : Nat)).Ends w (.ok page) w' ∧
      page.items = part xs size i ∧ ∀ e, P (i + 1) (w'.logged e)

variable (hl : l.size = size) (hpos : 0 < size)
include hl hpos

/-- One more page is read. -/
theorem exists_reads_succ {i : Nat} (hi : i ≤ xs.length / size)
    (ha : Answered host r l xs size P w₀ i)
    (h : l.Reads host r .fresh w₀ pages (stateBefore size i) w) (hw : P i w)
    (hp : pages.map Page.items = (List.range i).map (part xs size)) :
    ∃ pages' w', l.Reads host r .fresh w₀ pages'
        (.between (i * size : Nat) (i + 1) (decide (i = xs.length / size))) w' ∧
      P (i + 1) w' ∧ pages'.map Page.items = (List.range (i + 1)).map (part xs size) := by
  obtain ⟨page, w₁, hfetch, hitems, hw₁⟩ := ha pages w h hw
  have hshort : l.isShort page = decide (i = xs.length / size) := by
    rw [isShort, hl, Page.size, hitems]
    exact decide_eq_decide.mpr (Int.ofNat_lt.trans (length_part_lt_iff hpos hi))
  have hnext := step_ends (n := i) hfetch
  rw [← next_stateBefore hl hpos, hshort] at hnext
  -- the page is the one that is due, so it is short just where the parts end
  refine ⟨_, _, h.snoc hnext, hw₁ _, ?_⟩
  rw [List.map_append, hp, List.range_succ, List.map_append, List.map_singleton, hitems,
    List.map_singleton]

/-- **Part by part.** If requests are answered with the parts that are due, as many pages are read
as there are full parts. -/
theorem exists_reads (h₀ : P 0 w₀) {m : Nat} (hm : m ≤ xs.length / size)
    (ha : ∀ i < m, Answered host r l xs size P w₀ i) :
    ∃ pages w, l.Reads host r .fresh w₀ pages (stateBefore size m) w ∧ P m w ∧
      pages.map Page.items = (List.range m).map (part xs size) := by
  induction m with
  | zero => exact ⟨[], w₀, .nil, h₀, rfl⟩
  | succ m ih =>
    obtain ⟨pages, w, h, hw, hp⟩ := ih (by omega) fun i hi => ha i (by omega)
    obtain ⟨pages', w', h', hw', hp'⟩ :=
      exists_reads_succ hl hpos (by omega) (ha m (by omega)) h hw hp
    -- a page before the last is full
    rw [decide_eq_false (by omega)] at h'
    exact ⟨pages', w', h', hw', hp'⟩

/-- **The whole listing** is read, and the last page is short. -/
theorem exists_reads_all (h₀ : P 0 w₀)
    (ha : ∀ i ≤ xs.length / size, Answered host r l xs size P w₀ i) :
    ∃ pages w, l.Reads host r .fresh w₀ pages
        (.between (xs.length / size * size : Nat) (xs.length / size + 1) true) w ∧
      P (xs.length / size + 1) w ∧ pages.length = xs.length / size + 1 ∧
      pages.flatMap Page.items = xs := by
  obtain ⟨pages, w, h, hw, hp⟩ :=
    exists_reads hl hpos h₀ (Nat.le_refl _) fun i hi => ha i (Nat.le_of_lt hi)
  obtain ⟨pages', w', h', hw', hp'⟩ :=
    exists_reads_succ hl hpos (Nat.le_refl _) (ha _ (Nat.le_refl _)) h hw hp
  rw [decide_eq_true rfl] at h'
  have hlength := congrArg List.length hp'
  rw [List.length_map, List.length_map, List.length_range] at hlength
  refine ⟨pages', w', h', hw', hlength, ?_⟩
  rw [List.flatMap_def, hp', ← List.flatMap_def, flatMap_part xs hpos]

end Parts

end Listing

end Settle
