import Settle.Listing.Traversal
import Settle.Proofs.Limiter.Rounds
import Settle.Proofs.Poll.Script

/-!
# Requests for a page

A request for a page is made once the limit of the list action was acquired, and it comes to what
the list action answers: a page of the items in the answer, or the fault. With a profile the
request is made in attempts, and one that gets a page is the last one (`fetchRetried_ends`). All
attempts ask for the same offset (`exists_calls_of_fetchRetried`), and the calls for one page after
the other are `requests`.
-/

namespace Settle

variable {τ ω α : Type}

/-- The items of an answer, if it is one with items. -/
def Listed.items? : Listed α → Option (List α)
  | .page p => some p.items
  | .items xs => some xs
  | .nothing => none

namespace Listing

variable {host : Host τ ω} {r : Reader τ ω} {l : Listing τ ω α} {offset : Int}
  {w w₁ w' : World τ ω}

/-- What a request comes to that was answered in this way. -/
def received (l : Listing τ ω α) (offset : Int) :
    Except (Fault τ) (Listed α) → Except (Fault τ) (Page α)
  | .ok (.page p) => .ok p
  | .ok (.items xs) => .ok ⟨xs, l.pageSize, .int offset⟩
  | .ok .nothing =>
    .error (.emptyResponse (.text l.actionName)
      ("list action " ++ l.actionName ++ " returned no payload at offset " ++ toString offset))
  | .error e => .error e

/-- An answer with items makes a page of them. -/
theorem exists_received_eq {listed : Listed α} {items : List α}
    (h : listed.items? = some items) :
    ∃ page, l.received offset (.ok listed) = .ok page ∧ page.items = items := by
  cases listed with
  | page p => exact ⟨p, rfl, Option.some.inj h⟩
  | items xs => exact ⟨_, rfl, Option.some.inj h⟩
  | nothing => cases h

/-- The world in which a page is first requested. -/
def asked (host : Host τ ω) (l : Listing τ ω α) (w : World τ ω) : World τ ω :=
  match l.profile with
  | none => w
  | some _ => (w.readBy host).noted .attempted

theorem limiters_asked (w : World τ ω) : (l.asked host w).limiters = w.limiters := by
  rw [asked]
  cases l.profile <;> rfl

theorem calls_asked (w : World τ ω) : (l.asked host w).calls = w.calls := by
  rw [asked]
  cases l.profile with
  | none => rfl
  | some profile => rw [World.calls_noted rfl, World.calls_readBy]

/-- How the attempts at a page are polled. -/
def fetchRetries (l : Listing τ ω α) (profile : Profile τ) : Poll τ where
  profile := some profile
  operation := some l.actionName
  name := some "<lambda>"

variable [Quantity τ]

/-- A request acquires the limit, asks, and takes the answer. -/
theorem fetch_eq (host : Host τ ω) (r : Reader τ ω) (l : Listing τ ω α) (offset : Int) :
    l.fetch host r offset = (do
      Limiter.acquireFrom host r.limiter l.actionName
      let listed ← l.list.ask offset l.pageSize
      Run.ofExcept (l.received offset (.ok listed))) := by
  unfold fetch
  congr 1
  funext _
  congr 1
  funext listed
  cases listed <;> rfl

/-- A request that was let through comes to what the list action answers. -/
theorem fetch_ends_iff {y : Except (Fault τ) (Page α)}
    (h : (Limiter.acquireFrom host r.limiter l.actionName).Ends w (.ok ()) w₁) :
    (l.fetch host r offset).Ends w y w' ↔
      ∃ x, (l.list.ask offset l.pageSize).Ends w₁ x w' ∧ y = l.received offset x := by
  rw [fetch_eq, Run.ends_step_bind h, Run.ends_bind]
  constructor
  · rintro (⟨listed, w₂, hask, hy⟩ | ⟨e, hask, rfl⟩)
    · obtain ⟨rfl, rfl⟩ := Run.ends_ofExcept.mp hy
      exact ⟨.ok listed, hask, rfl⟩
    · exact ⟨.error e, hask, rfl⟩
  · rintro ⟨x, hask, rfl⟩
    cases x with
    | error e => exact .inr ⟨e, hask, rfl⟩
    | ok listed => exact .inl ⟨listed, w', hask, Run.ends_ofExcept.mpr ⟨rfl, rfl⟩⟩

/-- A request that ended was let through, and asked. -/
theorem exists_ask_of_fetch {limiter : Limiter τ} (hr : r.limiter = some limiter)
    {y : Except (Fault τ) (Page α)} (h : (l.fetch host r offset).Ends w y w') :
    ∃ w₁ x, (limiter.acquire host l.actionName).Ends w (.ok ()) w₁ ∧
      (l.list.ask offset l.pageSize).Ends w₁ x w' ∧ y = l.received offset x := by
  have hnothing : host.Leaves fun _ => () := ⟨fun _ => rfl, fun _ _ => rfl⟩
  have hrequest := h
  rw [fetch_eq, hr] at h
  obtain ⟨x, w₁, hacquire⟩ : ∃ x w₁, (limiter.acquire host l.actionName).Ends w x w₁ := by
    rcases Run.ends_bind.mp h with ⟨b, w₁, hb, -⟩ | ⟨e, he, -⟩
    · exact ⟨_, _, hb⟩
    · exact ⟨_, _, he⟩
  -- the limiter never fails
  obtain ⟨rfl, -⟩ := Limiter.acquire_leaves hnothing hacquire
  have hfrom : (Limiter.acquireFrom host r.limiter l.actionName).Ends w (.ok ()) w₁ := by
    rw [hr]
    exact hacquire
  obtain ⟨x, hask, hy⟩ := (fetch_ends_iff hfrom).mp hrequest
  exact ⟨w₁, x, hacquire, hask, hy⟩

/-! ### Requests in attempts -/

section Retried

variable {profile : Profile τ} (hp : l.profile = some profile)
include hp

/-- The page that an attempt gets is the one that was requested. -/
theorem fetchRetried_ends_of_call {page : Page α}
    (h : (r.poller.call host (l.fetchRetries profile) (l.fetch host r offset)).Ends w
      (.ok (some page)) w') :
    (l.fetchRetried host r offset).Ends w (.ok page) w' := by
  rw [fetchRetried, hp]
  exact (Run.ends_step_bind h).mpr (Run.ends_pure.mpr ⟨rfl, rfl⟩)

/-- Without a page there is the fault that says why. -/
theorem fetchRetried_ends_of_call_error {e : Fault τ}
    (h : (r.poller.call host (l.fetchRetries profile) (l.fetch host r offset)).Ends w
      (.error e) w') :
    (l.fetchRetried host r offset).Ends w (.error e) w' := by
  rw [fetchRetried, hp]
  exact Run.ends_bind.mpr (.inr ⟨e, h, rfl⟩)

end Retried

/-- A page that was got in attempts was got by one of them. -/
theorem exists_fetch_of_fetchRetried {page : Page α}
    (h : (l.fetchRetried host r offset).Ends w (.ok page) w') :
    ∃ w₁ w₂, (l.fetch host r offset).Ends w₁ (.ok page) w₂ := by
  cases hp : l.profile with
  | none =>
    rw [fetchRetried, hp] at h
    exact ⟨w, w', h⟩
  | some profile =>
    rw [fetchRetried, hp] at h
    rcases Run.ends_bind.mp h with ⟨page', w₁, hcall, h⟩ | ⟨e, -, h⟩
    · cases page' with
      | none => cases (Run.ends_raise.mp h).1
      | some page' =>
        cases (Run.ends_pure.mp h).1
        exact Poller.exists_ends_of_call rfl hcall
    · cases h

/-! ### Calls -/

/-- The calls for the first `m` pages, if page `i` takes `again i` of them besides one. -/
def requests (l : Listing τ ω α) (size : Nat) (again : Nat → Nat) (m : Nat) : List Call :=
  (List.range m).flatMap fun i => List.replicate (again i + 1) (.list (i * size : Nat) l.pageSize)

omit [Quantity τ] in
theorem requests_succ (l : Listing τ ω α) (size : Nat) (again : Nat → Nat) (m : Nat) :
    l.requests size again (m + 1) = l.requests size again m ++
      List.replicate (again m + 1) (.list (m * size : Nat) l.pageSize) := by
  rw [requests, List.range_succ, List.flatMap_append, List.flatMap_singleton, ← requests]

section Calls

variable {given : Option String} {f : Int → Value → ω → Except (Fault τ) (Listed α) × ω}
  {limiter : Limiter τ} (hlist : l.list = .outside given f) (hr : r.limiter = some limiter)
include hlist hr

/-- A request makes one call, with the offset and the page size. -/
theorem calls_of_fetch {y : Except (Fault τ) (Page α)} (h : (l.fetch host r offset).Ends w y w') :
    w'.calls = w.calls ++ [.list offset l.pageSize] := by
  have hnothing : host.Leaves fun _ => () := ⟨fun _ => rfl, fun _ _ => rfl⟩
  obtain ⟨w₁, x, hacquire, hask, -⟩ := exists_ask_of_fetch hr h
  rw [hlist] at hask
  obtain ⟨-, rfl⟩ := Run.ends_call.mp hask
  rw [← (Limiter.acquire_leaves hnothing hacquire).2.2]
  exact World.calls_called _

/-- In attempts it makes the same call each time. -/
theorem exists_calls_of_fetchRetried {y : Except (Fault τ) (Page α)}
    (h : (l.fetchRetried host r offset).Ends w y w') :
    ∃ n, w'.calls = w.calls ++ List.replicate (n + 1) (.list offset l.pageSize) := by
  cases hp : l.profile with
  | none =>
    rw [fetchRetried, hp] at h
    exact ⟨0, calls_of_fetch hlist hr h⟩
  | some profile =>
    rw [fetchRetried, hp] at h
    have hcalls {x : Except (Fault τ) (Option (Page α))} {w' : World τ ω}
        (h : (r.poller.call host (l.fetchRetries profile) (l.fetch host r offset)).Ends w x w') :
        ∃ n, w'.calls = w.calls ++ List.replicate (n + 1) (.list offset l.pageSize) :=
      Poller.exists_calls_of_call rfl (fun _ _ _ hfetch => calls_of_fetch hlist hr hfetch) h
    rcases Run.ends_bind.mp h with ⟨page, w₁, hcall, h⟩ | ⟨e, hcall, -⟩
    · -- what is made of the page calls nothing any more
      cases page with
      | none =>
        obtain ⟨-, rfl⟩ := Run.ends_raise.mp h
        exact hcalls hcall
      | some page =>
        obtain ⟨-, rfl⟩ := Run.ends_pure.mp h
        exact hcalls hcall
    · exact hcalls hcall

end Calls

/-- With or without a profile, a request that gets a page at first is the only one. -/
theorem fetchRetried_ends {page : Page α} (hn : 0 < host.patience)
    (h : (l.fetch host r offset).Ends (l.asked host w) (.ok page) w') :
    (l.fetchRetried host r offset).Ends w (.ok page) w' := by
  rw [asked] at h
  cases hp : l.profile with
  | none =>
    rw [hp] at h
    rw [fetchRetried, hp]
    exact h
  | some profile =>
    rw [hp] at h
    exact fetchRetried_ends_of_call hp (Poller.call_ends_of_first rfl hn h)

end Listing

end Settle
