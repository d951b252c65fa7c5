import Settle.Proofs.Listing.Reads
import Settle.Proofs.Listing.Requests
import Settle.Proofs.Limiter.Admission
import Settle.Proofs.Poll.Window

/-!
# A listing whose pages are retried

With a profile every page is requested in attempts, in a polling run of its own. Let the list
action answer by a script for each page (`ListAction.Recites`), in exact time and with a limiter
that never makes a request wait (`Listing.Staged`). Then the window of each run decides about its
page, as it does about any polling run: the offset stays where it is through all attempts, and the
deadline of a page begins with its first attempt.

`fetchRetried_of_fits` and `fetchRetried_of_late` say so of one page. Main statement:
`collect_retried`, by which the pages make up the list if all fit into their windows, and the first
that does not ends the traversal.
-/

namespace Settle

variable {ω α : Type}

/-- A call of a limiter that does not sleep takes no time. -/
theorem World.Standing.acquired {host : Host ℚ ω} {p : Poller ℚ ω} {position : ω → ℕ}
    {w₀ w w' : World ℚ ω} {time : ℚ} {answers : ℕ} {slept : List ℚ} {limiter : Limiter ℚ}
    {action : String} {x : Except (Fault ℚ) Unit} (hx : p.Exact host position)
    (h : Standing host position w₀ time answers slept w)
    (he : (limiter.acquire host action).Ends w x w') (hs : w'.sleeps = w.sleeps) :
    Standing host position w₀ time answers slept w' where
  reading := (Limiter.acquire_unslept hx.read he hs).trans h.reading
  position := (Limiter.acquire_unslept hx.script.read he hs).trans h.position
  sleeps := hs.trans h.sleeps

/-- The list action answers by a script for each page, line by line, in no time and without a
sleep. What `tries` shows of the outside is how often each page was requested so far. -/
def ListAction.Recites (host : Host ℚ ω) (a : ListAction ℚ ω α) (size : ℕ) (limit : Value)
    (script : ℕ → ℕ → Except (Fault ℚ) (Listed α)) (tries : ω → ℕ → ℕ) : Prop :=
  ∀ i w, ∃ w', (a.ask (i * size : ℕ) limit).Ends w (script i (tries w.outside i)) w' ∧
    World.Standing host (fun o => tries o i) w 0 1 [] w' ∧
    (∀ j, j ≠ i → tries w'.outside j = tries w.outside j) ∧
    w'.calls = w.calls ++ [.list (i * size : ℕ) limit]

/-- A host whose outside is an instant of a clock that only sleeps move, and a count of the
requests for each page. -/
def Host.counting (patience : ℕ) : Host ℚ (ℚ × (ℕ → ℕ)) where
  read o := (o.1, o)
  sleep time o := (o.1 + time, o.2)
  patience := patience

/-- The list action that answers by a script for each page. -/
def ListAction.reciting (size : ℕ) (script : ℕ → ℕ → Except (Fault ℚ) (Listed α)) :
    ListAction ℚ (ℚ × (ℕ → ℕ)) α :=
  .outside none fun offset _ o =>
    let i := offset.toNat / size
    (script i (o.2 i), o.1, fun j => if j = i then o.2 j + 1 else o.2 j)

theorem ListAction.recites_reciting {size : ℕ} (hpos : 0 < size) (patience : ℕ) (limit : Value)
    (script : ℕ → ℕ → Except (Fault ℚ) (Listed α)) :
    (reciting size script).Recites (Host.counting patience) size limit script Prod.snd := by
  intro i w
  have hi : ((i * size : ℕ) : ℤ).toNat / size = i := by
    rw [Int.toNat_natCast, Nat.mul_div_cancel i hpos]
  refine ⟨_, Run.ends_call.mpr ⟨?_, rfl⟩, ⟨?_, ?_, ?_⟩, fun j hj => ?_, World.calls_called _⟩
  · simp only [hi]
  · exact (add_zero _).symm
  · simp only [hi, if_true]
  · exact (World.sleeps_noted rfl).trans (List.append_nil _).symm
  · simp only [hi, if_neg hj]

namespace Listing

variable {host : Host ℚ ω} {r : Reader ℚ ω} {l : Listing ℚ ω α} {limiter : Limiter ℚ}
  {profile : Profile ℚ} {size : ℕ} {script : ℕ → ℕ → Except (Fault ℚ) (Listed α)}
  {tries : ω → ℕ → ℕ} {w₀ w w' : World ℚ ω}

/-! ### The run of a page -/

/-- The name under which the attempts at a page are polled. -/
def operation (l : Listing ℚ ω α) : String :=
  Poll.operationName (some l.actionName) (some "<lambda>") "call"

/-- The polling run in which the page at an offset is requested. -/
def polling (host : Host ℚ ω) (r : Reader ℚ ω) (l : Listing ℚ ω α) (profile : Profile ℚ)
    (offset : ℤ) (w : World ℚ ω) : Polling ℚ ω (Page α) :=
  r.poller.polling host (Poller.retries (l.fetchRetries profile)) profile
    (Poller.attempt (l.fetch host r offset)) (host.reading w.outside)

theorem operation_polling (offset : ℤ) :
    (l.polling host r profile offset w).operation = l.operation := by
  have hne : ¬ l.operation.isEmpty = true := by
    rw [operation, Poll.operationName]
    by_cases h : l.actionName.isEmpty = true
    · rw [if_pos h]
      decide
    · rwa [if_neg h]
  exact if_neg hne

/-- A world in which an attempt at a page is made. -/
def Attempts (host : Host ℚ ω) (r : Reader ℚ ω) (l : Listing ℚ ω α) (profile : Profile ℚ)
    (size : ℕ) (w₀ w : World ℚ ω) : Prop :=
  ∃ i pages w₁ n w₂, l.Reads host r .fresh w₀ pages (stateBefore size i) w₁ ∧
    (l.polling host r profile (i * size : ℕ) w₁).Course 0 (w₁.readBy host) n w₂ ∧
    w = w₂.noted .attempted

/-- A traversal in exact time, in which the limiter makes no attempt wait. -/
structure Staged (host : Host ℚ ω) (r : Reader ℚ ω) (l : Listing ℚ ω α) (limiter : Limiter ℚ)
    (profile : Profile ℚ) (size : ℕ) (script : ℕ → ℕ → Except (Fault ℚ) (Listed α))
    (tries : ω → ℕ → ℕ) (w₀ : World ℚ ω) : Prop where
  limiter_eq : r.limiter = some limiter
  profile_eq : l.profile = some profile
  size_eq : l.size = size
  size_pos : 0 < size
  interval_pos : 0 < profile.interval
  deadline_pos : 0 < profile.deadline
  exact (i : ℕ) : r.poller.Exact host fun o => tries o i
  recites : l.list.Recites host size l.pageSize script tries
  unasked (i : ℕ) : tries w₀.outside i = 0
  prompt : ∀ w, l.Attempts host r profile size w₀ w →
    ∃ w', (limiter.acquire host l.actionName).Ends w (.ok ()) w' ∧ w'.sleeps = w.sleeps

/-- The script for a page, as the polling run of its requests reads it. -/
def replies (l : Listing ℚ ω α) (size : ℕ) (script : ℕ → ℕ → Except (Fault ℚ) (Listed α))
    (i a : ℕ) : Except (Fault ℚ) (Reply (Page α)) :=
  (l.received (i * size : ℕ) (script i a)).map .done

/-- Page `i` is answered with part `i`, after `k` requests that fail in passing. -/
structure Delivers (r : Reader ℚ ω) (xs : List α) (size : ℕ)
    (script : ℕ → ℕ → Except (Fault ℚ) (Listed α)) (i k : ℕ) : Prop where
  fails (a : ℕ) (h : a < k) : ∃ e, script i a = .error e ∧
    Poll.classOf r.poller.classifier e = .ok (some .transient)
  answers : ∃ listed, script i k = .ok listed ∧ listed.items? = some (part xs size i)

/-- The requests that fail leave the run of the page waiting. -/
theorem Delivers.waits {xs : List α} {i k a : ℕ} (hd : Delivers r xs size script i k)
    (hasked : tries w.outside i = 0) (ha : a < k) :
    ∃ e, script i a = .error e ∧
      Poll.Waits (l.polling host r profile (i * size : ℕ) w).policy
        (l.polling host r profile (i * size : ℕ) w).classify
        (l.replies size script i (tries w.outside i + a)) (.fault e) := by
  obtain ⟨e, he, hclass⟩ := hd.fails a ha
  refine ⟨e, he, ?_⟩
  rw [hasked, Nat.zero_add, replies, he]
  exact .transient hclass

namespace Staged

variable (hs : l.Staged host r limiter profile size script tries w₀) {i : ℕ}
include hs

/-- A request takes the line that is due, and is one call. -/
theorem fetch_ends {y : Except (Fault ℚ) (Page α)}
    (h : (l.fetch host r (i * size : ℕ)).Ends w y w') :
    y = l.received (i * size : ℕ) (script i (tries w.outside i)) ∧
      tries w'.outside i = tries w.outside i + 1 ∧
      (∀ j, j ≠ i → tries w'.outside j = tries w.outside j) ∧
      w'.calls = w.calls ++ [.list (i * size : ℕ) l.pageSize] := by
  -- the limiter leaves all tries alone
  obtain ⟨w₁, x, hacquire, hask, rfl⟩ := exists_ask_of_fetch hs.limiter_eq h
  obtain ⟨-, htries, hcalls⟩ := Limiter.acquire_leaves (hs.exact i).script hacquire
  obtain ⟨w₂, hask', hstanding, hothers, hcalls'⟩ := hs.recites i w₁
  obtain ⟨rfl, rfl⟩ := hask.unique hask'
  refine ⟨by rw [htries], ?_, fun j hj => ?_, by rw [hcalls', hcalls]⟩
  · rw [hstanding.position, htries]
  · rw [hothers j hj]
    exact (Limiter.acquire_leaves (hs.exact j).script hacquire).2.1

/-- The run of a page plays the script for it. -/
theorem plays (w₁ : World ℚ ω) :
    (l.polling host r profile (i * size : ℕ) w₁).Plays (l.replies size script i)
      (fun o => tries o i) (.list (i * size : ℕ) l.pageSize) where
  host := (hs.exact i).script
  poller := (hs.exact i).scriptNotify
  answer h := by
    obtain ⟨y, hfetch, rfl⟩ := Poller.attempt_ends_iff.mp h
    obtain ⟨rfl, htries, -, hcalls⟩ := hs.fetch_ends hfetch
    exact ⟨rfl, htries, hcalls⟩

/-- A course and a last round make up the run of a page. It requests that page once for each
attempt, and no other. -/
theorem call_ends {w₁ w₂ w₃ : World ℚ ω} {n : ℕ} {x : Except (Fault ℚ) (Reply (Page α))}
    {y : Except (Fault ℚ) (Option (Page α) × ℕ)} (hn : n < host.patience)
    (hcourse : (l.polling host r profile (i * size : ℕ) w₁).Course 0 (w₁.readBy host) n w₂)
    (hlast : (l.polling host r profile (i * size : ℕ) w₁).LastWith n w₂ x w₃ y w') :
    (r.poller.call host (l.fetchRetries profile) (l.fetch host r (i * size : ℕ))).Ends w₁
        (y.map Prod.fst) w' ∧
      (∀ j, j ≠ i → tries w'.outside j = tries w₁.outside j) ∧
      w'.calls = w₁.calls ++ List.replicate (n + 1) (.list (i * size : ℕ) l.pageSize) := by
  refine ⟨?_, fun j hj => ?_, ?_⟩
  · have hcounting : (r.poller.runCounting host (Poller.retries (l.fetchRetries profile))
        (Poller.attempt (l.fetch host r (i * size : ℕ)))).Ends w₁ y w' :=
      (Poller.runCounting_ends_iff rfl).mpr ⟨n, w₂, hn, hcourse, x, w₃, hlast⟩
    exact Poller.run_ends_iff.mpr ⟨_, hcounting, rfl⟩
  · -- neither an attempt nor what happens in between touches the count of another page
    have hothers (w : World ℚ ω) (x : Except (Fault ℚ) (Reply (Page α))) (w' : World ℚ ω)
        (h : (Poller.attempt (l.fetch host r (i * size : ℕ))).Ends w x w') :
        tries w'.outside j = tries w.outside j := by
      obtain ⟨y, hfetch, -⟩ := Poller.attempt_ends_iff.mp h
      exact (hs.fetch_ends hfetch).2.2.1 j hj
    have hexact := hs.exact j
    have hend := hlast.leaves hexact.script hexact.scriptNotify hothers
    have hstart := hcourse.leaves hexact.script hexact.scriptNotify hothers
    exact hend.trans (hstart.trans (hexact.script.read w₁.outside))
  · exact (hcourse.takes_lines_last (hs.plays w₁) ⟨x, w₃, hlast⟩).1

theorem clocked (w₁ : World ℚ ω) :
    (l.polling host r profile (i * size : ℕ) w₁).Clocked (fun o => tries o i) w₁ :=
  ⟨hs.exact i, rfl, rfl, hs.interval_pos⟩

/-- Wherever the run of a page comes to make an attempt, it is answered at once. -/
theorem answers {pages : List (Page α)} {w₁ w₂ : World ℚ ω} {n : ℕ}
    (hreads : l.Reads host r .fresh w₀ pages (stateBefore size i) w₁)
    (hcourse : (l.polling host r profile (i * size : ℕ) w₁).Course 0 (w₁.readBy host) n w₂) :
    (l.polling host r profile (i * size : ℕ) w₁).Answers (l.replies size script i)
      (fun o => tries o i) w₂ := by
  obtain ⟨w₃, hacquire, hsleeps⟩ :=
    hs.prompt _ ⟨i, pages, w₁, n, w₂, hreads, hcourse, rfl⟩
  have hfrom : (Limiter.acquireFrom host r.limiter l.actionName).Ends (w₂.noted .attempted)
      (.ok ()) w₃ := by
    rw [hs.limiter_eq]
    exact hacquire
  have hstart := ((World.Standing.self w₂).noted rfl).acquired (hs.exact i) hacquire hsleeps
  obtain ⟨w', hask, hstanding, -⟩ := hs.recites i w₃
  rw [hstart.position] at hask
  have hattempt := Poller.attempt_ends_iff.mpr
    ⟨_, (fetch_ends_iff hfrom).mpr ⟨_, hask, rfl⟩, rfl⟩
  have hend := hstart.trans hstanding
  rw [add_zero, Nat.zero_add, List.append_nil] at hend
  exact ⟨w', hattempt, hend⟩

section Page

variable {pages : List (Page α)} {w₁ : World ℚ ω} {xs : List α} {k : ℕ}
  (hreads : l.Reads host r .fresh w₀ pages (stateBefore size i) w₁)
  (hasked : tries w₁.outside i = 0) (hd : Delivers r xs size script i k)
include hreads hasked hd

/-- **A page that fits into its window** is read, after as many requests as fail and one more. -/
theorem fetchRetried_of_fits (hfits : k * profile.interval < profile.deadline)
    (patience : ⌈profile.deadline / profile.interval⌉₊ ≤ host.patience) :
    ∃ page w', (l.fetchRetried host r (i * size : ℕ)).Ends w₁ (.ok page) w' ∧
      page.items = part xs size i ∧ (∀ j, j ≠ i → tries w'.outside j = tries w₁.outside j) ∧
      w'.calls = w₁.calls ++ List.replicate (k + 1) (.list (i * size : ℕ) l.pageSize) := by
  obtain ⟨listed, hlisted, hitems⟩ := hd.answers
  obtain ⟨page, hreceived, hpage⟩ := exists_received_eq (l := l) hitems
  have hk : k < ⌈profile.deadline / profile.interval⌉₊ :=
    Nat.lt_ceil.mpr ((lt_div_iff₀ hs.interval_pos).mpr hfits)
  -- the failures are waited out within the window, and the attempt after them is done
  obtain ⟨w₂, hcourse, h₂⟩ := (hs.clocked w₁).exists_course
    (fun n w h => hs.answers hreads h) hfits fun a ha => by
      obtain ⟨e, -, hw⟩ := hd.waits hasked ha
      exact ⟨_, hw⟩
  have hdone : l.replies size script i (tries w₁.outside i + k) = .ok (.done page) := by
    rw [hasked, Nat.zero_add, replies, hlisted, hreceived]
    rfl
  obtain ⟨w', ⟨x, w₃, hlast⟩, -⟩ :=
    Polling.Clocked.exists_last_done (n := k) (hs.answers hreads hcourse) h₂ hdone
  obtain ⟨hcall, hothers, hcalls⟩ := hs.call_ends (by omega) hcourse hlast
  exact ⟨page, w', fetchRetried_ends_of_call hs.profile_eq hcall, hpage, hothers, hcalls⟩

/-- **A page that comes too late** for its window is not read, and the requests for it end with the
deadline. -/
theorem fetchRetried_of_late (hlate : profile.deadline ≤ k * profile.interval)
    (patience : ⌈profile.deadline / profile.interval⌉₊ ≤ host.patience) :
    ∃ n e w', n + 1 = ⌈profile.deadline / profile.interval⌉₊ ∧ script i n = .error e ∧
      (l.fetchRetried host r (i * size : ℕ)).Ends w₁
        (.error (.deadlineExceeded (.text l.operation) profile.deadline profile.deadline
          (.int (n + 1 : ℕ)) (.fault e) (Poller.expiryContext l.operation (.fault e)))) w' ∧
      w'.calls = w₁.calls ++
        List.replicate (n + 1) (.list (i * size : ℕ) l.pageSize) := by
  obtain ⟨n, hn, hnk, hlt, hle⟩ :=
    exists_last_attempt hs.interval_pos hs.deadline_pos hlate
  -- all attempts that there is time for are among those that fail
  obtain ⟨w₂, hcourse, h₂⟩ := (hs.clocked w₁).exists_course
    (fun n w h => hs.answers hreads h) hlt fun a ha => by
      obtain ⟨e, -, hw⟩ := hd.waits hasked (ha.trans hnk)
      exact ⟨_, hw⟩
  obtain ⟨e, he, hwait⟩ := hd.waits hasked hnk
  obtain ⟨w', ⟨x, w₃, hlast⟩, -⟩ := (hs.clocked w₁).exists_last_expired (n := n)
    (hs.answers hreads hcourse) h₂ hlt hle hwait
  obtain ⟨hcall, -, hcalls⟩ := hs.call_ends (by omega) hcourse hlast
  have hend := fetchRetried_ends_of_call_error hs.profile_eq hcall
  rw [Polling.expiry, operation_polling] at hend
  exact ⟨n, e, w', hn, he, hend, hcalls⟩

end Page

end Staged

/-! ### Page after page -/

/-- A world between two pages: the pages so far were requested, and no other. -/
structure Retrying (l : Listing ℚ ω α) (size : ℕ) (k : ℕ → ℕ) (tries : ω → ℕ → ℕ)
    (w₀ : World ℚ ω) (m : ℕ) (w : World ℚ ω) : Prop where
  calls : w.calls = w₀.calls ++ l.requests size k m
  unasked (i : ℕ) (h : m ≤ i) : tries w.outside i = 0

variable {xs : List α} {k : ℕ → ℕ}

/-- A page that fits into its window is answered when it is due. -/
theorem Staged.answered (hs : l.Staged host r limiter profile size script tries w₀) {i : ℕ}
    (hd : Delivers r xs size script i (k i)) (hfits : k i * profile.interval < profile.deadline)
    (patience : ⌈profile.deadline / profile.interval⌉₊ ≤ host.patience) :
    l.Answered host r xs size (l.Retrying size k tries w₀) w₀ i := by
  intro pages w hreads hw
  obtain ⟨page, w', hfetch, hpage, hothers, hcalls⟩ :=
    hs.fetchRetried_of_fits hreads (hw.unasked i le_rfl) hd hfits patience
  refine ⟨page, w', hfetch, hpage, fun e => ⟨?_, fun j hj => ?_⟩⟩
  · rw [World.calls_logged, hcalls, hw.calls, List.append_assoc, ← requests_succ]
  · rw [World.outside_logged, hothers j (by omega)]
    exact hw.unasked j (by omega)

/-- **A listing whose pages are retried.** Let page `i` be answered after `k i` requests that fail
in passing. If all pages fit into their windows, what is gathered is what would be gathered if no
request failed, and each page was requested once more than it failed. Otherwise the first page
that comes too late ends the traversal with the deadline, after as many requests for it as there is
time for, and no later page is requested. -/
theorem collect_retried (hs : l.Staged host r limiter profile size script tries w₀)
    (hd : ∀ i ≤ xs.length / size, Delivers r xs size script i (k i))
    (patience : max (xs.length / size + 2) ⌈profile.deadline / profile.interval⌉₊ ≤ host.patience)
    (f : α → Bool) :
    ((∀ i ≤ xs.length / size, k i * profile.interval < profile.deadline) →
      ∃ w', (l.collect host r fun x => .ok (f x)).Ends w₀ (.ok (xs.filter f)) w' ∧
        w'.calls = w₀.calls ++ l.requests size k (xs.length / size + 1)) ∧
    ∀ j ≤ xs.length / size, (∀ i < j, k i * profile.interval < profile.deadline) →
      profile.deadline ≤ k j * profile.interval →
        ∃ n e w', n + 1 = ⌈profile.deadline / profile.interval⌉₊ ∧ script j n = .error e ∧
          (l.collect host r fun x => .ok (f x)).Ends w₀
            (.error (.deadlineExceeded (.text l.operation) profile.deadline profile.deadline
              (.int (n + 1 : ℕ)) (.fault e) (Poller.expiryContext l.operation (.fault e)))) w' ∧
          w'.calls = w₀.calls ++ l.requests size k j ++
            List.replicate (n + 1) (.list (j * size : ℕ) l.pageSize) := by
  have hstart : l.Retrying size k tries w₀ 0 w₀ :=
    ⟨(List.append_nil _).symm, fun i _ => hs.unasked i⟩
  have hwindow : ⌈profile.deadline / profile.interval⌉₊ ≤ host.patience :=
    (le_max_right _ _).trans patience
  have hpages : xs.length / size + 2 ≤ host.patience := (le_max_left _ _).trans patience
  constructor
  · intro hfits
    obtain ⟨pages, w₁, hreads, hw₁, hlength, hitems⟩ :=
      exists_reads_all hs.size_eq hs.size_pos hstart fun i hi =>
        hs.answered (hd i hi) (hfits i hi) hwindow
    have hcollect := hreads.collect_ends f (by omega)
    rw [hitems] at hcollect
    exact ⟨_, hcollect, by rw [World.calls_logged, hw₁.calls]⟩
  · intro j hj hfits hlate
    obtain ⟨pages, w₁, hreads, hw₁, hitems⟩ :=
      exists_reads hs.size_eq hs.size_pos hstart hj fun i hi =>
        hs.answered (hd i (by omega)) (hfits i hi) hwindow
    obtain ⟨n, e, w', hn, he, hfetch, hcalls⟩ :=
      hs.fetchRetried_of_late hreads (hw₁.unasked j le_rfl) (hd j hj) hlate hwindow
    have hnext := step_ends_of_error (n := j) hfetch
    rw [← next_stateBefore hs.size_eq hs.size_pos] at hnext
    have hlength : pages.length = j := by
      have := congrArg List.length hitems
      rwa [List.length_map, List.length_map, List.length_range] at this
    have hcollect := hreads.collect_ends_of_error f (by omega) hnext
    exact ⟨n, e, w', hn, he, hcollect, by rw [hcalls, hw₁.calls]⟩

/-- Pages of two, the first of which fails once and the second three times: there is time for the
first one only. -/
theorem collect_retried_late :
    let e : Fault ℚ := .plain none .connection none
    ∃ w', (collect (Host.counting 3) ⟨some ⟨0, 1, 1, [], 0⟩, { classifier := .allTransient }⟩
        { list := .reciting 2 fun i a =>
            if a < 2 * i + 1 then .error e else .ok (.items (part [1, 2, 3] 2 i))
          pageSize := .int 2
          profile := some ⟨.null, 5, 12⟩ }
        fun x : ℕ => .ok (x % 2 == 1)).Ends { outside := (0, fun _ => 0) }
          (.error (.deadlineExceeded (.text "list") 12 12 (.int 3) (.fault e)
            { action := .text "list" })) w' ∧
      w'.calls = [.list 0 (.int 2), .list 0 (.int 2), .list 2 (.int 2), .list 2 (.int 2),
        .list 2 (.int 2)] := by
  intro e
  let script : ℕ → ℕ → Except (Fault ℚ) (Listed ℕ) := fun i a =>
    if a < 2 * i + 1 then .error e else .ok (.items (part [1, 2, 3] 2 i))
  let r : Reader ℚ (ℚ × (ℕ → ℕ)) := ⟨some ⟨0, 1, 1, [], 0⟩, { classifier := .allTransient }⟩
  have hstaged : Staged (Host.counting 3) r
      { list := .reciting 2 script, pageSize := .int 2, profile := some ⟨.null, 5, 12⟩ }
      ⟨0, 1, 1, [], 0⟩ ⟨.null, 5, 12⟩ 2 script Prod.snd { outside := (0, fun _ => 0) } := {
    limiter_eq := rfl
    profile_eq := rfl
    size_eq := rfl
    size_pos := by decide
    interval_pos := by norm_num
    deadline_pos := by norm_num
    exact _ := ⟨fun _ => rfl, fun _ _ => rfl, nofun, ⟨fun _ => rfl, fun _ _ => rfl⟩, nofun⟩
    recites := ListAction.recites_reciting (by decide) 3 _ script
    unasked _ := rfl
    prompt w _ := Limiter.exists_acquire_ends_of_maxWait (by decide) le_rfl w }
  have hdelivers (i : ℕ) : Delivers r [1, 2, 3] 2 script i (2 * i + 1) :=
    ⟨fun a ha => ⟨e, if_pos ha, rfl⟩, ⟨_, if_neg (lt_irrefl _), rfl⟩⟩
  have hceil : ⌈(12 : ℚ) / 5⌉₊ = 3 := by
    rw [Nat.ceil_eq_iff (by decide)]
    norm_num
  have hfits : ∀ i < 1, ((2 * i + 1 : ℕ) : ℚ) * 5 < 12 := by
    intro i hi
    rw [Nat.lt_one_iff.mp hi]
    norm_num
  obtain ⟨n, e', w', hn, he, hcollect, hcalls⟩ :=
    (collect_retried (k := fun i => 2 * i + 1) hstaged (fun i _ => hdelivers i)
      (by rw [hceil]; decide) fun x => x % 2 == 1).2 1 (by decide) hfits (by norm_num)
  rw [hceil] at hn
  obtain rfl : n = 2 := by omega
  obtain rfl : e = e' := Except.error.inj he
  exact ⟨w', hcollect, hcalls⟩

end Listing

end Settle
