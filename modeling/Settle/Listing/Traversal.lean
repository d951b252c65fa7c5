import Settle.Limiter
import Settle.Listing.Page
import Settle.Poll.Poller

/-!
# Reading a listing page by page

A traversal asks a list action for one page after the other, each at the next offset, until
a page with fewer items than asked for ends it. Every page request acquires the limit of the
list action first; with a profile, a request that fails is retried within it.

A traversal is pulled one page at a time (`Traversal.pull`), and its state between two pulls
is a value. `collect` pulls to the end and gathers the items that a filter keeps; `findOne`
looks for a single item and always reads to the end.

Main statements: `pull_over` says that a traversal that is over makes no further call,
`next_of_short` that a short page is followed by no request, and `filterM_ok` that a filter
that never fails is the filter of a list.
-/

namespace Settle

/-- What a list action answers. -/
inductive Listed (α : Type) where
  | page (page : Page α)
  | items (items : List α)
  | nothing

/-- A list action: asked for an offset and a limit, which is passed on as it was written, it
answers with a page, with bare items, or with nothing. -/
structure ListAction (τ ω α : Type) where
  name : Option String := none
  ask : Int → Value → Run τ ω (Listed α)

/-- The list action that asks the outside. -/
def ListAction.outside {τ ω α : Type} (name : Option String)
    (f : Int → Value → ω → Except (Fault τ) (Listed α) × ω) : ListAction τ ω α :=
  { name, ask := fun offset limit => Run.call (.list offset limit) (f offset limit) }

/-- Whom a traversal goes through. -/
structure Reader (τ ω : Type) where
  limiter : Option (Limiter τ)
  poller : Poller τ ω

/-- How a listing is to be read. The page size is a whole number or counts as one. -/
structure Listing (τ ω α : Type) where
  list : ListAction τ ω α
  pageSize : Value
  action : Option String := none
  profile : Option (Profile τ) := none

/-- The state of a traversal between two pulls: at which offset it goes on, how many pages
it has read, and whether the last of them was short. -/
inductive Traversal where
  | fresh
  | between (offset : Int) (roundTrips : Nat) (short : Bool)
  | over
  deriving DecidableEq, Repr

namespace Listing

variable {τ ω α : Type} [Quantity τ]

/-- The name under which the pages are requested. -/
def actionName (l : Listing τ ω α) : String :=
  Poll.operationName l.action l.list.name "list"

/-- How many items are asked for at a time. -/
def size (l : Listing τ ω α) : Int := l.pageSize.asInt

/-- Request one page. -/
def fetch (host : Host τ ω) (r : Reader τ ω) (l : Listing τ ω α) (offset : Int) :
    Run τ ω (Page α) := do
  Limiter.acquireFrom host r.limiter l.actionName
  match ← l.list.ask offset l.pageSize with
  | .page p => pure p
  | .items xs => pure ⟨xs, l.pageSize, .int offset⟩
  | .nothing =>
    Run.raise (.emptyResponse (.text l.actionName)
      ("list action " ++ l.actionName ++ " returned no payload at offset "
        ++ toString offset))

/-- Request one page, within the profile if there is one. -/
def fetchRetried (host : Host τ ω) (r : Reader τ ω) (l : Listing τ ω α) (offset : Int) :
    Run τ ω (Page α) :=
  match l.profile with
  | none => l.fetch host r offset
  | some profile => do
    let page ← r.poller.call host
      { profile := some profile, operation := some l.actionName, name := some "<lambda>" }
      (l.fetch host r offset)
    match page with
    | some p => pure p
    | none => Run.raise (Misuse.noMember "NoneType" "items").toFault

/-- Is the page shorter than asked for? -/
def isShort (l : Listing τ ω α) (p : Page α) : Bool := decide ((p.size : Int) < l.size)

/-- Request the page at an offset, after `roundTrips` others. -/
def step (host : Host τ ω) (r : Reader τ ω) (l : Listing τ ω α) (offset : Int)
    (roundTrips : Nat) : Run τ ω (Option (Page α) × Traversal) := do
  let page ← l.fetchRetried host r offset
  Run.log (.pageRead l.actionName offset page.size l.pageSize)
  pure (some page, .between offset (roundTrips + 1) (l.isShort page))

/-- The next page, if there is one, and the state after it. -/
def next (host : Host τ ω) (r : Reader τ ω) (l : Listing τ ω α) :
    Traversal → Run τ ω (Option (Page α) × Traversal)
  | .fresh =>
    if l.size < 1 then
      Run.raise (.ofText .value ("page_size must be >= 1, got " ++ l.pageSize.shown))
    else l.step host r 0 0
  | .between _ roundTrips true => do
    Run.log (.pagesDone l.actionName roundTrips)
    pure (none, .over)
  | .between offset roundTrips false => l.step host r (offset + l.size) roundTrips
  | .over => pure (none, .over)

/-- After a short page there is no further one and no further request. -/
theorem next_of_short (host : Host τ ω) (r : Reader τ ω) (l : Listing τ ω α)
    (offset : Int) (n : Nat) :
    l.next host r (.between offset n true) =
      (do
        Run.log (.pagesDone l.actionName n)
        pure (none, .over)) := rfl

/-- Pull the next page. A fault ends the traversal. -/
def pull (host : Host τ ω) (r : Reader τ ω) (l : Listing τ ω α) (t : Traversal) :
    Run τ ω (Except (Fault τ) (Option (Page α)) × Traversal) := do
  match ← (l.next host r t).catching with
  | .ok (page, t) => pure (.ok page, t)
  | .error e => pure (.error e, .over)

/-- A traversal that is over changes nothing. -/
theorem pull_over (host : Host τ ω) (r : Reader τ ω) (l : Listing τ ω α) :
    l.pull host r .over = pure (.ok none, .over) := rfl

/-- Pull up to `count` pages; stop after the last page and after a fault. -/
def pullMany (host : Host τ ω) (r : Reader τ ω) (l : Listing τ ω α) :
    Nat → Traversal → Run τ ω (List (Except (Fault τ) (Option (Page α))) × Traversal)
  | 0, t => pure ([], t)
  | count + 1, t => do
    match ← l.pull host r t with
    | (.ok (some page), t) => do
      let (pages, t) ← l.pullMany host r count t
      pure (.ok (some page) :: pages, t)
    | (last, t) => pure ([last], t)

/-- A test that never fails picks what `List.filter` picks. -/
theorem filterM_ok {ε : Type} (p : α → Bool) (xs : List α) :
    xs.filterM (fun x => (.ok (p x) : Except ε Bool)) = .ok (xs.filter p) := by
  have pass (acc : List α) : List.filterAuxM (fun x => (.ok (p x) : Except ε Bool)) xs acc
      = .ok ((xs.filter p).reverse ++ acc) := by
    induction xs generalizing acc with
    | nil => rfl
    | cons x xs ih => cases h : p x <;> simp [List.filterAuxM, bind, Except.bind, h, ih]
  simp [List.filterM, pass, bind, Except.bind, pure, Except.pure]

/-- Pull to the end and gather the items that the filter keeps. A fault of the filter ends
the traversal. -/
def gather (host : Host τ ω) (r : Reader τ ω) (l : Listing τ ω α)
    (keep : α → Except (Fault τ) Bool) : Nat → Traversal → List α → Run τ ω (List α)
  | 0, _, _ => Run.giveUp
  | fuel + 1, t, items => do
    let (page, t) ← l.next host r t
    match page with
    | none => pure items
    | some p => do
      let kept ← Run.ofExcept (p.items.filterM keep)
      l.gather host r keep fuel t (items ++ kept)

/-- All items of the listing that the filter keeps, in order. -/
def collect (host : Host τ ω) (r : Reader τ ω) (l : Listing τ ω α)
    (keep : α → Except (Fault τ) Bool) : Run τ ω (List α) :=
  l.gather host r keep host.patience .fresh []

/-- The single item that matches, if there is one. Several are a fault, which counts them
all. -/
def findOne (host : Host τ ω) (r : Reader τ ω) (l : Listing τ ω α)
    (wanted : α → Except (Fault τ) Bool) (what : Value) : Run τ ω (Option α) := do
  match ← l.collect host r wanted with
  | [] => pure none
  | [x] => pure (some x)
  | xs => Run.raise (.cardinality what (.int xs.length) (.ofOption l.action))

end Listing

end Settle
