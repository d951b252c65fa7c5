import Settle.Ledger
import Settle.Value

/-!
# Bound variables and their blocks

Variables that are bound appear in every record written from then on. A block binds its
fields when it is entered, and when it is left it gives each of them back the value, or the
absence, from before, however it is left. What its body did to other variables stays.

The variables themselves are kept by the logging library underneath, which is not part of this one.
`bind`, `unbind`, `saved` and `restore` stand for its functions that bind context variables, free
them, take down what they stand for and give them that back. What these do is taken from their
documentation; the blocks, and what a program of them comes to, are this library's own.

Main statements: `get?_restore` says what leaving a block does to each variable, and
`get?_run_block` says the same of a block in a program of bindings.
-/

namespace Settle

/-- The variables that are bound. -/
abbrev Variables := Ledger String Value

namespace Variables

/-! ### Single steps -/

/-- Bind fields; one that is bound already takes the new value. -/
def bind (vars : Variables) (fields : List (String × Value)) : Variables :=
  Ledger.putAll vars fields

/-- Free keys. A key that is not bound is passed over. -/
def unbind (vars : Variables) (keys : List String) : Variables :=
  keys.foldl (fun vars k => Ledger.erase vars k) vars

/-- What the keys of some fields stood for at one time; nothing means absence. -/
abbrev Saved := List (String × Option Value)

/-- What the keys of some fields stand for now. -/
def saved (vars : Variables) (fields : List (String × Value)) : Saved :=
  fields.map fun f => (f.1, Ledger.get? vars f.1)

/-- Give one key back what it stood for. -/
def restoreKey (vars : Variables) : String × Option Value → Variables
  | (k, some v) => Ledger.put vars k v
  | (k, none) => Ledger.erase vars k

/-- Give keys back what they stood for. -/
def restore (vars : Variables) (s : Saved) : Variables := s.foldl restoreKey vars

theorem get?_restoreKey (vars : Variables) (k : String) (o : Option Value) (j : String) :
    Ledger.get? (restoreKey vars (k, o)) j = if k = j then o else Ledger.get? vars j := by
  cases o with
  | none => exact Ledger.get?_erase vars k j
  | some v => exact Ledger.get?_put vars k v j

/-- Leaving a block gives its keys back what they stood for before; every other key has what
the body left. -/
theorem get?_restore (after before : Variables) (fields : List (String × Value))
    (j : String) :
    Ledger.get? (after.restore (before.saved fields)) j =
      if j ∈ fields.map Prod.fst then Ledger.get? before j else Ledger.get? after j := by
  induction fields generalizing after with
  | nil => simp [restore, saved]
  | cons f rest ih =>
    have step : after.restore (before.saved (f :: rest)) =
        (restoreKey after (f.1, Ledger.get? before f.1)).restore (before.saved rest) := rfl
    rw [step, ih, get?_restoreKey]
    by_cases h : j ∈ rest.map Prod.fst
    · simp [h]
    · by_cases e : f.1 = j
      · subst e
        simp
      · have e' : ¬ j = f.1 := fun h => e h.symm
        simp only [h, if_false, e, e', List.map_cons, List.mem_cons, or_self]

/-! ### Programs of bindings -/

/-- A step of a program of bindings. A step may fail, which leaves all blocks around it up
to the nearest one that is guarded. -/
inductive Step where
  | bind (fields : List (String × Value))
  | unbind (keys : List String)
  | clear
  | fail
  | guarded (body : List Step)
  | block (fields : List (String × Value)) (body : List Step)

mutual

/-- The variables after a step, and whether it went through. -/
def Step.run : Step → Variables → Variables × Bool
  | .bind fields, vars => (vars.bind fields, true)
  | .unbind keys, vars => (vars.unbind keys, true)
  | .clear, _ => ([], true)
  | .fail, vars => (vars, false)
  | .guarded body, vars => ((runAll body vars).1, true)
  | .block fields body, vars =>
    let r := runAll body (vars.bind fields)
    (r.1.restore (vars.saved fields), r.2)

/-- The variables after steps in turn, up to the first that fails, and whether all went
through. -/
def runAll : List Step → Variables → Variables × Bool
  | [], vars => (vars, true)
  | s :: rest, vars =>
    match s.run vars with
    | (vars, true) => runAll rest vars
    | (vars, false) => (vars, false)

end

/-- Right after a block, whichever way it was left, its keys stand for what they stood for
right before it, and every other key for what the body left. -/
theorem get?_run_block (fields : List (String × Value)) (body : List Step)
    (vars : Variables) (j : String) :
    Ledger.get? ((Step.block fields body).run vars).1 j =
      if j ∈ fields.map Prod.fst then Ledger.get? vars j
      else Ledger.get? (runAll body (vars.bind fields)).1 j := by
  rw [Step.run]
  exact get?_restore _ _ _ _

end Variables

end Settle
