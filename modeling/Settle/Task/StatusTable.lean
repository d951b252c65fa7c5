import Settle.Value.Misuse

/-!
# Status tables

A status table says what a remote status code means for a polling loop. Codes are looked up
by worth, so one, one point zero and true are one code. `build?` makes a table of three
lists of codes and refuses a code that stands in two of them; a code that stands nowhere
means what the table's default says.

Main statements: `find?_enter` says what entering a code changes, and `outcome_eq` that the
outcome of a code is that of the entry equal to it, or the default.
-/

namespace Settle

/-- What a status code means for a polling loop. -/
inductive Outcome where
  | pending
  | succeeded
  | failed
  deriving DecidableEq, Repr

/-- The name of an outcome. -/
def Outcome.name : Outcome → String
  | pending => "pending"
  | succeeded => "succeeded"
  | failed => "failed"

/-- All outcomes. -/
def Outcome.all : List Outcome := [pending, succeeded, failed]

/-- The outcome of a name. -/
def Outcome.ofName? (s : String) : Option Outcome := all.find? fun o => o.name == s

/-- Codes with their outcomes, in the order in which they were entered, and the outcome of
all other codes. -/
structure StatusTable where
  name : Value
  entries : List (Value × Outcome)
  default : Outcome := .pending

namespace StatusTable

/-- The outcome entered for a code. -/
def find? (entries : List (Value × Outcome)) (code : Value) : Option Outcome :=
  (entries.find? fun e => e.1.same code).map Prod.snd

/-- Enter the outcome of a code, unless another outcome is entered for it. -/
def enter? (entries : List (Value × Outcome)) (code : Value) (o : Outcome) :
    Except Outcome (List (Value × Outcome)) :=
  match find? entries code with
  | none => .ok (entries ++ [(code, o)])
  | some old => if old = o then .ok entries else .error old

/-- Entering a code gives its equals the outcome and leaves all others as they were. -/
theorem find?_enter {entries entries' : List (Value × Outcome)} {code : Value} {o : Outcome}
    (h : enter? entries code o = .ok entries') (c : Value) :
    find? entries' c = (find? entries c).or
      (if (find? entries code).isNone ∧ code.same c then some o else none) := by
  unfold enter? at h
  split at h
  · next hn =>
    cases h
    rw [hn]
    unfold find?
    rw [List.find?_append]
    cases he : List.find? (fun e => e.1.same c) entries with
    | some e => simp
    | none => by_cases hc : code.same c = true <;> simp [hc]
  · next old hs =>
    split at h
    · cases h
      simp [hs]
    · cases h

/-- The refusal of a code that has two outcomes. -/
def conflict {τ : Type} (code : Value) (old new : Outcome) : Fault τ :=
  .ofText .value ("status code " ++ code.written ++ " mapped to both " ++ old.name ++ " and "
    ++ new.name)

/-- The refusal to look up a list or a record. -/
def unhashable {τ : Type} (code : Value) : Fault τ := (Misuse.unhashable code.kindName).toFault

/-- Enter one outcome for several codes. -/
def enterAll? {τ : Type} (o : Outcome) :
    List Value → List (Value × Outcome) → Except (Fault τ) (List (Value × Outcome))
  | [], entries => .ok entries
  | code :: codes, entries =>
    if code.isScalar then
      match enter? entries code o with
      | .ok entries => enterAll? o codes entries
      | .error old => .error (conflict code old o)
    else .error (unhashable code)

/-- A table of the codes of each outcome; pending codes are entered first, failed ones
last. -/
def build? {τ : Type} (name : Value) (succeeded failed pending : List Value)
    (default : Outcome) : Except (Fault τ) StatusTable := do
  let entries ← enterAll? .pending pending []
  let entries ← enterAll? .succeeded succeeded entries
  let entries ← enterAll? .failed failed entries
  pure { name, entries, default }

/-- What a code means. -/
def outcome (t : StatusTable) (code : Value) : Outcome :=
  (find? t.entries code).getD t.default

theorem outcome_eq (t : StatusTable) (code : Value) :
    t.outcome code = match t.entries.find? fun e => e.1.same code with
      | some e => e.2
      | none => t.default := by
  unfold outcome find?
  cases t.entries.find? fun e => e.1.same code <;> rfl

/-- What a code means, if it is one that can be looked up. -/
def outcome? {τ : Type} (t : StatusTable) (code : Value) : Except (Fault τ) Outcome :=
  if code.isScalar then .ok (t.outcome code) else .error (unhashable code)

/-- The table of provisioning flows: zero is success, one is running, two is failure. -/
def flow : StatusTable :=
  ⟨.text "flow", [(.int 1, .pending), (.int 0, .succeeded), (.int 2, .failed)], .pending⟩

/-- The table of flows is built from one code for each outcome. -/
theorem flow_eq_build {τ : Type} :
    build? (τ := τ) (.text "flow") [.int 0] [.int 2] [.int 1] .pending = .ok flow := by
  have hsucceeded : (Value.int 1).same (.int 0) = false := by decide +kernel
  have hfailed : (Value.int 1).same (.int 2) = false ∧ (Value.int 0).same (.int 2) = false := by
    decide +kernel
  simp [build?, enterAll?, enter?, find?, Value.isScalar, hsucceeded, hfailed, flow, bind,
    Except.bind, pure, Except.pure]

end StatusTable

/-! ### Return codes -/

/-- Check the return code of an operation that does not wait: null is an empty response, and
any code that equals no success code is a fatal fault. -/
def checkResult {τ : Type} (code : Value) (successCodes : List Value)
    (action requestId : Value) : Except (Fault τ) Unit :=
  if code.isNull then
    .error (.emptyResponse (action.orElse (.text "operation"))
      "operation returned no result code")
  else if successCodes.any fun s => s.same code then .ok ()
  else
    .error (.simple .fatal ("operation returned code " ++ code.shown)
      { action, requestId, statusCode := code })

/-- Check a return code against codes that come as one value: a list of codes, or a text
whose characters are codes. They are not looked at if there is no return code. -/
def checkResultIn {τ : Type} (code successCodes action requestId : Value) :
    Except (Fault τ) Unit := do
  let codes ← if code.isNull then .ok [] else Misuse.raised successCodes.items?
  checkResult code codes action requestId

theorem checkResultIn_list {τ : Type} {code : Value} (h : code.isNull = false)
    (codes : List Value) (action requestId : Value) :
    checkResultIn (τ := τ) code (.list codes) action requestId
      = checkResult code codes action requestId := by
  simp only [checkResultIn, h, Bool.false_eq_true, if_false]
  rfl

end Settle
