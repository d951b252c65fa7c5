import Settle.Fault.Basic

/-!
# Faults on their way up

A fault passes through several layers before the caller sees it, and each may fill in its
context. What a layer fills in under the name of a field counts only where the field is unset
(`Context.fill_name`), and it never changes what kind of fault it is or which one.
`Fault.PassedOn` says so of a fault that a polling run lets through, and `Fault.StemsFrom` of
one that has passed through several layers.
-/

namespace Settle

variable {τ : Type}

/-! ### Filling in a field -/

theorem Value.eq_null_of_isNull {v : Value} (h : v.isNull = true) : v = .null := by
  cases v with
  | null => rfl
  | _ => cases h

theorem Field.ofName?_name (f : Field) : ofName? f.name = some f := by
  cases f <;> decide

namespace Context

theorem set_get (c : Context) (f : Field) : c.set f (c.get f) = c := by
  cases f <;> rfl

/-- Filling in a field by its name sets it if it is unset, and nothing else. -/
theorem fill_name (c : Context) (f : Field) (v : Value) :
    c.fill f.name v = if (c.get f).isNull then c.set f v else c := by
  rw [fill, Field.ofName?_name]
  by_cases hv : v.isNull = true
  · rw [if_pos hv]
    by_cases hc : (c.get f).isNull = true
    · -- null is never stored, but here it would not be seen
      rw [if_pos hc, Value.eq_null_of_isNull hv, ← Value.eq_null_of_isNull hc, set_get]
    · rw [if_neg hc]
  · rw [if_neg hv]

/-- The context with a resource and a handle filled in where they are unset. -/
def located (c : Context) (resourceId handle : Value) : Context :=
  { c with
    resourceId := if c.resourceId.isNull then resourceId else c.resourceId
    handle := if c.handle.isNull then handle else c.handle }

theorem fillAll_located (c : Context) (resourceId handle : Value) :
    c.fillAll [("resource_id", resourceId), ("handle", handle)] = c.located resourceId handle := by
  have hresource : c.fill "resource_id" resourceId = _ := c.fill_name .resourceId resourceId
  have hhandle (c : Context) : c.fill "handle" handle = _ := c.fill_name .handle handle
  change (c.fill "resource_id" resourceId).fill "handle" handle = _
  rw [hhandle, hresource]
  cases hr : c.resourceId.isNull <;> cases hh : c.handle.isNull <;>
    simp [located, get, set, hr, hh]

end Context

/-! ### Kinds by their class -/

namespace Kind

/-- The kinds of the class fatal are cases of one kind. -/
theorem mem_lineage_of_fatal {k : Kind τ} (h : k.errorClass = some .fatal) :
    "FatalError" ∈ k.lineage := by
  cases k <;> simp [errorClass, lineage, name] at h ⊢

theorem eq_notFound {k : Kind τ} (h : k.errorClass = some .notFound) : k = .notFound := by
  cases k <;> simp [errorClass] at h ⊢

end Kind

/-! ### Faults that are passed on -/

namespace Fault

@[simp] theorem origin_fill (e : Fault τ) (es : List (String × Value)) :
    (e.fill es).origin? = e.origin? := by cases e <;> rfl

/-- A fatal fault has a context. -/
theorem exists_context_of_fatal {e : Fault τ} (h : e.isFatal = true) :
    ∃ c, e.context? = some c := by
  cases e with
  | structured serial k m c cause origin => exact ⟨c, rfl⟩
  | _ => cases h

theorem isStructured_wrap (s : Option Nat) (e : Fault τ) (k : ErrorClass)
    (es : List (String × Value)) : (e.wrap s k es).isStructured = true := by
  cases e <;> rfl

/-- A fault with a class is structured, and its kind is of that class. -/
theorem exists_kind_of_errorClass {e : Fault τ} {k : ErrorClass} (h : e.errorClass = some k) :
    ∃ kind, e.kind? = some kind ∧ kind.errorClass = some k := Option.bind_eq_some_iff.mp h

/-- A fault is the same raised fault as another, with the same contents, but for an operation
that was filled in where no action was set. -/
structure PassedOn (operation : String) (e f : Fault τ) : Prop where
  serial : f.serial = e.serial
  kind : f.kind? = e.kind?
  message : f.message? = e.message?
  cause : f.cause? = e.cause?
  origin : f.origin? = e.origin?
  context : f.context? = e.context?.map fun c =>
    if c.action.isNull then { c with action := .text operation } else c

theorem passedOn_fill (operation : String) (e : Fault τ) :
    PassedOn operation e (e.fill [("action", .text operation)]) where
  serial := serial_fill e _
  kind := kind_fill e _
  message := message_fill e _
  cause := cause_fill e _
  origin := origin_fill e _
  context := by
    have hfill (c : Context) : c.fillAll [("action", .text operation)] =
        if c.action.isNull then { c with action := .text operation } else c :=
      c.fill_name .action (.text operation)
    simp only [context_fill, hfill]

/-- A fault stems from another: it is the same raised fault, perhaps with more context, or it
carries the other as its cause, if that was not structured. -/
def StemsFrom (e f : Fault τ) : Prop :=
  if e.isStructured then
    f.serial = e.serial ∧ f.kind? = e.kind? ∧ f.message? = e.message? ∧ f.cause? = e.cause?
  else f.cause? = some e

theorem StemsFrom.of_passedOn {operation : String} {e f : Fault τ} (h : e.isStructured = true)
    (hp : PassedOn operation e f) : e.StemsFrom f := by
  rw [StemsFrom, if_pos h]
  exact ⟨hp.serial, hp.kind, hp.message, hp.cause⟩

/-- Filling in more context does not change where a fault stems from. -/
theorem StemsFrom.fill {e f : Fault τ} (h : e.StemsFrom f) (es : List (String × Value)) :
    e.StemsFrom (f.fill es) := by
  rw [StemsFrom] at h ⊢
  rw [serial_fill, kind_fill, message_fill, cause_fill]
  exact h

end Fault

end Settle
