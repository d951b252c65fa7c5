import Settle.Ledger
import Settle.Value

/-!
# The context of a fault

A context says where a fault arose: five well-known fields and a ledger of further data. A
field is unset while it is null. Filling in is the only way a context changes: it sets what
is unset and never touches what is set, so the layer nearest to the fault has the word.

Main statements: `get_fill` for the fields and `metadata_fill` for the further data.
-/

namespace Settle

/-- The well-known fields of a context. -/
inductive Field where
  | action
  | requestId
  | resourceId
  | handle
  | statusCode
  deriving DecidableEq, Repr

namespace Field

/-- All fields, in the order in which records show them. -/
def all : List Field := [action, requestId, resourceId, handle, statusCode]

/-- The name of a field in records. -/
def name : Field → String
  | action => "action"
  | requestId => "request_id"
  | resourceId => "resource_id"
  | handle => "handle"
  | statusCode => "status_code"

/-- The field of a name. -/
def ofName? (s : String) : Option Field := all.find? fun f => f.name == s

end Field

/-- Where a fault arose. A null field is unset. -/
structure Context where
  action : Value := .null
  requestId : Value := .null
  resourceId : Value := .null
  handle : Value := .null
  statusCode : Value := .null
  metadata : Ledger String Value := []
  deriving Inhabited

namespace Context

/-- The value of a field. -/
def get (c : Context) : Field → Value
  | .action => c.action
  | .requestId => c.requestId
  | .resourceId => c.resourceId
  | .handle => c.handle
  | .statusCode => c.statusCode

/-- Set a field. -/
def set (c : Context) (f : Field) (v : Value) : Context :=
  match f with
  | .action => { c with action := v }
  | .requestId => { c with requestId := v }
  | .resourceId => { c with resourceId := v }
  | .handle => { c with handle := v }
  | .statusCode => { c with statusCode := v }

@[simp] theorem get_set (c : Context) (f g : Field) (v : Value) :
    (c.set f v).get g = if f = g then v else c.get g := by
  cases f <;> cases g <;> rfl

@[simp] theorem metadata_set (c : Context) (f : Field) (v : Value) :
    (c.set f v).metadata = c.metadata := by
  cases f <;> rfl

/-- The names that every context has from the start, between double underscores: they stand
for its class, its fields and what is done to it, and nothing is ever filled in under
them. -/
def innate : List String :=
  ["annotations", "class", "dataclass_fields", "dataclass_params", "delattr", "dict", "dir",
   "doc", "eq", "format", "ge", "getattribute", "getstate", "gt", "hash", "init",
   "init_subclass", "le", "lt", "match_args", "module", "ne", "new", "reduce", "reduce_ex",
   "repr", "setattr", "sizeof", "str", "subclasshook", "weakref"]

/-- Does a name belong to the workings of a context, so that it is never filled in? Such are
the name of its record form and its innate names. -/
def isReserved (name : String) : Bool :=
  name == "to_dict" || innate.any fun word => name == "__" ++ word ++ "__"

/-- Fill in one name. Null is never stored. A field is set if it is unset; any other name
goes to the further data unless there is an entry already. -/
def fill (c : Context) (name : String) (v : Value) : Context :=
  if v.isNull then c
  else
    match Field.ofName? name with
    | some f => if (c.get f).isNull then c.set f v else c
    | none =>
      if isReserved name then c
      else { c with metadata := c.metadata.putNew name v }

/-- Fill in names in turn. -/
def fillAll (c : Context) (entries : List (String × Value)) : Context :=
  entries.foldl (fun c e => c.fill e.1 e.2) c

/-- A field holds its old value if that was set, else what was filled in under its name. -/
theorem get_fill (c : Context) (name : String) (v : Value) (f : Field) :
    (c.fill name v).get f =
      if Field.ofName? name = some f ∧ (c.get f).isNull ∧ ¬ v.isNull then v else c.get f := by
  unfold fill
  by_cases hv : v.isNull
  · simp [hv]
  · simp only [hv, if_false, Bool.false_eq_true]
    cases hn : Field.ofName? name with
    | none =>
      simp only
      split <;> cases f <;> simp [get]
    | some g =>
      simp only
      by_cases hg : g = f
      · subst hg
        split <;> simp_all
      · split <;> simp [hg]

/-- The further data change only under a name that is no field, has no entry, and is not
reserved. -/
theorem metadata_fill (c : Context) (name : String) (v : Value) :
    (c.fill name v).metadata =
      if v.isNull ∨ (Field.ofName? name).isSome ∨ isReserved name then c.metadata
      else c.metadata.putNew name v := by
  unfold fill
  by_cases hv : v.isNull
  · simp [hv]
  · cases hn : Field.ofName? name with
    | none => by_cases hr : isReserved name <;> simp [hv, hr]
    | some g => by_cases hg : (c.get g).isNull <;> simp [hv, hg]

/-- The set fields in order, then the further data, which win over a field of their name. -/
def toLedger (c : Context) : Ledger String Value :=
  let fields : Ledger String Value := Field.all.filterMap fun f =>
    if (c.get f).isNull then none else some (f.name, c.get f)
  fields.putAll c.metadata

end Context

end Settle
