import Settle.Proofs.Fault.Passing
import Settle.Rehearsal.Description

/-!
# The lowest layer wins

A fault goes up through layers, each of which fills in what it knows under names of its choice, or
wraps the fault in a class of its choice. Whatever the layers are, the fault that comes out is the
one that was created first, and each name holds what the lowest layer has given under it
(`Context.Lowest`).

So much holds of layers that come through. There is one name that none can write: a context keeps
track of its references under `__weakref__`, which is unset and yet no field. A layer that gives a
value there fails, and what it was given beside it is lost with it.

Main statement: `passed?_lowest`. `passed?_weakref` is the layer that fails.
-/

namespace Settle

variable {τ : Type}

/-! ### Names that are filled in several times -/

/-- The first value under a name that is not null. -/
def firstGiven? (name : String) (given : List (String × Value)) : Option Value :=
  given.findSome? fun p => if p.1 = name ∧ p.2.isNull = false then some p.2 else none

theorem firstGiven?_cons (name : String) (p : String × Value) (given : List (String × Value)) :
    firstGiven? name (p :: given) =
      if p.1 = name ∧ p.2.isNull = false then some p.2 else firstGiven? name given := by
  rw [firstGiven?, List.findSome?_cons]
  by_cases h : p.1 = name ∧ p.2.isNull = false
  · simp only [if_pos h]
  · simp only [if_neg h]
    rfl

theorem isNull_of_firstGiven? {name : String} {given : List (String × Value)} {v : Value}
    (h : firstGiven? name given = some v) : v.isNull = false := by
  induction given with
  | nil => cases h
  | cons p given ih =>
    rw [firstGiven?_cons] at h
    split at h
    · next hp =>
      cases h
      exact hp.2
    · exact ih h

namespace Field

theorem ofName?_eq_some_iff {name : String} {f : Field} :
    ofName? name = some f ↔ name = f.name := by
  constructor
  · intro h
    have hname := List.find?_some (p := fun g : Field => g.name == name) h
    exact (eq_of_beq hname).symm
  · rintro rfl
    exact ofName?_name f

theorem name_inj {f g : Field} (h : f.name = g.name) : f = g := by
  have hg : ofName? f.name = some g := by rw [h, ofName?_name]
  exact Option.some.inj ((ofName?_name f).symm.trans hg)

end Field

namespace Context

variable {c : Context} {given : List (String × Value)}

theorem fillAll_cons (c : Context) (p : String × Value) (given : List (String × Value)) :
    c.fillAll (p :: given) = (c.fill p.1 p.2).fillAll given := rfl

theorem fillAll_append (c : Context) (given given' : List (String × Value)) :
    c.fillAll (given ++ given') = (c.fillAll given).fillAll given' := List.foldl_append ..

/-- A field that is unset holds the first value given under its name, and any other what it held. -/
theorem get_fillAll (c : Context) (given : List (String × Value)) (f : Field) :
    (c.fillAll given).get f =
      if (c.get f).isNull then (firstGiven? f.name given).getD .null else c.get f := by
  induction given generalizing c with
  | nil =>
    cases h : (c.get f).isNull with
    | true => exact Value.eq_null_of_isNull h
    | false => rfl
  | cons p given ih =>
    rw [fillAll_cons, ih, get_fill, firstGiven?_cons]
    simp only [Field.ofName?_eq_some_iff, Bool.not_eq_true]
    cases hc : (c.get f).isNull with
    | false => simp [hc]
    | true =>
      by_cases hp : p.1 = f.name ∧ p.2.isNull = false
      · simp [hp]
      · have hskip : ¬ (p.1 = f.name ∧ true = true ∧ p.2.isNull = false) := by simpa using hp
        rw [if_neg hskip, if_neg hp, if_pos hc, if_pos rfl]

/-- An entry stays as it is. A new one is the first value given under its name, if that is neither
the name of a field nor reserved. -/
theorem get?_metadata_fillAll (c : Context) (given : List (String × Value)) (name : String) :
    (c.fillAll given).metadata.get? name =
      (c.metadata.get? name).or
        (if (Field.ofName? name).isSome ∨ isReserved name then none
          else firstGiven? name given) := by
  induction given generalizing c with
  | nil =>
    have hnone : firstGiven? name [] = none := rfl
    rw [hnone, ite_self, Option.or_none]
    rfl
  | cons p given ih =>
    rw [fillAll_cons, ih, metadata_fill, firstGiven?_cons]
    by_cases hstored : p.2.isNull = true ∨ (Field.ofName? p.1).isSome ∨ isReserved p.1
    · -- under the name itself nothing is stored that the entry could have come before
      rw [if_pos hstored]
      by_cases hname : (Field.ofName? name).isSome ∨ isReserved name
      · rw [if_pos hname, if_pos hname]
      · have hp : ¬ (p.1 = name ∧ p.2.isNull = false) := by
          rintro ⟨rfl, hnull⟩
          rw [hnull] at hstored
          exact hname (hstored.resolve_left Bool.false_ne_true)
        rw [if_neg hname, if_neg hname, if_neg hp]
    · rw [if_neg hstored, Ledger.get?_putNew]
      obtain ⟨hnull, hfree⟩ := not_or.mp hstored
      by_cases hp : p.1 = name
      · subst hp
        rw [if_pos rfl, if_neg hfree, if_neg hfree, if_pos ⟨rfl, Bool.eq_false_iff.mpr hnull⟩,
          Option.or_some, Option.some_or]
      · have hp' : ¬ (p.1 = name ∧ p.2.isNull = false) := fun h => hp h.1
        rw [if_neg hp, if_neg hp']

/-! ### The record of a context -/

/-- The set fields among some, as a record shows them. -/
def shown (c : Context) (fields : List Field) : Ledger String Value :=
  fields.filterMap fun f => if (c.get f).isNull then none else some (f.name, c.get f)

theorem get?_shown (c : Context) (fields : List Field) (f : Field) :
    (c.shown fields).get? f.name =
      if f ∈ fields ∧ (c.get f).isNull = false then some (c.get f) else none := by
  induction fields with
  | nil => simp [shown]
  | cons g fields ih =>
    have hcons : c.shown (g :: fields) =
        (if (c.get g).isNull then [] else [(g.name, c.get g)]) ++ c.shown fields := by
      rw [shown, List.filterMap_cons]
      cases (c.get g).isNull <;> rfl
    rw [hcons]
    cases hg : (c.get g).isNull with
    | true =>
      -- a field that is unset is not among those shown
      have hmem : (f ∈ g :: fields ∧ (c.get f).isNull = false) ↔
          (f ∈ fields ∧ (c.get f).isNull = false) := by
        constructor
        · rintro ⟨hmem, hf⟩
          rcases List.mem_cons.mp hmem with rfl | hmem
          · rw [hg] at hf
            cases hf
          · exact ⟨hmem, hf⟩
        · rintro ⟨hmem, hf⟩
          exact ⟨List.mem_cons_of_mem g hmem, hf⟩
      simp only [hmem]
      exact ih
    | false =>
      have hhead : (if false = true then [] else [(g.name, c.get g)]) ++ c.shown fields =
          (g.name, c.get g) :: c.shown fields := rfl
      rw [hhead, Ledger.get?_cons, ih]
      by_cases hgf : g = f
      · subst hgf
        rw [if_pos rfl, if_pos ⟨List.mem_cons_self, hg⟩]
      · have hmem : f ∈ g :: fields ↔ f ∈ fields := by simp [Ne.symm hgf]
        rw [if_neg (mt Field.name_inj hgf)]
        simp only [hmem]

/-- Where no entry has the name of a field, the record shows every set field with its value. -/
theorem get?_toLedger_name {c : Context} (h : ∀ f : Field, c.metadata.get? f.name = none)
    (f : Field) :
    c.toLedger.get? f.name = if (c.get f).isNull then none else some (c.get f) := by
  have hledger : c.toLedger = (c.shown Field.all).putAll c.metadata := rfl
  have hall : f ∈ Field.all := by cases f <;> decide
  have hkeys : f.name ∉ c.metadata.map Prod.fst := by
    intro hmem
    have hhas := (Ledger.has_iff_mem_keys c.metadata f.name).mpr hmem
    rw [Ledger.has, h f] at hhas
    cases hhas
  rw [hledger, Ledger.get?_putAll_of_not_mem _ _ hkeys, get?_shown]
  cases hn : (c.get f).isNull with
  | true => simp
  | false => simp [hall]

/-- A context into which values were given under names, the lowest layer first, as against the
context that it was at first. -/
structure Lowest (c : Context) (given : List (String × Value)) (c' : Context) : Prop where
  /-- A field holds the first value that is not null, its own or one that was given. -/
  field (f : Field) : c'.get f = (firstGiven? f.name ((f.name, c.get f) :: given)).getD .null
  /-- An entry stays. A new one holds the first value that is not null. -/
  entry (name : String) : c'.metadata.get? name = (c.metadata.get? name).or
    (if (Field.ofName? name).isSome ∨ isReserved name then none else firstGiven? name given)
  /-- Nothing is stored as null. -/
  stored {name : String} {v : Value} (hnew : c.metadata.get? name = none)
    (h : c'.metadata.get? name = some v) : v.isNull = false
  /-- The record shows the fields, if no entry had the name of one at first. -/
  record (h : ∀ f : Field, c.metadata.get? f.name = none) (f : Field) :
    c'.toLedger.get? f.name = if (c'.get f).isNull then none else some (c'.get f)

/-- **The lowest layer wins** in a context. -/
theorem lowest_fillAll (c : Context) (given : List (String × Value)) :
    c.Lowest given (c.fillAll given) where
  field f := by
    rw [get_fillAll, firstGiven?_cons]
    cases hc : (c.get f).isNull with
    | true => simp
    | false => simp
  entry name := get?_metadata_fillAll c given name
  stored {name v} hnew h := by
    rw [get?_metadata_fillAll, hnew, Option.none_or] at h
    split at h
    · cases h
    · exact isNull_of_firstGiven? h
  record h f := by
    refine get?_toLedger_name (fun g => ?_) f
    rw [get?_metadata_fillAll, h g, Option.none_or, Field.ofName?_name]
    exact if_pos (.inl rfl)

end Context

/-! ### Layers -/

namespace Fault

/-- What a layer does to a fault: it fills in what it was given under names, or it wraps the fault
in a class, with the serial that a new fault gets. -/
inductive Layer where
  | amends (given : List (String × Value))
  | wraps (serial : Option Nat) (k : ErrorClass) (given : List (String × Value))

namespace Layer

/-- What the layer was given under names. -/
def given : Layer → List (String × Value)
  | amends given => given
  | wraps _ _ given => given

/-- The names that are taken by what the layer does. -/
def taken : Layer → List String
  | amends _ => ["self"]
  | wraps _ _ _ => ["self", "error", "error_class"]

/-- Nothing was given under a name that is taken. -/
def IsProper (l : Layer) : Prop := ∀ p ∈ l.given, p.1 ∉ l.taken

/-- Nothing was given where a context keeps track of its references. -/
def IsWritable (l : Layer) : Prop := ∀ p ∈ l.given, p.1 = "__weakref__" → p.2.isNull = true

instance (l : Layer) : Decidable l.IsProper :=
  inferInstanceAs (Decidable (∀ p ∈ l.given, p.1 ∉ l.taken))

instance (l : Layer) : Decidable l.IsWritable :=
  inferInstanceAs (Decidable (∀ p ∈ l.given, p.1 = "__weakref__" → p.2.isNull = true))

/-- What becomes of a fault in the layer. -/
def treat? (e : Fault τ) : Layer → Except Misuse (Fault τ)
  | amends given => e.amended? (.record given)
  | wraps serial k given => e.wrapped? serial k (.record given)

end Layer

/-- What becomes of a fault in several layers, the lowest first. -/
def passed? (e : Fault τ) (layers : List Layer) : Except Misuse (Fault τ) :=
  layers.foldlM Layer.treat? e

/-- The fault that is created first: the one that is raised, if it is structured, and else the one
that the first layer wraps it in, before anything is filled in. -/
inductive Creates : Fault τ → List Layer → Fault τ → Prop
  | structured {e : Fault τ} (h : e.isStructured = true) (layers : List Layer) :
      Creates e layers e
  | wrapped {e : Fault τ} (h : e.isStructured = false) (serial : Option Nat) (k : ErrorClass)
      (given : List (String × Value)) (layers : List Layer) :
      Creates e (.wraps serial k given :: layers) (e.wrap serial k [])

variable {e : Fault τ} {l : Layer}

/-- What stands between the names of a layer and the context. -/
theorem fillable?_of_isProper (hp : l.IsProper) :
    fillable? l.given =
      if l.given.any fun p => p.1 == "__weakref__" && !p.2.isNull then
        .error (.unwritable "__weakref__" "ErrorContext")
      else .ok l.given := by
  have hself : "self" ∈ l.taken := by cases l <;> simp [Layer.taken]
  have hhas : Ledger.has l.given "self" = false := by
    rw [Bool.eq_false_iff, ne_eq, Ledger.has_iff_mem_keys]
    intro hmem
    obtain ⟨p, hp', hname⟩ := List.mem_map.mp hmem
    exact hp p hp' (hname ▸ hself)
  rw [fillable?, hhas]
  rfl

theorem Layer.isWritable_iff :
    l.IsWritable ↔ (l.given.any fun p => p.1 == "__weakref__" && !p.2.isNull) = false := by
  simp [IsWritable]

/-- A layer that can be written fills in what it was given. -/
theorem fillable?_of_isWritable (hp : l.IsProper) (hw : l.IsWritable) :
    fillable? l.given = .ok l.given := by
  rw [fillable?_of_isProper hp, Layer.isWritable_iff.mp hw]
  rfl

theorem fillable?_of_not_isWritable (hp : l.IsProper) (hw : ¬ l.IsWritable) :
    fillable? l.given = .error (.unwritable "__weakref__" "ErrorContext") := by
  rw [Layer.isWritable_iff, Bool.not_eq_false] at hw
  rw [fillable?_of_isProper hp, hw]
  rfl

/-- What wrapping comes to where no name is taken. -/
theorem wrapped?_of_isProper {serial : Option Nat} {k : ErrorClass}
    {given : List (String × Value)} (hp : (Layer.wraps serial k given).IsProper) :
    e.wrapped? serial k (.record given) = (fillable? given).map (e.wrap serial k) := by
  have hfind : (given.find? fun p => p.1 == "error" || p.1 == "error_class") = none := by
    rw [List.find?_eq_none]
    intro p hmem htaken
    have hnot := hp p hmem
    simp [Layer.taken] at hnot
    simp [hnot] at htaken
  simp only [wrapped?, Value.spread?, bind, Except.bind, hfind]
  cases fillable? given <;> rfl

/-- What filling in comes to for a structured fault. -/
theorem amended?_of_isStructured (hs : e.isStructured = true) (given : List (String × Value)) :
    e.amended? (.record given) = (fillable? given).map e.fill := by
  simp only [amended?, hs, Value.spread?, bind, Except.bind]
  cases fillable? given <;> rfl

theorem isStructured_fill (es : List (String × Value)) :
    (e.fill es).isStructured = e.isStructured := by
  cases e <;> rfl

theorem fill_append (e : Fault τ) (es es' : List (String × Value)) :
    (e.fill es).fill es' = e.fill (es ++ es') := by
  cases e with
  | structured s k m c cause origin =>
    rw [fill, fill, fill, Context.fillAll_append]
  | plain s k m => rfl
  | remote s code m r => rfl

/-- To wrap a fault is to create one and then to fill in its context. -/
theorem wrap_eq_fill (e : Fault τ) (serial : Option Nat) (k : ErrorClass)
    (es : List (String × Value)) : e.wrap serial k es = (e.wrap serial k []).fill es := by
  cases e <;> rfl

/-- A layer fills in what it was given under names, whether it wraps the fault or not. -/
theorem treat?_of_isStructured (hs : e.isStructured = true) (hp : l.IsProper) :
    l.treat? e = (fillable? l.given).map e.fill := by
  cases l with
  | amends given => exact amended?_of_isStructured hs given
  | wraps serial k given =>
    have hwrap : e.wrap serial k = e.fill := by
      funext es
      exact wrap_structured serial e k es hs
    rw [Layer.treat?, wrapped?_of_isProper hp, hwrap]
    rfl

/-! ### Several layers -/

theorem passed?_cons (e : Fault τ) (l : Layer) (layers : List Layer) :
    passed? e (l :: layers) = (l.treat? e).bind fun f => passed? f layers := List.foldlM_cons ..

/-- **A structured fault goes up through the layers** and is filled in with all that they were
given, if each of them can be written. -/
theorem passed?_of_isStructured {layers : List Layer} (hs : e.isStructured = true)
    (hp : ∀ l ∈ layers, l.IsProper) :
    ((∀ l ∈ layers, l.IsWritable) →
      passed? e layers = .ok (e.fill (layers.flatMap Layer.given))) ∧
    ((∃ l ∈ layers, ¬ l.IsWritable) →
      passed? e layers = .error (.unwritable "__weakref__" "ErrorContext")) := by
  induction layers generalizing e with
  | nil =>
    constructor
    · intro _
      cases e <;> rfl
    · rintro ⟨l, hmem, -⟩
      cases hmem
  | cons l layers ih =>
    have hpl := hp l List.mem_cons_self
    have hrest := ih (e := e.fill l.given) ((isStructured_fill _).trans hs)
      fun l' hl' => hp l' (List.mem_cons_of_mem l hl')
    rw [passed?_cons, treat?_of_isStructured hs hpl]
    by_cases hw : l.IsWritable
    · have hfirst : ((fillable? l.given).map e.fill).bind (fun f => passed? f layers) =
          passed? (e.fill l.given) layers := by
        rw [fillable?_of_isWritable hpl hw]
        rfl
      rw [hfirst]
      constructor
      · intro hall
        rw [hrest.1 fun l' hl' => hall l' (List.mem_cons_of_mem l hl'), fill_append,
          List.flatMap_cons]
      · rintro ⟨l', hmem, hl'⟩
        rcases List.mem_cons.mp hmem with rfl | hmem
        · exact absurd hw hl'
        · exact hrest.2 ⟨l', hmem, hl'⟩
    · constructor
      · intro hall
        exact absurd (hall l List.mem_cons_self) hw
      · intro _
        rw [fillable?_of_not_isWritable hpl hw]
        rfl

theorem Creates.isStructured {e₀ : Fault τ} {layers : List Layer} (h : Creates e layers e₀) :
    e₀.isStructured = true := by
  cases h with
  | structured h => exact h
  | wrapped h serial k => exact isStructured_wrap serial e k []

/-- Once it is wrapped, a fault of any other kind goes up as the one that was created. -/
theorem Creates.passed?_eq {e₀ : Fault τ} {layers : List Layer} (h : Creates e layers e₀)
    (hp : ∀ l ∈ layers, l.IsProper) : passed? e layers = passed? e₀ layers := by
  cases h with
  | structured h => rfl
  | wrapped h serial k given layers =>
    have hpl := hp _ List.mem_cons_self
    have hwrap : e.wrap serial k = (e.wrap serial k []).fill := by
      funext es
      exact wrap_eq_fill e serial k es
    have hfirst : (Layer.wraps serial k given).treat? e = (fillable? given).map (e.wrap serial k) :=
      wrapped?_of_isProper hpl
    rw [hwrap] at hfirst
    rw [passed?_cons, passed?_cons, treat?_of_isStructured (isStructured_wrap serial e k []) hpl,
      hfirst]
    rfl

/-- A fault is the one that was created, with its context filled in from the lowest layer on. -/
structure Layered (e : Fault τ) (given : List (String × Value)) (f : Fault τ) : Prop where
  serial : f.serial = e.serial
  kind : f.kind? = e.kind?
  errorClass : f.errorClass = e.errorClass
  message : f.message? = e.message?
  cause : f.cause? = e.cause?
  origin : f.origin? = e.origin?
  context : ∃ c c', e.context? = some c ∧ f.context? = some c' ∧ c.Lowest given c'

theorem layered_fill (hs : e.isStructured = true) (given : List (String × Value)) :
    e.Layered given (e.fill given) where
  serial := serial_fill e given
  kind := kind_fill e given
  errorClass := errorClass_fill e given
  message := message_fill e given
  cause := cause_fill e given
  origin := origin_fill e given
  context := by
    cases e with
    | structured s k m c cause origin =>
      exact ⟨c, c.fillAll given, rfl, rfl, c.lowest_fillAll given⟩
    | plain s k m => cases hs
    | remote s code m r => cases hs

/-- **The lowest layer wins.** Let a fault be structured, or wrapped by its first layer, and go up
through any layers that fill in and wrap, in whatever classes and with whatever values, under names
that are not taken by what they do. If no layer gives a value under `__weakref__`, then the fault
that comes out is the one that was created first. It keeps what it was created with, and each field
and each entry of its context holds what the lowest layer has given under its name. Otherwise
nothing comes out, for a layer fails. -/
theorem passed?_lowest {e₀ : Fault τ} {layers : List Layer} (hc : Creates e layers e₀)
    (hp : ∀ l ∈ layers, l.IsProper) :
    ((∀ l ∈ layers, l.IsWritable) →
      ∃ f, passed? e layers = .ok f ∧ e₀.Layered (layers.flatMap Layer.given) f) ∧
    ((∃ l ∈ layers, ¬ l.IsWritable) →
      passed? e layers = .error (.unwritable "__weakref__" "ErrorContext")) := by
  obtain ⟨hwritable, hfails⟩ := passed?_of_isStructured hc.isStructured hp
  rw [hc.passed?_eq hp]
  exact ⟨fun hw => ⟨_, hwritable hw, layered_fill hc.isStructured _⟩, hfails⟩

/-- A refused connection. -/
def refusal : Fault Rat := .ofText .connection "refused"

/-- Layers that wrap it and fill in, with null, with values that count as nothing, and late. -/
def refusalLayers : List Layer :=
  [.wraps none .transient [("action", .text "Start"), ("note", .null)],
    .amends [("action", .text "Stop"), ("status_code", .int 0), ("note", .text "")],
    .wraps none .fatal [("status_code", .int 3), ("note", .int 7), ("metadata", .int 1),
      ("to_dict", .int 2)]]

/-- The refused connection stays transient. Zero and the empty text count as given, and null does
not. -/
theorem passed?_lowest_refusal :
    ∃ f c, passed? refusal refusalLayers = .ok f ∧ f.errorClass = some .transient ∧
      f.cause? = some refusal ∧ f.context? = some c ∧ c.get .action = .text "Start" ∧
      c.get .statusCode = .int 0 ∧ c.metadata.get? "note" = some (.text "") ∧
      c.metadata.get? "metadata" = some (.int 1) ∧ c.metadata.get? "to_dict" = none ∧
      c.toLedger.get? "status_code" = some (.int 0) := by
  have hcreates : Creates refusal refusalLayers (refusal.wrap none .transient []) :=
    .wrapped rfl none .transient _ _
  have hproper : ∀ l ∈ refusalLayers, l.IsProper := by decide +kernel
  have hwritable : ∀ l ∈ refusalLayers, l.IsWritable := by decide +kernel
  obtain ⟨f, hf, hlayered⟩ := (passed?_lowest hcreates hproper).1 hwritable
  obtain ⟨c, c', hc, hc', hlowest⟩ := hlayered.context
  cases hc
  have hstatus : c'.get .statusCode = .int 0 := hlowest.field .statusCode
  refine ⟨f, c', hf, hlayered.errorClass, hlayered.cause, hc', hlowest.field .action, hstatus,
    hlowest.entry "note", hlowest.entry "metadata", hlowest.entry "to_dict", ?_⟩
  have hrecord := hlowest.record (fun _ => rfl) .statusCode
  rw [hstatus] at hrecord
  exact hrecord

/-- A layer that gives a value under `__weakref__` fails, although the name is not taken. -/
theorem passed?_weakref :
    (∀ l ∈ [Layer.amends [("__weakref__", .int 1)]], l.IsProper) ∧
      Creates (.simple .fatal "m" {} : Fault Rat) [.amends [("__weakref__", .int 1)]]
        (.simple .fatal "m" {}) ∧
      ¬ ∃ f, passed? (.simple .fatal "m" {} : Fault Rat) [.amends [("__weakref__", .int 1)]] =
        .ok f := by
  refine ⟨by decide +kernel, .structured rfl _, ?_⟩
  rintro ⟨f, hf⟩
  cases hf

end Fault

end Settle
