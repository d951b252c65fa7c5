import Settle.Identifier.Delimited
import Settle.Listing.ItemFilter
import Settle.Rehearsal.Remote

/-!
# Descriptions

Whatever takes part in a rehearsal can be described by a free value: faults, cues, the remote
service, status tables, submissions, limiters and profiles. This file reads descriptions.

A description that asks for what cannot be built has a fault of its own. In a script this is
the fault that the cue raises, so that a rehearsal goes on as if it had been asked for.
-/

namespace Settle

open Misuse (raised)

/-! ### Faults -/

namespace Context

/-- Is the name one of the parts of a context? -/
def isPart (name : String) : Bool := name == "metadata" || (Field.ofName? name).isSome

/-- A context from its parts by name. The first name that is no part is refused. -/
def ofFields? (fields : List (String × Value)) : Except Misuse Context :=
  match fields.find? fun f => !isPart f.1 with
  | some f =>
    let owner := "ErrorContext.__init__"
    .error (if f.1 = "self" then .takenArgument owner f.1 else .unknownArgument owner f.1)
  | none =>
    let v := Value.record fields
    .ok
      { action := v.atOr "action" .null
        requestId := v.atOr "request_id" .null
        resourceId := v.atOr "resource_id" .null
        handle := v.atOr "handle" .null
        statusCode := v.atOr "status_code" .null
        metadata := v.fieldsAt "metadata" }

/-- A context from its description. A missing one is empty. -/
def ofValue? (v : Value) : Except Misuse Context := ofFields? v.asFields

end Context

namespace Fault

/-- A structured fault with a message of any kind. One that is no text can be shown only beside
where the fault arose. -/
def worded? (k : Kind Float) (message : Value) (context : Context)
    (cause : Option (Fault Float)) : Except Misuse (Fault Float) :=
  match message with
  | .text _ => .ok (.structured none k message context cause cause)
  | v =>
    if context.action.isTruthy || context.requestId.isTruthy then
      .ok (.structured none k v context cause cause)
    else .error (.notText v.kindName)

/-- An empty response with a message of any kind; one that is empty counts as none. -/
def emptyResponse? (action message : Value) : Except Misuse (Fault Float) :=
  if message.isTruthy then worded? .emptyResponse message { action } none
  else .ok (.emptyResponse action "")

/-- A fault from its description, or the fault of the description. -/
def ofValue? (v : Value) : Except (Fault Float) (Fault Float) := do
  let part (name : String) : Except (Fault Float) Value := raised (v.entry name)
  let type := (← part "type").shown
  let optional (name : String) : Value := v.atOr name .null
  let context : Except (Fault Float) Context := raised (Context.ofValue? (optional "context"))
  match Kind.simple? type with
  | some k => do
    let message ← part "message"
    let context ← context
    let cause ← match _h : v.at? "cause" with
      | none | some .null => pure none
      | some c => some <$> ofValue? c
    raised (worded? k message context cause)
  | none =>
    match type with
    | "EmptyResponseError" => do
      raised (emptyResponse? (← part "action") (optional "message"))
    | "CardinalityError" =>
      pure (.cardinality (← part "what") (← part "count") (optional "action"))
    | "MalformedIdentifierError" => do
      let identifier := optional "identifier"
      raised (worded? (.malformedIdentifier identifier) (← part "message")
        { resourceId := identifier } none)
    | "TaskFailedError" =>
      pure (.taskFailed (← part "handle") (← part "status_code") (optional "action")
        (optional "request_id"))
    | "DeadlineExceededError" => do
      let operation ← part "operation"
      let deadline ← raised ((v.entry "deadline").bind Value.toFloat?)
      let elapsed ← raised ((v.entry "elapsed").bind Value.toFloat?)
      let attempts ← part "attempts"
      let last : Condition Float ← match _h : v.at? "last_error" with
        | none => pure (.reason .null)
        | some (.record fs) => .fault <$> ofValue? (.record fs)
        | some reason => pure (.reason reason)
      pure (.deadlineExceeded operation deadline elapsed attempts last (← context))
    | "RemoteServiceError" =>
      pure (.remote none (← part "code") (v.atOr "message" (.text "")) (optional "request_id"))
    | _ => pure (.plain none ((PlainKind.ofName? type).getD .general) (v.at? "message"))
termination_by sizeOf v
decreasing_by all_goals exact Value.sizeOf_at? _h

/-- The fault that raising a described fault comes to. -/
def ofValue (v : Value) : Fault Float :=
  match ofValue? v with
  | .ok e => e
  | .error e => e

/-- The same fault under a serial. -/
def numbered {τ : Type} (n : Nat) : Fault τ → Fault τ
  | .plain _ k m => .plain (some n) k m
  | .remote _ c m r => .remote (some n) c m r
  | .structured _ k m c cause origin => .structured (some n) k m c cause origin

/-- The names by which a context is filled in. Its own name is taken, and where it keeps track
of its references nothing can be stored. -/
def fillable? (entries : List (String × Value)) : Except Misuse (List (String × Value)) :=
  if Ledger.has entries "self" then
    .error (.takenArgument "ConvergeError.with_context" "self")
  else if entries.any fun e => e.1 == "__weakref__" && !e.2.isNull then
    .error (.unwritable "__weakref__" "ErrorContext")
  else .ok entries

/-- Fill in the context of a fault as asked for by names. Only a structured fault can be
asked. -/
def amended? {τ : Type} (e : Fault τ) (given : Value) : Except Misuse (Fault τ) :=
  if !e.isStructured then .error (.noMember e.typeName "with_context")
  else do
    let entries ← given.spread? "converge.core.errors.ConvergeError.with_context"
    pure (e.fill (← fillable? entries))

/-- Wrap a fault as asked for by names. The names of the fault and of the class are taken. -/
def wrapped? {τ : Type} (serial : Option Nat) (e : Fault τ) (c : ErrorClass) (given : Value) :
    Except Misuse (Fault τ) := do
  let entries ← given.spread? "converge.core.errors.wrap_error"
  match entries.find? fun p => p.1 == "error" || p.1 == "error_class" with
  | some p => throw (.takenArgument "wrap_error" p.1)
  | none => pure (e.wrap serial c (← fillable? entries))

end Fault

/-! ### Answers -/

namespace Value

/-- A listing: the items themselves, or so many items that are made up. -/
def listing (v : Value) : Value :=
  match v.at? "make" with
  | some n =>
    .list ((List.range n.asInt.toNat).map fun i =>
      .record [("Id", .text ("item-" ++ toString i)), ("Index", .int (i : Nat))])
  | none => v

/-- The entries of an order, with the names under which each has its resources and its
handle. -/
def deals? (ids handle : String) (v : Value) : Except Misuse (List DealEntry) := do
  (← v.items?).mapM fun d => do
    let ids ← (← d.entry ids).items?
    pure { resourceIds := ids, handle := d.atOr handle .null }

/-- A page, with items and a limit, and from the start unless it says otherwise. -/
def page? (v : Value) : Except Misuse (Page Value) := do
  let items ← (← v.entry "items").listing.items?
  let limit ← v.entry "limit"
  pure ⟨items, limit, v.atOr "offset" (.int 0)⟩

/-- What a response says of the status of a task: under one name with the trace id, else the
bare code under another. -/
def status? (v : Value) : Except Misuse StatusAnswer :=
  match v with
  | .record _ =>
    match v.at? "Status" with
    | some status => .ok (.report status ((v.atOr "RequestId" .null).orElse .null))
    | none => .ok (.bare (v.atOr "Code" .null))
  | v =>
    let found :=
      match v with
      | .text s => Delimited.holds "Status".toList s.toList
      | v => v.asItems.any fun x => x.same (.text "Status")
    .error (if !v.isIterable then .notSearched v.kindName
      else if found then .notKeyed v "str" else .noMember v.kindName "get")

end Value

/-- A cue from its description: the clock moves first, and then there is the first answer
that is described. -/
def Cue.ofValue (v : Value) : Cue Float Played :=
  let on (name : String) (f : Value → Except (Fault Float) Played) :=
    (v.at? name).map f
  let give (name : String) (f : Value → Played) := on name fun x => .ok (f x)
  let answers :=
    [on "raise" fun x => .error (.ofValue x), give "done" .done,
     give "done_default" fun _ => .done .null, give "pending" .pending,
     give "pending_default" fun _ => .pending Reply.defaultReason,
     on "report" fun x => do
       let code ← raised (x.entry "code")
       pure (.report code (x.atOr "request_id" .null)),
     on "deals" fun x => .deals <$> raised (x.deals? "ids" "handle"),
     on "page" fun x => .page <$> raised x.page?, give "return" .value]
  match (v.at? "advance").mapM Value.toFloat? with
  | .ok pause => ⟨pause, (answers.findSome? id).getD (.ok (.value .null))⟩
  | .error e => ⟨none, .error e.toFault⟩

/-- The script that is described under a name. -/
def Script.ofValue (v : Value) (name : String) : Script Float Played :=
  (v.itemsAt name).map Cue.ofValue

/-- Play a script and read its answers in one way. -/
def Script.playing {α : Type} (name : String) (script : Script Float Played) (f : Played → α)
    (r : Rehearsal Float) : Except (Fault Float) α × Rehearsal Float :=
  let (answer, r) := r.play name script none
  (answer.map f, r)

/-- A remote service from the descriptions of its actions and of the faults to inject. -/
def Remote.ofValue (v : Value) : Remote Float :=
  { actions := (v.fieldsAt "remote").map fun a => (a.1,
      match a.2.at? "items" with
      | some xs => .listing (a.2.textAt "key" "Items") xs.listing
      | none => .script ((Script.ofValue a.2 "steps").map fun c =>
          ⟨c.pause, c.answer.map Played.toValue⟩))
    injected := (v.fieldsAt "faults").map fun f => (f.1,
      { code := f.2.atOr "code" (.text "")
        message := f.2.atOr "message" (.text "injected fault")
        requestId := f.2.atOr "request_id" .null
        times := f.2.intAt "times" }) }

/-! ### Parts -/

/-- A policy from its description. -/
def NotFoundPolicy.ofValue? (v : Value) : Except Misuse NotFoundPolicy :=
  (v.atOr "not_found" (.text NotFoundPolicy.fatal.name)).oneOf? "NotFoundPolicy" ofName?

/-- A classification from its description. -/
def ErrorClass.ofValue? (v : Value) : Except Misuse ErrorClass := v.oneOf? "ErrorClass" ofName?

/-- A profile from its description: the name of a preset, or its times. -/
def Profile.ofValue? : Value → Except (Fault Float) (Profile Float)
  | .text s => Profile.find? Profile.presets (.text s)
  | v => do
    let interval ← raised ((v.entry "interval").bind Value.toFloat?)
    let deadline ← raised ((v.entry "deadline").bind Value.toFloat?)
    Profile.create? (v.atOr "name" (.text "custom")) interval deadline

/-- A limiter from its description. What is missing is as in the standard. -/
def Limiter.ofValue? (number : Nat) (v : Value) : Except Misuse (Limiter Float) := do
  let d : Limiter Float := .standard number
  pure
    { number
      defaultRate := ← v.floatUnder "default_rate" d.defaultRate
      defaultBurst := ← v.floatUnder "default_burst" d.defaultBurst
      rates := ← (← (v.atOr "action_rates" (.record [])).fields?).mapM fun r => do
        pure (r.1, ← r.2.toFloat?)
      maxWait := ← v.floatUnder "max_wait" d.maxWait }

/-- A status table from its description. The codes of each outcome are looked at only when it
is their turn to be entered. -/
def StatusTable.ofValue? (v : Value) : Except (Fault Float) StatusTable := do
  let name ← raised (v.entry "name")
  let default ← raised
    ((v.atOr "default" (.text Outcome.pending.name)).oneOf? "PollOutcome" Outcome.ofName?)
  let enter (o : Outcome) (entries : List (Value × Outcome)) :
      Except (Fault Float) (List (Value × Outcome)) := do
    enterAll? o (← raised (v.atOr o.name (.list [])).items?) entries
  let entries ← enter .pending []
  let entries ← enter .succeeded entries
  pure { name, entries := ← enter .failed entries, default }

/-- A submission from its description: direct, an order, or of any parts. -/
def Submission.ofValue? (v : Value) : Except (Fault Float) Submission := do
  let part (name : String) : Value := v.atOr name .null
  match ← raised (v.entry "kind") with
  | .text "direct" =>
    create? (Submission.direct (part "resource_id") (part "handle") (part "action"))
  | .text "order" => create? (Submission.order (← raised (v.entry "order_ref")) (part "action"))
  | _ =>
    let parts := ["kind", "resource_id", "handle", "order_ref", "action"]
    match v.asFields.find? fun f => !parts.contains f.1 with
    | some f =>
      let owner := "Submission.__init__"
      throw (if f.1 = "self" then Misuse.takenArgument owner f.1
        else Misuse.unknownArgument owner f.1).toFault
    | none =>
      create?
        { resourceId := part "resource_id", handle := part "handle"
          orderRef := part "order_ref", action := part "action" }

/-- A filter from its description. -/
def ItemFilter.ofValue (v : Value) : ItemFilter :=
  let wanted := v.atOr "value" .null
  { key := v.at? "key"
    trial := match v.textAt "test" "" with
      | "eq" => .equals wanted
      | "ge" => .atLeast wanted
      | "mod" => .leaves wanted (v.atOr "rest" (.int 0))
      | "true" => .anything
      | _ => .nothing }

end Settle
