import Settle.Event
import Settle.Journal.Scope

/-!
# Records and their lines

A record is a ledger of names and values: the fields of an event, the variables bound at the
time, and what the journal adds. The event's own fields win over bound variables; the level
is always that of the event, whatever a field of that name says; the name of the service
gives way to a field of that name. The journal keeps no listing of calls, so that a request
for one is passed over.

A record is written as a structured line, in which two names follow the Elastic Common
Schema, or for a terminal: as a coloured line, below which stand a listing of calls and the
text of a fault, if the record holds them.

Main statements: `get?_complete` says which source each name of a record comes from.
-/

namespace Settle

/-- The fields of one written event. -/
abbrev Record := Ledger String Value

namespace Record

/-- Enter pairs under the names that are still free. -/
def fillIn (r : Record) (pairs : List (String × Value)) : Record :=
  pairs.foldl (fun r p => Ledger.putNew r p.1 p.2) r

/-- What an event says of itself: the logger, if it has a name, the fields, the event, if it
is anything, and the time, if records carry one. A later entry wins. -/
def head (logger : Option String) (event : Value) (fields : List (String × Value))
    (time : Option String) : Record :=
  let r : Record := match logger with
    | some name => [("logger_name", .text name)]
    | none => []
  let r := Ledger.putAll r fields
  let r := if event.isNull then r else r.put "event" event
  match time with
  | some t => r.put "timestamp" (.text t)
  | none => r

/-- The name under which a record asks for a listing of calls. -/
def request : String := "stack_info"

/-- Add to what an event says the bound variables under names that are free, its level under
any circumstances, and the name of the service if that is free; drop the request for a
listing of calls. -/
def complete (r : Record) (vars : Variables) (level : Level) (service : Value) : Record :=
  (Ledger.erase ((r.fillIn vars).put "level" (.text level.name)) request).putNew
    "service.name" service

/-- The names of the Elastic Common Schema for the time and the level. -/
def renamed (r : Record) : Record :=
  let rename (old new : String) (r : Record) : Record :=
    match Ledger.get? r old with
    | some v => (Ledger.erase r old).put new v
    | none => r
  rename "level" "log.level" (rename "timestamp" "@timestamp" r)

/-! ### Where a name comes from -/

theorem get?_fillIn (r : Record) (pairs : Ledger String Value) (name : String) :
    Ledger.get? (r.fillIn pairs) name = (Ledger.get? r name).or (pairs.get? name) := by
  induction pairs generalizing r with
  | nil => simp [fillIn]
  | cons p rest ih =>
    have step : r.fillIn (p :: rest) = fillIn (Ledger.putNew r p.1 p.2) rest := rfl
    rw [step, ih, Ledger.get?_putNew]
    obtain ⟨k, v⟩ := p
    simp only [Ledger.get?_cons]
    by_cases h : k = name
    · subst h
      simp only [if_true]
      cases Ledger.get? r k <;> rfl
    · simp [h]

/-- The level of a record is that of the event. Any other name but the service's comes from
the event if it says anything under it, else from the bound variables; the service's name
comes from the journal if neither says anything. -/
theorem get?_complete (r : Record) (vars : Variables) (level : Level) (service : Value)
    (name : String) :
    Ledger.get? (r.complete vars level service) name =
      if name = "level" then some (.text level.name)
      else if name = request then none
      else if name = "service.name" then
        some (((Ledger.get? r name).or (Ledger.get? vars name)).getD service)
      else (Ledger.get? r name).or (Ledger.get? vars name) := by
  have inner (k : String) :
      Ledger.get? (Ledger.erase ((r.fillIn vars).put "level" (.text level.name)) request) k =
        if k = request then none
        else if k = "level" then some (.text level.name)
        else (Ledger.get? r k).or (Ledger.get? vars k) := by
    rw [Ledger.get?_erase, Ledger.get?_put, get?_fillIn]
    simp only [eq_comm (a := k)]
  unfold complete
  rw [Ledger.get?_putNew, inner, inner]
  by_cases h : name = "level"
  · subst h
    simp [request]
  · by_cases hq : name = request
    · subst hq
      simp [request]
    · by_cases h2 : name = "service.name"
      · subst h2
        simp [request]
      · have h2' : ¬ "service.name" = name := fun e => h2 e.symm
        simp [h, hq, h2, h2']

/-! ### The line for a terminal -/

/-- Back to plain text. -/
def plain : String := "\x1b[0m"

/-- Bold text. -/
def bold : String := "\x1b[1m"

/-- The colour of a level. -/
def colour (level : String) : String :=
  if level = "critical" ∨ level = "error" then "\x1b[31m"
  else if level = "warning" then "\x1b[33m"
  else "\x1b[32m"

/-- Fill a text up with spaces to a width. -/
def padded (width : Nat) (s : String) : String :=
  s ++ String.ofList (List.replicate (width - Text.count s) ' ')

/-- Does a text need quotes on a line of fields? -/
def needsQuotes (s : String) : Bool :=
  s.any fun c =>
    c == ' ' || c == '\t' || c == '=' || c == '\r' || c == '\n' || c == '\x22' || c == '\x27'

/-- A value on a line of fields: a text is bare unless it needs quotes. -/
def fieldText : Value → String
  | .text s => if needsQuotes s then Text.quote s else s
  | v => v.written

/-- The name of a logger between brackets. -/
def loggerColumn (v : Value) : String :=
  "[" ++ plain ++ bold ++ "\x1b[34m" ++ v.shown ++ plain ++ "]" ++ plain

/-- A field by its name and its value. -/
def fieldColumn (name : String) (v : Value) : String :=
  "\x1b[36m" ++ name ++ plain ++ "=" ++ "\x1b[35m" ++ fieldText v ++ plain

/-- The columns that stand before all other fields, in order, each with its writing. A field
without a name is the very first. -/
def leading : List (String × (Value → String)) :=
  [("", fieldColumn ""),
   ("timestamp", fun v => "\x1b[2m" ++ v.shown ++ plain),
   ("level", fun v => "[" ++ colour v.shown ++ bold ++ padded 9 v.shown ++ plain ++ "]"),
   ("event", fun v => bold ++ padded 30 v.shown ++ plain),
   ("logger", loggerColumn),
   ("logger_name", loggerColumn)]

/-- The names whose values stand below the line, if they are shown at all: a listing of
calls, the text of a fault, and the request for the fault that is being handled. -/
def apart : List String := ["stack", "exception", "exc_info"]

/-- The remaining fields in the order of their names. -/
def trailing (r : Record) : List (String × Value) :=
  (r.filter fun p => !(leading.map Prod.fst ++ apart).contains p.1).mergeSort
    fun a b => !decide (b.1 < a.1)

/-- The line of a record for a terminal. -/
def terminalLine (r : Record) : String :=
  let first := leading.filterMap fun c => (Ledger.get? r c.1).map c.2
  " ".intercalate (first ++ r.trailing.map fun p => fieldColumn p.1 p.2)

/-- A text that stands below the line, if there is one. No other value can stand there, and
it is given back. -/
def paragraph : Value → Except Value String
  | .null => .ok ""
  | .text s => .ok ("\n" ++ s)
  | v => .error v

/-- What parts a listing of calls from the fault below it. -/
def divider : String := "\n\n" ++ String.ofList (List.replicate 79 '=') ++ "\n"

/-- What stands below the line. No fault is being handled while a record is written, so a
request for it shows only in the divider. -/
def below (r : Record) : Except Value String := do
  let own (name : String) : Value := (Ledger.get? r name).getD .null
  let divided := !(own "stack").isNull &&
    ((own "exc_info").isTruthy || !(own "exception").isNull)
  let listing ← paragraph (own "stack")
  let fault ← paragraph (own "exception")
  pure (listing ++ (if divided then divider else "") ++ fault)

/-- The whole text of a record for a terminal, or the value that cannot be shown. -/
def terminalText (r : Record) : Except Value String := do
  pure (r.terminalLine ++ (← r.below))

end Record

end Settle
