import Settle.Journal.Record
import Settle.Settings.Basic
import Settle.Text.LetterCase
import Settle.Text.Lines
import Settle.Value.Misuse

/-!
# The journal

The journal of a process writes records as lines. It is configured by a threshold, a style
and whether records carry the time. A logger keeps the configuration in force when it is
first used, even if that first record is held back; the name of the service and the bound
variables are always those of the moment. A journal that was never configured writes nothing.

A configuration whose level has no known name is refused, which leaves the configuration in
force as it was but has changed the name of the service already. A call of a logger is
refused if it names no way to write an event, if a field has a name that the call has taken
itself, or if a value cannot be shown on a terminal. Blocks of variables are entered and left
in pairs; leaving more of them than were entered is refused.

Main statements: `configOf_configure_keep`, `configureBy_of_unknown`, `write_of_held_back`,
`get?_leave_enter` and `leaveBlock_enterBlock`.
-/

namespace Settle

/-- How records are written. -/
inductive LineStyle where
  | structured
  | terminal
  deriving DecidableEq, Repr

/-- What a logger goes by: records below the threshold are held back. -/
structure JournalConfig where
  threshold : Nat
  style : LineStyle
  timed : Bool

/-- The loggers of a process: those of the library by their source, and those that were
asked for by a name or by none. -/
inductive Logger where
  | library (source : String)
  | named (name : Option String)
  deriving DecidableEq

/-- The name that a logger shows in records. -/
def Logger.name? : Logger → Option String
  | library source => some source
  | named name => name

/-- A written line. -/
inductive Line where
  | structured (record : Record)
  | terminal (text : String)

/-- The journal of a process. -/
structure Journal where
  service : Value := .text "converge"
  config : Option JournalConfig := none
  kept : Ledger Logger JournalConfig := []
  bound : Variables := []
  blocks : List Variables.Saved := []

namespace Journal

/-! ### Configuration -/

/-- The threshold of a level's name in capital letters. -/
def threshold? (level : String) : Option Nat :=
  Ledger.get? [("NOTSET", 0), ("DEBUG", 10), ("INFO", 20), ("WARN", 30), ("WARNING", 30),
    ("ERROR", 40), ("FATAL", 50), ("CRITICAL", 50)] level

/-- The failure for a name that is no level. Two such names are known and stand for something
else: the format of a line, and the table of all formats. -/
def notALevel {τ : Type} (level : String) : Fault τ :=
  if level = "BASIC_FORMAT" then .ofText .key "%(levelname)s:%(name)s:%(message)s"
  else if level = "_STYLES" then .ofText .type "unhashable type: 'dict'"
  else .ofText .member ("module 'logging' has no attribute '" ++ level ++ "'")

/-- Configure the journal. The level counts whatever the case of its letters. The service is
renamed even if the level is refused. -/
def configure {τ : Type} (level : String) (style : LineStyle) (service : Value)
    (timed : Bool) (j : Journal) : Except (Fault τ) Unit × Journal :=
  let j := { j with service }
  match threshold? (Text.upper level) with
  | some threshold => (.ok (), { j with config := some { threshold, style, timed } })
  | none => (.error (notALevel (Text.upper level)), j)

/-- Configure the journal as settings say. -/
def configureFrom {τ : Type} (s : Settings τ) (j : Journal) :
    Except (Fault τ) Unit × Journal :=
  let style := if s.logFormat = "json" then LineStyle.structured else LineStyle.terminal
  j.configure s.logLevel style (.text s.serviceName) true

/-- Is the name one of the wishes that a configuration takes? -/
def isWish (name : String) : Bool :=
  ["level", "json_format", "service", "add_timestamp"].contains name

/-- Configure the journal by wishes. A name that is no wish is refused before anything is
changed; a level that is no text is refused like one that has no known name. Without a wish
the style is that of a terminal just where there is one. -/
def configureBy {τ : Type} (onTerminal : Bool) (wishes : List (String × Value))
    (j : Journal) : Except (Fault τ) Unit × Journal :=
  match wishes.find? fun f => !isWish f.1 with
  | some f => (.error (Misuse.unknownArgument "configure_logging" f.1).toFault, j)
  | none =>
    let wished := Value.record wishes
    let structured := ((wished.given? "json_format").map Value.isTruthy).getD !onTerminal
    let timed := ((wished.at? "add_timestamp").map Value.isTruthy).getD true
    let service := wished.atOr "service" (.text "converge")
    match wished.atOr "level" (.text "INFO") with
    | .text level =>
      j.configure level (if structured then .structured else .terminal) service timed
    | level => (.error (Misuse.noMember level.kindName "upper").toFault, { j with service })

/-- An unknown wish changes nothing. -/
theorem configureBy_of_unknown {τ : Type} (onTerminal : Bool)
    {wishes : List (String × Value)} {f : String × Value}
    (h : wishes.find? (fun f => !isWish f.1) = some f) (j : Journal) :
    (j.configureBy (τ := τ) onTerminal wishes).2 = j := by
  simp [configureBy, h]

/-- The configuration that a logger goes by: the one it kept, else the one in force. -/
def configOf (j : Journal) (logger : Logger) : Option JournalConfig :=
  (Ledger.get? j.kept logger).or j.config

/-- A logger keeps the configuration it goes by. -/
def keep (j : Journal) (logger : Logger) : Journal :=
  match j.configOf logger with
  | some c => { j with kept := Ledger.put j.kept logger c }
  | none => j

/-- A logger goes on by what it kept, whatever is configured later. -/
theorem configOf_configure_keep {τ : Type} (j : Journal) (logger : Logger)
    {c : JournalConfig} (h : j.configOf logger = some c) (level : String)
    (style : LineStyle) (service : Value) (timed : Bool) :
    ((j.keep logger).configure (τ := τ) level style service timed).2.configOf logger
      = some c := by
  unfold keep
  rw [h]
  unfold configure
  simp only
  cases threshold? (Text.upper level) <;> simp [configOf]

/-! ### Ways to write an event -/

/-- A way to write an event: at a level, and asking for the fault that is being handled, or
not. -/
structure Manner where
  level : Level
  asking : Bool
  deriving DecidableEq, Repr

/-- The way of a name: that of a level, or one of four more. -/
def Manner.ofName? (s : String) : Option Manner :=
  match Level.ofName? s with
  | some level => some ⟨level, false⟩
  | none => Ledger.get? [("warn", ⟨.warning, false⟩), ("fatal", ⟨.critical, false⟩),
      ("msg", ⟨.info, false⟩), ("exception", ⟨.error, true⟩)] s

/-- The fields of an event that is written in this way. -/
def Manner.complete (m : Manner) (fields : List (String × Value)) : List (String × Value) :=
  if m.asking then Ledger.putNew fields "exc_info" (.bool true) else fields

/-- The name of a threshold, as failures call it. -/
def thresholdName (threshold : Nat) : String :=
  (Ledger.get? [(10, "Debug"), (20, "Info"), (30, "Warning"), (40, "Error"),
    (50, "Critical")] threshold).getD "Notset"

/-- The failure for a name that is no way to write an event. The name `log` would be one, but
it asks for a level besides. -/
def notAManner {τ : Type} (threshold : Nat) (name : String) : Fault τ :=
  if name = "log" then
    .ofText .type ("_make_filtering_bound_logger.<locals>.log() missing 1 required "
      ++ "positional argument: 'event'")
  else
    .ofText .member ("'BoundLoggerFilteringAt" ++ thresholdName threshold
      ++ "' object has no attribute '" ++ name ++ "'")

/-- The failure for a field whose name the call has taken itself. The names of the event and
of the logger are taken at once, and the name of the way when the event is passed on, which
does not come to pass if it is held back. -/
def clash? {τ : Type} (threshold : Nat) (m : Manner) (fields : List (String × Value)) :
    Option (Fault τ) :=
  let held := decide (m.level.weight < threshold)
  let taken (step name : String) : Fault τ :=
    .ofText .type (step ++ "() got multiple values for argument '" ++ name ++ "'")
  let step :=
    if m.asking then "exception"
    else if held then "_nop"
    else "_make_filtering_bound_logger.<locals>.make_method.<locals>.meth"
  match fields.find? fun f => f.1 == "event" || f.1 == "self" with
  | some f => some (taken step f.1)
  | none =>
    if !held && fields.any fun f => f.1 == "method_name" then
      some (taken "BoundLoggerBase._proxy_to_logger" "method_name")
    else none

/-! ### Writing -/

/-- The failure for a value that a terminal cannot show. -/
def unshowable {τ : Type} (v : Value) : Fault τ :=
  .ofText .type ("can only concatenate str (not \"" ++ v.kindName ++ "\") to str")

/-- The lines of an event by a configuration; there are none if it is held back. `time` is
the time as records show it. -/
def linesOf {τ : Type} (j : Journal) (c : JournalConfig) (time : String) (logger : Logger)
    (level : Level) (event : Value) (fields : List (String × Value)) :
    Except (Fault τ) (List Line) :=
  if level.weight < c.threshold then .ok []
  else
    let head := Record.head logger.name? event fields (if c.timed then some time else none)
    let record := head.complete j.bound level j.service
    match c.style with
    | .structured => .ok [.structured record.renamed]
    | .terminal =>
      match record.terminalText with
      | .ok text => .ok ((Text.lines (text ++ "\n")).map .terminal)
      | .error v => .error (unshowable v)

/-- Write an event by a logger. -/
def write {τ : Type} (time : String) (logger : Logger) (level : Level) (event : Value)
    (fields : List (String × Value)) (j : Journal) :
    Except (Fault τ) (List Line) × Journal :=
  (match j.configOf logger with
   | some c => j.linesOf c time logger level event fields
   | none => .ok [],
    j.keep logger)

/-- An event below the threshold of its logger is not written, whatever it holds. -/
theorem write_of_held_back {τ : Type} (j : Journal) (logger : Logger) {c : JournalConfig}
    (h : j.configOf logger = some c) (time : String) {level : Level}
    (low : level.weight < c.threshold) (event : Value) (fields : List (String × Value)) :
    (j.write (τ := τ) time logger level event fields).1 = .ok [] := by
  simp [write, h, linesOf, low]

/-- Call a logger to write an event in the way of a name. -/
def call {τ : Type} (time : String) (logger : Logger) (manner : String) (event : Value)
    (fields : List (String × Value)) (j : Journal) :
    Except (Fault τ) (List Line) × Journal :=
  let threshold := ((j.configOf logger).map JournalConfig.threshold).getD 0
  match Manner.ofName? manner with
  | none => (.error (notAManner threshold manner), j.keep logger)
  | some m =>
    match clash? threshold m fields with
    | some e => (.error e, j.keep logger)
    | none => j.write time logger m.level event (m.complete fields)

/-- Write an event of the library. -/
def report {τ : Type} (time : String) (event : Event Float) (j : Journal) :
    Except (Fault τ) (List Line) × Journal :=
  j.write time (.library event.source) event.level (.text event.name) event.fields

/-- Write events of the library in turn, up to the first that cannot be written. -/
def reportAll {τ : Type} (time : String) :
    List (Event Float) → Journal → List Line × Except (Fault τ) Unit × Journal
  | [], j => ([], .ok (), j)
  | e :: rest, j =>
    match j.report time e with
    | (.error e, j) => ([], .error e, j)
    | (.ok first, j) =>
      let others := reportAll time rest j
      (first ++ others.1, others.2)

/-! ### Variables -/

/-- Bind fields. -/
def bind (fields : List (String × Value)) (j : Journal) : Journal :=
  { j with bound := j.bound.bind fields }

/-- Free keys. -/
def unbind (keys : List String) (j : Journal) : Journal :=
  { j with bound := j.bound.unbind keys }

/-- Free all keys. -/
def clear (j : Journal) : Journal := { j with bound := [] }

/-- Enter a block. -/
def enter (fields : List (String × Value)) (j : Journal) : Journal :=
  { j with
    bound := j.bound.bind fields
    blocks := j.bound.saved fields :: j.blocks }

/-- Leave the innermost block, if there is one. -/
def leave (j : Journal) : Journal :=
  match j.blocks with
  | [] => j
  | s :: rest => { j with bound := j.bound.restore s, blocks := rest }

/-- Entering a block and leaving it at once changes no variable. -/
theorem get?_leave_enter (j : Journal) (fields : List (String × Value)) (k : String) :
    Ledger.get? ((j.enter fields).leave).bound k = Ledger.get? j.bound k := by
  have h : Ledger.get? ((j.enter fields).leave).bound k = _ :=
    Variables.get?_restore (j.bound.bind fields) j.bound fields k
  rw [h]
  split
  · rfl
  · next hk => exact Ledger.get?_putAll_of_not_mem _ _ hk

/-- Enter a block if no field has the name that the block itself goes by. -/
def enterBlock {τ : Type} (fields : List (String × Value)) (j : Journal) :
    Except (Fault τ) Unit × Journal :=
  if fields.any fun f => f.1 == "self" then
    (.error (Misuse.takenArgument "LogContext.__init__" "self").toFault, j)
  else (.ok (), j.enter fields)

/-- Leave the innermost block, which there has to be. -/
def leaveBlock {τ : Type} (j : Journal) : Except (Fault τ) Unit × Journal :=
  if j.blocks.isEmpty then (.error (.ofText .position "pop from empty list"), j)
  else (.ok (), j.leave)

/-- A block that was entered can be left. -/
theorem leaveBlock_enterBlock {τ : Type} (j : Journal) {fields : List (String × Value)}
    (h : (j.enterBlock (τ := τ) fields).1 = .ok ()) :
    ((j.enterBlock (τ := τ) fields).2.leaveBlock (τ := τ)).1 = .ok () := by
  unfold enterBlock at h ⊢
  split at h
  · cases h
  · next hs => simp [hs, leaveBlock, enter]

end Journal

end Settle
