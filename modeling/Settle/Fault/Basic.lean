import Settle.Fault.Context
import Settle.Quantity

/-!
# Faults

A fault is what a failed operation raises. A *structured* fault belongs to the library: it
has a kind, a message, a context, and possibly the fault that caused it. A *remote* fault is
the error shape of the remote service; a *plain* one is any other failure. Remote and plain
faults carry no classification of their own; the layer that sees them first gives them one
with `Fault.wrap`, after which every layer passes the classification on unchanged.

Faults are values, and yet it matters whether a layer passes on the very fault it got. The
`serial` says which raised fault this is, where the raiser numbers them; carrying a fault
along or filling in its context keeps its serial, and `wrap` gives the new fault a serial
only if it makes one.

Main statements: `fill` changes nothing but the context (`kind_fill`, `message_fill`,
`cause_fill`, `serial_fill`), and `wrap` of a structured fault only fills in
(`wrap_structured`).
-/

namespace Settle

/-! ### Classification -/

/-- What a fault means for retrying: try again in time, absent, or give up at once. -/
inductive ErrorClass where
  | transient
  | notFound
  | fatal
  deriving DecidableEq, Repr

/-- The name of a classification in records. -/
def ErrorClass.name : ErrorClass → String
  | transient => "TRANSIENT"
  | notFound => "NOT_FOUND"
  | fatal => "FATAL"

/-- All classifications. -/
def ErrorClass.all : List ErrorClass := [transient, notFound, fatal]

/-- The classification of a name. -/
def ErrorClass.ofName? (s : String) : Option ErrorClass := all.find? fun c => c.name == s

theorem ErrorClass.ofName?_name (c : ErrorClass) : ofName? c.name = some c := by
  cases c <;> decide

/-! ### Kinds of faults -/

/-- The kinds of structured faults, with what each knows beyond its message. -/
inductive Kind (τ : Type) where
  | general
  | transient
  | notFound
  | fatal
  | contractViolation
  | emptyResponse
  | cardinality (what count : Value)
  | malformedIdentifier (identifier : Value)
  | taskFailed (handle statusCode : Value)
  | deadlineExceeded (operation : Value) (deadline elapsed : τ) (attempts lastReason : Value)

namespace Kind

variable {τ : Type}

/-- The classification that comes with a kind. A deadline that passed has none, for it says
nothing about the remote failure. -/
def errorClass : Kind τ → Option ErrorClass
  | general => none
  | transient => some .transient
  | notFound => some .notFound
  | fatal => some .fatal
  | contractViolation => some .fatal
  | emptyResponse => some .fatal
  | cardinality _ _ => some .fatal
  | malformedIdentifier _ => some .fatal
  | taskFailed _ _ => some .fatal
  | deadlineExceeded _ _ _ _ _ => none

/-- The name of a kind in records. -/
def name : Kind τ → String
  | general => "ConvergeError"
  | transient => "TransientError"
  | notFound => "NotFoundError"
  | fatal => "FatalError"
  | contractViolation => "ContractViolationError"
  | emptyResponse => "EmptyResponseError"
  | cardinality _ _ => "CardinalityError"
  | malformedIdentifier _ => "MalformedIdentifierError"
  | taskFailed _ _ => "TaskFailedError"
  | deadlineExceeded _ _ _ _ _ => "DeadlineExceededError"

/-- The names of a kind and of all kinds it is a case of, the most general first. -/
def lineage (k : Kind τ) : List String :=
  match k with
  | general => ["ConvergeError"]
  | transient | notFound | fatal | deadlineExceeded _ _ _ _ _ => ["ConvergeError", k.name]
  | contractViolation | malformedIdentifier _ | taskFailed _ _ =>
    ["ConvergeError", "FatalError", k.name]
  | emptyResponse | cardinality _ _ =>
    ["ConvergeError", "FatalError", "ContractViolationError", k.name]

/-- The kind that a wrapped fault of a class gets. -/
def ofClass : ErrorClass → Kind τ
  | .transient => transient
  | .notFound => notFound
  | .fatal => fatal

/-- The kind of a name, among those that know nothing beyond their message. -/
def simple? (s : String) : Option (Kind τ) :=
  [general, transient, notFound, fatal, contractViolation].find? fun k => k.name == s

@[simp] theorem errorClass_ofClass (c : ErrorClass) :
    (ofClass c : Kind τ).errorClass = some c := by
  cases c <;> rfl

end Kind

/-- The kinds of plain failures. -/
inductive PlainKind where
  | value
  | runtime
  | connection
  | timeout
  | system
  | key
  | type
  | member
  | division
  | overflow
  | position
  | memory
  | encoding
  | general
  deriving DecidableEq, Repr

/-- The name of a plain failure in records. -/
def PlainKind.name : PlainKind → String
  | value => "ValueError"
  | runtime => "RuntimeError"
  | connection => "ConnectionError"
  | timeout => "TimeoutError"
  | system => "OSError"
  | key => "KeyError"
  | type => "TypeError"
  | member => "AttributeError"
  | division => "ZeroDivisionError"
  | overflow => "OverflowError"
  | position => "IndexError"
  | memory => "MemoryError"
  | encoding => "UnicodeEncodeError"
  | general => "Exception"

/-- The kind of plain failure of a name. -/
def PlainKind.ofName? (s : String) : Option PlainKind :=
  [value, runtime, connection, timeout, system, key, type, member, division, overflow, position,
    memory, encoding, general].find? fun k => k.name == s

/-! ### The type -/

/-- A fault. The `cause` of a structured fault is kept for the search for the root of a
failure; `origin` is the fault while whose handling this one was raised. -/
inductive Fault (τ : Type) where
  | plain (serial : Option Nat) (kind : PlainKind) (message : Option Value)
  | remote (serial : Option Nat) (code message requestId : Value)
  | structured (serial : Option Nat) (kind : Kind τ) (message : Value) (context : Context)
      (cause origin : Option (Fault τ))

/-- The last thing a polling loop saw before it waited: a reason to wait, which is null if none
was given, or a fault. -/
inductive Condition (τ : Type) where
  | reason (reason : Value)
  | fault (fault : Fault τ)

namespace Fault

variable {τ : Type}

/-- Which raised fault this is, where the raiser numbers them. -/
def serial : Fault τ → Option Nat
  | plain s _ _ => s
  | remote s _ _ _ => s
  | structured s _ _ _ _ _ => s

/-- Does the fault belong to the library? -/
def isStructured : Fault τ → Bool
  | structured _ _ _ _ _ _ => true
  | _ => false

/-- The kind of a structured fault. -/
def kind? : Fault τ → Option (Kind τ)
  | structured _ k _ _ _ _ => some k
  | _ => none

/-- The message of a structured fault, which is a text unless another was asked for. -/
def message? : Fault τ → Option Value
  | structured _ _ m _ _ _ => some m
  | _ => none

/-- The context of a structured fault. -/
def context? : Fault τ → Option Context
  | structured _ _ _ c _ _ => some c
  | _ => none

/-- The fault that caused this one. -/
def cause? : Fault τ → Option (Fault τ)
  | structured _ _ _ _ c _ => c
  | _ => none

/-- The fault while whose handling this one was raised. -/
def origin? : Fault τ → Option (Fault τ)
  | structured _ _ _ _ _ o => o
  | _ => none

/-- The classification that a fault carries, if it carries one. -/
def errorClass (e : Fault τ) : Option ErrorClass := e.kind?.bind Kind.errorClass

/-- May the fault clear up by itself? -/
def isRetryable (e : Fault τ) : Bool := e.errorClass == some .transient

/-- Is it a structured fault of class fatal? -/
def isFatal (e : Fault τ) : Bool := e.errorClass == some .fatal

/-- The trace id that a remote fault brings along. -/
def requestId : Fault τ → Value
  | remote _ _ _ r => r
  | _ => .null

/-! ### Text -/

/-- The name of a fault in records. -/
def typeName : Fault τ → String
  | plain _ k _ => k.name
  | remote _ _ _ _ => "RemoteServiceError"
  | structured _ k _ _ _ _ => k.name

/-- The message of a plain failure; that of a missing key is quoted. -/
def plainText (k : PlainKind) (message : Option Value) : String :=
  match k, message with
  | _, none => ""
  | .key, some m => m.written
  | _, some m => m.shown

/-- The text of a remote fault: its code, its message if there is one, and its trace id if
there is one. -/
def remoteText (code message requestId : Value) : String :=
  "[" ++ code.shown ++ "]" ++ (if message.isTruthy then " " ++ message.shown else "")
    ++ (if requestId.isTruthy then " (request_id=" ++ requestId.shown ++ ")" else "")

/-- A message followed by the action and the trace id of its context. -/
def withOrigin (message : String) (c : Context) : String :=
  let action := if c.action.isTruthy then ["action=" ++ c.action.shown] else []
  let request := if c.requestId.isTruthy then ["request_id=" ++ c.requestId.shown] else []
  match action ++ request with
  | [] => message
  | parts => message ++ " [" ++ Value.commaJoin parts ++ "]"

/-- The text of a fault. -/
def text : Fault τ → String
  | plain _ k m => plainText k m
  | remote _ code m r => remoteText code m r
  | structured _ _ m c _ _ => withOrigin m.shown c

/-- A fault as the word for its kind and its quoted message. -/
def display : Fault τ → String
  | structured _ k m _ _ _ => k.name ++ "(" ++ m.written ++ ")"
  | e => e.text

/-- The record of a structured fault. -/
def toLedger : Fault τ → Ledger String Value
  | structured _ k m c cause _ =>
    let context := c.toLedger
    [("error_type", .text k.name), ("message", m),
     ("error_class", .ofOption (k.errorClass.map ErrorClass.name)),
     ("retryable", .bool (k.errorClass == some .transient))]
      ++ (if context.isEmpty then [] else [("context", .record context)])
      ++ (match cause with
          | some e => [("cause", .text (e.typeName ++ ": " ++ e.text))]
          | none => [])
  | _ => []

/-! ### Filling in and wrapping -/

/-- Fill in the context of a structured fault. -/
def fill (e : Fault τ) (entries : List (String × Value)) : Fault τ :=
  match e with
  | structured s k m c cause origin => structured s k m (c.fillAll entries) cause origin
  | e => e

@[simp] theorem serial_fill (e : Fault τ) (es : List (String × Value)) :
    (e.fill es).serial = e.serial := by cases e <;> rfl

@[simp] theorem kind_fill (e : Fault τ) (es : List (String × Value)) :
    (e.fill es).kind? = e.kind? := by cases e <;> rfl

@[simp] theorem message_fill (e : Fault τ) (es : List (String × Value)) :
    (e.fill es).message? = e.message? := by cases e <;> rfl

@[simp] theorem cause_fill (e : Fault τ) (es : List (String × Value)) :
    (e.fill es).cause? = e.cause? := by cases e <;> rfl

@[simp] theorem context_fill (e : Fault τ) (es : List (String × Value)) :
    (e.fill es).context? = e.context?.map fun c => c.fillAll es := by cases e <;> rfl

@[simp] theorem errorClass_fill (e : Fault τ) (es : List (String × Value)) :
    (e.fill es).errorClass = e.errorClass := by simp [errorClass]

/-- Classify a fault. A structured fault keeps what it is and only has its context filled
in; any other becomes the cause of a new structured fault of the class, with the given
serial. -/
def wrap (serial : Option Nat) (e : Fault τ) (c : ErrorClass)
    (entries : List (String × Value)) : Fault τ :=
  match e with
  | structured _ _ _ _ _ _ => e.fill entries
  | _ =>
    let message := if e.text.isEmpty then e.typeName else e.text
    (structured serial (.ofClass c) (.text message) {} (some e) (some e)).fill entries

theorem wrap_structured (s : Option Nat) (e : Fault τ) (c : ErrorClass)
    (es : List (String × Value)) (h : e.isStructured = true) : e.wrap s c es = e.fill es := by
  cases e <;> simp_all [isStructured, wrap]

/-- A fault that was not structured is wrapped with itself as cause, in the class given. -/
theorem wrap_of_not_structured (s : Option Nat) (e : Fault τ) (c : ErrorClass)
    (es : List (String × Value)) (h : e.isStructured = false) :
    (e.wrap s c es).cause? = some e ∧ (e.wrap s c es).errorClass = some c := by
  cases e <;> simp_all [isStructured, wrap, errorClass] <;> simp [cause?, kind?]

/-! ### Building faults -/

/-- A plain failure with a message. -/
def ofText (k : PlainKind) (message : String) : Fault τ := plain none k (some (.text message))

/-- A structured fault without particulars. -/
def simple (k : Kind τ) (message : String) (c : Context) : Fault τ :=
  structured none k (.text message) c none none

/-- A call reported success but returned nothing. An empty message counts as none. -/
def emptyResponse (action : Value) (message : String) : Fault τ :=
  let default := "remote service returned an empty response for " ++ action.shown
  simple .emptyResponse (if message.isEmpty then default else message) { action }

/-- The message for a number of results other than one. -/
def cardinalityMessage (what count : Value) : String :=
  "expected exactly one " ++ what.shown ++ ", got "
    ++ (if count.same (.int 0) then "none" else count.shown)

/-- None or several results where exactly one was expected. -/
def cardinality (what count action : Value) : Fault τ :=
  simple (.cardinality what count) (cardinalityMessage what count) { action }

/-- An identifier that cannot be built or taken apart; null if it is not known. -/
def malformedIdentifier (message : String) (identifier : Value) : Fault τ :=
  simple (.malformedIdentifier identifier) message { resourceId := identifier }

/-- A task ended in a failed status. -/
def taskFailed (handle statusCode action requestId : Value) : Fault τ :=
  simple (.taskFailed handle statusCode)
    ("task " ++ handle.shown ++ " finished with failed status " ++ statusCode.shown)
    { action, requestId, handle, statusCode }

end Fault

namespace Condition

variable {τ : Type}

/-- The text of a condition. -/
def text : Condition τ → String
  | reason v => v.shown
  | fault e => e.text

/-- The fault of a condition. -/
def fault? : Condition τ → Option (Fault τ)
  | reason _ => none
  | fault e => some e

/-- The reason of a condition that is no fault, else null. -/
def reasonOrNull : Condition τ → Value
  | reason v => v
  | fault _ => .null

/-- Does the condition say anything? A reason that is null does not. -/
def isTelling : Condition τ → Bool
  | reason v => !v.isNull
  | fault _ => true

end Condition

/-- A deadline passed while only transient conditions were seen; `last` is the last of
them. -/
def Fault.deadlineExceeded {τ : Type} [Quantity τ] (operation : Value) (deadline elapsed : τ)
    (attempts : Value) (last : Condition τ) (context : Context) : Fault τ :=
  let message := "'" ++ operation.shown ++ "' did not converge within " ++ Quantity.text deadline
    ++ "s after " ++ attempts.shown ++ " attempts"
    ++ (if last.isTelling then "; last condition: " ++ last.text else "")
  .structured none (.deadlineExceeded operation deadline elapsed attempts last.reasonOrNull)
    (.text message) context last.fault? last.fault?

end Settle
