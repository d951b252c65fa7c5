import Settle.Decimal.Numeral
import Settle.Settings.Basic
import Settle.Text.Code

/-!
# Settings from free values

Settings come as free values under the names of the fields. Each field accepts what can be
read as its type without loss: a number may come as a numeral, a whole number as a float
without a fraction, a truth value as one or zero. What cannot be read is an `Issue` with the
place where it stands; all issues are reported together, in the order of the fields. Only
settings without issues are checked against the rules.

Main statement: `Reading.apply_eq_good_iff`: two parts are read together iff each is read.
-/

namespace Settle

/-- A step on the way to a value inside a setting. -/
inductive PlaceStep where
  | name (s : String)
  | index (n : Nat)
  deriving DecidableEq, Repr

/-- Something that cannot be accepted: the kind of the trouble, where it is, and its
wording. -/
structure Issue where
  kind : String
  place : List PlaceStep
  message : String
  deriving DecidableEq, Repr

/-- Why settings could not be loaded. -/
inductive LoadFailure where
  | invalid (issues : List Issue)
  | unreadable (field source : String)
  deriving DecidableEq, Repr

/-- The wording of a failure to load. -/
def LoadFailure.message : LoadFailure → String
  | invalid issues => "\n".intercalate (issues.map Issue.message)
  | unreadable field source =>
    "error parsing value for field \"" ++ field ++ "\" from source \"" ++ source ++ "\""

namespace Coercion

-- the powers below are those of core, whatever else is in scope
attribute [local instance (high)] instPowNat

/-- The result of reading a value: the value read, or all issues. -/
inductive Reading (α : Type) where
  | good (value : α)
  | bad (issues : List Issue)

namespace Reading

variable {α β : Type}

/-- Apply a function that was read to an argument that was read; issues of both are kept. -/
def apply (f : Reading (α → β)) (a : Reading α) : Reading β :=
  match f, a with
  | good f, good a => good (f a)
  | good _, bad later => bad later
  | bad first, good _ => bad first
  | bad first, bad later => bad (first ++ later)

instance : Applicative Reading where
  pure := good
  seq f a := f.apply (a ())

theorem apply_eq_good_iff {f : Reading (α → β)} {a : Reading α} {b : β} :
    f.apply a = good b ↔ ∃ g x, f = good g ∧ a = good x ∧ g x = b := by
  cases f <;> cases a <;> simp [apply]

/-- Read a list whose members are read in turn. -/
def all : List (Reading α) → Reading (List α)
  | [] => good []
  | r :: rs => (List.cons <$> r) <*> all rs

end Reading

/-- One issue. -/
def refuse {α : Type} (kind message : String) (place : List PlaceStep) : Reading α :=
  .bad [⟨kind, place, message⟩]

/-- The refusal of a text in which a number is sought and that holds lone surrogates. -/
def notText {α : Type} (place : List PlaceStep) : Reading α :=
  refuse "string_unicode"
    "Input should be a valid string, unable to parse raw data as a unicode string" place

/-- Does a text hold lone surrogates? -/
def isBroken (s : String) : Bool := (Text.codes s).any Text.isSurrogate

/-- Read a text as a float: without the blanks around it or, where that fails, without
single underscores, which then may have no blanks around them. -/
def floatOfText? (s : String) : Option Float :=
  let cs := s.toList
  match Decimal.readFloat? (Text.trimBy Text.isSpace cs) with
  | some x => some x
  | none =>
    if cs.contains '_' then (Decimal.dropUnderscores? cs).bind Decimal.readFloat? else none

/-- Read a number. -/
def float (place : List PlaceStep) : Value → Reading Float
  | .float x => .good x
  | .bool b => .good (if b then 1.0 else 0.0)
  | .int n =>
    let x := Float.ofInt n
    if x.isFinite then .good x
    else refuse "float_type" "Input should be a valid number" place
  | .text s =>
    match floatOfText? s with
    | some x => .good x
    | none =>
      if isBroken s then notText place
      else refuse "float_parsing"
        "Input should be a valid number, unable to parse string as a number" place
  | _ => refuse "float_type" "Input should be a valid number" place

/-- The refusal of a whole number that is too large. -/
def tooLarge {α : Type} (place : List PlaceStep) : Reading α :=
  refuse "int_parsing_size"
    "Unable to parse input string as an integer, exceeded maximum size" place

/-- Read a float as a whole number of sixty-four bits. -/
def wholeOfFloat (place : List PlaceStep) (x : Float) : Reading Int :=
  match Decimal.Parts.ofFloat x with
  | .notANumber | .infinite _ =>
    refuse "finite_number" "Input should be a finite number" place
  | .finite negative m e =>
    let denominator := 2 ^ (-e).toNat
    if m % denominator ≠ 0 then
      refuse "int_from_float"
        "Input should be a valid integer, got a number with a fractional part" place
    else
      let n : Int := (m / denominator * 2 ^ e.toNat : Nat)
      if n < 2 ^ (63 : Nat) then .good (if negative then -n else n) else tooLarge place

/-- Read a whole number. -/
def whole (place : List PlaceStep) : Value → Reading Int
  | .int n => .good n
  | .bool b => .good (if b then 1 else 0)
  | .float x => wholeOfFloat place x
  | .text s =>
    match Decimal.readWhole s.toList with
    | .ok n => .good n
    | .error .tooLong => tooLarge place
    | .error .malformed =>
      if isBroken s then notText place
      else refuse "int_parsing"
        "Input should be a valid integer, unable to parse string as an integer" place
  | _ => refuse "int_type" "Input should be a valid integer" place

/-- Read a text. -/
def text (place : List PlaceStep) : Value → Reading String
  | .text s => .good s
  | _ => refuse "string_type" "Input should be a valid string" place

/-- Read a list of texts. -/
def texts (place : List PlaceStep) : Value → Reading (List String)
  | .list items => .all (items.zipIdx.map fun (v, i) => text (place ++ [.index i]) v)
  | _ => refuse "list_type" "Input should be a valid list" place

/-- Read a record of numbers. -/
def floats (place : List PlaceStep) : Value → Reading (Ledger String Float)
  | .record fields =>
    .all (fields.map fun (name, v) => Prod.mk name <$> float (place ++ [.name name]) v)
  | _ => refuse "dict_type" "Input should be a valid dictionary" place

/-- A field: its value if there is one, else its default. -/
def field {α : Type} (given : Ledger String Value) (name : String) (default : α)
    (read : List PlaceStep → Value → Reading α) : Reading α :=
  match given.get? name with
  | some v => read [.name name] v
  | none => .good default

/-- Read all fields, in the order of the settings. -/
def fields (given : Ledger String Value) : Reading (Settings Float) :=
  let d : Settings Float := .standard
  Settings.mk
    <$> field given "default_rate" d.defaultRate float
    <*> field given "default_burst" d.defaultBurst float
    <*> field given "action_limits" d.actionLimits floats
    <*> field given "rate_limit_max_wait" d.rateLimitMaxWait float
    <*> field given "short_read_interval" d.shortReadInterval float
    <*> field given "short_read_deadline" d.shortReadDeadline float
    <*> field given "long_converge_interval" d.longConvergeInterval float
    <*> field given "long_converge_deadline" d.longConvergeDeadline float
    <*> field given "default_page_size" d.defaultPageSize whole
    <*> field given "id_delimiter" d.idDelimiter text
    <*> field given "transient_error_codes" d.transientErrorCodes texts
    <*> field given "not_found_error_prefixes" d.notFoundErrorPrefixes texts
    <*> field given "log_level" d.logLevel text
    <*> field given "log_format" d.logFormat text
    <*> field given "service_name" d.serviceName text

end Coercion

/-- The issue that a broken rule makes. -/
def Complaint.issue {τ : Type} [Quantity τ] (c : Complaint τ) : Issue :=
  ⟨"value_error", [], "Value error, " ++ c.message⟩

/-- Settings from free values: all fields are read, then the rules are checked. -/
def Settings.ofValues? (given : Ledger String Value) :
    Except LoadFailure (Settings Float) :=
  match Coercion.fields given with
  | .bad issues => .error (.invalid issues)
  | .good s =>
    match s.complaint? with
    | some c => .error (.invalid [c.issue])
    | none => .ok s

end Settle
