import Settle.Json.Reading
import Settle.Settings.Coercion
import Settle.Settings.EnvFile
import Settle.Text.LetterCase

/-!
# Loading settings

Settings are gathered from three sources: arguments, the environment, and an environment
file, where an earlier source goes before a later one; records under one name are merged
entry by entry, and the earlier sources are put together first. An argument names its field
in whatever letter case, and so does a variable after the common stem. Variables of fields
that are lists or records hold JSON text, and a variable with the name of such a field, two
underscores and a path sets a single entry, as plain text.

Main statement: `merge_of_not_record` says that only records are merged.
-/

namespace Settle

namespace Value

mutual

/-- Put a value over another: records are merged entry by entry, anything else replaces. -/
def merge (base : Value) (top : Value) : Value :=
  match top with
  | record entries =>
    match base with
    | record fs => record (mergeEntries fs entries)
    | _ => record entries
  | v => v

/-- Put entries over those of a ledger. -/
def mergeEntries (base : Ledger String Value) (top : List (String × Value)) :
    Ledger String Value :=
  match top with
  | [] => base
  | e :: rest => mergeEntries (mergeEntry base e) rest

/-- Put one entry over those of a ledger. -/
def mergeEntry (base : Ledger String Value) (entry : String × Value) :
    Ledger String Value :=
  match entry with
  | (name, v) =>
    match base.get? name with
    | some old => base.put name (merge old v)
    | none => base.put name v

end

/-- Anything but a record replaces what it is put over. -/
theorem merge_of_not_record (base top : Value) (h : ∀ fs, top ≠ record fs) :
    merge base top = top := by
  cases top <;> simp_all [merge]

/-- Enter a value at the end of a path of records. A value on the way that is no record
stays, and hides the rest of the path. -/
def enterAt (path : List String) (last : String) (v : Value) (under : Value) : Value :=
  match under with
  | record fs =>
    match path with
    | [] => record (Ledger.put fs last v)
    | name :: path =>
      record (Ledger.put fs name (enterAt path last v ((Ledger.get? fs name).getD (record []))))
  | other => other
termination_by path

end Value

namespace Loading

/-! ### Variables -/

/-- What the variable of a field holds: a plain text or JSON text. -/
inductive Form where
  | plain
  | json
  deriving DecidableEq, Repr

/-- The fields of the settings and what their variables hold. -/
def forms : List (String × Form) :=
  [("default_rate", .plain), ("default_burst", .plain), ("action_limits", .json),
   ("rate_limit_max_wait", .plain), ("short_read_interval", .plain),
   ("short_read_deadline", .plain), ("long_converge_interval", .plain),
   ("long_converge_deadline", .plain), ("default_page_size", .plain),
   ("id_delimiter", .plain), ("transient_error_codes", .json),
   ("not_found_error_prefixes", .json), ("log_level", .plain), ("log_format", .plain),
   ("service_name", .plain)]

/-- What the names of all variables begin with, in small letters. -/
def stem : String := "converge_"

/-- A source of variables, with their names in small letters. -/
structure Source where
  name : String
  held : Ledger String (Option String)

/-- A source from variables in any letter case; of two that differ in case only the later
counts. -/
def Source.ofVariables (name : String) (given : List (String × Option String)) : Source :=
  { name
    held := Ledger.putAll [] (given.map fun v => (Text.lower v.1, v.2)) }

/-- The path in the name of a variable after a beginning, in steps between two
underscores. -/
def pathAfter? (beginning named : String) : Option (List String) :=
  let b := beginning.toList
  let v := named.toList
  if b.isPrefixOf v then some ((String.ofList (v.drop b.length)).splitOn "__") else none

/-- The record of the single entries that a source sets for a field. -/
def entries (source : Source) (field : String) : Value :=
  source.held.foldl
    (fun record named =>
      match pathAfter? (stem ++ field ++ "__") named.1 with
      | none => record
      | some path =>
        Value.enterAt path.dropLast (path.getLast?.getD "") (.ofOption named.2) record)
    (.record [])

/-- The value that a source gives a field, if it gives one. -/
def fieldValue (source : Source) (field : String) (form : Form) :
    Except LoadFailure (Option Value) :=
  match form, ((source.held.get? (stem ++ field)).join) with
  | .plain, text => .ok (text.map .text)
  | .json, none =>
    let record := entries source field
    .ok (if record.isTruthy then some record else none)
  | .json, some text =>
    match Json.read? text with
    | none => .error (.unreadable field source.name)
    | some .null => .ok none
    | some (.record fs) => .ok (some ((Value.record fs).merge (entries source field)))
    | some v => .ok (some v)

/-- All values that a source gives. -/
def sourceValues (source : Source) :
    List (String × Form) → Except LoadFailure (Ledger String Value)
  | [] => .ok []
  | (field, form) :: rest => do
    let value ← fieldValue source field form
    let values ← sourceValues source rest
    pure (match value with
      | some v => (field, v) :: values
      | none => values)

end Loading

/-- Where settings come from. Arguments may be named in any letter case. -/
structure SettingsSources where
  arguments : Ledger String Value := []
  environment : List (String × String) := []
  file : Option String := none

namespace SettingsSources

/-- The arguments under the names of the fields. Of several spellings of one name the first
counts; what names no field is passed over. -/
def named (arguments : Ledger String Value) : Ledger String Value :=
  Loading.forms.filterMap fun form =>
    (arguments.find? fun a => Text.lower a.1 == form.1).map fun a => (form.1, a.2)

/-- The values that the sources give, with earlier sources put over later ones. -/
def gather? (s : SettingsSources) : Except LoadFailure (Ledger String Value) := do
  let environment := Loading.Source.ofVariables "EnvSettingsSource"
    (s.environment.map fun v => (v.1, some v.2))
  let file := Loading.Source.ofVariables "DotEnvSettingsSource"
    (match s.file with
     | some text => EnvFile.read s.environment text
     | none => [])
  let fromEnvironment ← Loading.sourceValues environment Loading.forms
  let fromFile ← Loading.sourceValues file Loading.forms
  pure (Value.mergeEntries fromFile (Value.mergeEntries fromEnvironment (named s.arguments)))

/-- Load settings. -/
def load (s : SettingsSources) : Except LoadFailure (Settings Float) := do
  Settings.ofValues? (← s.gather?)

end SettingsSources

end Settle
