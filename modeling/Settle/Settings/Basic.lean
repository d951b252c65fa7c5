import Settle.Gateway.CodeClassifier
import Settle.Limiter

/-!
# Settings

The settings of one process: limits, polling windows, page size, delimiter, codes and
logging. `Settings.complaint?` names the first rule that settings break, in the order of the
rules; settings are valid if there is none. Limiter, classifier and profiles are made from
settings here.

Main statement: `isValid_iff` spells the rules out.
-/

namespace Settle

/-- The settings of one process. -/
structure Settings (τ : Type) where
  defaultRate : τ
  defaultBurst : τ
  actionLimits : Ledger String τ
  rateLimitMaxWait : τ
  shortReadInterval : τ
  shortReadDeadline : τ
  longConvergeInterval : τ
  longConvergeDeadline : τ
  defaultPageSize : Int
  idDelimiter : String
  transientErrorCodes : List String
  notFoundErrorPrefixes : List String
  logLevel : String
  logFormat : String
  serviceName : String

/-- A rule that settings break. -/
inductive Complaint (τ : Type) where
  | notPositive (name : String) (value : τ)
  | pageSizeBelowOne (size : Int)
  | shortAboveLong
  | emptyDelimiter
  | unknownFormat (format : String)

/-- The wording of a complaint. -/
def Complaint.message {τ : Type} [Quantity τ] : Complaint τ → String
  | notPositive name v => name ++ " must be positive, got " ++ Quantity.text v
  | pageSizeBelowOne n => "default_page_size must be >= 1, got " ++ toString n
  | shortAboveLong => "short_read_deadline must not exceed long_converge_deadline"
  | emptyDelimiter => "id_delimiter must not be empty"
  | unknownFormat f => "log_format must be 'json' or 'console', got " ++ Text.quote f

namespace Settings

variable {τ : Type} [Quantity τ]

/-- The settings of a process that was told nothing. -/
def standard : Settings τ :=
  { defaultRate := Quantity.ofInt 20
    defaultBurst := Quantity.ofInt 20
    actionLimits := []
    rateLimitMaxWait := Quantity.ofInt 10
    shortReadInterval := Quantity.ofInt 5
    shortReadDeadline := Quantity.ofInt 180
    longConvergeInterval := Quantity.ofInt 10
    longConvergeDeadline := Quantity.ofInt 1200
    defaultPageSize := 20
    idDelimiter := "#"
    transientErrorCodes := CodeClassifier.defaultTransientCodes
    notFoundErrorPrefixes := CodeClassifier.defaultNotFoundPrefixes
    logLevel := "INFO"
    logFormat := "json"
    serviceName := "converge" }

/-! ### Rules -/

/-- The times that have to be positive, in the order in which they are checked. -/
def positives (s : Settings τ) : List (String × τ) :=
  [("short_read_interval", s.shortReadInterval),
   ("short_read_deadline", s.shortReadDeadline),
   ("long_converge_interval", s.longConvergeInterval),
   ("long_converge_deadline", s.longConvergeDeadline),
   ("rate_limit_max_wait", s.rateLimitMaxWait)]

/-- The first rule that the settings break. -/
def complaint? (s : Settings τ) : Option (Complaint τ) :=
  match s.positives.find? fun p => decide (p.2 ≤ Quantity.zero) with
  | some (name, v) => some (.notPositive name v)
  | none =>
    if s.defaultPageSize < 1 then some (.pageSizeBelowOne s.defaultPageSize)
    else if s.longConvergeDeadline < s.shortReadDeadline then some .shortAboveLong
    else if s.idDelimiter.isEmpty then some .emptyDelimiter
    else if s.logFormat = "json" ∨ s.logFormat = "console" then none
    else some (.unknownFormat s.logFormat)

/-- Settings that break no rule. -/
def IsValid (s : Settings τ) : Prop := s.complaint? = none

/-- The rules, spelled out. -/
theorem isValid_iff (s : Settings τ) :
    s.IsValid ↔
      (∀ p ∈ s.positives, ¬ p.2 ≤ Quantity.zero) ∧ 1 ≤ s.defaultPageSize ∧
        ¬ s.longConvergeDeadline < s.shortReadDeadline ∧ s.idDelimiter.isEmpty = false ∧
        (s.logFormat = "json" ∨ s.logFormat = "console") := by
  unfold IsValid complaint?
  cases h : s.positives.find? fun p => decide (p.2 ≤ Quantity.zero) with
  | some p =>
    obtain ⟨name, v⟩ := p
    have hm := List.mem_of_find?_eq_some h
    have hp : v ≤ Quantity.zero := by simpa using List.find?_some h
    simp only [reduceCtorEq, false_iff, not_and]
    intro hall
    exact absurd hp (hall _ hm)
  | none =>
    have hall : ∀ p ∈ s.positives, ¬ p.2 ≤ Quantity.zero := by
      simpa using List.find?_eq_none.1 h
    rw [and_iff_right hall]
    simp only
    by_cases h1 : s.defaultPageSize < 1
    · have h1' : ¬ 1 ≤ s.defaultPageSize := by omega
      simp [h1, h1']
    · have h1' : 1 ≤ s.defaultPageSize := by omega
      by_cases h2 : s.longConvergeDeadline < s.shortReadDeadline
      · simp [h1, h2]
      · by_cases h3 : s.idDelimiter.isEmpty = true
        · simp [h1, h2, h3]
        · by_cases h4 : s.logFormat = "json" ∨ s.logFormat = "console"
          · simp [h1, h1', h2, h3, h4]
          · simp [h1, h1', h2, h3, h4]

/-! ### What is made from settings -/

/-- The rate of an action. -/
def rateFor (s : Settings τ) (action : String) : τ :=
  (s.actionLimits.get? action).getD s.defaultRate

/-- The rate under a name as it was written. What is no text names no limited action, and lists
and records are not looked up at all. -/
def rateUnder (s : Settings τ) (name : Value) : Except Misuse τ :=
  match name with
  | .text action => .ok (s.rateFor action)
  | v => if v.isScalar then .ok s.defaultRate else .error (.unhashable v.kindName)

omit [Quantity τ] in
/-- A text names an action. -/
theorem rateUnder_text (s : Settings τ) (action : String) :
    s.rateUnder (.text action) = .ok (s.rateFor action) := rfl

/-- The limiter of the settings. -/
def limiter (s : Settings τ) (number : Nat) : Limiter τ :=
  { number
    defaultRate := s.defaultRate
    defaultBurst := s.defaultBurst
    rates := s.actionLimits
    maxWait := s.rateLimitMaxWait }

omit [Quantity τ] in
/-- The limiter of the settings allows every action the rate that the settings say. -/
theorem rateOf_limiter (s : Settings τ) (n : Nat) (action : String) :
    (s.limiter n).rateOf action = s.rateFor action := rfl

/-- The code classifier of the settings. -/
def classifier (s : Settings τ) : CodeClassifier τ :=
  ⟨s.transientErrorCodes, s.notFoundErrorPrefixes, Classifier.allFatal⟩

/-- The two named profiles of the settings. -/
def profiles? (s : Settings τ) : Except (Fault τ) (Ledger String (Profile τ)) := do
  let short ← Profile.create? (.text "short_read") s.shortReadInterval s.shortReadDeadline
  let long ← Profile.create? (.text "long_converge") s.longConvergeInterval s.longConvergeDeadline
  pure [("short_read", short), ("long_converge", long)]

/-- Look a profile up by name, among those of the settings if there are settings. -/
def profileFor? (settings : Option (Settings τ)) (name : Value) :
    Except (Fault τ) (Profile τ) :=
  match settings with
  | some s => do Profile.find? (← s.profiles?) name
  | none => Profile.find? Profile.presets name

end Settings

end Settle
