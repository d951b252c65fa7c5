import Settle.Bucket
import Settle.Identifier.Codec
import Settle.Listing.Page
import Settle.Settings.Coercion
import Settle.Task.Submission
import Settle.Value.Number

/-!
# Records of components

Every component has a record form, in which its parts stand under their names. Times and
rates are floats there. Settings can be asked for one part by its name, and a list among them
can be added to.
-/

namespace Settle

/-- A ledger of rates as a record. -/
def Value.ofRates (rates : Ledger String Float) : Value :=
  .record (rates.map fun r => (r.1, .float r.2))

/-- The record of a profile. -/
def Profile.toValue (p : Profile Float) : Value :=
  .record
    [("name", p.name), ("interval", .float p.interval), ("deadline", .float p.deadline)]

/-- The record of a page. -/
def Page.toValue (p : Page Value) : Value :=
  .record
    [("items", .list p.items), ("limit", p.limit), ("offset", p.offset),
     ("has_more", .bool p.hasMore), ("len", .int p.size)]

/-- The record of a page whose limit and offset come as values. The limit has to be one that a
count can be compared with. -/
def Page.recordOf? (items : List Value) (limit offset : Value) : Except Misuse Value := do
  let full ← (Value.int items.length).atLeast limit
  pure (.record
    [("items", .list items), ("limit", limit), ("offset", offset), ("has_more", .bool full),
     ("len", .int items.length)])

/-- The record of an entry of an order. -/
def DealEntry.toValue (d : DealEntry) : Value :=
  .record [("resource_ids", .list d.resourceIds), ("handle", d.handle)]

/-- The record of a submission. -/
def Submission.toValue (s : Submission) : Value :=
  .record
    [("resource_id", s.resourceId), ("handle", s.handle), ("order_ref", s.orderRef),
     ("action", s.action), ("requires_resolution", .bool s.requiresResolution)]

/-- The record of a bucket. -/
def Bucket.toValue (b : Bucket Float) : Value :=
  .record
    [("rate", .float b.rate), ("capacity", .float b.capacity), ("tokens", .float b.tokens)]

/-- The record of a limiter. -/
def Limiter.toValue (l : Limiter Float) : Value :=
  .record
    [("default_rate", .float l.defaultRate), ("default_burst", .float l.defaultBurst),
     ("action_rates", .ofRates l.rates), ("max_wait", .float l.maxWait)]

/-- The settings by the names of their fields. -/
def Settings.toLedger (s : Settings Float) : Ledger String Value :=
  [("default_rate", .float s.defaultRate), ("default_burst", .float s.defaultBurst),
   ("action_limits", .ofRates s.actionLimits),
   ("rate_limit_max_wait", .float s.rateLimitMaxWait),
   ("short_read_interval", .float s.shortReadInterval),
   ("short_read_deadline", .float s.shortReadDeadline),
   ("long_converge_interval", .float s.longConvergeInterval),
   ("long_converge_deadline", .float s.longConvergeDeadline),
   ("default_page_size", .int s.defaultPageSize), ("id_delimiter", .text s.idDelimiter),
   ("transient_error_codes", .ofTexts s.transientErrorCodes),
   ("not_found_error_prefixes", .ofTexts s.notFoundErrorPrefixes),
   ("log_level", .text s.logLevel), ("log_format", .text s.logFormat),
   ("service_name", .text s.serviceName)]

/-- The record of an issue with settings. -/
def Issue.toValue (i : Issue) : Value :=
  .record
    [("type", .text i.kind),
     ("loc", .list (i.place.map fun
        | .name s => .text s
        | .index n => .int n)),
     ("msg", .text i.message)]

/-- A setting by the name of its field. -/
def Settings.entry (s : Settings Float) (field : String) : Except Misuse Value :=
  match s.toLedger.get? field with
  | some v => .ok v
  | none => .error (.noMember "ConvergeSettings" field)

/-- Add a member to the list of settings that has the name. No other setting can be added
to. -/
def Settings.extended? (s : Settings Float) (field member : String) :
    Except Misuse (Settings Float) :=
  if field = "transient_error_codes" then
    .ok { s with transientErrorCodes := s.transientErrorCodes ++ [member] }
  else if field = "not_found_error_prefixes" then
    .ok { s with notFoundErrorPrefixes := s.notFoundErrorPrefixes ++ [member] }
  else do
    let v ← s.entry field
    .error (.noMember v.kindName "append")

end Settle
