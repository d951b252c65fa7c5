import Settle.Assembly.Shared
import Settle.Assembly.Whole
import Settle.Bucket.Draw
import Settle.Identifier.FromValues
import Settle.Journal.Basic
import Settle.Rehearsal.Description
import Settle.Report.Sighting
import Settle.Report.Trace
import Settle.Settings.Loading
import Settle.Settings.Variable
import Settle.Text.Instant
import Settle.Proofs.Poll.Course
import Settle.Proofs.Exact
import Settle.Proofs.Run.Trace
import Settle.Proofs.Poll.Script
import Settle.Proofs.Limiter.Rounds
import Settle.Proofs.Poll.Faults
import Settle.Proofs.Poll.Window
import Settle.Proofs.Task.Completion
import Settle.Proofs.Limiter.Potential
import Settle.Proofs.Limiter.Budget
import Settle.Proofs.Identifier.RoundTrip
import Settle.Proofs.Identifier.Borders
import Settle.Proofs.Poll.Timing
import Settle.Proofs.Listing.Parts
import Settle.Proofs.Listing.Reads
import Settle.Proofs.Limiter.Course
import Settle.Proofs.Limiter.Admission
import Settle.Proofs.Listing.Requests
import Settle.Proofs.Listing.Complete
import Settle.Proofs.Listing.Retried
import Settle.Proofs.Run.Matching
import Settle.Proofs.Poll.Lockstep
import Settle.Proofs.Task.Lockstep
import Settle.Proofs.Task.Resolution
import Settle.Proofs.Task.Stages
import Settle.Proofs.Limiter.Wait
import Settle.Proofs.Bucket.Prospect
import Settle.Proofs.Limiter.Outcome
import Settle.Proofs.Poll.Pace
import Settle.Proofs.Poll.Attempts
import Settle.Proofs.Poll.Sleeps
import Settle.Proofs.Task.Bounds
import Settle.Proofs.Gateway.Classified
import Settle.Proofs.Poll.Payment
import Settle.Proofs.Gateway.Payment
import Settle.Proofs.Limiter.Independence
import Settle.Proofs.Gateway.TraceId
import Settle.Proofs.Assembly.Lifecycle
import Settle.Proofs.Listing.Gathered
import Settle.Proofs.Listing.SoleMatch
import Settle.Proofs.Listing.Pulls
import Settle.Proofs.Listing.Fullness
import Settle.Proofs.Identifier.Occurrences
import Settle.Proofs.Identifier.Layout
import Settle.Proofs.Gateway.Forwarding
import Settle.Proofs.Gateway.Absence
import Settle.Proofs.Task.Lookup
import Settle.Proofs.Task.State
import Settle.Proofs.Fault.Layers
import Settle.Proofs.Gateway.Extension
import Settle.Proofs.Task.Table
import Settle.Proofs.Assembly.Making
import Settle.Proofs.Assembly.Keeping
import Settle.Proofs.Journal.Blocks
import Settle.Proofs.Bucket.Refusals
