import Diagnostics.Main
import Diagnostics.Proofs.StableSort
import Diagnostics.Proofs.TextOrder
import Diagnostics.Proofs.Action
import Diagnostics.Proofs.Calls
import Diagnostics.Proofs.Machine
import Diagnostics.Proofs.Task.Start
import Diagnostics.Proofs.Task.Attempts
import Diagnostics.Proofs.Catalog.Accepted
import Diagnostics.Proofs.Report.Order
import Diagnostics.Proofs.Report.Surrogates
import Diagnostics.Proofs.Report.RoundTrip
import Diagnostics.Proofs.Task.Capture
import Diagnostics.Proofs.Task.Destination
import Diagnostics.Proofs.Interleaving
import Diagnostics.Proofs.Guarantee
import Diagnostics.Proofs.Footprint
import Diagnostics.Proofs.Settings
import Diagnostics.Proofs.Text.Names
import Diagnostics.Proofs.Text.Utf8
import Diagnostics.Proofs.Text.Lenient
import Diagnostics.Proofs.Text.FileNames
import Diagnostics.Proofs.Text.Pieces
import Diagnostics.Proofs.Text.Words
import Diagnostics.Proofs.Text.Trimmed
import Diagnostics.Proofs.Number.Order
import Diagnostics.Proofs.Number.Sign
import Diagnostics.Proofs.Path.Written
import Diagnostics.Proofs.Json.Parts
import Diagnostics.Proofs.Json.RoundTrip
import Diagnostics.Proofs.Json.Edit
import Diagnostics.Proofs.FanOut.Step
import Diagnostics.Proofs.FanOut.Accounting
import Diagnostics.Proofs.FanOut.Schedule
import Diagnostics.Proofs.FanOut.Sequential
import Diagnostics.Proofs.Disk.Graft
import Diagnostics.Proofs.Disk.Lookup
import Diagnostics.Proofs.Disk.Artifact
import Diagnostics.Proofs.Disk.Reaching
import Diagnostics.Proofs.Disk.Staging
import Diagnostics.Proofs.Disk.Vacant
import Diagnostics.Proofs.Disk.Prepared
import Diagnostics.Proofs.Disk.Territory
import Diagnostics.Proofs.Disk.Alike
import Diagnostics.Proofs.Disk.Same
import Diagnostics.Proofs.Disk.Contents
import Diagnostics.Proofs.Disk.Walk
import Diagnostics.Proofs.Disk.Harvest
import Diagnostics.Proofs.Catalog.Exact
import Diagnostics.Proofs.Catalog.Overflow
import Diagnostics.Proofs.Catalog.Loading
import Diagnostics.Proofs.Catalog.Durations
import Diagnostics.Proofs.Catalog.Unique
import Diagnostics.Proofs.Catalog.RoundTrip
import Diagnostics.Proofs.Catalog.FirstFault
import Diagnostics.Proofs.Catalog.Untraced
import Diagnostics.Proofs.Catalog.Dwell
import Diagnostics.Proofs.Territory
import Diagnostics.Proofs.FanOut.Alone
import Diagnostics.Proofs.FanOut.Independence
import Diagnostics.Proofs.FanOut.Guarded
import Diagnostics.Proofs.Writing
import Diagnostics.Proofs.Report.Written
import Diagnostics.Proofs.Report.Filed
import Diagnostics.Proofs.Disk.Made
import Diagnostics.Proofs.Disk.Extends
import Diagnostics.Proofs.Disk.Takes
import Diagnostics.Proofs.Disk.Elsewhere
import Diagnostics.Proofs.Disk.Roots
import Diagnostics.Proofs.Disk.Backlog
import Diagnostics.Proofs.Interference
import Diagnostics.Proofs.Contents
import Diagnostics.Proofs.Task.Artifact
import Diagnostics.Proofs.FanOut.Moments
import Diagnostics.Proofs.Task.Return
import Diagnostics.Proofs.Task.Turns
import Diagnostics.Proofs.Task.Blame
import Diagnostics.Proofs.Task.Retry
import Diagnostics.Proofs.Task.WriteFailure
import Diagnostics.Proofs.Task.Redirected
import Diagnostics.Proofs.Task.Phases
import Diagnostics.Proofs.Task.Arguments
import Diagnostics.Proofs.Cim.Command
import Diagnostics.Proofs.Cim.Answer
import Diagnostics.Proofs.Cim.Detail
import Diagnostics.Proofs.Gather.Run
import Diagnostics.Proofs.Gather.Refusal
import Diagnostics.Proofs.Gather.Alike
import Diagnostics.Proofs.Gather.Interruption
import Diagnostics.Proofs.Gather.Frame
import Diagnostics.Proofs.Gather.Listing
import Diagnostics.Proofs.Gather.Delivery
import Diagnostics.Proofs.Gather.Integrity
import Diagnostics.Proofs.Gather.Durations
import Diagnostics.Proofs.Gather.Attribution
import Diagnostics.Proofs.Gather.Roots
import Diagnostics.Proofs.Gather.Overrides
import Diagnostics.Proofs.Gather.Untraced
import Diagnostics.Proofs.Gather.Summary
