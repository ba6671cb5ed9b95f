import SchedProbe.Command
import SchedProbe.CommandLine.Arguments
import SchedProbe.CommandLine.Run
import SchedProbe.CommandLine.Session
import SchedProbe.Config.Basic
import SchedProbe.Config.Codec
import SchedProbe.Config.Merge
import SchedProbe.Config.Override
import SchedProbe.Decimal
import SchedProbe.Failure
import SchedProbe.IntKind
import SchedProbe.Json.Decoding
import SchedProbe.Json.Literal
import SchedProbe.Json.Number
import SchedProbe.Json.Reader
import SchedProbe.Json.RoundTrip
import SchedProbe.Json.Token
import SchedProbe.Json.Value
import SchedProbe.Log
import SchedProbe.Main
import SchedProbe.Names
import SchedProbe.ReadyQueue.Display
import SchedProbe.ReadyQueue.Inspect
import SchedProbe.ReadyQueue.Walk
import SchedProbe.Ring.Cursor
import SchedProbe.Ring.Reading
import SchedProbe.Snapshot.Basic
import SchedProbe.Snapshot.Codec
import SchedProbe.Snapshot.Edit
import SchedProbe.Target.Element
import SchedProbe.Target.Error
import SchedProbe.Target.Field
import SchedProbe.Target.Inspection
import SchedProbe.Target.Probe
import SchedProbe.TaskTrace.Clock
import SchedProbe.TaskTrace.Display
import SchedProbe.TaskTrace.Event
import SchedProbe.TaskTrace.Inspect
import SchedProbe.Text.Blank
import SchedProbe.Text.Column
import SchedProbe.Text.Control
import SchedProbe.Text.Cut
import SchedProbe.Text.Numeral
import SchedProbe.Ticks
import SchedProbe.TimerTable.Descriptor
import SchedProbe.TimerTable.Inspect
import SchedProbe.TimerTrace.Entry
import SchedProbe.TimerTrace.Inspect
import SchedProbe.Proofs.ReadyQueue.Chain
import SchedProbe.Proofs.ReadyQueue.Walk
import SchedProbe.Proofs.TaskTrace.Isolation
import SchedProbe.Proofs.Ring.Order
import SchedProbe.Proofs.Ring.Writer
import SchedProbe.Proofs.ReadyQueue.Report
import SchedProbe.Proofs.Target.Exchange
import SchedProbe.Proofs.Target.Plan
import SchedProbe.Proofs.Command.Reads
import SchedProbe.Proofs.Ring.Listing
import SchedProbe.Proofs.Target.Capture
import SchedProbe.Proofs.ReadyQueue.Captured
import SchedProbe.Proofs.ReadyQueue.Strays
import SchedProbe.Proofs.Snapshot.Tearing
import SchedProbe.Proofs.Snapshot.Representation
import SchedProbe.Proofs.CommandLine.Output
import SchedProbe.Proofs.CommandLine.Prompt
import SchedProbe.Proofs.TaskTrace.Cooperation
import SchedProbe.Proofs.CommandLine.Arguments
import SchedProbe.Proofs.CommandLine.OneShot
import SchedProbe.Proofs.Text.Lines
import SchedProbe.Proofs.Command.Outcome
import SchedProbe.Proofs.Snapshot.Updates
import SchedProbe.Proofs.Ring.Rotation
import SchedProbe.Proofs.TimerTrace.Rotation
import SchedProbe.Proofs.Json.Written
import SchedProbe.Proofs.Json.Members
import SchedProbe.Proofs.Snapshot.RoundTrip
import SchedProbe.Proofs.Config.Partial
import SchedProbe.Proofs.Target.Renaming
import SchedProbe.Proofs.Command.Symbols
import SchedProbe.Proofs.TaskTrace.Durations
import SchedProbe.Proofs.TaskTrace.LostRecords
import SchedProbe.Proofs.Names
import SchedProbe.Proofs.Target.RawFields
import SchedProbe.Proofs.TaskTrace.Lines
import SchedProbe.Proofs.Ring.Exactness
import SchedProbe.Proofs.Target.OutOfRange
import SchedProbe.Proofs.TimerTable.Rows
import SchedProbe.Proofs.TimerTable.AllOrNothing
import SchedProbe.Proofs.TimerTrace.Lines
import SchedProbe.Proofs.ReadyQueue.Lines
import SchedProbe.Proofs.Decimal
import SchedProbe.Proofs.TaskTrace.Elapsed
import SchedProbe.Proofs.Text.Numerals
import SchedProbe.Proofs.TaskTrace.TimeColumns
import SchedProbe.Proofs.Ring.Visits
import SchedProbe.Proofs.Text.Blanks
import SchedProbe.Proofs.Config.Override
import SchedProbe.Proofs.Config.Merge
import SchedProbe.Proofs.CommandLine.Configuration
import SchedProbe.Proofs.Command.Registrations
import SchedProbe.Proofs.ReadyQueue.Dependence
import SchedProbe.Proofs.Snapshot.Answers
