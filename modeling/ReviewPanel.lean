import ReviewPanel.Issue.Aggregate
import ReviewPanel.Diff.Wire
import ReviewPanel.Lens.Profile
import ReviewPanel.Lens.Prompt
import ReviewPanel.Lens.Findings
import ReviewPanel.Event.Wire
import ReviewPanel.Settings.Wire
import ReviewPanel.Settings.File
import ReviewPanel.Log.Record
import ReviewPanel.Concurrent.Lanes
import ReviewPanel.Review.Orchestrate
import ReviewPanel.Event.Sink
import ReviewPanel.Version
import ReviewPanel.Proofs.Concurrent.LaneSimulation
import ReviewPanel.Proofs.Concurrent.PoolAccounting
import ReviewPanel.Proofs.Concurrent.DenseOutcomes
import ReviewPanel.Proofs.Review.LensCalls
import ReviewPanel.Proofs.Review.ReviewCourse
import ReviewPanel.Proofs.Review.PlannedLenses
import ReviewPanel.Proofs.Review.ScheduleIndependence
import ReviewPanel.Proofs.Review.EventProtocol
import ReviewPanel.Proofs.Review.OutcomeAgreement
import ReviewPanel.Proofs.Issue.Representation
import ReviewPanel.Proofs.Review.ToldEnds
import ReviewPanel.Proofs.Review.TerminalDecision
import ReviewPanel.Proofs.Review.FailFast
import ReviewPanel.Proofs.Issue.Idempotence
import ReviewPanel.Proofs.Concurrent.LaneTimes
import ReviewPanel.Proofs.Concurrent.ListSchedule
import ReviewPanel.Proofs.Log.Tally
import ReviewPanel.Proofs.Review.RunCounters
import ReviewPanel.Proofs.Review.CounterAccounts
import ReviewPanel.Proofs.Text.Visible
import ReviewPanel.Proofs.Text.NormalPath
import ReviewPanel.Proofs.Text.Lowering
import ReviewPanel.Proofs.Text.Words
import ReviewPanel.Proofs.Json.Integers
import ReviewPanel.Proofs.Json.Strings
import ReviewPanel.Proofs.Json.RoundTrip
import ReviewPanel.Proofs.Json.Drafts
import ReviewPanel.Proofs.Wire.Reading
import ReviewPanel.Proofs.Wire.TaggedReading
import ReviewPanel.Proofs.Event.Instants
import ReviewPanel.Proofs.Event.Calendar
import ReviewPanel.Proofs.Event.Decoding
import ReviewPanel.Proofs.Event.Framing
import ReviewPanel.Proofs.Review.RegularEvents
import ReviewPanel.Proofs.Issue.Fingerprint
import ReviewPanel.Proofs.Review.GeneratedIds
import ReviewPanel.Proofs.Review.Admission
import ReviewPanel.Proofs.Review.Spans
import ReviewPanel.Proofs.Diff.Decoding
import ReviewPanel.Proofs.Wire.RoundTrips
import ReviewPanel.Proofs.Diff.ChangedLines
import ReviewPanel.Proofs.Issue.FirstOccurrences
import ReviewPanel.Proofs.Issue.StageOrder
import ReviewPanel.Proofs.Issue.Accounting
import ReviewPanel.Proofs.Lens.Prompts
import ReviewPanel.Proofs.Json.Canonical
import ReviewPanel.Proofs.Binary.ExactRounding
import ReviewPanel.Proofs.Binary.UnitRange
import ReviewPanel.Proofs.Issue.Decoding
import ReviewPanel.Proofs.Review.LensReports
import ReviewPanel.Proofs.Diff.FileLookup
import ReviewPanel.Proofs.Settings.Overlay
import ReviewPanel.Proofs.Lens.FirstNamed
import ReviewPanel.Proofs.Review.FocusReads
import ReviewPanel.Proofs.Issue.NormalTitle
import ReviewPanel.Proofs.Issue.SameFinding
import ReviewPanel.Proofs.Client.Scripting
import ReviewPanel.Proofs.Client.Traffic
import ReviewPanel.Proofs.Client.CallsUnderWay
