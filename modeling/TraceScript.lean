import TraceScript.Main
import TraceScript.Packet.Rehearsal
import TraceScript.Proofs.Packet.Decodability
import TraceScript.Proofs.Expectation.Completion
import TraceScript.Proofs.Expectation.Cleanup
import TraceScript.Proofs.Session.FirstPass
import TraceScript.Proofs.Label.Growth
import TraceScript.Proofs.Stream.Step
import TraceScript.Proofs.Session.Course
import TraceScript.Proofs.Stream.Atomicity
import TraceScript.Proofs.Session.Resolution
import TraceScript.Proofs.Error.Placement
import TraceScript.Proofs.Error.Refusal
import TraceScript.Proofs.Session.Diagnosis
import TraceScript.Proofs.Session.OutputFailure
import TraceScript.Proofs.Script.Part
import TraceScript.Proofs.Label.Unmentioned
import TraceScript.Proofs.Session.Unmentioned
import TraceScript.Proofs.Session.Accounting
import TraceScript.Proofs.Script.Name
import TraceScript.Proofs.Session.Failure
import TraceScript.Proofs.Command.Status
import TraceScript.Proofs.Command.Agreement
import TraceScript.Proofs.Packet.Room
import TraceScript.Proofs.Session.Acceptance
import TraceScript.Proofs.Session.Room
import TraceScript.Proofs.Expectation.Ledger
import TraceScript.Proofs.Script.Place
import TraceScript.Proofs.Session.Frame
import TraceScript.Proofs.Command.Input
import TraceScript.Proofs.Session.Phase
import TraceScript.Proofs.Expectation.Width
import TraceScript.Proofs.Script.Character
import TraceScript.Proofs.Expectation.Grammar
import TraceScript.Proofs.Expectation.Rendering
import TraceScript.Proofs.Script.Spelling
import TraceScript.Proofs.Directive.Literal
import TraceScript.Proofs.Directive.Range
import TraceScript.Proofs.Label.Reference
import TraceScript.Proofs.Label.Clash
import TraceScript.Proofs.Session.Definition
import TraceScript.Proofs.Directive.Notation
import TraceScript.Proofs.Stream.Packet
import TraceScript.Proofs.Directive.Pattern
import TraceScript.Proofs.Directive.Address
import TraceScript.Proofs.Expectation.Skipping
import TraceScript.Proofs.Stream.Limit
import TraceScript.Proofs.Packet.Strict
import TraceScript.Proofs.Expectation.Stability
import TraceScript.Proofs.Script.Marker
import TraceScript.Proofs.Error.Context
import TraceScript.Proofs.Label.Collection
import TraceScript.Proofs.Label.Supply
