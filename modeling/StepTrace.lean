import StepTrace.Main
import StepTrace.Session.InterruptFlags
import StepTrace.Proofs.Graph.Live
import StepTrace.Proofs.Session.Visits
import StepTrace.Proofs.Session.Recording
import StepTrace.Proofs.Text.Decimal
import StepTrace.Proofs.Text.Lines
import StepTrace.Proofs.Log.Writing
import StepTrace.Proofs.Log.RoundTrip
import StepTrace.Proofs.Gdb.Evidence
import StepTrace.Proofs.Gdb.Ending
import StepTrace.Proofs.Gdb.Printing
import StepTrace.Proofs.Session.Simulation
import StepTrace.Proofs.Gdb.Transcript
import StepTrace.Proofs.Gdb.Scripted
import StepTrace.Proofs.Gdb.Framing
import StepTrace.Proofs.Gdb.Grammar
import StepTrace.Proofs.Graph.Flow
import StepTrace.Proofs.Graph.Quotient
import StepTrace.Proofs.Gdb.Answers
import StepTrace.Proofs.Gdb.Noise
import StepTrace.Proofs.Gdb.Unheard
import StepTrace.Proofs.Session.Exchanges
import StepTrace.Proofs.Session.Lifecycle
import StepTrace.Proofs.Session.Course
import StepTrace.Proofs.Session.Truncation
import StepTrace.Proofs.Files.Effects
import StepTrace.Proofs.Gdb.Forwarding
import StepTrace.Proofs.Graph.Dot
import StepTrace.Proofs.Graph.Document
import StepTrace.Proofs.Session.Tolerance
import StepTrace.Proofs.Session.Widening
import StepTrace.Proofs.Gdb.SevenBit
import StepTrace.Proofs.Gdb.Quoting
import StepTrace.Proofs.Files.Reading
import StepTrace.Proofs.Files.Visualizing
import StepTrace.Proofs.Graph.Numbering
import StepTrace.Proofs.Graph.Naming
import StepTrace.Proofs.Listing.RoundTrip
import StepTrace.Proofs.Listing.Visiting
import StepTrace.Proofs.Log.Accounting
import StepTrace.Proofs.Log.Refusing
import StepTrace.Proofs.Session.Refusing
import StepTrace.Proofs.Session.Accounting
import StepTrace.Proofs.Session.Replaying
import StepTrace.Proofs.Gdb.Silence
import StepTrace.Proofs.Graph.Simplifying
import StepTrace.Proofs.Location
import StepTrace.Proofs.Path
import StepTrace.Proofs.Directories
import StepTrace.Proofs.Files.Siblings
import StepTrace.Proofs.Rendering
