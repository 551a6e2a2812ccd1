import Oneliner.Braces.Checked
import Oneliner.Braces.Edit
import Oneliner.Main
import Oneliner.Proofs.Braces.Course
import Oneliner.Proofs.Text.Lines
import Oneliner.Session.Recording
import Oneliner.Proofs.Braces.Composition
import Oneliner.Proofs.Braces.Idempotence
import Oneliner.Proofs.Braces.Layout
import Oneliner.Proofs.Braces.BracketStack
import Oneliner.Proofs.Braces.Literals
import Oneliner.Proofs.Braces.Conservation
import Oneliner.Proofs.Program.Tokens
import Oneliner.Proofs.Program.Blocks
import Oneliner.Proofs.Program.Scanning
import Oneliner.Proofs.Program.Placement
import Oneliner.Proofs.Script.Fragments
import Oneliner.Proofs.Script.Reading
import Oneliner.Proofs.Program.Sequence
import Oneliner.Proofs.Action
import Oneliner.Proofs.Program.Agreement
import Oneliner.Proofs.Program.AgreeingCalls
import Oneliner.Proofs.Program.AgreeingRuns
import Oneliner.Proofs.Session.Sections
import Oneliner.Proofs.Session.Writing
import Oneliner.Proofs.Session.Prelude
import Oneliner.Proofs.Session.LoopMode
import Oneliner.Proofs.Script.Collecting
import Oneliner.Proofs.Session.CollectMode
import Oneliner.Proofs.Session.SameInput
import Oneliner.Proofs.Braces.Extension
import Oneliner.Proofs.Braces.Indentation
import Oneliner.Proofs.Script.Margins
import Oneliner.Proofs.Transcript
import Oneliner.Proofs.Program.Streaming
import Oneliner.Proofs.Script.Containment
import Oneliner.Proofs.Session.Isolation
import Oneliner.Proofs.Session.Streaming
import Oneliner.Proofs.Double.Rounding
import Oneliner.Proofs.Double.Shortest
import Oneliner.Proofs.Scalar.ReadBack
import Oneliner.Proofs.Session.SecondRun
import Oneliner.Proofs.Program.DeepScanning
import Oneliner.Proofs.Program.DeepLiterals
import Oneliner.Proofs.Program.DeepReading
import Oneliner.Proofs.Program.Coverage
import Oneliner.Proofs.Program.DeepBlocks
import Oneliner.Proofs.Program.Seating
import Oneliner.Proofs.Script.Validity
import Oneliner.Proofs.Program.Tameness
import Oneliner.Proofs.Program.Reaching
import Oneliner.Proofs.Session.Startup
import Oneliner.Proofs.Session.Arrival
import Oneliner.Proofs.Session.StartupNames
import Oneliner.Proofs.Session.Tracing
import Oneliner.Proofs.Session.WholeRun
import Oneliner.Proofs.Braces.Quotations
import Oneliner.Proofs.Session.Listing
import Oneliner.Proofs.Script.DebugLines
import Oneliner.Proofs.Scalar.Conversion
import Oneliner.Proofs.Command.Spelling
import Oneliner.Proofs.Command.Interleaving
import Oneliner.Proofs.Braces.Declaration
import Oneliner.Proofs.Text.Indentation
import Oneliner.Proofs.Program.Access
import Oneliner.Proofs.Session.CommandLine
