import NullLint.Main
import NullLint.Rule.Session
import NullLint.Proofs.Progress
import NullLint.Proofs.Syntax.Layout
import NullLint.Proofs.Syntax.Dump.Values
import NullLint.Proofs.Syntax.Block
import NullLint.Proofs.Syntax.Preorder
import NullLint.Proofs.Rule.Judgement
import NullLint.Proofs.Engine.Recursion
import NullLint.Proofs.Rule.Judged
import NullLint.Proofs.Engine.Pool
import NullLint.Proofs.Engine.Analyze
import NullLint.Proofs.Syntax.Mirror
import NullLint.Proofs.Run.Stages
import NullLint.Proofs.Syntax.Dump.Writing
import NullLint.Proofs.Syntax.Redeclare
import NullLint.Proofs.Rule.Repair
import NullLint.Proofs.Scan.Directory
import NullLint.Proofs.Run.Report
import NullLint.Proofs.Run.Outcome
import NullLint.Proofs.Rule.Session
import NullLint.Proofs.Rule.Tokens
import NullLint.Proofs.Telemetry.Forest
import NullLint.Proofs.Run.Watch
import NullLint.Proofs.Run.Observation
import NullLint.Proofs.Property.Entries
import NullLint.Proofs.Engine.Registry
import NullLint.Proofs.Syntax.Descendants
import NullLint.Proofs.Rule.Insertion
import NullLint.Proofs.Rule.Presentation
import NullLint.Proofs.Syntax.Dump.Whole
import NullLint.Proofs.Syntax.Dump.Blame
import NullLint.Proofs.Telemetry.Endpoint
import NullLint.Proofs.Engine.Registration
import NullLint.Proofs.Run.Regions
import NullLint.Proofs.Run.Locations
