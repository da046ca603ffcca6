import CommandLine.Main
import CommandLine.Proofs.Scan.Trace
import CommandLine.Proofs.Scan.Views
import CommandLine.Proofs.Argument.Cursor
import CommandLine.Proofs.Scan.LookAhead
import CommandLine.Proofs.Scan.Sentinel
import CommandLine.Proofs.Registry.Lookup
import CommandLine.Proofs.Registry.Resolution
import CommandLine.Proofs.Registry.Abbreviation
import CommandLine.Proofs.Argument.Token
import CommandLine.Proofs.Registry.WellFormed
import CommandLine.Proofs.Scan.Rendering
import CommandLine.Proofs.Scan.Composition
import CommandLine.Proofs.Scan.Blocks
import CommandLine.Proofs.Scan.Ordering
import CommandLine.Proofs.Scan.Negation
import CommandLine.Proofs.Registry.Spellings
import CommandLine.Proofs.Registry.Ambiguity
import CommandLine.Proofs.Registry.Report
import CommandLine.Proofs.Session.Declaration
import CommandLine.Proofs.Switch.Placeholder
import CommandLine.Proofs.Switch.Grammar
import CommandLine.Proofs.Switch.Labels
import CommandLine.Proofs.Scan.Refusal
import CommandLine.Proofs.Scan.Extension
import CommandLine.Proofs.Session.Extension
import CommandLine.Proofs.Scan.Stop
import CommandLine.Proofs.Scan.Forms
import CommandLine.Proofs.Scan.Capture
import CommandLine.Proofs.Registry.Help
import CommandLine.Proofs.Scan.Requests
import CommandLine.Proofs.Greeting
import CommandLine.Proofs.Fault.Registry
import CommandLine.Proofs.Fault.Scan
import CommandLine.Proofs.Fault.Session
