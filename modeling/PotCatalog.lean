import PotCatalog.Main
import PotCatalog.Proofs.Quoting
import PotCatalog.Proofs.ReadBack
import PotCatalog.Proofs.Accounting
import PotCatalog.Proofs.Template.Occurrence
import PotCatalog.Proofs.Template.Survey
import PotCatalog.Proofs.Scan.Expansion
import PotCatalog.Proofs.Scan.Opening
import PotCatalog.Proofs.Command.Planning
import PotCatalog.Proofs.Files.Change
import PotCatalog.Proofs.Command.Writing
import PotCatalog.Proofs.Command.Printing
import PotCatalog.Proofs.Template.Layout
import PotCatalog.Proofs.Template.Offsets
import PotCatalog.Proofs.Template.Phrases
import PotCatalog.Proofs.Script.Survey
import PotCatalog.Proofs.Scan.Admission
import PotCatalog.Proofs.Scan.Subtree
import PotCatalog.Proofs.Scan.Mirroring
import PotCatalog.Proofs.Scan.Descent
import PotCatalog.Proofs.Scan.Independence
import PotCatalog.Proofs.Template.DocumentOrder
import PotCatalog.Proofs.EntryTexts
import PotCatalog.Proofs.Carets
import PotCatalog.Proofs.Restriction
import PotCatalog.Proofs.Command.Status
import PotCatalog.Proofs.Config.RoundTrip
import PotCatalog.Proofs.Template.Starts
import PotCatalog.Proofs.Dedupe.Grouping
import PotCatalog.Proofs.Dedupe.Batches
import PotCatalog.Proofs.Dedupe.Shuffling
import PotCatalog.Proofs.MarkerCalls
import PotCatalog.Proofs.Scan.Composition
import PotCatalog.Proofs.Config.Discovery
import PotCatalog.Proofs.Scan.Kinds
import PotCatalog.Proofs.Config.Extensions
import PotCatalog.Proofs.Config.Effects
import PotCatalog.Proofs.IssueOrder
import PotCatalog.Proofs.Excerpts
import PotCatalog.Proofs.Text.Styling
import PotCatalog.Proofs.Report.Gutter
import PotCatalog.Proofs.Report.Layout
import PotCatalog.Proofs.Scan.RawNaming
import PotCatalog.Proofs.Text.Coordinates
import PotCatalog.Proofs.Command.Starting
import PotCatalog.Proofs.Report.Completion
import PotCatalog.Proofs.ClosingQuote
import PotCatalog.Proofs.SourceCalls
