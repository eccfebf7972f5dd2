import SuiteExplorer.Main
import SuiteExplorer.Proofs.Catalog.Batches
import SuiteExplorer.Proofs.Catalog.Commuting
import SuiteExplorer.Proofs.Catalog.Currency
import SuiteExplorer.Proofs.Catalog.Discovering
import SuiteExplorer.Proofs.Catalog.Interruption
import SuiteExplorer.Proofs.Catalog.Kinds
import SuiteExplorer.Proofs.Catalog.Listening
import SuiteExplorer.Proofs.Catalog.Notification
import SuiteExplorer.Proofs.Catalog.Pruning
import SuiteExplorer.Proofs.Catalog.Refreshing
import SuiteExplorer.Proofs.Catalog.RootOrder
import SuiteExplorer.Proofs.Catalog.WellFormed
import SuiteExplorer.Proofs.Debug.Confinement
import SuiteExplorer.Proofs.Debug.Verdict
import SuiteExplorer.Proofs.Files.Listing
import SuiteExplorer.Proofs.Run.Cancellation
import SuiteExplorer.Proofs.Run.Exclusion
import SuiteExplorer.Proofs.Run.Joining
import SuiteExplorer.Proofs.Run.Lockstep
import SuiteExplorer.Proofs.Run.Obstacles
import SuiteExplorer.Proofs.Run.Output
import SuiteExplorer.Proofs.Run.Selection
import SuiteExplorer.Proofs.Settings.Precedence
import SuiteExplorer.Proofs.Source.ImportTable
import SuiteExplorer.Proofs.Source.LineEnd
import SuiteExplorer.Proofs.Source.Qualifiers
import SuiteExplorer.Proofs.Source.Rendering
import SuiteExplorer.Proofs.Source.Signature
import SuiteExplorer.Proofs.Source.Clause
import SuiteExplorer.Proofs.Source.Comments
import SuiteExplorer.Proofs.Source.Positions
import SuiteExplorer.Proofs.Run.Ownership
import SuiteExplorer.Proofs.Value.Merging
import SuiteExplorer.Proofs.Value.Objects
