import Remap.Json.Writer
import Remap.Log.Files
import Remap.Log.Line
import Remap.Proofs.Directive.Descent
import Remap.Proofs.Directive.Order
import Remap.Proofs.Directive.RangeForms
import Remap.Proofs.Listing.Addressing
import Remap.Proofs.Listing.Counts
import Remap.Proofs.Listing.Marking
import Remap.Proofs.Listing.Selection
import Remap.Proofs.Listing.Shebang
import Remap.Proofs.Map.Columns
import Remap.Proofs.Map.Failure
import Remap.Proofs.Map.Monotone
import Remap.Proofs.Map.Outcome
import Remap.Proofs.Map.RoundTrip
import Remap.Proofs.Settings.Failure
import Remap.Proofs.Settings.Grammars
import Remap.Proofs.Settings.Precedence
import Remap.Proofs.Syntax.Flaw
import Remap.Proofs.Text.Encoding
import Remap.Proofs.Value.Paths
import Remap.Report
