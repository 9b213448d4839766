import OverlaySheet.Text
import OverlaySheet.Text.Utf8
import OverlaySheet.Number.Binary
import OverlaySheet.Number.Decimal
import OverlaySheet.Number.Shortest
import OverlaySheet.Json.Printer
import OverlaySheet.Json.Reader
import OverlaySheet.Fault.Report
import OverlaySheet.Registry
import OverlaySheet.Layer.Dimension
import OverlaySheet.Layer.Color
import OverlaySheet.Layer.Builders
import OverlaySheet.Overlay
import OverlaySheet.Sheet.Source
import OverlaySheet.Settings.Active
import OverlaySheet.Main
import OverlaySheet.Proofs.Sheet.Settled
import OverlaySheet.Proofs.Sheet.Inline
import OverlaySheet.Proofs.Sheet.Refinement
import OverlaySheet.Proofs.Sheet.RoundTrip
import OverlaySheet.Proofs.Sheet.Marker
import OverlaySheet.Proofs.Sheet.Source
import OverlaySheet.Proofs.Sheet.Attribution
import OverlaySheet.Proofs.Sheet.Lockstep
import OverlaySheet.Proofs.Sheet.Padding
import OverlaySheet.Proofs.Sheet.Concatenation
import OverlaySheet.Proofs.Sheet.Layout
import OverlaySheet.Proofs.Sheet.DuplicateRules
import OverlaySheet.Proofs.Registry
import OverlaySheet.Proofs.Layer.Shadowing
import OverlaySheet.Proofs.Sheet.BareDeclaration
import OverlaySheet.Proofs.Sheet.Reference
import OverlaySheet.Proofs.Toml
import OverlaySheet.Proofs.Settings
import OverlaySheet.Proofs.Settings.Active
import OverlaySheet.Proofs.Settings.Precedence
import OverlaySheet.Proofs.Sheet.Verbatim
import OverlaySheet.Proofs.Sheet.SignGap
import OverlaySheet.Proofs.Sheet.Substitution
import OverlaySheet.Proofs.Sheet.SpareDeclaration
import OverlaySheet.Proofs.Layer.Lengths
import OverlaySheet.Proofs.Layer.Color
import OverlaySheet.Proofs.Layer.Acceptance
import OverlaySheet.Proofs.Layer.Edge
import OverlaySheet.Proofs.Layer.Flags
import OverlaySheet.Proofs.Layer.LengthForm
import OverlaySheet.Proofs.Layer.WholeNumbers
import OverlaySheet.Proofs.Sheet.TokenPlaces
import OverlaySheet.Proofs.Text.Pattern
import OverlaySheet.Proofs.Fault.Report
import OverlaySheet.Proofs.Sheet.DeclarationForm
