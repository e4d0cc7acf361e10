import ViewPreview.Main
import ViewPreview.Proofs.Render.Safety
import ViewPreview.Proofs.Passage.Return
import ViewPreview.Proofs.Passage.Remainder
import ViewPreview.Proofs.Canonical.RoundTrip
import ViewPreview.Proofs.Canonical.Interior
import ViewPreview.Proofs.Render.Placement
import ViewPreview.Proofs.Call.Token
import ViewPreview.Proofs.View.Names
import ViewPreview.Proofs.Render.Layer
import ViewPreview.Proofs.Render.Markup
import ViewPreview.Proofs.Render.Repetition
import ViewPreview.Proofs.View.Nesting
import ViewPreview.Proofs.Preview.Skipped
import ViewPreview.Proofs.Spelling.Modifier
import ViewPreview.Proofs.Agreement.Preview
import ViewPreview.Proofs.Text.Stripped
import ViewPreview.Proofs.Preview.WellFormed
import ViewPreview.Proofs.Passage.Total
import ViewPreview.Proofs.Preview.Place
import ViewPreview.Proofs.Call.Quoting
import ViewPreview.Proofs.Call.Form
import ViewPreview.Proofs.CommandLine.Directory
import ViewPreview.Proofs.CommandLine.Effects
import ViewPreview.Proofs.Json.Text
import ViewPreview.Proofs.Json.ViewEncoding
import ViewPreview.Proofs.Number.Denotation
import ViewPreview.Proofs.Number.Interval
import ViewPreview.Proofs.Number.Shortest
import ViewPreview.Proofs.Number.Written
import ViewPreview.Proofs.Preview.Encoding
import ViewPreview.Proofs.Render.Disregarded
import ViewPreview.Proofs.Render.Shown
import ViewPreview.Proofs.Passage.Parentheses
import ViewPreview.Proofs.Spelling.Content
import ViewPreview.Proofs.Spelling.Interpolation
import ViewPreview.Proofs.View.Replacement
import ViewPreview.Proofs.Render.Leaves
import ViewPreview.Proofs.Spelling.Gradient
import ViewPreview.Proofs.Call.FirstLiteral
import ViewPreview.Proofs.View.Range
import ViewPreview.Proofs.Spelling.Element
import ViewPreview.Proofs.Passage.Scanner
import ViewPreview.Proofs.Token.Chain
import ViewPreview.Proofs.Passage.FirstView
import ViewPreview.Proofs.Render.ControlLabel
import ViewPreview.Proofs.Render.Switch
import ViewPreview.Proofs.Render.Attributes
import ViewPreview.Proofs.Style.Filters
import ViewPreview.Proofs.Render.Fill
import ViewPreview.Proofs.Number.Packing
import ViewPreview.Proofs.Number.Rounding
import ViewPreview.Proofs.Number.Arithmetic
import ViewPreview.Proofs.Number.Thousandths
import ViewPreview.Proofs.Style.Opacity
import ViewPreview.Proofs.View.Preorder
import ViewPreview.Proofs.Style.Symbol
import ViewPreview.Proofs.Spelling.Padding
import ViewPreview.Proofs.Passage.Block
