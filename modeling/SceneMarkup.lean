import SceneMarkup.Compress.Document
import SceneMarkup.Compress.Metrics
import SceneMarkup.Compress.Node
import SceneMarkup.Compress.Paint
import SceneMarkup.Convert.Converter
import SceneMarkup.Decimal.Binary
import SceneMarkup.Decimal.Layout
import SceneMarkup.Decimal.Shortest
import SceneMarkup.Error
import SceneMarkup.Json.Basic
import SceneMarkup.Json.Decode
import SceneMarkup.Json.Equal
import SceneMarkup.Json.Printer
import SceneMarkup.Json.Reader
import SceneMarkup.Logged
import SceneMarkup.Markup.Escape
import SceneMarkup.Markup.Render
import SceneMarkup.Named
import SceneMarkup.Proofs.Decimal.Equality
import SceneMarkup.Proofs.Json.Distinct
import SceneMarkup.Proofs.Json.Equal
import SceneMarkup.Rule.Builtin
import SceneMarkup.Rule.Config
import SceneMarkup.Rule.Engine
import SceneMarkup.Rule.Expr
import SceneMarkup.Rule.Expr.Evaluation
import SceneMarkup.Rule.Expr.Parser
import SceneMarkup.Rule.Load
import SceneMarkup.Rule.Template
import SceneMarkup.Rule.Token
import SceneMarkup.Rule.Value
import SceneMarkup.Scene.BuiltinDefaults
import SceneMarkup.Scene.Defaults
import SceneMarkup.Scene.DefaultsFile
import SceneMarkup.Scene.Node
import SceneMarkup.Text.CharacterSets
import SceneMarkup.Text.Quoted
import SceneMarkup.Text.Upper
import SceneMarkup.Ui.Build
import SceneMarkup.Ui.Frame
import SceneMarkup.Ui.Grid
import SceneMarkup.Ui.Node
import SceneMarkup.Ui.Style
import SceneMarkup.Yaml.Basic
import SceneMarkup.Yaml.Cursor
import SceneMarkup.Yaml.Format
import SceneMarkup.Yaml.Reader
import SceneMarkup.Yaml.Token
import SceneMarkup.Proofs.Compress.Kept
import SceneMarkup.Proofs.Compress.Paint
import SceneMarkup.Proofs.Compress.Again
import SceneMarkup.Proofs.Scene.Node
import SceneMarkup.Proofs.Compress.Tree
import SceneMarkup.Proofs.Compress.Idempotent
import SceneMarkup.Proofs.Ui.View
import SceneMarkup.Proofs.Ui.Build
import SceneMarkup.Proofs.Rule.Compile
import SceneMarkup.Proofs.Rule.Builtin
import SceneMarkup.Proofs.Compress.Reading
import SceneMarkup.Proofs.Scene.Codec
import SceneMarkup.Proofs.Compress.Meaning
import SceneMarkup.Proofs.Compress.Exact
import SceneMarkup.Proofs.Convert.Document
import SceneMarkup.Proofs.Json.Number
import SceneMarkup.Proofs.Json.ReadBack
import SceneMarkup.Proofs.Rule.Grammar
import SceneMarkup.Proofs.Rule.Readers
import SceneMarkup.Proofs.Rule.Parse
import SceneMarkup.Proofs.Decimal.Number
import SceneMarkup.Proofs.Compress.Effective
import SceneMarkup.Proofs.Convert.Recompress
import SceneMarkup.Proofs.Ui.Outline
import SceneMarkup.Proofs.Rule.Interpret
import SceneMarkup.Proofs.Ui.Additions
import SceneMarkup.Proofs.Ui.Hidden
import SceneMarkup.Proofs.Markup.Reader
import SceneMarkup.Proofs.Markup.Reads
import SceneMarkup.Proofs.Markup.ReadBack
import SceneMarkup.Proofs.Json.Reordered
import SceneMarkup.Proofs.Scene.Reordered
import SceneMarkup.Proofs.Compress.Reordered
import SceneMarkup.Proofs.Ui.Reordered
import SceneMarkup.Proofs.Convert.Reordered
import SceneMarkup.Proofs.Compress.Shape
import SceneMarkup.Proofs.Scene.RoundTrip
import SceneMarkup.Proofs.Convert.Codec
import SceneMarkup.Proofs.Ui.Container
import SceneMarkup.Proofs.Ui.Attributes
import SceneMarkup.Proofs.Decimal.Sign
import SceneMarkup.Proofs.Decimal.Whole
import SceneMarkup.Proofs.Decimal.Order
import SceneMarkup.Proofs.Rule.Extension
import SceneMarkup.Proofs.Ui.NativeGrid
import SceneMarkup.Proofs.Ui.Gaps
import SceneMarkup.Proofs.Ui.FillColumn
import SceneMarkup.Proofs.Ui.Agreement
import SceneMarkup.Proofs.Ui.StackGrid
import SceneMarkup.Proofs.Ui.Decoration
import SceneMarkup.Proofs.Ui.Siblings
import SceneMarkup.Proofs.Ui.Spacing
import SceneMarkup.Proofs.Rule.Standing
import SceneMarkup.Proofs.NameMap
import SceneMarkup.Proofs.Compress.Metrics
import SceneMarkup.Proofs.Rule.Template
import SceneMarkup.Proofs.Rule.Chain
import SceneMarkup.Proofs.Rule.Spelling
import SceneMarkup.Proofs.Convert.Shape
import SceneMarkup.Proofs.Ui.Edits
import SceneMarkup.Proofs.Ui.Edited
import SceneMarkup.Proofs.Json.Equivalence
import SceneMarkup.Proofs.Markup.Comment
import SceneMarkup.Proofs.Decimal.Rounding
import SceneMarkup.Proofs.Decimal.Conversion
import SceneMarkup.Proofs.Compress.WholeNumbers
