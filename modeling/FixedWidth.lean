import FixedWidth.Text.Blank
import FixedWidth.Text.Case
import FixedWidth.Text.Digit
import FixedWidth.Text.Half
import FixedWidth.Text.Integer
import FixedWidth.Text.Lines
import FixedWidth.Text.Ranges
import FixedWidth.Text.Printable
import FixedWidth.Text.Quoted
import FixedWidth.Text.Hex
import FixedWidth.Text.Scan
import FixedWidth.Text.Utf8
import FixedWidth.Text.Word
import FixedWidth.Number.Decimal
import FixedWidth.Number.Rounding
import FixedWidth.Number.Scientific
import FixedWidth.Number.Binary64
import FixedWidth.Number.Binary64.Arithmetic
import FixedWidth.Entries
import FixedWidth.Moment
import FixedWidth.Value
import FixedWidth.Fault
import FixedWidth.Number.Rescale
import FixedWidth.Number.Literal
import FixedWidth.Storage.Binary
import FixedWidth.Storage.Codec
import FixedWidth.Storage.CodePage
import FixedWidth.Storage.Packed
import FixedWidth.Storage.Zoned
import FixedWidth.Picture.Repeat
import FixedWidth.Picture.Clause
import FixedWidth.Picture.Usage
import FixedWidth.Picture.Geometry
import FixedWidth.Display.Digits
import FixedWidth.Display.Signed
import FixedWidth.Display.Text
import FixedWidth.Display.Field
import FixedWidth.Calculation
import FixedWidth.Copybook.Line
import FixedWidth.Copybook.Layout
import FixedWidth.Record.Codec
import FixedWidth.Document.Dialect
import FixedWidth.Document.Json
import FixedWidth.Document.JsonText
import FixedWidth.Document.Yaml.Cursor
import FixedWidth.Document.Yaml.Block
import FixedWidth.Document.Yaml.Plain
import FixedWidth.Document.Yaml.Quoted
import FixedWidth.Document.Yaml.Tag
import FixedWidth.Document.Yaml.Scalar
import FixedWidth.Document.Yaml.Token
import FixedWidth.Document.Yaml.Node
import FixedWidth.Document.Yaml.Content
import FixedWidth.Document.Yaml.Property
import FixedWidth.Document.Yaml.Layout
import FixedWidth.Document.Yaml
import FixedWidth.Screen.Attribute
import FixedWidth.Screen.Definition
import FixedWidth.Screen.Rule
import FixedWidth.Screen.Check
import FixedWidth.Screen.Predicate
import FixedWidth.Screen.Config
import FixedWidth.Screen.Document
import FixedWidth.Journal
import FixedWidth.Sampling.Source
import FixedWidth.Sampling.Records
import FixedWidth.Sampling.Twister
import FixedWidth.Command.Arguments
import FixedWidth.Command.Line
import FixedWidth.Command.Host
import FixedWidth.Command.Run
import FixedWidth.Main
import FixedWidth.Proofs.Number.Digits
import FixedWidth.Proofs.Storage.Packed
import FixedWidth.Proofs.Storage.CodePage
import FixedWidth.Proofs.Storage.Zoned
import FixedWidth.Proofs.Display.Text
import FixedWidth.Proofs.Display.Digits
import FixedWidth.Proofs.Entries
import FixedWidth.Proofs.Number.Rounding
import FixedWidth.Proofs.Number.Rescale
import FixedWidth.Proofs.Number.Rescale.Exact
import FixedWidth.Proofs.Number.Rescale.Laws
import FixedWidth.Proofs.Number.Literal
import FixedWidth.Proofs.Number.Fixed
import FixedWidth.Proofs.Display.Signed
import FixedWidth.Proofs.Display.Signed.Literal
import FixedWidth.Proofs.Display.Signed.Form
import FixedWidth.Proofs.Display.Signed.Rounded
import FixedWidth.Proofs.Display.Field
import FixedWidth.Proofs.Storage.Binary
import FixedWidth.Proofs.Record.Number
import FixedWidth.Proofs.Record.RoundTrip
import FixedWidth.Proofs.Record.Canonical
import FixedWidth.Proofs.Storage.Packed.Format
import FixedWidth.Proofs.Storage.Zoned.Format
import FixedWidth.Proofs.Number.Value
import FixedWidth.Proofs.Number.Order
import FixedWidth.Proofs.Number.Routes
import FixedWidth.Proofs.Picture.Clause
import FixedWidth.Proofs.Picture.Mismatch
import FixedWidth.Proofs.Screen.Blank
import FixedWidth.Proofs.Screen.Completion
import FixedWidth.Proofs.Storage.Agreement
import FixedWidth.Proofs.Calculation
import FixedWidth.Proofs.Copybook.Line
import FixedWidth.Proofs.Copybook.Forest
import FixedWidth.Proofs.Copybook.Overlay
import FixedWidth.Proofs.Copybook.Outline
import FixedWidth.Proofs.Copybook.Clauses
import FixedWidth.Proofs.Copybook.DataLine
import FixedWidth.Proofs.Record.Split
import FixedWidth.Proofs.Record.Whole
import FixedWidth.Proofs.Sampling.Records
import FixedWidth.Proofs.Picture.Repeat
import FixedWidth.Proofs.Picture.Agreement
import FixedWidth.Proofs.Record.Frame
import FixedWidth.Proofs.Record.Names
import FixedWidth.Proofs.Command.Exit
import FixedWidth.Proofs.Picture.Composition
import FixedWidth.Proofs.Picture.Expansion
import FixedWidth.Proofs.Picture.Presented
import FixedWidth.Proofs.Record.Size
import FixedWidth.Proofs.Record.Binary
import FixedWidth.Proofs.Screen.Picture
import FixedWidth.Proofs.Screen.Attribute
import FixedWidth.Proofs.Screen.Tightening
import FixedWidth.Proofs.Command.Records
