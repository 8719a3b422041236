import TurtleSystems.Analysis
import TurtleSystems.Animation
import TurtleSystems.CommandLine.Choice
import TurtleSystems.CommandLine.Options
import TurtleSystems.CommandLine.Session
import TurtleSystems.Config
import TurtleSystems.Decimal
import TurtleSystems.Decimal.Numeral
import TurtleSystems.Decimal.Scaled
import TurtleSystems.Decimal.Shortest
import TurtleSystems.Derivation
import TurtleSystems.Document
import TurtleSystems.Document.Outline
import TurtleSystems.Document.Position
import TurtleSystems.File
import TurtleSystems.Geometry
import TurtleSystems.Json.Decoder
import TurtleSystems.Json.Reader
import TurtleSystems.Json.Report
import TurtleSystems.Json.Stored
import TurtleSystems.Json.Value
import TurtleSystems.Json.Writer
import TurtleSystems.LSystem
import TurtleSystems.Main
import TurtleSystems.Origin
import TurtleSystems.Path
import TurtleSystems.Preset
import TurtleSystems.Proofs.Alphabet
import TurtleSystems.Proofs.Analysis
import TurtleSystems.Proofs.Analysis.Agreement
import TurtleSystems.Proofs.Animation
import TurtleSystems.Proofs.CommandLine.Discovery
import TurtleSystems.Proofs.CommandLine.Drawing
import TurtleSystems.Proofs.Config
import TurtleSystems.Proofs.Decimal.Interval
import TurtleSystems.Proofs.Decimal.Plain
import TurtleSystems.Proofs.Decimal.Shortest
import TurtleSystems.Proofs.Derivation
import TurtleSystems.Proofs.Document.Acceptance
import TurtleSystems.Proofs.Document.Blanks
import TurtleSystems.Proofs.Document.Language
import TurtleSystems.Proofs.Document.Lines
import TurtleSystems.Proofs.Document.Outline
import TurtleSystems.Proofs.Document.Parts
import TurtleSystems.Proofs.Document.Places
import TurtleSystems.Proofs.Document.Rejection
import TurtleSystems.Proofs.Document.RuleLines
import TurtleSystems.Proofs.Document.Writing
import TurtleSystems.Proofs.Geometry
import TurtleSystems.Proofs.Geometry.Fit
import TurtleSystems.Proofs.Growth
import TurtleSystems.Proofs.Json.Decoder
import TurtleSystems.Proofs.Json.Numbers
import TurtleSystems.Proofs.Json.Reader
import TurtleSystems.Proofs.Json.Records
import TurtleSystems.Proofs.Json.Stored
import TurtleSystems.Proofs.Liveness
import TurtleSystems.Proofs.Occurrences
import TurtleSystems.Proofs.Origin
import TurtleSystems.Proofs.Path
import TurtleSystems.Proofs.Preset
import TurtleSystems.Proofs.Random.Rules
import TurtleSystems.Proofs.Reader
import TurtleSystems.Proofs.Reader.Places
import TurtleSystems.Proofs.Replacement
import TurtleSystems.Proofs.RuleLines
import TurtleSystems.Proofs.RuleLines.Language
import TurtleSystems.Proofs.Search
import TurtleSystems.Proofs.Search.FirstLive
import TurtleSystems.Proofs.Svg
import TurtleSystems.Proofs.Svg.Margin
import TurtleSystems.Proofs.Terminal.Alphabet
import TurtleSystems.Proofs.Terminal.Editor
import TurtleSystems.Proofs.Terminal.Frame
import TurtleSystems.Proofs.Terminal.Preset
import TurtleSystems.Proofs.Terminal.Program
import TurtleSystems.Proofs.Terminal.Reachable
import TurtleSystems.Proofs.Terminal.Rows
import TurtleSystems.Proofs.Terminal.Search
import TurtleSystems.Proofs.Text
import TurtleSystems.Proofs.Turtle
import TurtleSystems.Proofs.Turtle.Composition
import TurtleSystems.Proofs.Unguarded
import TurtleSystems.Random.Cipher
import TurtleSystems.Random.Rules
import TurtleSystems.Random.Source
import TurtleSystems.Reader
import TurtleSystems.Rule
import TurtleSystems.RuleLines
import TurtleSystems.Search
import TurtleSystems.Svg
import TurtleSystems.Symbol
import TurtleSystems.Terminal.App
import TurtleSystems.Terminal.Row
import TurtleSystems.Terminal.Screen
import TurtleSystems.Text
import TurtleSystems.Text.CharacterSet
import TurtleSystems.Text.Cluster
import TurtleSystems.Text.ClusterClass
import TurtleSystems.Text.Occurrences
import TurtleSystems.Text.Quoted
import TurtleSystems.Text.Unprintable
import TurtleSystems.Text.Width
import TurtleSystems.Turtle
