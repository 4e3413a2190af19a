import Tagdown.Main
import Tagdown.Proofs.Latest
import Tagdown.Proofs.Tag.Building
import Tagdown.Proofs.Tag.Declared
import Tagdown.Proofs.Tag.Alias
import Tagdown.Proofs.Document.Grammar
import Tagdown.Proofs.Document.TagLine
import Tagdown.Proofs.Text.Lines
import Tagdown.Proofs.Text.LineBreaks
import Tagdown.Proofs.Text.Runs
import Tagdown.Proofs.Document.Accounting
import Tagdown.Proofs.Statistics.BlockLine
import Tagdown.Proofs.Statistics.Counters
import Tagdown.Proofs.Statistics.Packing
import Tagdown.Proofs.Document.RecognizedBlock
import Tagdown.Proofs.Document.NormalForm
import Tagdown.Proofs.Document.Lossless
import Tagdown.Proofs.Document.Artefacts
import Tagdown.Proofs.Document.Extension
import Tagdown.Proofs.Statistics.ParagraphRuns
import Tagdown.Proofs.Statistics.FlushLine
import Tagdown.Proofs.Statistics.Additivity
import Tagdown.Proofs.Document.Agreement
import Tagdown.Proofs.Document.StandardRoundTrip
import Tagdown.Proofs.Text.Numeral
import Tagdown.Proofs.Numeric.Rounding
import Tagdown.Proofs.Numeric.Shortest
import Tagdown.Proofs.Numeric.Tenths
import Tagdown.Proofs.Numeric.Extent
import Tagdown.Proofs.Json.Number
import Tagdown.Proofs.Json.Record
import Tagdown.Proofs.Report.Registration
import Tagdown.Proofs.Report.RoundTrip
import Tagdown.Proofs.Report.Console
import Tagdown.Proofs.World.FileTree
import Tagdown.Proofs.World.Log
import Tagdown.Proofs.Command.Parts
import Tagdown.Proofs.Command.Convert
import Tagdown.Proofs.Numeric.Order
import Tagdown.Proofs.Numeric.Nearest
import Tagdown.Proofs.Numeric.Error
import Tagdown.Proofs.Statistics.Extent
import Tagdown.Proofs.Statistics.Bounds
import Tagdown.Proofs.Statistics.Ratios
import Tagdown.Proofs.Statistics.Words
import Tagdown.Proofs.Command.Stats
import Tagdown.Proofs.Statistics.Artefacts
import Tagdown.Proofs.Statistics.Occurrences
import Tagdown.Proofs.Command.Colour
import Tagdown.Proofs.Display.Guide
import Tagdown.Proofs.Display.Screen
import Tagdown.Proofs.Document.Preview
import Tagdown.Proofs.Display.Preview
import Tagdown.Proofs.Path
import Tagdown.Proofs.Report.SavedName
import Tagdown.Proofs.Toml.Keys
import Tagdown.Proofs.Settings.Merge
import Tagdown.Proofs.Settings.Layers
import Tagdown.Proofs.Settings.Precedence
import Tagdown.Proofs.Text.Padded
import Tagdown.Proofs.Calendar.Date
import Tagdown.Proofs.Calendar.Timestamp
