import Numbering.Alphabet
import Numbering.Alphabet.Advance
import Numbering.Buffer.Edit
import Numbering.Buffer.Lines
import Numbering.Buffer.Position
import Numbering.Character.Alphabetic
import Numbering.Character.CaseIgnorable
import Numbering.Character.CaseMapping
import Numbering.Character.LetterCase
import Numbering.Character.Printable
import Numbering.Character.RangeSet
import Numbering.Command
import Numbering.Command.Files
import Numbering.CommandLine.Arguments
import Numbering.CommandLine.Program
import Numbering.Expression
import Numbering.Expression.Outline
import Numbering.Expression.Parts
import Numbering.Expression.Reading
import Numbering.Expression.Value
import Numbering.Numeral
import Numbering.Numeral.Bijective
import Numbering.Numeral.Binary64
import Numbering.Numeral.Shortest
import Numbering.Profile
import Numbering.Settings
import Numbering.Settings.Entry
import Numbering.Settings.Path
import Numbering.Text
import Numbering.Text.Casing
import Numbering.Text.Quoted
import Numbering.Toml.Datetime
import Numbering.Toml.Document
import Numbering.Toml.Number
import Numbering.Toml.Quoted
import Numbering.Toml.Value
import Numbering.Toml.Wrapped
import Numbering.Main
import Numbering.Proofs.Buffer.Lines
import Numbering.Proofs.Buffer.Arrangement
import Numbering.Proofs.Buffer.Overlap
import Numbering.Proofs.Buffer.Splice
import Numbering.Proofs.Text.Bytes
import Numbering.Proofs.Buffer.Bytes
import Numbering.Proofs.Buffer.Batch
import Numbering.Proofs.Buffer.Apply
import Numbering.Proofs.Buffer.ReadingOrder
import Numbering.Proofs.Character.Classes
import Numbering.Proofs.Expression.Grammar
import Numbering.Proofs.Expression.Opening
import Numbering.Proofs.Expression.Scan
import Numbering.Proofs.Expression.Layout
import Numbering.Proofs.Expression.Longest
import Numbering.Proofs.Expression.Faults
import Numbering.Proofs.Expression.Read
import Numbering.Proofs.Numeral.Bijective
import Numbering.Proofs.Alphabet.Advance
import Numbering.Proofs.Expression.Pattern
import Numbering.Proofs.Profile.Fill
import Numbering.Proofs.Buffer.Faults
import Numbering.Proofs.Buffer.Positions
import Numbering.Proofs.Buffer.Marker
import Numbering.Proofs.Buffer.Replacement
import Numbering.Proofs.Profile.Markers
import Numbering.Proofs.Expression.Number
import Numbering.Proofs.Character.Folding
import Numbering.Proofs.Text.Casing
import Numbering.Proofs.Expression.Word
import Numbering.Proofs.Expression.Resume
import Numbering.Proofs.Expression.Width
import Numbering.Proofs.Text.Apart
import Numbering.Proofs.Expression.Runs
import Numbering.Proofs.Buffer.Listing
import Numbering.Proofs.Buffer.LineByLine
import Numbering.Proofs.Expression.Reach
import Numbering.Proofs.Expression.RoundTrip
import Numbering.Proofs.Expression.Flagged
import Numbering.Proofs.Expression.FirstValue
import Numbering.Proofs.Command.Files
import Numbering.Proofs.Command.Fill
import Numbering.Proofs.Toml.Distinct
import Numbering.Proofs.Toml.Document
import Numbering.Proofs.Settings.Tree
import Numbering.Proofs.Settings.Setting
import Numbering.Proofs.Settings.Layers
import Numbering.Proofs.Settings.Reading
import Numbering.Proofs.Settings.Loader
import Numbering.Proofs.Buffer.Correspondence
import Numbering.Proofs.Buffer.OneByOne
import Numbering.Proofs.Alphabet.Succession
import Numbering.Proofs.Text.Spaced
import Numbering.Proofs.Expression.Spacing
import Numbering.Proofs.Buffer.Refusal
import Numbering.Proofs.Expression.NumberRuns
import Numbering.Proofs.Expression.ReadBack
import Numbering.Proofs.Command.Generate
import Numbering.Proofs.Text.Split
import Numbering.Proofs.Command.Target
import Numbering.Proofs.Expression.Offset
import Numbering.Proofs.Alphabet.Letters
import Numbering.Proofs.Numeral.Order
import Numbering.Proofs.Text.Padding
