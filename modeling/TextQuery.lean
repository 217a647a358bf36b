import TextQuery.Main
import TextQuery.Proofs.Text.Words
import TextQuery.Proofs.Unicode.Range
import TextQuery.Proofs.Unicode.Composition
import TextQuery.Proofs.Unicode.Odd
import TextQuery.Proofs.Unicode.Lowercase
import TextQuery.Proofs.Text.Squeeze
import TextQuery.Proofs.Text.Normal
import TextQuery.Proofs.Query.Source
import TextQuery.Proofs.Query.Keyword
import TextQuery.Proofs.Query.Reading
import TextQuery.Proofs.Query.References
import TextQuery.Proofs.Query.Levels
import TextQuery.Proofs.Query.Errors
import TextQuery.Proofs.Query.LiveGroups
import TextQuery.Proofs.Query.Agreement
import TextQuery.Proofs.Regex.Spans
import TextQuery.Proofs.Regex.Parser
import TextQuery.Proofs.Regex.Extension
import TextQuery.Proofs.Regex.Context
import TextQuery.Proofs.Query.Expression
import TextQuery.Proofs.Query.Evaluation
import TextQuery.Proofs.Query.Phrase
import TextQuery.Proofs.Query.Wildcards
import TextQuery.Proofs.Text.Spaced
import TextQuery.Proofs.Query.Readings
import TextQuery.Proofs.Query.Spelling
import TextQuery.Proofs.Query.Settled
import TextQuery.Proofs.Query.Prepared
import TextQuery.Proofs.Query.Rereading
import TextQuery.Proofs.Query.Roundtrip
import TextQuery.Proofs.Query.Grouping
import TextQuery.Proofs.Query.Simple
import TextQuery.Proofs.Delimited.Records
import TextQuery.Proofs.Files.Tree
import TextQuery.Proofs.Files.Change
import TextQuery.Proofs.Command.RecordFile
import TextQuery.Proofs.Files.Backup
import TextQuery.Proofs.Files.Stages
import TextQuery.Proofs.Files.Rotation
import TextQuery.Proofs.Command.ResultTable
import TextQuery.Proofs.QuerySet
import TextQuery.Proofs.Selection
import TextQuery.Proofs.Command.Check
import TextQuery.Proofs.Command.Columns
import TextQuery.Proofs.Command.Failure
import TextQuery.Proofs.Query.Scan
import TextQuery.Proofs.Query.Occurrence
import TextQuery.Proofs.Query.Proximity
import TextQuery.Proofs.Query.Partners
import TextQuery.Proofs.Query.Rearrangement
import TextQuery.Proofs.Query.Boundaries
import TextQuery.Proofs.Query.Quoting
import TextQuery.Proofs.Unicode.Recomposition
import TextQuery.Proofs.Text.Renormal
import TextQuery.Proofs.Query.Extent
import TextQuery.Proofs.Report.Evaluation
import TextQuery.Proofs.Query.LetterCase
import TextQuery.Proofs.Report.Outline
import TextQuery.Proofs.Text.Offsets
import TextQuery.Proofs.Query.Search
