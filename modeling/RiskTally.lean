import RiskTally.Text.Split
import RiskTally.Text.Blank
import RiskTally.Text.Uppercase
import RiskTally.Text.Lowercase
import RiskTally.Number.Integer
import RiskTally.Number.Shortest
import RiskTally.Number.Decimal
import RiskTally.Cell
import RiskTally.Encoding
import RiskTally.Csv.Sheet
import RiskTally.Keyed
import RiskTally.Column
import RiskTally.Dataset
import RiskTally.Load
import RiskTally.Rule.Table
import RiskTally.Mask
import RiskTally.Expression.Basic
import RiskTally.Profile
import RiskTally.Export.Sheet
import RiskTally.Present.Summary
import RiskTally.Settings.EnvironmentFile
import RiskTally.Command.Arguments
import RiskTally.Session
import RiskTally.Main
import RiskTally.Proofs.Alignment
import RiskTally.Proofs.TwoLevels
import RiskTally.Proofs.Connectives
import RiskTally.Proofs.RuleTable
import RiskTally.Proofs.Books
import RiskTally.Proofs.WatchlistScores
import RiskTally.Proofs.RuleOrder
import RiskTally.Proofs.Monotonicity
import RiskTally.Proofs.Queries
import RiskTally.Proofs.AddedFiles
import RiskTally.Proofs.RowOrder
import RiskTally.Proofs.Renderings
import RiskTally.Proofs.RuleIsolation
import RiskTally.Proofs.FolderLoads
import RiskTally.Proofs.NamePaths
import RiskTally.Proofs.Utf8RoundTrip
import RiskTally.Proofs.TableSheets
import RiskTally.Proofs.ExportedSheets
import RiskTally.Proofs.BytewiseSheets
import RiskTally.Proofs.EncodingFallback
import RiskTally.Proofs.ColumnsByName
import RiskTally.Proofs.LoggedAlerts
import RiskTally.Proofs.ColumnTypes
import RiskTally.Proofs.FilesByRows
import RiskTally.Proofs.TypedCells
import RiskTally.Proofs.ExportedColumns
import RiskTally.Proofs.SheetColumns
import RiskTally.Proofs.WatchlistRows
import RiskTally.Proofs.AddedEntries
import RiskTally.Proofs.ListedNames
import RiskTally.Proofs.RuleLines
import RiskTally.Proofs.ColumnTexts
import RiskTally.Proofs.QuotedLists
import RiskTally.Proofs.MemberEqualities
import RiskTally.Proofs.BinaryParts
import RiskTally.Proofs.BinaryValues
import RiskTally.Proofs.Duplicates
import RiskTally.Proofs.Rounding
import RiskTally.Proofs.NearestFloats
import RiskTally.Proofs.Decimals
import RiskTally.Proofs.RoundedIntegers
import RiskTally.Proofs.Comparisons
import RiskTally.Proofs.IntegerComparisons
import RiskTally.Proofs.ShortestDigits
import RiskTally.Proofs.NumberTexts
import RiskTally.Proofs.OwnCells
import RiskTally.Proofs.AddressableColumns
import RiskTally.Proofs.ColoredOutput
import RiskTally.Proofs.DecodedBytes
import RiskTally.Proofs.CapitalForms
import RiskTally.Proofs.CanonicalNames
import RiskTally.Proofs.WrittenComparisons
import RiskTally.Proofs.RepeatedNames
import RiskTally.Proofs.GroupedIntegers
import RiskTally.Proofs.UnclosedQuotes
import RiskTally.Proofs.LoggedAlerts
