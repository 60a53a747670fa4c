import Abiscope.Address
import Abiscope.Architecture
import Abiscope.Command.FileTree
import Abiscope.Command.Grammar
import Abiscope.Command.Help
import Abiscope.Command.Request
import Abiscope.Command.Run
import Abiscope.Corpus.Basic
import Abiscope.Corpus.Reading
import Abiscope.Difference
import Abiscope.Difference.Declaration
import Abiscope.Difference.Side
import Abiscope.Difference.Statistics
import Abiscope.Difference.TypeChange
import Abiscope.Difference.TypeComparison
import Abiscope.Difference.TypeDifference
import Abiscope.Difference.TypePart
import Abiscope.Elf.Bytes
import Abiscope.Elf.Dynamic
import Abiscope.Elf.Header
import Abiscope.Elf.Image
import Abiscope.Elf.Integrity
import Abiscope.Elf.Section
import Abiscope.Elf.SymbolSection
import Abiscope.Elf.VersionTable
import Abiscope.Failure
import Abiscope.Main
import Abiscope.Mangling
import Abiscope.Mangling.Legacy
import Abiscope.Mangling.Punycode
import Abiscope.Mangling.V0
import Abiscope.Pattern
import Abiscope.Pattern.Automaton
import Abiscope.Pattern.Expression
import Abiscope.Pattern.Meaning
import Abiscope.Pattern.Parser
import Abiscope.Proofs.Removals
import Abiscope.Proofs.SideKeys
import Abiscope.Report
import Abiscope.Report.TypeLines
import Abiscope.Settings.DefaultSuppressions
import Abiscope.Settings.Logging
import Abiscope.SourceLocation
import Abiscope.Suppression
import Abiscope.Suppression.Criteria
import Abiscope.Suppression.File
import Abiscope.Suppression.FileReader
import Abiscope.Suppression.FunctionRule
import Abiscope.Suppression.TypeRule
import Abiscope.Suppression.VariableRule
import Abiscope.Symbol.AliasIndex
import Abiscope.Symbol.Basic
import Abiscope.Symbol.Groups
import Abiscope.Symbol.Kind
import Abiscope.Symbol.Selection
import Abiscope.Symbol.Table
import Abiscope.Symbol.Walk
import Abiscope.Text.Escape
import Abiscope.Text.FilePath
import Abiscope.Text.Hexadecimal
import Abiscope.Text.Utf8
import Abiscope.Toml.Reader
import Abiscope.Toml.Value
import Abiscope.TypeGraph.Basic
import Abiscope.TypeGraph.Naming
import Abiscope.TypeGraph.Sizing
import Abiscope.TypeGraph.Trail
import Abiscope.Unicode.Categories
import Abiscope.Unicode.CharSet
import Abiscope.Unicode.Folding
import Abiscope.Unicode.Properties
import Abiscope.Unicode.Scripts
import Abiscope.Proofs.ComparisonRuns
import Abiscope.Proofs.ExposedChanges
import Abiscope.Proofs.FewerRules
import Abiscope.Proofs.Histories
import Abiscope.Proofs.LoneDeclarations
import Abiscope.Proofs.Annotations
import Abiscope.Proofs.UnchangedDeclarations
import Abiscope.Proofs.MatchingTypes
import Abiscope.Proofs.SelfComparison
import Abiscope.Proofs.RuleCriteria
import Abiscope.Proofs.MalformedPatterns
import Abiscope.Proofs.OfferedSymbols
import Abiscope.Proofs.ReadingWithRules
import Abiscope.Proofs.FurtherRules
import Abiscope.Proofs.MirroredDifferences
import Abiscope.Proofs.Incompatibility
import Abiscope.Proofs.KeptSymbols
import Abiscope.Proofs.SymbolVersions
import Abiscope.Proofs.ByteOrder
import Abiscope.Proofs.SymbolTables
import Abiscope.Proofs.AliasClasses
import Abiscope.Proofs.ReportText
import Abiscope.Proofs.ReportCounts
import Abiscope.Proofs.SymbolSorts
import Abiscope.Proofs.AccountedKeys
import Abiscope.Proofs.InertRules
import Abiscope.Proofs.Batches
import Abiscope.Proofs.SectionPlaces
import Abiscope.Proofs.WaysOfReaching
import Abiscope.Proofs.RecordLayouts
import Abiscope.Proofs.PlainComparisons
import Abiscope.Proofs.RepeatedPairs
import Abiscope.Proofs.FirstRules
import Abiscope.Proofs.ChangedFunctions
import Abiscope.Proofs.InsertedMembers
import Abiscope.Proofs.SurvivingChanges
import Abiscope.Proofs.ReportEntries
import Abiscope.Proofs.EditScripts
import Abiscope.Proofs.KernelExports
import Abiscope.Proofs.CodeAddresses
import Abiscope.Proofs.CommonInstances
import Abiscope.Proofs.AddedCriteria
import Abiscope.Proofs.LoadedFiles
import Abiscope.Proofs.EmptyPatterns
import Abiscope.Proofs.TypeNames
import Abiscope.Proofs.ArrayCircles
import Abiscope.Proofs.SizeFailures
