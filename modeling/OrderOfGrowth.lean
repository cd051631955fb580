import OrderOfGrowth.Completion
import OrderOfGrowth.Main
import OrderOfGrowth.Proofs.Agreement
import OrderOfGrowth.Proofs.AnalyzeRun
import OrderOfGrowth.Proofs.Effects
import OrderOfGrowth.Proofs.Encoding
import OrderOfGrowth.Proofs.Estimate
import OrderOfGrowth.Proofs.Likeness
import OrderOfGrowth.Proofs.LowerCase
import OrderOfGrowth.Proofs.Matching
import OrderOfGrowth.Proofs.Nesting
import OrderOfGrowth.Proofs.CaseBlindness
import OrderOfGrowth.Proofs.ForeignCharacters
import OrderOfGrowth.Proofs.LineEnds
import OrderOfGrowth.Proofs.QuantityOrder
import OrderOfGrowth.Proofs.CurveOrder
import OrderOfGrowth.Proofs.Spellings
import OrderOfGrowth.Proofs.TableLookup
import OrderOfGrowth.Proofs.ChartPage
import OrderOfGrowth.Proofs.FileContents
import OrderOfGrowth.Proofs.Publishing
import OrderOfGrowth.Proofs.Storable
import OrderOfGrowth.Proofs.ChartRun
import OrderOfGrowth.Proofs.SourceRoutes
import OrderOfGrowth.Proofs.ChartDrawing
import OrderOfGrowth.Proofs.CheckedSettings
import OrderOfGrowth.Proofs.NearestDouble
import OrderOfGrowth.Proofs.ShortestDecimal
import OrderOfGrowth.Proofs.JsonGrammar
import OrderOfGrowth.Proofs.NumberText
import OrderOfGrowth.Proofs.JsonText
import OrderOfGrowth.Proofs.MachineOutput
import OrderOfGrowth.Proofs.Composition
import OrderOfGrowth.Proofs.FieldStack
import OrderOfGrowth.Proofs.Thinning
import OrderOfGrowth.Proofs.CurveTable
import OrderOfGrowth.Proofs.DefinitionShapes
import OrderOfGrowth.Proofs.LoopTokens
import OrderOfGrowth.Proofs.LanguageFamilies
import OrderOfGrowth.Proofs.ChartLines
import OrderOfGrowth.Proofs.CurveRange
import OrderOfGrowth.Proofs.MisplacedSettings
import OrderOfGrowth.Proofs.JsonLimits
import OrderOfGrowth.Proofs.ConfigurationSearch
import OrderOfGrowth.Proofs.WellFormedBytes
import OrderOfGrowth.Proofs.SourceContract
import OrderOfGrowth.Proofs.EscapedText
import OrderOfGrowth.Proofs.SingleWidth
import OrderOfGrowth.Proofs.VerbatimReports
import OrderOfGrowth.Proofs.LogTrace
import OrderOfGrowth.Proofs.VerdictRecord
import OrderOfGrowth.Proofs.LanguageNames
import OrderOfGrowth.Proofs.FileExtensions
import OrderOfGrowth.Proofs.LabelSpellings
import OrderOfGrowth.Proofs.TitledPage
import OrderOfGrowth.Proofs.Completions
import OrderOfGrowth.Proofs.Representable
import OrderOfGrowth.Proofs.Hundredths
import OrderOfGrowth.Proofs.MemoryReadout
import OrderOfGrowth.Proofs.FullUnits
