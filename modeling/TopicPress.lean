import TopicPress.Main
import TopicPress.Event.Balance
import TopicPress.Proofs.EventTree
import TopicPress.Proofs.Rendering
import TopicPress.Proofs.Playing
import TopicPress.Proofs.TopicTree
import TopicPress.Proofs.Nesting
import TopicPress.Proofs.XmlGrammar
import TopicPress.Proofs.XmlStream
import TopicPress.Proofs.XmlWellFormed
import TopicPress.Proofs.Vocabulary
import TopicPress.Proofs.Coverage
import TopicPress.Proofs.ShownText
import TopicPress.Proofs.TextPreservation
import TopicPress.Proofs.EventReading
import TopicPress.Proofs.JsonGrammar
import TopicPress.Proofs.JsonReading
import TopicPress.Proofs.EventLines
import TopicPress.Proofs.TopicLayout
import TopicPress.Proofs.ElementMapping
import TopicPress.Proofs.PrologReading
import TopicPress.Proofs.DeliveryProgram
import TopicPress.Proofs.Delivery
import TopicPress.Proofs.EventText
import TopicPress.Proofs.Receiving
import TopicPress.Proofs.XmlReading
import TopicPress.Proofs.XmlReadBack
import TopicPress.Proofs.BalanceReading
import TopicPress.Proofs.BalanceLanguage
import TopicPress.Proofs.TreeRendering
import TopicPress.Proofs.WriterBalance
import TopicPress.Proofs.PrologOrder
import TopicPress.Proofs.TopicIdentifier
import TopicPress.Proofs.TitleIdentifier
import TopicPress.Proofs.IdentifierOption
import TopicPress.Proofs.FailurePlace
import TopicPress.Proofs.Course
import TopicPress.Proofs.CourseRuns
import TopicPress.Proofs.IgnoredFrontMatter
import TopicPress.Proofs.DiagnosticData
import TopicPress.Proofs.XmlProcessor
import TopicPress.Proofs.XmlWhiteSpace
import TopicPress.Proofs.WriteFailure
import TopicPress.Proofs.RefusedEvents
import TopicPress.Proofs.XmlPieces
import TopicPress.Proofs.WrittenCharacters
import TopicPress.Proofs.FileWriting
import TopicPress.Proofs.ConversionEffects
import TopicPress.Proofs.Utf8RoundTrip
import TopicPress.Proofs.Utf8Strictness
import TopicPress.Proofs.EncodingReading
import TopicPress.Proofs.AcquisitionAgreement
import TopicPress.Proofs.CharacterStreams
import TopicPress.Proofs.FrontMatterUpdates
import TopicPress.Proofs.PlainEntries
import TopicPress.Proofs.FrontMatterHistory
import TopicPress.Proofs.LineScanning
import TopicPress.Proofs.ScannedBlocks
import TopicPress.Proofs.FencedBlocks
import TopicPress.Proofs.SpelledEntries
import TopicPress.Proofs.QuotedEntries
import TopicPress.Proofs.BareEntries
import TopicPress.Proofs.YamlRuns
import TopicPress.Proofs.YamlReading
import TopicPress.Proofs.BareReading
import TopicPress.Proofs.PlainSpellings
import TopicPress.Proofs.StandardIntegers
import TopicPress.Proofs.NumbersShown
import TopicPress.Proofs.FrontMatterAgreement
import TopicPress.Proofs.Runs
import TopicPress.Proofs.SlugSteps
import TopicPress.Proofs.SlugForm
import TopicPress.Proofs.KeptNodes
import TopicPress.Proofs.TextRuns
import TopicPress.Proofs.Grouping
