import Rulebook.Validation
import Rulebook.Proofs.Layers
import Rulebook.Proofs.Assessment
import Rulebook.Proofs.Satisfaction
import Rulebook.Proofs.DottedKeys
import Rulebook.Proofs.Lifting
import Rulebook.Proofs.Nesting
import Rulebook.Proofs.Grounds
import Rulebook.Proofs.Tour
import Rulebook.Proofs.Places
import Rulebook.Proofs.Honesty
import Rulebook.Proofs.Templates
import Rulebook.Proofs.Presentation
import Rulebook.Proofs.Strictness
import Rulebook.Proofs.Unread
import Rulebook.Proofs.DoubleValues
import Rulebook.Proofs.Sameness
import Rulebook.Proofs.Rearrangement
import Rulebook.Proofs.Parts
import Rulebook.Proofs.Shapes
import Rulebook.Proofs.Faults
import Rulebook.Proofs.RuleDocuments
import Rulebook.Proofs.NumericText
import Rulebook.Proofs.Rounding
import Rulebook.Proofs.Numerals
import Rulebook.Proofs.ArgumentTokens
import Rulebook.Proofs.WideIntegers
import Rulebook.Proofs.ShortestFigures
import Rulebook.Proofs.TidyNumerals
import Rulebook.Proofs.RoundTrip
import Rulebook.Proofs.NearestDouble
import Rulebook.Proofs.NumeralGrammar
import Rulebook.Proofs.Evaluations
import Rulebook.Proofs.MissingValues
import Rulebook.Proofs.Transparency
import Rulebook.Proofs.JoinedTokens
import Rulebook.Proofs.PatternLiterals
import Rulebook.Proofs.Arguments
import Rulebook.Proofs.PresenceGroups
import Rulebook.Proofs.TokenMeanings
import Rulebook.Proofs.DecimalPlaces
import Rulebook.Proofs.ListedTokens
import Rulebook.Proofs.Limits
import Rulebook.Proofs.DigitCounts
import Rulebook.Proofs.PlainLanguage
import Rulebook.Proofs.Calendar
import Rulebook.Proofs.DateTexts
import Rulebook.Proofs.DateFormats
import Rulebook.Proofs.Moments
import Rulebook.Proofs.InstantTexts
import Rulebook.Proofs.FormatShapes
import Rulebook.Proofs.CaseVariants
import Rulebook.Proofs.MailAddresses
import Rulebook.Proofs.TextEdges
import Rulebook.Proofs.UrlParts
import Rulebook.Proofs.DigitPatterns
import Rulebook.Proofs.DottedQuads
import Rulebook.Proofs.UserNames
import Rulebook.Proofs.PhoneNumbers
import Rulebook.Proofs.PatternFlags
import Rulebook.Proofs.Repeats
import Rulebook.Proofs.Descent
