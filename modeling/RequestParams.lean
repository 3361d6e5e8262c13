import RequestParams.Declaration.Derivation
import RequestParams.Document
import RequestParams.Extraction
import RequestParams.Logging.Config
import RequestParams.RecordType.Printed
import RequestParams.Text.Identifier
import RequestParams.Proofs.RecordWrites
import RequestParams.Proofs.AtomicDecoding
import RequestParams.Proofs.PipelineAgreement
import RequestParams.Proofs.DocumentHistory
import RequestParams.Proofs.AnnotationRoundTrip
import RequestParams.Proofs.CookieRoundTrip
import RequestParams.Proofs.IntegerTexts
import RequestParams.Proofs.QueryLookup
import RequestParams.Proofs.RequestRoundTrip
import RequestParams.Proofs.FailureOrder
import RequestParams.Proofs.DecodedFields
import RequestParams.Proofs.RequestPadding
import RequestParams.Proofs.RouteOrder
import RequestParams.Proofs.DescribedParameters
import RequestParams.Proofs.RouteAcceptance
import RequestParams.Proofs.NearestMagnitude
import RequestParams.Proofs.ShortestDecimal
import RequestParams.Proofs.JsonGrammar
import RequestParams.Proofs.FloatText
import RequestParams.Proofs.JsonWriting
import RequestParams.Proofs.MemberReading
import RequestParams.Proofs.DocumentReading
import RequestParams.Proofs.DocumentedExamples
import RequestParams.Proofs.DerivableItems
import RequestParams.Proofs.FieldCalls
import RequestParams.Proofs.MessageText
import RequestParams.Proofs.TypeNames
import RequestParams.Proofs.RouteTemplates
import RequestParams.Proofs.CorrectRounding
import RequestParams.Proofs.FloatGrammar
import RequestParams.Proofs.ParameterMinima
