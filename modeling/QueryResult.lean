import QueryResult.Binary
import QueryResult.Calendar.Clock
import QueryResult.Calendar.Date
import QueryResult.Calendar.Instant
import QueryResult.Calendar.Reform
import QueryResult.Column.Metadata
import QueryResult.Column.Relation
import QueryResult.Column.ScalarType
import QueryResult.Cursor.Accessor
import QueryResult.Cursor.Basic
import QueryResult.Cursor.Refused
import QueryResult.DecodeError
import QueryResult.Json.Basic
import QueryResult.Json.Literal
import QueryResult.Json.Reader
import QueryResult.Json.Record
import QueryResult.Json.Writer
import QueryResult.Number.Decimal
import QueryResult.Number.FixedPoint
import QueryResult.Number.Floating
import QueryResult.Number.Integer
import QueryResult.Number.Numeral
import QueryResult.Number.Power
import QueryResult.Pattern.Basic
import QueryResult.Pattern.Element
import QueryResult.Pattern.Render
import QueryResult.Proofs.Base64
import QueryResult.Proofs.BinaryText
import QueryResult.Proofs.CanonicalToken
import QueryResult.Proofs.ClockReading
import QueryResult.Proofs.ClockViews
import QueryResult.Proofs.CursorDelivery
import QueryResult.Proofs.CursorEnd
import QueryResult.Proofs.CursorErrors
import QueryResult.Proofs.CursorReads
import QueryResult.Proofs.CursorStep
import QueryResult.Proofs.DateStart
import QueryResult.Proofs.DayCountToken
import QueryResult.Proofs.DayNumber
import QueryResult.Proofs.DecimalRounding
import QueryResult.Proofs.DecimalValue
import QueryResult.Proofs.DecodingErrors
import QueryResult.Proofs.Digits
import QueryResult.Proofs.DisplayOrder
import QueryResult.Proofs.FixedPointToken
import QueryResult.Proofs.InstantOrder
import QueryResult.Proofs.IntegerReaders
import QueryResult.Proofs.LegacyToken
import QueryResult.Proofs.NameLookup
import QueryResult.Proofs.NullTracking
import QueryResult.Proofs.NumberGrammar
import QueryResult.Proofs.Outcome
import QueryResult.Proofs.ParameterReading
import QueryResult.Proofs.ParameterSpelling
import QueryResult.Proofs.PatternCut
import QueryResult.Proofs.PatternQuoting
import QueryResult.Proofs.PatternScan
import QueryResult.Proofs.ScaleBounds
import QueryResult.Proofs.SessionContext
import QueryResult.Proofs.SessionInstants
import QueryResult.Proofs.SpanSearch
import QueryResult.Proofs.Spelling
import QueryResult.Proofs.StageFields
import QueryResult.Proofs.StageSecrets
import QueryResult.Proofs.SupportedReadings
import QueryResult.Proofs.TimeToken
import QueryResult.Proofs.TimestampText
import QueryResult.Proofs.TimestampToken
import QueryResult.Proofs.ZoneHistory
import QueryResult.Proofs.ZonedToken
import QueryResult.ReadError
import QueryResult.Representation
import QueryResult.Session.Context
import QueryResult.Session.Parameters
import QueryResult.Stage.Basic
import QueryResult.Stage.Credentials
import QueryResult.Stage.Provider
import QueryResult.Temporal.DayCount
import QueryResult.Temporal.TimeValue
import QueryResult.Temporal.Timestamp
import QueryResult.Text.Ascii
import QueryResult.Text.Blank
import QueryResult.Text.Digits
import QueryResult.Text.Hexadecimal
import QueryResult.Text.Hidden
import QueryResult.Text.Quoted
import QueryResult.Value.Basic
import QueryResult.Value.Decode
import QueryResult.Zone.Americas
import QueryResult.Zone.Basic
import QueryResult.Zone.Database
import QueryResult.Zone.Elsewhere
import QueryResult.Zone.Europe
import QueryResult.Zone.Index
