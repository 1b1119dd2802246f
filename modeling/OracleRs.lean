import OracleRs.Lib.Cursor
import OracleRs.Lib.BigEndian
import OracleRs.Lib.Decimal
import OracleRs.Lib.Drive
import OracleRs.Constants
import OracleRs.Text
import OracleRs.Types.Number
import OracleRs.Types.NumberScan
import OracleRs.Types.NumberRoundTrip
import OracleRs.Types.Date
import OracleRs.Types.Interval
import OracleRs.Types.Binary
import OracleRs.Types.Value
import OracleRs.Buffer.Read
import OracleRs.Connection.Receive
import OracleRs.Connection.Reassembly
import OracleRs.Buffer.Wire
import OracleRs.Response.Describe
import OracleRs.Response.Parameters
import OracleRs.Response.Parse
import OracleRs.Response.ParserAgreement
import OracleRs.Connection.Query
import OracleRs.Buffer.RoundTrip
import OracleRs.Buffer.Size
import OracleRs.Connection.OutBinds
import OracleRs.Connection.Send
import OracleRs.Lib.IndexMap
import OracleRs.Lib.Machine
import OracleRs.Messages.BindRow
import OracleRs.Messages.ExecuteBinds
import OracleRs.Messages.ObjectRoundTrip
import OracleRs.Response.ErrorDecoders
import OracleRs.Statement.BindNames
import OracleRs.Statement.Cache
import OracleRs.Statement.CacheCapacity
import OracleRs.Statement.CursorOwnership
import OracleRs.Statement.LeadingComments
import OracleRs.Statement.Returning
import OracleRs.Statement.SqlrsBinds
import OracleRs.Types.Json
import OracleRs.Types.Oson
import OracleRs.Messages.Batch
import OracleRs.Connection.Capabilities
import OracleRs.Connection.Closing
import OracleRs.Connection.LobChunks
import OracleRs.Connection.MarkerReset
import OracleRs.Connection.Pairing
import OracleRs.Connection.MultiPacket
import OracleRs.Connection.Scroll
import OracleRs.Lib.Agreement
import OracleRs.Lib.Traversal
import OracleRs.Messages.Auth
import OracleRs.Messages.AuthPanics
import OracleRs.Messages.Encryption
import OracleRs.Messages.KeyValues
import OracleRs.Connection.Conversation
import OracleRs.Connection.HonestServer
import OracleRs.Response.BatchResponse
import OracleRs.Response.DescribeParsers
import OracleRs.Response.ErrorCodes
import OracleRs.Response.IoVectors
import OracleRs.Response.RejectedValues
import OracleRs.Response.Resynchronisation
import OracleRs.Response.RowDecoder
import OracleRs.Response.SessionState
import OracleRs.Types.BinaryOrder
import OracleRs.Types.NumberCanonical
import OracleRs.Types.NumberGrammar
import OracleRs.Types.NumberDecoding
import OracleRs.Types.OsonBinary
import OracleRs.Types.OsonDictionary
import OracleRs.Types.OsonReads
import OracleRs.Types.OsonSafety
import OracleRs.Types.OsonTruncation
import OracleRs.Types.Vector
import OracleRs.Types.VectorBounds
import OracleRs.Types.DateArithmetic
import OracleRs.Types.IntervalText
import OracleRs.Types.RowId
import OracleRs.Types.PickleAlignment
import OracleRs.Buffer.Skip
import OracleRs.Buffer.Bounds
import OracleRs.Buffer.Capacity
import OracleRs.Buffer.Errors
import OracleRs.Statement.LruEviction
import OracleRs.Statement.ExecCall
import OracleRs.Connection.ConnectString
import OracleRs.Connection.LobPrograms
