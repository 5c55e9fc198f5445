import HttpRequest.Text.Split
import HttpRequest.Text.Utf8
import HttpRequest.Text.Charset
import HttpRequest.Text.Escape
import HttpRequest.Number.Binary
import HttpRequest.Uri
import HttpRequest.Uri.Grammar
import HttpRequest.Header.Cookie
import HttpRequest.Header.Locale
import HttpRequest.Header.Date
import HttpRequest.RequestId
import HttpRequest.Param.Form
import HttpRequest.Param.Cache
import HttpRequest.Attribute.Layers
import HttpRequest.Attempt
import HttpRequest.Text.Decoder
import HttpRequest.Body.Signal
import HttpRequest.Body.Source
import HttpRequest.Body.Reader
import HttpRequest.Body.Notify
import HttpRequest.Session
import HttpRequest.Identity
import HttpRequest.Logging
import HttpRequest.Settings.Document
import HttpRequest.Request.Basic
import HttpRequest.Request.Metadata
import HttpRequest.Request.Parameters
import HttpRequest.Request.Lifecycle
import HttpRequest.Dispatch.Nested
import HttpRequest.Connection
import HttpRequest.Request.Describe
import HttpRequest.Report.Request
import HttpRequest.Scripted.Collaborators
import HttpRequest.Proofs.Attribute.Visibility
import HttpRequest.Proofs.Param.Merge
import HttpRequest.Proofs.Attempt
import HttpRequest.Proofs.Request.Operation
import HttpRequest.Proofs.Request.Parameters
import HttpRequest.Proofs.Dispatch.Program
import HttpRequest.Proofs.Dispatch.Restoration
import HttpRequest.Proofs.Dispatch.Accumulation
import HttpRequest.Proofs.Body.Arrival
import HttpRequest.Proofs.Body.Conduct
import HttpRequest.Proofs.Body.Account
import HttpRequest.Proofs.Body.Listener
import HttpRequest.Proofs.Body.Conveyance
import HttpRequest.Proofs.Body.Fidelity
import HttpRequest.Proofs.Body.Attachment
import HttpRequest.Proofs.Body.Wakefulness
import HttpRequest.Proofs.Body.Abandonment
import HttpRequest.Proofs.Body.Operation
import HttpRequest.Proofs.Body.Usage
import HttpRequest.Proofs.Body.Steadfast
import HttpRequest.Proofs.Text.Utf8
import HttpRequest.Proofs.Text.Decoding
import HttpRequest.Proofs.Body.Supply
import HttpRequest.Proofs.Body.Gather
import HttpRequest.Proofs.Body.Perusal
import HttpRequest.Proofs.Text.Escape
import HttpRequest.Proofs.Text.Path
import HttpRequest.Proofs.Request.Metadata
import HttpRequest.Proofs.Request.Standing
import HttpRequest.Proofs.Dispatch.Entry
import HttpRequest.Proofs.Dispatch.Nest
import HttpRequest.Proofs.Dispatch.Origin
import HttpRequest.Proofs.Dispatch.Location
import HttpRequest.Proofs.Body.Wire
import HttpRequest.Proofs.Dispatch.Interruption
import HttpRequest.Proofs.Connection.Isolation
import HttpRequest.Proofs.Dispatch.Coherence
import HttpRequest.Proofs.Dispatch.ErrorTarget
import HttpRequest.Proofs.Body.Whole
import HttpRequest.Proofs.Request.Form
import HttpRequest.Proofs.Dispatch.Extraction
import HttpRequest.Proofs.Attribute.Survival
import HttpRequest.Proofs.Body.Moves
import HttpRequest.Proofs.Request.Moves
import HttpRequest.Proofs.Dispatch.Journal
import HttpRequest.Proofs.Session.Record
import HttpRequest.Proofs.Connection.Sessions
import HttpRequest.Proofs.Dispatch.Protocol
import HttpRequest.Proofs.Dispatch.BodyMode
import HttpRequest.Proofs.Attribute.Ownership
import HttpRequest.Proofs.Text.Slashes
import HttpRequest.Proofs.Dispatch.Resolution
import HttpRequest.Proofs.Param.Encoding
import HttpRequest.Proofs.Param.Names
import HttpRequest.Proofs.Param.Pairs
import HttpRequest.Proofs.Param.Limit
import HttpRequest.Proofs.Param.Component
import HttpRequest.Proofs.Session.Requested
import HttpRequest.Proofs.Header.DateText
import HttpRequest.Proofs.Header.DateReading
import HttpRequest.Proofs.Text.Canonical
import HttpRequest.Proofs.Text.PathDecoding
import HttpRequest.Proofs.Header.Cookies
import HttpRequest.Proofs.Header.Ranking
import HttpRequest.Proofs.Attribute.Chronicle
import HttpRequest.Proofs.Dispatch.Interim
import HttpRequest.Proofs.Body.Books
import HttpRequest.Proofs.Param.Filling
