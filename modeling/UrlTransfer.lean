import UrlTransfer.Act
import UrlTransfer.Bytes
import UrlTransfer.Cli.Arguments
import UrlTransfer.Cli.Failure
import UrlTransfer.Cli.Grammar
import UrlTransfer.Cli.Relay
import UrlTransfer.Cli.Run
import UrlTransfer.Codec.Base64
import UrlTransfer.Codec.Sha1
import UrlTransfer.Dns.Authorization
import UrlTransfer.Dns.Fault
import UrlTransfer.Dns.Hosts
import UrlTransfer.Dns.Lookup
import UrlTransfer.Dns.Message
import UrlTransfer.Dns.Name
import UrlTransfer.Dns.NameServer
import UrlTransfer.Dns.Record
import UrlTransfer.Dns.RecordData
import UrlTransfer.Dns.RecordType
import UrlTransfer.Dns.Resolver
import UrlTransfer.Dns.Roster
import UrlTransfer.Dns.ServiceBinding
import UrlTransfer.Dns.Settings
import UrlTransfer.Dns.Wire
import UrlTransfer.Error
import UrlTransfer.File.Range
import UrlTransfer.File.Request
import UrlTransfer.File.Tree
import UrlTransfer.Http.Body
import UrlTransfer.Http.BodyStream
import UrlTransfer.Http.Fault
import UrlTransfer.Http.Head
import UrlTransfer.Http.Headers
import UrlTransfer.Http.Line
import UrlTransfer.Http.Method
import UrlTransfer.Http.Request
import UrlTransfer.Http.Response
import UrlTransfer.Http.Service
import UrlTransfer.Http.Stats
import UrlTransfer.Http.Status
import UrlTransfer.Http.Transfer
import UrlTransfer.Http.Version
import UrlTransfer.Idna.Direction
import UrlTransfer.Idna.Domain
import UrlTransfer.Idna.Joiner
import UrlTransfer.Idna.Mapping
import UrlTransfer.Idna.Punycode
import UrlTransfer.Json.Number
import UrlTransfer.Json.Reader
import UrlTransfer.Json.Value
import UrlTransfer.Main
import UrlTransfer.Net.Address
import UrlTransfer.Net.Client
import UrlTransfer.Net.Connect
import UrlTransfer.Net.Strategy
import UrlTransfer.Net.System
import UrlTransfer.Proofs.Agreement
import UrlTransfer.Proofs.Cli.Relaying
import UrlTransfer.Proofs.Codec.Base64
import UrlTransfer.Proofs.Deferring
import UrlTransfer.Proofs.Dns.Hollow
import UrlTransfer.Proofs.Dns.Hosting
import UrlTransfer.Proofs.Dns.RecordKinds
import UrlTransfer.Proofs.Dns.Rotation
import UrlTransfer.Proofs.Dns.Search
import UrlTransfer.Proofs.Dns.Transaction
import UrlTransfer.Proofs.File.Cursor
import UrlTransfer.Proofs.Http.Announcing
import UrlTransfer.Proofs.Http.Breaking
import UrlTransfer.Proofs.Http.Chunked
import UrlTransfer.Proofs.Http.Codings
import UrlTransfer.Proofs.Http.Cutting
import UrlTransfer.Proofs.Http.Delimiting
import UrlTransfer.Proofs.Http.Draining
import UrlTransfer.Proofs.Http.Dropping
import UrlTransfer.Proofs.Http.Due
import UrlTransfer.Proofs.Http.Exchanges
import UrlTransfer.Proofs.Http.Fetching
import UrlTransfer.Proofs.Http.Heads
import UrlTransfer.Proofs.Http.Hearing
import UrlTransfer.Proofs.Http.HostHeader
import UrlTransfer.Proofs.Http.Length
import UrlTransfer.Proofs.Http.Limiting
import UrlTransfer.Proofs.Http.Lines
import UrlTransfer.Proofs.Http.Messages
import UrlTransfer.Proofs.Http.ReadingBack
import UrlTransfer.Proofs.Http.Redirections
import UrlTransfer.Proofs.Http.Reruns
import UrlTransfer.Proofs.Http.Resending
import UrlTransfer.Proofs.Http.Sighting
import UrlTransfer.Proofs.Http.StatusLine
import UrlTransfer.Proofs.Http.Unmarked
import UrlTransfer.Proofs.Http.Writing
import UrlTransfer.Proofs.Idna.Ascii
import UrlTransfer.Proofs.Keeping
import UrlTransfer.Proofs.Net.Attempting
import UrlTransfer.Proofs.Net.Cutting
import UrlTransfer.Proofs.Net.Dialling
import UrlTransfer.Proofs.Net.Links
import UrlTransfer.Proofs.Stream.Accounting
import UrlTransfer.Proofs.Stream.Arriving
import UrlTransfer.Proofs.Stream.Cutting
import UrlTransfer.Proofs.Stream.Parsing
import UrlTransfer.Proofs.Stream.Reading
import UrlTransfer.Proofs.Text.Graphic
import UrlTransfer.Proofs.Text.Numeral
import UrlTransfer.Proofs.Text.Utf8
import UrlTransfer.Proofs.Tls.Guarding
import UrlTransfer.Proofs.Url.Graphic
import UrlTransfer.Proofs.WebSocket.Aligning
import UrlTransfer.Proofs.WebSocket.Arriving
import UrlTransfer.Proofs.WebSocket.Bounding
import UrlTransfer.Proofs.WebSocket.Closing
import UrlTransfer.Proofs.WebSocket.Conveying
import UrlTransfer.Proofs.WebSocket.Decoding
import UrlTransfer.Proofs.WebSocket.Duplex
import UrlTransfer.Proofs.WebSocket.Echoing
import UrlTransfer.Proofs.WebSocket.FrameHeader
import UrlTransfer.Proofs.WebSocket.Halves
import UrlTransfer.Proofs.WebSocket.Handshake
import UrlTransfer.Proofs.WebSocket.Opening
import UrlTransfer.Proofs.WebSocket.Portions
import UrlTransfer.Proofs.WebSocket.Receiving
import UrlTransfer.Proofs.WebSocket.Refusing
import UrlTransfer.Proofs.WebSocket.Reserved
import UrlTransfer.Proofs.WebSocket.RoundTrip
import UrlTransfer.Proofs.WebSocket.Sending
import UrlTransfer.Proofs.WebSocket.Spelling
import UrlTransfer.Proofs.WebSocket.Twins
import UrlTransfer.Proofs.WebSocket.Upgrading
import UrlTransfer.Stream.Fault
import UrlTransfer.Stream.Inflow
import UrlTransfer.Stream.Outflow
import UrlTransfer.Stream.Reader
import UrlTransfer.Target
import UrlTransfer.Text.Alphanumeric
import UrlTransfer.Text.Blank
import UrlTransfer.Text.Composition
import UrlTransfer.Text.Duration
import UrlTransfer.Text.Lowercase
import UrlTransfer.Text.Numeral
import UrlTransfer.Text.Spans
import UrlTransfer.Text.Uppercase
import UrlTransfer.Text.Utf8
import UrlTransfer.Tls.Element
import UrlTransfer.Tls.Fault
import UrlTransfer.Tls.Handshake
import UrlTransfer.Tls.Identity
import UrlTransfer.Tls.NameConstraints
import UrlTransfer.Tls.Pem
import UrlTransfer.Tls.Roots
import UrlTransfer.Tls.ServerName
import UrlTransfer.Tls.TrustAnchor
import UrlTransfer.Url.Basic
import UrlTransfer.Url.Host
import UrlTransfer.Url.Percent
import UrlTransfer.Url.Reader
import UrlTransfer.WebSocket.Client
import UrlTransfer.WebSocket.Echo
import UrlTransfer.WebSocket.Fault
import UrlTransfer.WebSocket.Frame
import UrlTransfer.WebSocket.Handshake
import UrlTransfer.WebSocket.Header
import UrlTransfer.WebSocket.Opcode
import UrlTransfer.WebSocket.Server
import UrlTransfer.WebSocket.Session
