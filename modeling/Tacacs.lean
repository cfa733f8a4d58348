import Tacacs.Lib.Format
import Tacacs.Types
import Tacacs.Packet.Body
import Tacacs.Proof.Packet.Pieces
import Tacacs.Proof.Packet.Bodies
import Tacacs.Crypto
import Tacacs.Lib.Run
import Tacacs.Packet.Header
import Tacacs.Transport
import Tacacs.Server.Handler
import Tacacs.Server.Server
import Tacacs.Server.Serve
import Tacacs.Server.Group
import Tacacs.Cli.Aaa
import Tacacs.Proof.Server.Dialogue
import Tacacs.Proof.Server.Sequence
import Tacacs.Lib.Assoc
import Tacacs.Proof.Server.Users
import Tacacs.Proof.Server.Passwords
import Tacacs.Proof.Server.AuthTypes
import Tacacs.Proof.Server.Rules
import Tacacs.Proof.Server.Serve
import Tacacs.Proof.Server.Isolation
import Tacacs.Client
import Tacacs.Proof.Client
import Tacacs.Lib.Frames
import Tacacs.Proof.Framing
import Tacacs.Proof.Server.Registry
import Tacacs.Proof.Server.Multiplex
import Tacacs.Cli.Server
import Tacacs.Proof.Cli.Globs
import Tacacs.Proof.Cli.Sockets
import Tacacs.Connection
import Tacacs.Proof.Connection
import Tacacs.Proof.Exchanges
import Tacacs.Proof.Server.Gauge
import Tacacs.Proof.Server.Resolve
import Tacacs.Proof.Server.Precedence
import Tacacs.Proof.Cli.Reload
import Tacacs.Lib.Heap
import Tacacs.Yang.Config
import Tacacs.Yang.Redact
import Tacacs.Proof.Yang.Redact
import Tacacs.Proof.Server.SecretDns
import Tacacs.Proof.ClientFlags
import Tacacs.Lib.Traced
import Tacacs.Server.ServeConn
import Tacacs.Proof.Server.ServeConn
import Tacacs.Proof.Server.Alone
import Tacacs.Proof.Server.UndefinedFlags
import Tacacs.Proof.Server.CommandAvp
import Tacacs.Proof.Server.FirstReply
import Tacacs.Proof.Server.Patterns
import Tacacs.Proof.Server.Abort
import Tacacs.Proof.Numbers
import Tacacs.Proof.Rejection
import Tacacs.Cli.Accounter
import Tacacs.Proof.Cli.Accounting
import Tacacs.Proof.Server.Durations
import Tacacs.Proof.Server.Secret
import Tacacs.Lib.Text
import Tacacs.Proof.Yang.Validate
import Tacacs.Legacy.Udp
import Tacacs.Proof.Legacy.Udp
import Tacacs.Lib.Ip
import Tacacs.Proxy
import Tacacs.Proof.Proxy
import Tacacs.Proof.Decoders
import Tacacs.Cli.Composite
import Tacacs.Proof.Cli.Persistence
import Tacacs.Legacy.Tcp
import Tacacs.Proof.Legacy.Tcp
import Tacacs.Avp
import Tacacs.Proof.Avp
import Tacacs.Lib.Json
import Tacacs.Lib.Script
import Tacacs.Lib.Unwind
import Tacacs.Names
import Tacacs.Server.Dispatch
import Tacacs.Server.Middleware
import Tacacs.Proof.Server.Middleware
import Tacacs.Proof.Server.Recovery
import Tacacs.Cli.AcctLog
import Tacacs.Proof.Cli.AcctLog
import Tacacs.Proof.Server.Consults
import Tacacs.Cli.External
import Tacacs.Proof.Cli.External
import Tacacs.Proof.Yang.Watch
import Tacacs.Cli.Wiring
import Tacacs.Proof.Cli.Watch
import Tacacs.Cli.Commands
import Tacacs.Proof.Cli.Login
import Tacacs.Proof.Cli.Commands
import Tacacs.Yang.Load
import Tacacs.Proof.Yang.Load
import Tacacs.Cli.Startup
import Tacacs.Proof.Cli.Startup
import Tacacs.Proof.Cli.Drain
