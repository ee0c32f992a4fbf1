import Rgrok.Lib.Machine
import Rgrok.Lib.Custody
import Rgrok.Lib.Passage
import Rgrok.Lib.Program
import Rgrok.Lib.Assoc
import Rgrok.Lib.Channel
import Rgrok.Lib.Semaphore
import Rgrok.Lib.BigEndian
import Rgrok.Lib.Framing
import Rgrok.Lib.Intake
import Rgrok.Lib.Arrivals
import Rgrok.Lib.Text
import Rgrok.Lib.LossyText
import Rgrok.Lib.Uri
import Rgrok.Lib.Ring
import Rgrok.Lib.Base64
import Rgrok.Proto.Messages
import Rgrok.Proto.Transport
import Rgrok.Proto.Driver
import Rgrok.Proto.WsCompat
import Rgrok.Http.Headers
import Rgrok.Http.Lines
import Rgrok.Http.Target
import Rgrok.Proto.Subdomain
import Rgrok.Proto.Inspect
import Rgrok.Proto.InspectJson
import Rgrok.Proto.Authority
import Rgrok.Proto.AuthorityGrammar
import Rgrok.Server.Config
import Rgrok.Server.TunnelManager
import Rgrok.Server.Captures
import Rgrok.Server.StoreInvariant
import Rgrok.Server.Tasks
import Rgrok.Server.Lifecycle
import Rgrok.Server.Teardown
import Rgrok.Server.Interleaving
import Rgrok.Server.StoreSteps
import Rgrok.Server.Setups
import Rgrok.Server.Duty
import Rgrok.Server.Moves
import Rgrok.Server.Holdings
import Rgrok.Server.Records
import Rgrok.Server.Sockets
import Rgrok.Server.Refinement
import Rgrok.Server.Guarantees
import Rgrok.Server.Roster
import Rgrok.Server.RosterSteps
import Rgrok.Server.Sessions
import Rgrok.Server.Progress
import Rgrok.Server.Admission
import Rgrok.Server.Tokens
import Rgrok.Server.Correlation
import Rgrok.Server.PendingStreams
import Rgrok.Server.ControlReader
import Rgrok.Server.Server
import Rgrok.Server.ServerSteps
import Rgrok.Server.ControlQueue
import Rgrok.Server.Answering
import Rgrok.Server.Requests
import Rgrok.Server.RequestSteps
import Rgrok.Server.RequestOutcome
import Rgrok.Server.Acknowledgement
import Rgrok.Server.Routing
import Rgrok.Server.Idle
import Rgrok.Server.Revocation
import Rgrok.Server.Departure
import Rgrok.Client.Cli
import Rgrok.Client.ServerAddress
import Rgrok.Server.BasicAuth
import Rgrok.Server.Credentials
import Rgrok.Server.Gate
import Rgrok.Server.Verifier
import Rgrok.Server.SharedVerifier
import Rgrok.Server.HttpResponse
import Rgrok.Server.ResponseReaders
import Rgrok.Server.ResponseWire
import Rgrok.Server.ResponseDecoding
import Rgrok.Server.ResponseUnique
import Rgrok.Server.ResponseBytes
import Rgrok.Server.ResponseLimits
import Rgrok.Server.ResponseSize
import Rgrok.Server.ResponseReads
import Rgrok.Server.ResponseStops
import Rgrok.Server.FramingNumbers
import Rgrok.Server.Forwarding
import Rgrok.Server.ForwardedFields
import Rgrok.Server.RequestHead
import Rgrok.Server.Replay
import Rgrok.Server.Inspection
import Rgrok.Server.Secrets
import Rgrok.Server.WebUi
import Rgrok.Server.Acme
import Rgrok.Server.Provisioning
import Rgrok.Server.Issuance
import Rgrok.Server.CaptureQueues
import Rgrok.Server.CaptureOwners
import Rgrok.Server.Uploads
import Rgrok.Server.Relay
import Rgrok.Server.Redirect
import Rgrok.Client.Tunnel
import Rgrok.Client.Endpoint
import Rgrok.Client.Reconnect
import Rgrok.Client.ControlIo
import Rgrok.Client.LocalProxy
import Rgrok.Client.Bridge
import Rgrok.Client.Capture
import Rgrok.Client.Inspector
import Rgrok.Client.CaptureBodies
import Rgrok.Client.SecretField
import Rgrok.Client.CaptureSecrets
import Rgrok.World.World
import Rgrok.World.Connection
import Rgrok.World.ConnectionSteps
import Rgrok.World.Handshake
import Rgrok.World.Agreement
import Rgrok.World.Refusal
import Rgrok.World.HeadReadings
import Rgrok.World.ForwardedRequest
import Rgrok.Server.Certificates
