import TunnelBore.Lib.Run
import TunnelBore.Shared.Bytes
import TunnelBore.Shared.JsonText
import TunnelBore.Broker.Framing
import TunnelBore.Broker.PublisherToken
import TunnelBore.Broker.Authority
import TunnelBore.Broker.TunnelSession
import TunnelBore.Broker.Closing
import TunnelBore.Broker.SessionTable
import TunnelBore.Broker.Peek
import TunnelBore.Broker.ServiceRun
import TunnelBore.Broker.OneToOne
import TunnelBore.Broker.ControlRegistry
import TunnelBore.Lib.Relay
import TunnelBore.Shared.MemoryUnit
import TunnelBore.Shared.PipeOperation
import TunnelBore.Broker.Preamble
import TunnelBore.Broker.LinkedStreams
import TunnelBore.Lib.SendQueue
import TunnelBore.Publisher.ControlLine
import TunnelBore.Lib.Threads
import TunnelBore.Broker.CallThreads
import TunnelBore.Broker.Deadlock
import TunnelBore.Broker.AcceptLoop
import TunnelBore.Broker.AuthorisedLink
import TunnelBore.Broker.Rescan
import TunnelBore.Broker.EndSelf
import TunnelBore.Broker.ControlSession
import TunnelBore.Publisher.ControlRead
import TunnelBore.Publisher.Handlers
import TunnelBore.Publisher.Superseded
import TunnelBore.Publisher.NeverDeaf
import TunnelBore.Shared.PipePair
import TunnelBore.Broker.Subscriptions
import TunnelBore.Wire.TunnelFailed
import TunnelBore.Wire.ServiceRouting
import TunnelBore.Wire.HandshakePorts
import TunnelBore.Lib.Watchdog
import TunnelBore.Shared.Inactivity
import TunnelBore.TypeScript.Handshake
import TunnelBore.TypeScript.Broker
import TunnelBore.TypeScript.FirstData
import TunnelBore.Broker.CloseLinked
import TunnelBore.Publisher.ServiceSession
import TunnelBore.Publisher.SessionPair
import TunnelBore.Broker.WriteQueue
import TunnelBore.Broker.ServiceTable
import TunnelBore.Broker.Reannounced
import TunnelBore.Publisher.TunnelAttempt
import TunnelBore.Broker.Authenticator
import TunnelBore.Broker.Nesting
import TunnelBore.Broker.PeekLength
import TunnelBore.Broker.StopService
import TunnelBore.TypeScript.NewTunnel
import TunnelBore.TypeScript.Chunks
import TunnelBore.TypeScript.Configured
import TunnelBore.TypeScript.LocalSessions
import TunnelBore.Broker.Delivery
import TunnelBore.Lib.Units
import TunnelBore.Shared.MemorySuffix
import TunnelBore.Shared.MemoryArithmetic
import TunnelBore.Shared.ConfigFile
import TunnelBore.Wire.StoredConfigs
import TunnelBore.Wire.TunnelStreams
import TunnelBore.Wire.Credentials
import TunnelBore.Broker.Announced
import TunnelBore.Wire.TunnelSetup
import TunnelBore.Lib.Total
import TunnelBore.TypeScript.SocketLedger
import TunnelBore.Lib.Backoff
import TunnelBore.Publisher.Reconnect
import TunnelBore.Broker.WholeMessages
import TunnelBore.Broker.Written
import TunnelBore.Wire.ControlChannel
import TunnelBore.TypeScript.Reconnect
import TunnelBore.Lib.Inevitable
import TunnelBore.Shared.PipeProgress
import TunnelBore.Wire.TunnelProgress
import TunnelBore.Broker.Lifetimes
import TunnelBore.Broker.Coupled
import TunnelBore.Wire.LinkedPairs
import TunnelBore.Wire.TypeScriptPublisher
import TunnelBore.Shared.IdlePair
