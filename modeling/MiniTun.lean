import MiniTun.Server.AllowedPorts
import MiniTun.Server.PolicyDrift
import MiniTun.Server.GenerationFencing
import MiniTun.Server.DeferredPass
import MiniTun.Server.RotationTransparency
import MiniTun.Server.AuthenticationReply
import MiniTun.Server.PolicyStop
import MiniTun.Server.ManagementAtomicity
import MiniTun.Server.PskInForce
import MiniTun.Daemon.EndedGenerations
import MiniTun.Daemon.StaleResponses
import MiniTun.Daemon.WorkerBudgets
import MiniTun.System.RegistrationAgreement
import MiniTun.System.RelayConsistency
import MiniTun.Sdk.CanonicalMessages
import MiniTun.Storage.EndpointColumns
import MiniTun.Daemon.StartupRecovery
import MiniTun.Daemon.ServerRemoval
import MiniTun.Protocol.FrameReaders
import MiniTun.Protocol.HeartbeatSequence
import MiniTun.System.DatagramRecords
import MiniTun.Protocol.MachineDuality
import MiniTun.Protocol.ReplayContainers
import MiniTun.Protocol.AuthenticationInputs
import MiniTun.Server.WorkerReplay
import MiniTun.Server.SourceNetworks
import MiniTun.Server.SourceLimiter
import MiniTun.Server.IngressConservation
import MiniTun.Server.StoppedListeners
import MiniTun.Daemon.OperationTimeouts
import MiniTun.Admin.HostHeader
import MiniTun.Admin.HttpServer
import MiniTun.Server.IdleTimeout
import MiniTun.Server.QuotaLeases
import MiniTun.Server.WorkerHandlers
import MiniTun.Server.WaitingConnections
import MiniTun.System.CapabilityGating
