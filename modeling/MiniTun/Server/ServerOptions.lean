import MiniTun.Common.Result

/-!
# Server options

The fields of `ServerOptions` that `validate_options` looks at, with their defaults.
Durations are in seconds.
-/

namespace MiniTun.Server

structure ServerOptions where
  maxClients : Nat := 1000
  maxTunnelsPerClient : Nat := 128
  maxTotalTunnels : Nat := 10000
  maxConnectionsPerClient : Nat := 10000
  maxTotalConnections : Nat := 50000
  maxPendingHandshakes : Nat := 128
  maxPendingHandshakesPerIp : Nat := 32
  maxHandshakesPerSecond : Nat := 100
  handshakeTimeout : Int := 10
  heartbeatInterval : Int := 5
  heartbeatTimeout : Int := 15
  allowedClockSkew : Int := 30
  workerWaitTimeout : Int := 2
  workerIdleTimeout : Int := 60
  relayInactivityTimeout : Int := 300
  gracefulShutdownTimeout : Int := 10
  minIdleWorkers : Nat := 2
  maxIdleWorkers : Nat := 32
  maxTotalIdleWorkers : Nat := 128

def kMaxServerConnections : Nat := 100000

def kMaxServerTunnels : Nat := 100000

def kMaxConfiguredTimeout : Int := 300

def kMaximumRelayTimeout : Int := 24 * 60 * 60

def validateOptions (options : ServerOptions) : Result Unit :=
  if options.maxClients = 0 ∨ kMaxServerConnections < options.maxClients then
    failure .invalidArgument "max clients is outside 1..100000"
  else if options.maxTunnelsPerClient = 0 ∨ 4096 < options.maxTunnelsPerClient then
    failure .invalidArgument "max tunnels per client is outside 1..4096"
  else if options.maxTotalTunnels = 0 ∨ kMaxServerTunnels < options.maxTotalTunnels then
    failure .invalidArgument "total tunnel limit is invalid"
  else if options.maxConnectionsPerClient = 0 ∨
      kMaxServerConnections < options.maxConnectionsPerClient ∨
      options.maxTotalConnections = 0 ∨ kMaxServerConnections < options.maxTotalConnections ∨
      options.maxTotalConnections < options.maxConnectionsPerClient then
    failure .invalidArgument "server connection limits are invalid"
  else if options.handshakeTimeout ≤ 0 ∨ kMaxConfiguredTimeout < options.handshakeTimeout ∨
      options.heartbeatInterval ≤ 0 ∨ kMaxConfiguredTimeout < options.heartbeatInterval ∨
      options.heartbeatTimeout ≤ options.heartbeatInterval ∨
      kMaxConfiguredTimeout < options.heartbeatTimeout ∨
      options.allowedClockSkew < 0 ∨ kMaxConfiguredTimeout < options.allowedClockSkew ∨
      options.workerWaitTimeout ≤ 0 ∨ kMaxConfiguredTimeout < options.workerWaitTimeout ∨
      options.workerIdleTimeout ≤ 0 ∨ kMaxConfiguredTimeout < options.workerIdleTimeout ∨
      options.relayInactivityTimeout ≤ 0 ∨
      kMaximumRelayTimeout < options.relayInactivityTimeout ∨
      options.gracefulShutdownTimeout ≤ 0 ∨
      kMaxConfiguredTimeout < options.gracefulShutdownTimeout then
    failure .invalidArgument "server timeout configuration is invalid"
  else if options.maxPendingHandshakes = 0 ∨ 4096 < options.maxPendingHandshakes ∨
      options.maxPendingHandshakesPerIp = 0 ∨
      options.maxPendingHandshakes < options.maxPendingHandshakesPerIp ∨
      options.maxHandshakesPerSecond = 0 ∨ 100000 < options.maxHandshakesPerSecond then
    failure .invalidArgument "TLS admission limits are invalid"
  else if options.maxIdleWorkers < options.minIdleWorkers ∨ 128 < options.maxIdleWorkers then
    failure .invalidArgument "server worker limits are invalid"
  else if options.maxTotalIdleWorkers = 0 ∨ 4096 < options.maxTotalIdleWorkers then
    failure .invalidArgument "server total worker limit is invalid"
  else .ok ()

/-- The window for clock differences, which accepted options may make as wide as five
minutes on either side. -/
theorem allowedClockSkew_of_valid {opts : ServerOptions} (h : validateOptions opts = .ok ()) :
    0 ≤ opts.allowedClockSkew ∧ opts.allowedClockSkew ≤ kMaxConfiguredTimeout := by
  simp only [validateOptions, guard_eq_ok] at h
  omega

end MiniTun.Server
