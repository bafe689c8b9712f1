import Mathlib.Algebra.Group.Nat.Defs
import SharedWs.WsTypes

/-!
# Types of the managed server

The enumerations of `ws/server/types.rs` and the configuration of
`ws/server/config.rs`. An error that the server tasks only turn into text (an
I/O error of the socket, an error of an endpoint handler) is carried as that
text; the only error they look into is the one of `accept`.
-/
namespace ServerTypes

open WsFrames WsTypes

inductive ManagedWsServerStatus where
  | starting
  | retrying
  | listening
  | shuttingDown
  | stopped
  | terminal
  deriving DecidableEq, Repr

/-- The states the server can never leave. -/
def ManagedWsServerStatus.isFinal : ManagedWsServerStatus → Bool
  | .stopped | .terminal => true
  | _ => false

inductive SocketAddr where
  | v4 (ip : BitVec 32) (port : UInt16)
  | v6 (ip : BitVec 128) (port : UInt16) (flowinfo scopeId : UInt32)
  deriving DecidableEq

structure WsServerConnectionContext where
  connectionId : UInt64
  peerAddr : SocketAddr
  localAddr : SocketAddr
  deriving DecidableEq

inductive WsServerCloseCause where
  | clientClosed
  | handlerRequested
  | handlerError (error : String)
  | lagged (missed : Nat)
  | serverShutdown
  | transportError (error : String)
  deriving DecidableEq

inductive WsServerEndpointEvent (Command : Type) where
  | connected (ctx : WsServerConnectionContext)
  | frame (frame : WsFrame)
  | command (command : Command)
  | tick
  | closed (cause : WsServerCloseCause)
  deriving DecidableEq

def wsServerFrameBatchCapacity : Nat := 4

/-- An inline batch; `len` never exceeds the number of slots. -/
structure WsServerFrameBatch where
  frames : Vector (Option WsFrame) wsServerFrameBatchCapacity
  len : Nat
  bounded : len ≤ wsServerFrameBatchCapacity
  deriving DecidableEq

/-- `WsServerFrameBatch::default`. -/
def WsServerFrameBatch.new : WsServerFrameBatch where
  frames := Vector.replicate wsServerFrameBatchCapacity none
  len := 0
  bounded := Nat.zero_le _

/-- A full batch gives the frame back. -/
def WsServerFrameBatch.push (batch : WsServerFrameBatch) (frame : WsFrame) :
    Except WsFrame Unit × WsServerFrameBatch :=
  if room : batch.len < wsServerFrameBatchCapacity then
    (.ok (), ⟨batch.frames.set batch.len (some frame), batch.len + 1, room⟩)
  else (.error frame, batch)

/-- `FromIterator`: frames are pushed until one is refused. -/
def WsServerFrameBatch.fromIter (batch : WsServerFrameBatch) : List WsFrame → WsServerFrameBatch
  | [] => batch
  | frame :: frames =>
    match batch.push frame with
    | (.ok (), batch) => batch.fromIter frames
    | (.error _, batch) => batch

/-- The frames that a drain run to its end takes out, in slot order. -/
def WsServerFrameBatch.drain (batch : WsServerFrameBatch) : List WsFrame :=
  (batch.frames.toList.take batch.len).filterMap id

inductive WsServerEndpointAction where
  | none
  | send (frame : WsFrame)
  | sendBatch (batch : WsServerFrameBatch)
  | close (frame : Option WsCloseFrame)
  deriving DecidableEq

inductive ManagedWsServerTerminalError where
  | bindRetryExhausted (addr : SocketAddr) (attempts : UInt32) (error : String)
  | acceptRetryExhausted (addr : SocketAddr) (attempts : UInt32) (error : String)
  | internalLoopFailure (reason : String)
  deriving DecidableEq

inductive ManagedWsServerStartError where
  | invalidConfig (field reason : String)
  | runtimeUnavailable
  deriving DecidableEq

inductive ManagedWsServerDispatchError where
  | terminated (error : ManagedWsServerTerminalError)
  | stopped
  deriving DecidableEq

inductive ManagedWsServerStatusError where
  | timeout (expected last : ManagedWsServerStatus) (timeout : Duration)
  | settled (expected last : ManagedWsServerStatus)
  deriving DecidableEq

/-- `WsConnectConfig`: the limits handed to the WebSocket layer. -/
structure WsConnectConfig where
  maxMessageSize : Option Nat
  maxFrameSize : Option Nat
  writeBufferSize : Nat
  maxWriteBufferSize : Nat

def WsConnectConfig.default : WsConnectConfig where
  maxMessageSize := some (16 * 1024 * 1024)
  maxFrameSize := some (16 * 1024 * 1024)
  writeBufferSize := 128 <<< 10
  maxWriteBufferSize := 256 <<< 10

structure WsServerConfig where
  bindAddr : SocketAddr
  backlog : UInt32
  maxConnections : UInt64
  handshakeTimeout : Duration
  endpointTickInterval : Duration
  shutdownTimeout : Duration
  retainedCommandsPerClient : UInt64
  websocket : WsConnectConfig

def fromSecs (seconds : Nat) : Duration := seconds * 1000000000

def WsServerConfig.new (bindAddr : SocketAddr) : WsServerConfig where
  bindAddr := bindAddr
  backlog := 1024
  maxConnections := 256
  handshakeTimeout := fromSecs 5
  endpointTickInterval := fromSecs 1
  shutdownTimeout := fromSecs 5
  retainedCommandsPerClient := 1
  websocket := .default

/-- One check of a configuration: the field and the reason name what is refused. -/
def reject (bad : Bool) (field reason : String) : Except ManagedWsServerStartError Unit :=
  if bad then .error (.invalidConfig field reason) else .ok ()

theorem reject_eq_ok {bad : Bool} {field reason : String} :
    reject bad field reason = .ok () ↔ bad = false := by
  cases bad <;> simp [reject]

/-- A check and those behind it. -/
theorem reject_bind_eq_ok {bad : Bool} {field reason : String}
    {rest : Unit → Except ManagedWsServerStartError Unit} :
    reject bad field reason >>= rest = .ok () ↔ bad = false ∧ rest () = .ok () := by
  cases bad <;> simp [reject, bind, Except.bind]

def WsServerConfig.validate (config : WsServerConfig) :
    Except ManagedWsServerStartError Unit := do
  reject (config.backlog == 0) "backlog" "listen backlog must be greater than zero"
  reject (config.maxConnections == 0) "max_connections"
    "connection cap must admit at least one client"
  reject (config.handshakeTimeout == 0) "handshake_timeout"
    "handshake timeout must be greater than zero"
  reject (config.endpointTickInterval == 0) "endpoint_tick_interval"
    "endpoint tick interval must be greater than zero"
  reject (config.shutdownTimeout == 0) "shutdown_timeout"
    "shutdown timeout must be greater than zero"
  reject (config.retainedCommandsPerClient == 0) "retained_commands_per_client"
    "at least one managed command must be retained per client"

/-- What an accepted configuration satisfies. -/
theorem WsServerConfig.validate_eq_ok {config : WsServerConfig} :
    config.validate = .ok () ↔ config.backlog ≠ 0 ∧ config.maxConnections ≠ 0 ∧
      config.handshakeTimeout ≠ 0 ∧ config.endpointTickInterval ≠ 0 ∧
      config.shutdownTimeout ≠ 0 ∧ config.retainedCommandsPerClient ≠ 0 := by
  unfold WsServerConfig.validate
  simp only [reject_bind_eq_ok, reject_eq_ok, beq_eq_false_iff_ne]

structure WsServerRetryPolicy where
  initialBackoff : Duration
  maxBackoff : Duration
  maxAttempts : Option UInt32

def WsServerRetryPolicy.default : WsServerRetryPolicy where
  initialBackoff := 100 * 1000000
  maxBackoff := fromSecs 5
  maxAttempts := none

def WsServerRetryPolicy.validate (retry : WsServerRetryPolicy) :
    Except ManagedWsServerStartError Unit := do
  reject (retry.initialBackoff == 0) "initial_backoff"
    "initial bind backoff must be greater than zero"
  reject (retry.maxBackoff < retry.initialBackoff) "max_backoff"
    "maximum bind backoff must not be below the initial backoff"
  reject (retry.maxAttempts == some 0) "max_attempts"
    "retry budget must allow at least one attempt"

theorem WsServerRetryPolicy.validate_eq_ok {retry : WsServerRetryPolicy} :
    retry.validate = .ok () ↔ retry.initialBackoff ≠ 0 ∧
      retry.initialBackoff ≤ retry.maxBackoff ∧ retry.maxAttempts ≠ some 0 := by
  unfold WsServerRetryPolicy.validate
  simp only [reject_bind_eq_ok, reject_eq_ok, beq_eq_false_iff_ne, decide_eq_false_iff_not,
    Nat.not_lt]

/-- `Duration::MAX`. -/
def maxDuration : Duration := (2 ^ 64 - 1) * 1000000000 + 999999999

/-- Doubling that saturates at `Duration::MAX` and then at the configured bound. -/
def WsServerRetryPolicy.nextBackoff (retry : WsServerRetryPolicy) (current : Duration) : Duration :=
  min (min (current * 2) maxDuration) retry.maxBackoff

def WsServerRetryPolicy.isExhausted (retry : WsServerRetryPolicy) (attempts : UInt32) : Bool :=
  match retry.maxAttempts with
  | some max => attempts ≥ max
  | none => false

/-- The kinds of an accept error that the source tells apart. -/
inductive ErrorKind where
  | connectionAborted
  | connectionReset
  | interrupted
  | wouldBlock
  | timedOut
  | other
  deriving DecidableEq

/-- An I/O error: its kind, the number the system gave it, and its text. -/
structure IoError where
  kind : ErrorKind
  rawOsError : Option Int32
  text : String
  deriving DecidableEq

/-- `is_transient_accept_error`: a lost peer, or a process out of descriptors. -/
def isTransientAcceptError (error : IoError) : Bool :=
  match error.kind with
  | .connectionAborted | .connectionReset | .interrupted | .wouldBlock | .timedOut => true
  | .other => error.rawOsError == some 23 || error.rawOsError == some 24

end ServerTypes
