import SharedWs.InteractionPrograms
import SharedWs.ServerTypes

/-!
# `run_server`

The lifecycle loop of `ws/server/runtime.rs` with its accept loop, admission,
and the two ways to get rid of the connection tasks. The nested loops of the
source are heads of one task; leaving the accept loop drops the listener and
runs the code after it in the same turn.

What the task shares with handles and connections (the status, the terminal
cell, the shutdown flag, the slot counter, the connection counter, the command
channel and the set of connection tasks) is reached through calls, one for each
access, so that other parties may act between any two of them.
-/
namespace ServerTask

open InteractionPrograms ServerTypes WsTypes

/-- Which retry budget a run of failures belongs to. -/
inductive FailureOrigin where
  | bind
  | accept
  deriving DecidableEq

/-- The variables of `run_server`. -/
structure ServerVars where
  backoff : Duration
  consecutiveFailures : UInt32
  origin : FailureOrigin
  deriving DecidableEq

/-- `ServerFaults`: set by tests only. -/
structure ServerFaults where
  terminalAcceptFailureAfter : Option UInt64

/-- A receiver of commands: the position it reads next. `since` counts the
commands dispatched before it subscribed; it is there to speak about them and
nothing reads it. -/
structure Receiver where
  next : Nat
  since : Nat
  deriving DecidableEq

/-- The arms of the accept loop's `select!`, in the order in which it polls
them. A reaped task is named by its place among the admitted connections. -/
inductive AcceptArm where
  | shutdown
  | joined (task : Nat)
  | incoming (result : Except IoError SocketAddr)

inductive BackoffArm where
  | elapsed
  | shutdown
  deriving DecidableEq

/-- One `join_next` under the drain timeout. -/
inductive DrainArm where
  | joined (task : Nat)
  | empty
  | elapsed
  deriving DecidableEq

inductive ServerOp where
  | readShutdown
  | bindListener (addr : SocketAddr) (backlog : UInt32)
  | localAddr
  | dropListener
  | readTerminal
  | storeTerminal (error : ManagedWsServerTerminalError)
  | publish (status : ManagedWsServerStatus)
  | acceptSelect
  | tryAcquire (max : UInt64)
  | nextConnectionId
  | subscribe
  | spawn (ctx : WsServerConnectionContext) (receiver : Receiver)
  | backoffSelect (backoff : Duration)
  | drainNext (timeout : Duration)
  | abortAll
  | joinNext

def ServerOp.Res : ServerOp → Type
  | .readShutdown => Bool
  | .bindListener _ _ => Except String Unit
  | .localAddr => Except String SocketAddr
  | .dropListener => Unit
  | .readTerminal => Option ManagedWsServerTerminalError
  | .storeTerminal _ => Unit
  | .publish _ => Unit
  | .acceptSelect => AcceptArm
  | .tryAcquire _ => Bool
  | .nextConnectionId => UInt64
  | .subscribe => Receiver
  | .spawn _ _ => Unit
  | .backoffSelect _ => BackoffArm
  | .drainNext _ => DrainArm
  | .abortAll => Unit
  | .joinNext => Option Nat

def serverSignature : Signature where
  Op := ServerOp
  Res := ServerOp.Res

abbrev ServerEvent := Event (serverSignature.showing ServerVars)

abbrev ServerProc (α : Type) := Proc serverSignature ServerVars α

def ask (op : ServerOp) : ServerProc op.Res := Proc.call (S := serverSignature) op

/-- Where the task continues. -/
inductive ServerHead where
  | lifecycle
  | accepting (localAddr : SocketAddr) (accepted : UInt64)
  | draining
  | aborting (thenStop : Bool)
  deriving DecidableEq

/-- `ServerShared::set_status`: never overwrites a terminal end state. -/
def setStatus (status : ManagedWsServerStatus) : ServerProc Unit := do
  let terminal : Option ManagedWsServerTerminalError ← ask .readTerminal
  if terminal.isSome && status != .terminal then
    pure ()
  else
    ask (.publish status)

/-- `ServerShared::set_terminal`: the cause first, then the status. -/
def setTerminal (error : ManagedWsServerTerminalError) : ServerProc Unit := do
  let () ← ask (.storeTerminal error)
  ask (.publish .terminal)

/-- The exit with a terminal cause; `abort_clients` starts with the abort. -/
def terminate (error : ManagedWsServerTerminalError) : ServerProc (ServerHead ⊕ Unit) := do
  setTerminal error
  let () ← ask .abortAll
  pure (.inl (.aborting false))

/-- `break 'lifecycle`. -/
def shutDown : ServerProc (ServerHead ⊕ Unit) := do
  setStatus .shuttingDown
  pure (.inl .draining)

section Body
variable (config : WsServerConfig) (retry : WsServerRetryPolicy) (faults : ServerFaults)

def exhaustion (vars : ServerVars) (failure : String) : ManagedWsServerTerminalError :=
  match vars.origin with
  | .bind => .bindRetryExhausted config.bindAddr vars.consecutiveFailures failure
  | .accept => .acceptRetryExhausted config.bindAddr vars.consecutiveFailures failure

/-- The code after a failed bind or a lost listener. -/
def retryAfter (failure : String) : ServerProc (ServerHead ⊕ Unit) := do
  modify fun vars => { vars with consecutiveFailures := vars.consecutiveFailures + 1 }
  let vars ← get
  if retry.isExhausted vars.consecutiveFailures then
    terminate (exhaustion config vars failure)
  else
    setStatus .retrying
    match ← ask (.backoffSelect vars.backoff) with
    | .shutdown => shutDown
    | .elapsed =>
      modify fun vars => { vars with backoff := retry.nextBackoff vars.backoff }
      pure (.inl .lifecycle)

/-- Admit one accepted socket, or drop it when the cap is reached. -/
def admitConnection (localAddr peerAddr : SocketAddr) : ServerProc Unit := do
  let acquired : Bool ← ask (.tryAcquire config.maxConnections)
  if acquired then
    let connectionId ← ask .nextConnectionId
    -- before the handshake, so that no command slips past the connection
    let receiver ← ask .subscribe
    ask (.spawn ⟨connectionId, peerAddr, localAddr⟩ receiver)
  else
    pure ()

def injectedFault (accepted : UInt64) : ManagedWsServerTerminalError :=
  .internalLoopFailure ("injected accept-loop fault after " ++ toString accepted.toNat ++
    " accepted connections")

def faultDue (accepted : UInt64) : Bool :=
  match faults.terminalAcceptFailureAfter with
  | some threshold => accepted ≥ threshold
  | none => false

/-- One turn of `run_accept_loop`. -/
def acceptTurn (localAddr : SocketAddr) (accepted : UInt64) : ServerProc (ServerHead ⊕ Unit) := do
  if faultDue faults accepted then
    let () ← ask .dropListener
    terminate (injectedFault accepted)
  else
    match ← ask .acceptSelect with
    | .shutdown =>
      let () ← ask .dropListener
      shutDown
    | .joined _ => pure (.inl (.accepting localAddr accepted))
    | .incoming (.error error) =>
      if isTransientAcceptError error then
        pure (.inl (.accepting localAddr accepted))
      else
        let () ← ask .dropListener
        retryAfter config retry error.text
    | .incoming (.ok peerAddr) =>
      admitConnection config localAddr peerAddr
      pure (.inl (.accepting localAddr (accepted + 1)))

/-- One turn of the lifecycle loop, up to the accept loop. -/
def lifecycleTurn : ServerProc (ServerHead ⊕ Unit) := do
  let requested : Bool ← ask .readShutdown
  if requested then
    shutDown
  else
    match ← ask (.bindListener config.bindAddr config.backlog) with
    | .error error => retryAfter config retry error
    | .ok () =>
      set (ServerVars.mk retry.initialBackoff 0 .accept)
      setStatus .listening
      match ← ask .localAddr with
      | .error error =>
        let () ← ask .dropListener
        retryAfter config retry error
      | .ok localAddr => pure (.inl (.accepting localAddr 0))

def stop : ServerProc (ServerHead ⊕ Unit) := do
  setStatus .stopped
  pure (.inr ())

/-- `drain_clients`, one joined task at a time. -/
def drainTurn : ServerProc (ServerHead ⊕ Unit) := do
  match ← ask (.drainNext config.shutdownTimeout) with
  | .joined _ => pure (.inl .draining)
  | .empty => stop
  | .elapsed =>
    let () ← ask .abortAll
    pure (.inl (.aborting true))

/-- `abort_clients` after the abort. -/
def abortTurn (thenStop : Bool) : ServerProc (ServerHead ⊕ Unit) := do
  match ← ask .joinNext with
  | some _ => pure (.inl (.aborting thenStop))
  | none => if thenStop then stop else pure (.inr ())

def runServer : ServerHead → ServerProc (ServerHead ⊕ Unit)
  | .lifecycle => lifecycleTurn config retry
  | .accepting localAddr accepted => acceptTurn config retry faults localAddr accepted
  | .draining => drainTurn config
  | .aborting thenStop => abortTurn thenStop

def initialVars : ServerVars := ⟨retry.initialBackoff, 0, .bind⟩

end Body
end ServerTask
