import SharedWs.BroadcastRing
import SharedWs.InteractionPrograms
import SharedWs.ServerTypes

/-!
# One connection of the server

`run_connection` of `ws/server/runtime.rs` with its loop, the application of
actions and the final close. The handshake, the handler, the socket and the
`select!` of the loop are calls; the arm that a `select!` takes and every
result of a socket or a handler are answers.
-/
namespace ConnectionTask

open BroadcastRing InteractionPrograms ServerTypes WsFrames WsTypes

/-- The outcome of the upgrade under its timeout. -/
inductive HandshakeResult where
  | completed
  | rejected (error : String)
  | timedOut
  deriving DecidableEq

/-- The arms of the loop's `select!`, in the order in which it polls them. -/
inductive ConnectionArm (Command : Type) where
  | shutdown
  | incoming (item : Option (Except String WsFrame))
  | command (received : Except RecvError Command)
  | tick

inductive ConnectionOp (Command : Type) where
  | handshake (timeout : Duration) (websocket : WsConnectConfig)
  | createEndpoint (ctx : WsServerConnectionContext)
  | firstTick (interval : Duration)
  | onEvent (event : WsServerEndpointEvent Command)
  | select
  | send (frame : WsFrame)
  | close

def ConnectionOp.Res {Command : Type} : ConnectionOp Command → Type
  | .handshake _ _ => HandshakeResult
  | .createEndpoint _ => Unit
  | .firstTick _ => Unit
  | .onEvent _ => Except String WsServerEndpointAction
  | .select => ConnectionArm Command
  | .send _ => Except String Unit
  | .close => Except String Unit

def connectionSignature (Command : Type) : Signature where
  Op := ConnectionOp Command
  Res := ConnectionOp.Res

abbrev ConnectionEvent (Command : Type) := Event (connectionSignature Command)

abbrev Step (Command α : Type) := Prog (connectionSignature Command) α

variable {Command : Type}

def call (op : ConnectionOp Command) : Step Command op.Res :=
  Prog.call (S := connectionSignature Command) op .ret

def closeGoingAway : UInt16 := 1001
def closePolicyViolation : UInt16 := 1008
def closeInternalError : UInt16 := 1011

/-- Where the task continues: the accepted socket, or the event loop. -/
inductive Head where
  | accepted
  | serving
  deriving DecidableEq

/-- The frames of a batch in order, up to the first write that fails. -/
def sendBatch : List WsFrame → Step Command (Option WsServerCloseCause)
  | [] => pure none
  | frame :: rest => do
    match ← call (.send frame) with
    | .error error => pure (some (.transportError error))
    | .ok () => sendBatch rest

/-- `apply_action`: a cause means that the connection must close. -/
def applyAction : WsServerEndpointAction → Step Command (Option WsServerCloseCause)
  | .none => pure none
  | .send frame => do
    match ← call (.send frame) with
    | .ok () => pure none
    | .error error => pure (some (.transportError error))
  | .sendBatch batch => sendBatch batch.drain
  | .close frame => do
    let _ ← call (.send (.close frame))
    pure (some .handlerRequested)

/-- The frame that the server itself closes with. -/
def closeFrame : WsServerCloseCause → Option WsCloseFrame
  | .lagged _ => some ⟨closePolicyViolation,
      "client lagged; reconnect for an authoritative snapshot".toUTF8⟩
  | .handlerError _ => some ⟨closeInternalError, "endpoint handler error".toUTF8⟩
  | .serverShutdown => some ⟨closeGoingAway, "server shutting down".toUTF8⟩
  | .clientClosed | .handlerRequested | .transportError _ => none

def finishConnection (cause : WsServerCloseCause) : Step Command (Head ⊕ Unit) := do
  let _ ← call (.onEvent (.closed cause))
  if let some frame := closeFrame cause then
    let _ ← call (.send (.close (some frame)))
  let _ ← call .close
  pure (.inr ())

/-- Hand one event to the handler and apply its action; go on, or finish. -/
def handleEvent (event : WsServerEndpointEvent Command) : Step Command (Head ⊕ Unit) := do
  match ← call (.onEvent event) with
  | .error error => finishConnection (.handlerError error)
  | .ok action =>
    match ← applyAction action with
    | some cause => finishConnection cause
    | none => pure (.inl .serving)

/-- The arm of an inbound frame: control frames never reach the handler. -/
def handleFrame : WsFrame → Step Command (Head ⊕ Unit)
  | .close _ => finishConnection .clientClosed
  | .ping payload => do
    match ← call (.send (.pong payload)) with
    | .error error => finishConnection (.transportError error)
    | .ok () => pure (.inl .serving)
  | .pong _ => pure (.inl .serving)
  | .text payload => handleEvent (.frame (.text payload))
  | .binary payload => handleEvent (.frame (.binary payload))

def handleArm : ConnectionArm Command → Step Command (Head ⊕ Unit)
  | .shutdown => finishConnection .serverShutdown
  | .incoming none => finishConnection .clientClosed
  | .incoming (some (.error error)) => finishConnection (.transportError error)
  | .incoming (some (.ok frame)) => handleFrame frame
  | .command (.ok command) => handleEvent (.command command)
  | .command (.error (.lagged missed)) => finishConnection (.lagged missed)
  | .command (.error .closed) => finishConnection .serverShutdown
  | .tick => handleEvent .tick

/-- `run_connection`. A failed upgrade returns before the factory is asked. -/
def runConnection (config : WsServerConfig) (ctx : WsServerConnectionContext) :
    Head → Step Command (Head ⊕ Unit)
  | .accepted => do
    match ← call (.handshake config.handshakeTimeout config.websocket) with
    | .rejected _ | .timedOut => pure (.inr ())
    | .completed =>
      let () ← call (.createEndpoint ctx)
      let () ← call (.firstTick config.endpointTickInterval)
      handleEvent (.connected ctx)
  | .serving => do handleArm (← call .select)

end ConnectionTask
