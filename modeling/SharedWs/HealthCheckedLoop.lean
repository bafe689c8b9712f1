import SharedWs.ManagedLoop

/-!
# `run_health_checked_managed_ws_loop`

The hand-duplicated loop with heartbeat and statistics. It shares the helpers
of the plain loop and nothing else: every block of the source is translated
again from the health-checked version, with its own order of calls.
-/
namespace HealthCheckedLoop

open InteractionPrograms WsFrames WsTypes ManagedOps ManagedLoop

variable {E : Endpoint}

/-- The failure blocks of `auth_send` and `subscription_replay`. -/
def healthOpenFailed (context : String) (error : WebSocketError) : Managed E Flow := do
  monitor (.recordInternalError context error.display)
  let delay ← decideReconnect (.internalError context error.display)
  storeStatus .disconnected
  awaitReconnect delay

/-- `tokio::time::sleep(interval)`, then the inner loop. -/
def healthEnterSession : Managed E Flow := do
  let interval ← ping .interval
  ask (.startPingSleep interval)
  pure (.inl .session)

def healthReplay : Managed E Flow := do
  let mode ← handler .sessionMode
  modify fun l => { l with sessionAuthenticated := mode == .publicSession }
  if mode = .publicSession then
    match ← replaySubscriptions with
    | .error error => healthOpenFailed "subscription_replay" error
    | .ok () => healthEnterSession
  else
    healthEnterSession

def healthOpened : Managed E Flow := do
  monitor .recordConnectSuccess
  monitor .resetConnection
  ping .reset
  reconnect .reset
  storeStatus .connected
  handler .resetState
  handler .onOpen
  match ← handler (.onConnectionOpened (← get).isReconnect) with
  | some message => let _ ← handler (.handleMessage message)
  | none => pure ()
  match ← handler .generateAuth with
  | none => healthReplay
  | some payload =>
    match ← sendPayload .auth payload with
    | .error error => healthOpenFailed "auth_send" error
    | .ok () => healthReplay

def healthConnect (url : String) : Managed E Flow := do
  storeStatus .connecting
  monitor .recordConnectAttempt
  match ← ask (.connect url .default) with
  | .error error =>
    monitor (.recordInternalError "connect" error.display)
    storeStatus .disconnected
    let delay ← decideReconnect (.internalError "connect" error.display)
    awaitReconnect delay
  | .ok () => healthOpened

def healthAwaitReconnect : Option Duration → Managed E Flow
  | none => pure (.inr ())
  | some delay => do
    if ← waitReconnectDelayOrShutdown delay then
      monitor .incrementReconnect
      modify fun l => { l with isReconnect := true }
      pure (.inl .connect)
    else
      pure (.inr ())

/-- The code after the inner loop. -/
def healthSessionEnd (cause : WsDisconnectCause) : Managed E Flow := do
  storeStatus .disconnected
  match cause with
  | .pongTimeout | .staleData => monitor .recordError
  | _ => pure ()
  let delay ← decideReconnect cause
  healthAwaitReconnect delay

/-- `record_internal_error(context, error)`, then `break InternalError`. -/
def healthInternalError (context error : String) : Managed E Flow := do
  monitor (.recordInternalError context error)
  healthSessionEnd (.internalError context error)

def healthCommand : Option (ManagedWsCommand E.Subscription) → Managed E Flow
  | some .shutdown | none => sessionReturn
  | some (.forceReconnect reason) => healthSessionEnd (.endpointRequested reason)
  | some command => do
    if !(← get).sessionAuthenticated && commandRequiresAuth command then
      modify fun l => { l with pendingAuthCommands := l.pendingAuthCommands ++ [command] }
      pure (.inl .session)
    else
      match ← applyCommand command with
      | .error error => healthInternalError "command" error.display
      | .ok () =>
        monitor .recordSent
        pure (.inl .session)

/-- The source adds the interval to a reading of the clock that it takes first. -/
def healthRearm : Managed E Flow := do
  let interval ← ping .interval
  ask (.resetPingSleep interval)
  pure (.inl .session)

def healthTick : Managed E Flow := do
  if ← ping .isStale then
    healthSessionEnd .pongTimeout
  else if ← monitor .isStale then
    healthSessionEnd .staleData
  else
    match ← ping .createPing with
    | none => healthRearm
    | some frame =>
      handler (.onOutboundFrame frame)
      match ← ask (.write .ping frame) with
      | .error error => healthInternalError "ping_send" error.display
      | .ok () =>
        monitor .recordSent
        healthRearm

def healthAction : WsMessageAction E.Message → Managed E Flow
  | .continue => pure (.inl .session)
  | .sessionAuthenticated => do
    modify fun l => { l with sessionAuthenticated := true }
    match ← replaySubscriptions with
    | .error error => healthInternalError "subscription_replay_after_auth" error.display
    | .ok () =>
      match ← applyPendingAuthCommands with
      | .error error => healthInternalError "pending_auth_command" error.display
      | .ok () =>
        monitor .recordSent
        pure (.inl .session)
  | .send payload => do
    match ← sendPayload .reply payload with
    | .error error => healthInternalError "message_send" error.display
    | .ok () =>
      monitor .recordSent
      pure (.inl .session)
  | .process message => do
    match ← handler (.handleMessage message) with
    | .error error => healthInternalError "handle_message" (E.errorText error)
    | .ok () => pure (.inl .session)
  | .reconnect reason => healthSessionEnd (.endpointRequested reason)
  | .shutdown => sessionReturn

def healthParse (frame : WsFrame) : Managed E Flow := do
  match ← handler (.parseFrame frame) with
  | .ok (.message action) => healthAction action
  | .ok (.serverError code message data) =>
    monitor (.recordServerError code message)
    match ← handler (.handleServerError code message data) with
    | .reconnect | .fatal => healthSessionEnd (.serverError code message)
    | .continue => pure (.inl .session)
  | .error error =>
    monitor (.recordInternalError "parse" (E.errorText error))
    pure (.inl .session)

def healthFrame : Option (Except WebSocketError WsFrame) → Managed E Flow
  | none => healthSessionEnd .remoteClosed
  | some (.error error) => do
    monitor (.recordInternalError "read" error.display)
    healthSessionEnd (.readFailure error.display)
  | some (.ok frame) => do
    monitor .recordMessage
    handler (.onInboundFrame frame)
    match ← ping (.handleInbound frame) with
    | .reply reply =>
      handler (.onOutboundFrame reply)
      match ← ask (.write .pong reply) with
      | .error error => healthInternalError "pong_reply" error.display
      | .ok () =>
        monitor .recordSent
        pure (.inl .session)
    | .pongReceived rtt =>
      match rtt with
      | some rtt => monitor (.recordRtt rtt)
      | none => pure ()
      pure (.inl .session)
    | .invalidPong =>
      monitor (.recordInternalError "ping" "invalid pong")
      healthSessionEnd .pongTimeout
    | .notPong => healthParse frame

def healthSession : Managed E Flow := do
  match ← ask .selectWithPing with
  | some (.command received) => healthCommand received
  | none => healthTick
  | some (.frame read) => healthFrame read

/-- One turn of the loop at each head. -/
def runHealthCheckedManagedWsLoop (url : String) : Head → Managed E Flow
  | .connect => healthConnect url
  | .session => healthSession

end HealthCheckedLoop
