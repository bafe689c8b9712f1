import SharedWs.ManagedOps

/-!
# `run_managed_ws_loop`

The plain managed client loop and the helpers it shares with the
health-checked loop. The two nested loops of the source become two heads:
`connect` is the top of the outer loop, `session` the top of the inner one.
Leaving the inner loop with a cause runs the code after it in the same turn.
-/
namespace ManagedLoop

open InteractionPrograms WsFrames WsTypes ManagedOps

variable {E : Endpoint}

inductive Head where
  | connect
  | session
  deriving DecidableEq

/-- `continue` at a head, or `return`. -/
abbrev Flow := Head ⊕ Unit

def reconnectDelay (action : WsDisconnectAction) : Managed E (Option Duration) :=
  match action with
  | .abort => pure none
  | .immediateReconnect => pure (some 0)
  | .backoffReconnect => do
    if ← reconnect .shouldRetry then
      let delay ← reconnect .nextDelay
      pure (some delay)
    else
      pure none

def notifyDisconnect (cause : WsDisconnectCause) (willReconnect : Bool) :
    Managed E (Except E.Error Unit) := do
  match ← handler (.onConnectionDisconnected cause willReconnect) with
  | some message => handler (.handleMessage message)
  | none => pure (.ok ())

def sendPayload (site : WriteSite) (payload : Bytes) : Managed E (Except WebSocketError Unit) := do
  let frame := intoWsMessage payload
  handler (.onOutboundFrame frame)
  ask (.write site frame)

/-- The loop over messages that `replay_subscriptions` and
`send_subscription_updates` both end with. -/
def sendSubscriptions (site : WriteSite) :
    List E.Subscription → Managed E (Except WebSocketError Unit)
  | [] => pure (.ok ())
  | subscription :: rest => do
    let payload ← handler (.serializeSubscription subscription)
    match ← sendPayload site payload with
    | .error error => pure (.error error)
    | .ok () => sendSubscriptions site rest

def replaySubscriptions : Managed E (Except WebSocketError Unit) := do
  let subscriptions ← handler .initialSubscriptions
  sendSubscriptions .replay subscriptions

def sendSubscriptionUpdates (action : WsSubscriptionAction E.Subscription) :
    Managed E (Except WebSocketError Unit) := do
  match ← handler (.updateSubscriptions action) with
  | .error error => pure (.error (.endpointSpecific error))
  | .ok subscriptions => sendSubscriptions .update subscriptions

def applyCommand (command : ManagedWsCommand E.Subscription) :
    Managed E (Except WebSocketError Unit) := do
  ask (.enterApply command)
  match command with
  | .send payload => sendPayload .command payload
  | .updateSubscriptions action => sendSubscriptionUpdates action
  | .forceReconnect _ | .shutdown => pure (.ok ())

/-- `while let Some(command) = pop_front()`: each command leaves the queue
before it is applied, and the first failure leaves the rest where it is. -/
def applyQueued : List (ManagedWsCommand E.Subscription) → Managed E (Except WebSocketError Unit)
  | [] => pure (.ok ())
  | command :: rest => do
    modify fun l => { l with pendingAuthCommands := rest }
    match ← applyCommand command with
    | .error error => pure (.error error)
    | .ok () => applyQueued rest

def applyPendingAuthCommands : Managed E (Except WebSocketError Unit) := do
  applyQueued (← get).pendingAuthCommands

/-- `matches!(command, Some(Shutdown) | None)`. -/
def isShutdown : Option (ManagedWsCommand E.Subscription) → Bool
  | some .shutdown | none => true
  | some _ => false

def waitReconnectDelayOrShutdown (delay : Duration) : Managed E Bool := do
  ask (.enterWait delay)
  if delay = 0 then
    pure true
  else
    match ← ask (.waitSelect delay) with
    | none => pure true
    | some command => pure (!isShutdown command)

/-- Classify the cause, ask the strategy and tell the handler, in this order. -/
def decideReconnect (cause : WsDisconnectCause) : Managed E (Option Duration) := do
  let action ← handler (.classifyDisconnect cause)
  let delay ← reconnectDelay action
  let _ ← notifyDisconnect cause delay.isSome
  pure delay

/-- `let Some(delay) = delay else return`, the wait, and the next attempt. -/
def awaitReconnect : Option Duration → Managed E Flow
  | none => pure (.inr ())
  | some delay => do
    if ← waitReconnectDelayOrShutdown delay then
      modify fun l => { l with isReconnect := true }
      pure (.inl .connect)
    else
      pure (.inr ())

/-- The failure blocks of `auth_send` and `subscription_replay`: the status is
stored after the handler was told. -/
def openFailed (context : String) (error : WebSocketError) : Managed E Flow := do
  let delay ← decideReconnect (.internalError context error.display)
  storeStatus .disconnected
  awaitReconnect delay

def managedReplay : Managed E Flow := do
  let mode ← handler .sessionMode
  modify fun l => { l with sessionAuthenticated := mode == .publicSession }
  if mode = .publicSession then
    match ← replaySubscriptions with
    | .error error => openFailed "subscription_replay" error
    | .ok () => pure (.inl .session)
  else
    pure (.inl .session)

def managedOpened : Managed E Flow := do
  reconnect .reset
  storeStatus .connected
  handler .resetState
  handler .onOpen
  match ← handler (.onConnectionOpened (← get).isReconnect) with
  | some message => let _ ← handler (.handleMessage message)
  | none => pure ()
  match ← handler .generateAuth with
  | none => managedReplay
  | some payload =>
    match ← sendPayload .auth payload with
    | .error error => openFailed "auth_send" error
    | .ok () => managedReplay

def managedConnect (url : String) : Managed E Flow := do
  storeStatus .connecting
  match ← ask (.connect url .default) with
  | .error error =>
    storeStatus .disconnected
    let delay ← decideReconnect (.internalError "connect" error.display)
    awaitReconnect delay
  | .ok () => managedOpened

/-- The code after the inner loop. -/
def managedSessionEnd (cause : WsDisconnectCause) : Managed E Flow := do
  storeStatus .disconnected
  let delay ← decideReconnect cause
  awaitReconnect delay

/-- `status.store(Disconnected); return` inside the session. -/
def sessionReturn : Managed E Flow := do
  storeStatus .disconnected
  pure (.inr ())

def managedCommand : Option (ManagedWsCommand E.Subscription) → Managed E Flow
  | some .shutdown | none => sessionReturn
  | some (.forceReconnect reason) => managedSessionEnd (.endpointRequested reason)
  | some command => do
    if !(← get).sessionAuthenticated && commandRequiresAuth command then
      modify fun l => { l with pendingAuthCommands := l.pendingAuthCommands ++ [command] }
      pure (.inl .session)
    else
      match ← applyCommand command with
      | .error error => managedSessionEnd (.internalError "command" error.display)
      | .ok () => pure (.inl .session)

def managedAction : WsMessageAction E.Message → Managed E Flow
  | .continue => pure (.inl .session)
  | .sessionAuthenticated => do
    modify fun l => { l with sessionAuthenticated := true }
    match ← replaySubscriptions with
    | .error error =>
      managedSessionEnd (.internalError "subscription_replay_after_auth" error.display)
    | .ok () =>
      match ← applyPendingAuthCommands with
      | .error error => managedSessionEnd (.internalError "pending_auth_command" error.display)
      | .ok () => pure (.inl .session)
  | .send payload => do
    match ← sendPayload .reply payload with
    | .error error => managedSessionEnd (.internalError "message_send" error.display)
    | .ok () => pure (.inl .session)
  | .process message => do
    match ← handler (.handleMessage message) with
    | .error error => managedSessionEnd (.internalError "handle_message" (E.errorText error))
    | .ok () => pure (.inl .session)
  | .reconnect reason => managedSessionEnd (.endpointRequested reason)
  | .shutdown => sessionReturn

def managedFrame : Option (Except WebSocketError WsFrame) → Managed E Flow
  | none => managedSessionEnd .remoteClosed
  | some (.error error) => managedSessionEnd (.readFailure error.display)
  | some (.ok frame) => do
    handler (.onInboundFrame frame)
    match ← handler (.parseFrame frame) with
    | .ok (.message action) => managedAction action
    | .ok (.serverError code message data) =>
      match ← handler (.handleServerError code message data) with
      | .reconnect | .fatal => managedSessionEnd (.serverError code message)
      | .continue => pure (.inl .session)
    | .error _ => pure (.inl .session)

def managedSession : Managed E Flow := do
  match ← ask .select with
  | .command received => managedCommand received
  | .frame read => managedFrame read

/-- One turn of the loop at each head. -/
def runManagedWsLoop (url : String) : Head → Managed E Flow
  | .connect => managedConnect url
  | .session => managedSession

end ManagedLoop
