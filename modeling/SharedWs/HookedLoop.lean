import Mathlib.Tactic.Simps.Basic
import SharedWs.HealthCheckedLoop

/-!
# One loop behind both managed loops

The health-checked loop is the plain loop with extra calls at fixed places. A
`Hooks` value fills these places; the two loops of the source are the instances
below. Results about both loops are proved once for the loop with hooks and
carried over by the two equations at the end.
-/
namespace HookedLoop

open InteractionPrograms InteractionMonitors WsFrames WsTypes ManagedOps ManagedLoop
open HealthCheckedLoop

variable {E : Endpoint}

/-- Calls of the health object and of the ping timer: no frame, no handler call. -/
def HealthOp : Op E → Prop
  | .monitor _ | .ping _ | .startPingSleep _ | .resetPingSleep _ => True
  | _ => False

/-- What a heartbeat decides about the session. -/
inductive Verdict where
  | pass
  | again
  | leave (cause : WsDisconnectCause)

structure Hooks (E : Endpoint) where
  /-- The session also waits for the ping timer. -/
  pinging : Bool
  attempt : Managed E Unit
  connected : Managed E Unit
  failed : String → String → Managed E Unit
  enterSession : Managed E Unit
  sent : Managed E Unit
  tick : Managed E (Option WsDisconnectCause)
  arrived : Managed E Unit
  intercept : WsFrame → Managed E Verdict
  serverError : Option Int32 → String → Managed E Unit
  ended : WsDisconnectCause → Managed E Unit
  retried : Managed E Unit

variable (h : Hooks E)

def hookedOpenFailed (context : String) (error : WebSocketError) : Managed E Flow := do
  h.failed context error.display
  let delay ← decideReconnect (.internalError context error.display)
  storeStatus .disconnected
  awaitReconnect delay

def hookedEnterSession : Managed E Flow := do
  h.enterSession
  pure (.inl .session)

def hookedReplay : Managed E Flow := do
  let mode ← handler .sessionMode
  modify fun l => { l with sessionAuthenticated := mode == .publicSession }
  if mode = .publicSession then
    match ← replaySubscriptions with
    | .error error => hookedOpenFailed h "subscription_replay" error
    | .ok () => hookedEnterSession h
  else
    hookedEnterSession h

def hookedAuth : Managed E Flow := do
  match ← handler .generateAuth with
  | none => hookedReplay h
  | some payload =>
    match ← sendPayload .auth payload with
    | .error error => hookedOpenFailed h "auth_send" error
    | .ok () => hookedReplay h

def hookedOpened : Managed E Flow := do
  h.connected
  reconnect .reset
  storeStatus .connected
  handler .resetState
  handler .onOpen
  match ← handler (.onConnectionOpened (← get).isReconnect) with
  | some message => let _ ← handler (.handleMessage message)
  | none => pure ()
  hookedAuth h

def hookedConnect (url : String) : Managed E Flow := do
  storeStatus .connecting
  h.attempt
  match ← ask (.connect url .default) with
  | .error error =>
    h.failed "connect" error.display
    storeStatus .disconnected
    let delay ← decideReconnect (.internalError "connect" error.display)
    awaitReconnect delay
  | .ok () => hookedOpened h

def hookedAwaitReconnect : Option Duration → Managed E Flow
  | none => pure (.inr ())
  | some delay => do
    if ← waitReconnectDelayOrShutdown delay then
      h.retried
      modify fun l => { l with isReconnect := true }
      pure (.inl .connect)
    else
      pure (.inr ())

def hookedSessionEnd (cause : WsDisconnectCause) : Managed E Flow := do
  storeStatus .disconnected
  h.ended cause
  let delay ← decideReconnect cause
  hookedAwaitReconnect h delay

def hookedInternalError (context error : String) : Managed E Flow := do
  h.failed context error
  hookedSessionEnd h (.internalError context error)

def hookedSent : Managed E Flow := do
  h.sent
  pure (.inl .session)

def hookedCommand : Option (ManagedWsCommand E.Subscription) → Managed E Flow
  | some .shutdown | none => sessionReturn
  | some (.forceReconnect reason) => hookedSessionEnd h (.endpointRequested reason)
  | some command => do
    if !(← get).sessionAuthenticated && commandRequiresAuth command then
      modify fun l => { l with pendingAuthCommands := l.pendingAuthCommands ++ [command] }
      pure (.inl .session)
    else
      match ← applyCommand command with
      | .error error => hookedInternalError h "command" error.display
      | .ok () => hookedSent h

def hookedTick : Managed E Flow := do
  match ← h.tick with
  | some cause => hookedSessionEnd h cause
  | none => pure (.inl .session)

def hookedAuthenticated : Managed E Flow := do
  modify fun l => { l with sessionAuthenticated := true }
  match ← replaySubscriptions with
  | .error error => hookedInternalError h "subscription_replay_after_auth" error.display
  | .ok () =>
    match ← applyPendingAuthCommands with
    | .error error => hookedInternalError h "pending_auth_command" error.display
    | .ok () => hookedSent h

def hookedAction : WsMessageAction E.Message → Managed E Flow
  | .continue => pure (.inl .session)
  | .sessionAuthenticated => hookedAuthenticated h
  | .send payload => do
    match ← sendPayload .reply payload with
    | .error error => hookedInternalError h "message_send" error.display
    | .ok () => hookedSent h
  | .process message => do
    match ← handler (.handleMessage message) with
    | .error error => hookedInternalError h "handle_message" (E.errorText error)
    | .ok () => pure (.inl .session)
  | .reconnect reason => hookedSessionEnd h (.endpointRequested reason)
  | .shutdown => sessionReturn

def hookedParse (frame : WsFrame) : Managed E Flow := do
  match ← handler (.parseFrame frame) with
  | .ok (.message action) => hookedAction h action
  | .ok (.serverError code message data) =>
    h.serverError code message
    match ← handler (.handleServerError code message data) with
    | .reconnect | .fatal => hookedSessionEnd h (.serverError code message)
    | .continue => pure (.inl .session)
  | .error error =>
    h.failed "parse" (E.errorText error)
    pure (.inl .session)

def hookedFrame : Option (Except WebSocketError WsFrame) → Managed E Flow
  | none => hookedSessionEnd h .remoteClosed
  | some (.error error) => do
    h.failed "read" error.display
    hookedSessionEnd h (.readFailure error.display)
  | some (.ok frame) => do
    h.arrived
    handler (.onInboundFrame frame)
    match ← h.intercept frame with
    | .pass => hookedParse h frame
    | .again => pure (.inl .session)
    | .leave cause => hookedSessionEnd h cause

/-- The session `select!`, with the ping timer only where there is one. -/
def sessionSelect : Bool → Managed E (Option (Arm E))
  | true => ask .selectWithPing
  | false => do
    let arm ← ask .select
    pure (some arm)

def hookedSession : Managed E Flow := do
  match ← sessionSelect h.pinging with
  | some (.command received) => hookedCommand h received
  | none => hookedTick h
  | some (.frame read) => hookedFrame h read

def hookedLoop (url : String) : Head → Managed E Flow
  | .connect => hookedConnect h url
  | .session => hookedSession h

/-- No health object: every place is empty. -/
def plainHooks : Hooks E where
  pinging := false
  attempt := pure ()
  connected := pure ()
  failed := fun _ _ => pure ()
  enterSession := pure ()
  sent := pure ()
  tick := pure none
  arrived := pure ()
  intercept := fun _ => pure .pass
  serverError := fun _ _ => pure ()
  ended := fun _ => pure ()
  retried := pure ()

def rearmPing : Managed E Unit := do
  let interval ← ping .interval
  ask (.resetPingSleep interval)

def pingTick : Managed E (Option WsDisconnectCause) := do
  if ← ping .isStale then
    pure (some .pongTimeout)
  else if ← monitor .isStale then
    pure (some .staleData)
  else
    match ← ping .createPing with
    | none =>
      rearmPing
      pure none
    | some frame =>
      handler (.onOutboundFrame frame)
      match ← ask (.write .ping frame) with
      | .error error =>
        monitor (.recordInternalError "ping_send" error.display)
        pure (some (.internalError "ping_send" error.display))
      | .ok () =>
        monitor .recordSent
        rearmPing
        pure none

def pingIntercept (frame : WsFrame) : Managed E Verdict := do
  match ← ping (.handleInbound frame) with
  | .reply reply =>
    handler (.onOutboundFrame reply)
    match ← ask (.write .pong reply) with
    | .error error =>
      monitor (.recordInternalError "pong_reply" error.display)
      pure (.leave (.internalError "pong_reply" error.display))
    | .ok () =>
      monitor .recordSent
      pure .again
  | .pongReceived rtt =>
    match rtt with
    | some rtt => monitor (.recordRtt rtt)
    | none => pure ()
    pure .again
  | .invalidPong =>
    monitor (.recordInternalError "ping" "invalid pong")
    pure (.leave .pongTimeout)
  | .notPong => pure .pass

@[simps] def healthHooks : Hooks E where
  pinging := true
  attempt := monitor .recordConnectAttempt
  connected := do
    monitor .recordConnectSuccess
    monitor .resetConnection
    ping .reset
  failed := fun context error => monitor (.recordInternalError context error)
  enterSession := do
    let interval ← ping .interval
    ask (.startPingSleep interval)
  sent := monitor .recordSent
  tick := pingTick
  arrived := monitor .recordMessage
  intercept := pingIntercept
  serverError := fun code message => monitor (.recordServerError code message)
  ended := fun cause =>
    match cause with
    | .pongTimeout | .staleData => monitor .recordError
    | _ => pure ()
  retried := monitor .incrementReconnect

theorem plain_connect (url : String) :
    hookedConnect (plainHooks : Hooks E) url = managedConnect url := rfl

theorem plain_command (received : Option (ManagedWsCommand E.Subscription)) :
    hookedCommand plainHooks received = managedCommand received := rfl

theorem plain_frame (read : Option (Except WebSocketError WsFrame)) :
    hookedFrame (plainHooks : Hooks E) read = managedFrame read := rfl

theorem plain_session : hookedSession (plainHooks : Hooks E) = managedSession := by
  change (sessionSelect false >>= _) = (ask .select >>= _)
  rw [sessionSelect, bind_assoc]
  refine bind_congr fun arm => ?_
  cases arm with
  | command received => exact plain_command received
  | frame read => exact plain_frame read

theorem health_sessionEnd (cause : WsDisconnectCause) :
    hookedSessionEnd (healthHooks : Hooks E) cause = healthSessionEnd cause := by
  have await : hookedAwaitReconnect (healthHooks : Hooks E) = healthAwaitReconnect := by
    funext delay
    cases delay <;> rfl
  unfold hookedSessionEnd healthSessionEnd
  rw [await]
  cases cause <;> simp only [healthHooks_ended, pure_bind]

theorem health_connect (url : String) :
    hookedConnect (healthHooks : Hooks E) url = healthConnect url := rfl

theorem health_tick : hookedTick (healthHooks : Hooks E) = healthTick := by
  simp only [hookedTick, healthTick, healthHooks_tick, pingTick, rearmPing, healthRearm,
    healthInternalError, health_sessionEnd, bind_assoc]
  refine bind_congr fun stale => ?_
  cases stale with
  | true => rfl
  | false =>
    simp only [Bool.false_eq_true, if_false, bind_assoc]
    refine bind_congr fun stale => ?_
    cases stale with
    | true => rfl
    | false =>
      simp only [Bool.false_eq_true, if_false, bind_assoc]
      refine bind_congr fun created => ?_
      cases created with
      | none => simp only [bind_assoc, pure_bind]
      | some frame =>
        simp only [bind_assoc]
        refine bind_congr fun _ => bind_congr fun written => ?_
        cases written with
        | error error => simp only [bind_assoc, pure_bind]
        | ok _ => simp only [bind_assoc, pure_bind]

theorem health_parse (frame : WsFrame) :
    hookedParse (healthHooks : Hooks E) frame = healthParse frame := rfl

theorem health_frame (read : Option (Except WebSocketError WsFrame)) :
    hookedFrame (healthHooks : Hooks E) read = healthFrame read := by
  match read with
  | none => exact health_sessionEnd _
  | some (.error error) =>
    simp only [hookedFrame, healthFrame, health_sessionEnd, healthHooks_failed]
  | some (.ok frame) =>
    simp only [hookedFrame, healthFrame, health_sessionEnd, health_parse, healthHooks_arrived,
      healthHooks_intercept, pingIntercept, healthInternalError, bind_assoc]
    refine bind_congr fun _ => bind_congr fun _ => bind_congr fun result => ?_
    cases result with
    | notPong => rfl
    | pongReceived rtt => cases rtt <;> simp only [bind_assoc, pure_bind]
    | invalidPong => simp only [bind_assoc, pure_bind]
    | reply reply =>
      simp only [bind_assoc]
      refine bind_congr fun _ => bind_congr fun written => ?_
      cases written <;> simp only [bind_assoc, pure_bind]

theorem health_command (received : Option (ManagedWsCommand E.Subscription)) :
    hookedCommand healthHooks received = healthCommand received := rfl

theorem health_session : hookedSession (healthHooks : Hooks E) = healthSession := by
  change (sessionSelect true >>= _) = (ask .selectWithPing >>= _)
  refine bind_congr fun arm => ?_
  match arm with
  | none => exact health_tick
  | some (.command received) => exact health_command received
  | some (.frame read) => exact health_frame read

/-- The plain loop is the loop with empty hooks. -/
theorem runManagedWsLoop_eq (url : String) :
    (runManagedWsLoop url : Head → Managed E Flow) = hookedLoop plainHooks url := by
  funext head
  cases head with
  | connect => exact (plain_connect url).symm
  | session => exact plain_session.symm

/-- The health-checked loop is the loop with the calls of its health object. -/
theorem runHealthCheckedManagedWsLoop_eq (url : String) :
    (runHealthCheckedManagedWsLoop url : Head → Managed E Flow) = hookedLoop healthHooks url := by
  funext head
  cases head with
  | connect => exact (health_connect url).symm
  | session => exact health_session.symm

/-- Both loops under one name. -/
inductive LoopKind where
  | plain
  | healthChecked
  deriving DecidableEq

def managedLoop (url : String) : LoopKind → Head → Managed E Flow
  | .plain => runManagedWsLoop url
  | .healthChecked => runHealthCheckedManagedWsLoop url

def hooksOf : LoopKind → Hooks E
  | .plain => plainHooks
  | .healthChecked => healthHooks

theorem managedLoop_eq (url : String) (kind : LoopKind) :
    (managedLoop url kind : Head → Managed E Flow) = hookedLoop (hooksOf kind) url := by
  cases kind with
  | plain => exact runManagedWsLoop_eq url
  | healthChecked => exact runHealthCheckedManagedWsLoop_eq url

/-- A point of a loop: the rest of the turn it is in. -/
abbrev Task (E : Endpoint) :=
  Prog ((managedSignature E).showing (Locals E)) ((Head × Locals E) ⊕ (Unit × Locals E))

/-- The loop, started with fresh variables, gets to `q` along the trace `t`. -/
def Run (loop : Head → Managed E Flow) (t : List (ManagedEvent E)) (q : Task E) : Prop :=
  Reaches (Proc.turn loop) (.ret (.inl (.connect, Locals.initial))) t q

/-- The task has executed `return`. -/
def Returned (q : Task E) : Prop := ∃ l, q = .ret (.inr ((), l))

/-- Run a loop for `n` calls against scripted answers, one clock step a call. -/
def trial (loop : Head → Managed E Flow) (script : Nat → (op : Op E) → op.Ans) (n : Nat) :
    List (ManagedEvent E) × Task E :=
  play (Proc.turn loop) (fun i op => ⟨i, script i op.2⟩) n 0
    (.ret (.inl (.connect, Locals.initial)))

theorem trial_run (loop : Head → Managed E Flow) (script : Nat → (op : Op E) → op.Ans) (n : Nat) :
    Run loop (trial loop script n).1 (trial loop script n).2 :=
  play_reaches _ n 0 _

/-- Every turn makes a call. -/
theorem turn_starts (url : String) (kind : LoopKind) (c : Head × Locals E) :
    ∃ op next, Proc.turn (hookedLoop (hooksOf kind) url) c = .call op next := by
  obtain ⟨head, l⟩ := c
  cases head with
  | connect => exact ⟨_, _, rfl⟩
  | session =>
    cases kind with
    | plain => exact ⟨_, _, rfl⟩
    | healthChecked => exact ⟨_, _, rfl⟩

/-- Every place except the heartbeat itself only talks to the health object. -/
structure Hooks.Silent (h : Hooks E) : Prop where
  attempt : Proc.Quiet HealthOp h.attempt
  connected : Proc.Quiet HealthOp h.connected
  failed : ∀ context error, Proc.Quiet HealthOp (h.failed context error)
  enterSession : Proc.Quiet HealthOp h.enterSession
  sent : Proc.Quiet HealthOp h.sent
  arrived : Proc.Quiet HealthOp h.arrived
  serverError : ∀ code message, Proc.Quiet HealthOp (h.serverError code message)
  ended : ∀ cause, Proc.Quiet HealthOp (h.ended cause)
  retried : Proc.Quiet HealthOp h.retried

theorem plainHooks_silent : (plainHooks : Hooks E).Silent := by
  constructor <;> intros <;> exact Proc.Quiet.pure _

theorem healthHooks_silent : (healthHooks : Hooks E).Silent where
  attempt := quiet_ask trivial
  connected := (quiet_ask trivial).bind fun _ => (quiet_ask trivial).bind fun _ =>
    quiet_ask trivial
  failed := fun _ _ => quiet_ask trivial
  enterSession := (quiet_ask trivial).bind fun _ => quiet_ask trivial
  sent := quiet_ask trivial
  arrived := quiet_ask trivial
  serverError := fun _ _ => quiet_ask trivial
  ended := fun cause => by cases cause <;> first | exact quiet_ask trivial | exact Proc.Quiet.pure _
  retried := quiet_ask trivial

theorem hooksOf_silent (kind : LoopKind) : (hooksOf kind : Hooks E).Silent := by
  cases kind with
  | plain => exact plainHooks_silent
  | healthChecked => exact healthHooks_silent

end HookedLoop
