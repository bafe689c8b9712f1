import SharedWs.LoopOutline

/-!
# Which calls the blocks of the managed loops make

For each helper of the loops, the set of operations it can call. None of these
helpers touches the variables of the loop, so a monitor that keeps an assertion
under the listed operations keeps it across the whole block.
-/
namespace ManagedBlocks

open InteractionPrograms InteractionMonitors WsFrames WsTypes ManagedOps ManagedLoop HookedLoop
open LoopOutline

variable {E : Endpoint} {M : Type}

/-- Serialize, show to the capture hook and write, from one site. -/
def Sends (site : WriteSite) : Op E → Prop
  | .handler (.onOutboundFrame _) | .handler (.serializeSubscription _) => True
  | .write origin _ => origin = site
  | _ => False

def Replays : Op E → Prop
  | .handler .initialSubscriptions => True
  | op => Sends .replay op

/-- The calls `apply_command` makes for a command. -/
def Applies : Op E → Prop
  | .handler (.updateSubscriptions _) => True
  | op => Sends .command op ∨ Sends .update op

def Decides : Op E → Prop
  | .handler (.classifyDisconnect _) | .handler (.onConnectionDisconnected _ _)
  | .handler (.handleMessage _) | .reconnect .shouldRetry | .reconnect .nextDelay => True
  | _ => False

theorem quiet_sendPayload (site : WriteSite) (payload : Bytes) :
    Proc.Quiet (Sends site) (sendPayload site payload : Managed E _) :=
  (quiet_ask trivial).bind fun _ => quiet_ask rfl

theorem quiet_sendSubscriptions (site : WriteSite) (subscriptions : List E.Subscription) :
    Proc.Quiet (Sends site) (sendSubscriptions site subscriptions : Managed E _) := by
  induction subscriptions with
  | nil => exact Proc.Quiet.pure _
  | cons subscription rest ih =>
    refine (quiet_ask trivial).bind fun payload => ?_
    refine (quiet_sendPayload site payload).bind fun result => ?_
    cases result with
    | error error => exact Proc.Quiet.pure _
    | ok _ => exact ih

theorem quiet_replaySubscriptions :
    Proc.Quiet Replays (replaySubscriptions : Managed E _) := by
  refine (quiet_ask trivial).bind fun subscriptions => ?_
  refine (quiet_sendSubscriptions .replay subscriptions).mono ?_
  intro op sends
  match op with
  | .handler .initialSubscriptions => trivial
  | .handler (.onOutboundFrame _) => trivial
  | .handler (.serializeSubscription _) => trivial
  | .write _ _ => exact sends

theorem applies_of_sends {site : WriteSite} (which : site = .command ∨ site = .update) (op : Op E)
    (sends : Sends site op) : Applies op := by
  match op with
  | .handler (.onOutboundFrame _) => exact Or.inl trivial
  | .handler (.serializeSubscription _) => exact Or.inl trivial
  | .write _ _ =>
    rcases which with rfl | rfl
    · exact Or.inl sends
    · exact Or.inr sends

theorem quiet_sendSubscriptionUpdates (action : WsSubscriptionAction E.Subscription) :
    Proc.Quiet Applies (sendSubscriptionUpdates action : Managed E _) := by
  refine (quiet_ask trivial).bind fun updated => ?_
  cases updated with
  | error error => exact Proc.Quiet.pure _
  | ok subscriptions =>
    exact (quiet_sendSubscriptions .update subscriptions).mono (applies_of_sends (Or.inr rfl))

/-- `apply_command` with the mark of its call. -/
def Hands : Op E → Prop
  | .enterApply _ => True
  | op => Applies op

theorem hands_of_applies (op : Op E) (applies : Applies op) : Hands op := by
  match op with
  | .handler _ => exact applies
  | .write _ _ => exact applies

theorem quiet_applyCommand (command : ManagedWsCommand E.Subscription) :
    Proc.Quiet Hands (applyCommand command : Managed E _) := by
  refine (quiet_ask trivial).bind fun _ => ?_
  cases command with
  | send payload =>
    exact ((quiet_sendPayload .command payload).mono (applies_of_sends (Or.inl rfl))).mono
      hands_of_applies
  | updateSubscriptions action =>
    exact (quiet_sendSubscriptionUpdates action).mono hands_of_applies
  | forceReconnect _ => exact Proc.Quiet.pure _
  | shutdown => exact Proc.Quiet.pure _

def Retries : Op E → Prop
  | .reconnect .shouldRetry | .reconnect .nextDelay => True
  | _ => False

theorem decides_of_retries (op : Op E) (retries : Retries op) : Decides op := by
  match op with
  | .reconnect .shouldRetry => trivial
  | .reconnect .nextDelay => trivial

theorem quiet_reconnectDelay (action : WsDisconnectAction) :
    Proc.Quiet Retries (reconnectDelay action : Managed E _) := by
  cases action with
  | abort => exact Proc.Quiet.pure _
  | immediateReconnect => exact Proc.Quiet.pure _
  | backoffReconnect =>
    refine (quiet_ask trivial).bind fun retry => ?_
    cases retry with
    | false => exact Proc.Quiet.pure _
    | true => exact (quiet_ask trivial).bind fun delay => Proc.Quiet.pure _

theorem quiet_notifyDisconnect (cause : WsDisconnectCause) (willReconnect : Bool) :
    Proc.Quiet Decides (notifyDisconnect cause willReconnect : Managed E _) := by
  refine (quiet_ask trivial).bind fun message => ?_
  cases message with
  | none => exact Proc.Quiet.pure _
  | some message => exact quiet_ask trivial

theorem quiet_decideReconnect (cause : WsDisconnectCause) :
    Proc.Quiet Decides (decideReconnect cause : Managed E _) := by
  refine (quiet_ask trivial).bind fun action => ?_
  refine ((quiet_reconnectDelay action).mono decides_of_retries).bind fun delay => ?_
  exact (quiet_notifyDisconnect cause delay.isSome).bind fun _ => Proc.Quiet.pure _

def Selects : Op E → Prop
  | .select | .selectWithPing => True
  | _ => False

theorem quiet_sessionSelect (pinging : Bool) :
    Proc.Quiet Selects (sessionSelect pinging : Managed E _) := by
  cases pinging with
  | true => exact quiet_ask trivial
  | false => exact (quiet_ask trivial).bind fun _ => Proc.Quiet.pure _

def Waits : Op E → Prop
  | .enterWait _ | .waitSelect _ => True
  | _ => False

theorem quiet_wait (delay : Duration) :
    Proc.Quiet Waits (waitReconnectDelayOrShutdown delay : Managed E Bool) := by
  refine (quiet_ask trivial).bind fun _ => ?_
  by_cases zero : delay = 0
  · rw [if_pos zero]
    exact Proc.Quiet.pure _
  · rw [if_neg zero]
    refine (quiet_ask trivial).bind fun answer => ?_
    cases answer with
    | none => exact Proc.Quiet.pure _
    | some received => exact Proc.Quiet.pure _

/-- The calls right after a successful `connect`. -/
def Greets : Op E → Prop
  | .reconnect .reset | .storeStatus _ | .handler .resetState | .handler .onOpen
  | .handler (.onConnectionOpened _) | .handler (.handleMessage _) => True
  | _ => False

theorem quiet_greeting : Proc.Quiet Greets (greeting : Managed E Unit) := by
  refine (quiet_ask trivial).bind fun _ => (quiet_ask trivial).bind fun _ => ?_
  refine (quiet_ask trivial).bind fun _ => (quiet_ask trivial).bind fun _ => ?_
  refine Proc.Quiet.get.bind fun _ => (quiet_ask trivial).bind fun message => ?_
  cases message with
  | none => exact Proc.Quiet.pure _
  | some message => exact (quiet_ask trivial).bind fun _ => Proc.Quiet.pure _

def OffersAuth : Op E → Prop
  | .handler .generateAuth => True
  | op => Sends .auth op

theorem quiet_offerAuth : Proc.Quiet OffersAuth (offerAuth : Managed E _) := by
  refine (quiet_ask trivial).bind fun payload => ?_
  cases payload with
  | none => exact Proc.Quiet.pure _
  | some payload => exact (quiet_ask trivial).bind fun _ => quiet_ask rfl

/-- All that the sending blocks of an open connection call. -/
def Speaks : Op E → Prop
  | .enterApply _ | .write _ _ => True
  | .handler .generateAuth | .handler .initialSubscriptions | .handler (.updateSubscriptions _)
  | .handler (.serializeSubscription _) | .handler (.onOutboundFrame _) => True
  | _ => False

theorem speaks_of_sends (site : WriteSite) (op : Op E) (sends : Sends site op) : Speaks op := by
  match op with
  | .handler (.onOutboundFrame _) => trivial
  | .handler (.serializeSubscription _) => trivial
  | .write _ _ => trivial

theorem speaking_sendPayload (site : WriteSite) (payload : Bytes) :
    Proc.Quiet Speaks (sendPayload site payload : Managed E _) :=
  (quiet_sendPayload site payload).mono (speaks_of_sends site)

theorem speaking_replaySubscriptions :
    Proc.Quiet Speaks (replaySubscriptions : Managed E _) := by
  refine quiet_replaySubscriptions.mono fun op replays => ?_
  match op with
  | .handler .initialSubscriptions => trivial
  | .handler (.onOutboundFrame _) => trivial
  | .handler (.serializeSubscription _) => trivial
  | .write _ _ => trivial

theorem speaking_offerAuth : Proc.Quiet Speaks (offerAuth : Managed E _) := by
  refine quiet_offerAuth.mono fun op offers => ?_
  match op with
  | .handler .generateAuth => trivial
  | .handler (.onOutboundFrame _) => trivial
  | .handler (.serializeSubscription _) => trivial
  | .write _ _ => trivial

theorem speaking_applyCommand (command : ManagedWsCommand E.Subscription) :
    Proc.Quiet Speaks (applyCommand command : Managed E _) := by
  refine (quiet_applyCommand command).mono fun op hands => ?_
  cases op with
  | enterApply _ => trivial
  | write _ _ => trivial
  | handler call => cases call <;> first | trivial | exact hands.elim id id
  | _ => exact hands.elim id id

/-- What every single `apply_command` keeps, the flush of the parked ones keeps. -/
theorem ensures_flush {mon : ManagedMonitor E M} {P : Locals E → M → Prop}
    (popped : ∀ l m rest, P l m → P { l with pendingAuthCommands := rest } m)
    (applied : ∀ command l m, P l m → mon.ensures (fun _ => P) (applyCommand command) l m)
    {l : Locals E} {m : M} (holds : P l m) :
    mon.ensures (fun _ => P) applyPendingAuthCommands l m := by
  rw [applyPendingAuthCommands, Monitor.ensures_bind, Monitor.ensures_get]
  generalize l.pendingAuthCommands = queue
  induction queue generalizing l m with
  | nil => exact holds
  | cons command rest ih =>
    rw [applyQueued, Monitor.ensures_bind, Monitor.ensures_modify]
    refine mon.ensures_seq (applied command _ m (popped l m rest holds)) fun result l' m' kept => ?_
    cases result with
    | error _ => exact kept
    | ok _ => exact ih kept

/-- Deciding about a reconnect, with the status store before or after it. -/
def Closes : Op E → Prop
  | .storeStatus _ => True
  | op => Decides op

theorem closes_of_decides (op : Op E) (decides : Decides op) : Closes op := by
  match op with
  | .handler _ => exact decides
  | .reconnect _ => exact decides

theorem quiet_storeThenDecide (cause : WsDisconnectCause) :
    Proc.Quiet Closes (storeThenDecide cause : Managed E _) :=
  (quiet_ask trivial).bind fun _ => (quiet_decideReconnect cause).mono closes_of_decides

theorem quiet_decideThenStore (cause : WsDisconnectCause) :
    Proc.Quiet Closes (decideThenStore cause : Managed E _) :=
  ((quiet_decideReconnect cause).mono closes_of_decides).bind fun _ =>
    (quiet_ask trivial).bind fun _ => Proc.Quiet.pure _

/-- The heartbeat writes its own frames and otherwise talks to the health object. -/
def Pulses : Op E → Prop
  | .handler (.onOutboundFrame _) => True
  | .write site _ => site = .ping ∨ site = .pong
  | op => HealthOp op

theorem pulses_of_health (op : Op E) (health : HealthOp op) : Pulses op := by
  cases op <;> trivial

theorem quiet_rearmPing : Proc.Quiet HealthOp (rearmPing : Managed E Unit) :=
  (quiet_ping trivial).bind fun _ => quiet_ask trivial

theorem quiet_tick (kind : LoopKind) : Proc.Quiet Pulses (hooksOf kind : Hooks E).tick := by
  cases kind with
  | plain => exact Proc.Quiet.pure _
  | healthChecked =>
    have rearm : Proc.Quiet Pulses (rearmPing : Managed E Unit) :=
      quiet_rearmPing.mono pulses_of_health
    refine (quiet_ask trivial).bind fun stale => ?_
    cases stale with
    | true => exact Proc.Quiet.pure _
    | false =>
      refine (quiet_ask trivial).bind fun stale => ?_
      cases stale with
      | true => exact Proc.Quiet.pure _
      | false =>
        refine (quiet_ask trivial).bind fun created => ?_
        cases created with
        | none => exact rearm.bind fun _ => Proc.Quiet.pure _
        | some frame =>
          refine (quiet_ask trivial).bind fun _ => (quiet_ask (Or.inl rfl)).bind fun written => ?_
          cases written with
          | error error => exact (quiet_ask trivial).bind fun _ => Proc.Quiet.pure _
          | ok _ =>
            exact (quiet_ask trivial).bind fun _ => rearm.bind fun _ => Proc.Quiet.pure _

theorem quiet_intercept (kind : LoopKind) (frame : WsFrame) :
    Proc.Quiet Pulses ((hooksOf kind : Hooks E).intercept frame) := by
  cases kind with
  | plain => exact Proc.Quiet.pure _
  | healthChecked =>
    refine (quiet_ask trivial).bind fun result => ?_
    cases result with
    | notPong => exact Proc.Quiet.pure _
    | invalidPong => exact (quiet_ask trivial).bind fun _ => Proc.Quiet.pure _
    | pongReceived rtt =>
      cases rtt with
      | none => exact Proc.Quiet.pure _
      | some rtt => exact (quiet_ask trivial).bind fun _ => Proc.Quiet.pure _
    | reply reply =>
      refine (quiet_ask trivial).bind fun _ => (quiet_ask (Or.inr rfl)).bind fun written => ?_
      cases written with
      | error error => exact (quiet_ask trivial).bind fun _ => Proc.Quiet.pure _
      | ok _ => exact (quiet_ask trivial).bind fun _ => Proc.Quiet.pure _

/-- Calls that neither open a connection, nor receive, nor enter the wait or
`apply_command`: all that the blocks above can make. -/
def Routine : Op E → Prop
  | .connect _ _ | .select | .selectWithPing | .enterWait _ | .waitSelect _ | .enterApply _ => False
  | _ => True

theorem routine_of_sends (site : WriteSite) (op : Op E) (sends : Sends site op) : Routine op := by
  cases op <;> trivial

theorem routine_of_replays (op : Op E) (replays : Replays op) : Routine op := by
  cases op <;> trivial

theorem routine_of_applies (op : Op E) (applies : Applies op) : Routine op := by
  cases op <;> first | trivial | exact applies.elim id id

theorem routine_of_greets (op : Op E) (greets : Greets op) : Routine op := by
  cases op <;> trivial

theorem routine_of_offersAuth (op : Op E) (offers : OffersAuth op) : Routine op := by
  cases op <;> trivial

theorem routine_of_closes (op : Op E) (closes : Closes op) : Routine op := by
  cases op <;> trivial

theorem routine_of_pulses (op : Op E) (pulses : Pulses op) : Routine op := by
  cases op <;> trivial

end ManagedBlocks
