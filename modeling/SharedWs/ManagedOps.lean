import SharedWs.InteractionMonitors
import SharedWs.WsTypes

/-!
# What the managed client loops do to the outside

Every call that leaves the two loops of `ws/managed.rs`: the endpoint handler,
the reconnect strategy, the health object, the socket, the timers and the
command channel. All of them are generic parameters or library services of the
source, so their answers are arbitrary. Each answer is stamped with the clock
reading at which it arrived.

`subscription_manager()`, `monitor()` and `ping_pong()` only hand out a borrow
and are merged with the call made through it. `enterWait` and `enterApply` mark
the calls of `wait_reconnect_delay_or_shutdown` and `apply_command` themselves.
-/
namespace ManagedOps

open InteractionPrograms InteractionMonitors WsFrames WsTypes

/-- The statement of the source that writes a frame. -/
inductive WriteSite where
  | auth
  | replay
  | update
  | command
  | reply
  | ping
  | pong
  deriving DecidableEq

inductive HandlerCall (E : Endpoint) where
  | resetState
  | onOpen
  | onConnectionOpened (isReconnect : Bool)
  | generateAuth
  | sessionMode
  | onOutboundFrame (frame : WsFrame)
  | onInboundFrame (frame : WsFrame)
  | parseFrame (frame : WsFrame)
  | handleMessage (message : E.Message)
  | handleServerError (code : Option Int32) (message : String) (data : Option E.Value)
  | classifyDisconnect (cause : WsDisconnectCause)
  | onConnectionDisconnected (cause : WsDisconnectCause) (willReconnect : Bool)
  | initialSubscriptions
  | updateSubscriptions (action : WsSubscriptionAction E.Subscription)
  | serializeSubscription (subscription : E.Subscription)

variable {E : Endpoint}

@[reducible] def HandlerCall.Res : HandlerCall E → Type
  | .resetState | .onOpen | .onOutboundFrame _ | .onInboundFrame _ => Unit
  | .onConnectionOpened _ | .onConnectionDisconnected _ _ => Option E.Message
  | .generateAuth => Option Bytes
  | .sessionMode => WsSessionMode
  | .parseFrame _ => Except E.Error (WsParseOutcome E.Message E.Value)
  | .handleMessage _ => Except E.Error Unit
  | .handleServerError _ _ _ => WsErrorAction
  | .classifyDisconnect _ => WsDisconnectAction
  | .initialSubscriptions => List E.Subscription
  | .updateSubscriptions _ => Except String (List E.Subscription)
  | .serializeSubscription _ => Bytes

inductive ReconnectCall where
  | shouldRetry
  | nextDelay
  | reset
  deriving DecidableEq

@[reducible] def ReconnectCall.Res : ReconnectCall → Type
  | .shouldRetry => Bool
  | .nextDelay => Duration
  | .reset => Unit

/-- `WsPingPongStrategy`, as far as the loop calls it. -/
inductive PingCall where
  | createPing
  | handleInbound (frame : WsFrame)
  | isStale
  | reset
  | interval
  deriving DecidableEq

@[reducible] def PingCall.Res : PingCall → Type
  | .createPing => Option WsFrame
  | .handleInbound _ => WsPongResult
  | .isStale => Bool
  | .reset => Unit
  | .interval => Duration

/-- `WsHealthMonitor`, as far as the loop calls it. -/
inductive MonitorCall where
  | recordConnectAttempt
  | recordConnectSuccess
  | resetConnection
  | recordMessage
  | recordSent
  | recordRtt (rtt : Duration)
  | recordError
  | recordInternalError (context error : String)
  | recordServerError (code : Option Int32) (message : String)
  | incrementReconnect
  | isStale
  deriving DecidableEq

@[reducible] def MonitorCall.Res : MonitorCall → Type
  | .isStale => Bool
  | _ => Unit

/-- The two branches of the session `select!` that both loops have: `none` is a
closed channel, respectively the end of the stream. -/
inductive Arm (E : Endpoint) where
  | command (received : Option (ManagedWsCommand E.Subscription))
  | frame (read : Option (Except WebSocketError WsFrame))

inductive Op (E : Endpoint) where
  | storeStatus (raw : UInt8)
  | connect (url : String) (buffers : WebSocketBufferConfig)
  | write (site : WriteSite) (frame : WsFrame)
  | handler (call : HandlerCall E)
  | reconnect (call : ReconnectCall)
  | monitor (call : MonitorCall)
  | ping (call : PingCall)
  | select
  | selectWithPing
  | startPingSleep (interval : Duration)
  | resetPingSleep (interval : Duration)
  | enterWait (delay : Duration)
  | waitSelect (delay : Duration)
  | enterApply (command : ManagedWsCommand E.Subscription)

/-- In `selectWithPing` the answer `none` is the ping timer; in `waitSelect` it
is the delay, and otherwise what the channel gave. -/
@[reducible] def Op.Ans : Op E → Type
  | .storeStatus _ | .startPingSleep _ | .resetPingSleep _ | .enterWait _ | .enterApply _ => Unit
  | .connect _ _ | .write _ _ => Except WebSocketError Unit
  | .handler call => call.Res
  | .reconnect call => call.Res
  | .monitor call => call.Res
  | .ping call => call.Res
  | .select => Arm E
  | .selectWithPing => Option (Arm E)
  | .waitSelect _ => Option (Option (ManagedWsCommand E.Subscription))

structure Stamped (α : Type) where
  time : Instant
  val : α

def managedSignature (E : Endpoint) : Signature where
  Op := Op E
  Res := fun op => Stamped op.Ans

/-- The mutable variables of both loops. -/
structure Locals (E : Endpoint) where
  isReconnect : Bool
  sessionAuthenticated : Bool
  pendingAuthCommands : List (ManagedWsCommand E.Subscription)

def Locals.initial : Locals E := ⟨false, false, []⟩

abbrev Managed (E : Endpoint) := Proc (managedSignature E) (Locals E)

abbrev ManagedEvent (E : Endpoint) := Event ((managedSignature E).showing (Locals E))

def ask (op : Op E) : Managed E op.Ans :=
  fun l => Prog.call (S := (managedSignature E).showing (Locals E)) (l, op)
    fun ans => .ret (ans.val, l)

def handler (call : HandlerCall E) : Managed E call.Res := ask (.handler call)

def reconnect (call : ReconnectCall) : Managed E call.Res := ask (.reconnect call)

def monitor (call : MonitorCall) : Managed E call.Res := ask (.monitor call)

def ping (call : PingCall) : Managed E call.Res := ask (.ping call)

def storeStatus (status : WsConnectionStatus) : Managed E Unit :=
  ask (.storeStatus (wsStatusToU8 status))

/-- One recorded call: variables at the call, operation, time and answer. -/
def event (l : Locals E) (op : Op E) (time : Instant) (val : op.Ans) : ManagedEvent E :=
  ⟨(l, op), ⟨time, val⟩⟩

def Connects : ManagedEvent E → Prop
  | ⟨(_, .connect _ _), _⟩ => True
  | _ => False

instance (e : ManagedEvent E) : Decidable (Connects e) :=
  match e with
  | ⟨(_, .connect _ _), _⟩ => isTrue trivial
  | ⟨(_, .storeStatus _), _⟩ | ⟨(_, .write _ _), _⟩ | ⟨(_, .handler _), _⟩
  | ⟨(_, .reconnect _), _⟩ | ⟨(_, .monitor _), _⟩ | ⟨(_, .ping _), _⟩ | ⟨(_, .select), _⟩
  | ⟨(_, .selectWithPing), _⟩ | ⟨(_, .startPingSleep _), _⟩ | ⟨(_, .resetPingSleep _), _⟩
  | ⟨(_, .enterWait _), _⟩ | ⟨(_, .waitSelect _), _⟩ | ⟨(_, .enterApply _), _⟩ => isFalse id

theorem ensures_ask {M : Type} (mon : Monitor ((managedSignature E).showing (Locals E)) M)
    {op : Op E} {post : op.Ans → Locals E → M → Prop} {l : Locals E} {m : M} :
    mon.ensures post (ask op) l m ↔
      ∀ time val, mon.rely m (event l op time val) →
        mon.safe m (event l op time val) ∧ post val l (mon.step m (event l op time val)) :=
  ⟨fun h time val => h ⟨time, val⟩, fun h ans => h ans.time ans.val⟩

theorem ensures_of_ask {M : Type} (mon : Monitor ((managedSignature E).showing (Locals E)) M)
    (op : Op E) {post : op.Ans → Locals E → M → Prop} {l : Locals E} {m : M}
    (rest : ∀ time val, mon.rely m (event l op time val) →
      mon.safe m (event l op time val) ∧ post val l (mon.step m (event l op time val))) :
    mon.ensures post (ask op) l m :=
  (ensures_ask mon).mpr rest

/-- A call and what follows it. -/
theorem ensures_ask_then {M : Type} (mon : Monitor ((managedSignature E).showing (Locals E)) M)
    (op : Op E) {α : Type} {f : op.Ans → Managed E α} {post : α → Locals E → M → Prop}
    {l : Locals E} {m : M} (rest : ∀ time val, mon.rely m (event l op time val) →
      mon.safe m (event l op time val) ∧
        mon.ensures post (f val) l (mon.step m (event l op time val))) :
    mon.ensures post (ask op >>= f) l m :=
  mon.ensures_bind.mpr (ensures_of_ask mon op rest)

theorem ensures_handler {M : Type} (mon : Monitor ((managedSignature E).showing (Locals E)) M)
    {call : HandlerCall E} {post : call.Res → Locals E → M → Prop} {l : Locals E} {m : M} :
    mon.ensures post (handler call) l m ↔
      ∀ time val, mon.rely m (event l (.handler call) time val) →
        mon.safe m (event l (.handler call) time val) ∧
          post val l (mon.step m (event l (.handler call) time val)) :=
  ensures_ask mon

theorem quiet_ask {allowed : Op E → Prop} {op : Op E} (permitted : allowed op) :
    Proc.Quiet (S := managedSignature E) (L := Locals E) allowed (ask op) :=
  fun _ => ⟨⟨rfl, permitted⟩, fun _ => rfl⟩

theorem quiet_handler {allowed : Op E → Prop} {call : HandlerCall E}
    (permitted : allowed (.handler call)) :
    Proc.Quiet (S := managedSignature E) (L := Locals E) allowed (handler call) :=
  quiet_ask permitted

theorem quiet_ping {allowed : Op E → Prop} {call : PingCall} (permitted : allowed (.ping call)) :
    Proc.Quiet (S := managedSignature E) (L := Locals E) allowed (ping call) :=
  quiet_ask permitted

theorem quiet_monitor {allowed : Op E → Prop} {call : MonitorCall}
    (permitted : allowed (.monitor call)) :
    Proc.Quiet (S := managedSignature E) (L := Locals E) allowed (monitor call) :=
  quiet_ask permitted

/-- A small endpoint, so that the loops can be run. -/
def bareEndpoint : Endpoint where
  Message := Nat
  Error := Unit
  errorText := fun _ => "error"
  Subscription := Unit
  Value := Unit

/-- Answers of parties that accept everything and ask for nothing; no event
arrives but the end of the stream. -/
def bareAnswer : (op : Op E) → op.Ans
  | .storeStatus _ | .startPingSleep _ | .resetPingSleep _ | .enterWait _ | .enterApply _ => ()
  | .connect _ _ | .write _ _ => .ok ()
  | .handler call => match call with
    | .resetState | .onOpen | .onOutboundFrame _ | .onInboundFrame _ => ()
    | .onConnectionOpened _ | .onConnectionDisconnected _ _ => none
    | .generateAuth => none
    | .sessionMode => .publicSession
    | .parseFrame _ => .ok (.message .continue)
    | .handleMessage _ => .ok ()
    | .handleServerError _ _ _ => .continue
    | .classifyDisconnect _ => .backoffReconnect
    | .initialSubscriptions => []
    | .updateSubscriptions _ => .ok []
    | .serializeSubscription _ => ByteArray.empty
  | .reconnect call => match call with
    | .shouldRetry => true
    | .nextDelay => (1 : Nat)
    | .reset => ()
  | .monitor call => match call with
    | .isStale => false
    | .recordConnectAttempt | .recordConnectSuccess | .resetConnection | .recordMessage
    | .recordSent | .recordRtt _ | .recordError | .recordInternalError _ _
    | .recordServerError _ _ | .incrementReconnect => ()
  | .ping call => match call with
    | .createPing => none
    | .handleInbound _ => .notPong
    | .isStale => false
    | .reset => ()
    | .interval => (1 : Nat)
  | .select => .frame none
  | .selectWithPing => some (.frame none)
  | .waitSelect _ => none

end ManagedOps
