import Mathlib.Data.List.AList
import SharedWs.ProtocolPing

/-!
# The built-in ping strategies

`ServerDrivenProtocolPingPong` and `WsApplicationPingPong` of `core/ping.rs`, and
the choice between the three strategies. The closures of the application
strategy may keep state of their own, so what they do is an argument of each
call, like the readings of the clock.
-/
namespace PingStrategies

open WsFrames WsTypes ManagedOps ProtocolPing

/-- Heartbeats come from the server; liveness is left to the health monitor. -/
structure ServerDrivenProtocolPingPong where
  checkInterval : Duration

namespace ServerDrivenProtocolPingPong

def new (checkInterval : Duration) : ServerDrivenProtocolPingPong := ⟨checkInterval⟩

def handleInbound : WsFrame → WsPongResult
  | .ping payload => .reply (.pong payload)
  | .pong _ => .pongReceived none
  | _ => .notPong

def respond (s : ServerDrivenProtocolPingPong) :
    (call : PingCall) → call.Res × ServerDrivenProtocolPingPong
  | .createPing => (none, s)
  | .handleInbound message => (handleInbound message, s)
  | .isStale => (false, s)
  | .reset => ((), s)
  | .interval => (s.checkInterval, s)

end ServerDrivenProtocolPingPong

/-- What the closures and the clock give during one call. -/
structure Ambient where
  createMessage : Bytes × String
  parsePong : Bytes → Option String
  /-- The reading taken by `cleanup_stale`, before the one that stamps the ping. -/
  cleanupTime : Instant

/-- Pings that carry a key, pending until a message with this key comes back. -/
structure WsApplicationPingPong where
  interval : Duration
  timeout : Duration
  pendingPings : AList fun _ : String => Instant
  maxPending : Nat
  oldestPending : Option Instant

namespace WsApplicationPingPong

def new (interval timeout : Duration) : WsApplicationPingPong := ⟨interval, timeout, ∅, 10, none⟩

def withMaxPending (p : WsApplicationPingPong) (maxPending : Nat) : WsApplicationPingPong :=
  { p with maxPending := maxPending }

/-- `pending_pings.values().copied().min()`. -/
def oldest (pending : AList fun _ : String => Instant) : Option Instant :=
  (pending.entries.map fun entry => entry.2).min?

def touchOldestOnInsert (p : WsApplicationPingPong) (time : Instant) : WsApplicationPingPong :=
  { p with oldestPending := some ((p.oldestPending.map fun old => min old time).getD time) }

/-- `HashMap::retain` on the send times. -/
def retain (pending : AList fun _ : String => Instant) (keep : Instant → Bool) :
    AList fun _ : String => Instant where
  entries := pending.entries.filter fun entry => keep entry.2
  nodupKeys := List.NodupKeys.sublist List.filter_sublist pending.nodupKeys

def cleanupStale (p : WsApplicationPingPong) (now : Instant) : WsApplicationPingPong :=
  let pending := retain p.pendingPings fun sent => now - sent ≤ p.timeout
  { p with pendingPings := pending, oldestPending := oldest pending }

def processApplication (p : WsApplicationPingPong) (ambient : Ambient) (now : Instant)
    (payload : Bytes) : WsPongResult × WsApplicationPingPong :=
  match ambient.parsePong payload with
  | none => (.notPong, p)
  | some key =>
    match p.pendingPings.lookup key with
    | none => (.notPong, p)
    | some sentAt =>
      let pending := p.pendingPings.erase key
      (.pongReceived (some (now - sentAt)),
        { p with
          pendingPings := pending
          oldestPending :=
            if p.oldestPending = some sentAt then oldest pending else p.oldestPending })

def createPing (p : WsApplicationPingPong) (ambient : Ambient) (now : Instant) :
    Option WsFrame × WsApplicationPingPong :=
  let p := p.cleanupStale ambient.cleanupTime
  if p.maxPending ≤ p.pendingPings.entries.length then
    (none, p)
  else
    let (payload, key) := ambient.createMessage
    (some (intoWsFrame payload),
      { p with pendingPings := p.pendingPings.insert key now }.touchOldestOnInsert now)

def handleInbound (p : WsApplicationPingPong) (ambient : Ambient) (now : Instant) :
    WsFrame → WsPongResult × WsApplicationPingPong
  | .text text => p.processApplication ambient now text.bytes
  | .binary bytes => p.processApplication ambient now bytes
  | _ => (.notPong, p)

def isStale (p : WsApplicationPingPong) (now : Instant) : Bool :=
  (p.oldestPending.map fun oldest => decide (p.timeout < now - oldest)).getD false

def reset (p : WsApplicationPingPong) : WsApplicationPingPong :=
  { p with pendingPings := ∅, oldestPending := none }

def respond (p : WsApplicationPingPong) (ambient : Ambient) (now : Instant) :
    (call : PingCall) → call.Res × WsApplicationPingPong
  | .createPing => p.createPing ambient now
  | .handleInbound message => p.handleInbound ambient now message
  | .isStale => (p.isStale now, p)
  | .reset => ((), p.reset)
  | .interval => (p.interval, p)

end WsApplicationPingPong

/-- One of the three, with the surroundings of its calls to come. -/
inductive BuiltIn where
  | protocol (p : ProtocolPingPong)
  | serverDriven (s : ServerDrivenProtocolPingPong)
  | application (p : WsApplicationPingPong) (ambient : Nat → Ambient)

namespace BuiltIn

def respond (now : Instant) (call : PingCall) : BuiltIn → call.Res × BuiltIn
  | .protocol p => ((p.respond now call).1, .protocol (p.respond now call).2)
  | .serverDriven s => ((s.respond call).1, .serverDriven (s.respond call).2)
  | .application p ambient =>
    ((p.respond (ambient 0) now call).1,
      .application (p.respond (ambient 0) now call).2 fun n => ambient (n + 1))

def isApplication : BuiltIn → Bool
  | .application _ _ => true
  | _ => false

@[simp] theorem respond_isApplication (b : BuiltIn) (now : Instant) (call : PingCall) :
    (b.respond now call).2.isApplication = b.isApplication := by
  cases b <;> rfl

end BuiltIn

/-- The payload of a `Ping` or `Pong` frame. -/
def controlPayload : WsFrame → Option Bytes
  | .ping payload | .pong payload => some payload
  | _ => none

/-- What becomes of a control frame: the two control-frame strategies take it,
the application strategy leaves it alone. -/
theorem handleInbound_control (b : BuiltIn) (now : Instant) {frame : WsFrame}
    (control : (controlPayload frame).isSome = true) :
    (b.respond now (.handleInbound frame)).1 = .notPong ↔ b.isApplication = true := by
  cases frame with
  | ping payload => cases b <;> simp [BuiltIn.respond, BuiltIn.isApplication,
      ProtocolPingPong.respond, ProtocolPingPong.handleInbound,
      ServerDrivenProtocolPingPong.respond, ServerDrivenProtocolPingPong.handleInbound,
      WsApplicationPingPong.respond, WsApplicationPingPong.handleInbound]
  | pong payload => cases b <;> simp [BuiltIn.respond, BuiltIn.isApplication,
      ProtocolPingPong.respond, ProtocolPingPong.handleInbound,
      ServerDrivenProtocolPingPong.respond, ServerDrivenProtocolPingPong.handleInbound,
      WsApplicationPingPong.respond, WsApplicationPingPong.handleInbound]
  | _ => cases control

/-- A `Ping` that is taken is answered with its own payload. -/
theorem handleInbound_ping {b : BuiltIn} (other : b.isApplication = false) (now : Instant)
    (payload : Bytes) :
    (b.respond now (.handleInbound (.ping payload))).1 = .reply (.pong payload) := by
  cases b with
  | protocol p => rfl
  | serverDriven s => rfl
  | application p ambient => cases other

end PingStrategies
