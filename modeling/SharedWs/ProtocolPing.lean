import SharedWs.ManagedOps

/-!
# `ProtocolPingPong`

The control-frame heartbeat of `core/ping.rs`. Every method that reads the clock
takes the reading as an argument. `saturating_duration_since` and `elapsed` are
subtraction of naturals.
-/
namespace ProtocolPing

open WsFrames WsTypes ManagedOps

structure ProtocolPingPong where
  interval : Duration
  timeout : Duration
  lastPing : Option Instant
  lastPong : Option Instant
  deriving DecidableEq

namespace ProtocolPingPong

def new (interval timeout : Duration) : ProtocolPingPong := ⟨interval, timeout, none, none⟩

def createPing (p : ProtocolPingPong) (now : Instant) : Option WsFrame × ProtocolPingPong :=
  (some (.ping ByteArray.empty), { p with lastPing := some now })

def handleInbound (p : ProtocolPingPong) (now : Instant) :
    WsFrame → WsPongResult × ProtocolPingPong
  | .pong _ =>
    (.pongReceived (p.lastPing.map fun sent => now - sent), { p with lastPong := some now })
  | .ping payload => (.reply (.pong payload), p)
  | _ => (.notPong, p)

def isStale (p : ProtocolPingPong) (now : Instant) : Bool :=
  match p.lastPing with
  | none => false
  | some lastPing =>
    if now - lastPing ≤ p.timeout then
      false
    else
      match p.lastPong with
      | some lastPong => lastPong < lastPing
      | none => true

def reset (p : ProtocolPingPong) : ProtocolPingPong := { p with lastPing := none, lastPong := none }

/-- The strategy as the loop calls it: the answer and the strategy afterwards. -/
def respond (p : ProtocolPingPong) (now : Instant) :
    (call : PingCall) → call.Res × ProtocolPingPong
  | .createPing => p.createPing now
  | .handleInbound message => p.handleInbound now message
  | .isStale => (p.isStale now, p)
  | .reset => ((), p.reset)
  | .interval => (p.interval, p)

/-- No call changes the configuration. -/
@[simp] theorem respond_config (p : ProtocolPingPong) (now : Instant) (call : PingCall) :
    (p.respond now call).2.interval = p.interval ∧ (p.respond now call).2.timeout = p.timeout := by
  cases call with
  | handleInbound message => cases message <;> exact ⟨rfl, rfl⟩
  | _ => exact ⟨rfl, rfl⟩

/-- A ping older than the timeout is stale unless a later pong has been seen. -/
theorem isStale_iff (p : ProtocolPingPong) (now : Instant) :
    p.isStale now = true ↔ ∃ sent, p.lastPing = some sent ∧ p.timeout < now - sent ∧
      ∀ pong, p.lastPong = some pong → pong < sent := by
  obtain ⟨interval, timeout, lastPing, lastPong⟩ := p
  cases lastPing with
  | none => simp [isStale]
  | some sent =>
    by_cases early : now - sent ≤ timeout
    · simp [isStale, early]
    · have late : timeout < now - sent := Nat.lt_of_not_le early
      cases lastPong with
      | none => simp [isStale, early, late]
      | some pong => simp [isStale, early, late]

theorem isStale_young {p : ProtocolPingPong} {sent now : Instant} (last : p.lastPing = some sent)
    (early : now - sent ≤ p.timeout) : p.isStale now = false := by
  simp [isStale, last, early]

end ProtocolPingPong
end ProtocolPing
