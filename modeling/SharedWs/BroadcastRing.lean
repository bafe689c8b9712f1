import Mathlib.Algebra.Group.Nat.Defs
import Mathlib.Data.List.Basic
import Mathlib.Data.Nat.Log

/-!
# Broadcast over an overwriting ring

Every receiver sees the values sent after it subscribed, in order, as long as
the next one it has to read is still retained. The ring keeps the last
`capacity` values; the log keeps all of them and is only there to say what was
sent. A send that finds no receiver stores nothing.
-/
namespace BroadcastRing

inductive RecvError where
  | lagged (missed : Nat)
  | closed
  deriving DecidableEq

structure RingBuffer (α : Type) where
  capacity : Nat
  log : List α
  receivers : Nat

variable {α : Type}

/-- A ring for `retained` values has the next power of two many slots. -/
def channel (retained : Nat) : RingBuffer α := ⟨2 ^ Nat.clog 2 retained, [], 0⟩

/-- A new receiver and the position of the first value it will read. -/
def RingBuffer.subscribe (ring : RingBuffer α) : Nat × RingBuffer α :=
  (ring.log.length, { ring with receivers := ring.receivers + 1 })

/-- The number of receivers the value is kept for, or an error if there is none. -/
def RingBuffer.send (ring : RingBuffer α) (a : α) : Except Unit Nat × RingBuffer α :=
  if ring.receivers = 0 then (.error (), ring)
  else (.ok ring.receivers, { ring with log := ring.log ++ [a] })

/-- What the receiver at `next` gets and where it stands afterwards; `none`
while it has to wait. A value that is no longer retained is reported once, and
the receiver is moved to the oldest one that is. -/
def RingBuffer.recv (ring : RingBuffer α) (next : Nat) : Option (Except RecvError α × Nat) :=
  if ring.capacity < ring.log.length - next then
    some (.error (.lagged (ring.log.length - next - ring.capacity)),
      ring.log.length - ring.capacity)
  else (ring.log[next]?).map fun a => (.ok a, next + 1)

def RingBuffer.leave (ring : RingBuffer α) : RingBuffer α :=
  { ring with receivers := ring.receivers - 1 }

/-- The next value of the receiver has been overwritten. -/
def RingBuffer.Lags (ring : RingBuffer α) (next : Nat) : Prop :=
  ring.capacity < ring.log.length - next

instance (ring : RingBuffer α) (next : Nat) : Decidable (ring.Lags next) :=
  inferInstanceAs (Decidable (_ < _))

theorem recv_retained {ring : RingBuffer α} {next : Nat} {a : α}
    (fits : ring.log.length - next ≤ ring.capacity) (here : ring.log[next]? = some a) :
    ring.recv next = some (.ok a, next + 1) := by
  unfold RingBuffer.recv
  rw [if_neg (Nat.not_lt.mpr fits), here]
  rfl

theorem recv_ok {ring : RingBuffer α} {next after : Nat} {a : α}
    (got : ring.recv next = some (.ok a, after)) :
    ¬ ring.Lags next ∧ ring.log[next]? = some a ∧ after = next + 1 := by
  unfold RingBuffer.recv at got
  split at got
  · cases got
  · rename_i retained
    obtain ⟨b, here, same⟩ := Option.map_eq_some_iff.mp got
    obtain ⟨⟨⟩, rfl⟩ := Prod.mk.inj same
    exact ⟨retained, here, rfl⟩

theorem recv_error {ring : RingBuffer α} {next after : Nat} {error : RecvError}
    (got : ring.recv next = some (.error error, after)) :
    ring.Lags next ∧ error = .lagged (ring.log.length - next - ring.capacity) := by
  unfold RingBuffer.recv at got
  split at got
  · rename_i overwritten
    cases got
    exact ⟨overwritten, rfl⟩
  · obtain ⟨b, _, same⟩ := Option.map_eq_some_iff.mp got
    cases (Prod.mk.inj same).1

theorem recv_none {ring : RingBuffer α} {next : Nat} (waits : ring.recv next = none) :
    ring.log.length ≤ next ∧ ¬ ring.Lags next := by
  unfold RingBuffer.recv at waits
  split at waits
  · cases waits
  · rename_i retained
    exact ⟨List.getElem?_eq_none_iff.mp (Option.map_eq_none_iff.mp waits), retained⟩

/-- What a receiver gets, by the values it has not read. -/
def offer (capacity : Nat) (unread : List α) : Option (Except RecvError α) :=
  if capacity < unread.length then some (.error (.lagged (unread.length - capacity)))
  else unread.head?.map .ok

theorem recv_offer (ring : RingBuffer α) (next : Nat) :
    (ring.recv next).map Prod.fst = offer ring.capacity (ring.log.drop next) := by
  unfold RingBuffer.recv offer
  rw [List.length_drop]
  split
  · rfl
  · rw [List.head?_drop, Option.map_map]
    rfl

/-- A send leaves every value where it was and adds at most one behind them. -/
theorem send_log (ring : RingBuffer α) (a : α) :
    (ring.send a).2.log = if ring.receivers = 0 then ring.log else ring.log ++ [a] := by
  unfold RingBuffer.send
  split <;> rfl

@[simp] theorem send_capacity (ring : RingBuffer α) (a : α) :
    (ring.send a).2.capacity = ring.capacity := by
  unfold RingBuffer.send
  split <;> rfl

@[simp] theorem send_receivers (ring : RingBuffer α) (a : α) :
    (ring.send a).2.receivers = ring.receivers := by
  unfold RingBuffer.send
  split <;> rfl

/-- A receiver that lags keeps lagging until it reads. -/
theorem lags_send {ring : RingBuffer α} {next : Nat} (a : α) (lags : ring.Lags next) :
    (ring.send a).2.Lags next := by
  unfold RingBuffer.Lags at lags ⊢
  rw [send_capacity, send_log]
  split
  · exact lags
  · rw [List.length_append]
    omega

end BroadcastRing
