import Mathlib.Data.List.Basic

/-!
# Unbounded channels

A queue between a sender and a receiver, either of which may be dropped. Sending fails once the
receiver is gone, and then the queue is gone too; receiving waits for an item until the sender is
gone. What comes out is what went in, in order, and all of it while the receiver is there.
-/
namespace UnboundedChannels

structure Channel (α : Type) where
  queue : List α
  sender : Bool
  receiver : Bool

section Channels
variable {α : Type}

namespace Channel

def fresh : Channel α := ⟨[], true, true⟩

def send (c : Channel α) (item : α) : Option (Channel α) :=
  if c.receiver then some { c with queue := c.queue ++ [item] } else none

/-- The result is `none` while `recv` waits. -/
def recv (c : Channel α) : Option (Option α × Channel α) :=
  match c.queue with
  | item :: rest => some (some item, { c with queue := rest })
  | [] => if c.sender then none else some (none, c)

def dropSender (c : Channel α) : Channel α := { c with sender := false }

def dropReceiver (c : Channel α) : Channel α := { c with queue := [], receiver := false }

end Channel

open Channel

/-- Of the items `into` that were sent, the items `out` have been received. -/
structure Relays (c : Channel α) (into out : List α) : Prop where
  part : out ++ c.queue <+: into
  whole : c.receiver = true → out ++ c.queue = into

theorem relays_fresh : Relays (fresh : Channel α) [] [] :=
  ⟨List.prefix_rfl, fun _ => rfl⟩

namespace Relays
variable {c c' : Channel α} {into out : List α} (relays : Relays c into out)
include relays

theorem out_part : out <+: into := (List.prefix_append out c.queue).trans relays.part

theorem send {item : α} (accepted : c.send item = some c') : Relays c' (into ++ [item]) out := by
  unfold Channel.send at accepted
  split at accepted
  · rename_i listening
    obtain rfl := Option.some.inj accepted
    have whole : out ++ (c.queue ++ [item]) = into ++ [item] := by
      rw [← List.append_assoc, relays.whole listening]
    exact ⟨⟨[], by rw [List.append_nil, whole]⟩, fun _ => whole⟩
  · cases accepted

theorem recv {item : Option α} (got : c.recv = some (item, c')) :
    Relays c' into (out ++ item.toList) := by
  unfold Channel.recv at got
  split at got
  · rename_i first rest queue
    obtain ⟨rfl, rfl⟩ := Prod.mk.inj (Option.some.inj got)
    have same : out ++ [first] ++ rest = out ++ c.queue := by
      rw [queue, List.append_assoc, List.singleton_append]
    constructor
    · rw [Option.toList_some, same]
      exact relays.part
    · intro listening
      rw [Option.toList_some, same]
      exact relays.whole listening
  · split at got
    · cases got
    · obtain ⟨rfl, rfl⟩ := Prod.mk.inj (Option.some.inj got)
      rw [Option.toList_none, List.append_nil]
      exact relays

/-- A receiver that finds the end has received everything. -/
theorem recv_end (got : c.recv = some (none, c')) (listening : c.receiver = true) :
    c'.sender = false ∧ out = into := by
  unfold Channel.recv at got
  split at got
  · cases got
  · rename_i queue
    split at got
    · cases got
    · rename_i gone
      obtain ⟨-, rfl⟩ := Prod.mk.inj (Option.some.inj got)
      refine ⟨by simpa using gone, ?_⟩
      have whole := relays.whole listening
      rwa [queue, List.append_nil] at whole

theorem dropSender : Relays c.dropSender into out := ⟨relays.part, relays.whole⟩

theorem dropReceiver : Relays c.dropReceiver into out := by
  refine ⟨?_, nofun⟩
  change out ++ [] <+: into
  rw [List.append_nil]
  exact relays.out_part

end Relays
end Channels
end UnboundedChannels
