import Mathlib.Data.List.Induction
import SharedWs.CommandFanout

/-!
# The lag budget of a connection

`retained_commands_per_client` says how far a client may fall behind. The ring
that the number is passed to has the next power of two many slots, and it is the
ring that decides what a read finds. So the budget is kept as it is configured
if the number is a power of two; any other number gives every client more.
-/
namespace LagBudget

open BroadcastRing InteractionPrograms InteractionProgress
open CommandFanout ConnectionBudget ConnectionProtocol ConnectionTask
open ServerHandle ServerSystem ServerTask ServerTypes

variable {Command : Type}

/-- The dispatched commands that the connection has not read, oldest first. -/
def unread (s : System Command) (c : Connection Command) : List Command :=
  s.dispatched.drop (c.receiver.since + (readCommands c.trace).length)

/-- The connection at place `k` reads its receiver. -/
structure Reads (config : WsServerConfig) (s : System Command) (k : Nat)
    (c : Connection Command) (received : Except RecvError Command)
    (task : ConnectionTask.Step Command (Head ⊕ Unit)) (receiver : Receiver) : Prop where
  here : s.connections[k]? = some c
  live : c.fate = .running
  fires : Fires (runConnection config c.ctx) c.task ⟨.select, .command received⟩ task
  hears : Hears s.shared c.receiver ⟨.select, .command received⟩ receiver

/-- The handler is told that its client lagged, and is given no further command. -/
def Dropped (config : WsServerConfig) (retry : WsServerRetryPolicy) (faults : ServerFaults)
    (s : System Command) (k : Nat) (c : Connection Command) (received : Except RecvError Command)
    (task : ConnectionTask.Step Command (Head ⊕ Unit)) (receiver : Receiver) : Prop :=
  ∃ missed, received = .error (.lagged missed) ∧
    Leads (runConnection config c.ctx) Writes (Closes (.lagged missed)) (fun _ => False) task ∧
    ∀ s', Relation.ReflTransGen (ServerSystem.Step config retry faults)
        { s with connections :=
          s.connections.set k (c.advance ⟨.select, .command received⟩ task receiver) } s' →
      ∃ c', s'.connections[k]? = some c' ∧ receivedCommands c'.trace = receivedCommands c.trace

/-- The handler is given the oldest command that was not read. -/
def Given (s : System Command) (c : Connection Command) (received : Except RecvError Command)
    (task : ConnectionTask.Step Command (Head ⊕ Unit)) : Prop :=
  ∃ oldest next, (unread s c).head? = some oldest ∧ received = .ok oldest ∧
    task = .call (.onEvent (.command oldest)) next

/-- The budget as it is documented, for commands of any type. -/
structure KeepsLagBudget (config : WsServerConfig) : Prop where
  beyond : ∀ {Command : Type} {retry : WsServerRetryPolicy} {faults : ServerFaults}
    {s : System Command} {k : Nat} {c : Connection Command} {received : Except RecvError Command}
    {task : ConnectionTask.Step Command (Head ⊕ Unit)} {receiver : Receiver},
    Reachable config retry faults s → Reads config s k c received task receiver →
    config.retainedCommandsPerClient.toNat < (unread s c).length →
    Dropped config retry faults s k c received task receiver
  within : ∀ {Command : Type} {retry : WsServerRetryPolicy} {faults : ServerFaults}
    {s : System Command} {k : Nat} {c : Connection Command} {received : Except RecvError Command}
    {task : ConnectionTask.Step Command (Head ⊕ Unit)} {receiver : Receiver},
    Reachable config retry faults s → Reads config s k c received task receiver →
    (unread s c).length ≤ config.retainedCommandsPerClient.toNat → Given s c received task

section Reading
variable {config : WsServerConfig} {retry : WsServerRetryPolicy} {faults : ServerFaults}
variable {s s' : System Command} {k : Nat} {c : Connection Command}
variable {received : Except RecvError Command}
variable {task : ConnectionTask.Step Command (Head ⊕ Unit)} {receiver : Receiver}

/-- What is not read yet is what stands in the ring behind the receiver. -/
theorem Reads.retained (reads : Reads config s k c received task receiver)
    (reached : Reachable config retry faults s) :
    s.shared.commands.log.drop c.receiver.next = unread s c := by
  have linked := (fanout_reachable reached).links k c reads.here
  obtain ⟨_, reading⟩ := not_missed_of_select linked.run reads.fires
  exact (linked.position reads.live reading).same

theorem Reads.offered (reads : Reads config s k c received task receiver)
    (reached : Reachable config retry faults s) :
    offer (2 ^ Nat.clog 2 config.retainedCommandsPerClient.toNat) (unread s c) = some received := by
  rw [← capacity_reachable reached, ← reads.retained reached, ← recv_offer]
  cases reads.hears with
  | command quiet got =>
    rw [got]
    rfl
  | other notSelect => exact absurd rfl notSelect

/-- A task that reads has handed over what it read before. -/
theorem Reads.settled (reads : Reads config s k c received task receiver)
    (reached : Reachable config retry faults s) :
    receivedCommands c.trace = readCommands c.trace := by
  have linked := (fanout_reachable reached).links k c reads.here
  rcases handing_run linked.run with ⟨_, same⟩ | ⟨command, handing, _⟩
  · exact same
  · obtain ⟨next, calls, _⟩ := handleEvent_calls plain_ending (.command command)
    have told : c.task = .call (.onEvent (.command command)) next := handing.trans calls
    have fires := reads.fires
    rw [told] at fires
    cases fires

theorem Reads.handled (reads : Reads config s k c received task receiver)
    (reached : Reachable config retry faults s) : task = handleArm (.command received) := by
  have linked := (fanout_reachable reached).links k c reads.here
  exact arm_handled (linked.run.snoc reads.fires)

/-- What was told last is what the client is closed for. -/
theorem Reads.leads {missed : Nat}
    (reads : Reads config s k c (.error (.lagged missed)) task receiver)
    (reached : Reachable config retry faults s) :
    Leads (runConnection config c.ctx) Writes (Closes (.lagged missed)) (fun _ => False) task := by
  have run := ((fanout_reachable reached).links k c reads.here).run.snoc reads.fires
  obtain ⟨allowed, _⟩ := protocol_run run
  obtain ⟨undecided, opened⟩ := allowed c.trace _ [] rfl
  have causes : causeOf (c.trace ++ [⟨.select, .command (.error (.lagged missed))⟩]) =
      some (.lagged missed) := by
    rw [causeOf_snoc, undecided, Option.none_or]
    rfl
  rw [← List.append_nil (c.trace ++ _)] at run
  refine leads_of_silent run causes ?_ rfl
  rw [delivered_snoc]
  simpa [eventOf] using opened

theorem Reads.unheard (reads : Reads config s k c received task receiver)
    (reached : Reachable config retry faults s) (lags : s.shared.commands.Lags c.receiver.next)
    (run : Relation.ReflTransGen (ServerSystem.Step config retry faults) s s') :
    ∃ c', s'.connections[k]? = some c' ∧
      receivedCommands c'.trace = receivedCommands c.trace := by
  obtain ⟨c', more, there, trace, received, _⟩ :=
    (lagsOn_run reached reads.here lags run).received (reached.tail run)
  refine ⟨c', there, ?_⟩
  rw [← reads.settled reached] at received
  have kept : receivedCommands c.trace <+: receivedCommands c'.trace := by
    rw [trace, receivedCommands, receivedCommands, delivered_append, List.filterMap_append]
    exact List.prefix_append _ _
  exact received.eq_of_length_le kept.length_le

/-- Beyond what the ring retains. -/
theorem Reads.dropped (reads : Reads config s k c received task receiver)
    (reached : Reachable config retry faults s)
    (beyond : 2 ^ Nat.clog 2 config.retainedCommandsPerClient.toNat < (unread s c).length) :
    Dropped config retry faults s k c received task receiver := by
  have offered := reads.offered reached
  rw [offer, if_pos beyond] at offered
  obtain rfl := Option.some.inj offered
  have lags : s.shared.commands.Lags c.receiver.next := by
    unfold RingBuffer.Lags
    rw [← List.length_drop, reads.retained reached, capacity_reachable reached]
    exact beyond
  refine ⟨_, rfl, reads.leads reached, fun s' run => ?_⟩
  apply reads.unheard reached lags
  exact .head (.connection reads.here reads.live reads.fires reads.hears) run

/-- Within what the ring retains. -/
theorem Reads.given (reads : Reads config s k c received task receiver)
    (reached : Reachable config retry faults s)
    (within : (unread s c).length ≤ 2 ^ Nat.clog 2 config.retainedCommandsPerClient.toNat) :
    Given s c received task := by
  have offered := reads.offered reached
  rw [offer, if_neg (Nat.not_lt.mpr within)] at offered
  obtain ⟨oldest, first, rfl⟩ := Option.map_eq_some_iff.mp offered
  obtain ⟨next, calls, _⟩ := handleEvent_calls plain_ending (.command oldest)
  exact ⟨oldest, next, first, rfl, (reads.handled reached).trans calls⟩

end Reading

/-- One client is being served, and has read none of `commands`. -/
def behind (config : WsServerConfig) (retry : WsServerRetryPolicy) (trace : List ServerEvent)
    (callers : List (Caller Nat)) (commands : List Nat) : System Nat :=
  let ctx : WsServerConnectionContext := ⟨0, .v4 1 5000, .v4 0 80⟩
  { oneClient config retry (.v4 1 5000) trace with
    shared := ⟨⟨2 ^ Nat.clog 2 config.retainedCommandsPerClient.toNat, commands, 1⟩,
      [.starting, .listening], false, none, 1, 1⟩
    dispatched := commands
    connections :=
      [⟨ctx, ⟨0, 0⟩, .ret (.inl .serving), greeting config ctx, .running, false⟩]
    callers := callers }

section Behind
variable {config : WsServerConfig} {retry : WsServerRetryPolicy}

theorem reachable_of_run {faults : ServerFaults} {s : System Command}
    (valid : config.validate = .ok ())
    (run : Relation.ReflTransGen (ServerSystem.Step config .default faults)
      (start config .default) s) : Reachable config .default faults s := by
  refine ⟨_, ?_, run⟩
  unfold spawnWithFaults
  rw [valid]
  rfl

/-- Any commands may be dispatched before the client reads the first one. -/
theorem behind_reached (retry : WsServerRetryPolicy) (room : 0 < config.maxConnections)
    (commands : List Nat) :
    ∃ trace callers, Relation.ReflTransGen (ServerSystem.Step config retry ⟨none⟩)
      (start config retry) (behind config retry trace callers commands) := by
  obtain ⟨trace, opened⟩ := oneClient_reached retry (.v4 1 5000) room
  have served : Relation.ReflTransGen (ServerSystem.Step config retry ⟨none⟩) _
      (behind config retry trace [] []) := opened.trans (newest_served [] rfl)
  obtain ⟨callers, sent⟩ := dispatch_all config retry ⟨none⟩
    (s := behind config retry trace [] []) rfl rfl rfl commands
  exact ⟨trace, callers, served.trans sent⟩

/-- The client reads the first of them if the ring still has it. -/
theorem behind_reads {first : Nat} {rest : List Nat}
    (retained : (first :: rest).length ≤ 2 ^ Nat.clog 2 config.retainedCommandsPerClient.toNat)
    (trace : List ServerEvent) (callers : List (Caller Nat)) :
    ∃ c task receiver,
      Reads config (behind config retry trace callers (first :: rest)) 0 c (.ok first) task
        receiver ∧
      unread (behind config retry trace callers (first :: rest)) c = first :: rest :=
  ⟨_, _, _, ⟨rfl, rfl, .head (.call _ _ _), .command rfl (recv_retained retained rfl)⟩, rfl⟩

/-- A ring that is larger than the budget lets a client fall too far behind. -/
theorem served_beyond_budget (valid : config.validate = .ok ())
    (larger : config.retainedCommandsPerClient.toNat <
      2 ^ Nat.clog 2 config.retainedCommandsPerClient.toNat) :
    ∃ (s : System Nat) (c : Connection Nat) (task : ConnectionTask.Step Nat (Head ⊕ Unit))
      (receiver : Receiver), Reachable config .default ⟨none⟩ s ∧
      Reads config s 0 c (.ok 0) task receiver ∧
      (unread s c).length = config.retainedCommandsPerClient.toNat + 1 := by
  obtain ⟨-, connections, -⟩ := WsServerConfig.validate_eq_ok.mp valid
  have room : 0 < config.maxConnections := UInt64.pos_iff_ne_zero.mpr connections
  have retained : (0 :: List.replicate config.retainedCommandsPerClient.toNat 0).length ≤
      2 ^ Nat.clog 2 config.retainedCommandsPerClient.toNat := by
    rw [List.length_cons, List.length_replicate]
    exact larger
  obtain ⟨trace, callers, run⟩ := behind_reached .default room
    (0 :: List.replicate config.retainedCommandsPerClient.toNat 0)
  obtain ⟨c, task, receiver, reads, left⟩ := behind_reads retained trace callers
  refine ⟨_, c, task, receiver, reachable_of_run valid run, reads, ?_⟩
  rw [left, List.length_cons, List.length_replicate]

end Behind

/-- The budget is the configured one for powers of two and for no other number. -/
theorem keepsLagBudget_iff {config : WsServerConfig} (valid : config.validate = .ok ()) :
    KeepsLagBudget config ↔ ∃ j, config.retainedCommandsPerClient.toNat = 2 ^ j := by
  constructor
  · intro keeps
    by_contra other
    have larger : config.retainedCommandsPerClient.toNat <
        2 ^ Nat.clog 2 config.retainedCommandsPerClient.toNat := by
      refine Nat.lt_of_le_of_ne (Nat.le_pow_clog (by decide) _) ?_
      intro same
      exact other ⟨_, same⟩
    obtain ⟨s, c, task, receiver, reached, reads, left⟩ := served_beyond_budget valid larger
    have dropped := keeps.beyond reached reads (by omega)
    obtain ⟨missed, wrong, -⟩ := dropped
    cases wrong
  · rintro ⟨j, power⟩
    have exact_fit : 2 ^ Nat.clog 2 config.retainedCommandsPerClient.toNat =
        config.retainedCommandsPerClient.toNat := by
      rw [power, Nat.clog_pow 2 j (by decide)]
    constructor
    · intro _ _ _ _ _ _ _ _ _ reached reads beyond
      exact reads.dropped reached (exact_fit.symm ▸ beyond)
    · intro _ _ _ _ _ _ _ _ _ reached reads within
      exact reads.given reached (exact_fit.symm ▸ within)

theorem default_keeps_budget :
    (WsServerConfig.new (.v4 0 80)).validate = .ok () ∧
      KeepsLagBudget (WsServerConfig.new (.v4 0 80)) :=
  ⟨rfl, (keepsLagBudget_iff rfl).mpr ⟨0, rfl⟩⟩

/-- A server that is to retain three commands for every client. -/
def threeRetained : WsServerConfig :=
  { WsServerConfig.new (.v4 0 80) with retainedCommandsPerClient := 3 }

/-- Four commands behind, the client is given the oldest one and stays. -/
theorem fourth_command_retained :
    threeRetained.validate = .ok () ∧
    (∃ (s : System Nat) (c : Connection Nat) (task : ConnectionTask.Step Nat (Head ⊕ Unit))
      (receiver : Receiver), Reachable threeRetained .default ⟨none⟩ s ∧
      Reads threeRetained s 0 c (.ok 0) task receiver ∧ (unread s c).length = 4 ∧
      Given s c (.ok 0) task) ∧
    ¬ KeepsLagBudget threeRetained := by
  have four : 2 ^ Nat.clog 2 threeRetained.retainedCommandsPerClient.toNat = 4 := by
    decide +kernel
  have larger : threeRetained.retainedCommandsPerClient.toNat <
      2 ^ Nat.clog 2 threeRetained.retainedCommandsPerClient.toNat := by
    rw [four]
    decide
  obtain ⟨s, c, task, receiver, reached, reads, left⟩ := served_beyond_budget rfl larger
  have given : Given s c (.ok 0) task := reads.given reached (by rw [four, left]; decide)
  refine ⟨rfl, ⟨s, c, task, receiver, reached, reads, left, given⟩, ?_⟩
  intro keeps
  have dropped := keeps.beyond reached reads (by omega)
  obtain ⟨missed, wrong, -⟩ := dropped
  cases wrong

end LagBudget
