import Mathlib.Logic.Relation
import SharedWs.BroadcastRing
import SharedWs.ConnectionTask
import SharedWs.ServerHandle
import SharedWs.ServerTask

/-!
# The server as a whole

The server task, any number of connection tasks and any number of calls through
the handle, interleaved over the state they share. A call of one of these
parties is answered from that state; what the network, the handlers and the
clock answer is arbitrary. A `select!` that polls its arms in order takes a
later arm only while the earlier ones are not ready.

`statuses` and `dispatched` are histories: the current status is the last
published one, and nothing reads `dispatched`.
-/
namespace ServerSystem

open BroadcastRing InteractionPrograms ConnectionTask ServerHandle ServerTask ServerTypes

/-- `ServerShared`. -/
structure Shared (Command : Type) where
  commands : RingBuffer Command
  statuses : List ManagedWsServerStatus
  shutdown : Bool
  terminal : Option ManagedWsServerTerminalError
  active : UInt64
  nextConnectionId : UInt64

variable {Command : Type}

def Shared.status (shared : Shared Command) : ManagedWsServerStatus :=
  shared.statuses.getLastD .starting

/-- How a connection task ended, if it did. `cut` is an abort or a panic. -/
inductive Fate where
  | running
  | returned
  | cut
  deriving DecidableEq

/-- A spawned connection. Its slot and its receiver live as long as it runs. -/
structure Connection (Command : Type) where
  ctx : WsServerConnectionContext
  receiver : Receiver
  task : ConnectionTask.Step Command (Head ⊕ Unit)
  trace : List (ConnectionEvent Command)
  fate : Fate
  joined : Bool

/-- A task that `join_next` can hand out. -/
def Connection.ripe (connection : Connection Command) : Bool :=
  connection.fate != .running && !connection.joined

/-- The connection after one call of its task. -/
def Connection.advance (connection : Connection Command) (e : ConnectionEvent Command)
    (task : ConnectionTask.Step Command (Head ⊕ Unit)) (receiver : Receiver) : Connection Command :=
  { connection with task := task, trace := connection.trace ++ [e], receiver := receiver }

/-- A call through the handle, with the number of statuses it has seen. -/
structure Caller (Command : Type) where
  call : HandleCall Command
  seen : Nat
  task : HandleStep Command (HandleCall Command ⊕ HandleResult)
  trace : List (HandleEvent Command)

/-- The caller after one access. -/
def Caller.advance (caller : Caller Command) (e : HandleEvent Command)
    (task : HandleStep Command (HandleCall Command ⊕ HandleResult)) (seen : Nat) : Caller Command :=
  { caller with task := task, trace := caller.trace ++ [e], seen := seen }

abbrev ServerProg :=
  Prog (serverSignature.showing ServerVars) ((ServerHead × ServerVars) ⊕ (Unit × ServerVars))

structure System (Command : Type) where
  shared : Shared Command
  dispatched : List Command
  task : ServerProg
  trace : List ServerEvent
  connections : List (Connection Command)
  callers : List (Caller Command)

namespace System

def updateShared (s : System Command) (f : Shared Command → Shared Command) : System Command :=
  { s with shared := f s.shared }

/-- `join_next` hands out the task of `connection`, at place `k`. -/
def reap (s : System Command) (k : Nat) (connection : Connection Command) : System Command :=
  { s with connections := s.connections.set k { connection with joined := true } }

/-- The future of a connection is dropped, and with it its slot and its receiver. -/
def release (s : System Command) (k : Nat) (connection : Connection Command) (fate : Fate) :
    System Command where
  shared := { s.shared with
    active := s.shared.active - 1
    commands := s.shared.commands.leave }
  dispatched := s.dispatched
  task := s.task
  trace := s.trace
  connections := s.connections.set k { connection with fate := fate }
  callers := s.callers

end System

/-- A call of the server task with the answer it gets in state `s`, and what the
call changes. -/
inductive Serves (s : System Command) : ServerEvent → System Command → Prop
  | readShutdown (vars : ServerVars) : Serves s ⟨(vars, .readShutdown), s.shared.shutdown⟩ s
  | bindListener (vars : ServerVars) (addr : SocketAddr) (backlog : UInt32)
      (result : Except String Unit) : Serves s ⟨(vars, .bindListener addr backlog), result⟩ s
  | localAddr (vars : ServerVars) (result : Except String SocketAddr) :
      Serves s ⟨(vars, .localAddr), result⟩ s
  | dropListener (vars : ServerVars) : Serves s ⟨(vars, .dropListener), ()⟩ s
  | readTerminal (vars : ServerVars) : Serves s ⟨(vars, .readTerminal), s.shared.terminal⟩ s
  -- a write-once cell: a second cause is dropped
  | storeTerminal (vars : ServerVars) (error : ManagedWsServerTerminalError) :
      Serves s ⟨(vars, .storeTerminal error), ()⟩
        (s.updateShared fun shared =>
          { shared with terminal := shared.terminal.or (some error) })
  | publish (vars : ServerVars) (status : ManagedWsServerStatus) :
      Serves s ⟨(vars, .publish status), ()⟩
        (s.updateShared fun shared => { shared with statuses := shared.statuses ++ [status] })
  | acceptShutdown (vars : ServerVars) (requested : s.shared.shutdown = true) :
      Serves s ⟨(vars, .acceptSelect), .shutdown⟩ s
  | acceptJoined (vars : ServerVars) (quiet : s.shared.shutdown = false) {k : Nat}
      {connection : Connection Command} (here : s.connections[k]? = some connection)
      (ripe : connection.ripe = true) :
      Serves s ⟨(vars, .acceptSelect), .joined k⟩ (s.reap k connection)
  -- a task gives its slot back before it can be joined, so one that is over need not be seen yet
  | acceptIncoming (vars : ServerVars) (quiet : s.shared.shutdown = false)
      (result : Except IoError SocketAddr) :
      Serves s ⟨(vars, .acceptSelect), .incoming result⟩ s
  | acquired (vars : ServerVars) {max : UInt64} (room : s.shared.active < max) :
      Serves s ⟨(vars, .tryAcquire max), true⟩
        (s.updateShared fun shared => { shared with active := shared.active + 1 })
  | full (vars : ServerVars) {max : UInt64} (full : s.shared.active ≥ max) :
      Serves s ⟨(vars, .tryAcquire max), false⟩ s
  | nextConnectionId (vars : ServerVars) :
      Serves s ⟨(vars, .nextConnectionId), s.shared.nextConnectionId⟩
        (s.updateShared fun shared =>
          { shared with nextConnectionId := shared.nextConnectionId + 1 })
  | subscribe (vars : ServerVars) :
      Serves s ⟨(vars, .subscribe), ⟨s.shared.commands.subscribe.1, s.dispatched.length⟩⟩
        (s.updateShared fun shared =>
          { shared with commands := shared.commands.subscribe.2 })
  | spawn (vars : ServerVars) (ctx : WsServerConnectionContext) (receiver : Receiver) :
      Serves s ⟨(vars, .spawn ctx receiver), ()⟩
        { s with connections :=
          s.connections ++ [⟨ctx, receiver, .ret (.inl .accepted), [], .running, false⟩] }
  -- not polled in order: the sleep may win even if shutdown was requested
  | backoffElapsed (vars : ServerVars) (backoff : WsTypes.Duration) :
      Serves s ⟨(vars, .backoffSelect backoff), .elapsed⟩ s
  | backoffShutdown (vars : ServerVars) (backoff : WsTypes.Duration)
      (requested : s.shared.shutdown = true) :
      Serves s ⟨(vars, .backoffSelect backoff), .shutdown⟩ s
  | drainJoined (vars : ServerVars) (timeout : WsTypes.Duration) {k : Nat}
      {connection : Connection Command} (here : s.connections[k]? = some connection)
      (ripe : connection.ripe = true) :
      Serves s ⟨(vars, .drainNext timeout), .joined k⟩ (s.reap k connection)
  | drainEmpty (vars : ServerVars) (timeout : WsTypes.Duration)
      (all : ∀ connection ∈ s.connections, connection.joined = true) :
      Serves s ⟨(vars, .drainNext timeout), .empty⟩ s
  | drainElapsed (vars : ServerVars) (timeout : WsTypes.Duration) :
      Serves s ⟨(vars, .drainNext timeout), .elapsed⟩ s
  -- what is aborted ends later, by a step of its own
  | abortAll (vars : ServerVars) : Serves s ⟨(vars, .abortAll), ()⟩ s
  | joined (vars : ServerVars) {k : Nat} {connection : Connection Command}
      (here : s.connections[k]? = some connection) (ripe : connection.ripe = true) :
      Serves s ⟨(vars, .joinNext), some k⟩ (s.reap k connection)
  | noneLeft (vars : ServerVars)
      (all : ∀ connection ∈ s.connections, connection.joined = true) :
      Serves s ⟨(vars, .joinNext), none⟩ s

/-- A call of a connection task with the answer it may get, and where its
receiver stands afterwards. The arms of its `select!` are polled in order. -/
inductive Hears (shared : Shared Command) (receiver : Receiver) :
    ConnectionEvent Command → Receiver → Prop
  | shutdown (requested : shared.shutdown = true) :
      Hears shared receiver ⟨.select, .shutdown⟩ receiver
  | incoming (quiet : shared.shutdown = false) (item : Option (Except String WsFrames.WsFrame)) :
      Hears shared receiver ⟨.select, .incoming item⟩ receiver
  | command (quiet : shared.shutdown = false) {received : Except RecvError Command} {next : Nat}
      (got : shared.commands.recv receiver.next = some (received, next)) :
      Hears shared receiver ⟨.select, .command received⟩ { receiver with next := next }
  | tick (quiet : shared.shutdown = false) (waits : shared.commands.recv receiver.next = none) :
      Hears shared receiver ⟨.select, .tick⟩ receiver
  | other {op : ConnectionOp Command} (notSelect : op ≠ .select) (answer : op.Res) :
      Hears shared receiver ⟨op, answer⟩ receiver

/-- An access of a handle, how many statuses the caller has then seen, and what
the access changes. -/
inductive Grants (s : System Command) (seen : Nat) :
    HandleEvent Command → Nat → System Command → Prop
  | readTerminal : Grants s seen ⟨.readTerminal, s.shared.terminal⟩ seen s
  | statusSnapshot : Grants s seen ⟨.statusSnapshot, s.shared.status⟩ seen s
  | borrowAndUpdate :
      Grants s seen ⟨.borrowAndUpdate, s.shared.status⟩ s.shared.statuses.length s
  | changed (timeout : WsTypes.Duration) (moved : s.shared.statuses.length ≠ seen) :
      Grants s seen ⟨.changed timeout, .changed⟩ seen s
  | elapsed (timeout : WsTypes.Duration) (same : s.shared.statuses.length = seen) :
      Grants s seen ⟨.changed timeout, .elapsed⟩ seen s
  | send (command : Command) :
      Grants s seen ⟨.send command, (s.shared.commands.send command).1⟩ seen
        { s with
          shared := { s.shared with commands := (s.shared.commands.send command).2 }
          dispatched := s.dispatched ++ [command] }

section Steps
variable (config : WsServerConfig) (retry : WsServerRetryPolicy) (faults : ServerFaults)

inductive Step : System Command → System Command → Prop
  | server {s s' : System Command} {e : ServerEvent} {task : ServerProg}
      (fires : Fires (Proc.turn (runServer config retry faults)) s.task e task)
      (serves : Serves s e s') : Step s { s' with task := task, trace := s.trace ++ [e] }
  | connection {s : System Command} {k : Nat} {connection : Connection Command}
      {e : ConnectionEvent Command} {task : ConnectionTask.Step Command (Head ⊕ Unit)}
      {receiver : Receiver} (here : s.connections[k]? = some connection)
      (running : connection.fate = .running)
      (fires : Fires (runConnection config connection.ctx) connection.task e task)
      (hears : Hears s.shared connection.receiver e receiver) :
      Step s { s with connections := s.connections.set k (connection.advance e task receiver) }
  | finish {s : System Command} {k : Nat} {connection : Connection Command}
      (here : s.connections[k]? = some connection) (running : connection.fate = .running)
      (returned : connection.task = .ret (.inr ())) : Step s (s.release k connection .returned)
  | cut {s : System Command} {k : Nat} {connection : Connection Command}
      (here : s.connections[k]? = some connection) (running : connection.fate = .running) :
      Step s (s.release k connection .cut)
  | call (s : System Command) (call : HandleCall Command) :
      Step s { s with callers :=
        s.callers ++ [⟨call, s.shared.statuses.length, .ret (.inl call), []⟩] }
  | caller {s s' : System Command} {k : Nat} {caller : Caller Command} {e : HandleEvent Command}
      {task : HandleStep Command (HandleCall Command ⊕ HandleResult)} {seen : Nat}
      (here : s.callers[k]? = some caller) (fires : Fires runCall caller.task e task)
      (grants : Grants s caller.seen e seen s') :
      Step s { s' with callers := s.callers.set k (caller.advance e task seen) }
  -- `shutdown_with_timeout`, or a dropped handle
  | requestShutdown (s : System Command) :
      Step s (s.updateShared fun shared => { shared with shutdown := true })

/-- The server as it is spawned. -/
def start : System Command where
  shared := ⟨channel config.retainedCommandsPerClient.toNat, [.starting], false, none, 0, 0⟩
  dispatched := []
  task := .ret (.inl (.lifecycle, initialVars retry))
  trace := []
  connections := []
  callers := []

/-- `spawn_with_faults`. -/
def spawnWithFaults (runtime : Bool) : Except ManagedWsServerStartError (System Command) := do
  config.validate
  retry.validate
  if runtime then pure (start config retry) else throw .runtimeUnavailable

/-- The states that a spawned server can get to. -/
def Reachable (s : System Command) : Prop :=
  ∃ first, spawnWithFaults config retry true = .ok first ∧
    Relation.ReflTransGen (Step config retry faults) first s

end Steps

variable {config : WsServerConfig} {retry : WsServerRetryPolicy} {faults : ServerFaults}

theorem spawned_start {s : System Command} {runtime : Bool}
    (spawned : spawnWithFaults config retry runtime = .ok s) : s = start config retry := by
  unfold spawnWithFaults at spawned
  cases valid : config.validate with
  | error error => rw [valid] at spawned; cases spawned
  | ok =>
    cases valid' : retry.validate with
    | error error => rw [valid, valid'] at spawned; cases spawned
    | ok =>
      rw [valid, valid'] at spawned
      cases runtime with
      | true => exact (Except.ok.inj spawned).symm
      | false => cases spawned

/-- An invariant of the whole system. -/
theorem Reachable.invariant (inv : System Command → Prop) (first : inv (start config retry))
    (step : ∀ s s', inv s → Step config retry faults s s' → inv s') {s : System Command}
    (reached : Reachable config retry faults s) : inv s := by
  obtain ⟨initial, spawned, run⟩ := reached
  rw [spawned_start spawned] at run
  induction run with
  | refl => exact first
  | tail _ last ih => exact step _ _ ih last

theorem Reachable.tail {s s' : System Command} (reached : Reachable config retry faults s)
    (run : Relation.ReflTransGen (Step config retry faults) s s') :
    Reachable config retry faults s' := by
  obtain ⟨initial, spawned, before⟩ := reached
  exact ⟨initial, spawned, before.trans run⟩

/-- What one step of the system can do to the connection at one place. -/
inductive Moves (config : WsServerConfig) (shared : Shared Command) :
    Option (Connection Command) → Option (Connection Command) → Prop
  | stays (connection : Option (Connection Command)) : Moves config shared connection connection
  | admitted (ctx : WsServerConnectionContext) (receiver : Receiver) :
      Moves config shared none
        (some ⟨ctx, receiver, .ret (.inl .accepted), [], .running, false⟩)
  | advances {connection : Connection Command} {e : ConnectionEvent Command}
      {task : ConnectionTask.Step Command (Head ⊕ Unit)} {receiver : Receiver}
      (running : connection.fate = .running)
      (fires : Fires (runConnection config connection.ctx) connection.task e task)
      (hears : Hears shared connection.receiver e receiver) :
      Moves config shared (some connection) (some (connection.advance e task receiver))
  | returns {connection : Connection Command} (running : connection.fate = .running)
      (returned : connection.task = .ret (.inr ())) :
      Moves config shared (some connection) (some { connection with fate := .returned })
  | cut {connection : Connection Command} (running : connection.fate = .running) :
      Moves config shared (some connection) (some { connection with fate := .cut })
  | reaped {connection : Connection Command} (ripe : connection.ripe = true) :
      Moves config shared (some connection) (some { connection with joined := true })

/-- A connection keeps its place for good. -/
theorem moves_some {shared : Shared Command} {connection : Connection Command}
    {after : Option (Connection Command)} (moves : Moves config shared (some connection) after) :
    ∃ connection', after = some connection' := by
  cases moves <;> exact ⟨_, rfl⟩

theorem moves_set {shared : Shared Command} {connections : List (Connection Command)} {j : Nat}
    {connection replaced : Connection Command} (here : connections[j]? = some connection)
    (move : Moves config shared (some connection) (some replaced)) (k : Nat) :
    Moves config shared connections[k]? (connections.set j replaced)[k]? := by
  by_cases same : j = k
  · subst same
    obtain ⟨inside, _⟩ := List.getElem?_eq_some_iff.mp here
    rw [here, List.getElem?_set_self inside]
    exact move
  · rw [List.getElem?_set_ne same]
    exact .stays _

theorem moves_append (shared : Shared Command) (connections : List (Connection Command))
    (ctx : WsServerConnectionContext) (receiver : Receiver) (k : Nat) :
    Moves config shared connections[k]?
      (connections ++ [⟨ctx, receiver, .ret (.inl .accepted), [], .running, false⟩])[k]? := by
  rcases Nat.lt_trichotomy k connections.length with early | rfl | late
  · rw [List.getElem?_append_left early]
    exact .stays _
  · rw [List.getElem?_concat_length, List.getElem?_eq_none (Nat.le_refl _)]
    exact .admitted ctx receiver
  · rw [List.getElem?_eq_none (Nat.le_of_lt late), List.getElem?_eq_none (by simp; omega)]
    exact .stays _

theorem moves_serves {s s' : System Command} {e : ServerEvent} (serves : Serves s e s') (k : Nat) :
    Moves config s.shared s.connections[k]? s'.connections[k]? := by
  cases serves with
  | acceptJoined vars quiet here ripe => exact moves_set here (.reaped ripe) k
  | drainJoined vars timeout here ripe => exact moves_set here (.reaped ripe) k
  | joined vars here ripe => exact moves_set here (.reaped ripe) k
  | spawn vars ctx receiver => exact moves_append s.shared s.connections ctx receiver k
  | _ => exact .stays _

theorem moves_step {s s' : System Command} (step : Step config retry faults s s') (k : Nat) :
    Moves config s.shared s.connections[k]? s'.connections[k]? := by
  cases step with
  | server fires serves => exact moves_serves serves k
  | connection here running fires hears => exact moves_set here (.advances running fires hears) k
  | finish here running returned => exact moves_set here (.returns running returned) k
  | cut here running => exact moves_set here (.cut running) k
  | call => exact .stays _
  | requestShutdown => exact .stays _
  | caller here fires grants => cases grants <;> exact .stays _

/-- What holds of a fresh connection and survives every move holds of all. -/
theorem connections_step {holds : Connection Command → Prop} {s s' : System Command}
    (fresh : ∀ ctx receiver, holds ⟨ctx, receiver, .ret (.inl .accepted), [], .running, false⟩)
    (kept : ∀ c c', Moves config s.shared (some c) (some c') → holds c → holds c')
    (step : Step config retry faults s s') (all : ∀ c ∈ s.connections, holds c) :
    ∀ c ∈ s'.connections, holds c := by
  intro c' listed
  obtain ⟨k, there⟩ := List.getElem?_of_mem listed
  have moves := moves_step step k
  rw [there] at moves
  cases here : s.connections[k]? with
  | some c =>
    rw [here] at moves
    exact kept c c' moves (all c (List.mem_of_getElem? here))
  | none =>
    rw [here] at moves
    cases moves with
    | admitted ctx receiver => exact fresh ctx receiver

theorem step_shutdown {s s' : System Command} (step : Step config retry faults s s')
    (requested : s.shared.shutdown = true) : s'.shared.shutdown = true := by
  cases step with
  | server fires serves => cases serves <;> exact requested
  | caller here fires grants => cases grants <;> exact requested
  | requestShutdown => rfl
  | _ => exact requested

theorem grants_status {s : System Command} {seen : Nat} {status : ManagedWsServerStatus}
    (same : s.shared.status = status) : Grants s seen ⟨.statusSnapshot, status⟩ seen s := by
  subst same
  exact .statusSnapshot

/-- An access of the caller that came last. -/
theorem step_last {faults : ServerFaults} {s s' : System Command} {callers : List (Caller Command)}
    {caller : Caller Command} {e : HandleEvent Command}
    {task : HandleStep Command (HandleCall Command ⊕ HandleResult)} {seen : Nat}
    (last : s.callers = callers ++ [caller]) (fires : Fires runCall caller.task e task)
    (grants : Grants s caller.seen e seen s') :
    Step config retry faults s
      { s' with callers := callers ++ [caller.advance e task seen] } := by
  have here : s.callers[callers.length]? = some caller := by
    rw [last]
    exact List.getElem?_concat_length
  have replaced : s.callers.set callers.length (caller.advance e task seen) =
      callers ++ [caller.advance e task seen] := by
    rw [last]
    simp
  rw [← replaced]
  exact .caller here fires grants

/-- A call of the connection that came last. -/
theorem step_newest {faults : ServerFaults} {s : System Command}
    {earlier : List (Connection Command)} {c : Connection Command} {e : ConnectionEvent Command}
    {task : ConnectionTask.Step Command (Head ⊕ Unit)} {receiver : Receiver}
    (newest : s.connections = earlier ++ [c]) (running : c.fate = .running)
    (fires : Fires (runConnection config c.ctx) c.task e task)
    (hears : Hears s.shared c.receiver e receiver) :
    Step config retry faults s
      { s with connections := earlier ++ [c.advance e task receiver] } := by
  have here : s.connections[earlier.length]? = some c := by
    rw [newest]
    exact List.getElem?_concat_length
  have replaced : s.connections.set earlier.length (c.advance e task receiver) =
      earlier ++ [c.advance e task receiver] := by
    rw [newest]
    simp
  rw [← replaced]
  exact .connection here running fires hears

theorem capacity_step {s s' : System Command} (step : Step config retry faults s s') :
    s'.shared.commands.capacity = s.shared.commands.capacity := by
  cases step with
  | server fires serves => cases serves <;> rfl
  | caller here fires grants =>
    cases grants with
    | send command => exact send_capacity _ command
    | _ => rfl
  | _ => rfl

/-- The ring is never replaced. -/
theorem capacity_reachable {s : System Command} (reached : Reachable config retry faults s) :
    s.shared.commands.capacity = 2 ^ Nat.clog 2 config.retainedCommandsPerClient.toNat := by
  refine reached.invariant (fun s => s.shared.commands.capacity = _) rfl ?_
  intro s s' known step
  rw [capacity_step step, known]

end ServerSystem
