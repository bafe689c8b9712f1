import SharedWs.LoopHandle
import SharedWs.ShutdownQuiescence

/-!
# The handle of a server

`ManagedWsServerHandle` owns the server task. `shutdown_with_timeout` raises the flag and waits
for the task, and aborts it when the wait has taken too long; `Drop` raises the flag and aborts.
An abort is only a request: the future of the task is dropped later, and only where the task
awaits something. With the future go the listener and the join set, and with that all connection
tasks are aborted in turn.

The handle is run here next to the whole server. Whichever way it is consumed, nothing is served
for long after it is gone: at most one further socket is let in, the task has returned or has been
told to stop, and once it is over there are no new connections, only fewer. A server task that
panics is left out: its join error would count as joined, and the shutdown would return `Ok`.
-/
namespace ServerCustody

open InteractionPrograms InteractionMonitors InteractionMonitors.Monitor
open LoopHandle (JoinHandle JoinOutcome)
open ConnectionBudget ServerOutline ServerSystem ServerTask ServerTypes ShutdownQuiescence
open ServerLifecycle (Returned)
open WsTypes

inductive ManagedWsServerShutdownError where
  | timeout (timeout : Duration)
  deriving DecidableEq

/-- What the two functions below use of the handle. -/
structure ManagedWsServerHandle where
  task : Option JoinHandle

inductive OwnerOp where
  /-- `shutdown_tx.send_replace(true)`. -/
  | requestShutdown
  | joinWithin (timeout : Duration)
  | abort

@[reducible] def OwnerOp.Res : OwnerOp → Type
  | .joinWithin _ => JoinOutcome
  | .requestShutdown | .abort => Unit

def ownerSignature : Signature := ⟨OwnerOp, OwnerOp.Res⟩

abbrev Owning := Proc ownerSignature ManagedWsServerHandle

abbrev OwnerEvent := Event (ownerSignature.showing ManagedWsServerHandle)

def request (op : OwnerOp) : Owning op.Res := Proc.call (S := ownerSignature) op

/-- `self.task.take()`. -/
def takeTask : Owning (Option JoinHandle) := do
  let handle ← get
  set { handle with task := none }
  pure handle.task

def drop : Owning Unit := do
  request .requestShutdown
  match ← takeTask with
  | none => pure ()
  | some _ => request .abort

/-- The handle is consumed, so every way out drops it. The join handle is only lent to the
timeout, and can still be aborted when it has elapsed. -/
def shutdownWithTimeout (timeout : Duration) :
    Owning (Except ManagedWsServerShutdownError Unit) := do
  request .requestShutdown
  match ← takeTask with
  | none =>
    drop
    pure (.ok ())
  | some _ =>
    match ← request (.joinWithin timeout) with
    | .joined =>
      drop
      pure (.ok ())
    | .elapsed =>
      request .abort
      drop
      pure (.error (.timeout timeout))

/-- The ways to consume a handle. -/
inductive Way where
  | dropped
  | shutdown (timeout : Duration)

def consume : Way → Owning (Except ManagedWsServerShutdownError Unit)
  | .dropped => do
    drop
    pure (.ok ())
  | .shutdown timeout => shutdownWithTimeout timeout

/-- What the owner has done, seen from its calls alone. -/
structure Record where
  requested : Bool
  joined : Bool
  aborted : Bool

def Record.after (m : Record) : OwnerEvent → Record
  | ⟨(_, .requestShutdown), _⟩ => { m with requested := true }
  | ⟨(_, .joinWithin _), .joined⟩ => { m with joined := true }
  | ⟨(_, .joinWithin _), .elapsed⟩ => m
  | ⟨(_, .abort), _⟩ => { m with aborted := true }

def record : Monitor (ownerSignature.showing ManagedWsServerHandle) Record where
  step := Record.after
  rely := fun _ _ => True
  safe := fun _ _ => True

/-- What each way to consume the handle has done when it is over. -/
def Settled : Way → Except ManagedWsServerShutdownError Unit → Record → Prop
  | .dropped, _, m => m.requested = true ∧ m.aborted = true
  | .shutdown _, .ok (), m => m.requested = true ∧ m.joined = true ∧ m.aborted = false
  | .shutdown timeout, .error error, m =>
    error = .timeout timeout ∧ m.requested = true ∧ m.aborted = true

section Owner
variable {m : Record} {handle : ManagedWsServerHandle} {α : Type}

theorem request_then (op : OwnerOp) {f : op.Res → Owning α}
    {post : α → ManagedWsServerHandle → Record → Prop}
    (rest : ∀ answer, record.ensures post (f answer) handle (m.after ⟨(handle, op), answer⟩)) :
    record.ensures post (request op >>= f) handle m :=
  record.ensures_bind.mpr fun answer _ => ⟨trivial, rest answer⟩

theorem take_then {f : Option JoinHandle → Owning α}
    {post : α → ManagedWsServerHandle → Record → Prop}
    (rest : record.ensures post (f handle.task) ⟨none⟩ m) :
    record.ensures post (takeTask >>= f) handle m :=
  rest

/-- A handle without its join handle only repeats the request. -/
theorem drop_empty {way : Way} {result : Except ManagedWsServerShutdownError Unit}
    (settled : Settled way result { m with requested := true }) :
    record.ensures (fun result _ m => Settled way result m) (do drop; pure result) ⟨none⟩ m :=
  record.ensures_bind.mpr (request_then .requestShutdown fun _ => take_then settled)

theorem consume_settles (way : Way) :
    record.ensures (fun result _ m => Settled way result m) (consume way) ⟨some ⟨⟩⟩
      ⟨false, false, false⟩ := by
  cases way with
  | dropped =>
    refine record.ensures_bind.mpr (request_then .requestShutdown fun _ => take_then ?_)
    exact fun _ _ => ⟨trivial, rfl, rfl⟩
  | shutdown timeout =>
    refine request_then .requestShutdown fun _ => take_then ?_
    refine request_then (.joinWithin timeout) fun outcome => ?_
    cases outcome with
    | joined => exact drop_empty ⟨rfl, rfl, rfl⟩
    | elapsed => exact request_then .abort fun _ => drop_empty ⟨rfl, rfl, rfl⟩

end Owner

/-- Whether a socket has been accepted and not yet been turned into a connection. -/
def socketAfter (m : Bool) : ServerEvent → Bool
  | ⟨(_, .acceptSelect), .incoming (.ok _)⟩ => true
  | ⟨(_, .tryAcquire _), false⟩ => false
  | ⟨(_, .spawn _ _), _⟩ => false
  | _ => m

def Spawns : ServerOp → Prop
  | .spawn _ _ => True
  | _ => False

def socket : Monitor (serverSignature.showing ServerVars) Bool where
  step := socketAfter
  rely := fun _ _ => True
  safe := fun m e => Spawns e.op.2 → m = true

def socketJunctions : Junctions Bool where
  standing := fun _ _ _ => True
  binding := fun _ _ => True
  bound := fun _ _ => True
  listening := fun _ _ => True
  losing := fun _ _ _ => True
  failed := fun _ _ _ => True
  retrying := fun _ _ => True
  closing := fun _ _ => True
  leaving := fun _ _ => True
  doomed := fun _ _ _ => True
  stored := fun _ _ => True
  terminal := fun _ _ => True
  incoming := fun _ m => m = true
  acquired := fun _ m => m = true
  identified := fun _ _ m => m = true
  subscribed := fun _ _ _ m => m = true
  overdue := fun _ _ => True
  emptied := fun _ _ => True
  done := fun _ _ => True

section Socket
variable {vars : ServerVars} {m : Bool}

/-- A call that spawns nothing and leads to no particular place. -/
theorem socket_asks (op : ServerOp) (idle : ¬ Spawns op)
    {post : op.Res → ServerVars → Bool → Prop} (next : ∀ answer m, post answer vars m) :
    socket.ensures post (ask op) vars m :=
  fun answer _ => ⟨fun spawns => absurd spawns idle, next answer _⟩

theorem socket_sets (status : ManagedWsServerStatus) :
    socket.ensures (fun _ _ _ => True) (setStatus status) vars m := by
  have read : socket.ensures (fun _ _ _ => True) (ask .readTerminal) vars m :=
    socket_asks _ id fun _ _ => trivial
  refine socket.ensures_seq read fun stored vars m _ => ?_
  apply socket.ensures_ite
  · exact fun _ => trivial
  · exact fun _ => socket_asks (.publish status) id fun _ _ => trivial

theorem socket_outline (config : WsServerConfig) (retry : WsServerRetryPolicy)
    (faults : ServerFaults) : Outline socket config retry faults socketJunctions where
  poll := fun _ => socket_asks _ id fun requested _ => by cases requested <;> trivial
  bind := fun _ => socket_asks _ id fun result _ => by cases result <;> trivial
  announce := fun _ => socket_sets .listening
  locate := fun _ => socket_asks _ id fun result _ => by cases result <;> trivial
  lose := fun _ => socket_asks _ id fun _ _ => trivial
  exhaust := fun _ _ _ _ => trivial
  again := fun _ _ _ _ => socket_sets .retrying
  wait := fun _ => socket_asks _ id fun arm _ => by cases arm <;> trivial
  fault := fun _ _ => socket_asks _ id fun _ _ => trivial
  accept := by
    intro localAddr accepted vars m _ arm _
    refine ⟨False.elim, ?_⟩
    rcases arm with _ | task | error | peerAddr
    · trivial
    · trivial
    · exact Junctions.afterAccept_error trivial trivial
    · rfl
  acquire := by
    intro vars m held localAddr accepted acquired _
    refine ⟨False.elim, ?_⟩
    cases acquired with
    | true => exact held
    | false => trivial
  identify := fun held _ _ => ⟨False.elim, held⟩
  subscribe := fun held _ _ => ⟨False.elim, held⟩
  spawn := fun held _ _ _ _ _ => ⟨fun _ => held, trivial⟩
  close := fun _ => socket_asks _ id fun _ _ => trivial
  leave := fun _ => socket_sets .shuttingDown
  store := fun _ => socket_asks _ id fun _ _ => trivial
  tell := fun _ => socket_asks _ id fun _ _ => trivial
  abort := fun _ => socket_asks _ id fun _ _ => trivial
  drain := fun _ => socket_asks _ id fun arm _ => by cases arm <;> trivial
  giveUp := fun _ => socket_asks _ id fun _ _ => trivial
  join := by
    intro thenStop vars m _
    refine socket_asks _ id fun task _ => ?_
    cases task with
    | some task => trivial
    | none => cases thenStop <;> trivial
  stop := fun _ => socket_sets .stopped

end Socket

/-- The task returns without a listener, and after all connections have been joined. -/
def returnJunctions : Junctions WindDown where
  __ := windDownJunctions
  done := fun _ m => m.listener = false ∧ m.cleared = true

theorem return_outline (config : WsServerConfig) (retry : WsServerRetryPolicy)
    (faults : ServerFaults) : Outline windDown config retry faults returnJunctions where
  __ := windDown_outline config retry faults
  join := by
    intro thenStop vars m free task _
    refine ⟨free, ?_⟩
    cases task with
    | some task => exact free
    | none => cases thenStop <;> exact ⟨free, rfl⟩
  stop := by
    intro vars m emptied
    refine windDown.ensures_mono ?_ (sets .stopped emptied)
    rintro _ _ _ (rfl | rfl)
    · exact emptied
    · exact emptied

section System
variable {Command : Type} {config : WsServerConfig} {retry : WsServerRetryPolicy}
variable {faults : ServerFaults} {s s' : System Command}

def socketOf (t : List ServerEvent) : Bool := t.foldl socketAfter false

theorem socketOf_snoc (t : List ServerEvent) (e : ServerEvent) :
    socketOf (t ++ [e]) = socketAfter (socketOf t) e := List.foldl_append

/-- What the server task does from here on, for both of its outlines. -/
structure Goes (s : System Command) : Prop where
  socket : socket.wp (Owes (fun c m => socketJunctions.standing c.1 c.2 m) fun _ _ => True) s.task
    (socketOf s.trace)
  returns : windDown.wp (Owes (fun c m => Standing c.1 c.2 m)
    fun _ m => m.listener = false ∧ m.cleared = true) s.task (windDownOf s.trace)

theorem goes_fires (goes : Goes s) {e : ServerEvent} {task : ServerProg}
    (fires : Fires (Proc.turn (runServer config retry faults)) s.task e task) :
    (Spawns e.op.2 → socketOf s.trace = true) ∧
      ∀ s'' : System Command, s''.task = task → s''.trace = s.trace ++ [e] → Goes s'' := by
  obtain ⟨spawns, rest⟩ := (socket_outline config retry faults).fires fires goes.socket trivial
  obtain ⟨_, rest'⟩ := (return_outline config retry faults).fires fires goes.returns trivial
  refine ⟨spawns, ?_⟩
  rintro s'' rfl trace
  constructor
  · rw [trace, socketOf_snoc]
    exact rest
  · rw [trace, windDownOf_snoc]
    exact rest'

theorem Goes.same (goes : Goes s) (task : s'.task = s.task) (trace : s'.trace = s.trace) :
    Goes s' := by
  constructor
  · rw [task, trace]
    exact goes.socket
  · rw [task, trace]
    exact goes.returns

theorem goes_reachable (reached : Reachable config retry faults s) : Goes s := by
  refine reached.invariant Goes ⟨trivial, ⟨rfl, rfl⟩⟩ ?_
  intro s s' goes step
  cases step with
  | server fires serves => exact (goes_fires goes fires).2 _ rfl rfl
  | caller here fires grants => cases grants <;> exact goes.same rfl rfl
  | _ => exact goes.same rfl rfl

/-- Everything is gone when the task returns, after a failure as after a shutdown. -/
theorem cleared_of_returned (reached : Reachable config retry faults s)
    (returned : Returned s.task) :
    ¬ HoldsListener s ∧ (∀ c ∈ s.connections, c.fate ≠ .running) ∧ s.shared.active = 0 := by
  obtain ⟨vars, returned⟩ := returned
  have owed := (goes_reachable reached).returns
  rw [returned] at owed
  obtain ⟨free, cleared⟩ : (windDownOf s.trace).listener = false ∧
      (windDownOf s.trace).cleared = true := owed
  refine ⟨?_, active_zero reached cleared⟩
  intro holds
  exact absurd (holds.symm.trans free) nofun

/-- Under the flag no socket is accepted, and only the one in hand becomes a connection. -/
theorem admissions_step (reached : Reachable config retry faults s)
    (requested : s.shared.shutdown = true) (step : Step config retry faults s s') :
    s'.connections.length + (socketOf s'.trace).toNat ≤
      s.connections.length + (socketOf s.trace).toNat := by
  cases step with
  | @server s'' e task fires serves =>
    have spawns := (goes_fires (goes_reachable reached) fires).1
    change s''.connections.length + (socketOf (s.trace ++ [e])).toNat ≤ _
    rw [socketOf_snoc]
    cases serves with
    | acceptIncoming vars quiet result =>
      exact absurd (requested.symm.trans quiet) nofun
    | spawn vars ctx receiver =>
      rw [spawns trivial, List.length_append]
      exact Nat.le_refl _
    | full vars full => exact Nat.le_add_right _ _
    | acceptJoined vars quiet here ripe => exact (congrArg (· + _) List.length_set).le
    | drainJoined vars timeout here ripe => exact (congrArg (· + _) List.length_set).le
    | joined vars here ripe => exact (congrArg (· + _) List.length_set).le
    | _ => exact Nat.le_refl _
  | caller here fires grants => cases grants <;> exact Nat.le_refl _
  | call => exact Nat.le_refl _
  | requestShutdown => exact Nat.le_refl _
  | connection => exact (congrArg (· + _) List.length_set).le
  | finish => exact (congrArg (· + _) List.length_set).le
  | cut => exact (congrArg (· + _) List.length_set).le

/-- A step of anyone but the server task lets nobody in. -/
theorem outside_step (budget : Budget config s) (step : Step config retry faults s s')
    (still : s'.trace = s.trace) :
    s'.task = s.task ∧ s'.connections.length = s.connections.length ∧
      s'.shared.active ≤ s.shared.active := by
  have released : ∀ {k : Nat} {connection : Connection Command} {fate : Fate},
      s.connections[k]? = some connection → connection.fate = .running → fate ≠ .running →
        (s.release k connection fate).shared.active ≤ s.shared.active := by
    intro k connection fate here live ended
    have lowered := (active_released budget.counts here live ended).1
    apply UInt64.le_iff_toNat_le.mpr
    omega
  cases step with
  | server fires serves => simp at still
  | connection => exact ⟨rfl, List.length_set, UInt64.le_refl _⟩
  | finish here live returned => exact ⟨rfl, List.length_set, released here live nofun⟩
  | cut here live => exact ⟨rfl, List.length_set, released here live nofun⟩
  | call => exact ⟨rfl, rfl, UInt64.le_refl _⟩
  | requestShutdown => exact ⟨rfl, rfl, UInt64.le_refl _⟩
  | caller here fires grants => cases grants <;> exact ⟨rfl, rfl, UInt64.le_refl _⟩

/-- A task that has returned makes no step. -/
theorem still_of_returned (returned : Returned s.task) (step : Step config retry faults s s') :
    s'.trace = s.trace ∧ s'.task = s.task := by
  obtain ⟨vars, returned⟩ := returned
  cases step with
  | server fires serves =>
    rw [returned] at fires
    exact absurd fires not_fires_result
  | caller here fires grants => cases grants <;> exact ⟨rfl, rfl⟩
  | _ => exact ⟨rfl, rfl⟩

end System

/-- Where the server task awaits. -/
def Awaits : ServerOp → Prop
  | .acceptSelect | .backoffSelect _ | .drainNext _ | .joinNext => True
  | _ => False

/-- The server, whether its task was told to stop and whether its future has been dropped, and
what the owner of the handle has left to do. -/
structure Custody (Command : Type) where
  server : System Command
  aborting : Bool
  fallen : Bool
  owner : Prog (ownerSignature.showing ManagedWsServerHandle)
    (Except ManagedWsServerShutdownError Unit × ManagedWsServerHandle)
  calls : List OwnerEvent

namespace Custody
variable {Command : Type}

/-- A server that has just been spawned, with a handle that is consumed this way. -/
def spawned (server : System Command) (way : Way) : Custody Command :=
  ⟨server, false, false, consume way ⟨some ⟨⟩⟩, []⟩

/-- The task makes no further step. -/
def Over (c : Custody Command) : Prop := Returned c.server.task ∨ c.fallen = true

/-- The handle has been consumed. -/
def Gone (c : Custody Command) : Prop := ∃ result, c.owner = .ret result

/-- What tokio answers. A join comes back when the task is over, and the timeout may elapse at
any time. -/
def Grants (c : Custody Command) : (op : OwnerOp) → op.Res → Prop
  | .joinWithin _, .joined => c.Over
  | .joinWithin _, .elapsed => True
  | .requestShutdown, () | .abort, () => True

def after (c : Custody Command) : OwnerOp → Custody Command
  | .requestShutdown =>
    { c with server := c.server.updateShared fun shared => { shared with shutdown := true } }
  | .abort => { c with aborting := true }
  | .joinWithin _ => c

/-- The task has not been polled yet, or waits. -/
def Idle (config : WsServerConfig) (retry : WsServerRetryPolicy) (faults : ServerFaults)
    (s : System Command) : Prop :=
  s.trace = [] ∨ ∃ e task, Fires (Proc.turn (runServer config retry faults)) s.task e task ∧
    Awaits e.op.2

end Custody

section Custody
variable {Command : Type} (config : WsServerConfig) (retry : WsServerRetryPolicy)
variable (faults : ServerFaults)

inductive Move : Custody Command → Custody Command → Prop
  /-- The flag is the owner's to raise, and a task without its future makes no step. -/
  | server {c : Custody Command} {s : System Command} (step : Step config retry faults c.server s)
      (held : s.shared.shutdown = c.server.shared.shutdown)
      (still : c.fallen = true → s.trace = c.server.trace) : Move c { c with server := s }
  | falls {c : Custody Command} (told : c.aborting = true)
      (idle : Custody.Idle config retry faults c.server) : Move c { c with fallen := true }
  | owner {c : Custody Command} {handle : ManagedWsServerHandle} {op : OwnerOp} {answer : op.Res}
      {next : op.Res → Prog (ownerSignature.showing ManagedWsServerHandle)
        (Except ManagedWsServerShutdownError Unit × ManagedWsServerHandle)}
      (calls : c.owner = .call (handle, op) next) (granted : c.Grants op answer) :
      Move c { c.after op with
        owner := next answer, calls := c.calls ++ [⟨(handle, op), answer⟩] }

/-- The states that a spawned server and the owner of its handle can get to. -/
def Reached (way : Way) (c : Custody Command) : Prop :=
  ∃ first, spawnWithFaults config retry true = .ok first ∧
    Relation.ReflTransGen (Move config retry faults) (.spawned first way) c

def recordOf (calls : List OwnerEvent) : Record := record.run ⟨false, false, false⟩ calls

/-- The record `m` is right about the server, and the rest of the owner's code settles it. -/
structure Kept (way : Way) (c : Custody Command) (m : Record) : Prop where
  reached : Reachable config retry faults c.server
  requested : m.requested = true → c.server.shared.shutdown = true
  aborted : c.aborting = m.aborted
  joined : m.joined = true → c.Over
  fell : c.fallen = true → c.aborting = true ∧ (handOf c.server.trace).slot = false
  settles : record.wp (fun result m => Settled way result.1 m) c.owner m

variable {config retry faults} {way : Way} {c c' : Custody Command} {m : Record}

theorem recordOf_snoc (calls : List OwnerEvent) (e : OwnerEvent) :
    recordOf (calls ++ [e]) = (recordOf calls).after e := by
  rw [recordOf, run_append]
  rfl

/-- A task that is over stays over. -/
theorem Custody.Over.server {s : System Command} (done : c.Over)
    (step : Step config retry faults c.server s) :
    Custody.Over { c with server := s } := by
  rcases done with returned | fallen
  · left
    change Returned s.task
    rw [(still_of_returned returned step).2]
    exact returned
  · exact Or.inr fallen

/-- Nothing is in hand where the task awaits. -/
theorem slot_of_idle {s : System Command} (budget : Budget config s)
    (idle : Custody.Idle config retry faults s) : (handOf s.trace).slot = false := by
  rcases idle with unpolled | ⟨⟨⟨vars, op⟩, answer⟩, task, fires, awaits⟩
  · rw [unpolled]
    rfl
  · have permitted := (permitted_fires budget fires).1
    cases op with
    | acceptSelect =>
      rcases permitted with idle | rejected
      · rw [idle]
        rfl
      · rw [rejected]
    | backoffSelect backoff =>
      have idle : handOf s.trace = .idle := permitted
      rw [idle]
      rfl
    | drainNext timeout =>
      have idle : handOf s.trace = .idle := permitted
      rw [idle]
      rfl
    | joinNext =>
      have idle : handOf s.trace = .idle := permitted
      rw [idle]
      rfl
    | _ => exact awaits.elim

theorem kept_move (kept : Kept config retry faults way c (recordOf c.calls))
    (move : Move config retry faults c c') :
    Kept config retry faults way c' (recordOf c'.calls) := by
  obtain ⟨reached, requested, aborted, joined, fell, settles⟩ := kept
  cases move with
  | @server s step held still =>
    refine ⟨reached.tail (.single step), ?_, aborted, fun done => (joined done).server step, ?_,
      settles⟩
    · intro asked
      exact held.trans (requested asked)
    · intro fallen
      obtain ⟨told, empty⟩ := fell fallen
      refine ⟨told, ?_⟩
      change (handOf s.trace).slot = false
      rw [still fallen]
      exact empty
  | falls told idle =>
    refine ⟨reached, requested, aborted, fun _ => Or.inr rfl, fun _ => ⟨told, ?_⟩, settles⟩
    exact slot_of_idle (budget_reachable reached) idle
  | @owner handle op answer next calls granted =>
    rw [calls] at settles
    have rest := (settles answer trivial).2
    change Kept config retry faults way _ (recordOf (c.calls ++ [_]))
    rw [recordOf_snoc]
    match op, answer with
    | .requestShutdown, () =>
      have raised := reached.tail (.single (.requestShutdown _))
      exact ⟨raised, fun _ => rfl, aborted, joined, fell, rest⟩
    | .joinWithin timeout, .joined =>
      exact ⟨reached, requested, aborted, fun _ => granted, fell, rest⟩
    | .joinWithin timeout, .elapsed => exact ⟨reached, requested, aborted, joined, fell, rest⟩
    | .abort, () =>
      exact ⟨reached, requested, rfl, joined, fun fallen => ⟨rfl, (fell fallen).2⟩, rest⟩

theorem kept_reached (reached : Reached config retry faults way c) :
    Kept config retry faults way c (recordOf c.calls) := by
  obtain ⟨first, spawned, run⟩ := reached
  induction run with
  | refl =>
    exact ⟨⟨first, spawned, .refl⟩, nofun, rfl, nofun, nofun, consume_settles way⟩
  | tail _ last ih => exact kept_move ih last

theorem Reached.tail (reached : Reached config retry faults way c)
    (run : Relation.ReflTransGen (Move config retry faults) c c') :
    Reached config retry faults way c' := by
  obtain ⟨first, spawned, before⟩ := reached
  exact ⟨first, spawned, before.trans run⟩

/-- Under the flag, as in the server alone. -/
theorem admissions_move (kept : Kept config retry faults way c m)
    (requested : c.server.shared.shutdown = true) (move : Move config retry faults c c') :
    c'.server.shared.shutdown = true ∧
      c'.server.connections.length + (socketOf c'.server.trace).toNat ≤
        c.server.connections.length + (socketOf c.server.trace).toNat := by
  cases move with
  | server step held still =>
    exact ⟨held.trans requested, admissions_step kept.reached requested step⟩
  | falls told idle => exact ⟨requested, Nat.le_refl _⟩
  | @owner handle op answer next calls granted =>
    cases op with
    | requestShutdown => exact ⟨rfl, Nat.le_refl _⟩
    | joinWithin timeout => exact ⟨requested, Nat.le_refl _⟩
    | abort => exact ⟨requested, Nat.le_refl _⟩

theorem admissions_run (reached : Reached config retry faults way c)
    (requested : c.server.shared.shutdown = true)
    (run : Relation.ReflTransGen (Move config retry faults) c c') :
    c'.server.connections.length ≤ c.server.connections.length + 1 := by
  have bound : c'.server.shared.shutdown = true ∧
      c'.server.connections.length + (socketOf c'.server.trace).toNat ≤
        c.server.connections.length + (socketOf c.server.trace).toNat := by
    induction run with
    | refl => exact ⟨requested, Nat.le_refl _⟩
    | tail before last ih =>
      obtain ⟨raised, less⟩ := admissions_move (kept_reached (reached.tail before)) ih.1 last
      exact ⟨raised, less.trans ih.2⟩
  have single := Bool.toNat_le (socketOf c.server.trace)
  omega

theorem sealed_move (kept : Kept config retry faults way c m) (done : c.Over)
    (move : Move config retry faults c c') :
    c'.Over ∧ c'.server.connections.length = c.server.connections.length ∧
      c'.server.shared.active ≤ c.server.shared.active := by
  cases move with
  | @server s step held still =>
    have quiet : s.trace = c.server.trace := by
      rcases done with returned | fallen
      · exact (still_of_returned returned step).1
      · exact still fallen
    exact ⟨done.server step, (outside_step (budget_reachable kept.reached) step quiet).2⟩
  | falls told idle => exact ⟨Or.inr rfl, rfl, UInt64.le_refl _⟩
  | @owner handle op answer next calls granted =>
    cases op with
    | requestShutdown => exact ⟨done, rfl, UInt64.le_refl _⟩
    | joinWithin timeout => exact ⟨done, rfl, UInt64.le_refl _⟩
    | abort => exact ⟨done, rfl, UInt64.le_refl _⟩

theorem sealed_run (reached : Reached config retry faults way c) (done : c.Over)
    (run : Relation.ReflTransGen (Move config retry faults) c c') :
    c'.Over ∧ c'.server.connections.length = c.server.connections.length ∧
      c'.server.shared.active ≤ c.server.shared.active := by
  induction run with
  | refl => exact ⟨done, rfl, UInt64.le_refl _⟩
  | tail before last ih =>
    obtain ⟨over', length, fewer⟩ := ih
    obtain ⟨next, length', fewer'⟩ := sealed_move (kept_reached (reached.tail before)) over' last
    exact ⟨next, length'.trans length, UInt64.le_trans fewer' fewer⟩

/-- The slots of a task that is over are those of the connections that still run. -/
theorem active_of_over (kept : Kept config retry faults way c m) (done : c.Over) :
    c.server.shared.active.toNat = running c.server.connections := by
  rcases done with returned | fallen
  · obtain ⟨_, ended, none_active⟩ := cleared_of_returned kept.reached returned
    have idle : running c.server.connections = 0 := by
      apply List.countP_eq_zero.mpr
      intro connection listed live
      exact ended connection listed (beq_iff_eq.mp live)
    rw [none_active, idle]
    rfl
  · have slots := (budget_reachable kept.reached).counts.active
    rw [liveSlots, (kept.fell fallen).2] at slots
    exact slots

/-- How a server and its handle end together. -/
structure CustodyKept (config : WsServerConfig) (retry : WsServerRetryPolicy)
    (faults : ServerFaults) (way : Way) (c : Custody Command) : Prop where
  gone : c.Gone → c.server.shared.shutdown = true ∧
    (Returned c.server.task ∨ c.aborting = true)
  -- `Ok` of `shutdown_with_timeout` means that the task has returned by itself
  joined : ∀ timeout handle, way = .shutdown timeout → c.owner = .ret (.ok (), handle) →
    Returned c.server.task
  timedOut : ∀ timeout error handle, way = .shutdown timeout →
    c.owner = .ret (.error error, handle) → error = .timeout timeout ∧ c.aborting = true
  cleared : Returned c.server.task →
    (c.server.shared.status = .stopped ∨ c.server.shared.status = .terminal) ∧
      ¬ HoldsListener c.server ∧ (∀ connection ∈ c.server.connections, connection.fate ≠ .running) ∧
      c.server.shared.active = 0
  late : c.server.shared.shutdown = true →
    ∀ c', Relation.ReflTransGen (Move config retry faults) c c' →
      c'.server.connections.length ≤ c.server.connections.length + 1
  ended : c.Over → c.server.shared.active.toNat = running c.server.connections ∧
    ∀ c', Relation.ReflTransGen (Move config retry faults) c c' →
      c'.server.connections.length = c.server.connections.length ∧
        c'.server.shared.active ≤ c.server.shared.active

theorem server_within_custody (reached : Reached config retry faults way c) :
    CustodyKept config retry faults way c := by
  have kept := kept_reached reached
  have settled : ∀ result handle, c.owner = .ret (result, handle) →
      Settled way result (recordOf c.calls) := by
    intro result handle returned
    have settles := kept.settles
    rw [returned] at settles
    exact settles
  -- the task cannot have been dropped if nobody has aborted it
  have by_itself : ∀ timeout handle, way = .shutdown timeout → c.owner = .ret (.ok (), handle) →
      Returned c.server.task := by
    rintro timeout handle rfl returned
    obtain ⟨_, joined, unaborted⟩ := settled _ _ returned
    rcases kept.joined joined with done | fallen
    · exact done
    · have told := kept.aborted.symm.trans (kept.fell fallen).1
      exact absurd (unaborted.symm.trans told) nofun
  have timed_out : ∀ timeout error handle, way = .shutdown timeout →
      c.owner = .ret (.error error, handle) → error = .timeout timeout ∧ c.aborting = true := by
    rintro timeout error handle rfl returned
    obtain ⟨same, _, aborted⟩ := settled _ _ returned
    exact ⟨same, kept.aborted.trans aborted⟩
  refine ⟨?_, by_itself, timed_out, ?_, ?_, ?_⟩
  · rintro ⟨⟨result, handle⟩, returned⟩
    have done := settled result handle returned
    cases way with
    | dropped => exact ⟨kept.requested done.1, Or.inr (kept.aborted.trans done.2)⟩
    | shutdown timeout =>
      cases result with
      | ok =>
        exact ⟨kept.requested done.1, Or.inl (by_itself timeout handle rfl returned)⟩
      | error error =>
        exact ⟨kept.requested done.2.1, Or.inr (timed_out timeout error handle rfl returned).2⟩
  · intro returned
    refine ⟨?_, cleared_of_returned kept.reached returned⟩
    rcases ServerLifecycle.ended_of_returned (ServerLifecycle.lives_reachable kept.reached)
      returned with ⟨stopped, _⟩ | ⟨terminal, _⟩
    · exact Or.inl stopped
    · exact Or.inr terminal
  · exact fun requested c' run => admissions_run reached requested run
  · intro done
    refine ⟨active_of_over kept done, fun c' run => ?_⟩
    exact (sealed_run reached done run).2

/-- The server runs on while its owner does nothing. -/
theorem lift_steps {s s' : System Command} (way : Way)
    (run : Relation.ReflTransGen (Step config retry faults) s s')
    (quiet : s'.shared.shutdown = false) :
    Relation.ReflTransGen (Move config retry faults) (.spawned s way) (.spawned s' way) := by
  induction run with
  | refl => exact .refl
  | @tail middle last before step ih =>
    have earlier : middle.shared.shutdown = false := by
      cases raised : middle.shared.shutdown with
      | false => rfl
      | true => exact absurd (quiet.symm.trans (step_shutdown step raised)) nofun
    have move : Move config retry faults (.spawned middle way) (.spawned last way) :=
      .server step (quiet.trans earlier.symm) nofun
    exact (ih earlier).tail move

end Custody

/-- The handle is dropped while a client is connected: the accept loop falls, then the client's
task, and no slot is left. -/
theorem dropped_with_client :
    ∃ c : Custody Nat, Reached solo .default ⟨none⟩ .dropped c ∧ c.Gone ∧ c.Over ∧
      c.server.connections.length = 1 ∧ c.server.shared.active = 0 ∧
      CustodyKept solo .default ⟨none⟩ .dropped c := by
  have run : ∃ c : Custody Nat, Relation.ReflTransGen (Move solo .default ⟨none⟩)
      (.spawned (start solo .default) .dropped) c ∧ c.Gone ∧ c.Over ∧
      c.server.connections.length = 1 ∧ c.server.shared.active = 0 := by
    have room : 0 < solo.maxConnections := by decide
    obtain ⟨trace, opened⟩ := oneClient_reached .default (.v4 1 5000) room
    let flagged := (oneClient solo .default (.v4 1 5000) trace).updateShared
      fun shared => { shared with shutdown := true }
    have waits : Custody.Idle solo .default ⟨none⟩ flagged :=
      Or.inr ⟨⟨(⟨_, 0, .accept⟩, .acceptSelect), AcceptArm.shutdown⟩, _, .head (.call _ _ _),
        trivial⟩
    have cut : Step solo .default ⟨none⟩ flagged (flagged.release 0
        ⟨⟨0, .v4 1 5000, .v4 0 80⟩, ⟨0, 0⟩, .ret (.inl .accepted), [], .running, false⟩ .cut) :=
      .cut rfl rfl
    refine ⟨_, (lift_steps .dropped opened rfl).trans <|
      .head (@Move.owner _ _ _ _ _ _ .requestShutdown () _ rfl trivial) <|
      .head (@Move.owner _ _ _ _ _ _ .abort () _ rfl trivial) <|
      .head (.falls rfl waits) <|
      .head (.server cut rfl fun _ => rfl) .refl,
      ⟨_, rfl⟩, Or.inr rfl, rfl, (by decide : (1 : UInt64) - 1 = 0)⟩
  obtain ⟨c, run, gone, done, one, none_active⟩ := run
  have reached : Reached solo .default ⟨none⟩ .dropped c := ⟨_, rfl, run⟩
  exact ⟨c, reached, gone, done, one, none_active, server_within_custody reached⟩

end ServerCustody
