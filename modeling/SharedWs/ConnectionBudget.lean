import SharedWs.InteractionMonitors
import SharedWs.ServerOutline
import SharedWs.ServerSystem

/-!
# The connection budget

A slot is claimed by the accept loop, moved into the connection it is for, and
released when the task of that connection is dropped, however it ended. Between
the claim and the spawn the slot is in the hands of the server task; that is
read off its own calls.
-/
namespace ConnectionBudget

open BroadcastRing InteractionPrograms InteractionMonitors InteractionMonitors.Monitor
open ServerOutline ServerSystem ServerTask ServerTypes

/-- What `admit_connection` has in hand. `rejected` holds right after a socket
was turned away. -/
structure Admission where
  slot : Bool
  connectionId : Option UInt64
  receiver : Option Receiver
  rejected : Bool
  deriving DecidableEq

def Admission.idle : Admission := ⟨false, none, none, false⟩

def Admission.after (m : Admission) : ServerEvent → Admission
  | ⟨(_, .tryAcquire _), true⟩ => { m with slot := true, rejected := false }
  | ⟨(_, .tryAcquire _), false⟩ => { m with rejected := true }
  | ⟨(_, .nextConnectionId), id⟩ => { m with connectionId := some id, rejected := false }
  | ⟨(_, .subscribe), receiver⟩ => { m with receiver := some receiver, rejected := false }
  | ⟨(_, .spawn _ _), _⟩ => .idle
  | _ => { m with rejected := false }

/-- A call of the admission itself. -/
def Admits : ServerOp → Prop
  | .tryAcquire _ | .nextConnectionId | .subscribe | .spawn _ _ => True
  | _ => False

/-- The steps of an admission come in order, and after a rejection the accept
loop goes on at once. -/
def Permitted (config : WsServerConfig) (m : Admission) : ServerOp → Prop
  | .tryAcquire max => max = config.maxConnections ∧ m = .idle
  | .nextConnectionId => m = ⟨true, none, none, false⟩
  | .subscribe => ∃ id, m = ⟨true, some id, none, false⟩
  | .spawn ctx receiver => m = ⟨true, some ctx.connectionId, some receiver, false⟩
  | .acceptSelect | .dropListener => m = .idle ∨ m = ⟨false, none, none, true⟩
  | _ => m = .idle

def admission (config : WsServerConfig) :
    Monitor (serverSignature.showing ServerVars) Admission where
  step := Admission.after
  rely := fun _ _ => True
  safe := fun m e => Permitted config m e.op.2

/-- Between two turns nothing is in hand. -/
def Standing : ServerHead → ServerVars → Admission → Prop
  | .accepting _ _, _, m => m = .idle ∨ m = ⟨false, none, none, true⟩
  | _, _, m => m = .idle

section Turns
variable {config : WsServerConfig} {vars : ServerVars} {m : Admission}

theorem idle_outside {op : ServerOp} {vars : ServerVars} {answer : op.Res}
    (outside : ¬ Admits op) : Permitted config .idle op ∧
      Admission.after .idle ⟨(vars, op), answer⟩ = .idle := by
  cases op with
  | tryAcquire max => exact absurd trivial outside
  | nextConnectionId => exact absurd trivial outside
  | subscribe => exact absurd trivial outside
  | spawn ctx receiver => exact absurd trivial outside
  | acceptSelect => exact ⟨Or.inl rfl, rfl⟩
  | dropListener => exact ⟨Or.inl rfl, rfl⟩
  | _ => exact ⟨rfl, rfl⟩

/-- Whatever is not part of an admission leaves the server with nothing in hand. -/
theorem idle_asks (op : ServerOp) (outside : ¬ Admits op) (idle : m = .idle)
    {post : op.Res → ServerVars → Admission → Prop} (next : ∀ answer, post answer vars .idle) :
    (admission config).ensures post (ask op) vars m := by
  subst idle
  intro answer _
  obtain ⟨permitted, same⟩ := @idle_outside config op vars answer outside
  refine ⟨permitted, ?_⟩
  change post answer vars (Admission.after .idle ⟨(vars, op), answer⟩)
  rw [same]
  exact next answer

theorem idle_sets (status : ManagedWsServerStatus) (idle : m = .idle) :
    (admission config).ensures (fun _ _ m => m = .idle) (setStatus status) vars m := by
  have read : (admission config).ensures (fun _ _ m => m = .idle) (ask .readTerminal) vars m :=
    idle_asks .readTerminal id idle fun _ => rfl
  refine (admission config).ensures_seq read fun stored vars m idle => ?_
  apply (admission config).ensures_ite
  · exact fun _ => idle
  · exact fun _ => idle_asks (.publish status) id idle fun _ => rfl

/-- Only an admission has anything in hand. -/
def admissionJunctions : Junctions Admission where
  standing := Standing
  binding := fun _ m => m = .idle
  bound := fun _ m => m = .idle
  listening := fun _ m => m = .idle
  losing := fun _ _ m => m = .idle
  failed := fun _ _ m => m = .idle
  retrying := fun _ m => m = .idle
  closing := fun _ m => m = .idle
  leaving := fun _ m => m = .idle
  doomed := fun _ _ m => m = .idle
  stored := fun _ m => m = .idle
  terminal := fun _ m => m = .idle
  incoming := fun _ m => m = .idle
  acquired := fun _ m => m = ⟨true, none, none, false⟩
  identified := fun id _ m => m = ⟨true, some id, none, false⟩
  subscribed := fun id receiver _ m => m = ⟨true, some id, some receiver, false⟩
  overdue := fun _ m => m = .idle
  emptied := fun _ m => m = .idle
  done := fun _ m => m = .idle

theorem accept_selects {localAddr : SocketAddr} {accepted : UInt64}
    (standing : Standing (.accepting localAddr accepted) vars m) :
    (admission config).ensures (admissionJunctions.afterAccept localAddr accepted)
      (ask .acceptSelect : ServerProc AcceptArm) vars m := by
  intro arm _
  refine ⟨standing, ?_⟩
  have idle : m.after ⟨(vars, .acceptSelect), arm⟩ = .idle := by
    rcases standing with rfl | rfl <;> rfl
  change admissionJunctions.afterAccept localAddr accepted arm vars
    (m.after ⟨(vars, .acceptSelect), arm⟩)
  rw [idle]
  rcases arm with _ | task | error | peerAddr
  · rfl
  · exact Or.inl rfl
  · exact Junctions.afterAccept_error (Or.inl rfl) rfl
  · rfl

theorem admission_outline (config : WsServerConfig) (retry : WsServerRetryPolicy)
    (faults : ServerFaults) :
    Outline (admission config) config retry faults admissionJunctions where
  poll := fun idle => idle_asks _ id idle fun (requested : Bool) => by cases requested <;> rfl
  bind := fun idle => idle_asks _ id idle fun (result : Except String Unit) => by
    cases result <;> rfl
  announce := idle_sets _
  locate := fun idle => idle_asks _ id idle fun (result : Except String SocketAddr) => by
    cases result with
    | ok localAddr => exact Or.inl rfl
    | error error => rfl
  lose := fun idle => idle_asks _ id idle fun _ => rfl
  exhaust := fun idle _ _ _ => idle
  again := fun idle _ _ _ => idle_sets _ idle
  wait := fun idle => idle_asks _ id idle fun (arm : BackoffArm) => by cases arm <;> rfl
  fault := by
    intro localAddr accepted vars m standing _ _ _
    exact ⟨standing, by rcases standing with rfl | rfl <;> rfl⟩
  accept := accept_selects
  acquire := by
    rintro vars _ rfl localAddr accepted acquired _
    refine ⟨⟨rfl, rfl⟩, ?_⟩
    cases acquired with
    | true => rfl
    | false => exact Or.inr rfl
  identify := by
    rintro vars _ rfl id _
    exact ⟨rfl, rfl⟩
  subscribe := by
    rintro id vars _ rfl receiver _
    exact ⟨⟨id, rfl⟩, rfl⟩
  spawn := by
    rintro id receiver vars _ rfl localAddr peerAddr accepted _ _
    exact ⟨rfl, Or.inl rfl⟩
  close := fun idle => idle_asks _ id idle fun _ => rfl
  leave := idle_sets _
  store := fun idle => idle_asks _ id idle fun _ => rfl
  tell := fun idle => idle_asks _ id idle fun _ => rfl
  abort := fun idle => idle_asks _ id idle fun _ => rfl
  drain := fun idle => idle_asks _ id idle fun (arm : DrainArm) => by cases arm <;> rfl
  giveUp := fun idle => idle_asks _ id idle fun _ => rfl
  join := by
    intro thenStop vars m idle
    refine idle_asks _ id idle fun (task : Option Nat) => ?_
    cases task <;> cases thenStop <;> rfl
  stop := idle_sets _

end Turns

section Counters
variable {Command : Type} {config : WsServerConfig} {retry : WsServerRetryPolicy}
variable {faults : ServerFaults} {s s' : System Command} {m : Admission}

def isRunning (connection : Connection Command) : Bool := connection.fate == .running

/-- The connections whose task has not been dropped. -/
def running (connections : List (Connection Command)) : Nat := connections.countP isRunning

/-- The slots that exist: one in each live connection, and the one in hand. -/
def liveSlots (m : Admission) (s : System Command) : Nat := running s.connections + m.slot.toNat

/-- What holds of every connection by place keeps holding when one is replaced. -/
theorem forall_set {holds : Nat → Connection Command → Prop}
    {connections : List (Connection Command)} (all : ∀ i c, connections[i]? = some c → holds i c)
    {k : Nat} {replaced : Connection Command} (new : holds k replaced) :
    ∀ i c, (connections.set k replaced)[i]? = some c → holds i c := by
  intro i c here
  rw [List.getElem?_set] at here
  split at here
  · rename_i same
    subst same
    split at here
    · cases here
      exact new
    · cases here
  · exact all i c here

theorem running_set {connections : List (Connection Command)} {k : Nat}
    {connection : Connection Command} (here : connections[k]? = some connection)
    (replaced : Connection Command) :
    running (connections.set k replaced) + (isRunning connection).toNat =
      running connections + (isRunning replaced).toNat := by
  obtain ⟨inside, same⟩ := List.getElem?_eq_some_iff.mp here
  have counted : (isRunning connection).toNat ≤ connections.countP isRunning := by
    cases live : isRunning connection with
    | false => exact Nat.zero_le _
    | true => exact List.countP_pos_iff.mpr ⟨connection, List.mem_of_getElem? here, live⟩
  unfold running
  rw [List.countP_set inside, same]
  generalize connections.countP isRunning = n at counted ⊢
  cases live : isRunning connection <;> cases isRunning replaced <;> simp_all

theorem running_replace {connections : List (Connection Command)} {k : Nat}
    {connection replaced : Connection Command} (here : connections[k]? = some connection)
    (fate : replaced.fate = connection.fate) :
    running (connections.set k replaced) = running connections := by
  have moved := running_set here replaced
  rw [isRunning, isRunning, fate] at moved
  exact Nat.add_right_cancel moved

/-- The counters agree with the connections and with what is in hand. -/
structure Counts (config : WsServerConfig) (m : Admission) (s : System Command) : Prop where
  active : s.shared.active.toNat = liveSlots m s
  bounded : s.shared.active ≤ config.maxConnections
  next : s.shared.nextConnectionId =
    UInt64.ofNat (s.connections.length + m.connectionId.isSome.toNat)
  taken : ∀ id, m.connectionId = some id → id = UInt64.ofNat s.connections.length
  ids : ∀ i c, s.connections[i]? = some c → c.ctx.connectionId = UInt64.ofNat i

/-- A call outside the admission that leaves the connections where they are. -/
theorem Counts.same {m' : Admission} (counts : Counts config m s)
    (slot : m'.slot = m.slot) (id : m'.connectionId = m.connectionId)
    (shared : s'.shared.active = s.shared.active ∧
      s'.shared.nextConnectionId = s.shared.nextConnectionId)
    (connections : s'.connections = s.connections) : Counts config m' s' := by
  obtain ⟨active, bounded, next, taken, ids⟩ := counts
  constructor
  · rw [shared.1, active, liveSlots, liveSlots, slot, connections]
  · rw [shared.1]
    exact bounded
  · rw [shared.2, next, id, connections]
  · rw [id, connections]
    exact taken
  · rw [connections]
    exact ids

/-- A connection that stays as live as it was. -/
theorem Counts.replace {k : Nat} {connection replaced : Connection Command} {m' : Admission}
    (counts : Counts config m s) (slot : m'.slot = m.slot)
    (id : m'.connectionId = m.connectionId) (here : s.connections[k]? = some connection)
    (ctx : replaced.ctx = connection.ctx) (fate : replaced.fate = connection.fate) :
    Counts config m' { s with connections := s.connections.set k replaced } := by
  obtain ⟨active, bounded, next, taken, ids⟩ := counts
  have same := running_replace here fate
  constructor
  · change s.shared.active.toNat = running (s.connections.set k replaced) + m'.slot.toNat
    rw [same, slot]
    exact active
  · exact bounded
  · change s.shared.nextConnectionId = UInt64.ofNat ((s.connections.set k replaced).length + _)
    rw [List.length_set, id]
    exact next
  · change ∀ id, _ → id = UInt64.ofNat (s.connections.set k replaced).length
    rw [List.length_set, id]
    exact taken
  · apply forall_set ids
    rw [ctx]
    exact ids k connection here

theorem Counts.acquired (counts : Counts config .idle s)
    (room : s.shared.active < config.maxConnections) :
    Counts config ⟨true, none, none, false⟩
      (s.updateShared fun shared => { shared with active := shared.active + 1 }) := by
  obtain ⟨active, bounded, next, taken, ids⟩ := counts
  have below : s.shared.active.toNat < config.maxConnections.toNat := room
  have small : config.maxConnections.toNat < 2 ^ 64 := config.maxConnections.toNat_lt
  have grown : (s.shared.active + 1).toNat = s.shared.active.toNat + 1 := by
    rw [UInt64.toNat_add]
    simp
    omega
  have slots : s.shared.active.toNat = running s.connections := active
  constructor
  · change (s.shared.active + 1).toNat = running s.connections + 1
    rw [grown, slots]
  · change (s.shared.active + 1).toNat ≤ config.maxConnections.toNat
    omega
  · exact next
  · exact taken
  · exact ids

theorem Counts.identified (counts : Counts config ⟨true, none, none, false⟩ s) :
    Counts config ⟨true, some s.shared.nextConnectionId, none, false⟩
      (s.updateShared fun shared =>
        { shared with nextConnectionId := shared.nextConnectionId + 1 }) := by
  obtain ⟨active, bounded, next, taken, ids⟩ := counts
  have id : s.shared.nextConnectionId = UInt64.ofNat s.connections.length := next
  constructor
  · exact active
  · exact bounded
  · change s.shared.nextConnectionId + 1 = UInt64.ofNat (s.connections.length + 1)
    rw [id, UInt64.ofNat_add]
    rfl
  · rintro _ ⟨⟩
    exact id
  · exact ids

theorem Counts.spawned {ctx : WsServerConnectionContext} {receiver : Receiver}
    {task : ConnectionTask.Step Command (ConnectionTask.Head ⊕ Unit)}
    (counts : Counts config ⟨true, some ctx.connectionId, some receiver, false⟩ s) :
    Counts config .idle { s with connections :=
      s.connections ++ [⟨ctx, receiver, task, [], .running, false⟩] } := by
  obtain ⟨active, bounded, next, taken, ids⟩ := counts
  constructor
  · change s.shared.active.toNat = running (_ ++ _) + 0
    rw [active, running, List.countP_append]
    rfl
  · exact bounded
  · change s.shared.nextConnectionId = UInt64.ofNat ((_ ++ _ : List _).length + 0)
    rw [List.length_append]
    exact next
  · rintro _ ⟨⟩
  · intro i c here
    rcases Nat.lt_trichotomy i s.connections.length with early | rfl | late
    · rw [List.getElem?_append_left early] at here
      exact ids i c here
    · rw [List.getElem?_concat_length] at here
      cases here
      exact taken ctx.connectionId rfl
    · rw [List.getElem?_eq_none (by simp; omega)] at here
      cases here

theorem running_ended {connections : List (Connection Command)} {k : Nat}
    {connection : Connection Command} (here : connections[k]? = some connection)
    (live : connection.fate = .running) {fate : Fate} (ended : fate ≠ .running) :
    running (connections.set k { connection with fate := fate }) + 1 = running connections := by
  have before : isRunning connection = true := by rw [isRunning, live]; rfl
  have after : isRunning { connection with fate := fate } = false := by
    simpa [isRunning] using ended
  have moved := running_set here { connection with fate := fate }
  rw [before, after] at moved
  exact moved

/-- A live connection owns a slot, so its release takes exactly one off. -/
theorem active_released (counts : Counts config m s) {k : Nat} {connection : Connection Command}
    (here : s.connections[k]? = some connection) (live : connection.fate = .running) {fate : Fate}
    (ended : fate ≠ .running) :
    (s.release k connection fate).shared.active.toNat + 1 = s.shared.active.toNat ∧
      running (s.release k connection fate).connections + 1 = running s.connections := by
  have moved := running_ended here live ended
  have slots := counts.active
  unfold liveSlots at slots
  have positive : 1 ≤ s.shared.active.toNat := by omega
  have lowered : (s.shared.active - 1).toNat = s.shared.active.toNat - 1 := by
    rw [UInt64.toNat_sub_of_le]
    · rfl
    · exact positive
  constructor
  · change (s.shared.active - 1).toNat + 1 = _
    omega
  · exact moved

theorem Counts.release (counts : Counts config m s) {k : Nat} {connection : Connection Command}
    (here : s.connections[k]? = some connection) (live : connection.fate = .running) {fate : Fate}
    (ended : fate ≠ .running) : Counts config m (s.release k connection fate) := by
  obtain ⟨lowered, fewer⟩ := active_released counts here live ended
  obtain ⟨active, bounded, next, taken, ids⟩ := counts
  have length : (s.release k connection fate).connections.length = s.connections.length :=
    List.length_set
  have limit : s.shared.active.toNat ≤ config.maxConnections.toNat := bounded
  unfold liveSlots at active
  constructor
  · unfold liveSlots
    omega
  · change (s.release k connection fate).shared.active.toNat ≤ config.maxConnections.toNat
    omega
  · rw [length]
    exact next
  · rw [length]
    exact taken
  · exact forall_set ids (ids k connection here)

/-- The admission and the counters move together. -/
theorem counts_serves {e : ServerEvent} (counts : Counts config m s)
    (permitted : Permitted config m e.op.2) (serves : Serves s e s') :
    Counts config (m.after e) s' := by
  cases serves with
  | acquired vars room =>
    obtain ⟨rfl, rfl⟩ := permitted
    exact counts.acquired room
  | full vars full =>
    obtain ⟨rfl, rfl⟩ := permitted
    exact counts.same rfl rfl ⟨rfl, rfl⟩ rfl
  | nextConnectionId vars =>
    have held : m = ⟨true, none, none, false⟩ := permitted
    subst held
    exact counts.identified
  | subscribe vars =>
    obtain ⟨id, rfl⟩ := permitted
    exact counts.same rfl rfl ⟨rfl, rfl⟩ rfl
  | spawn vars ctx receiver =>
    have held : m = ⟨true, some ctx.connectionId, some receiver, false⟩ := permitted
    subst held
    exact counts.spawned
  | acceptJoined vars quiet here ripe => exact counts.replace rfl rfl here rfl rfl
  | drainJoined vars timeout here ripe => exact counts.replace rfl rfl here rfl rfl
  | joined vars here ripe => exact counts.replace rfl rfl here rfl rfl
  | _ => exact counts.same rfl rfl ⟨rfl, rfl⟩ rfl

def handOf (t : List ServerEvent) : Admission := t.foldl Admission.after .idle

theorem handOf_snoc (t : List ServerEvent) (e : ServerEvent) :
    handOf (t ++ [e]) = (handOf t).after e := List.foldl_append

/-- The invariant: the server admits in order from here on, and the counters agree. -/
structure Budget (config : WsServerConfig) (s : System Command) : Prop where
  owed : (admission config).wp (Owes (fun c m => Standing c.1 c.2 m) fun _ m => m = .idle) s.task
    (handOf s.trace)
  counts : Counts config (handOf s.trace) s

theorem budget_start : Budget config (start config retry : System Command) where
  owed := rfl
  counts := ⟨rfl, Nat.zero_le _, rfl, nofun, nofun⟩

theorem permitted_fires (budget : Budget config s) {e : ServerEvent} {task : ServerProg}
    (fires : Fires (Proc.turn (runServer config retry faults)) s.task e task) :
    Permitted config (handOf s.trace) e.op.2 ∧
      (admission config).wp (Owes (fun c m => Standing c.1 c.2 m) fun _ m => m = .idle) task
        ((handOf s.trace).after e) :=
  (admission_outline config retry faults).fires fires budget.owed trivial

theorem budget_step (budget : Budget config s) (step : Step config retry faults s s') :
    Budget config s' := by
  cases step with
  | server fires serves =>
    obtain ⟨permitted, owed⟩ := permitted_fires budget fires
    have counts := counts_serves budget.counts permitted serves
    constructor
    · rw [handOf_snoc]
      exact owed
    · rw [handOf_snoc]
      exact counts.same rfl rfl ⟨rfl, rfl⟩ rfl
  | connection here live fires hears =>
    exact ⟨budget.owed, budget.counts.replace rfl rfl here rfl rfl⟩
  | finish here live returned =>
    exact ⟨budget.owed, budget.counts.release here live nofun⟩
  | cut here live => exact ⟨budget.owed, budget.counts.release here live nofun⟩
  | call => exact ⟨budget.owed, budget.counts.same rfl rfl ⟨rfl, rfl⟩ rfl⟩
  | requestShutdown => exact ⟨budget.owed, budget.counts.same rfl rfl ⟨rfl, rfl⟩ rfl⟩
  | caller _ _ grants =>
    cases grants <;> exact ⟨budget.owed, budget.counts.same rfl rfl ⟨rfl, rfl⟩ rfl⟩

theorem budget_reachable (reached : Reachable config retry faults s) : Budget config s :=
  reached.invariant (Budget config) budget_start fun _ _ => budget_step

end Counters

/-- A server that has bound its address, admitted one client and is back at its
accept loop. -/
def oneClient (config : WsServerConfig) (retry : WsServerRetryPolicy) (peerAddr : SocketAddr)
    (trace : List ServerEvent) : System Nat where
  shared := ⟨{ channel config.retainedCommandsPerClient.toNat with receivers := 1 },
    [.starting, .listening], false, none, 1, 1⟩
  dispatched := []
  task := .ret (.inl (.accepting (.v4 0 80) 1, ⟨retry.initialBackoff, 0, .accept⟩))
  trace := trace
  connections :=
    [⟨⟨0, peerAddr, .v4 0 80⟩, ⟨0, 0⟩, .ret (.inl .accepted), [], .running, false⟩]
  callers := []

theorem oneClient_reached {config : WsServerConfig} (retry : WsServerRetryPolicy)
    (peerAddr : SocketAddr) (room : 0 < config.maxConnections) :
    ∃ trace, Relation.ReflTransGen (Step config retry ⟨none⟩) (start config retry)
      (oneClient config retry peerAddr trace) :=
  ⟨_, .head (.server (.head (.call _ _ _)) (.readShutdown _)) <|
    .head (.server (.call _ _ _) (.bindListener _ _ _ (.ok ()))) <|
    .head (.server (.call _ _ _) (.readTerminal _)) <|
    .head (.server (.call _ _ _) (.publish _ _)) <|
    .head (.server (.call _ _ _) (.localAddr _ (.ok (.v4 0 80)))) <|
    .head (.server (.head (.call _ _ _))
      (.acceptIncoming _ rfl (.ok peerAddr))) <|
    .head (.server (.call _ _ _) (.acquired _ room)) <|
    .head (.server (.call _ _ _) (.nextConnectionId _)) <|
    .head (.server (.call _ _ _) (.subscribe _)) <|
    .head (.server (.call _ _ _) (.spawn _ _ _)) .refl⟩

/-- A server for one client. -/
def solo : WsServerConfig := { WsServerConfig.new (.v4 0 80) with maxConnections := 1 }

end ConnectionBudget
