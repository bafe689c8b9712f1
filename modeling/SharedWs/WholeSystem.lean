import Mathlib.Data.List.Flatten
import Mathlib.Data.List.Infix
import SharedWs.CommandOrder
import SharedWs.DispatchAudience
import SharedWs.EndToEnd
import SharedWs.Uplink

/-!
# A client that reconnects, and its server

One managed loop with the senders of its commands, and the whole server with everybody else who
dispatches or connects to it, run side by side. The loop connects as often as it likes. A
connection delivers in order what was written, up to some point that neither side knows, so the end
of every conversation may be lost.

What a client is told over all its connections are then commands in the order of their dispatch,
none of them twice: a socket is accepted only after the client has begun to dial, the server
subscribes it after it was accepted, and while the client dials it reads nothing. In the other
direction the handlers of the server see payloads in the order in which they were sent to the loop,
none of them twice.
-/
namespace WholeSystem

open InteractionPrograms InteractionChannels InteractionMonitors ManagedOps HookedLoop WsFrames
open WsTypes ServerTypes ServerTask ServerSystem ConnectionBudget CommandFanout
open QueuedShutdown (Client cmdRx spawned)
open CommandOrder (ConstantMode handedOver ordering)
open ConnectionWire (IsData dataFrames Relays broadcast segment_sent dataFrames_mono)
open FrameRouting (reads settled sinceConnect sinceConnect_snoc hand_run)
open OutboundRouting (asked outbox_run sent_of_fits)
open EndToEnd (Codec Understands processed processed_part broadcast_act settled_reads)
open Uplink (arrivals payloadOf payloads Reserved dataFrames_asked handed_part)

/-- How far an attempt to connect has got at the server. -/
inductive Dial where
  | idle
  | begun
  | accepted
  | served (k : Nat)
  deriving DecidableEq

/-- A step of the server task carries on the attempt whose socket it has just accepted. The socket
is given to the task at place `k`, or dropped if the cap is reached. -/
def Dial.after (k : Nat) : Dial → ServerEvent → Dial
  | .accepted, ⟨(_, .spawn _ _), _⟩ => .served k
  | .accepted, ⟨(_, .tryAcquire _), false⟩ => .begun
  | dial, _ => dial

/-- The new events of the server task, and the attempt before and after them. A socket that comes
in may be the one of this client or not. -/
inductive Greets (k : Nat) : List ServerEvent → Dial → Dial → Prop
  | unseen (dial : Dial) : Greets k [] dial dial
  | accept (vars : ServerVars) (addr : SocketAddr) :
      Greets k [⟨(vars, .acceptSelect), .incoming (.ok addr)⟩] .begun .accepted
  | other (e : ServerEvent) (dial : Dial) : Greets k [e] dial (dial.after k e)

/-- A connection of the client: the place of the task that serves it, if the attempt succeeded, and
the calls made since. -/
structure Session (E : Endpoint) where
  peer : Option Nat
  calls : List (ManagedEvent E)

structure World (E : Endpoint) (Command : Type) where
  server : System Command
  client : Client E
  sent : List (ManagedWsCommand E.Subscription)
  trace : List (ManagedEvent E)
  dial : Dial
  sessions : List (Session E)

variable {E : Endpoint} {Command : Type}

/-- The newest connection keeps the call. -/
def logged (e : ManagedEvent E) : List (Session E) → List (Session E)
  | [] => []
  | newest :: older => { newest with calls := newest.calls ++ [e] } :: older

/-- `connect` succeeds with the task that its socket was given to. -/
inductive Takes (sessions : List (Session E)) :
    Dial → ManagedEvent E → Dial → List (Session E) → Prop
  | connected (k : Nat) (l : Locals E) (url : String) (buffers : WebSocketBufferConfig)
      (time : Instant) :
      Takes sessions (.served k) (event l (.connect url buffers) time (.ok ())) .idle
        (⟨some k, []⟩ :: sessions)
  | failed (dial : Dial) (l : Locals E) (url : String) (buffers : WebSocketBufferConfig)
      (time : Instant) (error : WebSocketError) :
      Takes sessions dial (event l (.connect url buffers) time (.error error)) .idle
        (⟨none, []⟩ :: sessions)
  | other (dial : Dial) {e : ManagedEvent E} (stays : ¬ Connects e) :
      Takes sessions dial e dial (logged e sessions)

def AtConnect (task : HookedLoop.Task E) : Prop :=
  ∃ l url buffers next, task = .call (l, .connect url buffers) next

namespace World

def peerOf (w : World E Command) (peer : Option Nat) : Option (Connection Command) :=
  peer.bind (w.server.connections[·]?)

/-- What the server has written to a connection of the client. -/
def outbound (w : World E Command) (peer : Option Nat) : List WsFrame :=
  ((w.peerOf peer).map fun c => ConnectionWire.written c.trace).getD []

/-- What the handler of that connection was given. -/
def handed (w : World E Command) (peer : Option Nat) : List WsFrame :=
  ((w.peerOf peer).map fun c => ConnectionWire.handed c.trace).getD []

end World

section Steps
variable (config : WsServerConfig) (retry : WsServerRetryPolicy) (faults : ServerFaults)
variable (url : String) (kind : LoopKind)

inductive Step : World E Command → World E Command → Prop
  | send {w : World E Command} (alive : w.client.channel.closed = false)
      (command : ManagedWsCommand E.Subscription) :
      Step w { w with
        client := ⟨w.client.task, { w.client.channel with
          queue := w.client.channel.queue ++ [command] }⟩
        sent := w.sent ++ [command] }
  | close (w : World E Command) :
      Step w { w with client :=
        ⟨w.client.task, { w.client.channel with closed := true }⟩ }
  | dial {w : World E Command} (idle : w.dial = .idle) (here : AtConnect w.client.task) :
      Step w { w with dial := .begun }
  | call {w : World E Command} {e : ManagedEvent E} {task : HookedLoop.Task E} {dial : Dial}
      {sessions : List (Session E)}
      (fires : Fires (Proc.turn (managedLoop url kind)) w.client.task e task)
      (admits : cmdRx.Admits w.client.channel e)
      (takes : Takes w.sessions w.dial e dial sessions) :
      Step w { w with
        client := ⟨task, cmdRx.left w.client.channel e⟩
        trace := w.trace ++ [e]
        dial := dial
        sessions := sessions }
  | server {w : World E Command} {s : System Command} {news : List ServerEvent} {dial : Dial}
      (step : ServerSystem.Step config retry faults w.server s)
      (trace : s.trace = w.server.trace ++ news)
      (greets : Greets w.server.connections.length news w.dial dial) :
      Step w { w with server := s, dial := dial }

end Steps

/-- Each direction of a connection delivers a prefix of what was written. -/
structure Wired (w : World E Command) : Prop where
  down : ∀ σ ∈ w.sessions, reads σ.calls <+: w.outbound σ.peer
  up : ∀ σ ∈ w.sessions, ∀ c, w.peerOf σ.peer = some c →
    arrivals c.trace <+: OutboundRouting.written σ.calls

/-- A server that was just spawned, and a loop that is about to start. -/
def started (s : System Command) : World E Command :=
  ⟨s, spawned ⟨[], false⟩, [], [], .idle, []⟩

def Reachable (config : WsServerConfig) (retry : WsServerRetryPolicy) (faults : ServerFaults)
    (url : String) (kind : LoopKind) (w : World E Command) : Prop :=
  ∃ first, spawnWithFaults config retry true = .ok first ∧
    Relation.ReflTransGen (fun v v' => Step config retry faults url kind v v' ∧ Wired v')
      (started first) w

section Kept
variable {config : WsServerConfig} {retry : WsServerRetryPolicy} {faults : ServerFaults}
variable {url : String} {kind : LoopKind} {w w' : World E Command}

/-- The calls of all connections, the oldest first. -/
def history (sessions : List (Session E)) : List (ManagedEvent E) :=
  sessions.reverse.flatMap Session.calls

structure Kept (config : WsServerConfig) (retry : WsServerRetryPolicy) (faults : ServerFaults)
    (url : String) (kind : LoopKind) (w : World E Command) : Prop where
  server : ServerSystem.Reachable config retry faults w.server
  client : Run (managedLoop url kind) w.trace w.client.task
  channel : w.sent = cmdRx.taken w.trace ++ w.client.channel.queue
  newest : ∀ σ older, w.sessions = σ :: older → σ.calls = sinceConnect w.trace
  calls : (history w.sessions).Sublist w.trace
  settled : ∀ σ ∈ w.sessions, settled σ.calls <+: reads σ.calls
  written : ∀ σ ∈ w.sessions, OutboundRouting.written σ.calls <+: asked σ.calls
  atConnect : w.dial ≠ .idle → AtConnect w.client.task
  -- every task serves one connection of the client
  places : ∀ k ∈ w.sessions.filterMap Session.peer, k < w.server.connections.length
  fresh : ∀ k, w.dial = .served k →
    k < w.server.connections.length ∧ k ∉ w.sessions.filterMap Session.peer
  apart : (w.sessions.filterMap Session.peer).Nodup

theorem kept_started {first : System Command}
    (spawned : spawnWithFaults config retry true = .ok first) :
    Kept config retry faults url kind (started first : World E Command) where
  server := ⟨first, spawned, .refl⟩
  client := .here _
  channel := rfl
  newest := nofun
  calls := List.Sublist.refl []
  settled := nofun
  written := nofun
  atConnect := fun busy => absurd rfl busy
  places := nofun
  fresh := nofun
  apart := List.nodup_nil

theorem connects_of_atConnect {loop : ManagedLoop.Head → Managed E ManagedLoop.Flow}
    {p q : HookedLoop.Task E} {e : ManagedEvent E} (here : AtConnect p)
    (fires : Fires (Proc.turn loop) p e q) : Connects e := by
  obtain ⟨l, url, buffers, next, rfl⟩ := here
  cases fires
  trivial

/-- The newest connection after a call, in order with the calls of the run. -/
theorem history_logged (e : ManagedEvent E) (sessions : List (Session E)) :
    (history (logged e sessions)).Sublist (history sessions ++ [e]) := by
  cases sessions with
  | nil => exact List.nil_sublist _
  | cons newest older => simp [history, logged]

theorem peers_logged (e : ManagedEvent E) (sessions : List (Session E)) :
    (logged e sessions).filterMap Session.peer = sessions.filterMap Session.peer := by
  cases sessions <;> rfl

theorem history_opened (peer : Option Nat) (sessions : List (Session E)) :
    history (⟨peer, []⟩ :: sessions) = history sessions := by
  simp [history]

theorem taken_snoc (t : List (ManagedEvent E)) (e : ManagedEvent E) :
    cmdRx.taken (t ++ [e]) = cmdRx.taken t ++ (cmdRx.takes e).join.toList :=
  filterMap_snoc _ t e

theorem peers_opened (peer : Option Nat) (sessions : List (Session E)) :
    (⟨peer, []⟩ :: sessions : List (Session E)).filterMap Session.peer =
      peer.toList ++ sessions.filterMap Session.peer := by
  cases peer <;> rfl

section Calls
variable {e : ManagedEvent E} {task : HookedLoop.Task E}
variable {channel : Channel (ManagedWsCommand E.Subscription)}
variable (kept : Kept config retry faults url kind w)
variable (run : Run (managedLoop url kind) (w.trace ++ [e]) task)
variable (conserved : w.sent = cmdRx.taken (w.trace ++ [e]) ++ channel.queue)
include kept run conserved

theorem Kept.opened (connects : Connects e) {peer : Option Nat}
    (alone : ∀ k ∈ peer, k < w.server.connections.length ∧
      k ∉ w.sessions.filterMap Session.peer) :
    Kept config retry faults url kind { w with
      client := ⟨task, channel⟩
      trace := w.trace ++ [e]
      dial := .idle
      sessions := ⟨peer, []⟩ :: w.sessions } where
  server := kept.server
  client := run
  channel := conserved
  newest := by
    rintro σ older same
    obtain ⟨rfl, -⟩ := List.cons_eq_cons.mp same
    change [] = sinceConnect (w.trace ++ [e])
    rw [sinceConnect_snoc, if_pos connects]
  calls := by
    change (history (⟨peer, []⟩ :: w.sessions)).Sublist _
    rw [history_opened]
    exact kept.calls.trans (List.sublist_append_left _ _)
  settled := List.forall_mem_cons.mpr ⟨List.prefix_rfl, kept.settled⟩
  written := List.forall_mem_cons.mpr ⟨List.prefix_rfl, kept.written⟩
  atConnect := fun busy => absurd rfl busy
  places := by
    intro k listed
    rw [peers_opened] at listed
    rcases List.mem_append.mp listed with new | old
    · exact (alone k (Option.mem_toList.mp new)).1
    · exact kept.places k old
  fresh := nofun
  apart := by
    change (List.filterMap Session.peer (⟨peer, []⟩ :: w.sessions)).Nodup
    rw [peers_opened]
    cases peer with
    | none => exact kept.apart
    | some k => exact List.nodup_cons.mpr ⟨(alone k rfl).2, kept.apart⟩

theorem Kept.called (stays : ¬ Connects e) (idle : w.dial = .idle) :
    Kept config retry faults url kind { w with
      client := ⟨task, channel⟩
      trace := w.trace ++ [e]
      sessions := logged e w.sessions } := by
  have since : sinceConnect (w.trace ++ [e]) = sinceConnect w.trace ++ [e] := by
    rw [sinceConnect_snoc, if_neg stays]
  -- the newest connection holds the calls since `connect`, the others are as before
  have newest : ∀ σ older, logged e w.sessions = σ :: older →
      σ.calls = sinceConnect (w.trace ++ [e]) ∧ ∀ τ ∈ older, τ ∈ w.sessions := by
    intro σ older same
    cases sessions : w.sessions with
    | nil =>
      rw [sessions] at same
      cases same
    | cons last rest =>
      rw [sessions] at same
      obtain ⟨rfl, rfl⟩ := List.cons_eq_cons.mp same
      refine ⟨?_, fun τ => List.mem_cons_of_mem last⟩
      change last.calls ++ [e] = _
      rw [since, kept.newest last _ sessions]
  have each : ∀ P : List (ManagedEvent E) → Prop, P (sinceConnect (w.trace ++ [e])) →
      (∀ σ ∈ w.sessions, P σ.calls) → ∀ σ ∈ logged e w.sessions, P σ.calls := by
    intro P here others σ listed
    cases after : logged e w.sessions with
    | nil =>
      rw [after] at listed
      cases listed
    | cons first rest =>
      rw [after] at listed
      obtain ⟨calls, old⟩ := newest first rest after
      rcases List.mem_cons.mp listed with rfl | listed
      · rw [calls]
        exact here
      · exact others σ (old σ listed)
  have frames : OutboundRouting.written (sinceConnect (w.trace ++ [e])) <+:
      asked (sinceConnect (w.trace ++ [e])) := ⟨_, (sent_of_fits (outbox_run run).1).symm⟩
  refine ⟨kept.server, run, conserved, fun σ older same => (newest σ older same).1, ?_,
    each (fun u => FrameRouting.settled u <+: reads u) (settled_reads (hand_run run).1)
      kept.settled,
    each (fun u => OutboundRouting.written u <+: asked u) frames kept.written,
    fun busy => absurd idle busy, ?_, ?_, ?_⟩
  · exact (history_logged e w.sessions).trans (kept.calls.append (List.Sublist.refl [e]))
  · change ∀ k ∈ (logged e w.sessions).filterMap Session.peer, _
    rw [peers_logged]
    exact kept.places
  · intro k served
    rw [idle] at served
    cases served
  · change ((logged e w.sessions).filterMap Session.peer).Nodup
    rw [peers_logged]
    exact kept.apart

end Calls

/-- While the client dials it makes no other call. -/
theorem Kept.idle (kept : Kept config retry faults url kind w) {e : ManagedEvent E}
    {task : HookedLoop.Task E}
    (fires : Fires (Proc.turn (managedLoop url kind)) w.client.task e task)
    (stays : ¬ Connects e) : w.dial = .idle := by
  by_contra busy
  exact stays (connects_of_atConnect (kept.atConnect busy) fires)

theorem Greets.served {k j : Nat} {news : List ServerEvent} {dial : Dial}
    (greets : Greets k news dial (.served j)) :
    dial = .served j ∨ j = k ∧ dial = .accepted ∧ ∃ vars ctx receiver,
      news = [⟨(vars, .spawn ctx receiver), ()⟩] := by
  obtain ⟨dial', after⟩ : ∃ dial', dial' = Dial.served j := ⟨_, rfl⟩
  rw [← after] at greets
  cases greets with
  | unseen => exact Or.inl after
  | accept => cases after
  | other e dial =>
    unfold Dial.after at after
    split at after
    · cases after
      exact Or.inr ⟨rfl, rfl, _, _, _, rfl⟩
    · cases after
    · exact Or.inl after

theorem Greets.idle {k : Nat} {news : List ServerEvent} {dial : Dial}
    (greets : Greets k news .idle dial) : dial = .idle := by
  cases greets <;> rfl

/-- A step that the server task makes. -/
theorem step_event {s s' : System Command} (step : ServerSystem.Step config retry faults s s')
    {e : ServerEvent} (trace : s'.trace = s.trace ++ [e]) :
    ∃ task served, Fires (Proc.turn (runServer config retry faults)) s.task e task ∧
      Serves s e served ∧ s' = { served with task := task, trace := s.trace ++ [e] } := by
  have longer : s.trace ≠ s.trace ++ [e] := by simp
  cases step with
  | server fires serves =>
    have same := List.append_cancel_left trace
    cases same
    exact ⟨_, _, fires, serves, rfl⟩
  | caller here fires grants => cases grants <;> exact absurd trace longer
  | _ => exact absurd trace longer

theorem step_length {s s' : System Command} (step : ServerSystem.Step config retry faults s s') :
    s.connections.length ≤ s'.connections.length := by
  by_contra fewer
  have moves := moves_step step s'.connections.length
  rw [List.getElem?_eq_none (Nat.le_refl _)] at moves
  have inside : s'.connections.length < s.connections.length := by omega
  rw [List.getElem?_eq_getElem inside] at moves
  obtain ⟨c, some⟩ := moves_some moves
  cases some

theorem kept_step (kept : Kept config retry faults url kind w)
    (step : Step config retry faults url kind w w') : Kept config retry faults url kind w' := by
  cases step with
  | send alive command =>
    refine { kept with channel := ?_ }
    change w.sent ++ [command] = _ ++ (w.client.channel.queue ++ [command])
    rw [kept.channel, List.append_assoc]
  | close => exact { kept with }
  | dial idle here => exact { kept with atConnect := fun _ => here, fresh := nofun }
  | @call e task dial sessions fires admits takes =>
    have run : Run (managedLoop url kind) (w.trace ++ [e]) task := kept.client.snoc fires
    have conserved : w.sent =
        cmdRx.taken (w.trace ++ [e]) ++ (cmdRx.left w.client.channel e).queue := by
      rw [taken_snoc, List.append_assoc, ← admits.queue]
      exact kept.channel
    generalize before : w.dial = past at takes
    cases takes with
    | connected k l target buffers time =>
      refine kept.opened run conserved trivial ?_
      rintro _ ⟨⟩
      exact kept.fresh k before
    | failed dial l target buffers time error =>
      exact kept.opened run conserved trivial nofun
    | other dial stays =>
      have idle := kept.idle fires stays
      rw [← before]
      exact kept.called run conserved stays idle
  | @server s news dial step trace greets =>
    have longer := step_length step
    refine { kept with
      server := kept.server.tail (.single step)
      atConnect := ?_
      places := fun k listed => Nat.lt_of_lt_of_le (kept.places k listed) longer
      fresh := ?_ }
    · intro busy
      refine kept.atConnect fun idle => busy ?_
      rw [idle] at greets
      exact greets.idle
    · intro k served
      change dial = .served k at served
      rw [served] at greets
      rcases greets.served with earlier | ⟨rfl, -, vars, ctx, receiver, rfl⟩
      · obtain ⟨inside, unused⟩ := kept.fresh k earlier
        exact ⟨Nat.lt_of_lt_of_le inside longer, unused⟩
      · obtain ⟨task, served, -, serves, rfl⟩ := step_event step trace
        cases serves
        refine ⟨?_, fun listed => Nat.lt_irrefl _ (kept.places _ listed)⟩
        change w.server.connections.length < (w.server.connections ++ [_]).length
        simp

/-- The messages of the frames that the client parsed, over all its connections. -/
def received (sessions : List (Session E)) : List E.Message :=
  sessions.reverse.flatMap fun σ => processed σ.calls

/-- The handlers at both ends of the client's connections keep to the codec. -/
structure Agreed (codec : Codec Command E) (w : World E Command) : Prop where
  client : ∀ e ∈ w.trace, Understands codec e
  server : ∀ σ ∈ w.sessions, ∀ c, w.peerOf σ.peer = some c → ∀ e ∈ c.trace, Relays codec.act e

/-- Where a connection begins in the history of dispatches. -/
def World.since (w : World E Command) (peer : Option Nat) : Nat :=
  ((w.peerOf peer).map fun c => c.receiver.since).getD w.server.dispatched.length

/-- The messages of the commands dispatched before a connection began. -/
def World.earlier (codec : Codec Command E) (w : World E Command) (n : Nat) : List E.Message :=
  (w.server.dispatched.take n).map codec.message

/-- What the client has got so far was dispatched before its newest connection began, and before
the one that is being made for it. -/
structure Ordered (codec : Codec Command E) (w : World E Command) : Prop where
  newest : ∀ σ older, w.sessions = σ :: older →
    (received older).Sublist (w.earlier codec (w.since σ.peer))
  held : w.dial = .accepted → ∀ r, (handOf w.server.trace).receiver = some r →
    (received w.sessions).Sublist (w.earlier codec r.since)
  served : ∀ k, w.dial = .served k →
    (received w.sessions).Sublist (w.earlier codec (w.since (some k)))

variable {codec : Codec Command E}

theorem World.earlier_all : w.earlier codec w.server.dispatched.length =
    w.server.dispatched.map codec.message := by
  rw [World.earlier, List.take_length]

theorem received_cons (σ : Session E) (older : List (Session E)) :
    received (σ :: older) = received older ++ processed σ.calls := by
  simp [received]

theorem calls_of_session (kept : Kept config retry faults url kind w) {σ : Session E}
    (listed : σ ∈ w.sessions) : ∀ e ∈ σ.calls, e ∈ w.trace := fun _ mem =>
  kept.calls.subset (List.mem_flatMap.mpr ⟨σ, List.mem_reverse.mpr listed, mem⟩)

/-- What a task has written to a client of the codec. -/
theorem outbound_part (kept : Kept config retry faults url kind w) (agreed : Agreed codec w)
    {σ : Session E} (listed : σ ∈ w.sessions) : dataFrames (w.outbound σ.peer) <+:
      (w.server.dispatched.drop (w.since σ.peer)).map codec.encode := by
  rw [World.outbound, World.since]
  cases found : w.peerOf σ.peer with
  | none => exact List.nil_prefix
  | some c =>
    obtain ⟨k, -, here⟩ := Option.bind_eq_some_iff.mp found
    have sent := segment_sent kept.server here (agreed.server σ listed c found)
    rwa [broadcast_act] at sent

theorem processed_newest (kept : Kept config retry faults url kind w) (wired : Wired w)
    (agreed : Agreed codec w) {σ : Session E} (listed : σ ∈ w.sessions) :
    processed σ.calls <+:
      (w.server.dispatched.drop (w.since σ.peer)).map codec.message := by
  have understands : ∀ e ∈ σ.calls, Understands codec e :=
    fun e mem => agreed.client e (calls_of_session kept listed e mem)
  have read := (kept.settled σ listed).trans (wired.down σ listed)
  exact processed_part understands ((dataFrames_mono read).trans (outbound_part kept agreed listed))

/-- The newest connection adds to what came before it. -/
theorem Ordered.all (ordered : Ordered codec w) (kept : Kept config retry faults url kind w)
    (wired : Wired w) (agreed : Agreed codec w) :
    (received w.sessions).Sublist (w.server.dispatched.map codec.message) := by
  cases sessions : w.sessions with
  | nil => exact List.nil_sublist _
  | cons σ older =>
    have before := ordered.newest σ older sessions
    have now := processed_newest kept wired agreed (sessions ▸ List.mem_cons_self : σ ∈ w.sessions)
    have both := before.append now.sublist
    rw [World.earlier, ← List.map_append, List.take_append_drop] at both
    rw [received_cons]
    exact both

theorem hears_since {shared : Shared Command} {receiver receiver' : Receiver}
    {e : ConnectionTask.ConnectionEvent Command} (hears : Hears shared receiver e receiver') :
    receiver'.since = receiver.since := by
  cases hears <;> rfl

/-- A connection keeps its place in the history, and its calls are only added to. -/
theorem moves_keep {shared : Shared Command} {c c' : Connection Command}
    (moves : Moves config shared (some c) (some c')) :
    c'.receiver.since = c.receiver.since ∧ c.trace <+: c'.trace := by
  cases moves with
  | stays => exact ⟨rfl, List.prefix_rfl⟩
  | advances running fires hears => exact ⟨hears_since hears, List.prefix_append _ _⟩
  | returns => exact ⟨rfl, List.prefix_rfl⟩
  | cut => exact ⟨rfl, List.prefix_rfl⟩
  | reaped => exact ⟨rfl, List.prefix_rfl⟩

section Server
variable {s : System Command} {dial : Dial}

theorem peer_step (dial : Dial) (step : ServerSystem.Step config retry faults w.server s)
    {peer : Option Nat} {c : Connection Command} (found : w.peerOf peer = some c) :
    ∃ c', { w with server := s, dial := dial }.peerOf peer = some c' ∧
      c'.receiver.since = c.receiver.since ∧ c.trace <+: c'.trace := by
  obtain ⟨k, rfl, here⟩ := Option.bind_eq_some_iff.mp found
  have moves := moves_step step k
  rw [here] at moves
  obtain ⟨c', there⟩ := moves_some moves
  rw [there] at moves
  exact ⟨c', there, moves_keep moves⟩

theorem since_step (step : ServerSystem.Step config retry faults w.server s) {peer : Option Nat}
    (inside : ∀ k ∈ peer, k < w.server.connections.length) :
    w.since peer ≤ { w with server := s, dial := dial }.since peer := by
  cases peer with
  | none => exact (DispatchAudience.dispatched_step step).length_le
  | some k =>
    have here : w.peerOf (some k) = some (w.server.connections.get ⟨k, inside k rfl⟩) :=
      List.getElem?_eq_getElem (inside k rfl)
    obtain ⟨c', found, same, -⟩ := peer_step dial step here
    rw [World.since, World.since, here, found]
    exact same.ge

theorem earlier_step (step : ServerSystem.Step config retry faults w.server s) {n n' : Nat}
    (le : n ≤ n') : (w.earlier codec n).Sublist
      ({ w with server := s, dial := dial }.earlier codec n') := by
  have grown := (DispatchAudience.dispatched_step step).take n
  have longer : s.dispatched.take n <+: s.dispatched.take n' := List.take_prefix_take_left le
  exact (grown.trans longer).sublist.map codec.message

/-- What an admission holds it holds since it subscribed. -/
theorem receiver_after {m : Admission} {e : ServerEvent} {r : Receiver}
    (holds : (m.after e).receiver = some r) :
    (∃ vars, e = ⟨(vars, .subscribe), r⟩) ∨ m.receiver = some r := by
  obtain ⟨⟨vars, op⟩, answer⟩ := e
  cases op with
  | subscribe =>
    cases holds
    exact Or.inl ⟨vars, rfl⟩
  | spawn ctx receiver => cases holds
  | tryAcquire max => cases answer <;> exact Or.inr holds
  | _ => exact Or.inr holds

theorem inside_of_session (kept : Kept config retry faults url kind w) {σ : Session E}
    (listed : σ ∈ w.sessions) : ∀ k ∈ σ.peer, k < w.server.connections.length :=
  fun k mem => kept.places k (List.mem_filterMap.mpr ⟨σ, listed, mem⟩)

theorem Greets.accepted {k : Nat} {news : List ServerEvent} {past : Dial}
    (greets : Greets k news past .accepted) :
    (∃ vars addr, news = [⟨(vars, .acceptSelect), .incoming (.ok addr)⟩]) ∨
      past = .accepted ∧ (news = [] ∨ ∃ e, news = [e]) := by
  obtain ⟨dial', after⟩ : ∃ dial', dial' = Dial.accepted := ⟨_, rfl⟩
  rw [← after] at greets
  cases greets with
  | unseen => exact Or.inr ⟨after, Or.inl rfl⟩
  | accept vars addr => exact Or.inl ⟨vars, addr, rfl⟩
  | other e =>
    unfold Dial.after at after
    split at after
    · cases after
    · cases after
    · exact Or.inr ⟨after, Or.inr ⟨e, rfl⟩⟩

theorem Ordered.held_step (ordered : Ordered codec w) (kept : Kept config retry faults url kind w)
    (wired : Wired w) (agreed : Agreed codec w)
    (step : ServerSystem.Step config retry faults w.server s) {news : List ServerEvent}
    (trace : s.trace = w.server.trace ++ news)
    (greets : Greets w.server.connections.length news w.dial .accepted) {r : Receiver}
    (holds : (handOf s.trace).receiver = some r) : (received w.sessions).Sublist
      ({ w with server := s, dial := .accepted }.earlier codec r.since) := by
  rcases greets.accepted with ⟨vars, addr, rfl⟩ | ⟨past, rfl | ⟨e, rfl⟩⟩
  · -- the socket comes in, and nothing is held for it yet
    obtain ⟨task, served, fires, -, -⟩ := step_event step trace
    have permitted := (permitted_fires (budget_reachable kept.server) fires).1
    rw [trace, handOf_snoc] at holds
    rcases receiver_after holds with ⟨vars', subscribes⟩ | earlier
    · cases subscribes
    · rcases permitted with idle | idle <;> rw [idle] at earlier <;> cases earlier
  · rw [trace, List.append_nil] at holds
    exact (ordered.held past r holds).trans (earlier_step step (Nat.le_refl _))
  · obtain ⟨task, served, -, serves, -⟩ := step_event step trace
    rw [trace, handOf_snoc] at holds
    rcases receiver_after holds with ⟨vars', rfl⟩ | earlier
    · -- it is subscribed now, after everything that the client has got
      have all := ordered.all kept wired agreed
      rw [← World.earlier_all] at all
      cases serves
      exact all.trans (earlier_step step (Nat.le_refl _))
    · exact (ordered.held past r earlier).trans (earlier_step step (Nat.le_refl _))

theorem Ordered.served_step (ordered : Ordered codec w)
    (kept : Kept config retry faults url kind w)
    (step : ServerSystem.Step config retry faults w.server s) {news : List ServerEvent}
    (trace : s.trace = w.server.trace ++ news) {k : Nat}
    (greets : Greets w.server.connections.length news w.dial (.served k)) :
    (received w.sessions).Sublist ({ w with server := s, dial := .served k }.earlier codec
      ({ w with server := s, dial := .served k }.since (some k))) := by
  rcases greets.served with earlier | ⟨rfl, past, vars, ctx, receiver, rfl⟩
  · have inside : ∀ j ∈ some k, j < w.server.connections.length := by
      rintro _ ⟨⟩
      exact (kept.fresh k earlier).1
    exact (ordered.served k earlier).trans (earlier_step step (since_step step inside))
  · obtain ⟨task, served, fires, serves, same⟩ := step_event step trace
    have hand : handOf w.server.trace = ⟨true, some ctx.connectionId, some receiver, false⟩ :=
      (permitted_fires (budget_reachable kept.server) fires).1
    have before := ordered.held past receiver (by rw [hand])
    have here : { w with server := s, dial := .served w.server.connections.length }.since
        (some w.server.connections.length) = receiver.since := by
      cases serves
      rw [same]
      simp [World.since, World.peerOf]
    rw [here]
    exact before.trans (earlier_step step (Nat.le_refl _))

end Server

theorem Ordered.called (ordered : Ordered codec w) (kept : Kept config retry faults url kind w)
    (wired : Wired w) (agreed : Agreed codec w) {e : ManagedEvent E} {task : HookedLoop.Task E}
    {client : Client E} {dial : Dial} {sessions : List (Session E)}
    (fires : Fires (Proc.turn (managedLoop url kind)) w.client.task e task)
    (takes : Takes w.sessions w.dial e dial sessions) :
    Ordered codec { w with
      client := client, trace := w.trace ++ [e], dial := dial, sessions := sessions } := by
  have idle : dial = .idle := by
    generalize before : w.dial = past at takes
    cases takes with
    | connected => rfl
    | failed => rfl
    | other _ stays => exact before.symm.trans (kept.idle fires stays)
  subst idle
  refine ⟨?_, nofun, nofun⟩
  intro σ older same
  change sessions = σ :: older at same
  change (received older).Sublist (w.earlier codec (w.since σ.peer))
  generalize before : w.dial = past at takes
  cases takes with
  | connected k =>
    obtain ⟨rfl, rfl⟩ := List.cons_eq_cons.mp same
    exact ordered.served k before
  | failed =>
    obtain ⟨rfl, rfl⟩ := List.cons_eq_cons.mp same
    change (received w.sessions).Sublist (w.earlier codec w.server.dispatched.length)
    rw [World.earlier_all]
    exact ordered.all kept wired agreed
  | other =>
    cases earlier : w.sessions with
    | nil =>
      rw [earlier] at same
      cases same
    | cons newest rest =>
      rw [earlier] at same
      obtain ⟨rfl, rfl⟩ := List.cons_eq_cons.mp same
      exact ordered.newest newest rest earlier

theorem peer_logged (e : ManagedEvent E) {sessions : List (Session E)} {σ : Session E}
    (listed : σ ∈ sessions) : ∃ τ ∈ logged e sessions, τ.peer = σ.peer := by
  cases sessions with
  | nil => cases listed
  | cons newest older =>
    rcases List.mem_cons.mp listed with rfl | listed
    · exact ⟨_, List.mem_cons_self, rfl⟩
    · exact ⟨σ, List.mem_cons_of_mem _ listed, rfl⟩

theorem peer_taken {past dial : Dial} {e : ManagedEvent E} {sessions sessions' : List (Session E)}
    (takes : Takes sessions past e dial sessions') {σ : Session E} (listed : σ ∈ sessions) :
    ∃ τ ∈ sessions', τ.peer = σ.peer := by
  cases takes with
  | connected => exact ⟨σ, List.mem_cons_of_mem _ listed, rfl⟩
  | failed => exact ⟨σ, List.mem_cons_of_mem _ listed, rfl⟩
  | other => exact peer_logged e listed

/-- Handlers that have kept to the codec had done so before. -/
theorem agreed_before (step : Step config retry faults url kind w w') (agreed : Agreed codec w') :
    Agreed codec w := by
  cases step with
  | send => exact ⟨agreed.client, agreed.server⟩
  | close => exact ⟨agreed.client, agreed.server⟩
  | dial => exact ⟨agreed.client, agreed.server⟩
  | call fires admits takes =>
    refine ⟨fun e mem => agreed.client e (List.mem_append_left _ mem), ?_⟩
    intro σ listed c found
    obtain ⟨τ, there, peer⟩ := peer_taken takes listed
    refine agreed.server τ there c ?_
    rw [peer]
    exact found
  | server step trace greets =>
    refine ⟨agreed.client, ?_⟩
    intro σ listed c found e mem
    obtain ⟨c', there, -, longer⟩ := peer_step _ step found
    exact agreed.server σ listed c' there e (longer.subset mem)

theorem ordered_step (ordered : Ordered codec w) (kept : Kept config retry faults url kind w)
    (wired : Wired w) (agreed : Agreed codec w)
    (step : Step config retry faults url kind w w') : Ordered codec w' := by
  cases step with
  | send => exact ⟨ordered.newest, ordered.held, ordered.served⟩
  | close => exact ⟨ordered.newest, ordered.held, ordered.served⟩
  | dial => exact ⟨ordered.newest, nofun, nofun⟩
  | call fires admits takes => exact ordered.called kept wired agreed fires takes
  | @server s news dial step trace greets =>
    constructor
    · intro σ older same
      have listed : σ ∈ w.sessions := same ▸ List.mem_cons_self
      exact (ordered.newest σ older same).trans
        (earlier_step step (since_step step (inside_of_session kept listed)))
    · intro accepted r holds
      change dial = .accepted at accepted
      subst accepted
      exact ordered.held_step kept wired agreed step trace greets holds
    · intro k served
      change dial = .served k at served
      subst served
      exact ordered.served_step kept step trace greets

theorem kept_reachable (codec : Codec Command E)
    (reached : Reachable config retry faults url kind w) :
    Kept config retry faults url kind w ∧ Wired w ∧ (Agreed codec w → Ordered codec w) := by
  obtain ⟨first, spawned, run⟩ := reached
  induction run with
  | refl => exact ⟨kept_started spawned, ⟨nofun, nofun⟩, fun _ => ⟨nofun, nofun, nofun⟩⟩
  | tail _ last ih =>
    obtain ⟨kept, wired, ordered⟩ := ih
    obtain ⟨step, wired'⟩ := last
    refine ⟨kept_step kept step, wired', fun agreed => ?_⟩
    have before := agreed_before step agreed
    exact ordered_step (ordered before) kept wired before step

def sendOf : ManagedWsCommand E.Subscription → Option Bytes
  | .send payload => some payload
  | _ => none

/-- The payloads of the `Send` commands. -/
def sends (commands : List (ManagedWsCommand E.Subscription)) : List Bytes :=
  commands.filterMap sendOf

theorem payloads_eq (t : List (ManagedEvent E)) : payloads t = sends (handedOver t) := by
  rw [payloads, sends, handedOver, List.filterMap_filterMap]
  refine congrArg (t.filterMap ·) (funext fun e => ?_)
  obtain ⟨⟨l, op⟩, time, val⟩ := e
  cases op with
  | enterApply command => cases command <;> rfl
  | _ => rfl

theorem applied_in_order {t : List (ManagedEvent E)} {q : HookedLoop.Task E} {mode : WsSessionMode}
    (run : Run (managedLoop url kind) t q) (constant : ConstantMode mode t) :
    (handedOver t).Sublist (cmdRx.taken t) := by
  rw [managedLoop_eq] at run
  have start : CommandOrder.Parked mode (Locals.initial : Locals E) ⟨[], []⟩ :=
    ⟨List.Sublist.refl [], fun _ => rfl⟩
  have relied : (ordering mode).Along (ordering mode).rely ⟨[], []⟩ t := by
    refine (ordering mode).along_iff.mpr fun before e after cut => constant e ?_
    rw [cut]
    exact List.mem_append_right before List.mem_cons_self
  exact CommandOrder.applied_of_safe ((CommandOrder.order_outline url kind mode).run start run
    relied).1

/-- The frames that one handler of the server was given, from one connection of the client. -/
theorem handed_session (kept : Kept config retry faults url kind w) (wired : Wired w)
    (reserved : ∀ e ∈ w.trace, Reserved e) {σ : Session E} (listed : σ ∈ w.sessions) :
    (w.handed σ.peer).Sublist ((payloads σ.calls).map intoWsMessage) := by
  rw [World.handed]
  cases found : w.peerOf σ.peer with
  | none => exact List.nil_sublist _
  | some c =>
    obtain ⟨k, -, here⟩ := Option.bind_eq_some_iff.mp found
    have server := ((fanout_reachable kept.server).links k c here).run
    have part := handed_part server ((wired.up σ listed c found).trans (kept.written σ listed))
    rw [dataFrames_asked fun e mem => reserved e (calls_of_session kept listed e mem)] at part
    exact part.sublist

/-- Over all connections. -/
theorem handed_all (kept : Kept config retry faults url kind w) (wired : Wired w)
    {mode : WsSessionMode} (constant : ConstantMode mode w.trace)
    (reserved : ∀ e ∈ w.trace, Reserved e) :
    (w.sessions.reverse.flatMap fun σ => w.handed σ.peer).Sublist
      ((sends w.sent).map intoWsMessage) := by
  have each := List.Sublist.flatMap_right w.sessions.reverse fun σ listed =>
    handed_session kept wired reserved (List.mem_reverse.mp listed)
  have calls : (w.sessions.reverse.flatMap fun σ => (payloads σ.calls).map intoWsMessage) =
      (payloads (history w.sessions)).map intoWsMessage := by
    rw [payloads, history, List.filterMap_flatMap, List.map_flatMap]
    rfl
  have sent : (payloads (history w.sessions)).Sublist (sends w.sent) := by
    refine (kept.calls.filterMap payloadOf).trans ?_
    change (payloads w.trace).Sublist (sends w.sent)
    rw [payloads_eq, kept.channel]
    refine ((applied_in_order kept.client constant).filterMap sendOf).trans ?_
    exact (List.sublist_append_left _ _).filterMap sendOf
  rw [calls] at each
  exact each.trans (sent.map intoWsMessage)

/-- What one client and its server exchange, over all connections of the client. -/
structure Exchanged (codec : Codec Command E) (w : World E Command) : Prop where
  down : Agreed codec w →
    (received w.sessions).Sublist (w.server.dispatched.map codec.message)
  up : ∀ mode, ConstantMode mode w.trace → (∀ e ∈ w.trace, Reserved e) →
    (w.sessions.reverse.flatMap fun σ => w.handed σ.peer).Sublist
      ((sends w.sent).map intoWsMessage)
  -- no task of the server serves two connections of the client
  apart : (w.sessions.filterMap Session.peer).Nodup

theorem exchange_in_order (codec : Codec Command E)
    (reached : Reachable config retry faults url kind w) : Exchanged codec w := by
  obtain ⟨kept, wired, ordered⟩ := kept_reachable codec reached
  constructor
  · exact fun agreed => (ordered agreed).all kept wired agreed
  · exact fun mode constant reserved => handed_all kept wired constant reserved
  · exact kept.apart

theorem wired_bare (none : w.sessions = []) : Wired w := by
  constructor
  · rw [none]
    exact List.forall_mem_nil _
  · rw [none]
    exact List.forall_mem_nil _

theorem step_news {s s' : System Command} (step : ServerSystem.Step config retry faults s s') :
    s'.trace = s.trace ++ [] ∨ ∃ e, s'.trace = s.trace ++ [e] := by
  cases step with
  | server fires serves => exact Or.inr ⟨_, rfl⟩
  | caller here fires grants => cases grants <;> exact Or.inl (List.append_nil _).symm
  | _ => exact Or.inl (List.append_nil _).symm

theorem connection_run {s s' : System Command}
    (run : Relation.ReflTransGen (ServerSystem.Step config retry faults) s s') {k : Nat}
    {c : Connection Command} (here : s.connections[k]? = some c) :
    ∃ c', s'.connections[k]? = some c' ∧ c.trace <+: c'.trace := by
  induction run with
  | refl => exact ⟨c, here, List.prefix_rfl⟩
  | tail _ step ih =>
    obtain ⟨c', there, longer⟩ := ih
    have moves := moves_step step k
    rw [there] at moves
    obtain ⟨c'', later⟩ := moves_some moves
    rw [later] at moves
    exact ⟨c'', later, longer.trans (moves_keep moves).2⟩

/-- No task has read a frame. -/
def Mute (s : System Command) : Prop := ∀ c ∈ s.connections, arrivals c.trace = []

theorem Mute.before {s s' : System Command} (mute : Mute s')
    (run : Relation.ReflTransGen (ServerSystem.Step config retry faults) s s') : Mute s := by
  intro c listed
  obtain ⟨k, here⟩ := List.getElem?_of_mem listed
  obtain ⟨c', there, longer⟩ := connection_run run here
  have none := longer.filterMap Uplink.arrivalOf
  change arrivals c.trace <+: arrivals c'.trace at none
  rw [mute c' (List.mem_of_getElem? there)] at none
  exact List.prefix_nil.mp none

theorem Mute.up (mute : Mute w.server) {peer : Option Nat} {c : Connection Command}
    (found : w.peerOf peer = some c) {frames : List WsFrame} : arrivals c.trace <+: frames := by
  obtain ⟨k, -, here⟩ := Option.bind_eq_some_iff.mp found
  rw [mute c (List.mem_of_getElem? here)]
  exact List.nil_prefix

theorem Wired.grown {s : System Command} (wired : Wired w)
    (grown : ∀ {k : Nat} {c : Connection Command}, w.server.connections[k]? = some c →
      ∃ c', s.connections[k]? = some c' ∧ c.trace <+: c'.trace)
    (mute : Mute s) (dial : Dial) : Wired { w with server := s, dial := dial } := by
  constructor
  · intro σ listed
    refine (wired.down σ listed).trans ?_
    rw [World.outbound, World.outbound]
    cases found : w.peerOf σ.peer with
    | none => exact List.nil_prefix
    | some c =>
      obtain ⟨k, peer, here⟩ := Option.bind_eq_some_iff.mp found
      obtain ⟨c', there, longer⟩ := grown here
      have later : { w with server := s, dial := dial }.peerOf σ.peer = some c' := by
        rw [peer]
        exact there
      rw [later]
      exact longer.filterMap ConnectionWire.writeOf
  · exact fun σ _ c found => Mute.up (w := { w with server := s, dial := dial }) mute found

variable (url kind) in
/-- The server may go on while no socket of the client is on its way to a task. -/
theorem server_stretch {s : System Command} (steady : w.dial ≠ .accepted) (wired : Wired w)
    (mute : Mute s)
    (run : Relation.ReflTransGen (ServerSystem.Step config retry faults) w.server s) :
    Relation.ReflTransGen (fun v v' => Step config retry faults url kind v v' ∧ Wired v') w
      { w with server := s } := by
  induction run with
  | refl => exact .refl
  | @tail middle last before step ih =>
    refine (ih (mute.before (.single step))).tail
      ⟨?_, wired.grown (connection_run (before.tail step)) mute w.dial⟩
    rcases step_news step with trace | ⟨e, trace⟩
    · exact .server (w := { w with server := middle }) step trace (.unseen w.dial)
    · have unchanged : w.dial.after middle.connections.length e = w.dial := by
        cases dial : w.dial with
        | accepted => exact absurd dial steady
        | _ => rfl
      have greets := Greets.other (k := middle.connections.length) e w.dial
      rw [unchanged] at greets
      exact .server (w := { w with server := middle }) step trace greets

/-- The client may go on as long as what it reads was written. -/
theorem client_stretch {s : System Command} (mute : Mute s) {t calls trace : List (ManagedEvent E)}
    {p q : HookedLoop.Task E} (run : Reaches (Proc.turn (managedLoop url kind)) p t q)
    (quiet : ∀ e ∈ t, cmdRx.takes e = none ∧ ¬ Connects e) {peer : Option Nat}
    {older : List (Session E)} {channel : Channel (ManagedWsCommand E.Subscription)}
    {sent : List (ManagedWsCommand E.Subscription)} {dial : Dial}
    (wired : Wired (⟨s, ⟨p, channel⟩, sent, trace, dial, ⟨peer, calls⟩ :: older⟩ :
      World E Command))
    (written : reads (calls ++ t) <+:
      (⟨s, ⟨p, channel⟩, sent, trace, dial, ⟨peer, calls⟩ :: older⟩ :
        World E Command).outbound peer) :
    Relation.ReflTransGen (fun v v' => Step config retry faults url kind v v' ∧ Wired v')
      (⟨s, ⟨p, channel⟩, sent, trace, dial, ⟨peer, calls⟩ :: older⟩ : World E Command)
      ⟨s, ⟨q, channel⟩, sent, trace ++ t, dial, ⟨peer, calls ++ t⟩ :: older⟩ := by
  induction run generalizing calls trace with
  | here => rw [List.append_nil, List.append_nil]
  | @step p q r e t first rest ih =>
    obtain ⟨idle, stays⟩ := quiet e List.mem_cons_self
    have call : Step config retry faults url kind
        (⟨s, ⟨p, channel⟩, sent, trace, dial, ⟨peer, calls⟩ :: older⟩ : World E Command) _ :=
      .call first (.of_idle idle channel) (.other dial stays)
    rw [Inlet.left_idle idle] at call
    rw [List.append_cons calls e t] at written ⊢
    rw [List.append_cons trace e t]
    have part : reads (calls ++ [e]) <+: reads (calls ++ [e] ++ t) :=
      (List.prefix_append (calls ++ [e]) t).filterMap _
    have wired' : Wired (⟨s, ⟨q, channel⟩, sent, trace ++ [e], dial,
        ⟨peer, calls ++ [e]⟩ :: older⟩ : World E Command) := by
      constructor
      · refine List.forall_mem_cons.mpr ⟨part.trans written, fun σ listed => ?_⟩
        exact wired.down σ (List.mem_cons_of_mem _ listed)
      · exact fun σ _ c found => Mute.up (w := ⟨s, ⟨q, channel⟩, sent, trace ++ [e], dial,
          ⟨peer, calls ++ [e]⟩ :: older⟩) mute found
    have later := fun d mem => quiet d (List.mem_cons_of_mem e mem)
    exact .head ⟨call, wired'⟩ (ih later wired' written)

/-- A socket is let in and given to a task of its own. -/
def letIn (s : System Command) (localAddr peerAddr : SocketAddr) (accepted : UInt64)
    (vars : ServerVars) (trace : List ServerEvent) : System Command where
  shared := { s.shared with
    commands := s.shared.commands.subscribe.2
    active := s.shared.active + 1
    nextConnectionId := s.shared.nextConnectionId + 1 }
  dispatched := s.dispatched
  task := .ret (.inl (.accepting localAddr (accepted + 1), vars))
  trace := trace
  connections := s.connections ++ [⟨⟨s.shared.nextConnectionId, peerAddr, localAddr⟩,
    ⟨s.shared.commands.subscribe.1, s.dispatched.length⟩, .ret (.inl .accepted), [], .running,
    false⟩]
  callers := s.callers

variable (retry url kind) in
theorem client_admitted {localAddr : SocketAddr} {accepted : UInt64} {vars : ServerVars}
    (begun : w.dial = .begun) (wired : Wired w) (mute : Mute w.server)
    (accepting : w.server.task = .ret (.inl (.accepting localAddr accepted, vars)))
    (quiet : w.server.shared.shutdown = false)
    (room : w.server.shared.active < config.maxConnections) (peerAddr : SocketAddr) :
    ∃ events, Relation.ReflTransGen
      (fun v v' => Step config retry ⟨none⟩ url kind v v' ∧ Wired v') w
      { w with
        server := letIn w.server localAddr peerAddr accepted vars events
        dial := .served w.server.connections.length } := by
  obtain ⟨s, client, sent, trace, dial, sessions⟩ := w
  subst begun
  have last : ∀ events, Wired (⟨letIn s localAddr peerAddr accepted vars events, client, sent,
      trace, .served s.connections.length, sessions⟩ : World E Command) := by
    intro events
    refine Wired.grown wired ?_ ?_ _
    · intro k c here
      obtain ⟨inside, -⟩ := List.getElem?_eq_some_iff.mp here
      exact ⟨c, (List.getElem?_append_left inside).trans here, List.prefix_rfl⟩
    · intro c listed
      rcases List.mem_append.mp listed with old | new
      · exact mute c old
      · rw [List.mem_singleton.mp new]
        rfl
  obtain ⟨shared, dispatched, task, events, connections, callers⟩ := s
  subst accepting
  have same : ∀ v : World E Command, v.server.connections = connections → v.sessions = sessions →
      Wired v := by
    rintro v rfl rfl
    exact ⟨wired.down, wired.up⟩
  exact ⟨_, .head ⟨.server (.server (.head (.call _ _ _))
      (.acceptIncoming vars quiet (.ok peerAddr))) rfl (.accept _ _), same _ rfl rfl⟩ <|
    .head ⟨.server (.server (.call _ _ _) (.acquired _ room)) rfl (.other _ _), same _ rfl rfl⟩ <|
    .head ⟨.server (.server (.call _ _ _) (.nextConnectionId _)) rfl (.other _ _),
      same _ rfl rfl⟩ <|
    .head ⟨.server (.server (.call _ _ _) (.subscribe _)) rfl (.other _ _), same _ rfl rfl⟩ <|
    .head ⟨.server (.server (.call _ _ _) (.spawn _ _ _)) rfl (.other _ _),
      last _⟩ .refl⟩

theorem wired_run (wired : Wired w)
    (run : Relation.ReflTransGen (fun v v' => Step config retry faults url kind v v' ∧ Wired v')
      w w') : Wired w' := by
  cases run with
  | refl => exact wired
  | tail _ last => exact last.2

end Kept

section Visits
variable {config : WsServerConfig} {retry : WsServerRetryPolicy} {faults : ServerFaults}
variable {s : System Command}

/-- The connection that `letIn` adds, greeted. -/
def welcomed (config : WsServerConfig) (s : System Command) (localAddr peerAddr : SocketAddr) :
    Connection Command :=
  ⟨⟨s.shared.nextConnectionId, peerAddr, localAddr⟩,
    ⟨s.shared.commands.subscribe.1, s.dispatched.length⟩, .ret (.inl .serving),
    greeting config ⟨s.shared.nextConnectionId, peerAddr, localAddr⟩, .running, false⟩

/-- The server after `letIn`, with its new client told a command. -/
def toldIn (config : WsServerConfig) (s : System Command) (localAddr peerAddr : SocketAddr)
    (accepted : UInt64) (vars : ServerVars) (trace : List ServerEvent) (command : Command)
    (frame : WsFrame) (callers : List (Caller Command)) : System Command :=
  { afterDispatch (letIn s localAddr peerAddr accepted vars trace) [command] callers with
    connections :=
      s.connections ++ [toldOf (welcomed config s localAddr peerAddr) command frame] }

/-- A server that waits for a client. -/
structure Vacant (config : WsServerConfig) (s : System Command) (localAddr : SocketAddr)
    (accepted : UInt64) (vars : ServerVars) : Prop where
  accepting : s.task = .ret (.inl (.accepting localAddr accepted, vars))
  quiet : s.shared.shutdown = false
  healthy : s.shared.terminal = none
  listening : s.shared.status = .listening
  alone : s.shared.commands.receivers = 0
  ring : 0 < s.shared.commands.capacity
  slot : s.shared.active < config.maxConnections

section Newcomer
variable {localAddr : SocketAddr} {accepted : UInt64} {vars : ServerVars}
variable (vacant : Vacant config s localAddr accepted vars) (peerAddr : SocketAddr)
include vacant

variable (retry faults) in
/-- Its next client is welcomed and told a command. -/
theorem newcomer_told (trace : List ServerEvent) (command : Command) (frame : WsFrame) :
    ∃ callers, Relation.ReflTransGen (ServerSystem.Step config retry faults)
      (letIn s localAddr peerAddr accepted vars trace)
      (toldIn config s localAddr peerAddr accepted vars trace command frame callers) := by
  have attends : Attends { letIn s localAddr peerAddr accepted vars trace with
      connections := s.connections ++ [welcomed config s localAddr peerAddr] } s.connections
      (welcomed config s localAddr peerAddr) :=
    ⟨rfl, rfl, rfl, vacant.quiet, vacant.healthy, vacant.listening,
      congrArg (· + 1) vacant.alone, rfl, vacant.ring⟩
  obtain ⟨callers, told, -⟩ := @Attends.told _ config retry faults _ _ _ attends command frame
  exact ⟨callers, (newest_served s.connections rfl).trans told⟩

variable (retry) in
/-- A client that is about to connect is let in, reads a command, and goes on. -/
theorem newcomer_visits {url : String} {kind : LoopKind} (mute : Mute s) (command : Command)
    (frame : WsFrame) {p p' q : HookedLoop.Task E} {l : Locals E} {target : String}
    {buffers : WebSocketBufferConfig} {time : Instant} {t trace : List (ManagedEvent E)}
    {channel : Channel (ManagedWsCommand E.Subscription)}
    {sent : List (ManagedWsCommand E.Subscription)} {sessions : List (Session E)}
    (here : AtConnect p)
    (connects : Fires (Proc.turn (managedLoop url kind)) p
      (event l (.connect target buffers) time (.ok ())) p')
    (run : Reaches (Proc.turn (managedLoop url kind)) p' t q)
    (calls : ∀ e ∈ t, cmdRx.takes e = none ∧ ¬ Connects e) (reading : reads t = [frame])
    (wired : Wired (⟨s, ⟨p, channel⟩, sent, trace, .idle, sessions⟩ : World E Command)) :
    ∃ events callers, Relation.ReflTransGen
      (fun v v' => Step config retry ⟨none⟩ url kind v v' ∧ Wired v')
      (⟨s, ⟨p, channel⟩, sent, trace, .idle, sessions⟩ : World E Command)
      ⟨toldIn config s localAddr peerAddr accepted vars events command frame callers,
        ⟨q, channel⟩, sent, trace ++ [event l (.connect target buffers) time (.ok ())] ++ t,
        .idle, ⟨some s.connections.length, t⟩ :: sessions⟩ := by
  have begun : Wired (⟨s, ⟨p, channel⟩, sent, trace, .begun, sessions⟩ : World E Command) :=
    ⟨wired.down, wired.up⟩
  obtain ⟨events, admitted⟩ := client_admitted retry url kind rfl begun mute vacant.accepting
    vacant.quiet vacant.slot peerAddr
  obtain ⟨callers, told⟩ := newcomer_told retry ⟨none⟩ vacant peerAddr events command frame
  let after := toldIn config s localAddr peerAddr accepted vars events command frame callers
  have mute' : Mute after := by
    intro c listed
    rcases List.mem_append.mp listed with old | new
    · exact mute c old
    · rw [List.mem_singleton.mp new]
      rfl
  have served := wired_run begun admitted
  have heard := server_stretch url kind (by rintro ⟨⟩) served mute' told
  have later := wired_run served heard
  let linked : World E Command :=
    ⟨after, ⟨p', channel⟩, sent, trace ++ [event l (.connect target buffers) time (.ok ())],
      .idle, ⟨some s.connections.length, []⟩ :: sessions⟩
  have opened : Wired linked :=
    ⟨List.forall_mem_cons.mpr ⟨List.nil_prefix, later.down⟩,
      fun σ _ c found => Mute.up (w := linked) mute' found⟩
  have written : [frame] <+: linked.outbound (some s.connections.length) := by
    change [frame] <+: (((s.connections ++ [_])[s.connections.length]?).map _).getD []
    rw [List.getElem?_concat_length]
    exact List.prefix_rfl
  rw [← reading] at written
  exact ⟨events, callers, .head ⟨.dial rfl here, begun⟩ <| admitted.trans <| heard.trans <|
    .head ⟨.call connects (.of_idle rfl channel) (.connected _ _ _ _ _), opened⟩
      (client_stretch mute' run calls opened written)⟩

end Newcomer

/-- The client has gone, and its task with it. -/
def leftOf (c : Connection Command) : Connection Command :=
  { c with
    task := .ret (.inr ())
    trace := c.trace ++ [⟨.select, .incoming none⟩] ++
      [⟨.onEvent (.closed .clientClosed), .ok .none⟩] ++ [⟨.close, .ok ()⟩]
    fate := .returned }

def leftIn (s : System Command) (earlier : List (Connection Command)) (c : Connection Command) :
    System Command :=
  { s with
    shared := { s.shared with
      active := s.shared.active - 1
      commands := s.shared.commands.leave }
    connections := earlier ++ [leftOf c] }

theorem newest_leaves {earlier : List (Connection Command)} {c : Connection Command}
    (newest : s.connections = earlier ++ [c]) (serving : c.task = .ret (.inl .serving))
    (live : c.fate = .running) (quiet : s.shared.shutdown = false) :
    Relation.ReflTransGen (ServerSystem.Step config retry faults) s (leftIn s earlier c) := by
  obtain ⟨shared, dispatched, task, trace, connections, callers⟩ := s
  obtain ⟨ctx, receiver, task', trace', fate, joined⟩ := c
  subst newest serving live
  have gone : ∀ c : Connection Command, (earlier ++ [c])[earlier.length]? = some c :=
    fun c => List.getElem?_concat_length
  have replaced : ∀ c d : Connection Command, (earlier ++ [c]).set earlier.length d =
      earlier ++ [d] := by simp
  refine .head (step_newest rfl rfl (.head (.call _ _ _)) (.incoming quiet none)) <|
    .head (step_newest rfl rfl (.call _ _ _)
      (@Hears.other _ _ _ (.onEvent _) nofun (.ok .none))) <|
    .head (step_newest rfl rfl (.call _ _ _) (@Hears.other _ _ _ .close nofun (.ok ()))) <|
    .head (.finish (gone _) rfl rfl) ?_
  rw [System.release, replaced]
  exact .refl

end Visits

def retryVars : ServerVars := ⟨WsServerRetryPolicy.default.initialBackoff, 0, .accept⟩

/-- `solo` listens, and no client has come yet. -/
def listening (events : List ServerEvent) : System Nat :=
  { start solo .default with
    shared := { (start solo .default : System Nat).shared with
      statuses := [.starting, .listening] }
    task := .ret (.inl (.accepting (.v4 0 80) 0, retryVars))
    trace := events }

theorem listening_reached :
    ∃ events, Relation.ReflTransGen (ServerSystem.Step solo .default ⟨none⟩)
      (start solo .default) (listening events) :=
  ⟨_, .head (.server (.head (.call _ _ _)) (.readShutdown _)) <|
    .head (.server (.call _ _ _) (.bindListener _ _ _ (.ok ()))) <|
    .head (.server (.call _ _ _) (.readTerminal _)) <|
    .head (.server (.call _ _ _) (.publish _ _)) <|
    .head (.server (.call _ _ _) (.localAddr _ (.ok (.v4 0 80)))) .refl⟩

/-- The byte 7 comes over the first connection, the byte 8 over the second. -/
def twoVisits : Nat → Option (Except WebSocketError WsFrame)
  | 10 => some (.ok (.binary ⟨#[7]⟩))
  | 32 => some (.ok (.binary ⟨#[8]⟩))
  | _ => none

/-- The first `n` calls of the client. -/
def visiting (n : Nat) : List (ManagedEvent bareEndpoint) × HookedLoop.Task bareEndpoint :=
  trial (managedLoop "ws://server" .plain) (EndToEnd.listener twoVisits) n

/-- The `n` calls from place `i` on. -/
def visit (n i : Nat) : List (ManagedEvent bareEndpoint) × HookedLoop.Task bareEndpoint :=
  play (Proc.turn (managedLoop "ws://server" .plain))
    (fun j op => ⟨j, EndToEnd.listener twoVisits j op.2⟩) n i (visiting i).2

theorem visit_quiet : ∀ e ∈ (visit 21 2).1 ++ (visit 12 24).1,
    cmdRx.takes e = none ∧ ¬ Connects e := by
  decide

def byteFrame (command : Nat) : WsFrame := .binary ⟨#[command.toUInt8]⟩

/-- The first client of `solo`, told the command 7. -/
def firstClient (events : List ServerEvent) : Connection Nat :=
  toldOf (welcomed solo (listening events) (.v4 0 80) (.v4 1 5000)) 7 (byteFrame 7)

def afterFirst (events trace : List ServerEvent) (callers : List (Caller Nat)) : System Nat :=
  leftIn (toldIn solo (listening events) (.v4 0 80) (.v4 1 5000) 0 retryVars trace 7 (byteFrame 7)
    callers) [] (firstClient events)

theorem afterFirst_vacant (events trace : List ServerEvent) (callers : List (Caller Nat)) :
    Vacant solo (afterFirst events trace callers) (.v4 0 80) 1 retryVars := by
  have slot : (0 : UInt64) + 1 - 1 < solo.maxConnections := by decide
  exact ⟨rfl, rfl, rfl, rfl, rfl, Nat.two_pow_pos _, slot⟩

theorem afterFirst_mute (events trace : List ServerEvent) (callers : List (Caller Nat)) :
    Mute (afterFirst events trace callers) := by
  intro c listed
  rw [List.mem_singleton.mp listed]
  rfl

/-- The client comes, is told 7, and leaves; the server then waits for the next. -/
theorem first_visit :
    ∃ events trace callers, Relation.ReflTransGen
      (fun v v' => Step solo .default ⟨none⟩ "ws://server" .plain v v' ∧ Wired v')
      (started (start solo .default) : World bareEndpoint Nat)
      ⟨afterFirst events trace callers, ⟨(visiting 23).2, ⟨[], false⟩⟩, [], (visiting 23).1, .idle,
        [⟨some 0, (visit 21 2).1⟩]⟩ := by
  obtain ⟨events, bound⟩ := listening_reached
  have bare : ∀ s, Wired (⟨s, ⟨(visiting 1).2, ⟨[], false⟩⟩, [], (visiting 1).1, .idle, []⟩ :
      World bareEndpoint Nat) := fun s => wired_bare rfl
  have empty : Mute (listening events) := List.forall_mem_nil _
  have ready := server_stretch "ws://server" .plain (by rintro ⟨⟩) (bare _) empty bound
  have slot : 0 < solo.maxConnections := by decide
  have vacant : Vacant solo (listening events) (.v4 0 80) 0 retryVars :=
    ⟨rfl, rfl, rfl, rfl, rfl, Nat.two_pow_pos _, slot⟩
  have connects : Fires (Proc.turn (managedLoop "ws://server" .plain)) (visiting 1).2
    (event _ (.connect _ _) 1 (.ok ())) (visiting 2).2 := .call _ _ _
  obtain ⟨trace, callers, told⟩ := newcomer_visits .default vacant (.v4 1 5000) empty 7
    (byteFrame 7) ⟨_, _, _, _, rfl⟩ connects (play_reaches _ 21 2 _)
    (fun e listed => visit_quiet e (List.mem_append_left _ listed)) rfl (bare _)
  have leaves : Relation.ReflTransGen (ServerSystem.Step solo .default ⟨none⟩) _
    (afterFirst events trace callers) := newest_leaves rfl rfl rfl rfl
  have left := server_stretch "ws://server" .plain (by rintro ⟨⟩) (wired_run (bare _) told)
    (afterFirst_mute events trace callers) leaves
  exact ⟨events, trace, callers,
    .head ⟨.call (.head (.call _ _ _)) (.of_idle rfl _) (.other _ id), bare _⟩
      (ready.trans (told.trans left))⟩

theorem visits_reached :
    ∃ w : World bareEndpoint Nat, Reachable solo .default ⟨none⟩ "ws://server" .plain w ∧
      w.trace = (visiting 36).1 ∧
      w.sessions = [⟨some 1, (visit 12 24).1⟩, ⟨some 0, (visit 21 2).1⟩] ∧
      w.server.dispatched = [7, 8] ∧
      ∀ c ∈ w.server.connections, ∀ e ∈ c.trace, Relays EndToEnd.byteCodec.act e := by
  obtain ⟨events, trace, callers, first⟩ := first_visit
  have connects : Fires (Proc.turn (managedLoop "ws://server" .plain)) (visiting 23).2
    (event _ (.connect _ _) 23 (.ok ())) (visiting 24).2 := .call _ _ _
  obtain ⟨_, _, second⟩ := newcomer_visits .default (afterFirst_vacant events trace callers)
    (.v4 1 5001) (afterFirst_mute events trace callers) 8 (byteFrame 8) ⟨_, _, _, _, rfl⟩ connects
    (play_reaches _ 12 24 _) (fun e listed => visit_quiet e (List.mem_append_right _ listed)) rfl
    (wired_run (wired_bare rfl) first)
  refine ⟨_, ⟨_, rfl, first.trans second⟩, rfl, rfl, rfl, ?_⟩
  have relayed : List.Forall (Relays EndToEnd.byteCodec.act) (leftOf (firstClient events)).trace :=
    ⟨trivial, trivial, trivial, rfl, trivial, rfl, trivial, trivial, trivial, trivial⟩
  refine List.forall_mem_cons.mpr ⟨List.forall_iff_forall_mem.mp relayed,
    List.forall_mem_singleton.mpr (List.forall_iff_forall_mem.mp ?_)⟩
  exact ⟨trivial, trivial, trivial, rfl, trivial, rfl, trivial⟩

theorem commands_exchanged :
    ∃ w : World bareEndpoint Nat, w.sessions.length = 2 ∧
      received w.sessions = [(7 : Nat), (8 : Nat)] ∧ w.server.dispatched = [7, 8] ∧
      Agreed EndToEnd.byteCodec w ∧ Exchanged EndToEnd.byteCodec w := by
  obtain ⟨w, reached, trace, sessions, dispatched, relays⟩ := visits_reached
  have two : w.sessions.length = 2 := by rw [sessions]; rfl
  have got : received w.sessions = [(7 : Nat), (8 : Nat)] := by
    rw [sessions]
    rfl
  refine ⟨w, two, got, dispatched, ⟨?_, ?_⟩, exchange_in_order EndToEnd.byteCodec reached⟩
  · rw [trace]
    exact EndToEnd.listener_understands _ twoVisits 36
  · intro σ _ c found
    obtain ⟨k, -, here⟩ := Option.bind_eq_some_iff.mp found
    exact relays c (List.mem_of_getElem? here)

end WholeSystem
