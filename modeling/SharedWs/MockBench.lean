import Mathlib.Logic.Relation
import SharedWs.OutboundRouting
import SharedWs.UnboundedChannels

/-!
# A managed loop on the test bench

`testing.rs` has a transport for tests: each `connect` makes a pair of channels, of which the loop
gets one end of each and the test the others. The test accepts connections, receives what was
written, pushes frames and drops its ends whenever it likes. Whatever it does, each connection is
faithful: the test receives what the loop wrote to it, in order and without a gap, the loop reads
what the test pushed, and it sees the end of the stream only after the last frame.
-/
namespace MockBench

open InteractionPrograms InteractionMonitors WsFrames WsTypes ManagedOps ManagedLoop HookedLoop
open UnboundedChannels
open DisconnectCauses (blameOf after_reason permitted_run reasonOf)
open FrameRouting (reads readOf sinceConnect sinceConnect_snoc sinceConnect_eq settled_of_fits
  hand_run)
open OutboundRouting (asked sent_of_fits outbox_run)

inductive MockServerError where
  | socketDropped
  | channelClosed
  deriving DecidableEq

/-- A `ReconnectableMockConnection` with the reader and the writer on its other side. The logs are
the calls of the loop from the `connect` on, and what the test has received and pushed. -/
structure Link (E : Endpoint) where
  connId : UInt64
  accepted : Bool
  outbound : Channel WsFrame
  inbound : Channel WsFrame
  calls : List (ManagedEvent E)
  received : List WsFrame
  pushed : List WsFrame

namespace Link
variable {E : Endpoint}

def fresh (connId : UInt64) : Link E := ⟨connId, false, .fresh, .fresh, [], [], []⟩

/-- `MockWriter::start_send`. -/
def startSend (link : Link E) (frame : WsFrame) : Except WebSocketError Unit × Link E :=
  match link.outbound.send frame with
  | some outbound => (.ok (), { link with outbound := outbound })
  | none =>
    (.error (.transportError "mock_transport_write" "mock outbound channel closed"), link)

/-- `MockReader::poll_next`. -/
def pollNext (link : Link E) : Option (Option (Except WebSocketError WsFrame) × Link E) :=
  match link.inbound.recv with
  | some (item, inbound) => some (item.map .ok, { link with inbound := inbound })
  | none => none

def recvOutbound (link : Link E) : Option (Option WsFrame × Link E) :=
  match link.outbound.recv with
  | some (item, outbound) =>
    some (item, { link with outbound := outbound, received := link.received ++ item.toList })
  | none => none

def sendInbound (link : Link E) (frame : WsFrame) : Except MockServerError Unit × Link E :=
  if link.inbound.sender then
    match link.inbound.send frame with
    | some inbound => (.ok (), { link with inbound := inbound, pushed := link.pushed ++ [frame] })
    | none => (.error .channelClosed, link)
  else (.error .socketDropped, link)

def dropSocket (link : Link E) : Link E := { link with inbound := link.inbound.dropSender }

/-- The test lets go of the whole connection. -/
def dropConnection (link : Link E) : Link E :=
  { link.dropSocket with outbound := link.outbound.dropReceiver }

/-- The loop lets go of the reader and the writer. -/
def abandon (link : Link E) : Link E :=
  { link with inbound := link.inbound.dropReceiver, outbound := link.outbound.dropSender }

def log (link : Link E) (e : ManagedEvent E) : Link E := { link with calls := link.calls ++ [e] }

end Link

/-- The transport with its connections, the newest first, and a loop. -/
structure Bench (E : Endpoint) where
  /-- An `AtomicUsize`, of 64 bits. -/
  connSeq : UInt64
  serverAlive : Bool
  links : List (Link E)
  task : HookedLoop.Task E
  trace : List (ManagedEvent E)

section Bench
variable {E : Endpoint}

/-- `ReconnectableMockTransport::connect`. The number wraps, like `fetch_add`; with overflow checks
the attempt that would get zero panics instead. -/
def Bench.connect (b : Bench E) : Except WebSocketError Unit × Bench E :=
  let connId := b.connSeq + 1
  if b.serverAlive then
    (.ok (), { b with connSeq := connId, links := .fresh connId :: b.links })
  else
    (.error (.invalidState "reconnectable mock server receiver dropped"),
      { b with connSeq := connId })

/-- The newest connection keeps the call in its log. -/
def Bench.log (b : Bench E) (e : ManagedEvent E) : Bench E :=
  { b with links := match b.links with
    | [] => []
    | newest :: older => newest.log e :: older }

/-- The item of the stream that one call reads. -/
def itemOf : ManagedEvent E → Option (Option (Except WebSocketError WsFrame))
  | ⟨(_, .select), ⟨_, .frame item⟩⟩ => some item
  | ⟨(_, .selectWithPing), ⟨_, some (.frame item)⟩⟩ => some item
  | _ => none

/-- Calls that the transport has no part in. -/
def Apart (e : ManagedEvent E) : Prop :=
  match e.op.2 with
  | .connect _ _ | .write _ _ => False
  | _ => itemOf e = none

/-- How the transport answers the loop, which uses its newest connection. -/
inductive Serves (b : Bench E) : ManagedEvent E → Bench E → Prop
  | connect (l : Locals E) (url : String) (buffers : WebSocketBufferConfig) (time : Instant) :
      Serves b (event l (.connect url buffers) time b.connect.1) b.connect.2
  | write {newest : Link E} {older : List (Link E)} (links : b.links = newest :: older)
      (held : newest.outbound.sender = true) (l : Locals E) (site : WriteSite) (frame : WsFrame)
      (time : Instant) :
      Serves b (event l (.write site frame) time (newest.startSend frame).1)
        { b with links := (newest.startSend frame).2 :: older }
  | read {newest next : Link E} {older : List (Link E)} {e : ManagedEvent E}
      {item : Option (Except WebSocketError WsFrame)} (links : b.links = newest :: older)
      (held : newest.inbound.receiver = true) (reads : itemOf e = some item)
      (ready : newest.pollNext = some (item, next)) :
      Serves b e { b with links := next :: older }
  | other {e : ManagedEvent E} (apart : Apart e) : Serves b e b

variable (url : String) (kind : LoopKind)

inductive Step : Bench E → Bench E → Prop
  | loop {b b' : Bench E} {e : ManagedEvent E} {task : HookedLoop.Task E}
      (fires : Fires (Proc.turn (managedLoop url kind)) b.task e task) (serves : Serves b e b') :
      Step b { b'.log e with task := task, trace := b.trace ++ [e] }
  -- `accept_connection` takes the oldest connection that waits
  | accept {b : Bench E} {k : Nat} {link : Link E} (alive : b.serverAlive = true)
      (here : b.links[k]? = some link) (waits : link.accepted = false)
      (oldest : ∀ older ∈ b.links.drop (k + 1), older.accepted = true) :
      Step b { b with links := b.links.set k { link with accepted := true } }
  | recvOutbound {b : Bench E} {k : Nat} {link next : Link E} {item : Option WsFrame}
      (here : b.links[k]? = some link) (accepted : link.accepted = true)
      (got : link.recvOutbound = some (item, next)) :
      Step b { b with links := b.links.set k next }
  | sendInbound {b : Bench E} {k : Nat} {link : Link E} (here : b.links[k]? = some link)
      (accepted : link.accepted = true) (frame : WsFrame) :
      Step b { b with links := b.links.set k (link.sendInbound frame).2 }
  | dropSocket {b : Bench E} {k : Nat} {link : Link E} (here : b.links[k]? = some link)
      (accepted : link.accepted = true) :
      Step b { b with links := b.links.set k link.dropSocket }
  | dropConnection {b : Bench E} {k : Nat} {link : Link E} (here : b.links[k]? = some link)
      (accepted : link.accepted = true) :
      Step b { b with links := b.links.set k link.dropConnection }
  -- connections that were not accepted go with the server
  | dropServer (b : Bench E) :
      Step b { b with
        serverAlive := false
        links := b.links.map fun link => if link.accepted then link else link.dropConnection }
  | abandon {b : Bench E} {k : Nat} {link : Link E} (here : b.links[k]? = some link) :
      Step b { b with links := b.links.set k link.abandon }

/-- `channel_pair`, and a loop that is about to start. -/
def start : Bench E := ⟨0, true, [], .ret (.inl (.connect, Locals.initial)), []⟩

abbrev Reachable (b : Bench E) : Prop := Relation.ReflTransGen (Step url kind) start b

end Bench

section Links
variable {E : Endpoint}

def sentOf : ManagedEvent E → Option WsFrame
  | ⟨(_, .write _ frame), ⟨_, .ok _⟩⟩ => some frame
  | _ => none

/-- The frames that were written with success. -/
def sent (t : List (ManagedEvent E)) : List WsFrame := t.filterMap sentOf

/-- The test sees what the loop wrote, and the loop what the test pushed. -/
structure Faithful (link : Link E) : Prop where
  outbound : Relays link.outbound (sent link.calls) link.received
  inbound : Relays link.inbound link.pushed (reads link.calls)
  -- the end of the stream comes last
  ended : ∀ e ∈ link.calls, itemOf e = some none →
    link.inbound.sender = false ∧ reads link.calls = link.pushed

theorem faithful_fresh (connId : UInt64) : Faithful (Link.fresh connId : Link E) :=
  ⟨relays_fresh, relays_fresh, fun _ mem => absurd mem List.not_mem_nil⟩

theorem sent_snoc (t : List (ManagedEvent E)) (e : ManagedEvent E) :
    sent (t ++ [e]) = sent t ++ (sentOf e).toList := filterMap_snoc sentOf t e

theorem reads_snoc (t : List (ManagedEvent E)) (e : ManagedEvent E) :
    reads (t ++ [e]) = reads t ++ (readOf e).toList := filterMap_snoc readOf t e

/-- The frame of an item of the stream. -/
def frameOf : Option (Except WebSocketError WsFrame) → Option WsFrame
  | some (.ok frame) => some frame
  | _ => none

theorem readOf_eq (e : ManagedEvent E) : readOf e = (itemOf e).bind frameOf := by
  obtain ⟨⟨l, op⟩, time, val⟩ := e
  cases op with
  | select => rcases val with _ | (_ | _ | _) <;> rfl
  | selectWithPing => rcases val with _ | _ | (_ | _ | _) <;> rfl
  | _ => rfl

theorem sentOf_of_item {e : ManagedEvent E} {item : Option (Except WebSocketError WsFrame)}
    (reads : itemOf e = some item) : sentOf e = none := by
  obtain ⟨⟨l, op⟩, time, val⟩ := e
  cases op with
  | write => cases reads
  | _ => rfl

section One
variable {link : Link E} (faithful : Faithful link)
include faithful

/-- A call that reads no item. -/
theorem Faithful.unread {e : ManagedEvent E} (unread : itemOf e = none) {outbound : Channel WsFrame}
    (relays : Relays outbound (sent (link.calls ++ [e])) link.received) :
    Faithful ({ link with outbound := outbound }.log e) := by
  have same : reads (link.calls ++ [e]) = reads link.calls := by
    rw [reads_snoc, readOf_eq, unread]
    exact List.append_nil _
  refine ⟨relays, ?_, ?_⟩
  · change Relays link.inbound link.pushed (reads (link.calls ++ [e]))
    rw [same]
    exact faithful.inbound
  · intro d mem last
    change _ ∧ reads (link.calls ++ [e]) = _
    rw [same]
    rcases List.mem_append.mp mem with mem | mem
    · exact faithful.ended d mem last
    · rw [List.mem_singleton.mp mem, unread] at last
      cases last

theorem Faithful.log {e : ManagedEvent E} (unsent : sentOf e = none) (unread : itemOf e = none) :
    Faithful (link.log e) := by
  refine faithful.unread unread ?_
  rw [sent_snoc, unsent, Option.toList_none, List.append_nil]
  exact faithful.outbound

theorem Faithful.write (l : Locals E) (site : WriteSite) (frame : WsFrame) (time : Instant) :
    Faithful ((link.startSend frame).2.log
      (event l (.write site frame) time (link.startSend frame).1)) := by
  unfold Link.startSend
  cases accepted : link.outbound.send frame with
  | none => exact faithful.log rfl rfl
  | some outbound =>
    refine faithful.unread rfl ?_
    rw [sent_snoc]
    exact faithful.outbound.send accepted

theorem Faithful.read {next : Link E} {e : ManagedEvent E}
    {item : Option (Except WebSocketError WsFrame)} (held : link.inbound.receiver = true)
    (taken : itemOf e = some item) (ready : link.pollNext = some (item, next)) :
    Faithful (next.log e) := by
  unfold Link.pollNext at ready
  cases got : link.inbound.recv with
  | none =>
    rw [got] at ready
    cases ready
  | some result =>
    obtain ⟨frame, inbound⟩ := result
    rw [got] at ready
    obtain ⟨rfl, rfl⟩ := Prod.mk.inj (Option.some.inj ready)
    have frames : reads (link.calls ++ [e]) = reads link.calls ++ frame.toList := by
      rw [reads_snoc, readOf_eq, taken]
      cases frame <;> rfl
    have inward : Relays inbound link.pushed (reads (link.calls ++ [e])) := by
      rw [frames]
      exact faithful.inbound.recv got
    refine ⟨?_, inward, ?_⟩
    · change Relays link.outbound (sent (link.calls ++ [e])) link.received
      rw [sent_snoc, sentOf_of_item taken, Option.toList_none, List.append_nil]
      exact faithful.outbound
    · intro d mem last
      change inbound.sender = false ∧ reads (link.calls ++ [e]) = link.pushed
      cases frame with
      | none =>
        rw [frames, Option.toList_none, List.append_nil]
        exact faithful.inbound.recv_end got held
      | some frame =>
        -- nothing is read after the end
        rcases List.mem_append.mp mem with mem | mem
        · have full := (faithful.ended d mem last).2
          have more := inward.out_part.length_le
          rw [frames, ← full, List.length_append] at more
          exact absurd more (Nat.not_succ_le_self _)
        · rw [List.mem_singleton.mp mem, taken] at last
          cases last

theorem Faithful.recvOutbound {next : Link E} {item : Option WsFrame}
    (got : link.recvOutbound = some (item, next)) : Faithful next := by
  unfold Link.recvOutbound at got
  cases taken : link.outbound.recv with
  | none =>
    rw [taken] at got
    cases got
  | some result =>
    obtain ⟨frame, outbound⟩ := result
    rw [taken] at got
    obtain ⟨rfl, rfl⟩ := Prod.mk.inj (Option.some.inj got)
    exact ⟨faithful.outbound.recv taken, faithful.inbound, faithful.ended⟩

theorem Faithful.sendInbound (frame : WsFrame) : Faithful (link.sendInbound frame).2 := by
  unfold Link.sendInbound
  split
  · rename_i open_
    cases accepted : link.inbound.send frame with
    | none => exact faithful
    | some inbound =>
      refine ⟨faithful.outbound, faithful.inbound.send accepted, fun e mem last => ?_⟩
      rw [(faithful.ended e mem last).1] at open_
      cases open_
  · exact faithful

theorem Faithful.dropSocket : Faithful link.dropSocket :=
  ⟨faithful.outbound, faithful.inbound.dropSender,
    fun e mem last => ⟨rfl, (faithful.ended e mem last).2⟩⟩

theorem Faithful.dropConnection : Faithful link.dropConnection :=
  ⟨faithful.outbound.dropReceiver, faithful.dropSocket.inbound, faithful.dropSocket.ended⟩

theorem Faithful.abandon : Faithful link.abandon :=
  ⟨faithful.outbound.dropSender, faithful.inbound.dropReceiver, faithful.ended⟩

omit faithful

/-- None of these touches the number or the log of calls. -/
theorem startSend_same (link : Link E) (frame : WsFrame) :
    (link.startSend frame).2.calls = link.calls ∧
      (link.startSend frame).2.connId = link.connId := by
  unfold Link.startSend
  split <;> exact ⟨rfl, rfl⟩

theorem pollNext_same {next : Link E} {item : Option (Except WebSocketError WsFrame)}
    (ready : link.pollNext = some (item, next)) :
    next.calls = link.calls ∧ next.connId = link.connId := by
  unfold Link.pollNext at ready
  split at ready
  · obtain ⟨-, rfl⟩ := Prod.mk.inj (Option.some.inj ready)
    exact ⟨rfl, rfl⟩
  · cases ready

theorem recvOutbound_same {next : Link E} {item : Option WsFrame}
    (got : link.recvOutbound = some (item, next)) :
    next.calls = link.calls ∧ next.connId = link.connId := by
  unfold Link.recvOutbound at got
  split at got
  · obtain ⟨-, rfl⟩ := Prod.mk.inj (Option.some.inj got)
    exact ⟨rfl, rfl⟩
  · cases got

theorem sendInbound_same (link : Link E) (frame : WsFrame) :
    (link.sendInbound frame).2.calls = link.calls ∧
      (link.sendInbound frame).2.connId = link.connId := by
  unfold Link.sendInbound
  split
  · split <;> exact ⟨rfl, rfl⟩
  · exact ⟨rfl, rfl⟩

end One
end Links

section Runs
variable {E : Endpoint}

def opens : ManagedEvent E → Bool
  | ⟨(_, .connect _ _), ⟨_, .ok _⟩⟩ => true
  | _ => false

def sessionsAfter (past : List (List (ManagedEvent E))) (e : ManagedEvent E) :
    List (List (ManagedEvent E)) :=
  match if opens e then [] :: past else past with
  | [] => []
  | newest :: older => (newest ++ [e]) :: older

/-- The calls from each successful `connect` to the next, the newest first. -/
def sessions (t : List (ManagedEvent E)) : List (List (ManagedEvent E)) :=
  t.foldl sessionsAfter []

variable {url : String} {kind : LoopKind} {b b' : Bench E}

/-- `n` numbers from one, the last first. -/
def numbersUpTo (n : Nat) : List UInt64 := ((List.range' 1 n).map UInt64.ofNat).reverse

theorem numbersUpTo_succ (n : Nat) :
    numbersUpTo (n + 1) = (UInt64.ofNat n + 1) :: numbersUpTo n := by
  rw [numbersUpTo, numbersUpTo, List.range'_1_concat, List.map_append, List.reverse_append,
    Nat.add_comm]
  change UInt64.ofNat (n + 1) :: _ = _
  rw [UInt64.ofNat_add]
  rfl

/-- What holds of the bench at any time. -/
structure Kept (url : String) (kind : LoopKind) (b : Bench E) : Prop where
  run : Run (managedLoop url kind) b.trace b.task
  faithful : ∀ link ∈ b.links, Faithful link
  calls : b.links.map Link.calls = sessions b.trace
  numbers : b.links.map Link.connId = numbersUpTo b.links.length
  sequence : b.serverAlive = true → b.connSeq = UInt64.ofNat b.links.length

theorem kept_start : Kept url kind (start : Bench E) where
  run := .here _
  faithful := fun _ mem => absurd mem List.not_mem_nil
  calls := rfl
  numbers := rfl
  sequence := fun _ => rfl

/-- A step of the test changes one connection, and neither its number nor its calls. -/
theorem Kept.replace (kept : Kept url kind b) {k : Nat} {link next : Link E}
    (here : b.links[k]? = some link) (faithful : Faithful next) (calls : next.calls = link.calls)
    (connId : next.connId = link.connId) :
    Kept url kind { b with links := b.links.set k next } := by
  have map_set : ∀ {α : Type} (f : Link E → α), f next = f link →
      (b.links.set k next).map f = b.links.map f := by
    intro α f same
    have found : (b.links.map f)[k]? = some (f link) := by
      rw [List.getElem?_map, here]
      rfl
    obtain ⟨inside, value⟩ := List.getElem?_eq_some_iff.mp found
    rw [List.map_set, same, ← value]
    exact List.set_getElem_self inside
  refine ⟨kept.run, ?_, ?_, ?_, ?_⟩
  · intro other mem
    rcases List.mem_or_eq_of_mem_set mem with mem | rfl
    · exact kept.faithful other mem
    · exact faithful
  · exact (map_set _ calls).trans kept.calls
  · change (b.links.set k next).map _ = numbersUpTo (b.links.set k next).length
    rw [map_set _ connId, List.length_set]
    exact kept.numbers
  · intro alive
    rw [List.length_set]
    exact kept.sequence alive

theorem sessions_snoc (t : List (ManagedEvent E)) (e : ManagedEvent E) :
    sessions (t ++ [e]) = sessionsAfter (sessions t) e := List.foldl_append

/-- A call on the newest connection. -/
theorem Kept.newest (kept : Kept url kind b) {e : ManagedEvent E} {task : HookedLoop.Task E}
    (run : Run (managedLoop url kind) (b.trace ++ [e]) task) {newest next : Link E}
    {older : List (Link E)} (links : b.links = newest :: older) (unopened : opens e = false)
    (faithful : Faithful (next.log e)) (calls : next.calls = newest.calls)
    (connId : next.connId = newest.connId) :
    Kept url kind { b with
      links := next.log e :: older, task := task, trace := b.trace ++ [e] } := by
  have others := kept.faithful
  have logs := kept.calls
  have numbers := kept.numbers
  have sequence := kept.sequence
  rw [links] at others logs numbers sequence
  refine ⟨run, ?_, ?_, ?_, sequence⟩
  · exact List.forall_mem_cons.mpr ⟨faithful, fun link mem => others link (.tail _ mem)⟩
  · rw [sessions_snoc, ← logs]
    simp [sessionsAfter, unopened, Link.log, calls]
  · change next.connId :: _ = _
    rw [connId]
    exact numbers

theorem unopened_of_item {e : ManagedEvent E} {item : Option (Except WebSocketError WsFrame)}
    (reads : itemOf e = some item) : opens e = false := by
  obtain ⟨⟨l, op⟩, time, val⟩ := e
  cases op with
  | connect => cases reads
  | _ => rfl

theorem aloof {e : ManagedEvent E} (apart : Apart e) :
    opens e = false ∧ sentOf e = none ∧ itemOf e = none := by
  obtain ⟨⟨l, op⟩, time, val⟩ := e
  cases op with
  | connect | write => exact apart.elim
  | _ => exact ⟨rfl, rfl, apart⟩

/-- A call that the transport has no part in, or an attempt that fails. -/
theorem Kept.log (kept : Kept url kind b) {e : ManagedEvent E} {task : HookedLoop.Task E}
    (run : Run (managedLoop url kind) (b.trace ++ [e]) task) (unopened : opens e = false)
    (unsent : sentOf e = none) (unread : itemOf e = none) :
    Kept url kind { b.log e with task := task, trace := b.trace ++ [e] } := by
  obtain ⟨connSeq, alive, links, before, trace⟩ := b
  cases links with
  | nil =>
    refine ⟨run, fun _ mem => absurd mem List.not_mem_nil, ?_, rfl, kept.sequence⟩
    rw [sessions_snoc, ← kept.calls]
    simp [sessionsAfter, unopened, Bench.log]
  | cons newest older =>
    have faithful := kept.faithful newest List.mem_cons_self
    exact kept.newest run rfl unopened (faithful.log unsent unread) rfl rfl

theorem Kept.connect (kept : Kept url kind b) {l : Locals E} {target : String}
    {buffers : WebSocketBufferConfig} {time : Instant} {task : HookedLoop.Task E}
    (run : Run (managedLoop url kind)
      (b.trace ++ [event l (.connect target buffers) time b.connect.1]) task) :
    Kept url kind { b.connect.2.log (event l (.connect target buffers) time b.connect.1) with
      task := task
      trace := b.trace ++ [event l (.connect target buffers) time b.connect.1] } := by
  obtain ⟨connSeq, alive, links, before, trace⟩ := b
  cases alive with
  | false =>
    have counted : Kept url kind ⟨connSeq + 1, false, links, before, trace⟩ :=
      ⟨kept.run, kept.faithful, kept.calls, kept.numbers, nofun⟩
    exact counted.log run rfl rfl rfl
  | true =>
    have sequence : connSeq = UInt64.ofNat links.length := kept.sequence rfl
    refine ⟨run, ?_, ?_, ?_, fun _ => ?_⟩
    · exact List.forall_mem_cons.mpr ⟨(faithful_fresh _).log rfl rfl, kept.faithful⟩
    · rw [sessions_snoc, ← kept.calls]
      rfl
    · have numbers : links.map Link.connId = numbersUpTo links.length := kept.numbers
      change (connSeq + 1) :: links.map Link.connId = numbersUpTo (links.length + 1)
      rw [numbers, numbersUpTo_succ, sequence]
    · change connSeq + 1 = UInt64.ofNat (links.length + 1)
      rw [sequence, UInt64.ofNat_add]
      rfl

theorem Kept.serves (kept : Kept url kind b) {e : ManagedEvent E} {task : HookedLoop.Task E}
    (fires : Fires (Proc.turn (managedLoop url kind)) b.task e task) (serves : Serves b e b') :
    Kept url kind { b'.log e with task := task, trace := b.trace ++ [e] } := by
  have run : Run (managedLoop url kind) (b.trace ++ [e]) task := kept.run.snoc fires
  cases serves with
  | connect l target buffers time => exact kept.connect run
  | @write newest older links held l site frame time =>
    have faithful := kept.faithful newest (links ▸ List.mem_cons_self)
    obtain ⟨calls, connId⟩ := startSend_same newest frame
    exact kept.newest run links rfl (faithful.write l site frame time) calls connId
  | @read newest next older _ item links held reads ready =>
    have faithful := kept.faithful newest (links ▸ List.mem_cons_self)
    obtain ⟨calls, connId⟩ := pollNext_same ready
    exact kept.newest run links (unopened_of_item reads) (faithful.read held reads ready) calls
      connId
  | other apart =>
    obtain ⟨unopened, unsent, unread⟩ := aloof apart
    exact kept.log run unopened unsent unread

theorem kept_step (kept : Kept url kind b) (step : Step url kind b b') : Kept url kind b' := by
  cases step with
  | loop fires serves => exact kept.serves fires serves
  | accept alive here waits oldest =>
    have faithful := kept.faithful _ (List.mem_of_getElem? here)
    exact kept.replace here ⟨faithful.outbound, faithful.inbound, faithful.ended⟩ rfl rfl
  | recvOutbound here accepted got =>
    obtain ⟨calls, connId⟩ := recvOutbound_same got
    have faithful := kept.faithful _ (List.mem_of_getElem? here)
    exact kept.replace here (faithful.recvOutbound got) calls connId
  | @sendInbound k link here accepted frame =>
    obtain ⟨calls, connId⟩ := sendInbound_same link frame
    have faithful := kept.faithful _ (List.mem_of_getElem? here)
    exact kept.replace here (faithful.sendInbound frame) calls connId
  | dropSocket here accepted =>
    exact kept.replace here (kept.faithful _ (List.mem_of_getElem? here)).dropSocket rfl rfl
  | dropConnection here accepted =>
    exact kept.replace here (kept.faithful _ (List.mem_of_getElem? here)).dropConnection rfl rfl
  | dropServer =>
    have same : ∀ {α : Type} (f : Link E → α), (∀ link, f link.dropConnection = f link) →
        (b.links.map fun link => if link.accepted then link else link.dropConnection).map f =
          b.links.map f := by
      intro α f kept_field
      rw [List.map_map]
      refine List.map_congr_left fun link _ => ?_
      change f (if link.accepted then link else link.dropConnection) = f link
      split
      · rfl
      · exact kept_field link
    refine ⟨kept.run, ?_, (same _ fun _ => rfl).trans kept.calls, ?_, nofun⟩
    · intro link mem
      obtain ⟨old, listed, rfl⟩ := List.mem_map.mp mem
      have faithful := kept.faithful old listed
      split
      · exact faithful
      · exact faithful.dropConnection
    · refine (same _ fun _ => rfl).trans ?_
      change _ = numbersUpTo (b.links.map _).length
      rw [List.length_map]
      exact kept.numbers
  | abandon here =>
    exact kept.replace here (kept.faithful _ (List.mem_of_getElem? here)).abandon rfl rfl

theorem kept_reachable (reached : Reachable url kind b) : Kept url kind b := by
  induction reached with
  | refl => exact kept_start
  | tail _ last ih => exact kept_step ih last

theorem sentOf_of_unwritten {e : ManagedEvent E} (unwritten : OutboundRouting.writtenOf e = none) :
    sentOf e = none := by
  obtain ⟨⟨l, op⟩, time, val⟩ := e
  cases op with
  | write => cases unwritten
  | _ => rfl

theorem write_of_written {e : ManagedEvent E} {frame : WsFrame}
    (writes : OutboundRouting.writtenOf e = some frame) :
    ∃ l site time result, e = event l (.write site frame) time result := by
  obtain ⟨⟨l, op⟩, time, val⟩ := e
  cases op with
  | write site sent =>
    cases writes
    exact ⟨l, site, time, val, rfl⟩
  | _ => cases writes

theorem unopened_of_onward {e : ManagedEvent E} (onward : ¬ Connects e) : opens e = false := by
  obtain ⟨⟨l, op⟩, time, val⟩ := e
  cases op with
  | connect => exact absurd trivial onward
  | _ => rfl

theorem clear_before {t : List (ManagedEvent E)} {e : ManagedEvent E} (onward : ¬ Connects e)
    (clear : (blameOf (t ++ [e])).cause = none) :
    (blameOf t).cause = none ∧ reasonOf (blameOf t).place e = none := by
  have last : blameOf (t ++ [e]) = (blameOf t).after e := by simp [blameOf]
  rw [last, after_reason onward] at clear
  exact Option.or_eq_none_iff.mp clear

/-- After a failed write nothing is written until the next `connect`. -/
theorem sent_written {t : List (ManagedEvent E)} {q : HookedLoop.Task E}
    (run : Run (managedLoop url kind) t q) :
    sent (sinceConnect t) <+: OutboundRouting.written (sinceConnect t) := by
  suffices both : sent (sinceConnect t) <+: OutboundRouting.written (sinceConnect t) ∧
      ((blameOf t).cause = none →
        sent (sinceConnect t) = OutboundRouting.written (sinceConnect t)) from both.1
  refine Monitor.history_induction t ⟨List.prefix_rfl, fun _ => rfl⟩ ?_ (permitted_run kind run)
  rintro t e - permitted ⟨part, whole⟩
  rw [sinceConnect_snoc]
  by_cases connects : Connects e
  · rw [if_pos connects]
    exact ⟨List.prefix_rfl, fun _ => rfl⟩
  · rw [if_neg connects, sent_snoc, OutboundRouting.written, filterMap_snoc,
      ← OutboundRouting.written]
    cases writes : OutboundRouting.writtenOf e with
    | none =>
      rw [sentOf_of_unwritten writes, Option.toList_none, List.append_nil, List.append_nil]
      exact ⟨part, fun clear => whole (clear_before connects clear).1⟩
    | some frame =>
      obtain ⟨l, site, time, result, rfl⟩ := write_of_written writes
      rw [whole (permitted trivial)]
      cases result with
      | ok _ => exact ⟨List.prefix_rfl, fun _ => rfl⟩
      | error error =>
        refine ⟨⟨[frame], by simp [sentOf, event]⟩, fun clear => ?_⟩
        exact nomatch (clear_before connects clear).2

/-- The calls of the newest connection, while it is the one of the last attempt. -/
theorem sessions_newest (before : List (ManagedEvent E)) {rest : List (ManagedEvent E)}
    {e : ManagedEvent E} (opened : opens e = true) (alone : ∀ d ∈ rest, ¬ Connects d) :
    ∃ older, sessions (before ++ e :: rest) = (e :: rest) :: older := by
  induction rest using List.reverseRecOn with
  | nil =>
    refine ⟨sessions before, ?_⟩
    rw [sessions_snoc, sessionsAfter, if_pos opened]
    rfl
  | append_singleton rest d ih =>
    obtain ⟨older, earlier⟩ := ih fun d mem => alone d (List.mem_append_left _ mem)
    refine ⟨older, ?_⟩
    have unopened := unopened_of_onward (alone d (by simp))
    rw [← List.cons_append, ← List.append_assoc, sessions_snoc, earlier, sessionsAfter, unopened]
    rfl

/-- What the test can rely on. -/
structure Truthful (b : Bench E) : Prop where
  calls : b.links.map Link.calls = sessions b.trace
  -- the connections are numbered from one in the order of the attempts, as far as a `usize` goes
  numbers : b.links.map Link.connId = numbersUpTo b.links.length
  faithful : ∀ link ∈ b.links, Faithful link
  newest : ∀ before l target buffers time rest,
    b.trace = before ++ event l (.connect target buffers) time (.ok ()) :: rest →
    (∀ d ∈ rest, ¬ Connects d) → ∃ link older, b.links = link :: older ∧
      link.received <+: asked rest ∧ FrameRouting.settled rest <+: link.pushed

theorem bench_truthful (reached : Reachable url kind b) : Truthful b := by
  have kept := kept_reachable reached
  refine ⟨kept.calls, kept.numbers, kept.faithful, ?_⟩
  intro before l target buffers time rest cut alone
  obtain ⟨older, newest⟩ := sessions_newest before (e := event l (.connect target buffers) time
    (.ok ())) rfl alone
  have logs := kept.calls
  rw [cut, newest] at logs
  obtain ⟨link, others, links, calls, -⟩ := List.map_eq_cons_iff.mp logs
  have faithful := kept.faithful link (links ▸ List.mem_cons_self)
  obtain ⟨outbound, inbound, -⟩ := faithful
  rw [calls] at outbound inbound
  have since : sinceConnect b.trace = rest := by
    rw [cut]
    exact sinceConnect_eq trivial alone
  have wrote := sent_written kept.run
  have sends := sent_of_fits (outbox_run kept.run).1
  have settles := settled_of_fits (hand_run kept.run).1
  rw [since] at wrote sends settles
  refine ⟨link, others, links, ?_, ?_⟩
  · exact outbound.out_part.trans (wrote.trans ⟨_, sends.symm⟩)
  · have read : FrameRouting.settled rest <+: reads rest := ⟨_, settles.symm⟩
    exact read.trans inbound.out_part

end Runs

/-- The loop connects and writes the payload of a command, the test receives it, and a frame that
the test has pushed before is read. -/
theorem exchange_truthful :
    ∃ b : Bench bareEndpoint, b.links.map Link.received = [[intoWsMessage ⟨#[2]⟩]] ∧
      b.links.map (fun link => reads link.calls) = [[.pong ⟨#[3]⟩]] ∧ Truthful b := by
  have run : ∃ b : Bench bareEndpoint, Reachable "ws://mock" .plain b ∧
      b.links.map Link.received = [[intoWsMessage ⟨#[2]⟩]] ∧
      b.links.map (fun link => reads link.calls) = [[.pong ⟨#[3]⟩]] := by
    refine ⟨_, .head (.loop (.head (.call _ _ _))
        (.other (e := event _ (.storeStatus _) 0 ()) rfl)) <|
      .head (.loop (.call _ _ _) (.connect _ _ _ 0)) <|
      .head (.loop (.call _ _ _) (.other (e := event _ (.reconnect .reset) 0 ()) rfl)) <|
      .head (.loop (.call _ _ _) (.other (e := event _ (.storeStatus _) 0 ()) rfl)) <|
      .head (.loop (.call _ _ _) (.other (e := event _ (.handler .resetState) 0 ()) rfl)) <|
      .head (.loop (.call _ _ _) (.other (e := event _ (.handler .onOpen) 0 ()) rfl)) <|
      .head (.loop (.call _ _ _)
        (.other (e := event _ (.handler (.onConnectionOpened _)) 0 none) rfl)) <|
      .head (.loop (.call _ _ _) (.other (e := event _ (.handler .generateAuth) 0 none) rfl)) <|
      .head (.loop (.call _ _ _)
        (.other (e := event _ (.handler .sessionMode) 0 .publicSession) rfl)) <|
      .head (.loop (.call _ _ _)
        (.other (e := event _ (.handler .initialSubscriptions) 0 []) rfl)) <|
      .head (.accept (k := 0) rfl rfl rfl nofun) <|
      .head (.sendInbound (k := 0) rfl rfl (.pong ⟨#[3]⟩)) <|
      .head (.loop (.head (.call _ _ _))
        (.other (e := event _ .select 0 (.command (some (.send ⟨#[2]⟩)))) rfl)) <|
      .head (.loop (.call _ _ _) (.other (e := event _ (.enterApply _) 0 ()) rfl)) <|
      .head (.loop (.call _ _ _)
        (.other (e := event _ (.handler (.onOutboundFrame _)) 0 ()) rfl)) <|
      .head (.loop (.call _ _ _) (.write rfl rfl _ _ _ 0)) <|
      .head (.recvOutbound (k := 0) rfl rfl rfl) <|
      .head (.loop (.head (.call _ _ _))
        (.read (e := event _ .select 0 (.frame (some (.ok (.pong ⟨#[3]⟩))))) rfl rfl rfl rfl)) <|
      .refl, rfl, rfl⟩
  obtain ⟨b, reached, received, read⟩ := run
  exact ⟨b, received, read, bench_truthful reached⟩

end MockBench
