import SharedWs.ConnectionWire
import SharedWs.OutboundRouting

/-!
# From a client to the handler of the server

The way back: what a client is asked to send is written by its managed loop, arrives at a
connection task of the server and is given to the endpoint handler there. If the connection
delivers a prefix of what was written, the handler gets a prefix of the data that the client was
asked to send on this connection, and all of it once both ends are at rest and nothing is under
way. For a client that sends nothing of its own accord these are the payloads of its commands.
-/
namespace Uplink

open InteractionPrograms ManagedOps HookedLoop WsFrames WsTypes
open ServerTypes ConnectionTask ConnectionProtocol ConnectionWire
open FrameRouting (sinceConnect)
open OutboundRouting (asked askedOf sent_of_fits outbox_run)

variable {E : Endpoint} {Command : Type}

def arrivalOf : ConnectionEvent Command → Option WsFrame
  | ⟨.select, .incoming (some (.ok frame))⟩ => some frame
  | _ => none

/-- All frames that a connection task read. -/
def arrivals (u : List (ConnectionEvent Command)) : List WsFrame := u.filterMap arrivalOf

theorem inboundOf_eq (e : ConnectionEvent Command) :
    inboundOf e = (arrivalOf e).filter IsData := by
  rcases e with ⟨op, answer⟩
  cases op with
  | select =>
    rcases answer with _ | (_ | _ | frame) | _ | _
    case incoming.some.ok => cases frame <;> rfl
    all_goals rfl
  | _ => rfl

/-- The task gives data to its handler and keeps control frames to itself. -/
theorem inbound_eq (u : List (ConnectionEvent Command)) :
    inbound u = dataFrames (arrivals u) := by
  rw [inbound, dataFrames, arrivals, List.filter_filterMap]
  exact congrArg (u.filterMap ·) (funext inboundOf_eq)

/-- The payload of a command that is applied. -/
def payloadOf : ManagedEvent E → Option Bytes
  | ⟨(_, .enterApply (.send payload)), _⟩ => some payload
  | _ => none

def payloads (t : List (ManagedEvent E)) : List Bytes := t.filterMap payloadOf

/-- Neither the handler nor the heartbeat asks for data. -/
def Reserved (e : ManagedEvent E) : Prop :=
  payloadOf e = none → ∀ frame, askedOf e = some frame → IsData frame = false

theorem isData_intoWsMessage (payload : Bytes) : IsData (intoWsMessage payload) = true := by
  unfold intoWsMessage intoWsFrame
  split <;> rfl

theorem asked_of_payload {e : ManagedEvent E} {payload : Bytes}
    (applied : payloadOf e = some payload) : askedOf e = some (intoWsMessage payload) := by
  unfold payloadOf at applied
  split at applied
  · cases applied
    rfl
  · cases applied

theorem dataFrames_asked {t : List (ManagedEvent E)} (reserved : ∀ e ∈ t, Reserved e) :
    dataFrames (asked t) = (payloads t).map intoWsMessage := by
  induction t with
  | nil => rfl
  | cons e t ih =>
    have later := ih fun d mem => reserved d (List.mem_cons_of_mem e mem)
    cases applied : payloadOf e with
    | some payload =>
      rw [asked, List.filterMap_cons_some (asked_of_payload applied), payloads,
        List.filterMap_cons_some applied, dataFrames,
        List.filter_cons_of_pos (isData_intoWsMessage payload)]
      exact congrArg (intoWsMessage payload :: ·) later
    | none =>
      rw [payloads, List.filterMap_cons_none applied, ← payloads, ← later]
      cases asks : askedOf e with
      | none => rw [asked, List.filterMap_cons_none asks, ← asked]
      | some frame =>
        have control := reserved e List.mem_cons_self applied frame asks
        rw [asked, List.filterMap_cons_some asks, dataFrames,
          List.filter_cons_of_neg (by simp [control])]
        rfl

theorem handed_part {config : WsServerConfig} {ctx : WsServerConnectionContext}
    {u : List (ConnectionEvent Command)} {p : Step Command (Head ⊕ Unit)}
    (server : ConnectionRun config ctx u p) {frames : List WsFrame} (wire : arrivals u <+: frames) :
    handed u <+: dataFrames frames := by
  have given := handed_of_inbound (wire_run server).1
  rw [inbound_eq] at given
  exact given.trans (dataFrames_mono wire)

/-- The loop at `q` after the calls `t` on a connection to the task at `p` after the calls `u`. -/
structure Raised (t : List (ManagedEvent E)) (q : HookedLoop.Task E)
    (u : List (ConnectionEvent Command)) (p : Step Command (Head ⊕ Unit)) : Prop where
  frames : handed u <+: dataFrames (asked (sinceConnect t))
  commands : (∀ e ∈ sinceConnect t, Reserved e) →
    handed u <+: (payloads (sinceConnect t)).map intoWsMessage
  -- with both ends at rest and nothing under way nothing is missing
  complete : ∀ result, q = .ret result → p = .ret (.inl .serving) →
    arrivals u = OutboundRouting.written (sinceConnect t) →
      handed u = dataFrames (asked (sinceConnect t))

variable {config : WsServerConfig} {ctx : WsServerConnectionContext} {url : String}
variable {kind : LoopKind} {t : List (ManagedEvent E)} {q : HookedLoop.Task E}
variable {u : List (ConnectionEvent Command)} {p : Step Command (Head ⊕ Unit)}

theorem frames_raised (client : Run (managedLoop url kind) t q)
    (server : ConnectionRun config ctx u p)
    (wire : arrivals u <+: OutboundRouting.written (sinceConnect t)) : Raised t q u p := by
  obtain ⟨fits, rest⟩ := outbox_run client
  have inOrder := sent_of_fits fits
  have frames : handed u <+: dataFrames (asked (sinceConnect t)) := by
    have whole : OutboundRouting.written (sinceConnect t) <+: asked (sinceConnect t) :=
      ⟨_, inOrder.symm⟩
    exact handed_part server (wire.trans whole)
  constructor
  · exact frames
  · intro reserved
    rw [← dataFrames_asked reserved]
    exact frames
  · intro result returned waiting all
    rw [rest result returned, Option.toList_none, List.append_nil] at inOrder
    rw [waiting] at server
    have stage : Stage [] [] u := (wire_run server).2
    have given := stage.inbound
    rw [List.append_nil, inbound_eq, all, ← inOrder] at given
    exact given.symm

/-- Two commands are received, one after the other. -/
def speaker : Nat → (op : Op bareEndpoint) → op.Ans
  | 10, .select => .command (some (.send ⟨#[2]⟩))
  | 14, .select => .command (some (.send ⟨#[3]⟩))
  | _, op => bareAnswer op

def speakerRun : List (ManagedEvent bareEndpoint) × HookedLoop.Task bareEndpoint :=
  trial (managedLoop "ws://server" .plain) speaker 18

def hearer : Nat → (op : ConnectionOp Nat) → op.Res
  | 4, .select => .incoming (some (.ok (intoWsMessage ⟨#[2]⟩)))
  | _, .select => .incoming (some (.ok (intoWsMessage ⟨#[3]⟩)))
  | _, .handshake _ _ => .completed
  | _, .createEndpoint _ => ()
  | _, .firstTick _ => ()
  | _, .onEvent _ => .ok .none
  | _, .send _ => .ok ()
  | _, .close => .ok ()

def hearerRun : List (ConnectionEvent Nat) × Step Nat (Head ⊕ Unit) :=
  play (runConnection (.new (localhost 80)) ⟨0, localhost 5000, localhost 80⟩) hearer 8 0
    (.ret (.inl .accepted))

theorem payloads_raised :
    payloads (sinceConnect speakerRun.1) = [⟨#[2]⟩, ⟨#[3]⟩] ∧
      handed hearerRun.1 = [intoWsMessage ⟨#[2]⟩, intoWsMessage ⟨#[3]⟩] ∧
      Raised speakerRun.1 speakerRun.2 hearerRun.1 hearerRun.2 := by
  have server : ConnectionRun (.new (localhost 80)) ⟨0, localhost 5000, localhost 80⟩ _ _ :=
    play_reaches hearer 8 0 _
  have wire : arrivals hearerRun.1 <+: OutboundRouting.written (sinceConnect speakerRun.1) :=
    ⟨[], rfl⟩
  exact ⟨rfl, rfl, frames_raised (trial_run _ speaker 18) server wire⟩

end Uplink
