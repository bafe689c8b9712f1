import SharedWs.DisconnectCauses
import SharedWs.HealthOutline
import SharedWs.OnePlaceBuffers

/-!
# The frames of a connection

A frame that the session `select!` hands over goes to the capture hook, then to the heartbeat if
the loop has one, and then to the parser unless the heartbeat keeps it. Nothing else happens to it,
and the next `select!` and the next `connect` wait until it is settled. So the frames of a
connection are settled on this connection, in their order, each once.
-/
namespace FrameRouting

open InteractionPrograms InteractionMonitors WsFrames WsTypes ManagedOps
open ManagedLoop HookedLoop LoopOutline ManagedBlocks HistoryCounts
open DisconnectCauses (Reports reporting_hooks)
open HealthOutline (Ticks quiet_pingTick)

variable {E : Endpoint}

def armFrame : Option (Arm E) → Option WsFrame
  | some (.frame (some (.ok frame))) => some frame
  | _ => none

/-- The frame that one call reads. -/
def readOf : ManagedEvent E → Option WsFrame
  | ⟨(_, .select), ⟨_, arm⟩⟩ => armFrame (some arm)
  | ⟨(_, .selectWithPing), ⟨_, arm⟩⟩ => armFrame arm
  | _ => none

/-- The frame that one call settles: the parser takes it, or the heartbeat keeps it. -/
def settledOf : ManagedEvent E → Option WsFrame
  | ⟨(_, .handler (.parseFrame frame)), _⟩ => some frame
  | ⟨(_, .ping (.handleInbound _)), ⟨_, .notPong⟩⟩ => none
  | ⟨(_, .ping (.handleInbound frame)), _⟩ => some frame
  | _ => none

/-- The frame that was read and is not settled yet. -/
def inHand (t : List (ManagedEvent E)) : Option WsFrame :=
  OnePlaceBuffers.inHand readOf settledOf t

/-- Which calls are made with which frame in hand. -/
def Fits (hand : Option WsFrame) : Op E → Prop
  | .handler (.parseFrame frame) | .handler (.onInboundFrame frame)
  | .ping (.handleInbound frame) => hand = some frame
  | .select | .selectWithPing | .connect _ _ => hand = none
  | _ => True

def hands : ManagedMonitor E (Option WsFrame) where
  step := OnePlaceBuffers.handAfter readOf settledOf
  rely := fun _ _ => True
  safe := fun hand e => Fits hand e.op.2

/-- Calls that the frame in hand does not care about. -/
def Aside : Op E → Prop
  | .handler (.parseFrame _) | .handler (.onInboundFrame _) | .ping (.handleInbound _)
  | .select | .selectWithPing | .connect _ _ => False
  | _ => True

theorem aside_ignored : Ignores (hands : ManagedMonitor E _) Aside := by
  intro l m op time val aside
  cases op with
  | handler call => cases call <;> first | exact aside.elim | exact ⟨trivial, rfl⟩
  | ping call => cases call <;> first | exact aside.elim | exact ⟨trivial, rfl⟩
  | _ => first | exact aside.elim | exact ⟨trivial, rfl⟩

def Empty (_ : Locals E) (hand : Option WsFrame) : Prop := hand = none

def Holds (frame : WsFrame) (_ : Locals E) (hand : Option WsFrame) : Prop := hand = some frame

def handJunctions : Junctions E (Option WsFrame) where
  top := Empty
  dialing := Empty
  refused := fun _ => Empty
  opened := Empty
  fresh := Empty
  greeted := Empty
  ready := Empty
  replaying := Empty
  broken := fun _ => Empty
  session := Empty
  ticked := Empty
  holding := fun _ => Empty
  reading := Holds
  passed := Holds
  parsed := fun _ => Empty
  judging := fun _ _ _ => Empty
  flushing := Empty
  stopping := Empty
  leaving := fun _ => Empty
  closing := fun _ => Empty
  down := fun _ => Empty
  done := Empty

section Blocks
variable {l : Locals E} {m : Option WsFrame}

/-- A block of calls that leave the hand alone. -/
theorem aside_block {allowed : Op E → Prop} {α : Type} {x : Managed E α}
    (quiet : Proc.Quiet allowed x) (aside : ∀ op, allowed op → Aside op)
    {post : α → Locals E → Option WsFrame → Prop} (all : ∀ a, post a l m) :
    hands.ensures post x l m :=
  aside_ignored.ensures (quiet.mono aside) all

theorem aside_then {α β : Type} {x : Managed E α} {f : α → Managed E β}
    {post : β → Locals E → Option WsFrame → Prop} (quiet : Proc.Quiet Aside x)
    (rest : ∀ a, hands.ensures post (f a) l m) : hands.ensures post (x >>= f) l m :=
  hands.ensures_bind.mpr (aside_ignored.ensures quiet rest)

theorem empty_orElse (context : String) (empty : m = none) (result : Except WebSocketError Unit) :
    orElse Empty (fun _ => Empty) context result l m :=
  orElse_of empty (fun _ => empty) context result

theorem aside_of_speaks (op : Op E) (speaks : Speaks op) : Aside op := by
  cases op with
  | handler call => cases call <;> trivial
  | _ => trivial

theorem aside_of_decides (op : Op E) (decides : Decides op) : Aside op := by
  cases op with
  | handler call => cases call <;> trivial
  | _ => trivial

theorem aside_of_closes (op : Op E) (closes : Closes op) : Aside op := by
  cases op with
  | handler call => cases call <;> trivial
  | _ => trivial

theorem aside_of_waits (op : Op E) (waits : Waits op) : Aside op := by
  cases op <;> trivial

theorem aside_of_greets (op : Op E) (greets : Greets op) : Aside op := by
  cases op with
  | handler call => cases call <;> trivial
  | _ => trivial

theorem aside_of_reports (op : Op E) (reports : Reports op) : Aside op := by
  cases op with
  | ping call => cases call <;> trivial
  | _ => trivial

theorem aside_of_ticks (op : Op E) (ticks : Ticks op) : Aside op := by
  cases op with
  | handler call => cases call <;> trivial
  | ping call => cases call <;> trivial
  | _ => trivial

/-- A tick has no frame. -/
theorem tick_aside (kind : LoopKind) : Proc.Quiet Aside (hooksOf kind : Hooks E).tick := by
  cases kind with
  | plain => exact Proc.Quiet.pure _
  | healthChecked => exact quiet_pingTick.mono aside_of_ticks

/-- The heartbeat passes the frame on, or it is settled. -/
theorem intercept_settles (kind : LoopKind) (frame : WsFrame) (holds : Holds frame l m) :
    hands.ensures (fun verdict => match verdict with
      | .pass => Holds frame
      | .again => Empty
      | .leave _ => Empty) ((hooksOf kind : Hooks E).intercept frame) l m := by
  cases kind with
  | plain => exact holds
  | healthChecked =>
    refine ensures_ask_then hands (.ping (.handleInbound frame)) fun time result _ => ⟨holds, ?_⟩
    cases result with
    | notPong => exact holds
    | invalidPong => exact aside_then (quiet_ask trivial) fun _ => rfl
    | pongReceived rtt =>
      cases rtt with
      | none => exact rfl
      | some rtt => exact aside_then (quiet_ask trivial) fun _ => rfl
    | reply reply =>
      refine aside_then (quiet_ask trivial) fun _ => ?_
      refine aside_then (quiet_ask trivial) fun written => ?_
      cases written with
      | error error => exact aside_then (quiet_ask trivial) fun _ => rfl
      | ok _ => exact aside_then (quiet_ask trivial) fun _ => rfl

theorem select_reads (pinging : Bool) (empty : Empty l m) :
    hands.ensures (afterSelect Empty Empty (fun _ => Empty) (fun _ => Empty) Holds)
      (sessionSelect pinging) l m := by
  obtain rfl : m = none := empty
  have next : ∀ (arm : Option (Arm E)) l, afterSelect Empty Empty (fun _ => Empty)
      (fun _ => Empty) Holds arm l (armFrame arm) := by
    intro arm l
    unfold afterSelect
    split <;> exact rfl
  cases pinging with
  | true =>
    refine ensures_of_ask hands .selectWithPing fun time arm _ => ⟨rfl, ?_⟩
    have taken := next arm l
    rwa [← Option.or_none (o := armFrame arm)] at taken
  | false =>
    refine ensures_ask_then hands .select fun time arm _ => ⟨rfl, ?_⟩
    have taken := next (some arm) l
    rwa [← Option.or_none (o := armFrame (some arm))] at taken

end Blocks

theorem hand_outline (url : String) (kind : LoopKind) :
    Outline (hands : ManagedMonitor E _) (hooksOf kind) url handJunctions where
  hooks := reporting_hooks (aside_ignored.mono aside_of_reports) (fun _ _ => id) kind
  start := fun empty => aside_block (quiet_ask trivial) (fun _ => id) fun _ => empty
  dial := by
    intro l m empty
    refine ensures_of_ask hands (.connect url .default) fun time result _ => ⟨empty, ?_⟩
    obtain rfl : m = none := empty
    exact empty_orElse _ rfl result
  refuse := fun empty => aside_block (quiet_storeThenDecide _) aside_of_closes fun _ => empty
  greet := fun empty => aside_block quiet_greeting aside_of_greets fun _ => empty
  auth := fun empty => aside_block speaking_offerAuth aside_of_speaks
    (empty_orElse _ empty)
  mode := by
    intro l m empty
    have quiet : Proc.Quiet Aside (handler .sessionMode : Managed E _) := quiet_ask trivial
    refine aside_ignored.ensures quiet fun mode => ?_
    split <;> exact empty
  replay := fun empty => aside_block speaking_replaySubscriptions aside_of_speaks
    (empty_orElse _ empty)
  fail := fun empty => aside_block (quiet_decideThenStore _) aside_of_closes fun _ => empty
  select := select_reads _
  tick := by
    intro l m empty
    refine aside_ignored.ensures (tick_aside kind) fun verdict => ?_
    cases verdict <;> exact empty
  park := fun empty _ _ => empty
  apply := fun empty _ _ => aside_block (speaking_applyCommand _) aside_of_speaks
    (empty_orElse _ empty)
  inbound := by
    intro frame l m holds
    exact ensures_of_ask hands (.handler (.onInboundFrame frame)) fun _ _ _ => ⟨holds, holds⟩
  intercept := intercept_settles kind _
  parse := by
    intro frame l m holds
    refine ensures_of_ask hands (.handler (.parseFrame frame)) fun time outcome _ => ⟨holds, ?_⟩
    match outcome with
    | .ok (.message action) => exact rfl
    | .ok (.serverError code message data) => exact rfl
    | .error error => exact rfl
  judge := by
    intro code message data l m empty
    have quiet : Proc.Quiet Aside
        (handler (.handleServerError code message data) : Managed E _) := quiet_ask trivial
    refine aside_ignored.ensures quiet fun action => ?_
    cases action <;> exact empty
  proceed := id
  authenticate := fun empty => aside_block speaking_replaySubscriptions aside_of_speaks
    (empty_orElse _ empty)
  flush := by
    intro l m empty
    refine hands.ensures_mono ?_ (ensures_flush (fun _ _ _ => id) ?_ empty)
    · exact fun result l m empty => orElse_of empty (fun _ => empty) _ result
    · exact fun command l m empty =>
        aside_block (speaking_applyCommand command) aside_of_speaks fun _ => empty
  reply := fun empty => aside_block (speaking_sendPayload .reply _) aside_of_speaks
    (empty_orElse _ empty)
  process := by
    intro message l m empty
    have quiet : Proc.Quiet Aside (handler (.handleMessage message) : Managed E _) :=
      quiet_ask trivial
    refine aside_ignored.ensures quiet fun result => ?_
    cases result <;> exact empty
  requested := id
  shutdown := id
  stop := fun empty => aside_block (quiet_ask trivial) (fun _ => id) fun _ => empty
  finish := fun empty => aside_block (quiet_ask trivial) (fun _ => id) fun _ => empty
  decide := fun empty => aside_block (quiet_decideReconnect _) aside_of_decides fun _ => empty
  abort := id
  wait := by
    intro delay l m empty
    refine aside_block (quiet_wait delay) aside_of_waits fun retry => ?_
    split <;> exact empty

def reads (t : List (ManagedEvent E)) : List WsFrame := t.filterMap readOf

def settled (t : List (ManagedEvent E)) : List WsFrame := t.filterMap settledOf

/-- The calls since the last `connect`. -/
def sinceConnect (t : List (ManagedEvent E)) : List (ManagedEvent E) :=
  entriesSince (fun e => decide (Connects e)) t

theorem sinceConnect_snoc (t : List (ManagedEvent E)) (e : ManagedEvent E) :
    sinceConnect (t ++ [e]) = if Connects e then [] else sinceConnect t ++ [e] := by
  rw [sinceConnect, entriesSince_snoc]
  by_cases connects : Connects e
  · simp [connects]
  · simp [connects, sinceConnect]

theorem sinceConnect_eq {before rest : List (ManagedEvent E)} {e : ManagedEvent E}
    (connects : Connects e) (alone : ∀ d ∈ rest, ¬ Connects d) :
    sinceConnect (before ++ e :: rest) = rest := by
  induction rest using List.reverseRecOn with
  | nil => rw [sinceConnect_snoc, if_pos connects]
  | append_singleton rest d ih =>
    have earlier := ih fun d mem => alone d (List.mem_append_left _ mem)
    rw [← List.cons_append, ← List.append_assoc, sinceConnect_snoc, if_neg (alone d (by simp)),
      earlier]

/-- A frame is settled by a call that does not read, and it is the frame in hand. -/
theorem hand_of_settled {hand : Option WsFrame} {e : ManagedEvent E} {frame : WsFrame}
    (fits : Fits hand e.op.2) (settles : settledOf e = some frame) :
    hand = some frame ∧ readOf e = none := by
  obtain ⟨⟨l, op⟩, time, val⟩ := e
  cases op with
  | handler call =>
    cases call with
    | parseFrame read =>
      cases settles
      exact ⟨fits, rfl⟩
    | _ => exact nomatch settles
  | ping call =>
    cases call with
    | handleInbound read =>
      cases val with
      | notPong => exact nomatch settles
      | _ =>
        cases settles
        exact ⟨fits, rfl⟩
    | _ => exact nomatch settles
  | _ => exact nomatch settles

theorem empty_of_read {hand : Option WsFrame} {e : ManagedEvent E} {frame : WsFrame}
    (fits : Fits hand e.op.2) (read : readOf e = some frame) : hand = none := by
  obtain ⟨⟨l, op⟩, time, val⟩ := e
  cases op with
  | select => exact fits
  | selectWithPing => exact fits
  | _ => exact nomatch read

/-- One call moves one frame at most, from the connection to the hand or out of the hand. -/
theorem orderly_of_fits {hand : Option WsFrame} {e : ManagedEvent E} (fits : Fits hand e.op.2) :
    OnePlaceBuffers.Orderly readOf settledOf hand e where
  taking := fun _ read => empty_of_read fits read
  giving := fun _ settles => hand_of_settled fits settles

theorem empty_of_connect {hand : Option WsFrame} {e : ManagedEvent E} (fits : Fits hand e.op.2)
    (connects : Connects e) : hand = none ∧ readOf e = none := by
  obtain ⟨⟨l, op⟩, time, val⟩ := e
  cases op with
  | connect url buffers => exact ⟨fits, rfl⟩
  | _ => exact connects.elim

/-- Every frame is settled on its connection, in order and once. -/
structure Settled (t : List (ManagedEvent E)) (q : Task E) : Prop where
  -- each stop of a frame sees the frame in hand, and the next frame waits
  fits : ∀ before e after, t = before ++ e :: after → Fits (inHand before) e.op.2
  inOrder : reads (sinceConnect t) = settled (sinceConnect t) ++ (inHand t).toList
  -- at the top of a loop and at the return there is none in hand
  atRest : ∀ result, q = .ret result → inHand t = none

theorem settled_of_fits {t : List (ManagedEvent E)}
    (fits : ∀ before e after, t = before ++ e :: after → Fits (inHand before) e.op.2) :
    reads (sinceConnect t) = settled (sinceConnect t) ++ (inHand t).toList :=
  OnePlaceBuffers.conserved (fun before e after cut => orderly_of_fits (fits before e after cut))
    fun before e after cut connects =>
      empty_of_connect (fits before e after cut) (of_decide_eq_true connects)

section Runs
variable {url : String} {kind : LoopKind} {t : List (ManagedEvent E)} {q : Task E}

theorem hand_run (run : Run (managedLoop url kind) t q) :
    (∀ before e after, t = before ++ e :: after → Fits (inHand before) e.op.2) ∧
      ∀ result, q = .ret result → inHand t = none := by
  rw [managedLoop_eq] at run
  have start : (handJunctions : Junctions E _).top Locals.initial none := rfl
  obtain ⟨safe, rest⟩ := (hand_outline url kind).run_rest (· = none) (fun _ _ => id)
    (fun _ _ => id) (fun _ _ => id) (fun _ _ => trivial) start run
  exact ⟨(Monitor.along_iff _).mp safe, rest⟩

theorem frames_settled (run : Run (managedLoop url kind) t q) : Settled t q := by
  obtain ⟨fits, rest⟩ := hand_run run
  exact ⟨fits, settled_of_fits fits, rest⟩

end Runs

/-- A ping is answered by the heartbeat, and a binary frame goes on to the parser. -/
def mixedPeer : Nat → (op : Op bareEndpoint) → op.Ans
  | 16, .selectWithPing => some (.frame (some (.ok (.ping ByteArray.empty))))
  | 23, .selectWithPing => some (.frame (some (.ok (.binary ByteArray.empty))))
  | 19, .ping (.handleInbound _) => .reply (.pong ByteArray.empty)
  | _, op => bareAnswer op

def mixedRun : List (ManagedEvent bareEndpoint) × Task bareEndpoint :=
  trial (managedLoop "ws://peer" .healthChecked) mixedPeer 28

theorem mixed_settled :
    settled (sinceConnect mixedRun.1) = [.ping ByteArray.empty, .binary ByteArray.empty] ∧
      Settled mixedRun.1 mixedRun.2 :=
  ⟨rfl, frames_settled (trial_run _ mixedPeer 28)⟩

end FrameRouting
