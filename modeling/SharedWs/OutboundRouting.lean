import SharedWs.FrameRouting

/-!
# The frames that a client sends

A managed loop makes up no frame. What it writes was asked for by an answer of the handler, by a
command or by the heartbeat: an authentication, a subscription, a payload to send, a reply to a
frame, a ping or a pong. Each such frame is shown to the capture hook and written before the loop
asks, reads or connects again. So the frames written to a connection are the frames asked for on
this connection, in their order, each once.
-/
namespace OutboundRouting

open InteractionPrograms InteractionMonitors WsFrames WsTypes ManagedOps
open ManagedLoop HookedLoop LoopOutline ManagedBlocks
open DisconnectCauses (Reports reporting_hooks)
open FrameRouting (sinceConnect)

variable {E : Endpoint}

/-- The frame that one call asks the loop to write. -/
def askedOf : ManagedEvent E → Option WsFrame
  | ⟨(_, .handler .generateAuth), ⟨_, payload⟩⟩ => payload.map intoWsMessage
  | ⟨(_, .handler (.serializeSubscription _)), ⟨_, payload⟩⟩ => some (intoWsMessage payload)
  | ⟨(_, .enterApply (.send payload)), _⟩ => some (intoWsMessage payload)
  | ⟨(_, .handler (.parseFrame _)), ⟨_, .ok (.message (.send payload))⟩⟩ =>
      some (intoWsMessage payload)
  | ⟨(_, .ping .createPing), ⟨_, frame⟩⟩ => frame
  | ⟨(_, .ping (.handleInbound _)), ⟨_, .reply reply⟩⟩ => some reply
  | _ => none

/-- The frame that one call writes, or fails to write. -/
def writtenOf : ManagedEvent E → Option WsFrame
  | ⟨(_, .write _ frame), _⟩ => some frame
  | _ => none

/-- The frame that is still to be written. -/
def stillDue (t : List (ManagedEvent E)) : Option WsFrame :=
  OnePlaceBuffers.inHand askedOf writtenOf t

/-- Which calls are made with which frame still to be written. -/
def Fits (due : Option WsFrame) : Op E → Prop
  | .write _ frame | .handler (.onOutboundFrame frame) => due = some frame
  | .handler .generateAuth | .handler (.serializeSubscription _) | .handler (.parseFrame _)
  | .enterApply _ | .ping .createPing | .ping (.handleInbound _)
  | .select | .selectWithPing | .connect _ _ => due = none
  | _ => True

def outbox : ManagedMonitor E (Option WsFrame) where
  step := OnePlaceBuffers.handAfter askedOf writtenOf
  rely := fun _ _ => True
  safe := fun due e => Fits due e.op.2

/-- Calls that have no part in it. -/
def Aside : Op E → Prop
  | .write _ _ | .handler (.onOutboundFrame _) | .handler .generateAuth
  | .handler (.serializeSubscription _) | .handler (.parseFrame _) | .enterApply _
  | .ping .createPing | .ping (.handleInbound _) | .select | .selectWithPing
  | .connect _ _ => False
  | _ => True

theorem aside_ignored : Ignores (outbox : ManagedMonitor E _) Aside := by
  intro l m op time val aside
  cases op with
  | handler call => cases call <;> first | exact aside.elim | exact ⟨trivial, rfl⟩
  | ping call => cases call <;> first | exact aside.elim | exact ⟨trivial, rfl⟩
  | _ => first | exact aside.elim | exact ⟨trivial, rfl⟩

theorem aside_of_reports (op : Op E) (reports : Reports op) : Aside op := by
  cases op with
  | ping call => cases call <;> trivial
  | _ => trivial

theorem aside_of_decides (op : Op E) (decides : Decides op) : Aside op := by
  cases op with
  | handler call => cases call <;> trivial
  | _ => trivial

theorem aside_of_closes (op : Op E) (closes : Closes op) : Aside op := by
  cases op with
  | handler call => cases call <;> trivial
  | _ => trivial

theorem aside_of_waits (op : Op E) (waits : Waits op) : Aside op := by
  cases op <;> trivial

theorem aside_of_greets (op : Op E) (greets : Greets op) : Aside op := by
  cases op with
  | handler call => cases call <;> trivial
  | _ => trivial

/-- Nothing is left to write. -/
def Empty (_ : Locals E) (due : Option WsFrame) : Prop := due = none

/-- The frame that a parsed action asks for. -/
def replyOf : WsMessageAction E.Message → Option WsFrame
  | .send payload => some (intoWsMessage payload)
  | _ => none

def outboxJunctions : Junctions E (Option WsFrame) where
  top := Empty
  dialing := Empty
  refused := fun _ => Empty
  opened := Empty
  fresh := Empty
  greeted := Empty
  ready := Empty
  replaying := Empty
  broken := fun _ => Empty
  session := Empty
  ticked := Empty
  holding := fun _ => Empty
  reading := fun _ => Empty
  passed := fun _ => Empty
  parsed := fun action _ due => due = replyOf action
  judging := fun _ _ _ => Empty
  flushing := Empty
  stopping := Empty
  leaving := fun _ => Empty
  closing := fun _ => Empty
  down := fun _ => Empty
  done := Empty

section Blocks
variable {l : Locals E} {m : Option WsFrame}

theorem aside_block {allowed : Op E → Prop} {α : Type} {x : Managed E α}
    (quiet : Proc.Quiet allowed x) (aside : ∀ op, allowed op → Aside op)
    {post : α → Locals E → Option WsFrame → Prop} (all : ∀ a, post a l m) :
    outbox.ensures post x l m :=
  aside_ignored.ensures (quiet.mono aside) all

theorem aside_then {α β : Type} {x : Managed E α} {f : α → Managed E β}
    {post : β → Locals E → Option WsFrame → Prop} (quiet : Proc.Quiet Aside x)
    (rest : ∀ a, outbox.ensures post (f a) l m) : outbox.ensures post (x >>= f) l m :=
  outbox.ensures_bind.mpr (aside_ignored.ensures quiet rest)

theorem empty_orElse (context : String) (result : Except WebSocketError Unit) (l : Locals E)
    (m : Option WsFrame) (empty : Empty l m) :
    orElse Empty (fun _ => Empty) context result l m :=
  orElse_of empty (fun _ => empty) context result

/-- The frame that is due is captured and written. -/
theorem writes_then {α : Type} {f : Except WebSocketError Unit → Managed E α}
    {post : α → Locals E → Option WsFrame → Prop} (site : WriteSite) (frame : WsFrame)
    (rest : ∀ result, outbox.ensures post (f result) l none) :
    outbox.ensures post (do
      handler (.onOutboundFrame frame)
      f (← ask (.write site frame))) l (some frame) :=
  ensures_ask_then outbox (.handler (.onOutboundFrame frame)) fun _ _ _ => ⟨rfl,
    ensures_ask_then outbox (.write site frame) fun _ result _ => ⟨rfl, rest result⟩⟩

theorem sendPayload_writes (site : WriteSite) (payload : Bytes) :
    outbox.ensures (fun _ => Empty) (sendPayload site payload) l
      (some (intoWsMessage payload)) :=
  ensures_ask_then outbox (.handler (.onOutboundFrame (intoWsMessage payload))) fun _ _ _ => ⟨rfl,
    ensures_of_ask outbox (.write site (intoWsMessage payload)) fun _ _ _ => ⟨rfl, rfl⟩⟩

theorem sendSubscriptions_writes (site : WriteSite) (subscriptions : List E.Subscription)
    (empty : Empty l m) :
    outbox.ensures (fun _ => Empty) (sendSubscriptions site subscriptions) l m := by
  obtain rfl : m = none := empty
  induction subscriptions generalizing l with
  | nil => exact rfl
  | cons subscription rest ih =>
    refine ensures_ask_then outbox (.handler (.serializeSubscription subscription))
      fun _ payload _ => ⟨rfl, ?_⟩
    refine outbox.ensures_seq (sendPayload_writes site payload) fun result l m empty => ?_
    obtain rfl : m = none := empty
    cases result with
    | error error => exact rfl
    | ok _ => exact ih

theorem replaySubscriptions_writes (empty : Empty l m) :
    outbox.ensures (fun _ => Empty) replaySubscriptions l m :=
  aside_then (quiet_ask trivial) fun subscriptions =>
    sendSubscriptions_writes .replay subscriptions empty

theorem offerAuth_writes (empty : Empty l m) :
    outbox.ensures (fun _ => Empty) offerAuth l m := by
  obtain rfl : m = none := empty
  refine ensures_ask_then outbox (.handler .generateAuth) fun _ payload _ => ⟨rfl, ?_⟩
  cases payload with
  | none => exact rfl
  | some payload => exact sendPayload_writes .auth payload

theorem applyCommand_writes (command : ManagedWsCommand E.Subscription) (empty : Empty l m) :
    outbox.ensures (fun _ => Empty) (applyCommand command) l m := by
  obtain rfl : m = none := empty
  refine ensures_ask_then outbox (.enterApply command) fun _ _ _ => ⟨rfl, ?_⟩
  cases command with
  | send payload => exact sendPayload_writes .command payload
  | updateSubscriptions action =>
    refine aside_then (quiet_ask trivial) fun updated => ?_
    cases updated with
    | error error => exact rfl
    | ok subscriptions => exact sendSubscriptions_writes .update subscriptions rfl
  | forceReconnect reason => exact rfl
  | shutdown => exact rfl

theorem quiet_rearm : Proc.Quiet Aside (rearmPing : Managed E Unit) :=
  (quiet_ask trivial).bind fun _ => quiet_ask trivial

theorem tick_writes (kind : LoopKind) (empty : Empty l m) :
    outbox.ensures (fun _ => Empty) (hooksOf kind : Hooks E).tick l m := by
  obtain rfl : m = none := empty
  cases kind with
  | plain => exact rfl
  | healthChecked =>
    refine aside_then (quiet_ask trivial) fun (stale : Bool) => ?_
    cases stale with
    | true => exact rfl
    | false =>
      refine aside_then (quiet_ask trivial) fun (stale : Bool) => ?_
      cases stale with
      | true => exact rfl
      | false =>
        refine ensures_ask_then outbox (.ping .createPing) fun _ created _ => ⟨rfl, ?_⟩
        cases created with
        | none => exact aside_then quiet_rearm fun _ => rfl
        | some frame =>
          refine writes_then .ping frame fun result => ?_
          cases result with
          | error error => exact aside_then (quiet_ask trivial) fun _ => rfl
          | ok _ =>
            exact aside_then (quiet_ask trivial) fun _ => aside_then quiet_rearm fun _ => rfl

theorem intercept_writes (kind : LoopKind) (frame : WsFrame) (empty : Empty l m) :
    outbox.ensures (fun _ => Empty) ((hooksOf kind : Hooks E).intercept frame) l m := by
  obtain rfl : m = none := empty
  cases kind with
  | plain => exact rfl
  | healthChecked =>
    refine ensures_ask_then outbox (.ping (.handleInbound frame)) fun _ result _ => ⟨rfl, ?_⟩
    cases result with
    | notPong => exact rfl
    | invalidPong => exact aside_then (quiet_ask trivial) fun _ => rfl
    | pongReceived rtt =>
      cases rtt with
      | none => exact rfl
      | some rtt => exact aside_then (quiet_ask trivial) fun _ => rfl
    | reply reply =>
      refine writes_then .pong reply fun written => ?_
      cases written with
      | error error => exact aside_then (quiet_ask trivial) fun _ => rfl
      | ok _ => exact aside_then (quiet_ask trivial) fun _ => rfl

theorem select_empty (pinging : Bool) (empty : Empty l m) :
    outbox.ensures (afterSelect Empty Empty (fun _ => Empty) (fun _ => Empty) (fun _ => Empty))
      (sessionSelect pinging) l m := by
  obtain rfl : m = none := empty
  have next : ∀ (arm : Option (Arm E)) l, afterSelect Empty Empty (fun _ => Empty)
      (fun _ => Empty) (fun _ => Empty) arm l none := by
    intro arm l
    unfold afterSelect
    split <;> exact rfl
  cases pinging with
  | true => exact ensures_of_ask outbox .selectWithPing fun _ arm _ => ⟨rfl, next arm l⟩
  | false => exact ensures_ask_then outbox .select fun _ arm _ => ⟨rfl, next (some arm) l⟩

end Blocks

theorem outbox_outline (url : String) (kind : LoopKind) :
    Outline (outbox : ManagedMonitor E _) (hooksOf kind) url outboxJunctions where
  hooks := reporting_hooks (aside_ignored.mono aside_of_reports) (fun _ _ => id) kind
  start := fun empty => aside_block (quiet_ask trivial) (fun _ => id) fun _ => empty
  dial := by
    intro l m empty
    refine ensures_of_ask outbox (.connect url .default) fun time result _ => ⟨empty, ?_⟩
    obtain rfl : m = none := empty
    exact empty_orElse _ result l none rfl
  refuse := fun empty => aside_block (quiet_storeThenDecide _) aside_of_closes fun _ => empty
  greet := fun empty => aside_block quiet_greeting aside_of_greets fun _ => empty
  auth := fun empty => outbox.ensures_mono (empty_orElse _) (offerAuth_writes empty)
  mode := by
    intro l m empty
    have quiet : Proc.Quiet Aside (handler .sessionMode : Managed E _) := quiet_ask trivial
    refine aside_ignored.ensures quiet fun mode => ?_
    split <;> exact empty
  replay := fun empty => outbox.ensures_mono (empty_orElse _) (replaySubscriptions_writes empty)
  fail := fun empty => aside_block (quiet_decideThenStore _) aside_of_closes fun _ => empty
  select := select_empty _
  tick := by
    intro l m empty
    refine outbox.ensures_mono ?_ (tick_writes kind empty)
    intro verdict l m empty
    cases verdict <;> exact empty
  park := fun empty _ _ => empty
  apply := fun empty _ _ => outbox.ensures_mono (empty_orElse _) (applyCommand_writes _ empty)
  inbound := fun empty => aside_block (quiet_ask trivial) (fun _ => id) fun _ => empty
  intercept := by
    intro frame l m empty
    refine outbox.ensures_mono ?_ (intercept_writes kind frame empty)
    intro verdict l m empty
    cases verdict <;> exact empty
  parse := by
    intro frame l m empty
    refine ensures_of_ask outbox (.handler (.parseFrame frame)) fun time outcome _ => ⟨empty, ?_⟩
    obtain rfl : m = none := empty
    match outcome with
    | .ok (.message action) => cases action <;> exact rfl
    | .ok (.serverError code message data) => exact rfl
    | .error error => exact rfl
  judge := by
    intro code message data l m empty
    have quiet : Proc.Quiet Aside
        (handler (.handleServerError code message data) : Managed E _) := quiet_ask trivial
    refine aside_ignored.ensures quiet fun action => ?_
    cases action <;> exact empty
  proceed := id
  authenticate := fun empty =>
    outbox.ensures_mono (empty_orElse _) (replaySubscriptions_writes empty)
  flush := by
    intro l m empty
    refine outbox.ensures_mono (empty_orElse _) (ensures_flush (fun _ _ _ => id) ?_ empty)
    exact fun command l m empty => applyCommand_writes command empty
  reply := by
    rintro payload l m rfl
    exact outbox.ensures_mono (empty_orElse _) (sendPayload_writes .reply payload)
  process := by
    intro message l m empty
    have quiet : Proc.Quiet Aside (handler (.handleMessage message) : Managed E _) :=
      quiet_ask trivial
    refine aside_ignored.ensures quiet fun result => ?_
    cases result <;> exact empty
  requested := id
  shutdown := id
  stop := fun empty => aside_block (quiet_ask trivial) (fun _ => id) fun _ => empty
  finish := fun empty => aside_block (quiet_ask trivial) (fun _ => id) fun _ => empty
  decide := fun empty => aside_block (quiet_decideReconnect _) aside_of_decides fun _ => empty
  abort := id
  wait := by
    intro delay l m empty
    refine aside_block (quiet_wait delay) aside_of_waits fun retry => ?_
    split <;> exact empty

def asked (t : List (ManagedEvent E)) : List WsFrame := t.filterMap askedOf

def written (t : List (ManagedEvent E)) : List WsFrame := t.filterMap writtenOf

/-- A call that asks is made with nothing left to write. -/
theorem empty_of_asked {due : Option WsFrame} {e : ManagedEvent E} {frame : WsFrame}
    (fits : Fits due e.op.2) (asks : askedOf e = some frame) : due = none := by
  obtain ⟨⟨l, op⟩, time, val⟩ := e
  cases op with
  | handler call => cases call <;> first | exact fits | exact nomatch asks
  | ping call => cases call <;> first | exact fits | exact nomatch asks
  | enterApply command => exact fits
  | _ => exact nomatch asks

theorem due_of_written {due : Option WsFrame} {e : ManagedEvent E} {frame : WsFrame}
    (fits : Fits due e.op.2) (writes : writtenOf e = some frame) :
    due = some frame ∧ askedOf e = none := by
  obtain ⟨⟨l, op⟩, time, val⟩ := e
  cases op with
  | write site sent =>
    cases writes
    exact ⟨fits, rfl⟩
  | _ => exact nomatch writes

theorem orderly_of_fits {due : Option WsFrame} {e : ManagedEvent E} (fits : Fits due e.op.2) :
    OnePlaceBuffers.Orderly askedOf writtenOf due e where
  taking := fun _ asks => empty_of_asked fits asks
  giving := fun _ writes => due_of_written fits writes

theorem empty_of_connect {due : Option WsFrame} {e : ManagedEvent E} (fits : Fits due e.op.2)
    (connects : Connects e) : due = none ∧ askedOf e = none := by
  obtain ⟨⟨l, op⟩, time, val⟩ := e
  cases op with
  | connect url buffers => exact ⟨fits, rfl⟩
  | _ => exact connects.elim

/-- Every frame that is asked for is written to the same connection, in order and once. -/
structure Sent (t : List (ManagedEvent E)) (q : Task E) : Prop where
  -- only the frame that is due is captured or written, and the next question waits
  fits : ∀ before e after, t = before ++ e :: after → Fits (stillDue before) e.op.2
  inOrder : asked (sinceConnect t) = written (sinceConnect t) ++ (stillDue t).toList
  -- at the top of a loop and at the return nothing is left to write
  atRest : ∀ result, q = .ret result → stillDue t = none

theorem sent_of_fits {t : List (ManagedEvent E)}
    (fits : ∀ before e after, t = before ++ e :: after → Fits (stillDue before) e.op.2) :
    asked (sinceConnect t) = written (sinceConnect t) ++ (stillDue t).toList :=
  OnePlaceBuffers.conserved (fun before e after cut => orderly_of_fits (fits before e after cut))
    fun before e after cut connects =>
      empty_of_connect (fits before e after cut) (of_decide_eq_true connects)

section Runs
variable {url : String} {kind : LoopKind} {t : List (ManagedEvent E)} {q : Task E}

theorem outbox_run (run : Run (managedLoop url kind) t q) :
    (∀ before e after, t = before ++ e :: after → Fits (stillDue before) e.op.2) ∧
      ∀ result, q = .ret result → stillDue t = none := by
  rw [managedLoop_eq] at run
  have start : (outboxJunctions : Junctions E _).top Locals.initial none := rfl
  obtain ⟨safe, rest⟩ := (outbox_outline url kind).run_rest (· = none) (fun _ _ => id)
    (fun _ _ => id) (fun _ _ => id) (fun _ _ => trivial) start run
  exact ⟨(Monitor.along_iff _).mp safe, rest⟩

theorem frames_sent (run : Run (managedLoop url kind) t q) : Sent t q := by
  obtain ⟨fits, rest⟩ := outbox_run run
  exact ⟨fits, sent_of_fits fits, rest⟩

end Runs

/-- The handler authenticates, and a command has a payload to send. -/
def talkingScript : Nat → (op : Op bareEndpoint) → op.Ans
  | _, .handler .generateAuth => some ⟨#[1]⟩
  | _, .select => .command (some (.send ⟨#[2]⟩))
  | _, op => bareAnswer op

def talkingRun : List (ManagedEvent bareEndpoint) × Task bareEndpoint :=
  trial (managedLoop "ws://peer" .plain) talkingScript 16

theorem talking_sent :
    written (sinceConnect talkingRun.1) = [intoWsMessage ⟨#[1]⟩, intoWsMessage ⟨#[2]⟩] ∧
      Sent talkingRun.1 talkingRun.2 :=
  ⟨rfl, frames_sent (trial_run _ talkingScript 16)⟩

end OutboundRouting
