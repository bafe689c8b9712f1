import SharedWs.ManagedBlocks

/-!
# How often the subscriptions are replayed on a connection

A replay is started by a public session when it opens and by every message that
reports the session authenticated. Nothing records that one has been made, so
there are as many replays on a connection as there were reasons for one.
-/
namespace SubscriptionReplay

open InteractionPrograms InteractionMonitors WsFrames WsTypes ManagedOps ManagedLoop HookedLoop
open LoopOutline ManagedBlocks

variable {E : Endpoint}

/-- What has happened on the current connection. -/
structure Replay (E : Endpoint) where
  /-- Reasons for a replay. -/
  triggers : Nat
  /-- Calls of `initial_subscriptions`. -/
  calls : Nat
  /-- Everything these calls returned. -/
  offered : List E.Subscription
  /-- The subscription serialized last. -/
  serialized : Option E.Subscription
  /-- The subscriptions a replay has written. -/
  written : List E.Subscription

namespace Replay

def fresh : Replay E := ⟨0, 0, [], none, []⟩

def after (m : Replay E) : ManagedEvent E → Replay E
  | ⟨(_, .connect _ _), _⟩ => fresh
  | ⟨(_, .handler .sessionMode), ⟨_, .publicSession⟩⟩ => { m with triggers := m.triggers + 1 }
  | ⟨(_, .handler (.parseFrame _)), ⟨_, .ok (.message .sessionAuthenticated)⟩⟩ =>
    { m with triggers := m.triggers + 1 }
  | ⟨(_, .handler .initialSubscriptions), ⟨_, subscriptions⟩⟩ =>
    { m with calls := m.calls + 1, offered := m.offered ++ subscriptions }
  | ⟨(_, .handler (.serializeSubscription subscription)), _⟩ =>
    { m with serialized := some subscription }
  | ⟨(_, .write .replay _), _⟩ => { m with written := m.written ++ m.serialized.toList }
  | _ => m

/-- One call at most, and nothing of its result written twice. -/
structure Once (m : Replay E) : Prop where
  called : m.calls ≤ 1
  written : m.written <+: m.offered

/-- Every reason so far has led to a complete replay. -/
structure Settled (m : Replay E) : Prop where
  answered : m.calls = m.triggers
  complete : m.written = m.offered

/-- The last replay may have been given up. -/
structure Answered (m : Replay E) : Prop where
  answered : m.calls = m.triggers
  started : m.written <+: m.offered

/-- A replay comes next. -/
structure Triggered (m : Replay E) : Prop where
  due : m.triggers = m.calls + 1
  complete : m.written = m.offered

/-- A replay is under way and the subscriptions `rest` are still to be written. -/
structure Sending (rest : List E.Subscription) (m : Replay E) : Prop where
  answered : m.calls = m.triggers
  left : m.offered = m.written ++ rest

theorem Settled.answers {m : Replay E} (settled : Settled m) : Answered m :=
  ⟨settled.answered, [], (List.append_nil _).trans settled.complete⟩

theorem Sending.answers {rest : List E.Subscription} {m : Replay E} (sending : Sending rest m) :
    Answered m :=
  ⟨sending.answered, rest, sending.left.symm⟩

theorem settled_fresh : Settled (fresh : Replay E) := ⟨rfl, rfl⟩

end Replay

open Replay

def replayOf (t : List (ManagedEvent E)) : Replay E := t.foldl Replay.after .fresh

theorem replayOf_snoc (t : List (ManagedEvent E)) (e : ManagedEvent E) :
    replayOf (t ++ [e]) = (replayOf t).after e := by
  simp [replayOf]

/-- On a connection each call finds every earlier reason answered, by itself if need be. -/
def replays : ManagedMonitor E (Replay E) where
  step := Replay.after
  rely := fun _ _ => True
  safe := fun m e => ¬ Connects e →
    (m.after e).calls = m.triggers ∧ (m.after e).written <+: (m.after e).offered

/-- Calls that neither give a reason for a replay nor belong to one. -/
def Aside : Op E → Prop
  | .connect _ _ | .handler .sessionMode | .handler (.parseFrame _)
  | .handler .initialSubscriptions => False
  | .write site _ => site ≠ .replay
  | _ => True

theorem after_aside {op : Op E} (aside : Aside op) (m : Replay E) (l : Locals E) (time : Instant)
    (val : op.Ans) :
    ∃ serialized, m.after (event l op time val) = { m with serialized := serialized } := by
  match op with
  | .handler (.serializeSubscription subscription) => exact ⟨some subscription, rfl⟩
  | .write site frame =>
    refine ⟨m.serialized, ?_⟩
    cases site with
    | replay => exact absurd rfl aside
    | _ => rfl
  | .handler .resetState | .handler .onOpen | .handler (.onConnectionOpened _)
  | .handler .generateAuth | .handler (.onOutboundFrame _) | .handler (.onInboundFrame _)
  | .handler (.handleMessage _) | .handler (.handleServerError _ _ _)
  | .handler (.classifyDisconnect _) | .handler (.onConnectionDisconnected _ _)
  | .handler (.updateSubscriptions _) | .storeStatus _ | .reconnect _ | .monitor _ | .ping _
  | .select | .selectWithPing | .startPingSleep _ | .resetPingSleep _ | .enterWait _
  | .waitSelect _ | .enterApply _ => exact ⟨m.serialized, rfl⟩

theorem aside_of_sends {site : WriteSite} (other : site ≠ .replay) (op : Op E)
    (sends : Sends site op) : Aside op := by
  match op with
  | .handler (.onOutboundFrame _) => trivial
  | .handler (.serializeSubscription _) => trivial
  | .write _ _ =>
    cases sends
    exact other

theorem aside_of_applies (op : Op E) (applies : Applies op) : Aside op := by
  match op with
  | .handler (.updateSubscriptions _) => trivial
  | .handler (.onOutboundFrame _) => trivial
  | .handler (.serializeSubscription _) => trivial
  | .write _ _ =>
    rcases applies with rfl | rfl
    · exact nofun
    · exact nofun

theorem aside_of_hands (op : Op E) (hands : Hands op) : Aside op := by
  match op with
  | .enterApply _ => trivial
  | .handler call => exact aside_of_applies (.handler call) hands
  | .write site frame => exact aside_of_applies (.write site frame) hands

theorem aside_of_greets (op : Op E) (greets : Greets op) : Aside op := by
  match op with
  | .reconnect _ => trivial
  | .storeStatus _ => trivial
  | .handler .resetState => trivial
  | .handler .onOpen => trivial
  | .handler (.onConnectionOpened _) => trivial
  | .handler (.handleMessage _) => trivial

theorem aside_of_offersAuth (op : Op E) (offers : OffersAuth op) : Aside op := by
  match op with
  | .handler .generateAuth => trivial
  | .handler (.onOutboundFrame _) => trivial
  | .handler (.serializeSubscription _) => trivial
  | .write _ _ =>
    cases offers
    exact nofun

theorem aside_of_closes (op : Op E) (closes : Closes op) : Aside op := by
  match op with
  | .storeStatus _ => trivial
  | .reconnect _ => trivial
  | .handler (.classifyDisconnect _) => trivial
  | .handler (.onConnectionDisconnected _ _) => trivial
  | .handler (.handleMessage _) => trivial

theorem aside_of_health (op : Op E) (health : HealthOp op) : Aside op := by
  cases op <;> trivial

theorem aside_of_pulses (op : Op E) (pulses : Pulses op) : Aside op := by
  match op with
  | .handler (.onOutboundFrame _) => trivial
  | .write _ _ =>
    rcases pulses with rfl | rfl
    · exact nofun
    · exact nofun
  | .monitor _ | .ping _ | .startPingSleep _ | .resetPingSleep _ => trivial

theorem aside_of_selects (op : Op E) (selects : Selects op) : Aside op := by
  cases op <;> trivial

theorem aside_of_waits (op : Op E) (waits : Waits op) : Aside op := by
  cases op <;> trivial

theorem keeps_answered : Keeps replays Aside fun (_ : Locals E) => Answered := by
  intro l m op time val aside answered _
  obtain ⟨serialized, same⟩ := after_aside aside m l time val
  have kept : Answered (m.after (event l op time val)) := by
    rw [same]
    exact ⟨answered.answered, answered.started⟩
  refine ⟨fun _ => ?_, kept⟩
  rw [same]
  exact ⟨answered.answered, answered.started⟩

theorem keeps_settled : Keeps replays Aside fun (_ : Locals E) => Settled := by
  intro l m op time val aside settled relied
  obtain ⟨serialized, same⟩ := after_aside aside m l time val
  refine ⟨(keeps_answered l m op time val aside settled.answers relied).1, ?_⟩
  change Settled (m.after (event l op time val))
  rw [same]
  exact ⟨settled.answered, settled.complete⟩

section Blocks
variable {l : Locals E} {m : Replay E}

/-- Each subscription is serialized and written once, up to the first failure. -/
theorem sends_rest {rest : List E.Subscription} (sending : Sending rest m) :
    replays.ensures (fun result _ m' => match result with
      | .ok _ => Settled m'
      | .error _ => Answered m') (sendSubscriptions .replay rest) l m := by
  induction rest generalizing m with
  | nil =>
    have complete := sending.left
    rw [List.append_nil] at complete
    exact ⟨sending.answered, complete.symm⟩
  | cons subscription rest ih =>
    have started := sending.answers.started
    have written : Sending rest { m with
        serialized := some subscription, written := m.written ++ [subscription] } := by
      refine ⟨sending.answered, ?_⟩
      rw [sending.left, List.append_assoc, List.singleton_append]
    refine ensures_ask_then _ _ fun time payload _ => ⟨fun _ => ⟨sending.answered, started⟩, ?_⟩
    refine replays.ensures_bind.mpr ?_
    refine ensures_ask_then _ _ fun time _ _ => ⟨fun _ => ⟨sending.answered, started⟩, ?_⟩
    refine ensures_of_ask replays (.write .replay _) fun time result _ => ⟨fun _ => ?_, ?_⟩
    · exact ⟨written.answered, written.answers.started⟩
    · cases result with
      | error error => exact written.answers
      | ok _ => exact ih written

theorem replay_answers (triggered : Triggered m) :
    replays.ensures (fun result _ m' => match result with
      | .ok _ => Settled m'
      | .error _ => Answered m') replaySubscriptions l m := by
  refine ensures_ask_then _ _ fun time subscriptions _ => ?_
  have sending : Sending subscriptions { m with
      calls := m.calls + 1, offered := m.offered ++ subscriptions } := by
    refine ⟨triggered.due.symm, ?_⟩
    rw [triggered.complete]
  exact ⟨fun _ => ⟨sending.answered, sending.answers.started⟩, sends_rest sending⟩

end Blocks

/-- What a parsed message asks for. -/
def afterParse : WsMessageAction E.Message → Replay E → Prop
  | .sessionAuthenticated => Triggered
  | _ => Settled

def replayJunctions : Junctions E (Replay E) where
  top := fun _ => Answered
  dialing := fun _ => Answered
  refused := fun _ _ => Answered
  opened := fun _ => Settled
  fresh := fun _ => Settled
  greeted := fun _ => Settled
  ready := fun _ => Settled
  replaying := fun _ => Triggered
  broken := fun _ _ => Answered
  session := fun _ => Settled
  ticked := fun _ => Settled
  holding := fun _ _ => Settled
  reading := fun _ _ => Settled
  passed := fun _ _ => Settled
  parsed := fun action _ => afterParse action
  judging := fun _ _ _ _ => Settled
  flushing := fun _ => Settled
  stopping := fun _ => Answered
  leaving := fun _ _ => Answered
  closing := fun _ _ => Answered
  down := fun _ _ => Answered
  done := fun _ => Answered

theorem replay_steady : Steady replays (replayJunctions (E := E)) := by
  have answered := keeps_answered.mono (aside_of_health (E := E))
  have settled := keeps_settled.mono (aside_of_health (E := E))
  constructor
  case fresh => exact fun _ _ opened => opened
  case dialing => exact answered
  case refused => exact fun _ => answered
  case opened => exact settled
  case broken => exact fun _ => answered
  case session => exact settled
  case reading => exact fun _ => settled
  case judging => exact fun _ _ _ => settled
  case leaving => exact fun _ => answered
  case closing => exact fun _ => answered
  case retrying =>
    exact fun l m op time val => answered l m op time val

theorem settled_orElse {context : String} (result : Except WebSocketError Unit) (l : Locals E)
    (m : Replay E) (settled : Settled m) :
    orElse (fun (_ : Locals E) => Settled) (fun _ _ => Answered) context result l m :=
  orElse_of settled (fun _ => settled.answers) context result

theorem replayed_orElse {context : String} (result : Except WebSocketError Unit) (l : Locals E)
    (m : Replay E) (next : match result with
      | .ok _ => Settled m
      | .error _ => Answered m) :
    orElse (fun (_ : Locals E) => Settled) (fun _ _ => Answered) context result l m := by
  cases result with
  | ok _ => exact next
  | error _ => exact next

theorem apply_settled (command : ManagedWsCommand E.Subscription) (l : Locals E) (m : Replay E)
    (settled : Settled m) : replays.ensures (fun _ _ => Settled) (applyCommand command) l m :=
  (keeps_settled.mono aside_of_hands).ensures (quiet_applyCommand command) settled

theorem replay_outline (url : String) (kind : LoopKind) :
    Outline replays (hooksOf kind) url (replayJunctions (E := E)) := by
  have answered := keeps_answered (E := E)
  have settled := keeps_settled (E := E)
  constructor
  case hooks => exact replay_steady.hooks (hooksOf_silent kind)
  case start => exact fun top => answered.ensures (quiet_ask (by trivial)) top
  case dial =>
    intro l m dialing
    refine ensures_of_ask _ _ fun time result _ => ⟨fun other => absurd trivial other, ?_⟩
    exact settled_orElse result l _ settled_fresh
  case refuse =>
    exact fun refused => (answered.mono aside_of_closes).ensures (quiet_storeThenDecide _) refused
  case greet => exact fun fresh => (settled.mono aside_of_greets).ensures quiet_greeting fresh
  case auth =>
    exact fun greeted => replays.ensures_mono settled_orElse
      ((settled.mono aside_of_offersAuth).ensures quiet_offerAuth greeted)
  case mode =>
    intro l m ready
    refine (ensures_handler _).mpr fun time mode _ => ?_
    have started := ready.answers.started
    cases mode with
    | publicSession =>
      exact ⟨fun _ => ⟨ready.answered, started⟩, congrArg (· + 1) ready.answered.symm,
        ready.complete⟩
    | authGated => exact ⟨fun _ => ⟨ready.answered, started⟩, ready⟩
  case replay =>
    exact fun triggered => replays.ensures_mono replayed_orElse (replay_answers triggered)
  case fail =>
    exact fun broken => (answered.mono aside_of_closes).ensures (quiet_decideThenStore _) broken
  case select =>
    intro l m session
    refine replays.ensures_mono ?_
      ((settled.mono aside_of_selects).ensures (quiet_sessionSelect _) session)
    intro arm l' m' settled
    match arm with
    | none => exact settled
    | some (.command none) => exact settled.answers
    | some (.command (some .shutdown)) => exact settled.answers
    | some (.command (some (.forceReconnect _))) => exact settled.answers
    | some (.command (some (.send _))) => exact settled
    | some (.command (some (.updateSubscriptions _))) => exact settled
    | some (.frame none) => exact settled.answers
    | some (.frame (some (.error _))) => exact settled.answers
    | some (.frame (some (.ok _))) => exact settled
  case tick =>
    intro l m ticked
    refine replays.ensures_mono ?_ ((settled.mono aside_of_pulses).ensures (quiet_tick kind) ticked)
    intro verdict l' m' settled
    cases verdict with
    | none => exact settled
    | some cause => exact settled.answers
  case park => exact fun holding _ _ => holding
  case apply =>
    exact fun holding _ _ => replays.ensures_mono settled_orElse (apply_settled _ _ _ holding)
  case inbound => exact fun reading => settled.ensures (quiet_ask (by trivial)) reading
  case intercept =>
    intro frame l m reading
    refine replays.ensures_mono ?_
      ((settled.mono aside_of_pulses).ensures (quiet_intercept kind frame) reading)
    intro verdict l' m' settled
    cases verdict with
    | pass => exact settled
    | again => exact settled
    | leave cause => exact settled.answers
  case parse =>
    intro frame l m reading
    refine (ensures_handler _).mpr fun time outcome _ => ?_
    have started := reading.answers.started
    match outcome with
    | .ok (.message .sessionAuthenticated) =>
      exact ⟨fun _ => ⟨reading.answered, started⟩, congrArg (· + 1) reading.answered.symm,
        reading.complete⟩
    | .ok (.message .continue) => exact ⟨fun _ => ⟨reading.answered, started⟩, reading⟩
    | .ok (.message (.send _)) => exact ⟨fun _ => ⟨reading.answered, started⟩, reading⟩
    | .ok (.message (.process _)) => exact ⟨fun _ => ⟨reading.answered, started⟩, reading⟩
    | .ok (.message (.reconnect _)) => exact ⟨fun _ => ⟨reading.answered, started⟩, reading⟩
    | .ok (.message .shutdown) => exact ⟨fun _ => ⟨reading.answered, started⟩, reading⟩
    | .ok (.serverError _ _ _) => exact ⟨fun _ => ⟨reading.answered, started⟩, reading⟩
    | .error _ => exact ⟨fun _ => ⟨reading.answered, started⟩, reading⟩
  case judge =>
    intro code message data l m judging
    refine replays.ensures_mono ?_ (settled.ensures (quiet_handler (by trivial)) judging)
    intro action l' m' settled
    cases action with
    | «continue» => exact settled
    | reconnect => exact settled.answers
    | fatal => exact settled.answers
  case proceed => exact id
  case authenticate =>
    exact fun triggered => replays.ensures_mono replayed_orElse (replay_answers triggered)
  case flush =>
    exact fun flushing => replays.ensures_mono settled_orElse
      (ensures_flush (fun _ _ _ settled => settled) apply_settled flushing)
  case reply =>
    intro payload l m parsed
    have other : WriteSite.reply ≠ .replay := nofun
    exact replays.ensures_mono settled_orElse
      ((settled.mono (aside_of_sends other)).ensures (quiet_sendPayload _ _) parsed)
  case process =>
    intro message l m parsed
    refine replays.ensures_mono ?_ (settled.ensures (quiet_handler (by trivial)) parsed)
    intro result l' m' settled
    cases result with
    | ok _ => exact settled
    | error error => exact settled.answers
  case requested => exact Settled.answers
  case shutdown => exact Settled.answers
  case stop => exact fun stopping => answered.ensures (quiet_ask (by trivial)) stopping
  case finish => exact fun leaving => answered.ensures (quiet_ask (by trivial)) leaving
  case decide =>
    exact fun closing => (answered.mono aside_of_closes).ensures
      ((quiet_decideReconnect _).mono closes_of_decides) closing
  case abort => exact id
  case wait =>
    intro delay l m down
    refine replays.ensures_mono ?_ ((answered.mono aside_of_waits).ensures (quiet_wait delay) down)
    intro retry l' m' answered
    cases retry with
    | true => exact answered
    | false => exact answered

/-- On a connection the subscriptions have been replayed at most once exactly if
there has been at most one reason: the public mode and the messages that report
the session authenticated, taken together. -/
theorem replayed_once_iff (url : String) (kind : LoopKind) {t : List (ManagedEvent E)}
    {e : ManagedEvent E} {q : Task E} (run : Run (managedLoop url kind) (t ++ [e]) q)
    (within : ¬ Connects e) : (replayOf (t ++ [e])).Once ↔ (replayOf t).triggers ≤ 1 := by
  rw [managedLoop_eq] at run
  have start : Answered (Replay.fresh : Replay E) := settled_fresh.answers
  have relied : replays.Along replays.rely .fresh (t ++ [e]) :=
    replays.along_iff.mpr fun _ _ _ _ => trivial
  have safe := ((replay_outline url kind).run (m := .fresh) start run relied).1
  obtain ⟨answered, started⟩ := replays.along_iff.mp safe t e [] rfl within
  change ((replayOf t).after e).calls = (replayOf t).triggers at answered
  rw [replayOf_snoc, ← answered]
  exact ⟨Once.called, fun called => ⟨called, started⟩⟩

/-- A public session with one subscription whose peer reports it authenticated. -/
def reauthenticated : Nat → (op : Op bareEndpoint) → op.Ans
  | _, .handler .initialSubscriptions => [()]
  | _, .select => .frame (some (.ok (.binary ByteArray.empty)))
  | _, .handler (.parseFrame _) => .ok (.message .sessionAuthenticated)
  | _, op => bareAnswer op

theorem replayed_on_open :
    (replayOf (trial (managedLoop "ws://peer" .plain) reauthenticated 13).1).written = [()] ∧
    (replayOf (trial (managedLoop "ws://peer" .plain) reauthenticated 13).1).Once := by
  let loop : Head → Managed bareEndpoint Flow := managedLoop "ws://peer" .plain
  have run := trial_run loop reauthenticated 13
  let frame : WsFrame := .text ⟨ByteArray.empty, by decide⟩
  have cut : (trial loop reauthenticated 13).1 = (trial loop reauthenticated 12).1 ++
    [event ⟨false, true, []⟩ (.write .replay frame) 12 (.ok ())] := rfl
  refine ⟨rfl, ?_⟩
  rw [cut] at run ⊢
  exact (replayed_once_iff "ws://peer" .plain run id).mpr (by decide)

theorem replayed_again :
    ∃ (t : List (ManagedEvent bareEndpoint)) (q : Task bareEndpoint),
      Run (managedLoop "ws://peer" .plain) t q ∧ ¬ (replayOf t).Once := by
  let loop : Head → Managed bareEndpoint Flow := managedLoop "ws://peer" .plain
  refine ⟨_, _, trial_run loop reauthenticated 20, fun once => ?_⟩
  exact absurd once.called (by decide)

end SubscriptionReplay
