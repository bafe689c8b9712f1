import SharedWs.InteractionProgress
import SharedWs.ManagedBlocks
import SharedWs.ProtocolPing

/-!
# Dead peers and the protocol heartbeat

The health-checked loop with `ProtocolPingPong` as its ping strategy, under a
clock that does not run backwards. A tick whose ping is unanswered ends the
connection when the timeout is shorter than the interval. Otherwise the tick can
find a younger ping, because each tick overwrites `last_ping`, and a silent peer
is never noticed.
-/
namespace DeadPeer

open InteractionPrograms InteractionMonitors InteractionProgress WsFrames WsTypes ManagedOps
open ManagedLoop HookedLoop LoopOutline ManagedBlocks ProtocolPing

variable {E : Endpoint}

/-- The ping timer has fired. -/
def Ticks : ManagedEvent E → Prop
  | ⟨(_, .selectWithPing), ⟨_, none⟩⟩ => True
  | _ => False

def ReadsPong : ManagedEvent E → Prop
  | ⟨(_, .selectWithPing), ⟨_, some (.frame (some (.ok (.pong _))))⟩⟩ => True
  | _ => False

/-- The end of a connection with `PongTimeout` is announced. -/
def TimesOut : ManagedEvent E → Prop
  | ⟨(_, .handler (.onConnectionDisconnected .pongTimeout _)), _⟩ => True
  | _ => False

/-- The end of a connection is announced, for whatever cause. -/
def Disconnects : ManagedEvent E → Prop
  | ⟨(_, .handler (.onConnectionDisconnected _ _)), _⟩ => True
  | _ => False

/-- What the loop may still do before it announces a `PongTimeout`. -/
def Dismisses : Op E → Prop
  | .storeStatus raw => raw = wsStatusToU8 .disconnected
  | .ping .isStale | .monitor .recordError | .handler (.classifyDisconnect .pongTimeout)
  | .reconnect .shouldRetry | .reconnect .nextDelay
  | .handler (.onConnectionDisconnected .pongTimeout _) => True
  | _ => False

/-- The strategy, the clock, its reading before the interval was last asked for, and the ping timer,
with two marks: a ping of this connection is unanswered, and the timer has fired in that state. -/
structure Pulse where
  strategy : ProtocolPingPong
  now : Instant
  asked : Instant
  deadline : Instant
  waiting : Bool
  doomed : Bool

def Pulse.start (interval timeout : Duration) : Pulse :=
  ⟨.new interval timeout, 0, 0, 0, false, false⟩

/-- At the end of a tick the source reads the clock, and then asks for the interval. The timer is
set from that reading, which may be as early as the answer before. -/
def Pulse.after (h : Pulse) : ManagedEvent E → Pulse
  | ⟨(_, .connect _ _), ⟨time, _⟩⟩ => { h with now := time, waiting := false, doomed := false }
  | ⟨(_, .ping call), ⟨time, _⟩⟩ =>
    { h with now := time, asked := if call = .interval then h.now else h.asked,
             strategy := (h.strategy.respond time call).2,
             waiting := h.waiting || call = .createPing }
  | ⟨(_, .startPingSleep interval), ⟨time, _⟩⟩ =>
    { h with now := time, deadline := time + interval }
  | ⟨(_, .resetPingSleep interval), ⟨time, _⟩⟩ =>
    { h with now := time, deadline := h.asked + interval }
  | ⟨(_, .selectWithPing), ⟨time, none⟩⟩ => { h with now := time, doomed := h.waiting }
  | ⟨(_, .selectWithPing), ⟨time, some (.frame (some (.ok (.pong _))))⟩⟩ =>
    { h with now := time, waiting := false }
  | ⟨(_, .handler (.onConnectionDisconnected _ _)), ⟨time, _⟩⟩ =>
    { h with now := time, doomed := false }
  | ⟨_, ⟨time, _⟩⟩ => { h with now := time }

/-- The strategy answers its calls and the timer does not fire early. A ping is
created at a later reading of the clock than the last pong. -/
def Answers (h : Pulse) : ManagedEvent E → Prop
  | ⟨(_, .ping call), ⟨time, val⟩⟩ => val = (h.strategy.respond time call).1 ∧
    (call = .createPing → ∀ pong, h.strategy.lastPong = some pong → pong < time)
  | ⟨(_, .selectWithPing), ⟨time, none⟩⟩ => h.deadline ≤ time
  | _ => True

def pulse : ManagedMonitor E Pulse where
  step := Pulse.after
  rely := fun h e => h.now ≤ e.ans.time ∧ Answers h e
  safe := fun h e => h.doomed = true → Dismisses e.op.2

section Detection
variable (E) (url : String) (interval timeout : Duration)

/-- Whenever the timer fires later than the timeout after a ping of the same
connection, with no pong read in between, the loop gets to `goal` by calls of the kind `via`. -/
def EndsAtTick (via : Op E → Prop) (goal : ManagedEvent E → Prop) : Prop :=
  ∀ {before between : List (ManagedEvent E)} {create tick : ManagedEvent E} {q : Task E},
    Run (managedLoop url .healthChecked) (before ++ create :: between ++ [tick]) q →
    pulse.Along pulse.rely (.start interval timeout) (before ++ create :: between ++ [tick]) →
    create.op.2 = .ping .createPing → (∀ d ∈ between, ¬ Connects d ∧ ¬ ReadsPong d) →
    Ticks tick → create.ans.time + timeout < tick.ans.time →
    LeadsFrom (Proc.turn (managedLoop url .healthChecked)) pulse (fun e => via e.op.2) goal
      (fun _ => False)
      (pulse.run (.start interval timeout) (before ++ create :: between ++ [tick])) q

/-- The connection ends there with `PongTimeout`. -/
def DetectsDeadPeer : Prop := EndsAtTick E url interval timeout Dismisses TimesOut

/-- It ends there at least somehow, before the loop waits for anything else. -/
def DropsDeadPeer : Prop :=
  EndsAtTick E url interval timeout (· ≠ .selectWithPing) Disconnects

end Detection

section Short
variable {interval timeout : Duration}

structure Configured (interval timeout : Duration) (h : Pulse) : Prop where
  period : h.strategy.interval = interval
  limit : h.strategy.timeout = timeout

/-- No timer has fired on an unanswered ping. -/
structure Calm (interval timeout : Duration) (h : Pulse) : Prop extends
    Configured interval timeout h where
  calm : h.doomed = false

/-- An unanswered ping is younger than every pong. -/
structure Pinged (interval timeout : Duration) (h : Pulse) : Prop extends
    Calm interval timeout h where
  sent : ∀ ping, h.strategy.lastPing = some ping → ping ≤ h.now
  unanswered : h.waiting = true → ∃ ping, h.strategy.lastPing = some ping ∧
    ∀ pong, h.strategy.lastPong = some pong → pong < ping

/-- The timer runs for a whole interval after the last ping. -/
structure Beating (interval timeout : Duration) (h : Pulse) : Prop extends
    Pinged interval timeout h where
  timer : ∀ ping, h.strategy.lastPing = some ping → ping + interval ≤ h.deadline

/-- The timer has just fired. -/
structure Ticked (interval timeout : Duration) (h : Pulse) : Prop where
  beating : Beating interval timeout { h with doomed := false }
  doomed : h.doomed = h.waiting
  fired : h.deadline ≤ h.now

/-- A connection that is being closed for `cause`. -/
structure Closing (interval timeout : Duration) (cause : WsDisconnectCause) (h : Pulse) :
    Prop extends Configured interval timeout h where
  timedOut : h.doomed = true → cause = .pongTimeout

theorem Calm.safe {h : Pulse} (calm : Calm interval timeout h) (e : ManagedEvent E) :
    pulse.safe h e := by
  intro doomed
  rw [calm.calm] at doomed
  cases doomed

theorem Calm.closing {h : Pulse} (calm : Calm interval timeout h) (cause : WsDisconnectCause) :
    Closing interval timeout cause h := by
  refine ⟨calm.toConfigured, fun doomed => ?_⟩
  rw [calm.calm] at doomed
  cases doomed

theorem Configured.after {h : Pulse} (configured : Configured interval timeout h)
    (e : ManagedEvent E) : Configured interval timeout (h.after e) := by
  rw [Pulse.after.eq_def]
  split
  case h_2 call time val =>
    obtain ⟨same, same'⟩ := h.strategy.respond_config time call
    exact ⟨same.trans configured.period, same'.trans configured.limit⟩
  all_goals exact ⟨configured.period, configured.limit⟩

/-- Only the timer can disturb the calm. -/
def Untimed : Op E → Prop
  | .selectWithPing => False
  | _ => True

theorem Calm.after {h : Pulse} (calm : Calm interval timeout h) {e : ManagedEvent E}
    (untimed : Untimed e.op.2) : Calm interval timeout (h.after e) := by
  refine ⟨calm.toConfigured.after e, ?_⟩
  rw [Pulse.after.eq_def]
  split
  case h_5 => exact untimed.elim
  all_goals first | rfl | exact calm.calm

theorem keeps_calm : Keeps pulse Untimed fun (_ : Locals E) h => Calm interval timeout h :=
  fun _ _ _ _ _ untimed calm _ => ⟨calm.safe _, calm.after untimed⟩

/-- Calls that leave the strategy, the timer and the marks alone. -/
def Idle : Op E → Prop
  | .connect _ _ | .selectWithPing | .startPingSleep _ | .resetPingSleep _
  | .handler (.onConnectionDisconnected _ _) => False
  | .ping .createPing | .ping .reset | .ping .interval | .ping (.handleInbound _) => False
  | _ => True

theorem after_idle (op : Op E) (idle : Idle op) (h : Pulse) (l : Locals E) (time : Instant)
    (val : op.Ans) : h.after (event l op time val) = { h with now := time } := by
  cases op with
  | handler call => cases call <;> first | exact idle.elim | rfl
  | ping call =>
    cases call with
    | isStale => simp [Pulse.after, event, ProtocolPingPong.respond]
    | _ => exact idle.elim
  | _ => first | exact idle.elim | rfl

/-- Such calls keep what the passing of time keeps. -/
theorem keeps_idle {P : Pulse → Prop} (calm : ∀ h, P h → Calm interval timeout h)
    (later : ∀ h time, P h → h.now ≤ time → P { h with now := time }) :
    Keeps pulse Idle fun (_ : Locals E) h => P h := by
  intro l h op time val idle holds relied
  refine ⟨(calm h holds).safe _, ?_⟩
  change P (h.after _)
  rw [after_idle op idle]
  exact later h time holds relied.1

theorem Pinged.later {h : Pulse} (pinged : Pinged interval timeout h) {time : Instant}
    (clock : h.now ≤ time) : Pinged interval timeout { h with now := time } where
  period := pinged.period
  limit := pinged.limit
  calm := pinged.calm
  sent := fun ping sent => Nat.le_trans (pinged.sent ping sent) clock
  unanswered := pinged.unanswered

theorem Beating.later {h : Pulse} (beating : Beating interval timeout h) {time : Instant}
    (clock : h.now ≤ time) : Beating interval timeout { h with now := time } :=
  { beating.toPinged.later clock with timer := beating.timer }

theorem keeps_pinged : Keeps pulse Idle fun (_ : Locals E) h => Pinged interval timeout h :=
  keeps_idle (fun _ pinged => pinged.toCalm) fun _ _ pinged => pinged.later

theorem keeps_beating : Keeps pulse Idle fun (_ : Locals E) h => Beating interval timeout h :=
  keeps_idle (fun _ beating => beating.toCalm) fun _ _ beating => beating.later

/-- A silent peer is stale at every tick, because the timer took longer than the
timeout. -/
theorem Ticked.stale {h : Pulse} (ticked : Ticked interval timeout h) (short : timeout < interval)
    (waiting : h.waiting = true) {time : Instant} (clock : h.now ≤ time) :
    h.strategy.isStale time = true := by
  obtain ⟨ping, sent, later⟩ := ticked.beating.unanswered waiting
  have timer : ping + interval ≤ h.deadline := ticked.beating.timer ping sent
  have fired := ticked.fired
  have limit : h.strategy.timeout = timeout := ticked.beating.limit
  refine (h.strategy.isStale_iff time).mpr ⟨ping, sent, ?_, later⟩
  rw [limit]
  simp only [Duration, Instant] at *
  omega

section Steps
variable {α : Type} {post : α → Locals E → Pulse → Prop} {l : Locals E} {h : Pulse}

/-- A call that only takes time. -/
theorem idle_then (op : Op E) (idle : Idle op) {P : Pulse → Prop}
    (keeps : Keeps pulse Idle fun (_ : Locals E) h => P h) {f : op.Ans → Managed E α} (holds : P h)
    (rest : ∀ val h', P h' → pulse.ensures post (f val) l h') :
    pulse.ensures post (ask op >>= f) l h := by
  refine ensures_ask_then pulse op fun time val relied => ?_
  obtain ⟨safe, kept⟩ := keeps l h op time val idle holds relied
  exact ⟨safe, rest val _ kept⟩

end Steps

/-- The interval was asked for after the last ping. -/
structure Asked (interval timeout : Duration) (h : Pulse) : Prop extends
    Pinged interval timeout h where
  before : ∀ ping, h.strategy.lastPing = some ping → ping ≤ h.asked

/-- A timer started now runs longer than any ping is old. -/
theorem Pinged.started {h : Pulse} (pinged : Pinged interval timeout h) {time : Instant}
    (clock : h.now ≤ time) :
    Beating interval timeout { h with now := time, deadline := time + interval } :=
  { pinged.later clock with
    timer := fun ping sent =>
      Nat.add_le_add_right (Nat.le_trans (pinged.sent ping sent) clock) interval }

theorem Asked.rearmed {h : Pulse} (asked : Asked interval timeout h) {time : Instant}
    (clock : h.now ≤ time) :
    Beating interval timeout { h with now := time, deadline := h.asked + interval } :=
  { asked.toPinged.later clock with
    timer := fun ping sent => Nat.add_le_add_right (asked.before ping sent) interval }

/-- The strategy answers with its interval. -/
theorem interval_then {α : Type} {post : α → Locals E → Pulse → Prop} {l : Locals E} {h : Pulse}
    {f : Duration → Managed E α} (pinged : Pinged interval timeout h)
    (rest : ∀ h', Asked interval timeout h' → pulse.ensures post (f interval) l h') :
    pulse.ensures post (ping .interval >>= f) l h := by
  refine ensures_ask_then pulse (.ping .interval) fun time answer relied => ?_
  have clock : h.now ≤ time := relied.1
  have same : answer = interval := relied.2.1.trans pinged.period
  have after : h.after (event l (.ping .interval) time answer) =
      { h with now := time, asked := h.now } := by
    simp [Pulse.after, event, ProtocolPingPong.respond]
  refine ⟨pinged.toCalm.safe _, ?_⟩
  change pulse.ensures post _ l (h.after (event l (.ping .interval) time answer))
  rw [after, same]
  have later := pinged.later clock
  exact rest _ ⟨⟨⟨⟨later.period, later.limit⟩, later.calm⟩, later.sent, later.unanswered⟩,
    pinged.sent⟩

theorem rearm_beats {l : Locals E} {h : Pulse} (pinged : Pinged interval timeout h) :
    pulse.ensures (fun _ _ h' => Beating interval timeout h') rearmPing l h := by
  refine interval_then pinged fun h asked => ?_
  exact ensures_of_ask pulse (.resetPingSleep interval) fun _ _ relied =>
    ⟨asked.toCalm.safe _, asked.rearmed relied.1⟩

theorem Pinged.created {h : Pulse} (pinged : Pinged interval timeout h) {time : Instant}
    (resolution : ∀ pong, h.strategy.lastPong = some pong → pong < time) :
    Pinged interval timeout
      { h with now := time, strategy := (h.strategy.createPing time).2, waiting := true } where
  period := pinged.period
  limit := pinged.limit
  calm := pinged.calm
  sent := fun _ sent => Nat.le_of_eq (Option.some.inj sent).symm
  unanswered := fun _ => ⟨time, rfl, resolution⟩

theorem create_pings {l : Locals E} {h : Pulse} (pinged : Pinged interval timeout h)
    {time : Instant} {created : Option WsFrame}
    (relied : pulse.rely h (event l (.ping .createPing) time created)) :
    (∃ frame, created = some frame) ∧
      Pinged interval timeout (h.after (event l (.ping .createPing) time created)) := by
  obtain ⟨_, answered, resolution⟩ := relied
  refine ⟨⟨_, answered⟩, ?_⟩
  simpa [Pulse.after, event, ProtocolPingPong.respond] using pinged.created (resolution rfl)

/-- A tick on an unanswered ping leaves with `PongTimeout`. -/
theorem tick_ends (short : timeout < interval) {l : Locals E} {h : Pulse}
    (ticked : Ticked interval timeout h) :
    pulse.ensures (fun verdict _ h' => match verdict with
      | none => Beating interval timeout h'
      | some cause => Closing interval timeout cause h') pingTick l h := by
  refine ensures_ask_then pulse (.ping .isStale) fun time stale relied => ?_
  have clock : h.now ≤ time := relied.1
  have answered : stale = h.strategy.isStale time := relied.2.1
  refine ⟨fun _ => trivial, ?_⟩
  change pulse.ensures _ _ l (h.after (event l (.ping .isStale) time stale))
  rw [after_idle (.ping .isStale) trivial]
  cases stale with
  | true => exact ⟨⟨ticked.beating.period, ticked.beating.limit⟩, fun _ => rfl⟩
  | false =>
    -- not stale, so the ping was answered and the mark is not set
    have calm : h.doomed = false := by
      rw [ticked.doomed, ← Bool.not_eq_true]
      intro waiting
      rw [ticked.stale short waiting clock] at answered
      cases answered
    have beating : Beating interval timeout { h with now := time } := by
      have beating := ticked.beating.later clock
      rw [← calm] at beating
      exact beating
    refine idle_then (.monitor .isStale) trivial keeps_beating beating fun stale h beating => ?_
    cases stale with
    | true => exact beating.toCalm.closing _
    | false =>
      refine ensures_ask_then pulse (.ping .createPing) fun time created relied => ?_
      obtain ⟨⟨frame, rfl⟩, pinged⟩ := create_pings beating.toPinged relied
      refine ⟨beating.toCalm.safe _, ?_⟩
      refine idle_then (.handler (.onOutboundFrame frame)) trivial keeps_pinged pinged ?_
      intro _ h pinged
      refine idle_then (.write .ping frame) trivial keeps_pinged pinged fun result h pinged => ?_
      cases result with
      | error error =>
        refine idle_then (.monitor (.recordInternalError _ _)) trivial keeps_pinged pinged ?_
        exact fun _ _ pinged => pinged.toCalm.closing _
      | ok _ =>
        refine idle_then (.monitor .recordSent) trivial keeps_pinged pinged fun _ h pinged => ?_
        exact pulse.ensures_seq (rearm_beats pinged) fun _ _ _ beating => beating

/-- Only a pong changes the strategy, and it has already cleared the mark. -/
theorem handled_beats {l : Locals E} {h : Pulse} {frame : WsFrame} {time : Instant}
    {result : WsPongResult} (beating : Beating interval timeout h)
    (cleared : ∀ payload, frame = .pong payload → h.waiting = false)
    (relied : pulse.rely h (event l (.ping (.handleInbound frame)) time result)) :
    Beating interval timeout (h.after (event l (.ping (.handleInbound frame)) time result)) := by
  have clock : h.now ≤ time := relied.1
  have later := beating.later clock
  have mark : (h.waiting || decide (PingCall.handleInbound frame = .createPing)) = h.waiting := by
    simp
  cases frame with
  | pong payload =>
    refine ⟨⟨⟨⟨later.period, later.limit⟩, later.calm⟩, later.sent, fun waiting => ?_⟩, later.timer⟩
    cases (cleared payload rfl).symm.trans (mark.symm.trans waiting)
  | text | binary | ping | close =>
    refine ⟨⟨⟨⟨later.period, later.limit⟩, later.calm⟩, later.sent, fun waiting => ?_⟩, later.timer⟩
    exact later.unanswered (mark.symm.trans waiting)

/-- Reading a pong answers every ping. -/
def Read (interval timeout : Duration) (frame : WsFrame) (_ : Locals E) (h : Pulse) : Prop :=
  Beating interval timeout h ∧ ∀ payload, frame = .pong payload → h.waiting = false

theorem keeps_read (frame : WsFrame) : Keeps pulse Idle (Read (E := E) interval timeout frame) := by
  intro l h op time val idle read relied
  refine ⟨read.1.toCalm.safe _, ?_⟩
  change Read interval timeout frame l (h.after _)
  rw [after_idle op idle]
  exact ⟨read.1.later relied.1, read.2⟩

theorem intercept_beats {frame : WsFrame} {l : Locals E} {h : Pulse}
    (read : Read interval timeout frame l h) :
    pulse.ensures (fun verdict _ h' => match verdict with
      | .pass => Read interval timeout frame l h'
      | .again => Beating interval timeout h'
      | .leave cause => Closing interval timeout cause h') (pingIntercept frame) l h := by
  refine ensures_ask_then pulse (.ping (.handleInbound frame)) fun time result relied => ?_
  refine ⟨read.1.toCalm.safe _, ?_⟩
  have beating := handled_beats read.1 read.2 relied
  cases result with
  | notPong =>
    refine ⟨beating, fun payload same => ?_⟩
    subst same
    cases relied.2.1
  | invalidPong =>
    refine idle_then (.monitor (.recordInternalError _ _)) trivial keeps_beating beating ?_
    exact fun _ _ beating => beating.toCalm.closing _
  | pongReceived rtt =>
    cases rtt with
    | none => exact beating
    | some rtt =>
      exact idle_then (.monitor (.recordRtt rtt)) trivial keeps_beating beating
        fun _ _ beating => beating
  | reply reply =>
    refine idle_then (.handler (.onOutboundFrame reply)) trivial keeps_beating beating ?_
    intro _ h beating
    refine idle_then (.write .pong reply) trivial keeps_beating beating fun result h beating => ?_
    cases result with
    | error error =>
      refine idle_then (.monitor (.recordInternalError _ _)) trivial keeps_beating beating ?_
      exact fun _ _ beating => beating.toCalm.closing _
    | ok _ =>
      exact idle_then (.monitor .recordSent) trivial keeps_beating beating
        fun _ _ beating => beating

theorem Closing.safe {cause : WsDisconnectCause} {h : Pulse}
    (closing : Closing interval timeout cause h) {e : ManagedEvent E}
    (dismisses : cause = .pongTimeout → Dismisses e.op.2) : pulse.safe h e :=
  fun doomed => dismisses (closing.timedOut doomed)

theorem keeps_closing (cause : WsDisconnectCause) {allowed : Op E → Prop}
    (idle : ∀ op, allowed op → Idle op)
    (dismisses : cause = .pongTimeout → ∀ op, allowed op → Dismisses op) :
    Keeps pulse allowed fun _ h => Closing interval timeout cause h := by
  intro l h op time val kind closing _
  refine ⟨closing.safe fun same => dismisses same op kind, ?_⟩
  change Closing interval timeout cause (h.after _)
  rw [after_idle op (idle op kind)]
  exact ⟨⟨closing.period, closing.limit⟩, closing.timedOut⟩

/-- Classify, ask the strategy, tell the handler; from then on it is calm. -/
theorem decide_calms {cause : WsDisconnectCause} {l : Locals E} {h : Pulse}
    (closing : Closing interval timeout cause h) :
    pulse.ensures (fun _ _ h' => Calm interval timeout h') (decideReconnect cause) l h := by
  have classify : Keeps pulse (fun op : Op E => op = .handler (.classifyDisconnect cause))
      fun _ h => Closing interval timeout cause h := by
    refine keeps_closing cause ?_ ?_
    · rintro _ rfl
      trivial
    · rintro rfl _ rfl
      trivial
  have retries : Keeps pulse (Retries (E := E)) fun _ h => Closing interval timeout cause h := by
    refine keeps_closing cause (fun op retries => ?_) fun _ op retries => ?_
    · cases op <;> trivial
    · cases op with
      | reconnect call => cases call <;> trivial
      | _ => exact retries.elim
  refine pulse.ensures_seq (classify.ensures (quiet_handler rfl) closing) ?_
  intro action l h closing
  refine pulse.ensures_seq (retries.ensures (quiet_reconnectDelay action) closing) ?_
  intro delay l h closing
  have told : pulse.ensures (fun _ _ h' => Calm interval timeout h')
      (notifyDisconnect cause delay.isSome) l h := by
    refine ensures_ask_then pulse (.handler (.onConnectionDisconnected cause delay.isSome)) ?_
    intro time message _
    refine ⟨closing.safe fun same => by subst same; trivial, ?_⟩
    have calm : Calm interval timeout { h with now := time, doomed := false } :=
      ⟨⟨closing.period, closing.limit⟩, rfl⟩
    cases message with
    | none => exact calm
    | some message => exact keeps_calm.ensures (quiet_handler (by trivial)) calm
  exact pulse.ensures_seq told fun _ _ _ calm => calm

/-- What the timer and the frames make of a session. -/
theorem select_pulses {l : Locals E} {h : Pulse} (beating : Beating interval timeout h) :
    pulse.ensures (afterSelect (fun _ => Ticked interval timeout) (fun _ => Calm interval timeout)
      (fun cause _ => Closing interval timeout cause) (fun _ _ => Beating interval timeout)
      (Read interval timeout)) (sessionSelect true) l h := by
  refine ensures_of_ask pulse .selectWithPing fun time answer relied =>
    ⟨beating.toCalm.safe _, ?_⟩
  have clock : h.now ≤ time := relied.1
  have later := beating.later clock
  match answer with
  | none => exact ⟨{ later with calm := rfl }, rfl, Nat.le_trans relied.2 (Nat.le_refl time)⟩
  | some (.command none) => exact later.toCalm
  | some (.command (some .shutdown)) => exact later.toCalm
  | some (.command (some (.forceReconnect reason))) => exact later.toCalm.closing _
  | some (.command (some (.send _))) => exact later
  | some (.command (some (.updateSubscriptions _))) => exact later
  | some (.frame none) => exact later.toCalm.closing _
  | some (.frame (some (.error error))) => exact later.toCalm.closing _
  | some (.frame (some (.ok (.pong payload)))) =>
    exact ⟨{ later with unanswered := nofun }, fun _ _ => rfl⟩
  | some (.frame (some (.ok (.text _)))) => exact ⟨later, nofun⟩
  | some (.frame (some (.ok (.binary _)))) => exact ⟨later, nofun⟩
  | some (.frame (some (.ok (.ping _)))) => exact ⟨later, nofun⟩
  | some (.frame (some (.ok (.close _)))) => exact ⟨later, nofun⟩

/-- `connect` clears the marks; the strategy is reset after it. -/
structure Connected (interval timeout : Duration) (h : Pulse) : Prop extends
    Calm interval timeout h where
  answered : h.waiting = false

def pulseJunctions (interval timeout : Duration) : Junctions E Pulse where
  top := fun _ => Calm interval timeout
  dialing := fun _ => Calm interval timeout
  refused := fun _ _ => Calm interval timeout
  opened := fun _ => Connected interval timeout
  fresh := fun _ => Beating interval timeout
  greeted := fun _ => Beating interval timeout
  ready := fun _ => Beating interval timeout
  replaying := fun _ => Beating interval timeout
  broken := fun _ _ => Calm interval timeout
  session := fun _ => Beating interval timeout
  ticked := fun _ => Ticked interval timeout
  holding := fun _ _ => Beating interval timeout
  reading := Read interval timeout
  passed := Read interval timeout
  parsed := fun _ _ => Beating interval timeout
  judging := fun _ _ _ _ => Beating interval timeout
  flushing := fun _ => Beating interval timeout
  stopping := fun _ => Calm interval timeout
  leaving := fun cause _ => Closing interval timeout cause
  closing := fun cause _ => Closing interval timeout cause
  down := fun _ _ => Calm interval timeout
  done := fun _ => Calm interval timeout

theorem calm_quiet {α : Type} {x : Managed E α} (quiet : Proc.Quiet Untimed x) {l : Locals E}
    {h : Pulse} (calm : Calm interval timeout h) :
    pulse.ensures (fun _ _ h' => Calm interval timeout h') x l h :=
  keeps_calm.ensures quiet calm

theorem connected_beats {l : Locals E} {h : Pulse} (connected : Connected interval timeout h) :
    pulse.ensures (fun _ _ h' => Beating interval timeout h') (healthHooks : Hooks E).connected
      l h := by
  have keeps : Keeps pulse Idle fun (_ : Locals E) h => Connected interval timeout h :=
    keeps_idle (fun _ connected => connected.toCalm) fun _ _ connected _ =>
      ⟨⟨⟨connected.period, connected.limit⟩, connected.calm⟩, connected.answered⟩
  refine idle_then (.monitor .recordConnectSuccess) trivial keeps connected ?_
  intro _ h connected
  refine idle_then (.monitor .resetConnection) trivial keeps connected fun _ h connected => ?_
  refine ensures_of_ask pulse (.ping .reset) fun time _ _ => ⟨connected.toCalm.safe _, ?_⟩
  refine ⟨⟨⟨⟨connected.period, connected.limit⟩, connected.calm⟩, nofun, fun waiting => ?_⟩, nofun⟩
  change (h.waiting || decide (PingCall.reset = .createPing)) = true at waiting
  rw [connected.answered] at waiting
  cases waiting

theorem enter_beats {l : Locals E} {h : Pulse} (beating : Beating interval timeout h) :
    pulse.ensures (fun _ _ h' => Beating interval timeout h') (healthHooks : Hooks E).enterSession
      l h := by
  refine interval_then beating.toPinged fun h asked => ?_
  exact ensures_of_ask pulse (.startPingSleep interval) fun _ _ relied =>
    ⟨asked.toCalm.safe _, asked.toPinged.started relied.1⟩

theorem ended_closes (cause : WsDisconnectCause) {l : Locals E} {h : Pulse}
    (closing : Closing interval timeout cause h) :
    pulse.ensures (fun _ _ h' => Closing interval timeout cause h')
      ((healthHooks : Hooks E).ended cause) l h := by
  have keeps : Keeps pulse (fun op : Op E => op = .monitor .recordError)
      fun _ h => Closing interval timeout cause h := by
    refine keeps_closing cause ?_ ?_
    · rintro _ rfl
      trivial
    · rintro _ _ rfl
      trivial
  cases cause with
  | pongTimeout => exact keeps.ensures (quiet_monitor rfl) closing
  | staleData => exact keeps.ensures (quiet_monitor rfl) closing
  | _ => exact closing

/-- A failure that is no missing pong is recorded before the connection closes. -/
theorem failing_closes (cause : WsDisconnectCause) (other : cause ≠ .pongTimeout)
    (context error : String) {l : Locals E} {h : Pulse}
    (closing : Closing interval timeout cause h) :
    pulse.ensures (fun _ _ h' => Closing interval timeout cause h')
      ((healthHooks : Hooks E).failed context error) l h := by
  have calm : Calm interval timeout h := by
    refine ⟨closing.toConfigured, ?_⟩
    rw [← Bool.not_eq_true]
    exact fun doomed => other (closing.timedOut doomed)
  refine pulse.ensures_mono (fun _ _ _ calm => Calm.closing calm cause) ?_
  exact calm_quiet (quiet_monitor trivial) calm

theorem pulse_hooks :
    HookOutline pulse healthHooks (pulseJunctions (E := E) interval timeout) where
  attempt := calm_quiet (quiet_monitor trivial)
  refused := fun calm _ _ => calm_quiet (quiet_monitor trivial) calm
  connected := connected_beats
  broken := fun calm _ _ => calm_quiet (quiet_monitor trivial) calm
  enterSession := enter_beats
  sent := keeps_beating.ensures (quiet_monitor trivial)
  arrived := (keeps_read _).ensures (quiet_monitor trivial)
  unparsed := fun beating _ _ => keeps_beating.ensures (quiet_monitor trivial) beating
  serverError := keeps_beating.ensures (quiet_monitor trivial)
  failing := fun {context error _ _} =>
    failing_closes (.internalError context error) nofun context error
  unread := fun {error _ _} => failing_closes (.readFailure error) nofun "read" error
  ended := ended_closes _
  retried := calm_quiet (quiet_monitor trivial)

theorem beating_orElse {context : String} (result : Except WebSocketError Unit) (l : Locals E)
    (h : Pulse) (beating : Beating interval timeout h) :
    orElse (fun _ => Beating interval timeout) (fun cause _ => Closing interval timeout cause)
      context result l h :=
  orElse_of beating (fun _ => beating.toCalm.closing _) context result

theorem opening_orElse {context : String} (result : Except WebSocketError Unit) (l : Locals E)
    (h : Pulse) (beating : Beating interval timeout h) :
    orElse (fun _ => Beating interval timeout) (fun _ _ => Calm interval timeout)
      context result l h :=
  orElse_of beating (fun _ => beating.toCalm) context result

theorem idle_of_speaks (op : Op E) (speaks : Speaks op) : Idle op := by
  cases op with
  | handler call => cases call <;> trivial
  | _ => trivial

theorem idle_of_greets (op : Op E) (greets : Greets op) : Idle op := by
  cases op with
  | handler call => cases call <;> trivial
  | _ => trivial

theorem untimed_of_closes (op : Op E) (closes : Closes op) : Untimed op := by
  cases op <;> trivial

theorem untimed_of_waits (op : Op E) (waits : Waits op) : Untimed op := by
  cases op <;> trivial

theorem apply_beats (command : ManagedWsCommand E.Subscription) (l : Locals E) (h : Pulse)
    (beating : Beating interval timeout h) :
    pulse.ensures (fun _ _ h' => Beating interval timeout h') (applyCommand command) l h :=
  keeps_beating.ensures ((speaking_applyCommand command).mono idle_of_speaks) beating

theorem pulse_outline (short : timeout < interval) (url : String) :
    Outline pulse healthHooks url (pulseJunctions (E := E) interval timeout) where
  hooks := pulse_hooks
  start := calm_quiet (quiet_ask (by trivial))
  dial := by
    intro l h calm
    refine ensures_of_ask pulse (.connect url .default) fun time result _ => ⟨calm.safe _, ?_⟩
    cases result with
    | ok _ => exact ⟨⟨⟨calm.period, calm.limit⟩, rfl⟩, rfl⟩
    | error _ => exact ⟨⟨calm.period, calm.limit⟩, rfl⟩
  refuse := calm_quiet ((quiet_storeThenDecide _).mono untimed_of_closes)
  greet := keeps_beating.ensures (quiet_greeting.mono idle_of_greets)
  auth := keeps_beating.into (speaking_offerAuth.mono idle_of_speaks) opening_orElse
  mode := by
    refine keeps_beating.into (quiet_handler (by trivial)) fun mode l h beating => ?_
    cases mode with
    | publicSession => exact beating
    | authGated => exact beating
  replay := keeps_beating.into (speaking_replaySubscriptions.mono idle_of_speaks) opening_orElse
  fail := calm_quiet ((quiet_decideThenStore _).mono untimed_of_closes)
  select := select_pulses
  tick := by
    intro l h ticked
    refine pulse.ensures_mono (fun verdict l h next => ?_) (tick_ends short ticked)
    cases verdict with
    | none => exact next
    | some cause => exact next
  park := fun beating _ _ => beating
  apply := fun beating _ _ => pulse.ensures_mono beating_orElse (apply_beats _ _ _ beating)
  inbound := (keeps_read _).ensures (quiet_handler (by trivial))
  intercept := by
    intro frame l h read
    refine pulse.ensures_mono (fun verdict l h next => ?_) (intercept_beats read)
    cases verdict with
    | pass => exact next
    | again => exact next
    | leave cause => exact next
  parse := by
    intro frame l h read
    refine keeps_beating.into (quiet_handler (by trivial)) (fun outcome l h beating => ?_) read.1
    match outcome with
    | .ok (.message action) => exact beating
    | .ok (.serverError code message data) => exact beating
    | .error error => exact beating
  judge := by
    refine keeps_beating.into (quiet_handler (by trivial)) fun action l h beating => ?_
    cases action with
    | «continue» => exact beating
    | reconnect => exact beating.toCalm.closing _
    | fatal => exact beating.toCalm.closing _
  proceed := fun beating => beating
  authenticate :=
    keeps_beating.into (speaking_replaySubscriptions.mono idle_of_speaks) beating_orElse
  flush := fun beating =>
    pulse.ensures_mono beating_orElse (ensures_flush (fun _ _ _ kept => kept) apply_beats beating)
  reply := keeps_beating.into ((speaking_sendPayload _ _).mono idle_of_speaks) beating_orElse
  process := by
    refine keeps_beating.into (quiet_handler (by trivial)) fun result l h beating => ?_
    cases result with
    | ok _ => exact beating
    | error error => exact beating.toCalm.closing _
  requested := fun beating => beating.toCalm.closing _
  shutdown := fun beating => beating.toCalm
  stop := calm_quiet (quiet_ask (by trivial))
  finish := by
    intro cause l h closing
    have keeps : Keeps pulse (fun op : Op E => op = .storeStatus (wsStatusToU8 .disconnected))
        fun _ h => Closing interval timeout cause h := by
      refine keeps_closing cause ?_ ?_
      · rintro _ rfl
        trivial
      · rintro _ _ rfl
        exact rfl
    exact keeps.ensures (quiet_ask rfl) closing
  decide := decide_calms
  abort := fun calm => calm
  wait := by
    intro delay l h calm
    refine pulse.ensures_mono (fun retry l h calm => ?_)
      (calm_quiet ((quiet_wait delay).mono untimed_of_waits) calm)
    cases retry with
    | true => exact calm
    | false => exact calm

/-- Some answer is always possible. -/
theorem pulse_answers (h : Pulse) (op : Locals E × Op E) :
    ∃ ans, pulse.rely h (⟨op, ans⟩ : ManagedEvent E) := by
  obtain ⟨l, op⟩ := op
  have clock : h.now ≤ h.now + h.deadline + h.strategy.lastPong.getD 0 + 1 := by
    simp only [Instant]
    omega
  cases op with
  | ping call =>
    refine ⟨⟨_, (h.strategy.respond _ call).1⟩, clock, rfl, fun _ pong last => ?_⟩
    rw [last]
    simp only [Instant, Option.getD_some]
    omega
  | selectWithPing => exact ⟨⟨_, some (.frame none)⟩, clock, trivial⟩
  | storeStatus | connect | write | handler | reconnect | monitor | select | startPingSleep
  | resetPingSleep | enterWait | waitSelect | enterApply =>
    exact ⟨⟨_, bareAnswer _⟩, clock, trivial⟩

theorem timing_out (url : String) :
    Obligation pulse (Proc.turn (hookedLoop (healthHooks : Hooks E) url))
      (fun c h => (pulseJunctions interval timeout).inv c.1 c.2 h)
      (fun r h => (pulseJunctions interval timeout).done r.2 h)
      (fun e => Dismisses e.op.2) TimesOut (fun _ => False) (fun h => h.doomed = true)
      fun _ => 0 where
  answers := pulse_answers
  keeps := by
    intro h e safe doomed other
    have dismisses : Dismisses e.op.2 := safe doomed
    refine ⟨dismisses, ?_, Nat.le_refl 0⟩
    change (h.after e).doomed = true
    rw [Pulse.after.eq_def]
    split
    case h_7 cause will time message =>
      cases cause <;> first | exact dismisses.elim | exact absurd trivial other
    all_goals first | exact doomed | exact dismisses.elim
  headway := by
    rintro ⟨head, l⟩ h e q inv _ doomed _ _
    cases head with
    | connect => cases doomed.symm.trans inv.calm
    | session => cases doomed.symm.trans inv.calm
  ending := fun _ h calm doomed => by cases doomed.symm.trans calm.calm

theorem after_waiting {h : Pulse} {e : ManagedEvent E} (waiting : h.waiting = true)
    (same : ¬ Connects e) (silent : ¬ ReadsPong e) : (h.after e).waiting = true := by
  rw [Pulse.after.eq_def]
  split
  case h_2 => simp [waiting]
  all_goals first | exact waiting | exact absurd trivial same | exact absurd trivial silent

/-- A ping stays unanswered until a pong is read or the connection is replaced. -/
theorem run_waiting {h : Pulse} {t : List (ManagedEvent E)} (waiting : h.waiting = true)
    (silent : ∀ d ∈ t, ¬ Connects d ∧ ¬ ReadsPong d) : (pulse.run h t).waiting = true := by
  induction t generalizing h with
  | nil => exact waiting
  | cons e t ih =>
    obtain ⟨same, quiet⟩ := silent e List.mem_cons_self
    exact ih (after_waiting waiting same quiet) fun d listed =>
      silent d (List.mem_cons_of_mem e listed)

theorem create_waiting {h : Pulse} {e : ManagedEvent E} (create : e.op.2 = .ping .createPing) :
    (h.after e).waiting = true := by
  obtain ⟨⟨l, op⟩, time, val⟩ := e
  change op = .ping .createPing at create
  subst create
  simp [Pulse.after]

theorem tick_doomed {h : Pulse} {e : ManagedEvent E} (tick : Ticks e) (waiting : h.waiting = true) :
    (h.after e).doomed = true := by
  obtain ⟨⟨l, op⟩, time, val⟩ := e
  cases op with
  | selectWithPing =>
    cases val with
    | none => exact waiting
    | some arm => exact tick.elim
  | _ => exact tick.elim

theorem detects_short (short : timeout < interval) (url : String) :
    DetectsDeadPeer E url interval timeout := by
  intro before between create tick q run relied created silent ticks _
  have loop : (managedLoop url .healthChecked : Head → Managed E Flow) =
      hookedLoop healthHooks url := managedLoop_eq url .healthChecked
  rw [loop] at run ⊢
  have start : Calm interval timeout (.start interval timeout) := ⟨⟨rfl, rfl⟩, rfl⟩
  obtain ⟨_, owed⟩ := (pulse_outline short url).run start run relied
  refine (timing_out url).leads pulse (turn_starts url .healthChecked) ?_ owed ?_
  · exact fun c h inv => pulse.turn_wp ((pulse_outline short url).turns c.1 c.2 h inv)
  · have waiting : (pulse.run (.start interval timeout) (before ++ create :: between)).waiting =
        true := by
      rw [Monitor.run_append, Monitor.run_cons]
      exact run_waiting (create_waiting created) silent
    rw [Monitor.run_append]
    exact tick_doomed ticks waiting

end Short

section Long
variable {interval timeout : Duration}

def pingFrame : WsFrame := .ping ByteArray.empty

/-- A first connection to a peer that accepts everything, all of it at time 0. -/
def opening (url : String) (interval : Duration) : List (ManagedEvent E) :=
  let l : Locals E := Locals.initial
  [event l (.storeStatus (wsStatusToU8 .connecting)) 0 (),
    event l (.monitor .recordConnectAttempt) 0 (),
    event l (.connect url .default) 0 (.ok ()),
    event l (.monitor .recordConnectSuccess) 0 (),
    event l (.monitor .resetConnection) 0 (),
    event l (.ping .reset) 0 (),
    event l (.reconnect .reset) 0 (),
    event l (.storeStatus (wsStatusToU8 .connected)) 0 (),
    event l (.handler .resetState) 0 (),
    event l (.handler .onOpen) 0 (),
    event l (.handler (.onConnectionOpened false)) 0 none,
    event l (.handler .generateAuth) 0 none,
    event l (.handler .sessionMode) 0 .authGated,
    event l (.ping .interval) 0 interval,
    event l (.startPingSleep interval) 0 ()]

/-- A tick at time `a` that finds nothing stale. -/
def checks (a : Instant) : List (ManagedEvent E) :=
  [event Locals.initial .selectWithPing a none, event Locals.initial (.ping .isStale) a false,
    event Locals.initial (.monitor .isStale) a false]

/-- The ping it creates at time `b`. -/
def creates (b : Instant) : ManagedEvent E :=
  event Locals.initial (.ping .createPing) b (some pingFrame)

def rearms (interval : Duration) (b : Instant) : List (ManagedEvent E) :=
  [event Locals.initial (.handler (.onOutboundFrame pingFrame)) b (),
    event Locals.initial (.write .ping pingFrame) b (.ok ()),
    event Locals.initial (.monitor .recordSent) b (),
    event Locals.initial (.ping .interval) b interval,
    event Locals.initial (.resetPingSleep interval) b ()]

def pingsAgain (interval : Duration) (a b : Instant) : List (ManagedEvent E) :=
  checks a ++ creates b :: rearms interval b

abbrev sessionHead : Task E := .ret (.inl (.session, Locals.initial))

theorem opening_run (url : String) (interval : Duration) :
    Run (managedLoop url .healthChecked) (opening url interval) (sessionHead (E := E)) := by
  refine .step (.head (.call _ _ _)) ?_
  repeat refine .step (.call _ _ _) ?_
  exact .here _

theorem pingsAgain_run (url : String) (interval : Duration) (a b : Instant) :
    Reaches (Proc.turn (managedLoop url .healthChecked)) (sessionHead (E := E))
      (pingsAgain interval a b) sessionHead := by
  refine .step (.head (.call _ _ _)) ?_
  repeat refine .step (.call _ _ _) ?_
  exact .here _

theorem opening_relied (url : String) (interval timeout : Duration) :
    pulse.Along pulse.rely (.start interval timeout) (opening (E := E) url interval) := by
  repeat first
    | refine ⟨⟨Nat.le_refl 0, trivial⟩, ?_⟩
    | refine ⟨⟨Nat.le_refl 0, rfl, nofun⟩, ?_⟩
  trivial

theorem opening_pulse (url : String) (interval timeout : Duration) :
    pulse.run (.start interval timeout) (opening (E := E) url interval) =
      ⟨.new interval timeout, 0, 0, 0 + interval, false, false⟩ := rfl

/-- The strategy has only seen pings so far. -/
structure Unponged (interval timeout : Duration) (h : Pulse) : Prop extends
    Configured interval timeout h where
  silent : h.strategy.lastPong = none

theorem pingsAgain_relied {h : Pulse} (unponged : Unponged interval timeout h) {a b : Instant}
    (clock : h.now ≤ a) (order : a ≤ b) (due : h.deadline ≤ a)
    (young : h.strategy.isStale a = false) :
    pulse.Along pulse.rely h (pingsAgain (E := E) interval a b) := by
  have same := Nat.le_refl b
  refine ⟨⟨clock, due⟩, ⟨Nat.le_refl a, young.symm, nofun⟩, ⟨Nat.le_refl a, trivial⟩,
    ⟨order, rfl, fun _ pong last => ?_⟩, ⟨same, trivial⟩, ⟨same, trivial⟩, ⟨same, trivial⟩,
    ⟨same, unponged.period.symm, nofun⟩, ⟨same, trivial⟩, trivial⟩
  cases unponged.silent.symm.trans last

theorem pingsAgain_pulse (h : Pulse) (interval : Duration) (a b : Instant) :
    pulse.run h (pingsAgain (E := E) interval a b) =
      ⟨{ h.strategy with lastPing := some b }, b, b, b + interval, true, h.waiting⟩ := by
  obtain ⟨strategy, now, asked, deadline, waiting, doomed⟩ := h
  simp [pingsAgain, checks, creates, rearms, pulse, Monitor.run, Pulse.after, event,
    ProtocolPingPong.respond, ProtocolPingPong.createPing]

/-- The calls of a tick after the timer has fired. -/
def checked (interval : Duration) (u : Instant) : List (ManagedEvent E) :=
  (pingsAgain interval u u).tail

theorem rearms_silent (interval : Duration) (b : Instant) :
    ∀ d ∈ rearms (E := E) interval b, ¬ Connects d ∧ ¬ ReadsPong d := by
  simp [rearms, event, Connects, ReadsPong]

theorem pingsAgain_silent (interval : Duration) (a b : Instant) :
    ∀ d ∈ pingsAgain (E := E) interval a b, ¬ Connects d ∧ ¬ ReadsPong d := by
  simp [pingsAgain, checks, creates, rearms, event, Connects, ReadsPong]

/-- The loop waits again. -/
def waits (u : Instant) : ManagedEvent E :=
  event Locals.initial .selectWithPing u (some (.frame none))

theorem checked_untold (interval : Duration) (u : Instant) :
    ∀ d ∈ checked (E := E) interval u ++ [waits u], ¬ Disconnects d := by
  simp [checked, pingsAgain, checks, creates, rearms, waits, event, Disconnects]

/-- A tick within the timeout of the last ping goes on, if the timer allows it. -/
theorem pingsAgain_young {h : Pulse} (unponged : Unponged interval timeout h) {sent b : Instant}
    (last : h.strategy.lastPing = some sent) (clock : h.now ≤ sent + timeout)
    (due : h.deadline ≤ sent + timeout) (order : sent + timeout ≤ b) :
    pulse.Along pulse.rely h (pingsAgain (E := E) interval (sent + timeout) b) := by
  refine pingsAgain_relied unponged clock order due (ProtocolPingPong.isStale_young last ?_)
  rw [unponged.limit]
  exact Nat.le_of_eq (Nat.add_sub_cancel_left sent timeout)

/-- The last ping is never older than the timeout, although the first one is:
pings at `interval` and right after `interval + timeout`, both unanswered, and a
tick at `interval + 2 * timeout + 1`. -/
theorem undetected (long : interval ≤ timeout) (url : String) :
    ¬ DropsDeadPeer E url interval timeout := by
  intro drops
  let a : Instant := 0 + interval
  let b : Instant := a + timeout + 1
  let u : Instant := b + timeout
  let before : List (ManagedEvent E) := opening url interval ++ checks a
  let between : List (ManagedEvent E) :=
    rearms interval a ++ pingsAgain interval (a + timeout) b
  let tick : ManagedEvent E := event Locals.initial .selectWithPing u none
  have whole : opening url interval ++ pingsAgain interval a a ++
      pingsAgain interval (a + timeout) b = before ++ creates a :: between := by
    simp [before, between, pingsAgain]
  have silent : ∀ d ∈ between, ¬ Connects d ∧ ¬ ReadsPong d := by
    intro d listed
    rcases List.mem_append.mp listed with listed | listed
    · exact rearms_silent interval a d listed
    · exact pingsAgain_silent interval (a + timeout) b d listed
  have relied : pulse.Along pulse.rely (.start interval timeout)
      (before ++ creates a :: between ++ pingsAgain interval u u ++ [waits u]) := by
    rw [← whole]
    simp only [Monitor.along_append, Monitor.run_append, opening_pulse, pingsAgain_pulse]
    refine ⟨⟨⟨⟨opening_relied url interval timeout, ?_⟩, ?_⟩, ?_⟩,
      ⟨Nat.le_refl u, trivial⟩, trivial⟩
    · exact pingsAgain_relied ⟨⟨rfl, rfl⟩, rfl⟩ (Nat.zero_le a) (Nat.le_refl a) (Nat.le_refl a) rfl
    · exact pingsAgain_young ⟨⟨rfl, rfl⟩, rfl⟩ rfl (Nat.le_add_right a timeout)
        (Nat.add_le_add_left long a) (Nat.le_succ _)
    · exact pingsAgain_young ⟨⟨rfl, rfl⟩, rfl⟩ rfl (Nat.le_add_right b timeout)
        (Nat.add_le_add_left long b) (Nat.le_refl u)
  have relied' : pulse.Along pulse.rely (.start interval timeout)
      ((before ++ creates a :: between ++ [tick]) ++ (checked interval u ++ [waits u])) := by
    rw [List.append_assoc] at relied ⊢
    exact relied
  obtain ⟨early, late⟩ := pulse.along_append.mp relied'
  have again : Reaches (Proc.turn (managedLoop url .healthChecked)) (sessionHead (E := E))
      [waits u] _ := .step (.head (.call _ _ _)) (.here _)
  obtain ⟨q, fires, rest⟩ := Reaches.split (s := [tick]) (t := checked interval u ++ [waits u])
    ((pingsAgain_run (E := E) url interval u u).trans again)
  have run := (((opening_run url interval).trans (pingsAgain_run url interval a a)).trans
    (pingsAgain_run url interval (a + timeout) b)).trans fires
  rw [whole] at run
  have overdue : a + timeout < u := by
    change a + timeout < a + timeout + 1 + timeout
    exact Nat.lt_of_lt_of_le (Nat.lt_succ_self _) (Nat.le_add_right _ _)
  have leads := drops run early rfl silent trivial overdue
  -- the tick is followed by the next ping and another wait instead
  have listed : waits u ∈ checked (E := E) interval u ++ [waits u] := List.mem_concat_self
  exact leads.through pulse (fun _ never => never) rest late (checked_untold interval u) _ listed
    rfl

end Long

/-- An end with `PongTimeout` is an end. -/
theorem drops_of_detects {E : Endpoint} {url : String} {interval timeout : Duration}
    (detects : DetectsDeadPeer E url interval timeout) : DropsDeadPeer E url interval timeout := by
  intro before between create tick q run relied created silent ticks overdue
  refine (detects run relied created silent ticks overdue).mono pulse ?_ ?_
  · intro e dismisses select
    rw [select] at dismisses
    exact dismisses
  · intro e ends
    unfold TimesOut at ends
    split at ends
    · trivial
    · exact ends.elim

/-- With `ProtocolPingPong` a dead peer is always detected at the first tick after the timeout if
and only if the timeout is shorter than the interval. Otherwise the tick may pass without any end
of the connection. -/
theorem detects_dead_peer_iff (E : Endpoint) (url : String) (interval timeout : Duration) :
    (DetectsDeadPeer E url interval timeout ↔ timeout < interval) ∧
      (DropsDeadPeer E url interval timeout ↔ timeout < interval) := by
  have short_of_drops : DropsDeadPeer E url interval timeout → timeout < interval := by
    intro drops
    by_contra other
    exact undetected (Nat.le_of_not_lt other) url drops
  refine ⟨⟨fun detects => short_of_drops (drops_of_detects detects), ?_⟩, ⟨short_of_drops, ?_⟩⟩
  · exact fun short => detects_short short url
  · exact fun short => drops_of_detects (detects_short short url)

theorem ten_five_times_out :
    ∃ q : Task bareEndpoint, LeadsFrom (Proc.turn (managedLoop "ws://peer" .healthChecked)) pulse
      (fun e => Dismisses e.op.2) TimesOut (fun _ => False)
      (pulse.run (.start 10 5) (opening (E := bareEndpoint) "ws://peer" 10 ++ checks 10 ++
        creates 10 :: rearms 10 10 ++ [event Locals.initial .selectWithPing 20 none])) q := by
  obtain ⟨q, fires, _⟩ := Reaches.split (s := [event Locals.initial .selectWithPing 20 none])
    (t := checked 10 20) (pingsAgain_run (E := bareEndpoint) "ws://peer" 10 20 20)
  have opened := opening_run (E := bareEndpoint) "ws://peer" 10
  have run := (opened.trans (pingsAgain_run "ws://peer" 10 10 10)).trans fires
  have first : pulse.Along pulse.rely (.start 10 5) (opening "ws://peer" 10 ++
      pingsAgain (E := bareEndpoint) 10 10 10) := by
    refine pulse.along_append.mpr ⟨opening_relied "ws://peer" 10 5, ?_⟩
    exact pingsAgain_relied ⟨⟨rfl, rfl⟩, rfl⟩ (by decide) (by decide) (by decide) rfl
  have relied : pulse.Along pulse.rely (.start 10 5) ((opening "ws://peer" 10 ++
      pingsAgain 10 10 10) ++ [event (E := bareEndpoint) Locals.initial .selectWithPing 20 none]) :=
    pulse.along_append.mpr ⟨first, ⟨by decide, Nat.le_refl 20⟩, trivial⟩
  have detects : DetectsDeadPeer bareEndpoint "ws://peer" 10 5 :=
    (detects_dead_peer_iff bareEndpoint "ws://peer" 10 5).1.mpr (by decide)
  rw [show opening "ws://peer" 10 ++ pingsAgain (E := bareEndpoint) 10 10 10 =
    opening "ws://peer" 10 ++ checks 10 ++ creates 10 :: rearms 10 10 from rfl] at run relied
  exact ⟨q, detects run relied rfl (rearms_silent 10 10) trivial (by decide)⟩

/-- The configuration of the unit test. -/
theorem five_ten_undetected :
    ¬ DetectsDeadPeer bareEndpoint "ws://peer" 5 10 ∧
      ¬ DropsDeadPeer bareEndpoint "ws://peer" 5 10 := by
  have passes : ¬ DropsDeadPeer bareEndpoint "ws://peer" 5 10 :=
    undetected (by decide) "ws://peer"
  exact ⟨fun detects => passes (drops_of_detects detects), passes⟩

end DeadPeer
