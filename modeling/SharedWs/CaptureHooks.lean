import Mathlib.Data.List.Induction
import SharedWs.InteractionProgress
import SharedWs.ManagedBlocks

/-!
# The capture hooks

`on_outbound_frame` and `on_inbound_frame` are there to record the traffic of a
connection. Frames are written at several places, some through `send_payload`
and some directly. At each of them the hook is called with the frame and the
write is the very next call; a frame that was read goes to the inbound hook
before the heartbeat or the handler look into it.
-/
namespace CaptureHooks

open InteractionPrograms InteractionMonitors InteractionProgress WsFrames WsTypes ManagedOps
open ManagedLoop HookedLoop LoopOutline ManagedBlocks

variable {E : Endpoint}

/-- A frame on its way through the capture hooks or over the wire. -/
inductive Passage where
  | shows (frame : WsFrame)
  | writes (frame : WsFrame)
  | reads (frame : WsFrame)
  | captures (frame : WsFrame)

def passage : ManagedEvent E → Option Passage
  | ⟨(_, .handler (.onOutboundFrame frame)), _⟩ => some (.shows frame)
  | ⟨(_, .write _ frame), _⟩ => some (.writes frame)
  | ⟨(_, .select), ⟨_, .frame (some (.ok frame))⟩⟩ => some (.reads frame)
  | ⟨(_, .selectWithPing), ⟨_, some (.frame (some (.ok frame)))⟩⟩ => some (.reads frame)
  | ⟨(_, .handler (.onInboundFrame frame)), _⟩ => some (.captures frame)
  | _ => none

@[simp] def Passage.shown : Passage → Option WsFrame
  | .shows frame => some frame
  | _ => none

@[simp] def Passage.written : Passage → Option WsFrame
  | .writes frame => some frame
  | _ => none

@[simp] def Passage.received : Passage → Option WsFrame
  | .reads frame => some frame
  | _ => none

@[simp] def Passage.captured : Passage → Option WsFrame
  | .captures frame => some frame
  | _ => none

/-- The frames of one kind of passage, in the order of the calls. -/
def framesOf (kind : Passage → Option WsFrame) (t : List (ManagedEvent E)) : List WsFrame :=
  t.filterMap fun e => (passage e).bind kind

/-- The calls that look into a frame: of the heartbeat and of the handler. -/
def Interprets (frame : WsFrame) : Op E → Prop
  | .ping (.handleInbound other) => other = frame
  | .handler (.parseFrame other) => other = frame
  | _ => False

theorem framesOf_snoc (kind : Passage → Option WsFrame) (t : List (ManagedEvent E))
    (e : ManagedEvent E) :
    framesOf kind (t ++ [e]) = framesOf kind t ++ ((passage e).bind kind).toList :=
  filterMap_snoc (fun e => (passage e).bind kind) t e

/-- What the loops do with a frame. -/
inductive Stage where
  | clear
  | shown (frame : WsFrame)
  | received (frame : WsFrame)

/-- The frame that the outbound hook has seen and that is not written yet. -/
@[simp] def Stage.unwritten : Stage → Option WsFrame
  | .shown frame => some frame
  | _ => none

/-- The frame that was read and that the inbound hook has not seen yet. -/
@[simp] def Stage.unseen : Stage → Option WsFrame
  | .received frame => some frame
  | _ => none

structure Capture where
  stage : Stage
  /-- What the inbound hook saw last. -/
  latest : Option WsFrame

def Capture.start : Capture := ⟨.clear, none⟩

@[simp] def Capture.next (m : Capture) : Passage → Capture
  | .shows frame => { m with stage := .shown frame }
  | .writes _ => { m with stage := .clear }
  | .reads frame => { m with stage := .received frame }
  | .captures frame => ⟨.clear, some frame⟩

def Capture.after (m : Capture) (e : ManagedEvent E) : Capture :=
  match passage e with
  | some way => m.next way
  | none => m

/-- What may come next. Statistics are taken before the inbound hook. -/
def Capture.Fits (m : Capture) (e : ManagedEvent E) : Prop :=
  match m.stage with
  | .clear => (∀ frame, passage e ≠ some (.writes frame)) ∧
      (∀ frame, passage e ≠ some (.captures frame)) ∧
      ∀ frame, Interprets frame e.op.2 → m.latest = some frame
  | .shown frame => passage e = some (.writes frame)
  | .received frame => e.op.2 = .monitor .recordMessage ∨ passage e = some (.captures frame)

section Steps
variable {m : Capture} {e : ManagedEvent E} {frame : WsFrame}

theorem after_passage {way : Passage} (passes : passage e = some way) :
    m.after e = m.next way := by
  simp only [Capture.after, passes]

theorem after_unnoticed (passes : passage e = none) : m.after e = m := by
  simp only [Capture.after, passes]

theorem fits_clear (stage : m.stage = .clear) :
    m.Fits e ↔ (∀ frame, passage e ≠ some (.writes frame)) ∧
      (∀ frame, passage e ≠ some (.captures frame)) ∧
      ∀ frame, Interprets frame e.op.2 → m.latest = some frame := by
  simp only [Capture.Fits, stage]

theorem fits_shown (stage : m.stage = .shown frame) :
    m.Fits e ↔ passage e = some (.writes frame) := by
  simp only [Capture.Fits, stage]

theorem fits_received (stage : m.stage = .received frame) :
    m.Fits e ↔ e.op.2 = .monitor .recordMessage ∨ passage e = some (.captures frame) := by
  simp only [Capture.Fits, stage]

end Steps

def capture : ManagedMonitor E Capture where
  step := Capture.after
  rely := fun _ _ => True
  safe := Capture.Fits

def Clear (_ : Locals E) (m : Capture) : Prop := m.stage = .clear

def Received (frame : WsFrame) (_ : Locals E) (m : Capture) : Prop := m.stage = .received frame

def Captured (frame : WsFrame) (_ : Locals E) (m : Capture) : Prop :=
  m.stage = .clear ∧ m.latest = some frame

/-- Calls that have nothing to do with frames. -/
def Mute : Op E → Prop
  | .write _ _ | .select | .selectWithPing | .ping (.handleInbound _) => False
  | .handler (.onOutboundFrame _) | .handler (.onInboundFrame _) | .handler (.parseFrame _) => False
  | _ => True

theorem passage_mute {e : ManagedEvent E} (mute : Mute e.op.2) : passage e = none := by
  unfold passage
  split <;> first | exact mute.elim | rfl

theorem not_interprets_of_mute {op : Op E} (mute : Mute op) (frame : WsFrame) :
    ¬ Interprets frame op := by
  cases op with
  | ping call => cases call <;> first | exact mute.elim | exact id
  | handler call => cases call <;> first | exact mute.elim | exact id
  | _ => exact id

theorem keeps_mute {P : Locals E → Capture → Prop} (clear : ∀ l m, P l m → m.stage = .clear) :
    Keeps capture Mute P := by
  intro l m op time val mute holds _
  have unnoticed : passage (event l op time val) = none := passage_mute mute
  constructor
  · refine (fits_clear (clear l m holds)).mpr ?_
    rw [unnoticed]
    exact ⟨nofun, nofun, fun frame looks => absurd looks (not_interprets_of_mute mute frame)⟩
  · change P l (m.after _)
    rw [after_unnoticed unnoticed]
    exact holds

/-- A block of such calls. -/
theorem clear_across {allowed : Op E → Prop} {α : Type} {x : Managed E α}
    (quiet : Proc.Quiet allowed x) (mute : ∀ op, allowed op → Mute op)
    {post : α → Locals E → Capture → Prop} {l : Locals E} {m : Capture}
    (enough : ∀ a l m, Clear l m → post a l m) (clear : Clear l m) :
    capture.ensures post x l m :=
  ((keeps_mute fun _ _ => id).mono mute).into quiet enough clear

theorem clear_ask (op : Op E) (mute : Mute op) {l : Locals E} {m : Capture} (clear : Clear l m) :
    capture.ensures (fun _ => Clear) (ask op) l m :=
  clear_across (quiet_ask mute) (fun _ => id) (fun _ _ _ => id) clear

theorem mute_of_closes (op : Op E) (closes : Closes op) : Mute op := by
  cases op with
  | handler call => cases call <;> trivial
  | _ => trivial

theorem mute_of_greets (op : Op E) (greets : Greets op) : Mute op := by
  cases op with
  | handler call => cases call <;> trivial
  | _ => trivial

theorem mute_of_waits (op : Op E) (waits : Waits op) : Mute op := by
  cases op <;> trivial

theorem clear_orElse {context : String} (result : Except WebSocketError Unit) (l : Locals E)
    (m : Capture) (clear : Clear l m) : orElse Clear (fun _ => Clear) context result l m :=
  orElse_of clear (fun _ => clear) context result

theorem shows_fits {l : Locals E} {m : Capture} (clear : Clear l m) (frame : WsFrame)
    (time : Instant) : m.Fits (event l (.handler (.onOutboundFrame frame)) time ()) := by
  exact (fits_clear clear).mpr ⟨nofun, nofun, nofun⟩

/-- The frame is shown and then written, whatever follows. -/
theorem emit_then (site : WriteSite) (frame : WsFrame) {α : Type}
    {f : Except WebSocketError Unit → Managed E α} {post : α → Locals E → Capture → Prop}
    {l : Locals E} {m : Capture} (clear : Clear l m)
    (rest : ∀ result l' m', Clear l' m' → capture.ensures post (f result) l' m') :
    capture.ensures post (do
      handler (.onOutboundFrame frame)
      let result ← ask (.write site frame)
      f result) l m := by
  refine ensures_ask_then capture (.handler (.onOutboundFrame frame)) fun time _ _ =>
    ⟨shows_fits clear frame time, ?_⟩
  refine ensures_ask_then capture (.write site frame) fun _ result _ => ⟨rfl, ?_⟩
  exact rest result l _ rfl

theorem sendPayload_clear (site : WriteSite) (payload : Bytes) {l : Locals E} {m : Capture}
    (clear : Clear l m) : capture.ensures (fun _ => Clear) (sendPayload site payload) l m := by
  refine ensures_ask_then capture (.handler (.onOutboundFrame _)) fun time _ _ =>
    ⟨shows_fits clear _ time, ?_⟩
  exact ensures_of_ask capture (.write site _) fun _ _ _ => ⟨rfl, rfl⟩

theorem sendSubscriptions_clear (site : WriteSite) (subscriptions : List E.Subscription)
    {l : Locals E} {m : Capture} (clear : Clear l m) :
    capture.ensures (fun _ => Clear) (sendSubscriptions site subscriptions) l m := by
  induction subscriptions generalizing l m with
  | nil => exact clear
  | cons subscription rest ih =>
    refine capture.ensures_seq (clear_ask (.handler (.serializeSubscription subscription))
      trivial clear) fun payload l' m' clear => ?_
    refine capture.ensures_seq (sendPayload_clear site payload clear) fun result l' m' clear => ?_
    cases result with
    | error error => exact clear
    | ok _ => exact ih clear

theorem replaySubscriptions_clear {l : Locals E} {m : Capture} (clear : Clear l m) :
    capture.ensures (fun _ => Clear) replaySubscriptions l m :=
  capture.ensures_seq (clear_ask (.handler .initialSubscriptions) trivial clear)
    fun subscriptions _ _ clear => sendSubscriptions_clear .replay subscriptions clear

theorem applyCommand_clear (command : ManagedWsCommand E.Subscription) (l : Locals E)
    (m : Capture) (clear : Clear l m) :
    capture.ensures (fun _ => Clear) (applyCommand command) l m := by
  refine capture.ensures_seq (clear_ask (.enterApply command) trivial clear) fun _ l m clear => ?_
  cases command with
  | send payload => exact sendPayload_clear .command payload clear
  | updateSubscriptions action =>
    refine capture.ensures_seq (clear_ask (.handler (.updateSubscriptions action)) trivial clear)
      fun updated l m clear => ?_
    cases updated with
    | error error => exact clear
    | ok subscriptions => exact sendSubscriptions_clear .update subscriptions clear
  | forceReconnect reason => exact clear
  | shutdown => exact clear

theorem offerAuth_clear {l : Locals E} {m : Capture} (clear : Clear l m) :
    capture.ensures (fun _ => Clear) offerAuth l m := by
  refine capture.ensures_seq (clear_ask (.handler .generateAuth) trivial clear)
    fun payload l m clear => ?_
  cases payload with
  | none => exact clear
  | some payload => exact sendPayload_clear .auth payload clear

theorem rearmPing_clear {l : Locals E} {m : Capture} (clear : Clear l m) :
    capture.ensures (fun _ => Clear) rearmPing l m :=
  capture.ensures_seq (clear_ask (.ping .interval) trivial clear)
    fun interval _ _ clear => clear_ask (.resetPingSleep interval) trivial clear

theorem tick_clear (kind : LoopKind) {l : Locals E} {m : Capture} (clear : Clear l m) :
    capture.ensures (fun _ => Clear) (hooksOf kind : Hooks E).tick l m := by
  cases kind with
  | plain => exact clear
  | healthChecked =>
    refine capture.ensures_seq (clear_ask (.ping .isStale) trivial clear) fun stale l m clear => ?_
    cases stale with
    | true => exact clear
    | false =>
      refine capture.ensures_seq (clear_ask (.monitor .isStale) trivial clear)
        fun stale l m clear => ?_
      cases stale with
      | true => exact clear
      | false =>
        refine capture.ensures_seq (clear_ask (.ping .createPing) trivial clear)
          fun created l m clear => ?_
        cases created with
        | none => exact capture.ensures_seq (rearmPing_clear clear) fun _ _ _ clear => clear
        | some frame =>
          refine emit_then .ping frame clear fun result l m clear => ?_
          cases result with
          | error error =>
            exact capture.ensures_seq (clear_ask (.monitor _) trivial clear)
              fun _ _ _ clear => clear
          | ok _ =>
            refine capture.ensures_seq (clear_ask (.monitor .recordSent) trivial clear)
              fun _ l m clear => ?_
            exact capture.ensures_seq (rearmPing_clear clear) fun _ _ _ clear => clear

/-- The heartbeat looks at a frame that the hook has seen. -/
theorem intercept_captured (kind : LoopKind) {frame : WsFrame} {l : Locals E} {m : Capture}
    (captured : Captured frame l m) :
    capture.ensures (fun verdict => match verdict with
      | .pass => Captured frame
      | .again => Clear
      | .leave _ => Clear) ((hooksOf kind : Hooks E).intercept frame) l m := by
  cases kind with
  | plain => exact captured
  | healthChecked =>
    have fits : ∀ time result,
        m.Fits (event l (.ping (.handleInbound frame)) time result) := by
      intro time result
      refine (fits_clear captured.1).mpr ⟨nofun, nofun, ?_⟩
      rintro other rfl
      exact captured.2
    refine ensures_ask_then capture (.ping (.handleInbound frame)) fun time result _ =>
      ⟨fits time result, ?_⟩
    have same : capture.step m (event l (.ping (.handleInbound frame)) time result) = m := rfl
    rw [same]
    have clear : Clear l m := captured.1
    cases result with
    | notPong => exact captured
    | invalidPong =>
      exact capture.ensures_seq (clear_ask (.monitor _) trivial clear) fun _ _ _ clear => clear
    | pongReceived rtt =>
      cases rtt with
      | none => exact clear
      | some rtt =>
        exact capture.ensures_seq (clear_ask (.monitor _) trivial clear) fun _ _ _ clear => clear
    | reply reply =>
      refine emit_then .pong reply clear fun written l m clear => ?_
      cases written with
      | error error =>
        exact capture.ensures_seq (clear_ask (.monitor _) trivial clear) fun _ _ _ clear => clear
      | ok _ =>
        exact capture.ensures_seq (clear_ask (.monitor _) trivial clear) fun _ _ _ clear => clear

/-- The summary after the session `select!`. -/
def Capture.selects (m : Capture) : Option (Arm E) → Capture
  | some (.frame (some (.ok frame))) => { m with stage := .received frame }
  | _ => m

theorem selects_next (arm : Option (Arm E)) {l : Locals E} {m : Capture} (clear : Clear l m) :
    afterSelect Clear Clear (fun _ => Clear) (fun _ => Clear) Received arm l (m.selects arm) := by
  match arm with
  | none => exact clear
  | some (.command none) => exact clear
  | some (.command (some .shutdown)) => exact clear
  | some (.command (some (.forceReconnect _))) => exact clear
  | some (.command (some (.send _))) => exact clear
  | some (.command (some (.updateSubscriptions _))) => exact clear
  | some (.frame none) => exact clear
  | some (.frame (some (.error _))) => exact clear
  | some (.frame (some (.ok frame))) => exact rfl

theorem reads_of_select {op : Op E} (selects : Selects op) (l : Locals E) (time : Instant)
    (val : op.Ans) {way : Passage} (passes : passage (event l op time val) = some way) :
    ∃ frame, way = .reads frame := by
  cases op with
  | select =>
    rcases val with _ | _ | _ | frame
    case frame.some.ok => exact ⟨frame, (Option.some.inj passes).symm⟩
    all_goals cases passes
  | selectWithPing =>
    rcases val with _ | _ | _ | _ | frame
    case some.frame.some.ok => exact ⟨frame, (Option.some.inj passes).symm⟩
    all_goals cases passes
  | _ => exact selects.elim

theorem select_fits (op : Op E) (selects : Selects op) {l : Locals E} {m : Capture}
    (clear : Clear l m) (time : Instant) (val : op.Ans) : m.Fits (event l op time val) := by
  refine (fits_clear clear).mpr
    ⟨fun frame passes => ?_, fun frame passes => ?_, fun frame looks => ?_⟩
  · obtain ⟨_, wrong⟩ := reads_of_select selects l time val passes
    cases wrong
  · obtain ⟨_, wrong⟩ := reads_of_select selects l time val passes
    cases wrong
  · change Interprets frame op at looks
    cases op <;> first | exact selects.elim | exact looks.elim

theorem select_receives (pinging : Bool) {l : Locals E} {m : Capture} (clear : Clear l m) :
    capture.ensures (afterSelect Clear Clear (fun _ => Clear) (fun _ => Clear) Received)
      (sessionSelect pinging) l m := by
  cases pinging with
  | true =>
    refine ensures_of_ask capture .selectWithPing fun time arm _ =>
      ⟨select_fits .selectWithPing trivial clear time arm, ?_⟩
    have moved : capture.step m (event l .selectWithPing time arm) = m.selects arm := by
      rcases arm with _ | _ | _ | _ | frame <;> rfl
    rw [moved]
    exact selects_next arm clear
  | false =>
    refine ensures_ask_then capture .select fun time arm _ =>
      ⟨select_fits .select trivial clear time arm, ?_⟩
    have moved : capture.step m (event l .select time arm) = m.selects (some arm) := by
      rcases arm with _ | _ | _ | frame <;> rfl
    rw [moved]
    exact selects_next (some arm) clear

def captureJunctions : Junctions E Capture where
  top := Clear
  dialing := Clear
  refused := fun _ => Clear
  opened := Clear
  fresh := Clear
  greeted := Clear
  ready := Clear
  replaying := Clear
  broken := fun _ => Clear
  session := Clear
  ticked := Clear
  holding := fun _ => Clear
  reading := Received
  captured := Captured
  passed := Captured
  parsed := fun _ => Clear
  judging := fun _ _ _ => Clear
  flushing := Clear
  stopping := Clear
  leaving := fun _ => Clear
  closing := fun _ => Clear
  down := fun _ => Clear
  done := Clear

theorem capture_hooks (kind : LoopKind) :
    HookOutline capture (hooksOf kind) (captureJunctions (E := E)) := by
  cases kind with
  | plain => constructor <;> intros <;> assumption
  | healthChecked =>
    have told : ∀ (call : MonitorCall) {l : Locals E} {m : Capture}, Clear l m →
        capture.ensures (fun _ => Clear) (monitor call) l m :=
      fun call _ _ clear => clear_ask (.monitor call) trivial clear
    constructor
    case attempt => exact fun clear => told _ clear
    case refused => exact fun clear _ _ => told _ clear
    case connected =>
      intro l m clear
      refine capture.ensures_seq (told .recordConnectSuccess clear) fun _ l m clear => ?_
      refine capture.ensures_seq (told .resetConnection clear) fun _ l m clear => ?_
      exact clear_ask (.ping .reset) trivial clear
    case broken => exact fun clear _ _ => told _ clear
    case enterSession =>
      intro l m clear
      exact capture.ensures_seq (clear_ask (.ping .interval) trivial clear)
        fun interval _ _ clear => clear_ask (.startPingSleep interval) trivial clear
    case sent => exact fun clear => told _ clear
    case arrived =>
      intro frame l m received
      exact ensures_of_ask capture (.monitor .recordMessage) fun time _ _ =>
        ⟨(fits_received received).mpr (Or.inl rfl), received⟩
    case unparsed => exact fun clear _ _ => told _ clear
    case serverError => exact fun clear => told _ clear
    case failing => exact fun clear => told _ clear
    case unread => exact fun clear => told _ clear
    case ended =>
      intro cause l m clear
      cases cause with
      | pongTimeout => exact told _ clear
      | staleData => exact told _ clear
      | _ => exact clear
    case retried => exact fun clear => told _ clear

theorem capture_outline (url : String) (kind : LoopKind) :
    Outline capture (hooksOf kind) url (captureJunctions (E := E)) := by
  constructor
  case hooks => exact capture_hooks kind
  case start => exact clear_ask (.storeStatus _) trivial
  case dial =>
    exact fun clear => capture.ensures_mono clear_orElse
      (clear_ask (.connect url .default) trivial clear)
  case refuse =>
    exact clear_across (quiet_storeThenDecide _) mute_of_closes fun _ _ _ clear => clear
  case greet => exact clear_across quiet_greeting mute_of_greets fun _ _ _ clear => clear
  case auth => exact fun clear => capture.ensures_mono clear_orElse (offerAuth_clear clear)
  case mode =>
    intro l m ready
    refine capture.ensures_mono ?_ (clear_ask (.handler .sessionMode) trivial ready)
    intro mode l' m' clear
    cases mode with
    | publicSession => exact clear
    | authGated => exact clear
  case replay =>
    exact fun clear => capture.ensures_mono clear_orElse (replaySubscriptions_clear clear)
  case fail =>
    exact clear_across (quiet_decideThenStore _) mute_of_closes fun _ _ _ clear => clear
  case select => exact select_receives _
  case tick =>
    intro l m clear
    refine capture.ensures_mono ?_ (tick_clear kind clear)
    intro verdict l m clear
    cases verdict with
    | none => exact clear
    | some cause => exact clear
  case park => exact fun holding _ _ => holding
  case apply =>
    exact fun holding _ _ => capture.ensures_mono clear_orElse (applyCommand_clear _ _ _ holding)
  case inbound =>
    intro frame l m received
    exact ensures_of_ask capture (.handler (.onInboundFrame frame)) fun time _ _ =>
      ⟨(fits_received received).mpr (Or.inr rfl), rfl, rfl⟩
  case intercept => exact intercept_captured kind
  case parse =>
    intro frame l m captured
    have fits : ∀ time outcome,
        m.Fits (event l (.handler (.parseFrame frame)) time outcome) := by
      intro time outcome
      refine (fits_clear captured.1).mpr ⟨nofun, nofun, ?_⟩
      rintro other rfl
      exact captured.2
    refine ensures_of_ask capture (.handler (.parseFrame frame)) fun time outcome _ =>
      ⟨fits time outcome, ?_⟩
    match outcome with
    | .ok (.message action) => exact captured.1
    | .ok (.serverError code message data) => exact captured.1
    | .error error => exact captured.1
  case judge =>
    intro code message data l m judging
    refine capture.ensures_mono ?_
      (clear_ask (.handler (.handleServerError code message data)) trivial judging)
    intro action l' m' clear
    cases action with
    | «continue» => exact clear
    | reconnect => exact clear
    | fatal => exact clear
  case proceed => exact id
  case authenticate =>
    exact fun clear => capture.ensures_mono clear_orElse (replaySubscriptions_clear clear)
  case flush =>
    exact fun flushing => capture.ensures_mono clear_orElse
      (ensures_flush (fun _ _ _ clear => clear) applyCommand_clear flushing)
  case reply =>
    exact fun clear => capture.ensures_mono clear_orElse (sendPayload_clear _ _ clear)
  case process =>
    intro message l m parsed
    refine capture.ensures_mono ?_ (clear_ask (.handler (.handleMessage message)) trivial parsed)
    intro result l' m' clear
    cases result with
    | ok _ => exact clear
    | error error => exact clear
  case requested => exact id
  case shutdown => exact id
  case stop => exact clear_ask (.storeStatus _) trivial
  case finish => exact clear_ask (.storeStatus _) trivial
  case decide =>
    exact clear_across ((quiet_decideReconnect _).mono closes_of_decides) mute_of_closes
      fun _ _ _ clear => clear
  case abort => exact id
  case wait =>
    refine clear_across (quiet_wait _) mute_of_waits fun retry l m clear => ?_
    cases retry with
    | true => exact clear
    | false => exact clear

/-- The frames counted so far, against the stage. -/
structure Tally (m : Capture) (t : List (ManagedEvent E)) : Prop where
  outbound : framesOf Passage.shown t = framesOf Passage.written t ++ m.stage.unwritten.toList
  inbound : framesOf Passage.received t = framesOf Passage.captured t ++ m.stage.unseen.toList
  latest : m.latest = (framesOf Passage.captured t).getLast?

/-- A call with a frame moves it from one sequence to the other. -/
theorem tally_snoc {m : Capture} {t : List (ManagedEvent E)} {e : ManagedEvent E}
    (tally : Tally m t) (fits : m.Fits e) : Tally (m.after e) (t ++ [e]) := by
  obtain ⟨outbound, inbound, latest⟩ := tally
  cases passes : passage e with
  | none =>
    rw [after_unnoticed passes]
    constructor <;> simpa only [framesOf_snoc, passes, Option.bind_none, Option.toList_none,
      List.append_nil]
  | some way =>
    rw [after_passage passes]
    cases stage : m.stage with
    | clear =>
      rw [fits_clear stage, passes] at fits
      rw [stage] at outbound inbound
      cases way with
      | writes frame => exact absurd rfl (fits.1 frame)
      | captures frame => exact absurd rfl (fits.2.1 frame)
      | _ =>
        constructor <;> simp [framesOf_snoc, passes, outbound, inbound, latest]
    | shown frame =>
      rw [fits_shown stage, passes] at fits
      obtain rfl := Option.some.inj fits
      rw [stage] at outbound inbound
      constructor <;> simp [framesOf_snoc, passes, outbound, inbound, latest]
    | received frame =>
      rw [fits_received stage, passes] at fits
      rcases fits with told | captured
      · have unnoticed : passage e = none := passage_mute (by rw [told]; trivial)
        rw [unnoticed] at passes
        cases passes
      · obtain rfl := Option.some.inj captured
        rw [stage] at outbound inbound
        constructor <;> simp [framesOf_snoc, passes, outbound, inbound]

theorem tally_run {t : List (ManagedEvent E)}
    (safe : capture.Along capture.safe Capture.start t) : Tally (capture.run .start t) t := by
  induction t using List.reverseRecOn with
  | nil => exact ⟨rfl, rfl, rfl⟩
  | append_singleton t e ih =>
    obtain ⟨before, last⟩ := capture.along_append.mp safe
    rw [Monitor.run_append]
    exact tally_snoc (ih before) last.1

/-- The stage tells the last call that had to do with a frame. -/
theorem last_shown {t : List (ManagedEvent E)} {frame : WsFrame}
    (safe : capture.Along capture.safe Capture.start t)
    (stage : (capture.run .start t).stage = .shown frame) :
    ∃ earlier d, t = earlier ++ [d] ∧ passage d = some (.shows frame) := by
  induction t using List.reverseRecOn with
  | nil => cases stage
  | append_singleton t e ih =>
    obtain ⟨before, last⟩ := capture.along_append.mp safe
    refine ⟨t, e, rfl, ?_⟩
    rw [Monitor.run_append] at stage
    change ((capture.run .start t).after e).stage = .shown frame at stage
    cases passes : passage e with
    | none =>
      -- right after the hook nothing but the write fits
      rw [after_unnoticed passes] at stage
      have writes := (fits_shown stage).mp last.1
      cases passes.symm.trans writes
    | some way =>
      rw [after_passage passes] at stage
      cases way with
      | shows other => rw [Stage.shown.inj stage]
      | _ => cases stage

/-- A frame that was read is shown to the hook after statistics at most. -/
theorem capturing (url : String) (kind : LoopKind) (frame : WsFrame) :
    Obligation capture (Proc.turn (hookedLoop (hooksOf kind : Hooks E) url))
      (fun c m => captureJunctions.inv c.1 c.2 m) (fun r m => captureJunctions.done r.2 m)
      (fun e => e.op.2 = .monitor .recordMessage) (fun e => passage e = some (.captures frame))
      (fun _ => False) (fun m => m.stage = .received frame) fun _ => 0 where
  answers := fun _ op => ⟨⟨0, bareAnswer op.2⟩, trivial⟩
  keeps := by
    intro m e fits stage other
    rcases (fits_received stage).mp fits with told | captured
    · refine ⟨told, ?_, Nat.le_refl 0⟩
      have unnoticed : passage e = none := passage_mute (by rw [told]; trivial)
      change (m.after e).stage = _
      rw [after_unnoticed unnoticed]
      exact stage
    · exact absurd captured other
  headway := by
    rintro ⟨head, l⟩ m e q clear _ stage _ _
    cases head with
    | connect => cases stage.symm.trans clear
    | session => cases stage.symm.trans clear
  ending := fun _ m clear stage => nomatch stage.symm.trans clear

/-- The hooks mirror the wire along the run `t` of the loop, which stands at `q`. -/
structure Mirrors (loop : Head → Managed E Flow) (t : List (ManagedEvent E)) (q : Task E) :
    Prop where
  /-- What is shown is what is written; the write of the last frame may be the next call. -/
  outbound : framesOf Passage.shown t = framesOf Passage.written t ∨
    ∃ l site frame next, q = .call (l, .write site frame) next ∧
      framesOf Passage.shown t = framesOf Passage.written t ++ [frame]
  shown_before : ∀ before e after frame, t = before ++ e :: after →
    passage e = some (.writes frame) →
    ∃ earlier d, before = earlier ++ [d] ∧ passage d = some (.shows frame)
  written_after : ∀ before e d after frame, t = before ++ e :: d :: after →
    passage e = some (.shows frame) → passage d = some (.writes frame)
  /-- What is read is what is captured; the hook may still be due for the last frame. -/
  inbound : framesOf Passage.received t = framesOf Passage.captured t ∨
    ∃ frame, framesOf Passage.received t = framesOf Passage.captured t ++ [frame] ∧
      Leads (Proc.turn loop) (fun e => e.op.2 = .monitor .recordMessage)
        (fun e => passage e = some (.captures frame)) (fun _ => False) q
  captured_before : ∀ before e after frame, t = before ++ e :: after →
    Interprets frame e.op.2 →
    framesOf Passage.received before = framesOf Passage.captured before ∧
      (framesOf Passage.captured before).getLast? = some frame

theorem write_of_passage {e : ManagedEvent E} {frame : WsFrame}
    (passes : passage e = some (.writes frame)) : ∃ site, e.op.2 = .write site frame := by
  unfold passage at passes
  split at passes
  case h_2 l site other ans =>
    cases passes
    exact ⟨site, rfl⟩
  all_goals cases passes

/-- Looking into a frame is no passage of it. -/
theorem passage_of_interprets {e : ManagedEvent E} {frame : WsFrame}
    (looks : Interprets frame e.op.2) : passage e = none := by
  unfold passage
  split <;> first | exact looks.elim | rfl

/-- A frame is written right after it was shown. -/
theorem stage_of_write {m : Capture} {e : ManagedEvent E} {frame : WsFrame} (fits : m.Fits e)
    (passes : passage e = some (.writes frame)) : m.stage = .shown frame := by
  cases stage : m.stage with
  | clear => exact absurd passes (((fits_clear stage).mp fits).1 frame)
  | shown other =>
    obtain rfl := Passage.writes.inj
      (Option.some.inj (passes.symm.trans ((fits_shown stage).mp fits)))
    rfl
  | received other =>
    rcases (fits_received stage).mp fits with told | captured
    · have unnoticed : passage e = none := passage_mute (by rw [told]; trivial)
      cases passes.symm.trans unnoticed
    · cases passes.symm.trans captured

/-- A frame is looked into after the hook has seen it, and when nothing is pending. -/
theorem stage_of_interprets {m : Capture} {e : ManagedEvent E} {frame : WsFrame} (fits : m.Fits e)
    (looks : Interprets frame e.op.2) : m.stage = .clear ∧ m.latest = some frame := by
  have unnoticed : passage e = none := passage_of_interprets looks
  cases stage : m.stage with
  | clear => exact ⟨rfl, ((fits_clear stage).mp fits).2.2 frame looks⟩
  | shown other => cases unnoticed.symm.trans ((fits_shown stage).mp fits)
  | received other =>
    rcases (fits_received stage).mp fits with told | captured
    · rw [told] at looks
      exact looks.elim
    · cases unnoticed.symm.trans captured

theorem call_of_owed {m : Capture} {frame : WsFrame} {q : Task E}
    (owed : capture.wp captureJunctions.owes q m) (stage : m.stage = .shown frame) :
    ∃ l site next, q = .call (l, .write site frame) next := by
  cases q with
  | ret r =>
    rcases r with ⟨head, l⟩ | ⟨_, l⟩
    · cases head <;> cases stage.symm.trans owed
    · cases stage.symm.trans owed
  | call op next =>
    obtain ⟨l, op⟩ := op
    have fits : m.Fits (event l op 0 (bareAnswer op)) := (owed ⟨0, bareAnswer op⟩ trivial).1
    obtain ⟨site, writes⟩ := write_of_passage ((fits_shown stage).mp fits)
    change op = .write site frame at writes
    subst writes
    exact ⟨l, site, next, rfl⟩

/-- Both loops, every run. -/
theorem capture_hooks_mirror (url : String) (kind : LoopKind) {t : List (ManagedEvent E)}
    {q : Task E} (run : Run (managedLoop url kind) t q) : Mirrors (managedLoop url kind) t q := by
  rw [managedLoop_eq] at run ⊢
  have outline := capture_outline (E := E) url kind
  have relied : capture.Along capture.rely Capture.start t :=
    capture.along_iff.mpr fun _ _ _ _ => trivial
  have begins : captureJunctions.top (Locals.initial : Locals E) Capture.start := rfl
  obtain ⟨safe, owed⟩ := outline.run begins run relied
  have fits : ∀ before e after, t = before ++ e :: after →
      (capture.run .start before).Fits e := capture.along_iff.mp safe
  have safe_before : ∀ before e after, t = before ++ e :: after →
      capture.Along capture.safe Capture.start before := by
    rintro before e after rfl
    exact (capture.along_append.mp safe).1
  obtain ⟨outbound, inbound, -⟩ := tally_run safe
  constructor
  case outbound =>
    cases stage : (capture.run Capture.start t).stage with
    | shown frame =>
      rw [stage] at outbound
      obtain ⟨l, site, next, rfl⟩ := call_of_owed owed stage
      exact Or.inr ⟨l, site, frame, next, rfl, outbound⟩
    | _ =>
      rw [stage] at outbound
      exact Or.inl (outbound.trans (List.append_nil _))
  case inbound =>
    cases stage : (capture.run Capture.start t).stage with
    | received frame =>
      rw [stage] at inbound
      have leads := (capturing url kind frame).leads _ (turn_starts url kind)
        (fun c m standing => capture.turn_wp (outline.turns c.1 c.2 m standing)) owed stage
      exact Or.inr ⟨frame, inbound, leads.leads _ fun _ _ => trivial⟩
    | _ =>
      rw [stage] at inbound
      exact Or.inl (inbound.trans (List.append_nil _))
  case shown_before =>
    intro before e after frame cut passes
    have stage := stage_of_write (fits before e after cut) passes
    exact last_shown (safe_before before e after cut) stage
  case written_after =>
    intro before e d after frame cut passes
    have next := fits (before ++ [e]) d after (by rw [cut]; simp)
    rw [Monitor.run_append] at next
    have stage : (capture.run (capture.run Capture.start before) [e]).stage = .shown frame := by
      change ((capture.run Capture.start before).after e).stage = _
      rw [after_passage passes]
      rfl
    exact (fits_shown stage).mp next
  case captured_before =>
    intro before e after frame cut looks
    obtain ⟨stage, seen⟩ := stage_of_interprets (fits before e after cut) looks
    obtain ⟨-, read, latest⟩ := tally_run (safe_before before e after cut)
    rw [stage] at read
    exact ⟨read.trans (List.append_nil _), latest.symm.trans seen⟩

/-- A peer that pings all the time, and a strategy that answers it. -/
def pinged : Nat → (op : Op bareEndpoint) → op.Ans
  | _, .selectWithPing => some (.frame (some (.ok (.ping ⟨#[7]⟩))))
  | _, .ping (.handleInbound _) => .reply (.pong ⟨#[7]⟩)
  | _, op => bareAnswer op

theorem answered_ping_captured :
    framesOf Passage.received (trial (managedLoop "ws://peer" .healthChecked) pinged 22).1 =
        [.ping ⟨#[7]⟩] ∧
      framesOf Passage.written (trial (managedLoop "ws://peer" .healthChecked) pinged 22).1 =
        [.pong ⟨#[7]⟩] ∧
      Mirrors (managedLoop "ws://peer" .healthChecked)
        (trial (managedLoop "ws://peer" .healthChecked) pinged 22).1
        (trial (managedLoop "ws://peer" .healthChecked) pinged 22).2 :=
  ⟨rfl, rfl, capture_hooks_mirror "ws://peer" .healthChecked (trial_run _ pinged 22)⟩

end CaptureHooks
