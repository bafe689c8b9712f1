import SharedWs.InteractionProgress
import SharedWs.ManagedBlocks
import SharedWs.PingStrategies

/-!
# Control frames in the health-checked loop

An inbound frame goes to the ping strategy first and to the handler only if the
strategy says `NotPong`. Nothing in between looks at the kind of the frame. The
two control-frame strategies take `Ping` and `Pong`; the application strategy
answers `NotPong` for them, so they reach `parse_frame`, whose default passes
their payload to `parse`, and no `Pong` is sent.
-/
namespace ControlFrames

open InteractionPrograms InteractionMonitors InteractionProgress WsFrames WsTypes ManagedOps
open ManagedLoop HookedLoop LoopOutline ManagedBlocks PingStrategies

variable {E : Endpoint}

/-- What the default `parse_frame` passes on to `parse`, as a `parse` that refuses everything
reports it. -/
def passedOn (frame : WsFrame) : Option Bytes :=
  match @parseFrame Bytes Unit Unit .error frame with
  | .error bytes => some bytes
  | .ok _ => none

theorem passedOn_eq (frame : WsFrame) : passedOn frame = frameBytes frame := by
  rw [passedOn, parseFrame_eq]
  cases frameBytes frame <;> rfl

theorem parseFrame_of_passedOn {Error Message Value : Type} {frame : WsFrame} {bytes : Bytes}
    (parse : Bytes → Except Error (WsParseOutcome Message Value))
    (passed : passedOn frame = some bytes) : parseFrame parse frame = parse bytes := by
  rw [passedOn_eq] at passed
  rw [parseFrame_eq, passed]
  rfl

/-- The payload of a control frame that it passes on in this call. -/
def parsedControl : ManagedEvent E → Option Bytes
  | ⟨(_, .handler (.parseFrame frame)), _⟩ =>
    if (controlPayload frame).isSome then passedOn frame else none
  | _ => none

/-- How far the frame read last has come. -/
inductive Stage where
  | idle
  | arrived (frame : WsFrame)
  | replying (reply : WsFrame)
  | passed (frame : WsFrame)

def Stage.heard : Stage → (call : PingCall) → call.Res → Stage
  | .arrived _, .handleInbound _, .reply reply => .replying reply
  | .arrived _, .handleInbound frame, .notPong => .passed frame
  | .arrived _, .handleInbound _, .pongReceived _ => .idle
  | .arrived _, .handleInbound _, .invalidPong => .idle
  | stage, _, _ => stage

structure Routing where
  strategy : BuiltIn
  stage : Stage

def Routing.start (strategy : BuiltIn) : Routing := ⟨strategy, .idle⟩

def Routing.after (m : Routing) : ManagedEvent E → Routing
  | ⟨(_, .selectWithPing), ⟨_, some (.frame (some (.ok frame)))⟩⟩ =>
    { m with stage := .arrived frame }
  | ⟨(_, .ping call), ⟨time, result⟩⟩ =>
    ⟨(m.strategy.respond time call).2, m.stage.heard call result⟩
  | ⟨(_, .write .pong _), _⟩ | ⟨(_, .handler (.parseFrame _)), _⟩ => { m with stage := .idle }
  | _ => m

/-- The strategy answers its calls. -/
def Follows (m : Routing) : ManagedEvent E → Prop
  | ⟨(_, .ping call), ⟨time, result⟩⟩ => result = (m.strategy.respond time call).1
  | _ => True

/-- What the loop calls at each stage. -/
def Fits : Stage → Op E → Prop
  | .idle, op => ∀ frame, op ≠ .handler (.parseFrame frame)
  | .arrived frame, op => op = .monitor .recordMessage ∨ op = .handler (.onInboundFrame frame) ∨
    op = .ping (.handleInbound frame)
  | .replying reply, op => op = .handler (.onOutboundFrame reply) ∨ op = .write .pong reply
  | .passed frame, op => op = .handler (.parseFrame frame)

def routing : ManagedMonitor E Routing where
  step := Routing.after
  rely := Follows
  safe := fun m e => Fits m.stage e.op.2 ∧ Follows m e

def At (stage : Stage) (_ : Locals E) (m : Routing) : Prop := m.stage = stage

/-- Calls that neither read a frame nor parse one. -/
def Unread (op : Op E) : Prop :=
  (∀ frame, op ≠ .handler (.parseFrame frame)) ∧ op ≠ .selectWithPing

/-- A block that never makes these two calls. -/
theorem unread_of {allowed : Op E → Prop}
    (parses : ∀ frame, ¬ allowed (.handler (.parseFrame frame)))
    (reads : ¬ allowed .selectWithPing) (op : Op E) (permitted : allowed op) : Unread op := by
  constructor
  · rintro frame rfl
    exact parses frame permitted
  · rintro rfl
    exact reads permitted

theorem after_unread {m : Routing} {e : ManagedEvent E} (unread : Unread e.op.2)
    (idle : m.stage = .idle) : (m.after e).stage = .idle := by
  rw [Routing.after.eq_def]
  split
  · exact absurd rfl unread.2
  · change m.stage.heard _ _ = .idle
    rw [idle]
    rfl
  · rfl
  · rfl
  · exact idle

theorem keeps_idle : Keeps routing Unread (At (E := E) .idle) := by
  intro l m op time val unread idle relied
  have fits : Fits m.stage op := by
    rw [show m.stage = .idle from idle]
    exact unread.1
  exact ⟨⟨fits, relied⟩, after_unread unread idle⟩

/-- A block that never makes these calls leaves the loop idle. -/
theorem idle_across {allowed : Op E → Prop} {α : Type} {x : Managed E α}
    (quiet : Proc.Quiet allowed x) (parses : ∀ frame, ¬ allowed (.handler (.parseFrame frame)))
    (reads : ¬ allowed .selectWithPing) {post : α → Locals E → Routing → Prop} {l : Locals E}
    {m : Routing} (enough : ∀ a l m, At .idle l m → post a l m) (idle : At .idle l m) :
    routing.ensures post x l m :=
  routing.ensures_mono enough ((keeps_idle.mono (unread_of parses reads)).ensures quiet idle)

theorem idle_ask (op : Op E) (unread : Unread op) {l : Locals E} {m : Routing}
    (idle : At .idle l m) : routing.ensures (fun _ => At .idle) (ask op) l m :=
  keeps_idle.ensures (quiet_ask unread) idle

/-- The health monitor is told something, and the loop goes on. -/
theorem record_then (call : MonitorCall) {α : Type} {f : call.Res → Managed E α}
    {post : α → Locals E → Routing → Prop} {l : Locals E} {m : Routing} (idle : At .idle l m)
    (rest : ∀ a l' m', At .idle l' m' → routing.ensures post (f a) l' m') :
    routing.ensures post (monitor call >>= f) l m :=
  routing.ensures_seq (idle_ask (.monitor call) ⟨nofun, nofun⟩ idle) rest

theorem idle_orElse {context : String} (result : Except WebSocketError Unit) (l : Locals E)
    (m : Routing) (idle : At .idle l m) :
    orElse (At .idle) (fun _ => At .idle) context result l m :=
  orElse_of idle (fun _ => idle) context result

def routeJunctions : Junctions E Routing where
  top := At .idle
  dialing := At .idle
  refused := fun _ => At .idle
  opened := At .idle
  fresh := At .idle
  greeted := At .idle
  ready := At .idle
  replaying := At .idle
  broken := fun _ => At .idle
  session := At .idle
  ticked := At .idle
  holding := fun _ => At .idle
  reading := fun frame => At (.arrived frame)
  passed := fun frame => At (.passed frame)
  parsed := fun _ => At .idle
  judging := fun _ _ _ => At .idle
  flushing := At .idle
  stopping := At .idle
  leaving := fun _ => At .idle
  closing := fun _ => At .idle
  down := fun _ => At .idle
  done := At .idle

/-- The health object is told about the frame before the strategy sees it. -/
theorem arrival {frame : WsFrame} {op : Op E}
    (tells : op = .monitor .recordMessage ∨ op = .handler (.onInboundFrame frame)) :
    Keeps routing (· = op) (At (E := E) (.arrived frame)) := by
  intro l m op' time val same arrived relied
  subst same
  have fits : Fits m.stage op' := by
    rw [show m.stage = .arrived frame from arrived]
    rcases tells with tells | tells
    · exact Or.inl tells
    · exact Or.inr (Or.inl tells)
  refine ⟨⟨fits, relied⟩, ?_⟩
  rcases tells with rfl | rfl
  · exact arrived
  · exact arrived

theorem route_hooks : HookOutline routing healthHooks (routeJunctions (E := E)) := by
  have keeps : Keeps routing HealthOp (At (E := E) .idle) :=
    keeps_idle.mono (unread_of (fun _ => id) id)
  have silent := healthHooks_silent (E := E)
  constructor
  case attempt => exact fun idle => keeps.ensures silent.attempt idle
  case refused => exact fun idle context error => keeps.ensures (silent.failed context error) idle
  case connected => exact fun idle => keeps.ensures silent.connected idle
  case broken => exact fun idle context error => keeps.ensures (silent.failed context error) idle
  case enterSession => exact fun idle => keeps.ensures silent.enterSession idle
  case sent => exact fun idle => keeps.ensures silent.sent idle
  case arrived => exact fun arrived => (arrival (Or.inl rfl)).ensures (quiet_monitor rfl) arrived
  case unparsed => exact fun idle context error => keeps.ensures (silent.failed context error) idle
  case serverError => exact fun idle => keeps.ensures (silent.serverError _ _) idle
  case failing => exact fun idle => keeps.ensures (silent.failed _ _) idle
  case unread => exact fun idle => keeps.ensures (silent.failed _ _) idle
  case ended => exact fun idle => keeps.ensures (silent.ended _) idle
  case retried => exact fun idle => keeps.ensures silent.retried idle

/-- A reply is shown to the capture hook and written. -/
theorem intercept_routes {frame : WsFrame} {l : Locals E} {m : Routing}
    (arrived : At (.arrived frame) l m) :
    routing.ensures (fun verdict => match verdict with
      | .pass => At (.passed frame)
      | .again => At .idle
      | .leave _ => At .idle) (pingIntercept frame) l m := by
  have keeps : Keeps routing HealthOp (At (E := E) .idle) :=
    keeps_idle.mono (unread_of (fun _ => id) id)
  refine ensures_ask_then routing _ fun time result relied => ⟨⟨?_, relied⟩, ?_⟩
  · rw [show m.stage = .arrived frame from arrived]
    exact Or.inr (Or.inr rfl)
  have heard : (m.after (event l (.ping (.handleInbound frame)) time result)).stage =
      (Stage.arrived frame).heard (.handleInbound frame) result := by
    rw [← show m.stage = .arrived frame from arrived]
    rfl
  change routing.ensures _ _ l (m.after (event l (.ping (.handleInbound frame)) time result))
  generalize m.after (event l (.ping (.handleInbound frame)) time result) = m at heard
  cases result with
  | notPong => exact heard
  | invalidPong => exact record_then _ heard fun _ _ _ idle => idle
  | pongReceived rtt =>
    cases rtt with
    | none => exact heard
    | some rtt => exact record_then _ heard fun _ _ _ idle => idle
  | reply reply =>
    have stage : m.stage = .replying reply := heard
    refine ensures_ask_then routing _ fun time _ relied => ⟨⟨?_, relied⟩, ?_⟩
    · rw [stage]
      exact Or.inl rfl
    refine ensures_ask_then routing (.write .pong reply) fun time written relied =>
      ⟨⟨?_, relied⟩, ?_⟩
    · change Fits m.stage _
      rw [stage]
      exact Or.inr rfl
    have idle : At .idle l (m.after (event l (.write .pong reply) time written)) := rfl
    cases written with
    | error error => exact record_then _ idle fun _ _ _ idle => idle
    | ok _ => exact record_then _ idle fun _ _ _ idle => idle

theorem read_arrives {l : Locals E} {m : Routing} (idle : At .idle l m) :
    routing.ensures (afterSelect (At .idle) (At .idle) (fun _ => At .idle) (fun _ => At .idle)
      (fun frame => At (.arrived frame))) (ask .selectWithPing) l m := by
  refine ensures_of_ask routing _ fun time arm relied => ⟨⟨?_, relied⟩, ?_⟩
  · rw [show m.stage = .idle from idle]
    exact nofun
  match arm with
  | none => exact idle
  | some (.command none) => exact idle
  | some (.command (some .shutdown)) => exact idle
  | some (.command (some (.forceReconnect _))) => exact idle
  | some (.command (some (.send _))) => exact idle
  | some (.command (some (.updateSubscriptions _))) => exact idle
  | some (.frame none) => exact idle
  | some (.frame (some (.error _))) => exact idle
  | some (.frame (some (.ok frame))) => exact rfl

theorem apply_idle (command : ManagedWsCommand E.Subscription) (l : Locals E) (m : Routing)
    (idle : At .idle l m) : routing.ensures (fun _ => At .idle) (applyCommand command) l m :=
  idle_across (quiet_applyCommand command) (fun _ => nofun) nofun (fun _ _ _ => id) idle

theorem route_outline (url : String) :
    Outline routing healthHooks url (routeJunctions (E := E)) := by
  constructor
  case hooks => exact route_hooks
  case start => exact idle_ask (.storeStatus _) ⟨nofun, nofun⟩
  case dial =>
    exact fun idle => routing.ensures_mono idle_orElse
      (idle_ask (.connect url .default) ⟨nofun, nofun⟩ idle)
  case refuse =>
    exact idle_across (quiet_storeThenDecide _) (fun _ => id) id fun _ _ _ idle => idle
  case greet => exact idle_across quiet_greeting (fun _ => id) id fun _ _ _ idle => idle
  case auth => exact idle_across quiet_offerAuth (fun _ => id) id idle_orElse
  case mode =>
    intro l m ready
    refine routing.ensures_mono ?_ (idle_ask (.handler .sessionMode) ⟨nofun, nofun⟩ ready)
    intro mode l' m' idle
    cases mode with
    | publicSession => exact idle
    | authGated => exact idle
  case replay => exact idle_across quiet_replaySubscriptions (fun _ => id) id idle_orElse
  case fail =>
    exact idle_across (quiet_decideThenStore _) (fun _ => id) id fun _ _ _ idle => idle
  case select => exact read_arrives
  case tick =>
    refine idle_across (quiet_tick .healthChecked) (fun _ => id) id fun verdict l m idle => ?_
    cases verdict with
    | none => exact idle
    | some cause => exact idle
  case park => exact fun holding _ _ => holding
  case apply =>
    exact fun holding _ _ => routing.ensures_mono idle_orElse (apply_idle _ _ _ holding)
  case inbound =>
    exact fun arrived => (arrival (Or.inr rfl)).ensures (quiet_handler rfl) arrived
  case intercept => exact intercept_routes
  case parse =>
    intro frame l m passed
    refine ensures_of_ask routing (.handler (.parseFrame frame)) fun time outcome relied =>
      ⟨⟨?_, relied⟩, ?_⟩
    · rw [show m.stage = .passed frame from passed]
      exact rfl
    match outcome with
    | .ok (.message action) => exact rfl
    | .ok (.serverError code message data) => exact rfl
    | .error error => exact rfl
  case judge =>
    intro code message data l m judging
    refine routing.ensures_mono ?_
      (idle_ask (.handler (.handleServerError code message data)) ⟨nofun, nofun⟩ judging)
    intro action l' m' idle
    cases action with
    | «continue» => exact idle
    | reconnect => exact idle
    | fatal => exact idle
  case proceed => exact id
  case authenticate => exact idle_across quiet_replaySubscriptions (fun _ => id) id idle_orElse
  case flush =>
    exact fun flushing => routing.ensures_mono idle_orElse
      (ensures_flush (fun _ _ _ idle => idle) apply_idle flushing)
  case reply => exact idle_across (quiet_sendPayload _ _) (fun _ => id) id idle_orElse
  case process =>
    intro message l m parsed
    refine routing.ensures_mono ?_
      (idle_ask (.handler (.handleMessage message)) ⟨nofun, nofun⟩ parsed)
    intro result l' m' idle
    cases result with
    | ok _ => exact idle
    | error error => exact idle
  case requested => exact id
  case shutdown => exact id
  case stop => exact idle_ask (.storeStatus _) ⟨nofun, nofun⟩
  case finish => exact idle_ask (.storeStatus _) ⟨nofun, nofun⟩
  case decide =>
    exact idle_across (quiet_decideReconnect _) (fun _ => id) id fun _ _ _ idle => idle
  case abort => exact id
  case wait =>
    refine idle_across (quiet_wait _) (fun _ => id) id fun retry l m idle => ?_
    cases retry with
    | true => exact idle
    | false => exact idle

/-- The strategy has let only such control frames pass as it never takes. -/
def Honest (m : Routing) : Prop :=
  ∀ frame, m.stage = .passed frame → (controlPayload frame).isSome = true →
    m.strategy.isApplication = true

theorem after_application (m : Routing) (e : ManagedEvent E) :
    (m.after e).strategy.isApplication = m.strategy.isApplication := by
  rw [Routing.after.eq_def]
  split
  case h_2 => exact BuiltIn.respond_isApplication _ _ _
  all_goals rfl

theorem honest_after {m : Routing} {e : ManagedEvent E} (honest : Honest m)
    (follows : Follows m e) : Honest (m.after e) := by
  intro frame passed control
  rw [after_application]
  obtain ⟨⟨l, op⟩, time, val⟩ := e
  by_cases kept : m.stage = .passed frame
  · exact honest frame kept control
  · -- only an answer of the strategy can have brought it there
    rw [Routing.after.eq_def] at passed
    split at passed
    case h_2 call _ result same =>
      cases same
      change m.stage.heard call result = .passed frame at passed
      cases stage : m.stage with
      | arrived other =>
        rw [stage] at passed
        cases call with
        | handleInbound message =>
          cases result with
          | notPong =>
            cases passed
            exact (handleInbound_control m.strategy time control).mp follows.symm
          | _ => cases passed
        | _ => cases passed
      | passed other =>
        rw [stage] at passed
        exact absurd (stage.trans passed) kept
      | _ =>
        rw [stage] at passed
        cases passed
    all_goals first | exact absurd passed kept | cases passed

theorem unparsed_of_safe {m : Routing} {t : List (ManagedEvent E)}
    (safe : routing.Along routing.safe m t) (honest : Honest m)
    (other : m.strategy.isApplication = false) : ∀ e ∈ t, parsedControl e = none := by
  induction t generalizing m with
  | nil => exact List.forall_mem_nil _
  | cons e t ih =>
    obtain ⟨⟨fits, follows⟩, rest⟩ := safe
    refine List.forall_mem_cons.mpr ⟨?_, ih rest (honest_after honest follows) ?_⟩
    · rw [parsedControl.eq_def]
      split
      case h_2 => rfl
      case h_1 l frame ans =>
        refine if_neg fun control => ?_
        cases stage : m.stage with
        | idle =>
          rw [stage] at fits
          exact fits frame rfl
        | passed last =>
          rw [stage] at fits
          cases fits
          cases other.symm.trans (honest frame stage control)
        | _ =>
          rw [stage] at fits
          simp [Fits] at fits
    · exact (after_application m e).trans other

/-- Some answer is always possible. -/
theorem routing_answers (m : Routing) (op : Locals E × Op E) :
    ∃ ans, routing.rely m (⟨op, ans⟩ : ManagedEvent E) := by
  obtain ⟨l, op⟩ := op
  cases op with
  | ping call => exact ⟨⟨0, (m.strategy.respond 0 call).1⟩, rfl⟩
  | _ => exact ⟨⟨0, bareAnswer _⟩, trivial⟩

/-- The stages that a frame goes through are left before the turn ends. -/
theorem obligation_of_stages (url : String) {via goal : ManagedEvent E → Prop}
    {pending : Routing → Prop} (busy : ∀ m, pending m → m.stage ≠ .idle)
    (keeps : ∀ m e, Fits m.stage e.op.2 → Follows m e → pending m → ¬ goal e →
      via e ∧ pending (m.after e)) :
    Obligation routing (Proc.turn (hookedLoop (healthHooks : Hooks E) url))
      (fun c m => routeJunctions.inv c.1 c.2 m) (fun r m => routeJunctions.done r.2 m)
      via goal (fun _ => False) pending fun _ => 0 where
  answers := routing_answers
  keeps := by
    intro m e safe due other
    obtain ⟨through, kept⟩ := keeps m e safe.1 safe.2 due other
    exact ⟨through, kept, Nat.le_refl 0⟩
  headway := by
    rintro ⟨head, l⟩ m e q idle _ due _ _
    cases head with
    | connect => exact absurd idle (busy m due)
    | session => exact absurd idle (busy m due)
  ending := fun _ m idle due => busy m due idle

def Answers (payload : Bytes) (e : ManagedEvent E) : Prop :=
  e.op.2 = .write .pong (.pong payload)

def Parses (frame : WsFrame) (e : ManagedEvent E) : Prop := e.op.2 = .handler (.parseFrame frame)

/-- A `Pong` is going to be written. -/
structure Answering (payload : Bytes) (m : Routing) : Prop where
  stage : m.stage = .arrived (.ping payload) ∨ m.stage = .replying (.pong payload)
  taken : m.strategy.isApplication = false

/-- The frame is going to be parsed. -/
structure Passing (frame : WsFrame) (m : Routing) : Prop where
  stage : m.stage = .arrived frame ∨ m.stage = .passed frame
  untaken : m.strategy.isApplication = true

/-- Up to its answer the strategy is told about the frame and nothing else happens. -/
theorem arrived_steps {m : Routing} {e : ManagedEvent E} {frame : WsFrame}
    (stage : m.stage = .arrived frame) (fits : Fits m.stage e.op.2) (follows : Follows m e) :
    ¬ Selects e.op.2 ∧ ((m.after e).stage = .arrived frame ∨
      (m.after e).stage = (Stage.arrived frame).heard (.handleInbound frame)
        (m.strategy.respond e.ans.time (.handleInbound frame)).1) := by
  obtain ⟨⟨l, op⟩, time, val⟩ := e
  rw [stage] at fits
  rcases fits with same | same | same
  · cases same
    exact ⟨id, Or.inl stage⟩
  · cases same
    exact ⟨id, Or.inl stage⟩
  · cases same
    refine ⟨id, Or.inr ?_⟩
    rw [← stage, ← show val = _ from follows]
    rfl

theorem answering (url : String) (payload : Bytes) :
    Obligation routing (Proc.turn (hookedLoop (healthHooks : Hooks E) url))
      (fun c m => routeJunctions.inv c.1 c.2 m) (fun r m => routeJunctions.done r.2 m)
      (fun e => ¬ Selects e.op.2) (Answers payload) (fun _ => False) (Answering payload)
      fun _ => 0 := by
  refine obligation_of_stages url ?_ ?_
  · rintro m ⟨stage | stage, _⟩ idle
    · cases stage.symm.trans idle
    · cases stage.symm.trans idle
  · rintro m e fits follows ⟨stage, taken⟩ other
    have still := (after_application m e).trans taken
    rcases stage with stage | stage
    · obtain ⟨through, same | heard⟩ := arrived_steps stage fits follows
      · exact ⟨through, Or.inl same, still⟩
      · rw [handleInbound_ping taken] at heard
        exact ⟨through, Or.inr heard, still⟩
    · obtain ⟨⟨l, op⟩, ans⟩ := e
      rw [stage] at fits
      rcases fits with same | same
      · cases same
        exact ⟨id, Or.inr stage, still⟩
      · exact absurd same other

theorem passing (url : String) {frame : WsFrame}
    (control : (controlPayload frame).isSome = true) :
    Obligation routing (Proc.turn (hookedLoop (healthHooks : Hooks E) url))
      (fun c m => routeJunctions.inv c.1 c.2 m) (fun r m => routeJunctions.done r.2 m)
      (fun e => ¬ Selects e.op.2) (Parses frame) (fun _ => False) (Passing frame) fun _ => 0 := by
  refine obligation_of_stages url ?_ ?_
  · rintro m ⟨stage | stage, _⟩ idle
    · cases stage.symm.trans idle
    · cases stage.symm.trans idle
  · rintro m e fits follows ⟨stage, untaken⟩ other
    have still := (after_application m e).trans untaken
    rcases stage with stage | stage
    · obtain ⟨through, same | heard⟩ := arrived_steps stage fits follows
      · exact ⟨through, Or.inl same, still⟩
      · rw [(handleInbound_control m.strategy _ control).mpr untaken] at heard
        exact ⟨through, Or.inr heard, still⟩
    · rw [stage] at fits
      exact absurd fits other

theorem run_application (m : Routing) (t : List (ManagedEvent E)) :
    (routing.run m t).strategy.isApplication = m.strategy.isApplication := by
  induction t generalizing m with
  | nil => rfl
  | cons e t ih => exact (ih (m.after e)).trans (after_application m e)

theorem parsedControl_of_parses {frame : WsFrame} {e : ManagedEvent E} (parses : Parses frame e)
    (control : (controlPayload frame).isSome = true) : parsedControl e ≠ none := by
  obtain ⟨⟨l, op⟩, ans⟩ := e
  change op = .handler (.parseFrame frame) at parses
  subst parses
  cases frame with
  | ping payload => exact nofun
  | pong payload => exact nofun
  | _ => cases control

/-- A control frame that has been read is kept from the handler: no control
frame is parsed in the whole run, and a `Ping` gets its `Pong` before anything
else is received. -/
structure Kept (loop : Head → Managed E Flow) (m : Routing) (t : List (ManagedEvent E))
    (q : Task E) (frame : WsFrame) : Prop where
  unparsed : ∀ more r, Reaches (Proc.turn loop) q more r → routing.Along routing.rely m more →
    ∀ d ∈ t ++ more, parsedControl d = none
  answered : ∀ payload, frame = .ping payload →
    LeadsFrom (Proc.turn loop) routing (fun e => ¬ Selects e.op.2) (Answers payload)
      (fun _ => False) m q

/-- In a run with a built-in strategy that has just read a control frame. -/
theorem control_frame_kept_iff (url : String) (strategy : BuiltIn) {t : List (ManagedEvent E)}
    {l : Locals E} {time : Instant} {frame : WsFrame} {q : Task E}
    (run : Run (managedLoop url .healthChecked)
      (t ++ [event l .selectWithPing time (some (.frame (some (.ok frame))))]) q)
    (guided : routing.Along routing.rely (.start strategy)
      (t ++ [event l .selectWithPing time (some (.frame (some (.ok frame))))]))
    (control : (controlPayload frame).isSome = true) :
    Kept (managedLoop url .healthChecked)
      (routing.run (.start strategy)
        (t ++ [event l .selectWithPing time (some (.frame (some (.ok frame))))]))
      (t ++ [event l .selectWithPing time (some (.frame (some (.ok frame))))]) q frame ↔
    strategy.isApplication = false := by
  have loop : (managedLoop url .healthChecked : Head → Managed E Flow) =
      hookedLoop healthHooks url := managedLoop_eq url .healthChecked
  rw [loop] at run ⊢
  have start : At (E := E) .idle Locals.initial (.start strategy) := rfl
  have turns := fun (c : Head × Locals E) m inv =>
    routing.turn_wp ((route_outline url).turns c.1 c.2 m inv)
  obtain ⟨_, owed⟩ := (route_outline url).run start run guided
  have arrived : (routing.run (.start strategy)
      (t ++ [event l .selectWithPing time (some (.frame (some (.ok frame))))])).stage =
      .arrived frame := by
    rw [Monitor.run_append]
    rfl
  have same : ∀ t : List (ManagedEvent E),
      (routing.run (.start strategy) t).strategy.isApplication = strategy.isApplication :=
    run_application (.start strategy)
  constructor
  · intro kept
    by_contra application
    have untaken : strategy.isApplication = true := by simpa using application
    have leads := (passing url control).leads routing (turn_starts url .healthChecked) turns owed
      ⟨Or.inl arrived, (same _).trans untaken⟩
    obtain ⟨more, e, r, reaches, along, parses⟩ := leads.run routing fun _ => id
    refine parsedControl_of_parses parses control (kept.unparsed _ r reaches along e ?_)
    exact List.mem_append_right _ (List.mem_append_right _ (List.mem_singleton_self e))
  · intro taken
    constructor
    · intro more r reaches along
      have relied := routing.along_append.mpr ⟨guided, along⟩
      have safe := ((route_outline url).run start (run.trans reaches) relied).1
      exact unparsed_of_safe safe nofun taken
    · rintro payload rfl
      exact (answering url payload).leads routing (turn_starts url .healthChecked) turns owed
        ⟨Or.inl arrived, (same _).trans taken⟩

/-- A public session whose first frame is a `Ping`. -/
def pinged : Nat → (op : Op bareEndpoint) → op.Ans
  | _, .selectWithPing => some (.frame (some (.ok (.ping ⟨#[7]⟩))))
  | _, op => bareAnswer op

theorem server_ping_answered :
    Kept (managedLoop "ws://peer" .healthChecked)
      (routing.run (.start (.serverDriven ⟨(1 : Nat)⟩))
        (trial (managedLoop "ws://peer" .healthChecked) pinged 17).1)
      (trial (managedLoop "ws://peer" .healthChecked) pinged 17).1
      (trial (managedLoop "ws://peer" .healthChecked) pinged 17).2 (.ping ⟨#[7]⟩) := by
  let loop : Head → Managed bareEndpoint Flow := managedLoop "ws://peer" .healthChecked
  have cut : (trial loop pinged 17).1 = (trial loop pinged 16).1 ++
    [event ⟨false, true, []⟩ .selectWithPing 16 (some (.frame (some (.ok (.ping ⟨#[7]⟩)))))] := rfl
  have run := trial_run loop pinged 17
  have guided : routing.Along routing.rely (.start (.serverDriven ⟨(1 : Nat)⟩))
      (trial loop pinged 17).1 := by
    exact ⟨trivial, trivial, trivial, trivial, trivial, rfl, trivial, trivial, trivial, trivial,
      trivial, trivial, trivial, trivial, rfl, trivial, trivial, trivial⟩
  rw [cut] at run guided ⊢
  exact (control_frame_kept_iff "ws://peer" _ run guided rfl).mpr rfl

theorem application_ping_parsed :
    ∃ (strategy : BuiltIn) (t : List (ManagedEvent bareEndpoint)) (q : Task bareEndpoint),
      Run (managedLoop "ws://peer" .healthChecked) t q ∧
      routing.Along routing.rely (.start strategy) t ∧
      ∃ e ∈ t, parsedControl e = some ⟨#[7]⟩ := by
  let loop : Head → Managed bareEndpoint Flow := managedLoop "ws://peer" .healthChecked
  let ambient : Nat → Ambient := fun _ => ⟨(ByteArray.empty, ""), fun _ => none, (0 : Nat)⟩
  let strategy : BuiltIn := .application (.new (1 : Nat) (1 : Nat)) ambient
  refine ⟨strategy, _, _, trial_run loop pinged 21, ?_, ?_⟩
  · exact ⟨trivial, trivial, trivial, trivial, trivial, rfl, trivial, trivial, trivial, trivial,
      trivial, trivial, trivial, trivial, rfl, trivial, trivial, trivial, trivial, rfl, trivial,
      trivial⟩
  · let parse : ManagedEvent bareEndpoint := event ⟨false, true, []⟩
      (.handler (.parseFrame (.ping ⟨#[7]⟩))) 20 (.ok (.message .continue))
    have cut : (trial loop pinged 21).1 = (trial loop pinged 20).1 ++ [parse] := rfl
    refine ⟨parse, ?_, rfl⟩
    rw [cut]
    exact List.mem_append_right _ (List.mem_singleton_self parse)

end ControlFrames
