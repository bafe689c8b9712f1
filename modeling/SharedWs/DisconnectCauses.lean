import SharedWs.ManagedBlocks

/-!
# The causes of disconnects

Both managed loops end a connection for many reasons: a failed connect, write or parse callback,
the end of the stream, a command, a verdict of the heartbeat or of the endpoint. Each reason is
the answer of one call. The cause that `classify_disconnect` and `on_connection_disconnected` are
given is the first reason since the last `connect`, with the context of the statement that failed,
and once there is a reason the connection is used no more.
-/
namespace DisconnectCauses

open InteractionPrograms InteractionMonitors WsFrames WsTypes ManagedOps
open ManagedLoop HookedLoop LoopOutline ManagedBlocks

variable {E : Endpoint}

/-- Calls that report to the health object or set the ping timer; none of their answers decides
anything. -/
def Reports : Op E → Prop
  | .monitor .isStale => False
  | .monitor _ | .ping .reset | .ping .interval | .startPingSleep _ | .resetPingSleep _ => True
  | _ => False

/-- A monitor that does not look at reports cannot tell the two loops apart at the hooks. -/
theorem reporting_hooks {M : Type} {mon : ManagedMonitor E M} {j : Junctions E M}
    (ignores : Ignores mon Reports) (fresh : ∀ l m, j.opened l m → j.fresh l m) (kind : LoopKind) :
    HookOutline mon (hooksOf kind) j := by
  have reports : ∀ {α : Type} {x : Managed E α} {P : Locals E → M → Prop} {l : Locals E} {m : M},
      Proc.Quiet Reports x → P l m → mon.ensures (fun _ => P) x l m :=
    fun quiet holds => (ignores.keeps _).ensures quiet holds
  have records : ∀ context error, Proc.Quiet Reports
      ((hooksOf kind : Hooks E).failed context error) := by
    intro context error
    cases kind with
    | plain => exact Proc.Quiet.pure _
    | healthChecked => exact quiet_ask trivial
  have sent : Proc.Quiet Reports (hooksOf kind : Hooks E).sent := by
    cases kind with
    | plain => exact Proc.Quiet.pure _
    | healthChecked => exact quiet_ask trivial
  constructor
  case attempt =>
    cases kind with
    | plain => exact id
    | healthChecked => exact reports (quiet_ask trivial)
  case connected =>
    intro l m opened
    refine mon.ensures_mono (fun _ => fresh) ?_
    cases kind with
    | plain => exact opened
    | healthChecked =>
      exact reports ((quiet_ask trivial).bind fun _ => (quiet_ask trivial).bind fun _ =>
        quiet_ask trivial) opened
  case enterSession =>
    cases kind with
    | plain => exact id
    | healthChecked => exact reports ((quiet_ask trivial).bind fun _ => quiet_ask trivial)
  case arrived =>
    cases kind with
    | plain => exact id
    | healthChecked => exact reports (quiet_ask trivial)
  case serverError =>
    cases kind with
    | plain => exact id
    | healthChecked => exact reports (quiet_ask trivial)
  case ended =>
    intro cause l m closing
    cases kind with
    | plain => exact closing
    | healthChecked =>
      refine reports ?_ closing
      cases cause <;> first | exact quiet_ask trivial | exact Proc.Quiet.pure _
  case retried =>
    intro l m top
    cases kind with
    | plain => exact top
    | healthChecked =>
      have quiet : Proc.Quiet Reports (hooksOf .healthChecked : Hooks E).retried :=
        quiet_ask trivial
      exact (ignores.keeps fun l m => j.top { l with isReconnect := true } m).ensures quiet top
  case sent => exact reports sent
  case refused => exact fun holds context error => reports (records context error) holds
  case broken => exact fun holds context error => reports (records context error) holds
  case unparsed => exact fun holds context error => reports (records context error) holds
  case failing => exact reports (records _ _)
  case unread => exact reports (records _ _)

/-- How far the connection is: before its session, in it, or in the turn in which the handler
recognised the authentication. -/
inductive Place where
  | opening
  | session
  | flushing
  deriving DecidableEq

/-- The context under which a failed write is reported. -/
def writeContext : Place → WriteSite → String
  | _, .auth => "auth_send"
  | .opening, .replay => "subscription_replay"
  | .session, .replay | .flushing, .replay => "subscription_replay_after_auth"
  | .flushing, .command | .flushing, .update => "pending_auth_command"
  | .opening, .command | .opening, .update | .session, .command | .session, .update => "command"
  | _, .reply => "message_send"
  | _, .ping => "ping_send"
  | _, .pong => "pong_reply"

def armReason : Option (Arm E) → Option WsDisconnectCause
  | some (.command (some (.forceReconnect reason))) => some (.endpointRequested reason)
  | some (.frame none) => some .remoteClosed
  | some (.frame (some (.error error))) => some (.readFailure error.display)
  | _ => none

/-- The reason to disconnect that one call gives with its answer. The messages of
`on_connection_opened` are handled before the session, and their errors are dropped. -/
def reasonOf (place : Place) : ManagedEvent E → Option WsDisconnectCause
  | ⟨(_, .connect _ _), ⟨_, .error error⟩⟩ => some (.internalError "connect" error.display)
  | ⟨(_, .write site _), ⟨_, .error error⟩⟩ =>
    some (.internalError (writeContext place site) error.display)
  | ⟨(_, .handler (.updateSubscriptions _)), ⟨_, .error error⟩⟩ =>
    some (.internalError (writeContext place .update)
      (WebSocketError.endpointSpecific error).display)
  | ⟨(_, .handler (.parseFrame _)), ⟨_, .ok (.message (.reconnect reason))⟩⟩ =>
    some (.endpointRequested reason)
  | ⟨(_, .handler (.handleMessage _)), ⟨_, .error error⟩⟩ =>
    if place = .session then some (.internalError "handle_message" (E.errorText error)) else none
  | ⟨(_, .handler (.handleServerError code message _)), ⟨_, .reconnect⟩⟩ =>
    some (.serverError code message)
  | ⟨(_, .handler (.handleServerError code message _)), ⟨_, .fatal⟩⟩ =>
    some (.serverError code message)
  | ⟨(_, .ping .isStale), ⟨_, true⟩⟩ => some .pongTimeout
  | ⟨(_, .ping (.handleInbound _)), ⟨_, .invalidPong⟩⟩ => some .pongTimeout
  | ⟨(_, .monitor .isStale), ⟨_, true⟩⟩ => some .staleData
  | ⟨(_, .select), ⟨_, arm⟩⟩ => armReason (some arm)
  | ⟨(_, .selectWithPing), ⟨_, arm⟩⟩ => armReason arm
  | _ => none

def placeAfter (place : Place) : ManagedEvent E → Place
  | ⟨(_, .connect _ _), _⟩ => .opening
  | ⟨(_, .select), _⟩ | ⟨(_, .selectWithPing), _⟩ => .session
  | ⟨(_, .handler (.parseFrame _)), ⟨_, .ok (.message .sessionAuthenticated)⟩⟩ => .flushing
  | _ => place

/-- The first reason since the last `connect`. -/
structure Blame where
  place : Place
  cause : Option WsDisconnectCause

def Blame.start : Blame := ⟨.opening, none⟩

def Blame.after (m : Blame) (e : ManagedEvent E) : Blame where
  place := placeAfter m.place e
  cause := (if Connects e then none else m.cause).or (reasonOf m.place e)

def blameOf (t : List (ManagedEvent E)) : Blame := t.foldl Blame.after .start

/-- Calls that use the connection: they write, read, wait for it or ask the handler about it. -/
def UsesConnection : Op E → Prop
  | .write _ _ | .select | .selectWithPing | .enterApply _ | .monitor .isStale => True
  | .ping .createPing | .ping .isStale | .ping (.handleInbound _) => True
  | .handler (.classifyDisconnect _) | .handler (.onConnectionDisconnected _ _)
  | .handler (.handleMessage _) => False
  | .handler _ => True
  | _ => False

/-- Calls that report a cause. -/
def Names : Op E → Prop
  | .handler (.classifyDisconnect _) | .handler (.onConnectionDisconnected _ _) => True
  | _ => False

def Permitted (m : Blame) (op : Op E) : Prop :=
  match op with
  | .handler (.classifyDisconnect cause) => m.cause = some cause
  | .handler (.onConnectionDisconnected cause _) => m.cause = some cause
  | op => UsesConnection op → m.cause = none

def blame : ManagedMonitor E Blame where
  step := Blame.after
  rely := fun _ _ => True
  safe := fun m e => Permitted m e.op.2

/-- Nothing has gone wrong so far. -/
def Free (place : Place) (_ : Locals E) (m : Blame) : Prop := m = ⟨place, none⟩

def Blamed (cause : WsDisconnectCause) (_ : Locals E) (m : Blame) : Prop := m.cause = some cause

/-- Calls whose answers give no reason and move nothing. -/
def Neutral : Op E → Prop
  | .connect _ _ | .write _ _ | .select | .selectWithPing => False
  | .monitor .isStale | .ping .isStale | .ping (.handleInbound _) => False
  | .handler (.updateSubscriptions _) | .handler (.parseFrame _) | .handler (.handleMessage _)
  | .handler (.handleServerError _ _ _) | .handler (.classifyDisconnect _)
  | .handler (.onConnectionDisconnected _ _) => False
  | _ => True

section Blocks
variable {l : Locals E} {m : Blame} {place : Place}

theorem after_reason {e : ManagedEvent E} (onward : ¬ Connects e) :
    m.after e = ⟨placeAfter m.place e, m.cause.or (reasonOf m.place e)⟩ := by
  rw [Blame.after, if_neg onward]

theorem after_neutral {op : Op E} (neutral : Neutral op) (time : Instant) (val : op.Ans) :
    m.after (event l op time val) = m := by
  have silent : ¬ Connects (event l op time val) ∧
      placeAfter m.place (event l op time val) = m.place ∧
        reasonOf m.place (event l op time val) = none := by
    cases op with
    | monitor call => cases call <;> first | exact neutral.elim | exact ⟨id, rfl, rfl⟩
    | ping call => cases call <;> first | exact neutral.elim | exact ⟨id, rfl, rfl⟩
    | handler call => cases call <;> first | exact neutral.elim | exact ⟨id, rfl, rfl⟩
    | _ => first | exact neutral.elim | exact ⟨id, rfl, rfl⟩
  obtain ⟨onward, still, none_given⟩ := silent
  rw [after_reason onward, still, none_given, Option.or_none]

/-- While nothing has gone wrong every call is permitted but the report of a cause. -/
theorem clear_permits (op : Op E) (unnamed : ¬ Names op) (clear : m.cause = none) :
    Permitted m op := by
  unfold Permitted
  split
  · exact absurd trivial unnamed
  · exact absurd trivial unnamed
  · exact fun _ => clear

theorem free_permits (op : Op E) (unnamed : ¬ Names op) (free : Free place l m) :
    Permitted m op :=
  clear_permits op unnamed (by rw [free])

theorem neutral_unnamed {op : Op E} (neutral : Neutral op) : ¬ Names op := by
  intro names
  unfold Names at names
  split at names
  · exact neutral
  · exact neutral
  · exact names

theorem keeps_neutral (place : Place) :
    Keeps (blame : ManagedMonitor E Blame) Neutral (Free place) := by
  intro l m op time val neutral free _
  refine ⟨free_permits op (neutral_unnamed neutral) free, ?_⟩
  change Free place l (m.after _)
  rw [after_neutral neutral]
  exact free

/-- A call on a connection with which nothing is wrong, and what its answer makes of that. -/
theorem free_step (op : Op E) (unnamed : ¬ Names op) (free : Free place l m)
    {post : op.Ans → Locals E → Blame → Prop}
    (next : ∀ time val, post val l (Blame.after ⟨place, none⟩ (event l op time val))) :
    blame.ensures post (ask op) l m := by
  refine ensures_of_ask blame op fun time val _ => ⟨free_permits op unnamed free, ?_⟩
  subst free
  exact next time val

theorem free_step_then (op : Op E) (unnamed : ¬ Names op) (free : Free place l m) {α : Type}
    {f : op.Ans → Managed E α} {post : α → Locals E → Blame → Prop}
    (rest : ∀ time val,
      blame.ensures post (f val) l (Blame.after ⟨place, none⟩ (event l op time val))) :
    blame.ensures post (ask op >>= f) l m :=
  blame.ensures_bind.mpr (free_step op unnamed free rest)

theorem free_ask (op : Op E) (neutral : Neutral op) (free : Free place l m) :
    blame.ensures (fun _ => Free place) (ask op) l m :=
  (keeps_neutral place).ensures (quiet_ask neutral) free

/-- A write, whatever was done to prepare it. -/
theorem free_write (site : WriteSite) (frame : WsFrame) (free : Free place l m) :
    blame.ensures (orElse (Free place) Blamed (writeContext place site)) (ask (.write site frame))
      l m := by
  refine free_step (.write site frame) id free fun time result => ?_
  cases result with
  | ok _ => rfl
  | error error => rfl

theorem sendPayload_blames (site : WriteSite) (payload : Bytes) (free : Free place l m) :
    blame.ensures (orElse (Free place) Blamed (writeContext place site)) (sendPayload site payload)
      l m :=
  blame.ensures_seq (free_ask (.handler (.onOutboundFrame _)) trivial free)
    fun _ _ _ free => free_write site _ free

theorem sendSubscriptions_blames (site : WriteSite) (subscriptions : List E.Subscription)
    (free : Free place l m) :
    blame.ensures (orElse (Free place) Blamed (writeContext place site))
      (sendSubscriptions site subscriptions) l m := by
  induction subscriptions generalizing l m with
  | nil => exact free
  | cons subscription rest ih =>
    refine blame.ensures_seq (free_ask (.handler (.serializeSubscription subscription)) trivial
      free) fun payload l m free => ?_
    refine blame.ensures_seq (sendPayload_blames site payload free) fun result l m sent => ?_
    cases result with
    | error error => exact sent
    | ok _ => exact ih sent

theorem replaySubscriptions_blames (free : Free place l m) :
    blame.ensures (orElse (Free place) Blamed (writeContext place .replay)) replaySubscriptions
      l m :=
  blame.ensures_seq (free_ask (.handler .initialSubscriptions) trivial free)
    fun subscriptions _ _ free => sendSubscriptions_blames .replay subscriptions free

theorem offerAuth_blames (free : Free place l m) :
    blame.ensures (orElse (Free place) Blamed "auth_send") offerAuth l m := by
  have context : writeContext place .auth = "auth_send" := by cases place <;> rfl
  refine blame.ensures_seq (free_ask (.handler .generateAuth) trivial free)
    fun payload l m free => ?_
  cases payload with
  | none => exact free
  | some payload =>
    rw [← context]
    exact sendPayload_blames .auth payload free

theorem writeContext_update (place : Place) :
    writeContext place .update = writeContext place .command := by
  cases place <;> rfl

theorem applyCommand_blames (command : ManagedWsCommand E.Subscription) (free : Free place l m) :
    blame.ensures (orElse (Free place) Blamed (writeContext place .command)) (applyCommand command)
      l m := by
  refine blame.ensures_seq (free_ask (.enterApply command) trivial free) fun _ l m free => ?_
  cases command with
  | send payload => exact sendPayload_blames .command payload free
  | updateSubscriptions action =>
    rw [← writeContext_update]
    refine free_step_then (.handler (.updateSubscriptions action)) id free fun time updated => ?_
    cases updated with
    | error error => exact rfl
    | ok subscriptions => exact sendSubscriptions_blames .update subscriptions rfl
  | forceReconnect reason => exact free
  | shutdown => exact free

/-- The queue is emptied up to the first command that fails. -/
theorem flush_blames (free : Free .flushing l m) :
    blame.ensures (orElse (Free .flushing) Blamed "pending_auth_command") applyPendingAuthCommands
      l m := by
  rw [applyPendingAuthCommands, Monitor.ensures_bind, Monitor.ensures_get]
  generalize l.pendingAuthCommands = queue
  induction queue generalizing l m with
  | nil => exact free
  | cons command rest ih =>
    rw [applyQueued, Monitor.ensures_bind, Monitor.ensures_modify]
    have applied := applyCommand_blames command (l := { l with pendingAuthCommands := rest }) free
    refine blame.ensures_seq applied fun result l m next => ?_
    cases result with
    | error error => exact next
    | ok _ => exact ih next

/-- What is done with a connection that has ended, apart from the reports. -/
def Trails : Op E → Prop
  | .storeStatus _ | .reconnect _ | .enterWait _ | .waitSelect _ | .handler (.handleMessage _) =>
    True
  | _ => False

theorem trails_permitted {op : Op E} (trails : Trails op) : Permitted m op := by
  cases op with
  | handler call => cases call <;> first | exact trails.elim | exact False.elim
  | _ => first | exact trails.elim | exact False.elim

theorem blamed_after {cause : WsDisconnectCause} {e : ManagedEvent E} (onward : ¬ Connects e)
    (blamed : Blamed cause l m) : Blamed cause l (m.after e) := by
  change (m.after e).cause = some cause
  rw [after_reason onward, show m.cause = some cause from blamed]
  rfl

theorem keeps_trails (cause : WsDisconnectCause) :
    Keeps (blame : ManagedMonitor E Blame) Trails (Blamed cause) := by
  intro l m op time val trails blamed _
  refine ⟨trails_permitted trails, blamed_after ?_ blamed⟩
  cases op <;> first | exact trails.elim | exact id

theorem trails_always : Keeps (blame : ManagedMonitor E Blame) Trails fun _ _ => True :=
  fun _ _ _ _ _ trails _ _ => ⟨trails_permitted trails, trivial⟩

theorem trailing_store (status : WsConnectionStatus) :
    Proc.Quiet Trails (storeStatus status : Managed E Unit) :=
  quiet_ask trivial

theorem trails_of_retries (op : Op E) (retries : Retries op) : Trails op := by
  cases op <;> trivial

theorem trails_of_waits (op : Op E) (waits : Waits op) : Trails op := by
  cases op <;> trivial

theorem decideReconnect_blamed (cause : WsDisconnectCause) (blamed : Blamed cause l m) :
    blame.ensures (fun _ => Blamed cause) (decideReconnect cause) l m := by
  refine ensures_ask_then blame (.handler (.classifyDisconnect cause)) fun time action _ =>
    ⟨blamed, ?_⟩
  have named := blamed_after (e := event l (.handler (.classifyDisconnect cause)) time action)
    id blamed
  have chosen := ((keeps_trails cause).mono trails_of_retries).ensures
    (quiet_reconnectDelay action) named
  refine blame.ensures_seq chosen fun delay l m blamed => ?_
  have told : blame.ensures (fun _ => Blamed cause) (notifyDisconnect cause delay.isSome) l m := by
    refine ensures_ask_then blame (.handler (.onConnectionDisconnected cause delay.isSome))
      fun time message _ => ⟨blamed, ?_⟩
    have told := blamed_after
      (e := event l (.handler (.onConnectionDisconnected cause delay.isSome)) time message)
      id blamed
    cases message with
    | none => exact told
    | some message =>
      have quiet : Proc.Quiet Trails (handler (.handleMessage message) : Managed E _) :=
        quiet_ask trivial
      exact (keeps_trails cause).ensures quiet told
  exact blame.ensures_seq told fun _ _ _ blamed => blamed

theorem greeting_free (free : Free .opening l m) :
    blame.ensures (fun _ => Free .opening) greeting l m := by
  refine Keeps.ensures ?_ quiet_greeting free
  intro l m op time val greets free _
  by_cases neutral : Neutral op
  · exact keeps_neutral .opening l m op time val neutral free trivial
  · -- the errors of the messages that greet are dropped
    cases op with
    | handler call =>
      cases call with
      | handleMessage message =>
        refine ⟨free_permits (.handler (.handleMessage message)) id free, ?_⟩
        subst free
        cases val <;> rfl
      | _ => first | exact greets.elim | exact absurd trivial neutral
    | _ => first | exact greets.elim | exact absurd trivial neutral

end Blocks

def Whole (_ : Locals E) (m : Blame) : Prop := m.cause = none

/-- What the handler's action for a frame leaves. -/
def Parsed : WsMessageAction E.Message → Locals E → Blame → Prop
  | .reconnect reason => Blamed (.endpointRequested reason)
  | .sessionAuthenticated => Free .flushing
  | .continue | .send _ | .process _ | .shutdown => Free .session

def blameJunctions : Junctions E Blame where
  top := fun _ _ => True
  dialing := fun _ _ => True
  refused := Blamed
  opened := Free .opening
  fresh := Free .opening
  greeted := Free .opening
  ready := Free .opening
  replaying := Free .opening
  broken := Blamed
  session := Whole
  ticked := Free .session
  holding := fun _ => Free .session
  reading := fun _ => Free .session
  passed := fun _ => Free .session
  parsed := Parsed
  judging := fun _ _ _ => Free .session
  flushing := Free .flushing
  stopping := fun _ _ => True
  leaving := Blamed
  closing := Blamed
  down := fun _ _ _ => True
  done := fun _ _ => True

section Loops
variable {l : Locals E} {m : Blame}

theorem whole_of_free {place : Place} (free : Free place l m) : Whole l m := by
  rw [Whole, free]

theorem free_of_whole (whole : Whole l m) : Free m.place l m := by
  obtain ⟨place, cause⟩ := m
  cases whole
  rfl

theorem orElse_whole {place : Place} {context : String} (result : Except WebSocketError Unit)
    (l : Locals E) (m : Blame) (next : orElse (Free place) Blamed context result l m) :
    orElse Whole Blamed context result l m := by
  cases result with
  | ok _ => exact whole_of_free (show Free place l m from next)
  | error error => exact next

theorem ignores_reports : Ignores (blame : ManagedMonitor E Blame) Reports := by
  intro l m op time val reports
  constructor
  · change Permitted m op
    cases op with
    | monitor call => cases call <;> first | exact reports.elim | exact False.elim
    | ping call => cases call <;> first | exact reports.elim | exact False.elim
    | _ => first | exact reports.elim | exact False.elim
  · apply after_neutral
    cases op with
    | monitor call => cases call <;> first | exact reports.elim | trivial
    | ping call => cases call <;> first | exact reports.elim | trivial
    | _ => first | exact reports.elim | trivial

/-- The reason of an arm is the junction that the loop takes after it. -/
theorem selects_next (arm : Option (Arm E)) :
    afterSelect (Free .session) (fun _ _ => True) Blamed (fun _ => Free .session)
      (fun _ => Free .session) arm l ⟨.session, armReason arm⟩ := by
  match arm with
  | none => exact rfl
  | some (.command none) => trivial
  | some (.command (some .shutdown)) => trivial
  | some (.command (some (.forceReconnect reason))) => exact rfl
  | some (.command (some (.send payload))) => exact rfl
  | some (.command (some (.updateSubscriptions action))) => exact rfl
  | some (.frame none) => exact rfl
  | some (.frame (some (.error error))) => exact rfl
  | some (.frame (some (.ok frame))) => exact rfl

theorem select_blames (pinging : Bool) (whole : Whole l m) :
    blame.ensures (afterSelect (Free .session) (fun _ _ => True) Blamed (fun _ => Free .session)
      (fun _ => Free .session)) (sessionSelect pinging) l m := by
  have free := free_of_whole whole
  cases pinging with
  | true => exact free_step .selectWithPing id free fun time arm => selects_next arm
  | false => exact free_step_then .select id free fun time arm => selects_next (some arm)

theorem blamed_records {cause : WsDisconnectCause} (context error : String)
    (blamed : Blamed cause l m) :
    blame.ensures (fun _ => Blamed cause) (monitor (.recordInternalError context error)) l m := by
  have quiet : Proc.Quiet Reports (monitor (.recordInternalError context error) : Managed E _) :=
    quiet_ask trivial
  exact (ignores_reports.keeps _).ensures quiet blamed

theorem rearmPing_free (free : Free .session l m) :
    blame.ensures (fun _ => Free .session) rearmPing l m :=
  blame.ensures_seq (free_ask (.ping .interval) trivial free)
    fun interval _ _ free => free_ask (.resetPingSleep interval) trivial free

theorem tick_blames (kind : LoopKind) (free : Free .session l m) :
    blame.ensures (fun verdict => match verdict with
      | none => Whole
      | some cause => Blamed cause) (hooksOf kind : Hooks E).tick l m := by
  cases kind with
  | plain => exact whole_of_free free
  | healthChecked =>
    refine free_step_then (.ping .isStale) id free fun time stale => ?_
    cases stale with
    | true => exact rfl
    | false =>
      refine free_step_then (.monitor .isStale) id rfl fun time stale => ?_
      cases stale with
      | true => exact rfl
      | false =>
        refine blame.ensures_seq (free_ask (.ping .createPing) trivial rfl)
          fun created l m free => ?_
        cases created with
        | none =>
          exact blame.ensures_seq (rearmPing_free free) fun _ _ _ free => whole_of_free free
        | some frame =>
          refine blame.ensures_seq (free_ask (.handler (.onOutboundFrame frame)) trivial free)
            fun _ l m free => ?_
          refine blame.ensures_seq (free_write .ping frame free) fun result l m next => ?_
          cases result with
          | error error =>
            exact blame.ensures_seq (blamed_records _ _ next) fun _ _ _ blamed => blamed
          | ok _ =>
            refine blame.ensures_seq (free_ask (.monitor .recordSent) trivial next)
              fun _ l m free => ?_
            exact blame.ensures_seq (rearmPing_free free) fun _ _ _ free => whole_of_free free

theorem intercept_blames (kind : LoopKind) (frame : WsFrame) (free : Free .session l m) :
    blame.ensures (fun verdict => match verdict with
      | .pass => Free .session
      | .again => Whole
      | .leave cause => Blamed cause) ((hooksOf kind : Hooks E).intercept frame) l m := by
  cases kind with
  | plain => exact free
  | healthChecked =>
    refine free_step_then (.ping (.handleInbound frame)) id free fun time result => ?_
    cases result with
    | notPong => exact rfl
    | invalidPong =>
      have blamed : Blamed .pongTimeout l (⟨.session, some .pongTimeout⟩ : Blame) := rfl
      exact blame.ensures_seq (blamed_records _ _ blamed) fun _ _ _ blamed => blamed
    | pongReceived rtt =>
      cases rtt with
      | none => exact rfl
      | some rtt =>
        exact blame.ensures_seq (free_ask (.monitor (.recordRtt rtt)) trivial rfl)
          fun _ _ _ free => whole_of_free free
    | reply reply =>
      refine blame.ensures_seq (free_ask (.handler (.onOutboundFrame reply)) trivial rfl)
        fun _ l m free => ?_
      refine blame.ensures_seq (free_write .pong reply free) fun written l m next => ?_
      cases written with
      | error error =>
        exact blame.ensures_seq (blamed_records _ _ next) fun _ _ _ blamed => blamed
      | ok _ =>
        exact blame.ensures_seq (free_ask (.monitor .recordSent) trivial next)
          fun _ _ _ free => whole_of_free free

theorem blame_outline (url : String) (kind : LoopKind) :
    Outline (blame : ManagedMonitor E Blame) (hooksOf kind) url blameJunctions where
  hooks := reporting_hooks ignores_reports (fun _ _ => id) kind
  start := fun _ => trails_always.ensures (trailing_store _) trivial
  dial := by
    intro l m _
    refine ensures_of_ask blame (.connect url .default) fun time result _ => ⟨False.elim, ?_⟩
    cases result with
    | ok _ => exact rfl
    | error error => exact rfl
  refuse := fun blamed => blame.ensures_seq ((keeps_trails _).ensures (trailing_store _) blamed)
    fun _ _ _ blamed => blame.ensures_mono (fun _ _ _ _ => trivial)
      (decideReconnect_blamed _ blamed)
  greet := greeting_free
  auth := offerAuth_blames
  mode := by
    intro l m free
    refine blame.ensures_mono ?_ (free_ask (.handler .sessionMode) trivial free)
    intro mode l m free
    split
    · exact free
    · exact whole_of_free free
  replay := fun free => blame.ensures_mono orElse_whole (replaySubscriptions_blames free)
  fail := fun blamed => blame.ensures_seq (decideReconnect_blamed _ blamed)
    fun _ _ _ _ => trails_always.ensures
      ((trailing_store _).bind fun _ => Proc.Quiet.pure _) trivial
  select := select_blames _
  tick := tick_blames kind
  park := fun {_ l _} free _ _ => whole_of_free (l := l) free
  apply := fun free _ _ => blame.ensures_mono orElse_whole (applyCommand_blames _ free)
  inbound := fun free => free_ask (.handler (.onInboundFrame _)) trivial free
  intercept := intercept_blames kind _
  parse := by
    intro frame l m free
    refine free_step (.handler (.parseFrame frame)) id free fun time outcome => ?_
    match outcome with
    | .ok (.message action) => cases action <;> exact rfl
    | .ok (.serverError code message data) => exact rfl
    | .error error => exact rfl
  judge := by
    intro code message data l m free
    refine free_step (.handler (.handleServerError code message data)) id free
      fun time action => ?_
    cases action <;> exact rfl
  proceed := fun {l _} free => whole_of_free (l := l) free
  authenticate := fun free => replaySubscriptions_blames free
  flush := fun free => blame.ensures_mono orElse_whole (flush_blames free)
  reply := fun free => blame.ensures_mono orElse_whole (sendPayload_blames .reply _ free)
  process := by
    intro message l m free
    refine free_step (.handler (.handleMessage message)) id free fun time result => ?_
    cases result <;> exact rfl
  requested := id
  shutdown := fun _ => trivial
  stop := fun _ => trails_always.ensures (trailing_store _) trivial
  finish := fun blamed => (keeps_trails _).ensures (trailing_store _) blamed
  decide := fun blamed => blame.ensures_mono (fun _ _ _ _ => trivial)
    (decideReconnect_blamed _ blamed)
  abort := fun _ => trivial
  wait := by
    intro delay l m _
    refine blame.ensures_mono ?_ ((trails_always.mono trails_of_waits).ensures (quiet_wait delay)
      trivial)
    intro retry l m _
    split <;> trivial

end Loops

theorem clear_of_uses {m : Blame} {op : Op E} (uses : UsesConnection op)
    (permitted : Permitted m op) : m.cause = none := by
  unfold Permitted at permitted
  split at permitted
  · exact uses.elim
  · exact uses.elim
  · exact permitted uses

/-- A blamed connection has not been used since the reason was given. -/
theorem reason_of_blame {t : List (ManagedEvent E)} (permitted : ∀ before e after,
      t = before ++ e :: after → Permitted (blameOf before) e.op.2) {cause : WsDisconnectCause}
    (blamed : (blameOf t).cause = some cause) :
    ∃ before e rest place, t = before ++ e :: rest ∧ reasonOf place e = some cause ∧
      ∀ d ∈ rest, ¬ Connects d ∧ ¬ UsesConnection d.op.2 := by
  revert blamed
  refine Monitor.history_induction t (nofun : (blameOf []).cause = some cause → _) ?_ permitted
  intro t e _ permits ih blamed
  have last : blameOf (t ++ [e]) = (blameOf t).after e := by simp [blameOf]
  rw [last, Blame.after] at blamed
  cases earlier : (if Connects e then none else (blameOf t).cause) with
  | none =>
    rw [earlier, Option.none_or] at blamed
    exact ⟨t, e, [], _, rfl, blamed, by simp⟩
  | some found =>
    rw [earlier, Option.some_or] at blamed
    have onward : ¬ Connects e := by
      intro connects
      rw [if_pos connects] at earlier
      cases earlier
    rw [if_neg onward] at earlier
    obtain ⟨before, first, rest, place, cut, reason, unused⟩ := ih (earlier.trans blamed)
    refine ⟨before, first, rest ++ [e], place, by rw [cut]; simp, reason, ?_⟩
    intro d mem
    rcases List.mem_append.mp mem with mem | mem
    · exact unused d mem
    · rw [List.mem_singleton.mp mem]
      refine ⟨onward, fun uses => ?_⟩
      rw [clear_of_uses uses permits] at earlier
      cases earlier

theorem permitted_run {url : String} (kind : LoopKind) {t : List (ManagedEvent E)} {q : Task E}
    (run : Run (managedLoop url kind) t q) :
    ∀ before e after, t = before ++ e :: after → Permitted (blameOf before) e.op.2 := by
  rw [managedLoop_eq] at run
  have relied : (blame : ManagedMonitor E Blame).Along blame.rely .start t :=
    (Monitor.along_iff _).mpr fun _ _ _ _ => trivial
  have start : (blameJunctions : Junctions E Blame).top Locals.initial .start := trivial
  have safe := ((blame_outline url kind).run start run relied).1
  exact (Monitor.along_iff _).mp safe

/-- Every report names the first reason since the last `connect`, and after a reason the
connection is left alone. -/
structure Attributed (t : List (ManagedEvent E)) : Prop where
  classified : ∀ before l cause time action after,
    t = before ++ event l (.handler (.classifyDisconnect cause)) time action :: after →
      (blameOf before).cause = some cause
  told : ∀ before l cause again time message after,
    t = before ++ event l (.handler (.onConnectionDisconnected cause again)) time message :: after →
      (blameOf before).cause = some cause
  abandoned : ∀ before e after, t = before ++ e :: after → (blameOf before).cause ≠ none →
    ¬ UsesConnection e.op.2

theorem disconnects_attributed {url : String} {kind : LoopKind} {t : List (ManagedEvent E)}
    {q : Task E} (run : Run (managedLoop url kind) t q) : Attributed t := by
  have permitted := permitted_run kind run
  constructor
  · intro before l cause time action after cut
    exact permitted _ _ _ cut
  · intro before l cause again time message after cut
    exact permitted _ _ _ cut
  · intro before e after cut blamed uses
    exact blamed (clear_of_uses uses (permitted _ _ _ cut))

/-- The peer asks for authentication; a command is parked, and lost on the way out of the queue. -/
def flushScript : Nat → (op : Op bareEndpoint) → op.Ans
  | _, .handler .sessionMode => .authGated
  | 9, .select => .command (some (.send ByteArray.empty))
  | _, .select => .frame (some (.ok (.pong ByteArray.empty)))
  | _, .handler (.parseFrame _) => .ok (.message .sessionAuthenticated)
  | _, .write .command _ => .error .outboundQueueFull
  | _, op => bareAnswer op

def flushRun : List (ManagedEvent bareEndpoint) × Task bareEndpoint :=
  trial (managedLoop "ws://peer" .plain) flushScript 19

def lostCommand : WsDisconnectCause :=
  .internalError "pending_auth_command" "Backpressure: outbound queue full"

theorem parked_command_attributed :
    (blameOf flushRun.1).cause = some lostCommand ∧
      flushRun.1.getLast?.map (fun e => e.op.2) =
        some (.handler (.classifyDisconnect lostCommand)) ∧
      Attributed flushRun.1 :=
  ⟨rfl, rfl, disconnects_attributed (trial_run _ flushScript 19)⟩

end DisconnectCauses
