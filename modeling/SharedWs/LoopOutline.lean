import SharedWs.HookedLoop

/-!
# A proof outline for the managed loops

A result about every run of the loops needs an assertion at each junction of
their control flow and, for each stretch between two junctions, a proof that
the stretch leads from the one assertion to the other. `Outline` lists exactly
these assertions and stretches. Its soundness is proved here once, along the
text of the loop with hooks; a later change of one block of the source touches
one field and the proofs of that field.
-/
namespace LoopOutline

open InteractionPrograms InteractionMonitors WsFrames WsTypes ManagedOps ManagedLoop HookedLoop

variable {E : Endpoint} {M : Type}

abbrev ManagedMonitor (E : Endpoint) (M : Type) :=
  Monitor ((managedSignature E).showing (Locals E)) M

/-- The assertion survives every call of the set and makes it safe. -/
def Keeps (mon : ManagedMonitor E M) (allowed : Op E → Prop) (P : Locals E → M → Prop) : Prop :=
  ∀ l m op time val, allowed op → P l m → mon.rely m (event l op time val) →
    mon.safe m (event l op time val) ∧ P l (mon.step m (event l op time val))

theorem Keeps.mono {mon : ManagedMonitor E M} {first second : Op E → Prop}
    {P : Locals E → M → Prop} (keeps : Keeps mon second P)
    (weaker : ∀ op, first op → second op) : Keeps mon first P :=
  fun l m op time val allowed => keeps l m op time val (weaker op allowed)

theorem Keeps.ensures {mon : ManagedMonitor E M} {allowed : Op E → Prop}
    {P : Locals E → M → Prop} (keeps : Keeps mon allowed P) {α : Type} {x : Managed E α}
    (quiet : Proc.Quiet allowed x) {l : Locals E} {m : M} (holds : P l m) :
    mon.ensures (fun _ l' m' => P l' m') x l m := by
  have kept := mon.ensures_of_quiet quiet (P l)
    (fun m' op ans permitted here relied => keeps l m' op ans.time ans.val permitted here relied)
    holds
  refine mon.ensures_mono ?_ kept
  rintro _ l' m' ⟨rfl, here⟩
  exact here

/-- The same when the result chooses between assertions that all follow. -/
theorem Keeps.into {mon : ManagedMonitor E M} {allowed : Op E → Prop}
    {P : Locals E → M → Prop} (keeps : Keeps mon allowed P) {α : Type} {x : Managed E α}
    (quiet : Proc.Quiet allowed x) {post : α → Locals E → M → Prop}
    (enough : ∀ a l m, P l m → post a l m) {l : Locals E} {m : M} (holds : P l m) :
    mon.ensures post x l m :=
  mon.ensures_mono enough (keeps.ensures quiet holds)

/-- The monitor does not look at these calls. -/
def Ignores (mon : ManagedMonitor E M) (ignored : Op E → Prop) : Prop :=
  ∀ l m op time val, ignored op →
    mon.safe m (event l op time val) ∧ mon.step m (event l op time val) = m

theorem Ignores.mono {mon : ManagedMonitor E M} {first second : Op E → Prop}
    (ignores : Ignores mon second) (weaker : ∀ op, first op → second op) : Ignores mon first :=
  fun l m op time val ignored => ignores l m op time val (weaker op ignored)

theorem Ignores.keeps {mon : ManagedMonitor E M} {ignored : Op E → Prop}
    (ignores : Ignores mon ignored) (P : Locals E → M → Prop) : Keeps mon ignored P := by
  intro l m op time val out holds _
  obtain ⟨safe, same⟩ := ignores l m op time val out
  exact ⟨safe, by rwa [same]⟩

/-- A block of such calls changes neither the variables nor the summary. -/
theorem Ignores.ensures {mon : ManagedMonitor E M} {ignored : Op E → Prop}
    (ignores : Ignores mon ignored) {α : Type} {x : Managed E α} (quiet : Proc.Quiet ignored x)
    {post : α → Locals E → M → Prop} {l : Locals E} {m : M} (all : ∀ a, post a l m) :
    mon.ensures post x l m := by
  have kept := (ignores.keeps fun l' m' => l' = l ∧ m' = m).ensures quiet ⟨rfl, rfl⟩
  refine mon.ensures_mono ?_ kept
  rintro a l' m' ⟨rfl, rfl⟩
  exact all a

/-- What the session `select!` hands over, read as the next junction. -/
def afterSelect (tick stopping : Locals E → M → Prop)
    (leaving : WsDisconnectCause → Locals E → M → Prop)
    (holding : ManagedWsCommand E.Subscription → Locals E → M → Prop)
    (reading : WsFrame → Locals E → M → Prop) : Option (Arm E) → Locals E → M → Prop
  | none => tick
  | some (.command none) | some (.command (some .shutdown)) => stopping
  | some (.command (some (.forceReconnect reason))) => leaving (.endpointRequested reason)
  | some (.command (some command)) => holding command
  | some (.frame none) => leaving .remoteClosed
  | some (.frame (some (.error error))) => leaving (.readFailure error.display)
  | some (.frame (some (.ok frame))) => reading frame

/-- The calls between a successful `connect` and the request for the auth payload. -/
def greeting : Managed E Unit := do
  reconnect .reset
  storeStatus .connected
  handler .resetState
  handler .onOpen
  match ← handler (.onConnectionOpened (← get).isReconnect) with
  | some message => let _ ← handler (.handleMessage message)
  | none => pure ()

def offerAuth : Managed E (Except WebSocketError Unit) := do
  match ← handler .generateAuth with
  | none => pure (.ok ())
  | some payload => sendPayload .auth payload

/-- The order of a failed connect and of the end of a session. -/
def storeThenDecide (cause : WsDisconnectCause) : Managed E (Option Duration) := do
  storeStatus .disconnected
  decideReconnect cause

/-- The order of a failed auth payload and of a failed replay on open. -/
def decideThenStore (cause : WsDisconnectCause) : Managed E (Option Duration) := do
  let delay ← decideReconnect cause
  storeStatus .disconnected
  pure delay

/-- The junctions. Each is an assertion about the variables and the summary. -/
structure Junctions (E : Endpoint) (M : Type) where
  /-- Top of the outer loop. -/
  top : Locals E → M → Prop
  /-- About to call `connect`. -/
  dialing : Locals E → M → Prop
  /-- `connect` has failed. -/
  refused : WsDisconnectCause → Locals E → M → Prop
  /-- `connect` has succeeded. -/
  opened : Locals E → M → Prop
  /-- The health object has been told. -/
  fresh : Locals E → M → Prop
  /-- About to ask for the auth payload. -/
  greeted : Locals E → M → Prop
  /-- About to read the session mode. -/
  ready : Locals E → M → Prop
  /-- About to replay on open. -/
  replaying : Locals E → M → Prop
  /-- The auth payload or the replay on open could not be written. -/
  broken : WsDisconnectCause → Locals E → M → Prop
  /-- Top of the inner loop. -/
  session : Locals E → M → Prop
  /-- The ping timer has fired. -/
  ticked : Locals E → M → Prop
  /-- A data command has been taken from the channel. -/
  holding : ManagedWsCommand E.Subscription → Locals E → M → Prop
  /-- A frame has been read. -/
  reading : WsFrame → Locals E → M → Prop
  /-- The capture hook has seen the frame. -/
  captured : WsFrame → Locals E → M → Prop := reading
  /-- The heartbeat has left the frame to the handler. -/
  passed : WsFrame → Locals E → M → Prop
  /-- The handler has parsed the frame. -/
  parsed : WsMessageAction E.Message → Locals E → M → Prop
  /-- The handler has parsed a server error. -/
  judging : Option Int32 → String → Option E.Value → Locals E → M → Prop
  /-- The replay after authentication is written; the queue comes next. -/
  flushing : Locals E → M → Prop
  /-- About to store the status and return from the session. -/
  stopping : Locals E → M → Prop
  /-- The inner loop has been left with this cause. -/
  leaving : WsDisconnectCause → Locals E → M → Prop
  /-- The status after the session is stored; the decision comes next. -/
  closing : WsDisconnectCause → Locals E → M → Prop
  /-- The decision is made and the status stored. -/
  down : Option Duration → Locals E → M → Prop
  /-- The loop has returned. -/
  done : Locals E → M → Prop

/-- The hooks, each between its two junctions. -/
structure HookOutline (mon : ManagedMonitor E M) (h : Hooks E) (j : Junctions E M) : Prop where
  attempt : ∀ {l m}, j.dialing l m → mon.ensures (fun _ => j.dialing) h.attempt l m
  refused : ∀ {cause l m}, j.refused cause l m → ∀ context error,
    mon.ensures (fun _ => j.refused cause) (h.failed context error) l m
  connected : ∀ {l m}, j.opened l m → mon.ensures (fun _ => j.fresh) h.connected l m
  broken : ∀ {cause l m}, j.broken cause l m → ∀ context error,
    mon.ensures (fun _ => j.broken cause) (h.failed context error) l m
  enterSession : ∀ {l m}, j.session l m → mon.ensures (fun _ => j.session) h.enterSession l m
  sent : ∀ {l m}, j.session l m → mon.ensures (fun _ => j.session) h.sent l m
  arrived : ∀ {frame l m}, j.reading frame l m →
    mon.ensures (fun _ => j.reading frame) h.arrived l m
  unparsed : ∀ {l m}, j.session l m → ∀ context error,
    mon.ensures (fun _ => j.session) (h.failed context error) l m
  serverError : ∀ {code message data l m}, j.judging code message data l m →
    mon.ensures (fun _ => j.judging code message data) (h.serverError code message) l m
  failing : ∀ {context error l m}, j.leaving (.internalError context error) l m →
    mon.ensures (fun _ => j.leaving (.internalError context error)) (h.failed context error) l m
  unread : ∀ {error l m}, j.leaving (.readFailure error) l m →
    mon.ensures (fun _ => j.leaving (.readFailure error)) (h.failed "read" error) l m
  ended : ∀ {cause l m}, j.closing cause l m →
    mon.ensures (fun _ => j.closing cause) (h.ended cause) l m
  retried : ∀ {l m}, j.top { l with isReconnect := true } m →
    mon.ensures (fun _ l' m' => j.top { l' with isReconnect := true } m') h.retried l m

/-- The junctions at which a hook may call the health object survive such calls. -/
structure Steady (mon : ManagedMonitor E M) (j : Junctions E M) : Prop where
  fresh : ∀ l m, j.opened l m → j.fresh l m
  dialing : Keeps mon HealthOp j.dialing
  refused : ∀ cause, Keeps mon HealthOp (j.refused cause)
  opened : Keeps mon HealthOp j.opened
  broken : ∀ cause, Keeps mon HealthOp (j.broken cause)
  session : Keeps mon HealthOp j.session
  reading : ∀ frame, Keeps mon HealthOp (j.reading frame)
  judging : ∀ code message data, Keeps mon HealthOp (j.judging code message data)
  leaving : ∀ cause, Keeps mon HealthOp (j.leaving cause)
  closing : ∀ cause, Keeps mon HealthOp (j.closing cause)
  retrying : Keeps mon HealthOp fun l m => j.top { l with isReconnect := true } m

/-- Where every junction is steady it does not matter what the hooks are. -/
theorem Steady.hooks {mon : ManagedMonitor E M} {j : Junctions E M} (steady : Steady mon j)
    {h : Hooks E} (silent : h.Silent) : HookOutline mon h j where
  attempt := steady.dialing.ensures silent.attempt
  refused := fun refused context error =>
    (steady.refused _).ensures (silent.failed context error) refused
  connected := fun opened => mon.ensures_mono (fun _ => steady.fresh)
    (steady.opened.ensures silent.connected opened)
  broken := fun broken context error =>
    (steady.broken _).ensures (silent.failed context error) broken
  enterSession := steady.session.ensures silent.enterSession
  sent := steady.session.ensures silent.sent
  arrived := (steady.reading _).ensures silent.arrived
  unparsed := fun session context error =>
    steady.session.ensures (silent.failed context error) session
  serverError := (steady.judging _ _ _).ensures (silent.serverError _ _)
  failing := (steady.leaving _).ensures (silent.failed _ _)
  unread := (steady.leaving _).ensures (silent.failed _ _)
  ended := (steady.closing _).ensures (silent.ended _)
  retried := steady.retrying.ensures silent.retried

/-- Every junction is steady for a monitor that does not look at the health object. -/
theorem Ignores.steady {mon : ManagedMonitor E M} {j : Junctions E M}
    (ignores : Ignores mon HealthOp) (fresh : ∀ l m, j.opened l m → j.fresh l m) :
    Steady mon j where
  fresh := fresh
  dialing := ignores.keeps _
  refused := fun _ => ignores.keeps _
  opened := ignores.keeps _
  broken := fun _ => ignores.keeps _
  session := ignores.keeps _
  reading := fun _ => ignores.keeps _
  judging := fun _ _ _ => ignores.keeps _
  leaving := fun _ => ignores.keeps _
  closing := fun _ => ignores.keeps _
  retrying := ignores.keeps _

/-- A write that succeeds stays on the way, a failed one goes to `broken`. -/
def orElse (good : Locals E → M → Prop) (bad : WsDisconnectCause → Locals E → M → Prop)
    (context : String) : Except WebSocketError Unit → Locals E → M → Prop
  | .ok () => good
  | .error error => bad (.internalError context error.display)

theorem orElse_of {good : Locals E → M → Prop} {bad : WsDisconnectCause → Locals E → M → Prop}
    {l : Locals E} {m : M} (well : good l m) (badly : ∀ cause, bad cause l m) (context : String)
    (result : Except WebSocketError Unit) : orElse good bad context result l m := by
  cases result with
  | ok _ => exact well
  | error error => exact badly _

structure Outline (mon : ManagedMonitor E M) (h : Hooks E) (url : String)
    (j : Junctions E M) : Prop where
  hooks : HookOutline mon h j
  start : ∀ {l m}, j.top l m → mon.ensures (fun _ => j.dialing) (storeStatus .connecting) l m
  dial : ∀ {l m}, j.dialing l m →
    mon.ensures (orElse j.opened j.refused "connect") (ask (.connect url .default)) l m
  refuse : ∀ {cause l m}, j.refused cause l m →
    mon.ensures j.down (storeThenDecide cause) l m
  greet : ∀ {l m}, j.fresh l m → mon.ensures (fun _ => j.greeted) greeting l m
  auth : ∀ {l m}, j.greeted l m →
    mon.ensures (orElse j.ready j.broken "auth_send") offerAuth l m
  mode : ∀ {l m}, j.ready l m → mon.ensures (fun mode l' m' =>
    if mode = .publicSession then j.replaying { l' with sessionAuthenticated := true } m'
    else j.session { l' with sessionAuthenticated := false } m') (handler .sessionMode) l m
  replay : ∀ {l m}, j.replaying l m →
    mon.ensures (orElse j.session j.broken "subscription_replay") replaySubscriptions l m
  fail : ∀ {cause l m}, j.broken cause l m →
    mon.ensures j.down (decideThenStore cause) l m
  select : ∀ {l m}, j.session l m →
    mon.ensures (afterSelect j.ticked j.stopping j.leaving j.holding j.reading)
      (sessionSelect h.pinging) l m
  tick : ∀ {l m}, j.ticked l m → mon.ensures (fun verdict => match verdict with
    | none => j.session
    | some cause => j.leaving cause) h.tick l m
  park : ∀ {command l m}, j.holding command l m → commandRequiresAuth command = true →
    l.sessionAuthenticated = false →
    j.session { l with pendingAuthCommands := l.pendingAuthCommands ++ [command] } m
  apply : ∀ {command l m}, j.holding command l m → commandRequiresAuth command = true →
    l.sessionAuthenticated = true →
    mon.ensures (orElse j.session j.leaving "command") (applyCommand command) l m
  inbound : ∀ {frame l m}, j.reading frame l m →
    mon.ensures (fun _ => j.captured frame) (handler (.onInboundFrame frame)) l m
  intercept : ∀ {frame l m}, j.captured frame l m → mon.ensures (fun verdict => match verdict with
    | .pass => j.passed frame
    | .again => j.session
    | .leave cause => j.leaving cause) (h.intercept frame) l m
  parse : ∀ {frame l m}, j.passed frame l m → mon.ensures (fun outcome => match outcome with
    | .ok (.message action) => j.parsed action
    | .ok (.serverError code message data) => j.judging code message data
    | .error _ => j.session) (handler (.parseFrame frame)) l m
  judge : ∀ {code message data l m}, j.judging code message data l m →
    mon.ensures (fun action => match action with
      | .reconnect | .fatal => j.leaving (.serverError code message)
      | .continue => j.session) (handler (.handleServerError code message data)) l m
  proceed : ∀ {l m}, j.parsed .continue l m → j.session l m
  authenticate : ∀ {l m}, j.parsed .sessionAuthenticated l m →
    mon.ensures (orElse j.flushing j.leaving "subscription_replay_after_auth")
      replaySubscriptions { l with sessionAuthenticated := true } m
  flush : ∀ {l m}, j.flushing l m →
    mon.ensures (orElse j.session j.leaving "pending_auth_command") applyPendingAuthCommands l m
  reply : ∀ {payload l m}, j.parsed (.send payload) l m →
    mon.ensures (orElse j.session j.leaving "message_send") (sendPayload .reply payload) l m
  process : ∀ {message l m}, j.parsed (.process message) l m →
    mon.ensures (fun result => match result with
      | .ok _ => j.session
      | .error error => j.leaving (.internalError "handle_message" (E.errorText error)))
      (handler (.handleMessage message)) l m
  requested : ∀ {reason l m}, j.parsed (.reconnect reason) l m →
    j.leaving (.endpointRequested reason) l m
  shutdown : ∀ {l m}, j.parsed .shutdown l m → j.stopping l m
  stop : ∀ {l m}, j.stopping l m → mon.ensures (fun _ => j.done) (storeStatus .disconnected) l m
  finish : ∀ {cause l m}, j.leaving cause l m →
    mon.ensures (fun _ => j.closing cause) (storeStatus .disconnected) l m
  decide : ∀ {cause l m}, j.closing cause l m → mon.ensures j.down (decideReconnect cause) l m
  abort : ∀ {l m}, j.down none l m → j.done l m
  wait : ∀ {delay l m}, j.down (some delay) l m → mon.ensures (fun retry l' m' =>
    if retry then j.top { l' with isReconnect := true } m' else j.done l' m')
    (waitReconnectDelayOrShutdown delay) l m

namespace Junctions

/-- The assertions at the two heads. -/
def inv (j : Junctions E M) : Head → Locals E → M → Prop
  | .connect => j.top
  | .session => j.session

abbrev due (j : Junctions E M) : Flow → Locals E → M → Prop :=
  Monitor.Due j.inv fun _ => j.done

end Junctions

namespace Outline
variable {mon : ManagedMonitor E M} {h : Hooks E} {url : String} {j : Junctions E M}
variable (o : Outline mon h url j)
include o

theorem awaits {delay : Option Duration} {l : Locals E} {m : M} (down : j.down delay l m) :
    mon.ensures j.due (awaitReconnect delay) l m := by
  cases delay with
  | none => exact o.abort down
  | some delay =>
    refine mon.ensures_seq (o.wait down) ?_
    intro retry l' m' next
    cases retry with
    | true => exact next
    | false => exact next

theorem awaits_hooked {delay : Option Duration} {l : Locals E} {m : M}
    (down : j.down delay l m) : mon.ensures j.due (hookedAwaitReconnect h delay) l m := by
  cases delay with
  | none => exact o.abort down
  | some delay =>
    refine mon.ensures_seq (o.wait down) ?_
    intro retry l' m' next
    cases retry with
    | true =>
      exact mon.ensures_seq (o.hooks.retried next)
        fun _ _ _ top => top
    | false => exact next

theorem session_ends {cause : WsDisconnectCause} {l : Locals E} {m : M}
    (leaving : j.leaving cause l m) : mon.ensures j.due (hookedSessionEnd h cause) l m := by
  refine mon.ensures_seq (o.finish leaving) fun _ l' m' closing => ?_
  refine mon.ensures_seq (o.hooks.ended closing) fun _ l' m' closing => ?_
  exact mon.ensures_seq (o.decide closing) fun _ _ _ down => o.awaits_hooked down

theorem internal_error {context error : String} {l : Locals E} {m : M}
    (leaving : j.leaving (.internalError context error) l m) :
    mon.ensures j.due (hookedInternalError h context error) l m :=
  mon.ensures_seq (o.hooks.failing leaving)
    fun _ _ _ leaving => o.session_ends leaving

theorem sent {l : Locals E} {m : M} (session : j.session l m) :
    mon.ensures j.due (hookedSent h) l m :=
  mon.ensures_seq (o.hooks.sent session)
    fun _ _ _ session => session

theorem open_failed {context : String} {error : WebSocketError} {l : Locals E} {m : M}
    (broken : j.broken (.internalError context error.display) l m) :
    mon.ensures j.due (hookedOpenFailed h context error) l m := by
  refine mon.ensures_seq (o.hooks.broken broken context error.display) fun _ l' m' broken => ?_
  have decided := mon.ensures_bind.mp (o.fail broken)
  refine mon.ensures_seq decided ?_
  intro delay l' m' stored
  refine mon.ensures_seq (mon.ensures_bind.mp stored) ?_
  exact fun _ _ _ down => o.awaits down

theorem enters_session {l : Locals E} {m : M} (session : j.session l m) :
    mon.ensures j.due (hookedEnterSession h) l m :=
  mon.ensures_seq (o.hooks.enterSession session)
    fun _ _ _ session => session

theorem replays {l : Locals E} {m : M} (ready : j.ready l m) :
    mon.ensures j.due (hookedReplay h) l m := by
  refine mon.ensures_seq (o.mode ready) ?_
  intro mode l' m' next
  cases mode with
  | publicSession =>
    rw [Monitor.ensures_bind, Monitor.ensures_modify]
    refine mon.ensures_seq (o.replay next) ?_
    intro result l'' m'' next
    cases result with
    | error error => exact o.open_failed next
    | ok _ => exact o.enters_session next
  | authGated => exact o.enters_session next

theorem authenticates {l : Locals E} {m : M} (greeted : j.greeted l m) :
    mon.ensures j.due (hookedAuth h) l m := by
  refine mon.ensures_seq (mon.ensures_bind.mp (o.auth greeted)) ?_
  intro payload l' m' next
  cases payload with
  | none => exact o.replays next
  | some payload =>
    refine mon.ensures_seq next ?_
    intro result l'' m'' next
    cases result with
    | error error => exact o.open_failed next
    | ok _ => exact o.replays next

theorem opens {l : Locals E} {m : M} (opened : j.opened l m) :
    mon.ensures j.due (hookedOpened h) l m := by
  refine mon.ensures_seq (o.hooks.connected opened) ?_
  intro _ l' m' fresh
  have greeted := o.greet fresh
  simp only [greeting, Monitor.ensures_bind] at greeted ⊢
  refine mon.ensures_mono ?_ greeted
  refine fun _ _ _ => mon.ensures_mono fun _ _ _ => mon.ensures_mono fun _ _ _ =>
    mon.ensures_mono fun _ _ _ => mon.ensures_mono fun _ _ _ => mon.ensures_mono ?_
  intro message l'' m'' told
  cases message with
  | none => exact o.authenticates told
  | some message =>
    rw [Monitor.ensures_bind] at told ⊢
    exact mon.ensures_mono (fun _ _ _ greeted => o.authenticates greeted) told

theorem connects {l : Locals E} {m : M} (top : j.top l m) :
    mon.ensures j.due (hookedConnect h url) l m := by
  refine mon.ensures_seq (o.start top) fun _ l' m' dialing => ?_
  refine mon.ensures_seq (o.hooks.attempt dialing) fun _ l' m' dialing => ?_
  refine mon.ensures_seq (o.dial dialing) fun result l' m' next => ?_
  cases result with
  | ok _ => exact o.opens next
  | error error =>
    refine mon.ensures_seq (o.hooks.refused next _ _) ?_
    intro _ l'' m'' refused
    have decided := mon.ensures_bind.mp (o.refuse refused)
    refine mon.ensures_seq decided ?_
    intro _ l'' m'' rest
    exact mon.ensures_seq rest fun _ _ _ down => o.awaits down

theorem session_returns {l : Locals E} {m : M} (stopping : j.stopping l m) :
    mon.ensures j.due sessionReturn l m :=
  mon.ensures_seq (o.stop stopping) fun _ _ _ done => done

theorem takes_data {command : ManagedWsCommand E.Subscription} {l : Locals E} {m : M}
    (data : commandRequiresAuth command = true) (holding : j.holding command l m) :
    mon.ensures j.due (do
      if !(← get).sessionAuthenticated && commandRequiresAuth command then
        modify fun l => { l with pendingAuthCommands := l.pendingAuthCommands ++ [command] }
        pure (.inl .session)
      else
        match ← applyCommand command with
        | .error error => hookedInternalError h "command" error.display
        | .ok () => hookedSent h) l m := by
  rw [Monitor.ensures_bind, Monitor.ensures_get, data]
  cases authenticated : l.sessionAuthenticated with
  | false => exact o.park holding data authenticated
  | true =>
    refine mon.ensures_seq (o.apply holding data authenticated) ?_
    intro result l' m' next
    cases result with
    | error error => exact o.internal_error next
    | ok _ => exact o.sent next

theorem takes_command {received : Option (ManagedWsCommand E.Subscription)} {l : Locals E} {m : M}
    (taken : afterSelect j.ticked j.stopping j.leaving j.holding j.reading
      (some (.command received)) l m) : mon.ensures j.due (hookedCommand h received) l m := by
  match received with
  | none => exact o.session_returns taken
  | some .shutdown => exact o.session_returns taken
  | some (.forceReconnect reason) => exact o.session_ends taken
  | some (.send payload) => exact o.takes_data rfl taken
  | some (.updateSubscriptions action) => exact o.takes_data rfl taken

theorem ticks {l : Locals E} {m : M} (ticked : j.ticked l m) :
    mon.ensures j.due (hookedTick h) l m := by
  refine mon.ensures_seq (o.tick ticked) ?_
  intro verdict l' m' next
  cases verdict with
  | none => exact next
  | some cause => exact o.session_ends next

theorem acts {action : WsMessageAction E.Message} {l : Locals E} {m : M}
    (parsed : j.parsed action l m) : mon.ensures j.due (hookedAction h action) l m := by
  cases action with
  | «continue» => exact o.proceed parsed
  | sessionAuthenticated =>
    change mon.ensures j.due (hookedAuthenticated h) l m
    rw [hookedAuthenticated, Monitor.ensures_bind, Monitor.ensures_modify]
    refine mon.ensures_seq (o.authenticate parsed) ?_
    intro result l' m' next
    cases result with
    | error error => exact o.internal_error next
    | ok _ =>
      refine mon.ensures_seq (o.flush next) ?_
      intro result l' m' next
      cases result with
      | error error => exact o.internal_error next
      | ok _ => exact o.sent next
  | send payload =>
    refine mon.ensures_seq (o.reply parsed) ?_
    intro result l' m' next
    cases result with
    | error error => exact o.internal_error next
    | ok _ => exact o.sent next
  | process message =>
    refine mon.ensures_seq (o.process parsed) ?_
    intro result l' m' next
    cases result with
    | error error => exact o.internal_error next
    | ok _ => exact next
  | reconnect reason => exact o.session_ends (o.requested parsed)
  | shutdown => exact o.session_returns (o.shutdown parsed)

theorem parses {frame : WsFrame} {l : Locals E} {m : M} (passed : j.passed frame l m) :
    mon.ensures j.due (hookedParse h frame) l m := by
  refine mon.ensures_seq (o.parse passed) ?_
  intro outcome l' m' next
  match outcome with
  | .ok (.message action) => exact o.acts next
  | .ok (.serverError code message data) =>
    refine mon.ensures_seq (o.hooks.serverError next) ?_
    intro _ l'' m'' judging
    refine mon.ensures_seq (o.judge judging) ?_
    intro action l'' m'' next
    cases action with
    | «continue» => exact next
    | reconnect => exact o.session_ends next
    | fatal => exact o.session_ends next
  | .error error =>
    exact mon.ensures_seq (o.hooks.unparsed next _ _)
      fun _ _ _ session => session

theorem reads_frame {read : Option (Except WebSocketError WsFrame)} {l : Locals E} {m : M}
    (taken : afterSelect j.ticked j.stopping j.leaving j.holding j.reading
      (some (.frame read)) l m) : mon.ensures j.due (hookedFrame h read) l m := by
  match read with
  | none => exact o.session_ends taken
  | some (.error error) =>
    exact mon.ensures_seq (o.hooks.unread taken)
      fun _ _ _ leaving => o.session_ends leaving
  | some (.ok frame) =>
    refine mon.ensures_seq (o.hooks.arrived taken) fun _ l' m' reading => ?_
    refine mon.ensures_seq (o.inbound reading) fun _ l' m' captured => ?_
    refine mon.ensures_seq (o.intercept captured) fun verdict l' m' next => ?_
    cases verdict with
    | pass => exact o.parses next
    | again => exact next
    | leave cause => exact o.session_ends next

theorem selects {l : Locals E} {m : M} (session : j.session l m) :
    mon.ensures j.due (hookedSession h) l m := by
  refine mon.ensures_seq (o.select session) ?_
  intro arm l' m' next
  match arm with
  | none => exact o.ticks next
  | some (.command received) => exact o.takes_command next
  | some (.frame read) => exact o.reads_frame next

theorem turns (head : Head) (l : Locals E) (m : M) (inv : j.inv head l m) :
    mon.ensures j.due (hookedLoop h url head) l m := by
  cases head with
  | connect => exact o.connects inv
  | session => exact o.selects inv

end Outline

/-- What a task owes under an outline. -/
abbrev Junctions.owes (j : Junctions E M) :
    (Head × Locals E) ⊕ (Unit × Locals E) → M → Prop :=
  Monitor.Owes (fun c m => j.inv c.1 c.2 m) (fun r m => j.done r.2 m)

/-- Soundness: along every run each call is safe, and the rest of the current
turn still leads to the next assertion. -/
theorem Outline.run {mon : ManagedMonitor E M} {h : Hooks E} {url : String} {j : Junctions E M}
    (o : Outline mon h url j) {m : M} (start : j.top Locals.initial m)
    {t : List (ManagedEvent E)} {q : Task E} (run : Run (hookedLoop h url) t q)
    (relied : mon.Along mon.rely m t) :
    mon.Along mon.safe m t ∧ mon.wp j.owes q (mon.run m t) := by
  have atTop : j.inv .connect Locals.initial m := start
  exact mon.loop_rule o.turns atTop run relied

/-- For a monitor that relies on nothing: what both heads and the return have in common holds
whenever a run has come to one of them. -/
theorem Outline.run_rest {mon : ManagedMonitor E M} {h : Hooks E} {url : String}
    {j : Junctions E M} (o : Outline mon h url j) (rest : M → Prop)
    (top : ∀ l m, j.top l m → rest m) (session : ∀ l m, j.session l m → rest m)
    (done : ∀ l m, j.done l m → rest m) (relies : ∀ m e, mon.rely m e)
    {m : M} (start : j.top Locals.initial m) {t : List (ManagedEvent E)} {q : Task E}
    (run : Run (hookedLoop h url) t q) :
    mon.Along mon.safe m t ∧ ∀ result, q = .ret result → rest (mon.run m t) := by
  have relied : mon.Along mon.rely m t := mon.along_iff.mpr fun _ _ _ _ => relies _ _
  obtain ⟨safe, owed⟩ := o.run start run relied
  refine ⟨safe, ?_⟩
  rintro result rfl
  rcases result with ⟨head, l⟩ | ⟨_, l⟩
  · cases head with
    | connect => exact top l _ owed
    | session => exact session l _ owed
  · exact done l _ owed

end LoopOutline
