import SharedWs.ManagedBlocks

/-!
# A proof outline for the calls of the health object

`LoopOutline` follows both loops and treats most calls of the health object alike. A result about
the health object itself has to tell them apart: which call follows which read, which error belongs
to which connection. `Books` is the outline for such results. It knows four stages of
`run_health_checked_managed_ws_loop` and asks for a proof of each block in which the loop talks to
its monitor or to the ping timer; everything else has to leave every stage alone.
-/
namespace HealthOutline

open InteractionPrograms InteractionMonitors InteractionMonitors.Monitor
open WsFrames WsTypes ManagedOps ManagedLoop HealthCheckedLoop HookedLoop LoopOutline ManagedBlocks

variable {E : Endpoint} {M : Type}

/-- The stages of the loop, as assertions about the summary. -/
structure Stages (M : Type) where
  /-- There is no connection, or the loop is about to leave it. -/
  idle : M → Prop
  /-- The connection is reported, and its session has not started. -/
  opened : M → Prop
  /-- At the `select!` of a session. -/
  live : M → Prop
  /-- The ping timer has fired. -/
  ticked : M → Prop

/-- Calls that leave every stage alone. -/
def Neutral : Op E → Prop
  | .connect _ _ | .select | .selectWithPing | .startPingSleep _ | .resetPingSleep _ => False
  | .write site _ => site ≠ .ping
  | .handler (.parseFrame _) => False
  | .monitor .recordSent | .monitor .incrementReconnect | .ping .reset => True
  | .monitor _ | .ping _ => False
  | _ => True

/-- Such calls, and the reports of errors that end a connection. -/
def Failing : Op E → Prop
  | .monitor .recordError | .monitor (.recordInternalError _ _) => True
  | op => Neutral op

/-- An attempt with its reports. -/
def reportedConnect (url : String) : Managed E (Except WebSocketError Unit) := do
  monitor .recordConnectAttempt
  match ← ask (.connect url .default) with
  | .error error =>
    monitor (.recordInternalError "connect" error.display)
    pure (.error error)
  | .ok () =>
    monitor .recordConnectSuccess
    monitor .resetConnection
    ping .reset
    pure (.ok ())

/-- The `select!` and the report of a frame or of a failed read. -/
def reportedSelect : Managed E (Option (Arm E)) := do
  let arm ← ask .selectWithPing
  match arm with
  | some (.frame (some (.ok _))) => monitor .recordMessage
  | some (.frame (some (.error error))) => monitor (.recordInternalError "read" error.display)
  | _ => pure ()
  pure arm

/-- The parser and the report of an error. -/
def reportedParse (frame : WsFrame) :
    Managed E (Except E.Error (WsParseOutcome E.Message E.Value)) := do
  let outcome ← handler (.parseFrame frame)
  match outcome with
  | .ok (.serverError code message _) => monitor (.recordServerError code message)
  | .error error => monitor (.recordInternalError "parse" (E.errorText error))
  | _ => pure ()
  pure outcome

/-- What has to be shown about a monitor of the loop: for each block that talks to the health
object, the stage after it. -/
structure Books (mon : ManagedMonitor E M) (url : String) (s : Stages M) : Prop where
  idle_kept : Keeps mon Failing fun _ => s.idle
  opened_kept : Keeps mon Neutral fun _ => s.opened
  live_kept : Keeps mon Neutral fun _ => s.live
  lost : ∀ {m}, s.opened m → s.idle m
  ended : ∀ {m}, s.live m → s.idle m
  attempt : ∀ {l m}, s.idle m → mon.ensures (fun result _ => match result with
    | .error _ => s.idle
    | .ok () => s.opened) (reportedConnect url) l m
  enter : ∀ {l m}, s.opened m →
    mon.ensures (fun _ _ => s.live) (healthHooks : Hooks E).enterSession l m
  select : ∀ {l m}, s.live m → mon.ensures (fun arm _ => match arm with
    | none => s.ticked
    | some (.frame (some (.error _))) => s.idle
    | _ => s.live) reportedSelect l m
  tick : ∀ {l m}, s.ticked m → mon.ensures (fun verdict _ => match verdict with
    | none => s.live
    | some _ => s.idle) pingTick l m
  intercept : ∀ frame {l m}, s.live m → mon.ensures (fun verdict _ => match verdict with
    | .leave _ => s.idle
    | _ => s.live) (pingIntercept frame) l m
  parse : ∀ frame {l m}, s.live m → mon.ensures (fun _ _ => s.live) (reportedParse frame) l m

theorem failing_of_neutral (op : Op E) (neutral : Neutral op) : Failing op := by
  cases op with
  | monitor call => cases call <;> trivial
  | _ => exact neutral

theorem neutral_of_decides (op : Op E) (decides : Decides op) : Neutral op := by
  cases op with
  | handler call => cases call <;> trivial
  | reconnect call => trivial
  | _ => exact decides.elim

theorem neutral_of_waits (op : Op E) (waits : Waits op) : Neutral op := by
  cases op <;> trivial

theorem neutral_of_sends {site : WriteSite} (data : site ≠ .ping) (op : Op E)
    (sends : Sends site op) : Neutral op := by
  cases op with
  | write origin frame =>
    obtain rfl : origin = site := sends
    exact data
  | handler call => cases call <;> trivial
  | _ => exact sends.elim

theorem neutral_of_replays (op : Op E) (replays : Replays op) : Neutral op := by
  cases op with
  | handler call => cases call <;> trivial
  | write origin frame =>
    obtain rfl : origin = .replay := replays
    exact nofun
  | _ => exact replays.elim

theorem neutral_of_hands (op : Op E) (hands : Hands op) : Neutral op := by
  cases op with
  | enterApply command => trivial
  | handler call => cases call <;> first | trivial | exact hands.elim id id
  | write origin frame => rcases hands with rfl | rfl <;> exact nofun
  | _ => rcases hands with none | none <;> exact none.elim

/-- The calls of a tick. -/
def Beats : Op E → Prop
  | .ping .isStale | .ping .createPing | .ping .interval | .monitor .isStale
  | .monitor .recordSent | .handler (.onOutboundFrame _) | .write .ping _
  | .resetPingSleep _ => True
  | _ => False

/-- The calls with which the heartbeat looks at a frame. -/
def Heeds : Op E → Prop
  | .ping (.handleInbound _) | .monitor (.recordRtt _) => True
  | op => Neutral op

/-- The calls of the parser, with the reports of its errors. -/
def Parses : Op E → Prop
  | .handler (.parseFrame _) | .monitor (.recordServerError _ _)
  | .monitor (.recordInternalError _ _) => True
  | _ => False

/-- All that a tick can call, with the report of a failed ping. -/
def Ticks : Op E → Prop
  | .monitor (.recordInternalError _ _) => True
  | op => Beats op

section Cases
variable {calls : Op E → Prop}

theorem heeds_cases (neutral : ∀ op, Neutral op → calls op)
    (inbound : ∀ frame, calls (.ping (.handleInbound frame)))
    (measured : ∀ rtt, calls (.monitor (.recordRtt rtt))) (op : Op E) (heeds : Heeds op) :
    calls op := by
  cases op with
  | ping call =>
    cases call with
    | handleInbound frame => exact inbound frame
    | _ => exact neutral _ heeds
  | monitor call =>
    cases call with
    | recordRtt rtt => exact measured rtt
    | _ => exact neutral _ heeds
  | _ => exact neutral _ heeds

theorem parses_cases (parsed : ∀ frame, calls (.handler (.parseFrame frame)))
    (server : ∀ code message, calls (.monitor (.recordServerError code message)))
    (internal : ∀ context error, calls (.monitor (.recordInternalError context error)))
    (op : Op E) (parses : Parses op) : calls op := by
  match op with
  | .handler (.parseFrame frame) => exact parsed frame
  | .monitor (.recordServerError code message) => exact server code message
  | .monitor (.recordInternalError context error) => exact internal context error

theorem beats_cases (asked : ∀ call, Beats (.ping call : Op E) → calls (.ping call))
    (silent : calls (.monitor .isStale)) (sent : calls (.monitor .recordSent))
    (shown : ∀ frame, calls (.handler (.onOutboundFrame frame)))
    (written : ∀ frame, calls (.write .ping frame))
    (rearmed : ∀ interval, calls (.resetPingSleep interval)) (op : Op E) (beats : Beats op) :
    calls op := by
  match op with
  | .ping call => exact asked call beats
  | .monitor .isStale => exact silent
  | .monitor .recordSent => exact sent
  | .handler (.onOutboundFrame frame) => exact shown frame
  | .write .ping frame => exact written frame
  | .resetPingSleep interval => exact rearmed interval

end Cases

theorem quiet_pingTick : Proc.Quiet Ticks (pingTick : Managed E _) := by
  have rearm : Proc.Quiet Ticks (rearmPing : Managed E Unit) :=
    (quiet_ping trivial).bind fun _ => quiet_ask trivial
  refine (quiet_ask trivial).bind fun stale => ?_
  cases stale with
  | true => exact Proc.Quiet.pure _
  | false =>
    refine (quiet_ask trivial).bind fun stale => ?_
    cases stale with
    | true => exact Proc.Quiet.pure _
    | false =>
      refine (quiet_ask trivial).bind fun created => ?_
      cases created with
      | none => exact rearm.bind fun _ => Proc.Quiet.pure _
      | some frame =>
        refine (quiet_ask trivial).bind fun _ => (quiet_ask trivial).bind fun written => ?_
        cases written with
        | error error => exact (quiet_ask trivial).bind fun _ => Proc.Quiet.pure _
        | ok _ => exact (quiet_ask trivial).bind fun _ => rearm.bind fun _ => Proc.Quiet.pure _

section Through
variable {mon : ManagedMonitor E M} {idle live : M → Prop} {l : Locals E} {m : M}

/-- A tick that a session survives keeps what its calls keep; the last report of another one is
about a failed write. -/
theorem tick_kept (beats : Keeps mon Beats fun _ => live)
    (failing : Keeps mon Failing fun _ => idle) (ended : ∀ {m}, live m → idle m) (holds : live m) :
    mon.ensures (fun verdict _ => match verdict with
      | none => live
      | some _ => idle) pingTick l m := by
  have beat : ∀ {α β : Type} {x : Managed E α} {f : α → Managed E β} {post} {l m},
      Proc.Quiet Beats x → live m → (∀ a l m, live m → mon.ensures post (f a) l m) →
        mon.ensures post (x >>= f) l m :=
    fun quiet holds rest => mon.ensures_seq (beats.ensures quiet holds) rest
  have rearm : Proc.Quiet Beats (rearmPing : Managed E Unit) :=
    (quiet_ping trivial).bind fun _ => quiet_ask trivial
  refine beat (quiet_ask trivial) holds fun stale l m holds => ?_
  cases stale with
  | true => exact ended holds
  | false =>
    refine beat (quiet_ask trivial) holds fun stale l m holds => ?_
    cases stale with
    | true => exact ended holds
    | false =>
      refine beat (quiet_ask trivial) holds fun created l m holds => ?_
      cases created with
      | none => exact beat rearm holds fun _ _ _ holds => holds
      | some frame =>
        refine beat (quiet_ask trivial) holds fun _ l m holds => ?_
        refine beat (quiet_ask trivial) holds fun written l m holds => ?_
        cases written with
        | error error =>
          have quiet : Proc.Quiet Failing
              (monitor (.recordInternalError "ping_send" error.display) : Managed E Unit) :=
            quiet_ask trivial
          exact mon.ensures_seq (failing.ensures quiet (ended holds)) fun _ _ _ idle => idle
        | ok _ =>
          refine beat (quiet_ask trivial) holds fun _ l m holds => ?_
          exact beat rearm holds fun _ _ _ holds => holds

theorem intercept_kept (heeds : Keeps mon Heeds fun _ => live)
    (failing : Keeps mon Failing fun _ => idle) (ended : ∀ {m}, live m → idle m) (frame : WsFrame)
    (holds : live m) :
    mon.ensures (fun verdict _ => match verdict with
      | .leave _ => idle
      | _ => live) (pingIntercept frame) l m := by
  have heed : ∀ {α β : Type} {x : Managed E α} {f : α → Managed E β} {post} {l m},
      Proc.Quiet Heeds x → live m → (∀ a l m, live m → mon.ensures post (f a) l m) →
        mon.ensures post (x >>= f) l m :=
    fun quiet holds rest => mon.ensures_seq (heeds.ensures quiet holds) rest
  have records : ∀ {context error : String} {l m}, live m → mon.ensures (fun _ _ => idle)
      (monitor (.recordInternalError context error) : Managed E Unit) l m := by
    intro context error l m holds
    have quiet : Proc.Quiet Failing
        (monitor (.recordInternalError context error) : Managed E Unit) := quiet_ask trivial
    exact failing.ensures quiet (ended holds)
  refine heed (quiet_ask trivial) holds fun result l m holds => ?_
  cases result with
  | notPong => exact holds
  | invalidPong => exact mon.ensures_seq (records holds) fun _ _ _ idle => idle
  | pongReceived rtt =>
    cases rtt with
    | none => exact holds
    | some rtt => exact heed (quiet_ask trivial) holds fun _ _ _ holds => holds
  | reply reply =>
    refine heed (quiet_ask trivial) holds fun _ l m holds => ?_
    refine heed (quiet_ask (show Heeds (.write .pong reply) from nofun)) holds
      fun written l m holds => ?_
    cases written with
    | error error => exact mon.ensures_seq (records holds) fun _ _ _ idle => idle
    | ok _ => exact heed (quiet_ask trivial) holds fun _ _ _ holds => holds

theorem parse_kept (parses : Keeps mon Parses fun _ => live) (frame : WsFrame) (holds : live m) :
    mon.ensures (fun _ _ => live) (reportedParse frame) l m := by
  refine parses.ensures ?_ holds
  refine (quiet_ask trivial).bind fun outcome => ?_
  match outcome with
  | .ok (.message action) => exact Proc.Quiet.pure _
  | .ok (.serverError code message data) =>
    exact (quiet_ask trivial).bind fun _ => Proc.Quiet.pure _
  | .error error => exact (quiet_ask trivial).bind fun _ => Proc.Quiet.pure _

end Through

/-- Calls made without a connection, and those that make one and report it. -/
def Outside : Op E → Prop
  | .connect _ _ | .monitor .recordConnectAttempt | .monitor .recordConnectSuccess
  | .monitor .resetConnection => True
  | op => Failing op

/-- Calls of a connection, except those that wait for a frame and look at it. -/
def Within : Op E → Prop
  | .connect _ _ | .selectWithPing | .ping (.handleInbound _) | .monitor (.recordRtt _) => False
  | _ => True

theorem outside_of_failing (op : Op E) (failing : Failing op) : Outside op := by
  cases op with
  | connect => exact failing.elim
  | monitor call => cases call <;> trivial
  | _ => exact failing

theorem within_of_neutral (op : Op E) (neutral : Neutral op) : Within op := by
  cases op with
  | connect | selectWithPing => exact neutral.elim
  | ping call => cases call <;> trivial
  | monitor call => cases call <;> trivial
  | _ => trivial

theorem within_of_beats : ∀ op : Op E, Beats op → Within op := by
  refine beats_cases (fun call beats => ?_) trivial trivial (fun _ => trivial) (fun _ => trivial)
    fun _ => trivial
  cases call <;> trivial

theorem within_of_parses : ∀ op : Op E, Parses op → Within op :=
  parses_cases (fun _ => trivial) (fun _ _ => trivial) fun _ _ => trivial

/-- All calls of a connection but the wait. -/
def Onward : Op E → Prop
  | .connect _ _ | .selectWithPing => False
  | _ => True

theorem onward_of_within (op : Op E) (within : Within op) : Onward op := by
  cases op <;> trivial

theorem onward_of_heeds : ∀ op : Op E, Heeds op → Onward op :=
  heeds_cases (fun op neutral => onward_of_within op (within_of_neutral op neutral))
    (fun _ => trivial) fun _ => trivial

/-- What holds from the report of a connection to its end. -/
def held (up : M → Prop) : Stages M := ⟨fun _ => True, up, up, up⟩

section Held
variable {mon : ManagedMonitor E M} {url : String} {up : M → Prop}

theorem attempt_held (outside : Keeps mon Outside fun _ _ => True)
    (raised : ∀ l m time time', up (mon.step
      (mon.step m (event l (.monitor .resetConnection) time ()))
      (event l (.ping .reset) time' ()))) {l : Locals E} {m : M} :
    mon.ensures (fun result _ => match result with
      | .error _ => (held up).idle
      | .ok () => (held up).opened) (reportedConnect url) l m := by
  have aside : ∀ {α β : Type} {x : Managed E α} {f : α → Managed E β} {post} {l m},
      Proc.Quiet Outside x → (∀ a l m, mon.ensures post (f a) l m) →
        mon.ensures post (x >>= f) l m :=
    fun quiet rest => mon.ensures_seq (outside.ensures quiet trivial) fun a l m _ => rest a l m
  refine aside (quiet_ask trivial) fun _ l m => aside (quiet_ask trivial) fun result l m => ?_
  cases result with
  | error error => exact aside (quiet_ask trivial) fun _ _ _ => trivial
  | ok _ =>
    refine aside (quiet_ask trivial) fun _ l m => ?_
    refine ensures_ask_then mon (.monitor .resetConnection) fun time _ relied =>
      ⟨(outside l m (.monitor .resetConnection) time () trivial trivial relied).1, ?_⟩
    refine ensures_ask_then mon (.ping .reset) fun time' _ relied =>
      ⟨(outside l _ (.ping .reset) time' () trivial trivial relied).1, ?_⟩
    exact raised l m time time'

/-- The wait for a frame, and the note that one came. -/
def Listens : Op E → Prop
  | .selectWithPing | .monitor .recordMessage => True
  | _ => False

theorem select_held (outside : Keeps mon Outside fun _ _ => True)
    (listens : Keeps mon Listens fun _ => up) {l : Locals E} {m : M} (holds : up m) :
    mon.ensures (fun arm _ => match arm with
      | none => (held up).ticked
      | some (.frame (some (.error _))) => (held up).idle
      | _ => (held up).live) reportedSelect l m := by
  have waits : Proc.Quiet (Listens : Op E → Prop) (ask .selectWithPing) := quiet_ask trivial
  refine mon.ensures_seq (listens.ensures waits holds) fun arm l m holds => ?_
  match arm with
  | none => exact holds
  | some (.command received) => exact holds
  | some (.frame none) => exact holds
  | some (.frame (some (.error error))) =>
    have reports : Proc.Quiet (Outside : Op E → Prop)
      (monitor (.recordInternalError "read" error.display)) := quiet_ask trivial
    exact mon.ensures_seq (outside.ensures reports trivial) fun _ _ _ _ => trivial
  | some (.frame (some (.ok frame))) =>
    have notes : Proc.Quiet (Listens : Op E → Prop) (monitor .recordMessage) := quiet_ask trivial
    exact mon.ensures_seq (listens.ensures notes holds) fun _ _ _ holds => holds

/-- The blocks that are left: the wait for a frame, and the heartbeat's look at it. -/
theorem held_books (outside : Keeps mon Outside fun _ _ => True)
    (raised : ∀ l m time time', up (mon.step
      (mon.step m (event l (.monitor .resetConnection) time ()))
      (event l (.ping .reset) time' ())))
    (within : Keeps mon Within fun _ => up)
    (select : ∀ {l m}, up m → mon.ensures (fun arm _ => match arm with
      | none => (held up).ticked
      | some (.frame (some (.error _))) => (held up).idle
      | _ => (held up).live) reportedSelect l m)
    (intercept : ∀ frame {l m}, up m → mon.ensures (fun verdict _ => match verdict with
      | .leave _ => (held up).idle
      | _ => (held up).live) (pingIntercept frame) l m) : Books mon url (held up) where
  idle_kept := outside.mono outside_of_failing
  opened_kept := within.mono within_of_neutral
  live_kept := within.mono within_of_neutral
  lost := fun _ => trivial
  ended := fun _ => trivial
  attempt := fun _ => attempt_held outside raised
  enter := by
    intro l m holds
    have quiet : Proc.Quiet Within (healthHooks : Hooks E).enterSession :=
      (quiet_ask trivial).bind fun _ => quiet_ask trivial
    exact within.ensures quiet holds
  select := select
  tick := tick_kept (within.mono within_of_beats) (outside.mono outside_of_failing) fun _ => trivial
  intercept := intercept
  parse := fun frame _ _ => parse_kept (within.mono within_of_parses) frame

/-- If every other call keeps it, the wait is all that is left. -/
theorem onward_books (outside : Keeps mon Outside fun _ _ => True)
    (raised : ∀ l m time time', up (mon.step
      (mon.step m (event l (.monitor .resetConnection) time ()))
      (event l (.ping .reset) time' ())))
    (onward : Keeps mon Onward fun _ => up)
    (select : ∀ {l m}, up m → mon.ensures (fun arm _ => match arm with
      | none => (held up).ticked
      | some (.frame (some (.error _))) => (held up).idle
      | _ => (held up).live) reportedSelect l m) : Books mon url (held up) :=
  held_books outside raised (onward.mono onward_of_within) select fun frame _ _ =>
    intercept_kept (onward.mono onward_of_heeds) (outside.mono outside_of_failing)
      (fun _ => trivial) frame

end Held

section Walk
variable {mon : ManagedMonitor E M} {url : String} {s : Stages M}

abbrev due (s : Stages M) : Flow → Locals E → M → Prop :=
  Due (fun head _ => match head with
    | .connect => s.idle
    | .session => s.live) fun _ _ _ => True

/-- From this stage the rest of the turn leads to the next one. -/
abbrev Leads (mon : ManagedMonitor E M) (s : Stages M) (stage : M → Prop) (x : Managed E Flow) :
    Prop :=
  ∀ l m, stage m → mon.ensures (due s) x l m

theorem leads_past {stage : M → Prop} {calls : Op E → Prop} {α : Type} {x : Managed E α}
    {f : α → Managed E Flow} (kept : Keeps mon calls fun _ => stage)
    (quiet : Proc.Quiet calls x) (rest : ∀ a, Leads mon s stage (f a)) :
    Leads mon s stage (x >>= f) := by
  intro l m holds
  exact mon.ensures_seq (kept.ensures quiet holds) fun a l' m' holds' => rest a l' m' holds'

theorem leads_modify {stage : M → Prop} {change : Locals E → Locals E} {rest : Managed E Flow}
    (leads : Leads mon s stage rest) : Leads mon s stage (modify change >>= fun _ => rest) :=
  fun l m holds => leads (change l) m holds

theorem leads_return {stage : M → Prop} : Leads mon s stage (pure (.inr ()) : Managed E Flow) :=
  fun _ _ _ => trivial

theorem leads_stay : Leads mon s s.live (pure (.inl .session) : Managed E Flow) :=
  fun _ _ live => live

theorem leads_retry : Leads mon s s.idle (do
    modify fun l => { l with isReconnect := true }
    pure (.inl .connect) : Managed E Flow) :=
  leads_modify fun _ _ idle => idle

end Walk

namespace Books
variable {mon : ManagedMonitor E M} {url : String} {s : Stages M} (books : Books mon url s)
include books

theorem idle_neutral : Keeps mon Neutral fun _ => s.idle :=
  books.idle_kept.mono failing_of_neutral

theorem awaits (delay : Option Duration) :
    Leads mon s s.idle (awaitReconnect delay : Managed E Flow) := by
  cases delay with
  | none => exact leads_return
  | some delay =>
    refine leads_past books.idle_neutral ((quiet_wait delay).mono neutral_of_waits) fun retry => ?_
    cases retry with
    | true => exact leads_retry
    | false => exact leads_return

theorem awaits_hooked (delay : Option Duration) :
    Leads mon s s.idle (hookedAwaitReconnect healthHooks delay : Managed E Flow) := by
  cases delay with
  | none => exact leads_return
  | some delay =>
    refine leads_past books.idle_neutral ((quiet_wait delay).mono neutral_of_waits) fun retry => ?_
    cases retry with
    | true => exact leads_past books.idle_neutral (quiet_ask trivial) fun _ => leads_retry
    | false => exact leads_return

theorem session_ends (cause : WsDisconnectCause) :
    Leads mon s s.idle (hookedSessionEnd healthHooks cause : Managed E Flow) := by
  have reports : Proc.Quiet Failing ((healthHooks : Hooks E).ended cause) := by
    cases cause with
    | pongTimeout => exact quiet_ask trivial
    | staleData => exact quiet_ask trivial
    | _ => exact Proc.Quiet.pure _
  refine leads_past books.idle_neutral (quiet_ask trivial) fun _ => ?_
  refine leads_past books.idle_kept reports fun _ => ?_
  exact leads_past books.idle_neutral ((quiet_decideReconnect cause).mono neutral_of_decides)
    books.awaits_hooked

theorem internal_error (context error : String) :
    Leads mon s s.idle (hookedInternalError healthHooks context error : Managed E Flow) :=
  leads_past books.idle_kept (quiet_ask trivial) fun _ => books.session_ends _

theorem open_failed (context : String) (error : WebSocketError) :
    Leads mon s s.idle (hookedOpenFailed healthHooks context error : Managed E Flow) := by
  refine leads_past books.idle_kept (quiet_ask trivial) fun _ => ?_
  refine leads_past books.idle_neutral ((quiet_decideReconnect _).mono neutral_of_decides) ?_
  exact fun delay => leads_past books.idle_neutral (quiet_ask trivial) fun _ => books.awaits delay

theorem session_returns : Leads mon s s.live (sessionReturn : Managed E Flow) :=
  leads_past books.live_kept (quiet_ask trivial) fun _ => leads_return

theorem sent : Leads mon s s.live (hookedSent healthHooks : Managed E Flow) :=
  leads_past books.live_kept (quiet_ask trivial) fun _ => leads_stay

/-- What follows a write of the session. -/
theorem written {x : Managed E (Except WebSocketError Unit)} {context : String}
    (kept : ∀ l m, s.live m → mon.ensures (fun _ _ => s.live) x l m) :
    Leads mon s s.live (do
      match ← x with
      | .error error => hookedInternalError healthHooks context error.display
      | .ok () => hookedSent healthHooks) := by
  intro l m live
  refine mon.ensures_seq (kept l m live) fun result l' m' live' => ?_
  cases result with
  | error error => exact books.internal_error _ _ l' m' (books.ended live')
  | ok _ => exact books.sent l' m' live'

theorem block {α : Type} {x : Managed E α} (quiet : Proc.Quiet Neutral x) (l : Locals E) (m : M)
    (live : s.live m) : mon.ensures (fun _ _ => s.live) x l m :=
  books.live_kept.ensures quiet live

theorem applies (command : ManagedWsCommand E.Subscription) (l : Locals E) (m : M)
    (live : s.live m) : mon.ensures (fun _ _ => s.live) (applyCommand command) l m :=
  books.block ((quiet_applyCommand command).mono neutral_of_hands) l m live

theorem takes_data (command : ManagedWsCommand E.Subscription) : Leads mon s s.live (do
    if !(← get).sessionAuthenticated && commandRequiresAuth command then
      modify fun l => { l with pendingAuthCommands := l.pendingAuthCommands ++ [command] }
      pure (.inl .session)
    else
      match ← applyCommand command with
      | .error error => hookedInternalError healthHooks "command" error.display
      | .ok () => hookedSent healthHooks) := by
  intro l m live
  rw [Monitor.ensures_bind, Monitor.ensures_get]
  apply mon.ensures_ite
  · exact fun _ => leads_modify leads_stay l m live
  · exact fun _ => books.written (books.applies command) l m live

theorem takes_command (received : Option (ManagedWsCommand E.Subscription)) :
    Leads mon s s.live (hookedCommand healthHooks received) := by
  match received with
  | none => exact books.session_returns
  | some .shutdown => exact books.session_returns
  | some (.forceReconnect reason) =>
    exact fun l m live => books.session_ends _ l m (books.ended live)
  | some (.send payload) => exact books.takes_data (.send payload)
  | some (.updateSubscriptions action) => exact books.takes_data (.updateSubscriptions action)

theorem ticks : Leads mon s s.ticked (hookedTick healthHooks : Managed E Flow) := by
  intro l m ticked
  refine mon.ensures_seq (books.tick ticked) fun verdict l' m' next => ?_
  cases verdict with
  | none => exact next
  | some cause => exact books.session_ends cause l' m' next

theorem authenticated :
    Leads mon s s.live (hookedAuthenticated healthHooks : Managed E Flow) := by
  refine leads_modify fun l m live => ?_
  refine mon.ensures_seq (books.block (quiet_replaySubscriptions.mono neutral_of_replays) l m live)
    fun result l' m' live' => ?_
  cases result with
  | error error => exact books.internal_error _ _ l' m' (books.ended live')
  | ok _ =>
    refine books.written ?_ l' m' live'
    exact fun _ _ live => ensures_flush (fun _ _ _ live => live) books.applies live

theorem acts (action : WsMessageAction E.Message) :
    Leads mon s s.live (hookedAction healthHooks action) := by
  cases action with
  | «continue» => exact leads_stay
  | sessionAuthenticated => exact books.authenticated
  | send payload =>
    have quiet := (quiet_sendPayload (E := E) .reply payload).mono (neutral_of_sends nofun)
    exact books.written (books.block quiet)
  | process message =>
    refine leads_past books.live_kept (quiet_ask trivial) fun result => ?_
    cases result with
    | error error => exact fun l m live => books.internal_error _ _ l m (books.ended live)
    | ok _ => exact leads_stay
  | reconnect reason => exact fun l m live => books.session_ends _ l m (books.ended live)
  | shutdown => exact books.session_returns

theorem parses (frame : WsFrame) :
    Leads mon s s.live (hookedParse healthHooks frame : Managed E Flow) := by
  intro l m live
  refine mon.ensures_seq (mon.ensures_bind.mp (books.parse frame live)) ?_
  intro outcome l' m' reported
  match outcome with
  | .ok (.message action) => exact books.acts action l' m' reported
  | .ok (.serverError code message data) =>
    have judges : Proc.Quiet Neutral
        (handler (.handleServerError code message data) : Managed E _) := quiet_ask trivial
    refine mon.ensures_seq (mon.ensures_bind.mp reported) fun _ l m live => ?_
    refine mon.ensures_seq (books.block judges l m live) fun action l m live => ?_
    cases action with
    | «continue» => exact live
    | reconnect => exact books.session_ends _ l m (books.ended live)
    | fatal => exact books.session_ends _ l m (books.ended live)
  | .error error =>
    exact mon.ensures_seq (mon.ensures_bind.mp reported) fun _ _ _ live' => live'

theorem selects : Leads mon s s.live (hookedSession healthHooks : Managed E Flow) := by
  intro l m live
  refine mon.ensures_seq (mon.ensures_bind.mp (books.select live)) ?_
  intro arm l' m' reported
  match arm with
  | none => exact books.ticks l' m' reported
  | some (.command received) => exact books.takes_command received l' m' reported
  | some (.frame none) => exact books.session_ends _ l' m' (books.ended reported)
  | some (.frame (some (.error error))) =>
    exact mon.ensures_seq (mon.ensures_bind.mp reported)
      fun _ l'' m'' idle => books.session_ends _ l'' m'' idle
  | some (.frame (some (.ok frame))) =>
    have shown : Proc.Quiet Neutral (handler (.onInboundFrame frame) : Managed E Unit) :=
      quiet_ask trivial
    refine mon.ensures_seq (mon.ensures_bind.mp reported) fun _ l m live => ?_
    refine mon.ensures_seq (books.block shown l m live) fun _ l m live => ?_
    refine mon.ensures_seq (books.intercept frame live) fun verdict l m next => ?_
    cases verdict with
    | pass => exact books.parses frame l m next
    | again => exact next
    | leave cause => exact books.session_ends cause l m next

theorem enters : Leads mon s s.opened (hookedEnterSession healthHooks : Managed E Flow) :=
  fun _ _ opened => mon.ensures_seq (books.enter opened) fun _ _ _ live => live

theorem replays : Leads mon s s.opened (hookedReplay healthHooks : Managed E Flow) := by
  refine leads_past books.opened_kept (quiet_ask trivial) fun mode => leads_modify ?_
  cases mode with
  | authGated => exact books.enters
  | publicSession =>
    have quiet := (quiet_replaySubscriptions (E := E)).mono neutral_of_replays
    refine leads_past books.opened_kept quiet fun result => ?_
    cases result with
    | error error => exact fun l m opened => books.open_failed _ error l m (books.lost opened)
    | ok _ => exact books.enters

theorem authenticates : Leads mon s s.opened (hookedAuth healthHooks : Managed E Flow) := by
  refine leads_past books.opened_kept (quiet_ask trivial) fun offered => ?_
  cases offered with
  | none => exact books.replays
  | some payload =>
    have quiet := (quiet_sendPayload (E := E) .auth payload).mono (neutral_of_sends nofun)
    refine leads_past books.opened_kept quiet fun result => ?_
    cases result with
    | error error => exact fun l m opened => books.open_failed _ error l m (books.lost opened)
    | ok _ => exact books.replays

theorem greets : Leads mon s s.opened (do
    reconnect .reset
    storeStatus .connected
    handler .resetState
    handler .onOpen
    match ← handler (.onConnectionOpened (← get).isReconnect) with
    | some message => let _ ← handler (.handleMessage message)
    | none => pure ()
    hookedAuth healthHooks : Managed E Flow) := by
  have kept := books.opened_kept
  refine leads_past kept (quiet_ask trivial) fun _ => ?_
  refine leads_past kept (quiet_ask trivial) fun _ => ?_
  refine leads_past kept (quiet_ask trivial) fun _ => ?_
  refine leads_past kept (quiet_ask trivial) fun _ => ?_
  refine leads_past kept Proc.Quiet.get fun _ => leads_past kept (quiet_ask trivial) fun told => ?_
  cases told with
  | none => exact books.authenticates
  | some message => exact leads_past kept (quiet_ask trivial) fun _ => books.authenticates

theorem connects : Leads mon s s.idle (hookedConnect healthHooks url : Managed E Flow) := by
  refine leads_past books.idle_neutral (quiet_ask trivial) fun _ l m idle => ?_
  refine mon.ensures_seq (mon.ensures_bind.mp (books.attempt idle)) fun _ l' m' dialing => ?_
  refine mon.ensures_seq (mon.ensures_bind.mp dialing) fun result l'' m'' reported => ?_
  cases result with
  | error error =>
    refine mon.ensures_seq (mon.ensures_bind.mp reported) fun _ l m idle => ?_
    have refused : Leads mon s s.idle (do
        storeStatus .disconnected
        let delay ← decideReconnect (.internalError "connect" error.display)
        awaitReconnect delay : Managed E Flow) := by
      refine leads_past books.idle_neutral (quiet_ask trivial) fun _ => ?_
      exact leads_past books.idle_neutral ((quiet_decideReconnect _).mono neutral_of_decides)
        books.awaits
    exact refused l m idle
  | ok _ =>
    simp only [hookedOpened, healthHooks_connected, bind_assoc]
    refine mon.ensures_seq (mon.ensures_bind.mp reported) fun _ l m told => ?_
    refine mon.ensures_seq (mon.ensures_bind.mp told) fun _ l m reset => ?_
    exact mon.ensures_seq (mon.ensures_bind.mp reset) fun _ l m opened => books.greets l m opened

/-- Along every run of the loop each call is safe. -/
theorem run {m : M} (start : s.idle m) {t : List (ManagedEvent E)} {q : Task E}
    (run : Run (runHealthCheckedManagedWsLoop url) t q) (relied : mon.Along mon.rely m t) :
    mon.Along mon.safe m t := by
  rw [runHealthCheckedManagedWsLoop_eq] at run
  have turns : ∀ head l m, (match head with
      | .connect => s.idle
      | .session => s.live) m → mon.ensures (due s) (hookedLoop healthHooks url head) l m := by
    intro head l m stage
    cases head with
    | connect => exact books.connects l m stage
    | session => exact books.selects l m stage
  exact (mon.loop_rule turns start run relied).1

end Books

end HealthOutline
