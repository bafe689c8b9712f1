import SharedWs.HealthStatistics
import SharedWs.ManagedBlocks

/-!
# The reconnect count of the health-checked loop

`run_health_checked_managed_ws_loop` advances the reconnect count of its monitor at one place, the
end of a session. A connection can also be lost before its session starts, when the auth payload
or the first replay cannot be written; these paths go back to a new attempt as well and leave the
count alone. At every attempt the established connections are those that were counted and those
that were lost while opening.
-/
namespace ReconnectAccounting

open InteractionPrograms InteractionMonitors InteractionMonitors.Monitor
open WsFrames WsTypes ManagedOps ManagedLoop HealthCheckedLoop HookedLoop LoopOutline ManagedBlocks
open HealthMonitor HealthStatistics

variable {E : Endpoint}

/-- The connections of a run: `established` ones, those `lost` between `connect` and the session,
and the calls of `increment_reconnect`. -/
structure Ledger where
  established : Nat
  lost : Nat
  counted : Nat
  opening : Bool
  deriving DecidableEq

/-- A connection is opening from a successful `connect` to the ping timer of its session; it is
lost there by the first write that fails. -/
def Ledger.step (m : Ledger) : ManagedEvent E → Ledger
  | ⟨(_, .connect _ _), ⟨_, .ok ()⟩⟩ => { m with established := m.established + 1, opening := true }
  | ⟨(_, .write _ _), ⟨_, .error _⟩⟩ =>
    if m.opening then { m with lost := m.lost + 1, opening := false } else m
  | ⟨(_, .startPingSleep _), _⟩ => { m with opening := false }
  | ⟨(_, .monitor .incrementReconnect), _⟩ => { m with counted := m.counted + 1 }
  | _ => m

def ledger (t : List (ManagedEvent E)) : Ledger := t.foldl Ledger.step ⟨0, 0, 0, false⟩

/-- Between two connections. -/
def Balanced (m : Ledger) : Prop := m.established = m.counted + m.lost

/-- A connection is established and its session has not started. -/
def Opening (m : Ledger) : Prop := m.opening = true ∧ m.established = m.counted + m.lost + 1

def InSession (m : Ledger) : Prop := m.opening = false ∧ m.established = m.counted + m.lost + 1

/-- At the start of an attempt nothing is owed. -/
def accounts (E : Endpoint) : ManagedMonitor E Ledger where
  step := Ledger.step
  rely := fun _ _ => True
  safe := fun m e => e.op.2 = .monitor .recordConnectAttempt → Balanced m

/-- The ledger does not look at these calls. -/
def Inert : Op E → Prop
  | .connect _ _ | .write _ _ | .startPingSleep _ | .monitor .incrementReconnect
  | .monitor .recordConnectAttempt => False
  | _ => True

/-- The calls of a session: a failed write loses nothing that is opening. -/
def Lively : Op E → Prop
  | .write _ _ => True
  | op => Inert op

theorem inert_ignored : Ignores (accounts E) Inert := by
  intro l m op time val inert
  cases op with
  | connect url buffers => exact inert.elim
  | write site frame => exact inert.elim
  | startPingSleep interval => exact inert.elim
  | monitor call =>
    cases call with
    | incrementReconnect => exact inert.elim
    | recordConnectAttempt => exact inert.elim
    | _ => exact ⟨nofun, rfl⟩
  | _ => exact ⟨nofun, rfl⟩

theorem lively_keeps : Keeps (accounts E) Lively fun _ => InSession := by
  intro l m op time val lively live relied
  cases op with
  | write site frame =>
    refine ⟨nofun, ?_⟩
    rcases val with error | _
    · have same : (accounts E).step m (event l (.write site frame) time (.error error)) = m := by
        simp [accounts, event, Ledger.step, live.1]
      rw [same]
      exact live
    · exact live
  | _ => exact inert_ignored.keeps (fun _ => InSession) l m _ time val lively live relied

abbrev due : Flow → Locals E → Ledger → Prop :=
  Due (fun head _ m => match head with
    | .connect => Balanced m
    | .session => InSession m) fun _ _ _ => True

/-- From this stage the rest of the turn keeps the books. -/
abbrev Settles (stage : Ledger → Prop) (x : Managed E Flow) : Prop :=
  ∀ l m, stage m → (accounts E).ensures due x l m

section Rules
variable {stage : Ledger → Prop} {α : Type} {x : Managed E α} {f : α → Managed E Flow}

theorem settles_inert (quiet : Proc.Quiet Inert x) (rest : ∀ a, Settles stage (f a)) :
    Settles stage (x >>= f) := by
  intro l m holds
  refine (accounts E).ensures_seq ((inert_ignored.keeps fun _ => stage).ensures quiet holds) ?_
  exact fun a l' m' holds' => rest a l' m' holds'

theorem settles_lively (quiet : Proc.Quiet Lively x) (rest : ∀ a, Settles InSession (f a)) :
    Settles InSession (x >>= f) := by
  intro l m live
  refine (accounts E).ensures_seq (lively_keeps.ensures quiet live) ?_
  exact fun a l' m' live' => rest a l' m' live'

theorem settles_modify {change : Locals E → Locals E} {rest : Managed E Flow}
    (settles : Settles stage rest) : Settles stage (modify change >>= fun _ => rest) :=
  fun l m holds => settles (change l) m holds

theorem settles_return : Settles stage (pure (.inr ()) : Managed E Flow) :=
  fun _ _ _ => trivial

theorem settles_stay : Settles InSession (pure (.inl .session) : Managed E Flow) :=
  fun _ _ live => live

end Rules

theorem inert_of_decides (op : Op E) (decides : Decides op) : Inert op := by
  match op with
  | .handler _ => trivial
  | .reconnect _ => trivial

theorem inert_of_waits (op : Op E) (waits : Waits op) : Inert op := by
  match op with
  | .enterWait _ => trivial
  | .waitSelect _ => trivial

theorem lively_of_speaks (op : Op E) (speaks : Speaks op) : Lively op := by
  match op with
  | .enterApply _ => trivial
  | .write _ _ => trivial
  | .handler _ => trivial

theorem inert_decide (cause : WsDisconnectCause) :
    Proc.Quiet Inert (decideReconnect cause : Managed E _) :=
  (quiet_decideReconnect cause).mono inert_of_decides

theorem inert_wait (delay : Duration) :
    Proc.Quiet Inert (waitReconnectDelayOrShutdown delay : Managed E Bool) :=
  (quiet_wait delay).mono inert_of_waits

theorem settles_increment : Settles InSession (do
    monitor .incrementReconnect
    modify fun l => { l with isReconnect := true }
    pure (.inl .connect) : Managed E Flow) := by
  intro l m live
  refine ensures_ask_then (accounts E) (.monitor .incrementReconnect) fun _ _ _ => ?_
  refine ⟨nofun, ?_⟩
  change m.established = m.counted + 1 + m.lost
  have owed := live.2
  omega

theorem settles_healthAwait (delay : Option Duration) :
    Settles InSession (healthAwaitReconnect delay : Managed E Flow) := by
  cases delay with
  | none => exact settles_return
  | some delay =>
    refine settles_inert (inert_wait delay) fun retry => ?_
    cases retry with
    | true => exact settles_increment
    | false => exact settles_return

theorem settles_sessionEnd (cause : WsDisconnectCause) :
    Settles InSession (healthSessionEnd cause : Managed E Flow) := by
  refine settles_inert (quiet_ask trivial) fun _ => ?_
  have decides : Settles InSession (do
      let delay ← decideReconnect cause
      healthAwaitReconnect delay : Managed E Flow) :=
    settles_inert (inert_decide cause) settles_healthAwait
  cases cause with
  | pongTimeout => exact settles_inert (quiet_ask trivial) fun _ => decides
  | staleData => exact settles_inert (quiet_ask trivial) fun _ => decides
  | _ => exact decides

theorem settles_internalError (context error : String) :
    Settles InSession (healthInternalError context error : Managed E Flow) :=
  settles_inert (quiet_ask trivial) fun _ => settles_sessionEnd _

theorem settles_sessionReturn : Settles InSession (sessionReturn : Managed E Flow) :=
  settles_inert (quiet_ask trivial) fun _ => settles_return

theorem settles_sent : Settles InSession (do
    monitor .recordSent
    pure (.inl .session) : Managed E Flow) :=
  settles_inert (quiet_ask trivial) fun _ => settles_stay

/-- What a write of the session is followed by. -/
theorem settles_written {x : Managed E (Except WebSocketError Unit)} {context : String}
    (settles : ∀ l m, InSession m → (accounts E).ensures (fun _ _ => InSession) x l m) :
    Settles InSession (do
      match ← x with
      | .error error => healthInternalError context error.display
      | .ok () =>
        monitor .recordSent
        pure (.inl .session)) := by
  intro l m live
  refine (accounts E).ensures_seq (settles l m live) fun result l' m' live' => ?_
  cases result with
  | error error => exact settles_internalError _ _ l' m' live'
  | ok _ => exact settles_sent l' m' live'

theorem lively_block {α : Type} {x : Managed E α} (quiet : Proc.Quiet Speaks x) (l : Locals E)
    (m : Ledger) (live : InSession m) : (accounts E).ensures (fun _ _ => InSession) x l m :=
  lively_keeps.ensures (quiet.mono lively_of_speaks) live

theorem settles_data (command : ManagedWsCommand E.Subscription) : Settles InSession (do
    if !(← get).sessionAuthenticated && commandRequiresAuth command then
      modify fun l => { l with pendingAuthCommands := l.pendingAuthCommands ++ [command] }
      pure (.inl .session)
    else
      match ← applyCommand command with
      | .error error => healthInternalError "command" error.display
      | .ok () =>
        monitor .recordSent
        pure (.inl .session)) := by
  intro l m live
  rw [Monitor.ensures_bind, Monitor.ensures_get]
  apply (accounts E).ensures_ite
  · exact fun _ => settles_modify settles_stay l m live
  · exact fun _ => settles_written (lively_block (speaking_applyCommand command)) l m live

theorem settles_command (received : Option (ManagedWsCommand E.Subscription)) :
    Settles InSession (healthCommand received) := by
  match received with
  | none => exact settles_sessionReturn
  | some .shutdown => exact settles_sessionReturn
  | some (.forceReconnect reason) => exact settles_sessionEnd (.endpointRequested reason)
  | some (.send payload) => exact settles_data (.send payload)
  | some (.updateSubscriptions action) => exact settles_data (.updateSubscriptions action)

theorem settles_rearm : Settles InSession (healthRearm : Managed E Flow) :=
  settles_inert (quiet_ask trivial) fun _ => settles_inert (quiet_ask trivial) fun _ =>
    settles_stay

theorem settles_tick : Settles InSession (healthTick : Managed E Flow) := by
  refine settles_inert (quiet_ask trivial) fun stale => ?_
  cases stale with
  | true => exact settles_sessionEnd .pongTimeout
  | false =>
    refine settles_inert (quiet_ask trivial) fun stale => ?_
    cases stale with
    | true => exact settles_sessionEnd .staleData
    | false =>
      refine settles_inert (quiet_ask trivial) fun created => ?_
      cases created with
      | none => exact settles_rearm
      | some frame =>
        refine settles_inert (quiet_ask trivial) fun _ => ?_
        refine settles_lively (quiet_ask trivial) fun written => ?_
        cases written with
        | error error => exact settles_internalError _ _
        | ok _ => exact settles_inert (quiet_ask trivial) fun _ => settles_rearm

theorem settles_authenticated :
    Settles InSession (healthAction .sessionAuthenticated : Managed E Flow) := by
  refine settles_modify fun l m live => ?_
  refine (accounts E).ensures_seq (lively_block speaking_replaySubscriptions l m live) ?_
  intro result l' m' live'
  cases result with
  | error error => exact settles_internalError _ _ l' m' live'
  | ok _ =>
    refine settles_written ?_ l' m' live'
    intro l m live
    exact ensures_flush (fun _ _ _ live => live)
      (fun command => lively_block (speaking_applyCommand command)) live

theorem settles_action (action : WsMessageAction E.Message) :
    Settles InSession (healthAction action) := by
  cases action with
  | «continue» => exact settles_stay
  | sessionAuthenticated => exact settles_authenticated
  | send payload => exact settles_written (lively_block (speaking_sendPayload .reply payload))
  | process message =>
    refine settles_inert (quiet_ask trivial) fun result => ?_
    cases result with
    | error error => exact settles_internalError _ _
    | ok _ => exact settles_stay
  | reconnect reason => exact settles_sessionEnd (.endpointRequested reason)
  | shutdown => exact settles_sessionReturn

theorem settles_parse (frame : WsFrame) :
    Settles InSession (healthParse frame : Managed E Flow) := by
  refine settles_inert (quiet_ask trivial) fun outcome => ?_
  match outcome with
  | .ok (.message action) => exact settles_action action
  | .ok (.serverError code message data) =>
    refine settles_inert (quiet_ask trivial) fun _ => ?_
    refine settles_inert (quiet_ask trivial) fun action => ?_
    cases action with
    | «continue» => exact settles_stay
    | reconnect => exact settles_sessionEnd _
    | fatal => exact settles_sessionEnd _
  | .error error => exact settles_inert (quiet_ask trivial) fun _ => settles_stay

theorem settles_frame (read : Option (Except WebSocketError WsFrame)) :
    Settles InSession (healthFrame read : Managed E Flow) := by
  match read with
  | none => exact settles_sessionEnd .remoteClosed
  | some (.error error) => exact settles_inert (quiet_ask trivial) fun _ => settles_sessionEnd _
  | some (.ok frame) =>
    refine settles_inert (quiet_ask trivial) fun _ => ?_
    refine settles_inert (quiet_ask trivial) fun _ => ?_
    refine settles_inert (quiet_ask trivial) fun result => ?_
    cases result with
    | notPong => exact settles_parse frame
    | invalidPong => exact settles_inert (quiet_ask trivial) fun _ => settles_sessionEnd _
    | pongReceived rtt =>
      cases rtt with
      | none => exact settles_stay
      | some rtt => exact settles_inert (quiet_ask trivial) fun _ => settles_stay
    | reply reply =>
      refine settles_inert (quiet_ask trivial) fun _ => ?_
      refine settles_lively (quiet_ask trivial) fun written => ?_
      cases written with
      | error error => exact settles_internalError _ _
      | ok _ => exact settles_sent

theorem settles_session : Settles InSession (healthSession : Managed E Flow) := by
  refine settles_inert (quiet_ask trivial) fun arm => ?_
  match arm with
  | none => exact settles_tick
  | some (.command received) => exact settles_command received
  | some (.frame read) => exact settles_frame read

theorem settles_retry : Settles Balanced (do
    modify fun l => { l with isReconnect := true }
    pure (.inl .connect) : Managed E Flow) :=
  settles_modify fun _ _ balanced => balanced

theorem settles_await (delay : Option Duration) :
    Settles Balanced (awaitReconnect delay : Managed E Flow) := by
  cases delay with
  | none => exact settles_return
  | some delay =>
    refine settles_inert (inert_wait delay) fun retry => ?_
    cases retry with
    | true => exact settles_retry
    | false => exact settles_return

theorem settles_openFailed (context : String) (error : WebSocketError) :
    Settles Balanced (healthOpenFailed context error : Managed E Flow) := by
  refine settles_inert (quiet_ask trivial) fun _ => ?_
  refine settles_inert (inert_decide _) fun delay => ?_
  exact settles_inert (quiet_ask trivial) fun _ => settles_await delay

theorem settles_enterSession : Settles Opening (healthEnterSession : Managed E Flow) := by
  refine settles_inert (quiet_ask trivial) fun interval => ?_
  intro l m opened
  refine ensures_ask_then (accounts E) (.startPingSleep interval) fun _ _ _ => ?_
  exact ⟨nofun, rfl, opened.2⟩

/-- A write on the way to the session: still opening, or lost. -/
def Wrote : Except WebSocketError Unit → Locals E → Ledger → Prop
  | .ok () => fun _ => Opening
  | .error _ => fun _ => Balanced

theorem wrote_write (site : WriteSite) (frame : WsFrame) {l : Locals E} {m : Ledger}
    (opened : Opening m) : (accounts E).ensures Wrote (ask (.write site frame)) l m := by
  refine ensures_of_ask (accounts E) (.write site frame) fun time val _ => ⟨nofun, ?_⟩
  rcases val with error | _
  · have lost : (accounts E).step m (event l (.write site frame) time (.error error)) =
        { m with lost := m.lost + 1, opening := false } := by
      simp [accounts, event, Ledger.step, opened.1]
    rw [lost]
    change m.established = m.counted + (m.lost + 1)
    have owed := opened.2
    omega
  · exact opened

theorem wrote_payload (site : WriteSite) (payload : Bytes) {l : Locals E} {m : Ledger}
    (opened : Opening m) : (accounts E).ensures Wrote (sendPayload site payload) l m := by
  refine ensures_ask_then (accounts E) (.handler (.onOutboundFrame _)) fun _ _ _ => ?_
  exact ⟨nofun, wrote_write site _ opened⟩

theorem wrote_subscriptions (site : WriteSite) (subscriptions : List E.Subscription) {l : Locals E}
    {m : Ledger} (opened : Opening m) :
    (accounts E).ensures Wrote (sendSubscriptions site subscriptions) l m := by
  induction subscriptions generalizing l m with
  | nil => exact opened
  | cons subscription rest ih =>
    refine ensures_ask_then (accounts E) (.handler (.serializeSubscription _)) fun _ payload _ => ?_
    refine ⟨nofun, (accounts E).ensures_seq (wrote_payload site payload opened) ?_⟩
    intro result l' m' next
    cases result with
    | error error => exact next
    | ok _ => exact ih next

theorem wrote_replay {l : Locals E} {m : Ledger} (opened : Opening m) :
    (accounts E).ensures Wrote replaySubscriptions l m := by
  refine ensures_ask_then (accounts E) (.handler .initialSubscriptions) fun _ subscriptions _ => ?_
  exact ⟨nofun, wrote_subscriptions .replay subscriptions opened⟩

theorem settles_replay : Settles Opening (healthReplay : Managed E Flow) := by
  refine settles_inert (quiet_ask trivial) fun mode => ?_
  refine settles_modify fun l m opened => ?_
  cases mode with
  | authGated => exact settles_enterSession l m opened
  | publicSession =>
    refine (accounts E).ensures_seq (wrote_replay opened) fun result l' m' next => ?_
    cases result with
    | error error => exact settles_openFailed "subscription_replay" error l' m' next
    | ok _ => exact settles_enterSession l' m' next

theorem settles_auth : Settles Opening (do
    match ← handler .generateAuth with
    | none => healthReplay
    | some payload =>
      match ← sendPayload .auth payload with
      | .error error => healthOpenFailed "auth_send" error
      | .ok () => healthReplay : Managed E Flow) := by
  refine settles_inert (quiet_ask trivial) fun offered => ?_
  cases offered with
  | none => exact settles_replay
  | some payload =>
    intro l m opened
    refine (accounts E).ensures_seq (wrote_payload .auth payload opened) ?_
    intro result l' m' next
    cases result with
    | error error => exact settles_openFailed "auth_send" error l' m' next
    | ok _ => exact settles_replay l' m' next

theorem settles_opened : Settles Opening (healthOpened : Managed E Flow) := by
  refine settles_inert (quiet_ask trivial) fun _ => settles_inert (quiet_ask trivial) fun _ => ?_
  refine settles_inert (quiet_ask trivial) fun _ => settles_inert (quiet_ask trivial) fun _ => ?_
  refine settles_inert (quiet_ask trivial) fun _ => settles_inert (quiet_ask trivial) fun _ => ?_
  refine settles_inert (quiet_ask trivial) fun _ => settles_inert Proc.Quiet.get fun _ => ?_
  refine settles_inert (quiet_ask trivial) fun message => ?_
  cases message with
  | none => exact settles_auth
  | some message => exact settles_inert (quiet_ask trivial) fun _ => settles_auth

theorem settles_connect (url : String) : Settles Balanced (healthConnect url : Managed E Flow) := by
  refine settles_inert (quiet_ask trivial) fun _ l m balanced => ?_
  refine ensures_ask_then (accounts E) (.monitor .recordConnectAttempt) fun _ _ _ => ?_
  refine ⟨fun _ => balanced, ?_⟩
  refine ensures_ask_then (accounts E) (.connect url .default) fun time val _ => ⟨nofun, ?_⟩
  rcases val with error | _
  · have refused : Settles Balanced (do
        monitor (.recordInternalError "connect" error.display)
        storeStatus .disconnected
        let delay ← decideReconnect (.internalError "connect" error.display)
        awaitReconnect delay : Managed E Flow) := by
      refine settles_inert (quiet_ask trivial) fun _ => ?_
      exact settles_inert (quiet_ask trivial) fun _ =>
        settles_inert (inert_decide _) settles_await
    exact refused l m balanced
  · refine settles_opened l _ ⟨rfl, ?_⟩
    exact congrArg (· + 1) balanced

theorem settles_turn (url : String) (head : Head) (l : Locals E) (m : Ledger)
    (holds : due (.inl head) l m) :
    (accounts E).ensures due (runHealthCheckedManagedWsLoop url head) l m := by
  cases head with
  | connect => exact settles_connect url l m holds
  | session => exact settles_session l m holds

section Runs
variable {url : String} {t : List (ManagedEvent E)} {q : Task E}

/-- At the start of an attempt every established connection was counted or lost while opening. -/
theorem balanced_attempt (run : Run (runHealthCheckedManagedWsLoop url) t q)
    {before after : List (ManagedEvent E)} {l : Locals E} {time : Instant}
    (cut : t = before ++ event l (.monitor .recordConnectAttempt) time () :: after) :
    Balanced (ledger before) := by
  have relied : (accounts E).Along (accounts E).rely ⟨0, 0, 0, false⟩ t :=
    ((accounts E).along_iff).mpr fun _ _ _ _ => trivial
  have start : due (.inl .connect) (Locals.initial : Locals E) ⟨0, 0, 0, false⟩ := rfl
  obtain ⟨safe, _⟩ := (accounts E).loop_rule (settles_turn url) start run relied
  exact ((accounts E).along_iff).mp safe before _ after cut rfl

end Runs

/-- The operation of `WsHealthMonitor` behind a call; `is_stale` changes nothing. -/
def operationOf : MonitorCall → Option Operation
  | .recordConnectAttempt => some .recordConnectAttempt
  | .recordConnectSuccess => some .recordConnectSuccess
  | .resetConnection => some .resetConnection
  | .recordMessage => some .recordMessage
  | .recordSent => some .recordSent
  | .recordRtt rtt => some (.recordRtt rtt)
  | .recordError => some .recordError
  | .recordInternalError context error => some (.recordInternalError context error)
  | .recordServerError code message => some (.recordServerError code message)
  | .incrementReconnect => some .incrementReconnect
  | .isStale => none

def entryOf : ManagedEvent E → Option Entry
  | ⟨(_, .monitor call), answer⟩ => (operationOf call).map fun operation => ⟨operation, answer.time⟩
  | _ => none

/-- What a run does to the monitor of its health object. -/
def entries (t : List (ManagedEvent E)) : List Entry := t.filterMap entryOf

def isIncrement (entry : Entry) : Bool := decide (entry.operation = .incrementReconnect)

theorem step_counted (m : Ledger) (e : ManagedEvent E) :
    (m.step e).counted = m.counted + ((entryOf e).toList.countP isIncrement) := by
  obtain ⟨⟨l, op⟩, time, val⟩ := e
  cases op with
  | monitor call => cases call <;> rfl
  | connect url buffers => rcases val with error | _ <;> rfl
  | write site frame =>
    rcases val with error | _
    · by_cases opening : m.opening = true
      · simp [Ledger.step, entryOf, opening]
      · simp [Ledger.step, entryOf, opening]
    · rfl
  | _ => rfl

/-- The ledger counts the calls of `increment_reconnect` that the monitor receives. -/
theorem ledger_counted (t : List (ManagedEvent E)) :
    (ledger t).counted = (entries t).countP isIncrement := by
  induction t using List.reverseRecOn with
  | nil => rfl
  | append_singleton t e ih =>
    have last : (ledger (t ++ [e])).counted = ((ledger t).step e).counted := by
      simp [ledger]
    have more : entries (t ++ [e]) = entries t ++ (entryOf e).toList :=
      filterMap_snoc entryOf t e
    rw [last, step_counted, ih, more, List.countP_append]

section Counts
variable {lib : HistogramLibrary} {staleThreshold : Duration} {created : Instant}

theorem reconnectCount_after {history : List Entry} {m : WsHealthMonitor lib}
    (run : after lib staleThreshold created history = some m) :
    m.reconnectCount.toNat = min (history.countP isIncrement) counterMax :=
  counter_ever run (fun _ _ _ effect => effect.reconnects) rfl

/-- The count is the number of connections that were established, up to the largest `u64`. All of
them are lost by the time of a new attempt. -/
def CountsEstablished (before : List (ManagedEvent E)) (m : WsHealthMonitor lib) : Prop :=
  m.reconnectCount.toNat = min (ledger before).established counterMax

/-- At the start of every attempt the monitor exists, and its count is right just if no earlier
connection was lost while opening, or the count is saturated without it. -/
def CountedUnlessLost (lib : HistogramLibrary) (staleThreshold : Duration) (created : Instant)
    (t : List (ManagedEvent E)) : Prop :=
  ∀ before l time rest, t = before ++ event l (.monitor .recordConnectAttempt) time () :: rest →
    ∃ m, after lib staleThreshold created (entries before) = some m ∧
      (CountsEstablished before m ↔ (ledger before).lost = 0 ∨
        counterMax ≤ (ledger before).established - (ledger before).lost)

theorem reconnect_count_iff {url : String} {t : List (ManagedEvent E)} {q : Task E}
    (lib : HistogramLibrary) (staleThreshold : Duration) (created : Instant)
    (run : Run (runHealthCheckedManagedWsLoop url) t q) :
    CountedUnlessLost lib staleThreshold created t := by
  intro before l time rest cut
  obtain ⟨m, kept⟩ := after_isSome lib staleThreshold created (entries before)
  refine ⟨m, kept, ?_⟩
  have count := reconnectCount_after kept
  rw [← ledger_counted] at count
  have balance : (ledger before).established = (ledger before).counted + (ledger before).lost :=
    balanced_attempt run cut
  unfold CountsEstablished
  rw [count, balance]
  omega

end Counts

def bareLoop : Head → Managed bareEndpoint Flow := runHealthCheckedManagedWsLoop "ws://peer"

theorem ended_session_counted :
    ledger (trial bareLoop (fun _ => bareAnswer) 26).1 = ⟨1, 0, 1, false⟩ ∧
      ∃ m, after tally 5 0 (entries (trial bareLoop (fun _ => bareAnswer) 26).1) = some m ∧
        CountsEstablished (trial bareLoop (fun _ => bareAnswer) 26).1 m := by
  have account : ledger (trial bareLoop (fun _ => bareAnswer) 26).1 = ⟨1, 0, 1, false⟩ := rfl
  have cut : (trial bareLoop (fun _ => bareAnswer) 27).1 =
    (trial bareLoop (fun _ => bareAnswer) 26).1 ++
      [event ⟨true, true, []⟩ (.monitor .recordConnectAttempt) 26 ()] := rfl
  obtain ⟨m, kept, counted⟩ := reconnect_count_iff tally 5 0
    (trial_run bareLoop (fun _ => bareAnswer) 27) _ _ _ [] cut
  exact ⟨account, m, kept, counted.mpr (Or.inl (congrArg Ledger.lost account))⟩

def authLost : Nat → (op : Op bareEndpoint) → op.Ans
  | _, .handler .generateAuth => some ByteArray.empty
  | _, .write .auth _ => .error .outboundQueueFull
  | _, op => bareAnswer op

/-- The second attempt finds a count of zero after a connection that was established and lost. -/
theorem lost_auth_uncounted :
    Run bareLoop (trial bareLoop authLost 24).1 (trial bareLoop authLost 24).2 ∧
      (trial bareLoop authLost 24).1 = (trial bareLoop authLost 23).1 ++
        [event ⟨true, false, []⟩ (.monitor .recordConnectAttempt) 23 ()] ∧
      (ledger (trial bareLoop authLost 23).1).established = 1 ∧
      ∃ m, after tally 5 0 (entries (trial bareLoop authLost 23).1) = some m ∧
        m.reconnectCount.toNat = 0 := by
  refine ⟨trial_run bareLoop authLost 24, rfl, rfl, ?_⟩
  obtain ⟨m, kept⟩ := after_isSome tally 5 0 (entries (trial bareLoop authLost 23).1)
  refine ⟨m, kept, ?_⟩
  rw [reconnectCount_after kept, ← ledger_counted]
  rfl

end ReconnectAccounting
