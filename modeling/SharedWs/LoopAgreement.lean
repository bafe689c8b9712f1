import SharedWs.InteractionErasure
import SharedWs.ManagedBlocks

/-!
# The two managed loops agree

With a health object that never acts, the health-checked loop is the plain loop
with extra calls that nobody else sees. Erasing these calls and the turns of the
ping timer from its traces gives the traces of the plain loop, no more and no
fewer, and both loops return at the same point.
-/
namespace LoopAgreement

open InteractionPrograms InteractionErasure WsFrames WsTypes ManagedOps ManagedLoop HookedLoop
open LoopOutline ManagedBlocks

variable {E : Endpoint}

/-- A call as the plain loop would make it; nothing for the health object, its
timer and a turn in which only the timer fired. -/
def visible : ManagedEvent E → Option (ManagedEvent E)
  | ⟨(_, .monitor _), _⟩ | ⟨(_, .ping _), _⟩ | ⟨(_, .startPingSleep _), _⟩
  | ⟨(_, .resetPingSleep _), _⟩ => none
  | ⟨(_, .selectWithPing), ⟨_, none⟩⟩ => none
  | ⟨(l, .selectWithPing), ⟨time, some arm⟩⟩ => some (event l .select time arm)
  | e => some e

/-- The health object never creates a ping, never claims a frame and never
reports the connection as stale. -/
def Inert : ManagedEvent E → Prop
  | ⟨(_, .ping .createPing), ⟨_, created⟩⟩ => created = none
  | ⟨(_, .ping (.handleInbound _)), ⟨_, result⟩⟩ => result = .notPong
  | ⟨(_, .ping .isStale), ⟨_, stale⟩⟩ | ⟨(_, .monitor .isStale), ⟨_, stale⟩⟩ => stale = false
  | _ => True

/-- Calls that both loops make and that are seen as they are. -/
def Shared : Op E → Prop
  | .monitor _ | .ping _ | .startPingSleep _ | .resetPingSleep _ | .selectWithPing => False
  | _ => True

theorem visible_shared (l : Locals E) (op : Op E) (ans : Stamped op.Ans) (shared : Shared op) :
    visible ⟨(l, op), ans⟩ = some ⟨(l, op), ans⟩ := by
  cases op <;> first | exact shared.elim | rfl

theorem visible_health (l : Locals E) (op : Op E) (ans : Stamped op.Ans) (health : HealthOp op) :
    visible ⟨(l, op), ans⟩ = none := by
  cases op <;> first | exact health.elim | rfl

theorem bare_inert (l : Locals E) (op : Op E) : Inert ⟨(l, op), ⟨0, bareAnswer op⟩⟩ := by
  match op with
  | .ping .createPing | .ping (.handleInbound _) | .ping .isStale | .monitor .isStale => rfl
  | .ping .reset | .ping .interval => trivial
  | .monitor .recordConnectAttempt | .monitor .recordConnectSuccess | .monitor .resetConnection
  | .monitor .recordMessage | .monitor .recordSent | .monitor (.recordRtt _) | .monitor .recordError
  | .monitor (.recordInternalError _ _) | .monitor (.recordServerError _ _)
  | .monitor .incrementReconnect => trivial
  | .storeStatus _ | .connect _ _ | .write _ _ | .handler _ | .reconnect _ | .select
  | .selectWithPing | .startPingSleep _ | .resetPingSleep _ | .enterWait _ | .waitSelect _
  | .enterApply _ => trivial

theorem visible_full (l : Locals E) (op : Op E) (ans : Stamped op.Ans) (seen : ManagedEvent E)
    (image : visible ⟨(l, op), ans⟩ = some seen) (a : Stamped seen.op.2.Ans) :
    ∃ ans', Inert ⟨(l, op), ans'⟩ ∧ visible ⟨(l, op), ans'⟩ = some ⟨seen.op, a⟩ := by
  cases op with
  | selectWithPing =>
    match ans with
    | ⟨time, some arm⟩ =>
      cases image
      exact ⟨⟨a.time, some a.val⟩, trivial, rfl⟩
  | monitor _ | ping _ | startPingSleep _ | resetPingSleep _ => cases image
  | _ =>
    cases image
    exact ⟨a, trivial, rfl⟩

def healthErasure : Erasure ((managedSignature E).showing (Locals E)) where
  image := visible
  admits := Inert
  answered := fun op => ⟨⟨0, bareAnswer op.2⟩, bare_inert op.1 op.2⟩
  full := fun op ans seen image a => visible_full op.1 op.2 ans seen image a

abbrev Same (url : String) (x y : Managed E Flow) : Prop :=
  Agrees healthErasure (hookedLoop (plainHooks : Hooks E) url) x y

variable {url : String}

/-- A stretch that is the same text in both loops. -/
theorem same_bind {α : Type} {x : Managed E α} (calls : Calls Shared x)
    {f g : α → Managed E Flow} (rest : ∀ a, Same url (f a) (g a)) :
    Same url (x >>= f) (x >>= g) := by
  refine agrees_same ?_ calls rest
  intro l op ans shared
  exact visible_shared l op ans shared

theorem same_quiet {α : Type} {x : Managed E α} (quiet : Proc.Quiet Shared x)
    {f g : α → Managed E Flow} (rest : ∀ a, Same url (f a) (g a)) :
    Same url (x >>= f) (x >>= g) :=
  same_bind (calls_of_quiet quiet) rest

/-- A hook that is filled on the left and empty on the right. -/
theorem same_hook {x y : Managed E Unit} (quiet : Proc.Quiet HealthOp x) (empty : y = pure ())
    {f g : Managed E Flow} (live : ∀ l r, g l >>= endTurn ≠ .ret (.inr r))
    (rest : Same url f g) : Same url (do x; f) (do y; g) := by
  subst empty
  refine agrees_hidden ?_ quiet live fun _ => rest
  intro l op ans health
  exact visible_health l op ans health

theorem shared_of_waits (op : Op E) (waits : Waits op) : Shared op := by
  cases op <;> trivial

theorem shared_of_decides (op : Op E) (decides : Decides op) : Shared op := by
  cases op <;> trivial

theorem shared_of_sends (site : WriteSite) (op : Op E) (sends : Sends site op) : Shared op := by
  cases op <;> trivial

theorem shared_of_replays (op : Op E) (replays : Replays op) : Shared op := by
  cases op <;> trivial

theorem shared_of_hands (op : Op E) (hands : Hands op) : Shared op := by
  cases op <;> first | trivial | exact hands.elim id id

theorem same_await (delay : Option Duration) :
    Same url (hookedAwaitReconnect (healthHooks : Hooks E) delay)
      (hookedAwaitReconnect plainHooks delay) := by
  cases delay with
  | none => exact agrees_pure _
  | some delay =>
    refine same_quiet ((quiet_wait delay).mono shared_of_waits) fun retry => ?_
    cases retry with
    | true =>
      refine same_hook healthHooks_silent.retried rfl (fun l r same => ?_) ?_
      · cases same
      · exact same_bind (calls_modify _) fun _ => agrees_pure _
    | false => exact agrees_pure _

theorem same_sessionEnd (cause : WsDisconnectCause) :
    Same url (hookedSessionEnd (healthHooks : Hooks E) cause)
      (hookedSessionEnd plainHooks cause) := by
  refine same_quiet (quiet_ask (by trivial)) fun _ => ?_
  refine same_hook (healthHooks_silent.ended cause) rfl (fun l r same => ?_) ?_
  · cases same
  · exact same_quiet ((quiet_decideReconnect cause).mono shared_of_decides)
      fun delay => same_await delay

theorem same_internalError (context error : String) :
    Same url (hookedInternalError (healthHooks : Hooks E) context error)
      (hookedInternalError plainHooks context error) := by
  refine same_hook (healthHooks_silent.failed context error) rfl (fun l r same => ?_)
    (same_sessionEnd _)
  cases same

theorem same_sent : Same url (hookedSent (healthHooks : Hooks E)) (hookedSent plainHooks) := by
  refine same_hook healthHooks_silent.sent rfl (fun l r same => ?_) (agrees_pure _)
  cases same

theorem same_await_plain (delay : Option Duration) :
    Same url (awaitReconnect delay : Managed E Flow) (awaitReconnect delay) := by
  cases delay with
  | none => exact agrees_pure _
  | some delay =>
    refine same_quiet ((quiet_wait delay).mono shared_of_waits) fun retry => ?_
    cases retry with
    | true => exact same_bind (calls_modify _) fun _ => agrees_pure _
    | false => exact agrees_pure _

theorem same_openFailed (context : String) (error : WebSocketError) :
    Same url (hookedOpenFailed (healthHooks : Hooks E) context error)
      (hookedOpenFailed plainHooks context error) := by
  refine same_hook (healthHooks_silent.failed context error.display) rfl (fun l r same => ?_) ?_
  · cases same
  · refine same_quiet ((quiet_decideReconnect _).mono shared_of_decides) fun delay => ?_
    exact same_quiet (quiet_ask (by trivial)) fun _ => same_await_plain delay

theorem same_enterSession :
    Same url (hookedEnterSession (healthHooks : Hooks E)) (hookedEnterSession plainHooks) := by
  refine same_hook healthHooks_silent.enterSession rfl (fun l r same => ?_) (agrees_pure _)
  cases same

theorem same_replay :
    Same url (hookedReplay (healthHooks : Hooks E)) (hookedReplay plainHooks) := by
  refine same_quiet (quiet_handler trivial) fun mode => same_bind (calls_modify _) fun _ => ?_
  cases mode with
  | publicSession =>
    refine same_quiet (quiet_replaySubscriptions.mono shared_of_replays) fun result => ?_
    cases result with
    | error error => exact same_openFailed _ error
    | ok _ => exact same_enterSession
  | authGated => exact same_enterSession

theorem same_auth : Same url (hookedAuth (healthHooks : Hooks E)) (hookedAuth plainHooks) := by
  refine same_quiet (quiet_handler trivial) fun payload => ?_
  cases payload with
  | none => exact same_replay
  | some payload =>
    refine same_quiet ((quiet_sendPayload _ payload).mono (shared_of_sends _)) fun result => ?_
    cases result with
    | error error => exact same_openFailed _ error
    | ok _ => exact same_replay

theorem same_opened :
    Same url (hookedOpened (healthHooks : Hooks E)) (hookedOpened plainHooks) := by
  refine same_hook healthHooks_silent.connected rfl (fun l r same => ?_) ?_
  · cases same
  refine same_quiet (quiet_ask (by trivial)) fun _ => ?_
  refine same_quiet (quiet_ask (by trivial)) fun _ => ?_
  refine same_quiet (quiet_handler trivial) fun _ => same_quiet (quiet_handler trivial) fun _ => ?_
  refine same_quiet Proc.Quiet.get fun l => same_quiet (quiet_handler trivial) fun message => ?_
  cases message with
  | none => exact same_auth
  | some message => exact same_quiet (quiet_handler trivial) fun _ => same_auth

theorem same_connect :
    Same url (hookedConnect (healthHooks : Hooks E) url) (hookedConnect plainHooks url) := by
  refine same_quiet (quiet_ask (by trivial)) fun _ => ?_
  refine same_hook healthHooks_silent.attempt rfl (fun l r same => ?_) ?_
  · cases same
  refine same_quiet (quiet_ask (by trivial)) fun result => ?_
  cases result with
  | ok _ => exact same_opened
  | error error =>
    refine same_hook (healthHooks_silent.failed _ _) rfl (fun l r same => ?_) ?_
    · cases same
    refine same_quiet (quiet_ask (by trivial)) fun _ => ?_
    exact same_quiet ((quiet_decideReconnect _).mono shared_of_decides)
      fun delay => same_await_plain delay

theorem same_data (command : ManagedWsCommand E.Subscription) :
    Same url (do
      if !(← get).sessionAuthenticated && commandRequiresAuth command then
        modify fun l => { l with pendingAuthCommands := l.pendingAuthCommands ++ [command] }
        pure (.inl .session)
      else
        match ← applyCommand command with
        | .error error => hookedInternalError (healthHooks : Hooks E) "command" error.display
        | .ok () => hookedSent healthHooks) (do
      if !(← get).sessionAuthenticated && commandRequiresAuth command then
        modify fun l => { l with pendingAuthCommands := l.pendingAuthCommands ++ [command] }
        pure (.inl .session)
      else
        match ← applyCommand command with
        | .error error => hookedInternalError plainHooks "command" error.display
        | .ok () => hookedSent plainHooks) := by
  refine same_quiet Proc.Quiet.get fun l => ?_
  by_cases held : (!l.sessionAuthenticated && commandRequiresAuth command) = true
  · rw [if_pos held, if_pos held]
    exact same_bind (calls_modify _) fun _ => agrees_pure _
  · rw [if_neg held, if_neg held]
    refine same_quiet ((quiet_applyCommand command).mono shared_of_hands) fun result => ?_
    cases result with
    | error error => exact same_internalError _ _
    | ok _ => exact same_sent

theorem same_return : Same url (sessionReturn : Managed E Flow) sessionReturn :=
  same_quiet (quiet_ask (by trivial)) fun _ => agrees_pure _

theorem same_command (received : Option (ManagedWsCommand E.Subscription)) :
    Same url (hookedCommand healthHooks received) (hookedCommand plainHooks received) := by
  match received with
  | none => exact same_return
  | some .shutdown => exact same_return
  | some (.forceReconnect reason) => exact same_sessionEnd _
  | some (.send payload) => exact same_data _
  | some (.updateSubscriptions action) => exact same_data _

theorem shared_flush (queue : List (ManagedWsCommand E.Subscription)) :
    Calls Shared (applyQueued queue : Managed E _) := by
  induction queue with
  | nil => exact calls_of_quiet (Proc.Quiet.pure _)
  | cons command rest ih =>
    refine (calls_modify _).bind fun _ => ?_
    have apply := calls_of_quiet ((quiet_applyCommand command).mono shared_of_hands)
    refine apply.bind fun result => ?_
    cases result with
    | error error => exact calls_of_quiet (Proc.Quiet.pure _)
    | ok _ => exact ih

theorem same_authenticated :
    Same url (hookedAuthenticated (healthHooks : Hooks E)) (hookedAuthenticated plainHooks) := by
  refine same_bind (calls_modify _) fun _ => ?_
  refine same_quiet (quiet_replaySubscriptions.mono shared_of_replays) fun result => ?_
  cases result with
  | error error => exact same_internalError _ _
  | ok _ =>
    have flush : Calls Shared (applyPendingAuthCommands : Managed E _) :=
      (calls_of_quiet Proc.Quiet.get).bind fun l => shared_flush l.pendingAuthCommands
    refine same_bind flush fun result => ?_
    cases result with
    | error error => exact same_internalError _ _
    | ok _ => exact same_sent

theorem same_action (action : WsMessageAction E.Message) :
    Same url (hookedAction healthHooks action) (hookedAction plainHooks action) := by
  cases action with
  | «continue» => exact agrees_pure _
  | sessionAuthenticated => exact same_authenticated
  | send payload =>
    refine same_quiet ((quiet_sendPayload _ payload).mono (shared_of_sends _)) fun result => ?_
    cases result with
    | error error => exact same_internalError _ _
    | ok _ => exact same_sent
  | process message =>
    refine same_quiet (quiet_handler trivial) fun result => ?_
    cases result with
    | error error => exact same_internalError _ _
    | ok _ => exact agrees_pure _
  | reconnect reason => exact same_sessionEnd _
  | shutdown => exact same_return

theorem same_parse (frame : WsFrame) :
    Same url (hookedParse (healthHooks : Hooks E) frame) (hookedParse plainHooks frame) := by
  refine same_quiet (quiet_handler trivial) fun outcome => ?_
  match outcome with
  | .ok (.message action) => exact same_action action
  | .ok (.serverError code message data) =>
    refine same_hook (healthHooks_silent.serverError code message) rfl (fun l r same => ?_) ?_
    · cases same
    refine same_quiet (quiet_handler trivial) fun action => ?_
    cases action with
    | «continue» => exact agrees_pure _
    | reconnect => exact same_sessionEnd _
    | fatal => exact same_sessionEnd _
  | .error error =>
    refine same_hook (healthHooks_silent.failed _ _) rfl (fun l r same => ?_) (agrees_pure _)
    cases same

/-- An inert strategy claims no frame. -/
theorem same_intercept (frame : WsFrame) {f g : Verdict → Managed E Flow}
    (live : ∀ l r, g .pass l >>= endTurn ≠ .ret (.inr r)) (rest : Same url (f .pass) (g .pass)) :
    Same url (healthHooks.intercept frame >>= f) (plainHooks.intercept frame >>= g) := by
  intro l
  refine ⟨live l, ?_⟩
  rintro ⟨time, result⟩ inert
  cases (inert : result = .notPong)
  exact rest l

theorem same_frame (read : Option (Except WebSocketError WsFrame)) :
    Same url (hookedFrame (healthHooks : Hooks E) read) (hookedFrame plainHooks read) := by
  match read with
  | none => exact same_sessionEnd _
  | some (.error error) =>
    refine same_hook (healthHooks_silent.failed _ _) rfl (fun l r same => ?_) (same_sessionEnd _)
    cases same
  | some (.ok frame) =>
    refine same_hook healthHooks_silent.arrived rfl (fun l r same => ?_) ?_
    · cases same
    refine same_quiet (quiet_handler trivial) fun _ => same_intercept frame (fun l r same => ?_) ?_
    · cases same
    · exact same_parse frame

/-- A turn in which only the timer fired leads back to the session. -/
theorem tick_hidden (l : Locals E) :
    Covers healthErasure (Proc.turn (hookedLoop (plainHooks : Hooks E) url))
      (hookedTick healthHooks l >>= endTurn) (.ret (.inl (.session, l))) := by
  have live : ∀ r, (.ret (.inl (.session, l)) : Task E) ≠ .ret (.inr r) := fun r => nofun
  refine ⟨live, ?_⟩
  rintro ⟨_, stale⟩ inert
  cases (inert : stale = false)
  refine ⟨live, ?_⟩
  rintro ⟨_, stale⟩ inert
  cases (inert : stale = false)
  refine ⟨live, ?_⟩
  rintro ⟨_, created⟩ inert
  cases (inert : created = none)
  refine ⟨live, ?_⟩
  rintro ⟨_, interval⟩ _
  exact ⟨live, fun _ _ => rfl⟩

theorem select_fires (l : Locals E) (time : Instant) (arm : Arm E) :
    Fires (Proc.turn (hookedLoop (plainHooks : Hooks E) url)) (.ret (.inl (.session, l)))
      (event l .select time arm)
      ((match arm with
        | .command received => hookedCommand plainHooks received
        | .frame read => hookedFrame plainHooks read : Managed E Flow) l >>= endTurn) := by
  have fires : ∀ next : Stamped (Arm E) → Task E,
      Fires (Proc.turn (hookedLoop (plainHooks : Hooks E) url)) (.call (l, .select) next)
        (event l .select time arm) (next ⟨time, arm⟩) := fun next =>
    Fires.call (S := (managedSignature E).showing (Locals E)) (l, .select) next ⟨time, arm⟩
  refine .head ?_
  cases arm with
  | command received => exact fires _
  | frame read => exact fires _

theorem turns_agree (c : Head × Locals E) :
    Covers healthErasure (Proc.turn (hookedLoop (plainHooks : Hooks E) url))
      (Proc.turn (hookedLoop healthHooks url) c) (.ret (.inl c)) := by
  obtain ⟨head, l⟩ := c
  cases head with
  | connect =>
    have starts : ∀ r,
        Proc.turn (hookedLoop (plainHooks : Hooks E) url) (.connect, l) ≠ .ret r := by
      intro r same
      cases same
    exact covers_head starts (same_connect l)
  | session =>
    refine ⟨fun r => nofun, ?_⟩
    rintro ⟨time, arm⟩ _
    match arm with
    | none => exact tick_hidden l
    | some (.command received) =>
      exact ⟨hookedCommand plainHooks received l >>= endTurn, select_fires l time _,
        same_command received l⟩
    | some (.frame read) =>
      exact ⟨hookedFrame plainHooks read l >>= endTurn, select_fires l time _, same_frame read l⟩

theorem turns_prompt (c : Head × Locals E) :
    Prompt healthErasure (Proc.turn (hookedLoop healthHooks url) c) := by
  obtain ⟨head, l⟩ := c
  cases head with
  | connect => exact ⟨(l, .storeStatus _), _, ⟨0, ()⟩, _, rfl, trivial, rfl⟩
  | session => exact ⟨(l, .selectWithPing), _, ⟨0, some (.frame none)⟩, _, rfl, trivial, rfl⟩

/-- The plain loop makes exactly the calls that are left of the runs of the
health-checked loop with an inert health object, and returns where it returns. -/
theorem loops_agree (url : String) :
    (∀ (t : List (ManagedEvent E)) (q : Task E), Run (managedLoop url .healthChecked) t q →
      (∀ e ∈ t, Inert e) →
      ∃ q', Run (managedLoop url .plain) (t.filterMap visible) q' ∧
        ∀ r, q = .ret (.inr r) ↔ q' = .ret (.inr r)) ∧
    (∀ (t' : List (ManagedEvent E)) (q' : Task E), Run (managedLoop url .plain) t' q' →
      ∃ t q, Run (managedLoop url .healthChecked) t q ∧ (∀ e ∈ t, Inert e) ∧
        t.filterMap visible = t' ∧ ∀ r, q = .ret (.inr r) ↔ q' = .ret (.inr r)) := by
  rw [managedLoop_eq, managedLoop_eq]
  have start : Covers healthErasure (Proc.turn (hookedLoop (plainHooks : Hooks E) url))
      (.ret (.inl (.connect, Locals.initial))) (.ret (.inl (.connect, Locals.initial))) := rfl
  constructor
  · intro t q run inert
    obtain ⟨q', run', covers⟩ := covers_reaches turns_agree run start inert
    exact ⟨q', run', covers_returned covers⟩
  · intro t' q' run'
    obtain ⟨t, q, run, inert, erased, covers⟩ := covers_follows turns_agree turns_prompt start run'
    exact ⟨t, q, run, inert, erased, covers_returned covers⟩

end LoopAgreement
