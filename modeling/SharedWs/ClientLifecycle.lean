import SharedWs.ManagedBlocks

/-!
# The life of a managed client

A summary of what has happened since the last `connect`, and the conditions it
puts on each call. They hold along every run of both loops.
-/
namespace ClientLifecycle

open InteractionPrograms InteractionMonitors WsFrames WsTypes ManagedOps
open ManagedLoop HookedLoop LoopOutline ManagedBlocks

variable {E : Endpoint}

/-- `status` and `attempts` cover the whole run, the rest only what follows the
last `connect`. -/
structure Life (E : Endpoint) where
  /-- What was last stored in the status cell. -/
  status : Option WsConnectionStatus
  /-- Calls of `connect`. -/
  attempts : Nat
  /-- The last `connect` succeeded. -/
  linked : Bool
  /-- Arguments of `on_connection_opened`. -/
  opens : List Bool
  /-- `will_reconnect` arguments of `on_connection_disconnected`. -/
  tells : List Bool
  /-- The message it returned, until a message is handled. -/
  note : Option E.Message
  /-- A session received `Shutdown`, a closed channel or `WsMessageAction::Shutdown`. -/
  stopped : Bool
  /-- A reconnect wait received `Shutdown` or a closed channel. -/
  halted : Bool
  /-- The delay last asked for, by the classification or by the strategy. -/
  offer : Option Duration
  /-- The delay of a wait that was entered and has not answered. -/
  entered : Option Duration

def Life.start : Life E := ⟨none, 0, false, [], [], none, false, false, none, none⟩

def Life.after (m : Life E) : ManagedEvent E → Life E
  | ⟨(_, .connect _ _), ⟨_, .ok ()⟩⟩ =>
    { Life.start with status := m.status, attempts := m.attempts + 1, linked := true }
  | ⟨(_, .connect _ _), ⟨_, .error _⟩⟩ =>
    { Life.start with status := m.status, attempts := m.attempts + 1 }
  | ⟨(_, .storeStatus raw), _⟩ => { m with status := some (wsStatusFromU8 raw) }
  | ⟨(_, .handler (.onConnectionOpened again)), _⟩ => { m with opens := m.opens ++ [again] }
  | ⟨(_, .handler (.onConnectionDisconnected _ will)), ⟨_, message⟩⟩ =>
    { m with tells := m.tells ++ [will], note := message }
  | ⟨(_, .handler (.handleMessage _)), _⟩ => { m with note := none }
  | ⟨(_, .handler (.parseFrame _)), ⟨_, .ok (.message .shutdown)⟩⟩ => { m with stopped := true }
  | ⟨(_, .select), ⟨_, .command received⟩⟩
  | ⟨(_, .selectWithPing), ⟨_, some (.command received)⟩⟩ =>
    { m with stopped := m.stopped || isShutdown received }
  | ⟨(_, .handler (.classifyDisconnect _)), ⟨_, .immediateReconnect⟩⟩ => { m with offer := some 0 }
  | ⟨(_, .reconnect .nextDelay), ⟨_, delay⟩⟩ => { m with offer := some delay }
  | ⟨(_, .enterWait delay), _⟩ => { m with entered := some delay }
  | ⟨(_, .waitSelect _), ⟨_, none⟩⟩ => { m with entered := none }
  | ⟨(_, .waitSelect _), ⟨_, some received⟩⟩ =>
    { m with entered := none, halted := m.halted || isShutdown received }
  | _ => m

def lifeOf (t : List (ManagedEvent E)) : Life E := t.foldl Life.after Life.start

/-- The order in which the statuses are stored. -/
def StatusStep : Option WsConnectionStatus → WsConnectionStatus → Prop
  | none, .connecting | some .disconnected, .connecting => True
  | some .connecting, .connected => True
  | some .connecting, .disconnected | some .connected, .disconnected => True
  | _, _ => False

/-- What a call of its kind needs. -/
def Fits (m : Life E) : Op E → Prop
  | .storeStatus raw => StatusStep m.status (wsStatusFromU8 raw)
  | .connect _ _ => m.status = some .connecting ∧
    (m.attempts ≠ 0 → m.tells = [true] ∧ m.opens.length = m.linked.toNat)
  | .handler (.onConnectionOpened again) =>
    m.linked = true ∧ m.opens = [] ∧ (again = false ↔ m.attempts = 1)
  | .handler (.onConnectionDisconnected _ _) =>
    m.attempts ≠ 0 ∧ m.tells = [] ∧ m.opens.length = m.linked.toNat
  | .enterWait delay =>
    m.status = some .disconnected ∧ m.tells = [true] ∧ m.entered = none ∧ m.offer = some delay
  | .waitSelect delay => m.status = some .disconnected ∧ m.entered = some delay ∧ delay ≠ 0
  | .select | .selectWithPing | .enterApply _ | .write _ _ => m.status = some .connected
  | .handler (.onInboundFrame _) | .handler (.parseFrame _) | .handler (.handleServerError _ _ _)
  | .handler (.updateSubscriptions _) => m.status = some .connected
  | _ => True

/-- What the life so far demands of the next call. -/
structure Permitted (m : Life E) (op : Op E) : Prop where
  fits : Fits m op
  /-- After `will_reconnect = false` nothing but the returned message is handled. -/
  last : m.tells = [false] → (∀ url buffers, op ≠ .connect url buffers) ∧
    ∀ call, op = .handler call → ∃ message, m.note = some message ∧ call = .handleMessage message
  /-- A wait with a delay polls the channel next. -/
  polls : ∀ delay, m.entered = some delay → delay ≠ 0 → op = .waitSelect delay
  /-- `Connecting` stored for a retry is followed by its `connect`. -/
  dials : m.status = some .connecting → m.tells = [true] →
    HealthOp op ∨ ∃ url buffers, op = .connect url buffers
  stopped : m.stopped = true → op = .storeStatus (wsStatusToU8 .disconnected)
  halted : m.halted = false

def life : ManagedMonitor E (Life E) where
  step := Life.after
  rely := fun _ _ => True
  safe := fun m e => Permitted m e.op.2

/-- Calls that leave the life as it is. -/
def Neutral : Op E → Prop
  | .connect _ _ | .storeStatus _ | .select | .selectWithPing | .reconnect .nextDelay => False
  | .enterWait _ | .waitSelect _ => False
  | .handler (.onConnectionOpened _) | .handler (.onConnectionDisconnected _ _)
  | .handler (.handleMessage _) | .handler (.parseFrame _)
  | .handler (.classifyDisconnect _) => False
  | _ => True

theorem after_neutral {op : Op E} (neutral : Neutral op) (m : Life E) (l : Locals E)
    (time : Instant) (val : op.Ans) : m.after (event l op time val) = m := by
  cases op with
  | handler call => cases call <;> first | exact neutral.elim | rfl
  | reconnect call => cases call <;> first | exact neutral.elim | rfl
  | connect | storeStatus | select | selectWithPing | enterWait | waitSelect => exact neutral.elim
  | _ => rfl

theorem fits_neutral {op : Op E} (neutral : Neutral op) {m : Life E}
    (connected : m.status = some .connected) : Fits m op := by
  cases op with
  | handler call => cases call <;> first | exact neutral.elim | exact connected | trivial
  | _ => first | exact neutral.elim | exact connected | trivial

/-- The loop is neither on its way out nor inside a wait with a delay. -/
structure Free (m : Life E) : Prop where
  stopped : m.stopped = false
  halted : m.halted = false
  entered : ∀ delay, m.entered = some delay → delay = 0
  tells : m.tells ≠ [false]

theorem Free.permits {m : Life E} (free : Free m) {op : Op E} (fits : Fits m op)
    (dials : m.status = some .connecting → m.tells = [true] →
      HealthOp op ∨ ∃ url buffers, op = .connect url buffers) : Permitted m op where
  fits := fits
  last := fun none => absurd none free.tells
  polls := fun delay entered nonzero => absurd (free.entered delay entered) nonzero
  dials := dials
  stopped := fun stopped => absurd stopped (by rw [free.stopped]; exact Bool.false_ne_true)
  halted := free.halted

/-- During an attempt: `count` calls of `on_connection_opened`, and nobody told
about an end yet. -/
structure Attempt (linked : Bool) (count : Nat) (status : WsConnectionStatus) (m : Life E) :
    Prop where
  attempts : m.attempts ≠ 0
  linked : m.linked = linked
  opens : m.opens.length = count
  tells : m.tells = []
  stopped : m.stopped = false
  halted : m.halted = false
  entered : m.entered = none
  status : m.status = some status

variable {linked : Bool} {count : Nat} {status : WsConnectionStatus}

theorem Attempt.free {m : Life E} (attempt : Attempt linked count status m) : Free m where
  stopped := attempt.stopped
  halted := attempt.halted
  entered := fun delay entered => by rw [attempt.entered] at entered; cases entered
  tells := by rw [attempt.tells]; exact List.cons_ne_nil _ _ |>.symm

theorem Attempt.permits {m : Life E} (attempt : Attempt linked count status m) {op : Op E}
    (fits : Fits m op) : Permitted m op := by
  refine attempt.free.permits fits fun _ retried => ?_
  rw [attempt.tells] at retried
  cases retried

/-- Connected: the set-up of a connection and its session. -/
def Up (_ : Locals E) (m : Life E) : Prop := Attempt true 1 .connected m

theorem keeps_up : Keeps life Neutral (Up (E := E)) := by
  intro l m op time val neutral up _
  refine ⟨up.permits (fits_neutral neutral up.status), ?_⟩
  change Up l (m.after _)
  rw [after_neutral neutral]
  exact up

section Steps
variable {α : Type} {post : α → Locals E → Life E → Prop} {l : Locals E} {m : Life E}

theorem ask_then (op : Op E) {f : op.Ans → Managed E α} (permitted : Permitted m op)
    (rest : ∀ time val, life.ensures post (f val) l (m.after (event l op time val))) :
    life.ensures post (ask op >>= f) l m :=
  ensures_ask_then life op fun time val _ => ⟨permitted, rest time val⟩

theorem neutral_then (op : Op E) (neutral : Neutral op) {f : op.Ans → Managed E α}
    (permitted : Permitted m op) (rest : ∀ val, life.ensures post (f val) l m) :
    life.ensures post (ask op >>= f) l m := by
  refine ask_then op permitted fun time val => ?_
  rw [after_neutral neutral]
  exact rest val

theorem store_then (next : WsConnectionStatus) {f : Unit → Managed E α}
    (permitted : Permitted m (.storeStatus (wsStatusToU8 next)))
    (rest : life.ensures post (f ()) l { m with status := some next }) :
    life.ensures post (storeStatus next >>= f) l m := by
  refine ask_then (.storeStatus (wsStatusToU8 next)) permitted fun time val => ?_
  change life.ensures post (f ()) l { m with status := some (wsStatusFromU8 (wsStatusToU8 next)) }
  rw [wsStatusFromU8_toU8]
  exact rest

theorem handler_then {call : HandlerCall E} {f : call.Res → Managed E α}
    (permitted : Permitted m (.handler call))
    (rest : ∀ time val, life.ensures post (f val) l (m.after (event l (.handler call) time val))) :
    life.ensures post (handler call >>= f) l m :=
  ask_then (.handler call) permitted rest

theorem neutral_handler {call : HandlerCall E} (neutral : Neutral (.handler call))
    {f : call.Res → Managed E α} (permitted : Permitted m (.handler call))
    (rest : ∀ val, life.ensures post (f val) l m) :
    life.ensures post (handler call >>= f) l m :=
  neutral_then (.handler call) neutral permitted rest

end Steps

theorem Attempt.store {m : Life E} (attempt : Attempt linked count status m)
    (next : WsConnectionStatus) :
    Attempt linked count next { m with status := some next } :=
  { attempt with status := rfl }

theorem fits_store {m : Life E} {next : WsConnectionStatus} (order : StatusStep m.status next) :
    Fits m (.storeStatus (wsStatusToU8 next)) := by
  change StatusStep m.status (wsStatusFromU8 (wsStatusToU8 next))
  rw [wsStatusFromU8_toU8]
  exact order

theorem Attempt.permits_store {m : Life E} (attempt : Attempt linked count status m)
    {next : WsConnectionStatus} (order : StatusStep (some status) next) :
    Permitted m (.storeStatus (wsStatusToU8 next)) :=
  attempt.permits (fits_store (attempt.status ▸ order))

theorem attempt_stores {l : Locals E} {m : Life E} (attempt : Attempt linked count status m)
    {next : WsConnectionStatus} (order : StatusStep (some status) next) :
    life.ensures (fun _ _ m' => Attempt linked count next m') (storeStatus next) l m := by
  refine (ensures_ask life).mpr fun time val _ => ⟨attempt.permits_store order, ?_⟩
  change Attempt linked count next { m with status := some (wsStatusFromU8 (wsStatusToU8 next)) }
  rw [wsStatusFromU8_toU8]
  exact attempt.store next

/-- `connect` has succeeded and the variable `is_reconnect` tells a first attempt. -/
def Linked (l : Locals E) (m : Life E) : Prop :=
  Attempt true 0 .connecting m ∧ (l.isReconnect = false ↔ m.attempts = 1)

theorem Attempt.opened {m : Life E} (attempt : Attempt true 0 .connected m) (again : Bool) :
    Attempt true 1 .connected { m with opens := m.opens ++ [again] } :=
  { attempt with opens := by rw [List.length_append, attempt.opens]; rfl }

/-- Handling a message only forgets the note. -/
theorem handle_message {P : Life E → Prop} (kept : ∀ m : Life E, P m → P { m with note := none })
    {message : E.Message} {l : Locals E} {m : Life E}
    (permitted : Permitted m (.handler (.handleMessage message))) (holds : P m) :
    life.ensures (fun _ _ m' => P m') (handler (.handleMessage message)) l m :=
  (ensures_handler life).mpr fun _ _ _ => ⟨permitted, kept m holds⟩

theorem Attempt.forget {m : Life E} (attempt : Attempt linked count status m) :
    Attempt linked count status ({ m with note := none } : Life E) :=
  { attempt with }

theorem greeting_opens {l : Locals E} {m : Life E} (linked : Linked l m) :
    life.ensures (fun _ => Up) greeting l m := by
  obtain ⟨attempt, first⟩ := linked
  refine neutral_then (.reconnect .reset) trivial (attempt.permits trivial) fun _ => ?_
  refine store_then .connected (attempt.permits_store trivial) ?_
  have connected := attempt.store .connected
  refine neutral_handler (by trivial) (connected.permits trivial) fun _ => ?_
  refine neutral_handler (by trivial) (connected.permits trivial) fun _ => ?_
  rw [Monitor.ensures_bind, Monitor.ensures_get]
  have fits : Fits { m with status := some .connected }
      (.handler (.onConnectionOpened l.isReconnect)) :=
    ⟨connected.linked, List.eq_nil_of_length_eq_zero connected.opens, first⟩
  refine handler_then (connected.permits fits) fun time message => ?_
  have up := connected.opened l.isReconnect
  cases message with
  | none => exact up
  | some message =>
    have permitted : Permitted _ (.handler (.handleMessage message)) := up.permits trivial
    exact life.ensures_seq (handle_message (fun _ up => up.forget) permitted up)
      fun _ _ _ up => up

/-- The handler was told about the end of the attempt. -/
structure Told (delay : Option Duration) (status : WsConnectionStatus) (m : Life E) : Prop where
  attempts : m.attempts ≠ 0
  opens : m.opens.length = m.linked.toNat
  tells : m.tells = [delay.isSome]
  stopped : m.stopped = false
  halted : m.halted = false
  offer : ∀ d, delay = some d → m.offer = some d
  entered : m.entered = none
  status : m.status = some status

variable {delay : Option Duration}

theorem Told.permits {m : Life E} (told : Told delay status m) (later : status ≠ .connecting)
    {op : Op E} (fits : Fits m op) (same : ∀ url buffers, op ≠ .connect url buffers)
    (note : ∀ call, op = .handler call →
      ∃ message, m.note = some message ∧ call = .handleMessage message) :
    Permitted m op where
  fits := fits
  last := fun _ => ⟨same, note⟩
  polls := fun delay entered => by
    rw [told.entered] at entered
    cases entered
  dials := fun connecting => by
    rw [told.status] at connecting
    exact absurd (Option.some.inj connecting) later
  stopped := fun stopped => absurd stopped (by rw [told.stopped]; exact Bool.false_ne_true)
  halted := told.halted

/-- What has been asked for is what the loop will wait. -/
def Offered (linked : Bool) (count : Nat) (status : WsConnectionStatus) (delay : Option Duration)
    (_ : Locals E) (m : Life E) : Prop :=
  Attempt linked count status m ∧ ∀ d, delay = some d → m.offer = some d

theorem Offered.tell {l : Locals E} {m : Life E}
    (offered : Offered linked linked.toNat status delay l m) (message : Option E.Message) :
    Told delay status
      ({ m with tells := m.tells ++ [delay.isSome], note := message } : Life E) where
  attempts := offered.1.attempts
  opens := by
    change m.opens.length = m.linked.toNat
    rw [offered.1.opens, offered.1.linked]
  tells := by rw [offered.1.tells]; rfl
  stopped := offered.1.stopped
  halted := offered.1.halted
  offer := offered.2
  entered := offered.1.entered
  status := offered.1.status

theorem notify_tells {l : Locals E} {m : Life E}
    (offered : Offered linked linked.toNat status delay l m) (later : status ≠ .connecting)
    (cause : WsDisconnectCause) :
    life.ensures (fun _ _ m' => Told delay status m') (notifyDisconnect cause delay.isSome)
      l m := by
  have fits : Fits m (.handler (.onConnectionDisconnected cause delay.isSome)) :=
    ⟨offered.1.attempts, offered.1.tells, by rw [offered.1.opens, offered.1.linked]⟩
  refine handler_then (offered.1.permits fits) fun time message => ?_
  have told := offered.tell message
  cases message with
  | none => exact told
  | some message =>
    have permitted : Permitted _ (.handler (.handleMessage message)) :=
      told.permits later trivial nofun fun call same => ⟨message, rfl, by cases same; rfl⟩
    exact handle_message (fun _ told => { told with }) permitted told

/-- The delay comes from the classification or from the strategy. -/
theorem delay_offered {l : Locals E} {m : Life E} (attempt : Attempt linked count status m)
    {action : WsDisconnectAction} (asked : action = .immediateReconnect → m.offer = some 0) :
    life.ensures (Offered linked count status) (reconnectDelay action) l m := by
  cases action with
  | abort => exact ⟨attempt, nofun⟩
  | immediateReconnect =>
    refine ⟨attempt, fun d same => ?_⟩
    rw [asked rfl]
    exact same
  | backoffReconnect =>
    refine neutral_then (.reconnect .shouldRetry) trivial (attempt.permits trivial) fun retry => ?_
    cases retry with
    | false => exact ⟨attempt, nofun⟩
    | true =>
      refine ask_then (.reconnect .nextDelay) (attempt.permits trivial) fun time delay => ?_
      exact ⟨{ attempt with }, fun d same => same⟩

/-- Classify, ask the strategy, tell the handler. -/
theorem decide_tells {l : Locals E} {m : Life E} (attempt : Attempt linked linked.toNat status m)
    (later : status ≠ .connecting) (cause : WsDisconnectCause) :
    life.ensures (fun delay _ m' => Told delay status m') (decideReconnect cause) l m := by
  refine handler_then (attempt.permits trivial) fun time action => ?_
  have classified : life.ensures (Offered linked linked.toNat status) (reconnectDelay action) l
      (m.after (event l (.handler (.classifyDisconnect cause)) time action)) := by
    cases action with
    | abort => exact delay_offered attempt nofun
    | backoffReconnect => exact delay_offered attempt nofun
    | immediateReconnect =>
      have asked : Attempt linked linked.toNat status ({ m with offer := some 0 } : Life E) :=
        { attempt with }
      exact delay_offered asked fun _ => rfl
  refine life.ensures_seq classified fun delay l' m' offered => ?_
  exact life.ensures_seq (notify_tells offered later cause) fun _ _ _ told => told

/-- Between two attempts, or before the first one. -/
structure Ready (l : Locals E) (m : Life E) : Prop where
  opens : m.opens.length = m.linked.toNat
  stopped : m.stopped = false
  halted : m.halted = false
  entered : ∀ delay, m.entered = some delay → delay = 0
  retry : (m.attempts = 0 ∧ m.tells = [] ∧ l.isReconnect = false) ∨
    (m.attempts ≠ 0 ∧ m.tells = [true] ∧ l.isReconnect = true)

theorem Ready.free {l : Locals E} {m : Life E} (ready : Ready l m) : Free m where
  stopped := ready.stopped
  halted := ready.halted
  entered := ready.entered
  tells := by
    rcases ready.retry with ⟨_, tells, _⟩ | ⟨_, tells, _⟩
    · rw [tells]
      exact List.cons_ne_nil _ _ |>.symm
    · rw [tells]
      decide

/-- The loop has returned, for one of three reasons. -/
structure Done (m : Life E) : Prop where
  status : m.status = some .disconnected
  opens : m.opens.length = m.linked.toNat
  reason : m.tells = [false] ∨ (m.tells = [true] ∧ m.halted = true) ∨
    (m.tells = [] ∧ m.stopped = true)

theorem Told.permits_enter {delay : Duration} {m : Life E}
    (told : Told (some delay) .disconnected m) : Permitted m (.enterWait delay) :=
  told.permits nofun ⟨told.status, told.tells, told.entered, told.offer delay rfl⟩ nofun nofun

theorem Told.permits_poll {delay : Duration} (nonzero : delay ≠ 0) {m : Life E}
    (told : Told (some delay) .disconnected m) :
    Permitted ({ m with entered := some delay } : Life E) (.waitSelect delay) where
  fits := ⟨told.status, rfl, nonzero⟩
  last := fun _ => ⟨nofun, nofun⟩
  polls := fun other entered _ => by rw [Option.some.inj entered]
  dials := fun connecting => by
    rw [show m.status = _ from told.status] at connecting
    cases connecting
  stopped := fun stopped =>
    absurd stopped (by rw [show m.stopped = _ from told.stopped]; exact Bool.false_ne_true)
  halted := told.halted

theorem Told.retries {delay : Duration} {m : Life E} (told : Told (some delay) .disconnected m)
    (l : Locals E) {entered : Option Duration} (zero : ∀ d, entered = some d → d = 0) :
    Ready { l with isReconnect := true } ({ m with entered := entered } : Life E) where
  opens := told.opens
  stopped := told.stopped
  halted := told.halted
  entered := zero
  retry := Or.inr ⟨told.attempts, told.tells, rfl⟩

/-- A wait ends in another attempt, or in a return if it was told to shut down. -/
theorem wait_ends {delay : Duration} {l : Locals E} {m : Life E}
    (told : Told (some delay) .disconnected m) :
    life.ensures (fun retry l' m' => if retry
      then Ready { l' with isReconnect := true } m' ∧ m'.status = some .disconnected
      else Done m') (waitReconnectDelayOrShutdown delay) l m := by
  refine ask_then (.enterWait delay) told.permits_enter fun _ _ => ?_
  by_cases zero : delay = 0
  · rw [if_pos zero]
    refine ⟨told.retries l fun d entered => ?_, told.status⟩
    rw [← Option.some.inj entered]
    exact zero
  · rw [if_neg zero]
    refine ask_then (.waitSelect delay) (told.permits_poll zero) fun _ answer => ?_
    have retries : Ready { l with isReconnect := true } ({ m with entered := none } : Life E) :=
      told.retries l fun d entered => nomatch entered
    cases answer with
    | none => exact ⟨retries, told.status⟩
    | some received =>
      change if (!isShutdown received) = true then Ready _ _ ∧ m.status = _ else Done _
      cases shut : isShutdown received with
      | true =>
        refine ⟨told.status, told.opens, Or.inr (Or.inl ⟨told.tells, ?_⟩)⟩
        change (m.halted || isShutdown received) = true
        rw [shut, Bool.or_true]
      | false =>
        refine ⟨{ retries with halted := ?_ }, told.status⟩
        change (m.halted || isShutdown received) = false
        rw [shut, told.halted]
        rfl

/-- The session was told to shut down: the status store and the return are left. -/
structure Stopping (m : Life E) : Prop where
  linked : m.linked = true
  opens : m.opens.length = 1
  tells : m.tells = []
  stopped : m.stopped = true
  halted : m.halted = false
  entered : m.entered = none
  status : m.status = some .connected

theorem Up.stop {l : Locals E} {m : Life E} (up : Up l m) :
    Stopping ({ m with stopped := true } : Life E) where
  linked := up.linked
  opens := up.opens
  tells := up.tells
  stopped := rfl
  halted := up.halted
  entered := up.entered
  status := up.status

def lifeJunctions : Junctions E (Life E) where
  top := fun l m => Ready l m ∧ StatusStep m.status .connecting
  dialing := fun l m => Ready l m ∧ m.status = some .connecting
  refused := fun _ _ m => Attempt false 0 .connecting m
  opened := Linked
  fresh := Linked
  greeted := Up
  ready := Up
  replaying := Up
  broken := fun _ => Up
  session := Up
  ticked := Up
  holding := fun _ => Up
  reading := fun _ => Up
  passed := fun _ => Up
  parsed := fun action l m => match action with
    | .shutdown => Stopping m
    | _ => Up l m
  judging := fun _ _ _ => Up
  flushing := Up
  stopping := fun _ m => Stopping m
  leaving := fun _ => Up
  closing := fun _ _ m => Attempt true 1 .disconnected m
  down := fun delay _ m => Told delay .disconnected m
  done := fun _ m => Done m

theorem health_neutral {op : Op E} (health : HealthOp op) : Neutral op := by
  cases op <;> trivial

/-- Calls of the health object fit everywhere except on the way out. -/
theorem keeps_health {P : Locals E → Life E → Prop} (free : ∀ l m, P l m → Free m) :
    Keeps life HealthOp P := by
  intro l m op time val health holds _
  have fits : Fits m op := by cases op <;> trivial
  refine ⟨(free l m holds).permits fits fun _ _ => Or.inl health, ?_⟩
  change P l (m.after _)
  rw [after_neutral (health_neutral health)]
  exact holds

theorem life_steady : Steady life (lifeJunctions (E := E)) where
  fresh := fun _ _ linked => linked
  dialing := keeps_health fun _ _ dialing => dialing.1.free
  refused := fun _ => keeps_health fun _ _ attempt => attempt.free
  opened := keeps_health fun _ _ linked => linked.1.free
  broken := fun _ => keeps_health fun _ _ up => up.free
  session := keeps_health fun _ _ up => up.free
  reading := fun _ => keeps_health fun _ _ up => up.free
  judging := fun _ _ _ => keeps_health fun _ _ up => up.free
  leaving := fun _ => keeps_health fun _ _ up => up.free
  closing := fun _ => keeps_health fun _ _ attempt => attempt.free
  retrying := keeps_health fun _ _ top => top.1.free

theorem up_orElse {context : String} (result : Except WebSocketError Unit) (l : Locals E)
    (m : Life E) (up : Up l m) : orElse Up (fun _ => Up) context result l m :=
  orElse_of up (fun _ => up) context result

theorem neutral_of_speaks (op : Op E) (speaks : Speaks op) : Neutral op := by
  cases op with
  | handler call => cases call <;> trivial
  | _ => trivial

theorem neutral_of_pulses (op : Op E) (pulses : Pulses op) : Neutral op := by
  cases op with
  | handler call => cases call <;> trivial
  | _ => trivial

theorem apply_up (command : ManagedWsCommand E.Subscription) (l : Locals E) (m : Life E)
    (up : Up l m) : life.ensures (fun _ => Up) (applyCommand command) l m :=
  keeps_up.ensures ((speaking_applyCommand command).mono neutral_of_speaks) up

/-- What a session select does to the life: a shutdown is booked, the rest is not. -/
theorem select_life {l : Locals E} {m : Life E} (up : Up l m) (time : Instant) (arm : Arm E) :
    afterSelect Up (fun _ m => Stopping m) (fun _ => Up) (fun _ => Up) (fun _ => Up) (some arm) l
      (m.after (event l .select time arm)) := by
  have going : Up l ({ m with stopped := m.stopped || false } : Life E) := by
    rw [Bool.or_false]
    exact up
  have stopping : Stopping ({ m with stopped := m.stopped || true } : Life E) := by
    rw [Bool.or_true]
    exact up.stop
  match arm with
  | .command none => exact stopping
  | .command (some .shutdown) => exact stopping
  | .command (some (.forceReconnect _)) => exact going
  | .command (some (.send _)) => exact going
  | .command (some (.updateSubscriptions _)) => exact going
  | .frame none => exact up
  | .frame (some (.error _)) => exact up
  | .frame (some (.ok _)) => exact up

theorem select_ensures (pinging : Bool) {l : Locals E} {m : Life E} (up : Up l m) :
    life.ensures (afterSelect Up (fun _ m => Stopping m) (fun _ => Up) (fun _ => Up) (fun _ => Up))
      (sessionSelect pinging) l m := by
  cases pinging with
  | true =>
    refine (ensures_ask life).mpr fun time answer _ => ⟨up.permits up.status, ?_⟩
    match answer with
    | none => exact up
    | some (.command received) => exact select_life up time (.command received)
    | some (.frame read) => exact select_life up time (.frame read)
  | false =>
    refine ask_then .select (up.permits up.status) fun time arm => ?_
    exact select_life up time arm

theorem parse_ensures (frame : WsFrame) {l : Locals E} {m : Life E} (up : Up l m) :
    life.ensures (fun outcome => match outcome with
      | .ok (.message action) => lifeJunctions.parsed action
      | .ok (.serverError _ _ _) => Up
      | .error _ => Up) (handler (.parseFrame frame)) l m := by
  refine (ensures_handler life).mpr fun time outcome _ => ⟨up.permits up.status, ?_⟩
  match outcome with
  | .error error => exact up
  | .ok (.serverError code message data) => exact up
  | .ok (.message .shutdown) => exact up.stop
  | .ok (.message .continue) => exact up
  | .ok (.message .sessionAuthenticated) => exact up
  | .ok (.message (.send payload)) => exact up
  | .ok (.message (.process message)) => exact up
  | .ok (.message (.reconnect reason)) => exact up

theorem Ready.permits_connect {l : Locals E} {m : Life E} (ready : Ready l m)
    (status : m.status = some .connecting) (url : String) (buffers : WebSocketBufferConfig) :
    Permitted m (.connect url buffers) := by
  refine ready.free.permits ⟨status, fun again => ?_⟩ fun _ _ => Or.inr ⟨url, buffers, rfl⟩
  rcases ready.retry with ⟨first, _, _⟩ | ⟨_, tells, _⟩
  · exact absurd first again
  · exact ⟨tells, ready.opens⟩

theorem dial_ensures (url : String) {l : Locals E} {m : Life E} (ready : Ready l m)
    (status : m.status = some .connecting) :
    life.ensures (orElse Linked (fun _ _ m => Attempt false 0 .connecting m) "connect")
      (ask (.connect url .default)) l m := by
  refine (ensures_ask life).mpr fun time result _ => ⟨ready.permits_connect status _ _, ?_⟩
  cases result with
  | error error => exact ⟨Nat.succ_ne_zero _, rfl, rfl, rfl, rfl, rfl, rfl, status⟩
  | ok _ =>
    refine ⟨⟨Nat.succ_ne_zero _, rfl, rfl, rfl, rfl, rfl, rfl, status⟩, ?_⟩
    change l.isReconnect = false ↔ m.attempts + 1 = 1
    rcases ready.retry with ⟨first, _, fresh⟩ | ⟨again, _, retried⟩
    · simp [first, fresh]
    · simp [again, retried]

theorem Stopping.permits_store {m : Life E} (stopping : Stopping m) :
    Permitted m (.storeStatus (wsStatusToU8 .disconnected)) where
  fits := fits_store (stopping.status ▸ trivial)
  last := fun none => by
    rw [stopping.tells] at none
    cases none
  polls := fun _ entered => by
    rw [stopping.entered] at entered
    cases entered
  dials := fun _ retried => by
    rw [stopping.tells] at retried
    cases retried
  stopped := fun _ => rfl
  halted := stopping.halted

theorem stop_ends {l : Locals E} {m : Life E} (stopping : Stopping m) :
    life.ensures (fun _ _ m' => Done m') (storeStatus .disconnected) l m := by
  refine (ensures_ask life).mpr fun time val _ => ⟨stopping.permits_store, rfl, ?_, ?_⟩
  · change m.opens.length = m.linked.toNat
    rw [stopping.opens, stopping.linked]
    rfl
  · exact Or.inr (Or.inr ⟨stopping.tells, stopping.stopped⟩)

theorem life_outline (url : String) (kind : LoopKind) :
    Outline life (hooksOf kind) url (lifeJunctions (E := E)) where
  hooks := life_steady.hooks (hooksOf_silent kind)
  start := by
    rintro l m ⟨ready, status⟩
    have permitted : Permitted m (.storeStatus (wsStatusToU8 .connecting)) := by
      refine ready.free.permits (fits_store status) fun connecting => ?_
      rw [connecting] at status
      exact status.elim
    refine (ensures_ask life).mpr fun time val _ => ⟨permitted, { ready with }, rfl⟩
  dial := fun dialing => dial_ensures url dialing.1 dialing.2
  refuse := fun attempt =>
    life.ensures_seq (attempt_stores attempt trivial) fun _ _ _ attempt =>
      decide_tells attempt nofun _
  greet := greeting_opens
  auth := keeps_up.into (speaking_offerAuth.mono neutral_of_speaks) up_orElse
  mode := by
    refine keeps_up.into (quiet_handler (by trivial)) fun mode l m up => ?_
    cases mode with
    | publicSession => exact up
    | authGated => exact up
  replay := keeps_up.into (speaking_replaySubscriptions.mono neutral_of_speaks) up_orElse
  fail := by
    intro cause l m up
    refine life.ensures_seq (decide_tells up nofun cause) fun delay l m told => ?_
    have permitted : Permitted m (.storeStatus (wsStatusToU8 .disconnected)) :=
      told.permits nofun (fits_store (told.status ▸ trivial)) nofun nofun
    exact store_then .disconnected permitted { told with status := rfl }
  select := select_ensures _
  tick := by
    refine keeps_up.into ((quiet_tick kind).mono neutral_of_pulses) fun verdict l m up => ?_
    cases verdict with
    | none => exact up
    | some cause => exact up
  park := fun up _ _ => up
  apply := fun up _ _ => life.ensures_mono up_orElse (apply_up _ _ _ up)
  inbound := keeps_up.into (quiet_handler (by trivial)) fun _ _ _ up => up
  intercept := by
    intro frame
    refine keeps_up.into ((quiet_intercept kind frame).mono neutral_of_pulses)
      fun verdict l m up => ?_
    cases verdict with
    | pass => exact up
    | again => exact up
    | leave cause => exact up
  parse := parse_ensures _
  judge := by
    refine keeps_up.into (quiet_handler (by trivial)) fun action l m up => ?_
    cases action with
    | reconnect => exact up
    | fatal => exact up
    | «continue» => exact up
  proceed := fun up => up
  authenticate := keeps_up.into (speaking_replaySubscriptions.mono neutral_of_speaks) up_orElse
  flush := fun up =>
    life.ensures_mono up_orElse (ensures_flush (fun _ _ _ up => up) apply_up up)
  reply := keeps_up.into ((speaking_sendPayload _ _).mono neutral_of_speaks) up_orElse
  process := by
    intro message l m up
    have permitted : Permitted m (.handler (.handleMessage message)) :=
      up.permits trivial
    refine life.ensures_mono (fun result l m up => ?_)
      (handle_message (fun _ up => up.forget) permitted up)
    cases result with
    | ok _ => exact up
    | error error => exact up
  requested := fun up => up
  shutdown := fun stopping => stopping
  stop := stop_ends
  finish := fun up => attempt_stores up trivial
  decide := fun attempt => decide_tells attempt nofun _
  abort := fun told => ⟨told.status, told.opens, Or.inl told.tells⟩
  wait := by
    intro delay l m told
    refine life.ensures_mono (fun retry l m ended => ?_) (wait_ends told)
    cases retry with
    | false => exact ended
    | true => exact ⟨ended.1, by rw [ended.2]; trivial⟩

end ClientLifecycle
