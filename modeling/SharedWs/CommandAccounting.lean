import Mathlib.Algebra.Order.BigOperators.Group.List
import Mathlib.Data.Multiset.OrderedMonoid
import Mathlib.Tactic.Abel
import SharedWs.ManagedBlocks

/-!
# What happens to the commands taken from the channel

Every `Send` or `UpdateSubscriptions` command that a loop has received is in one
of three places: handed to `apply_command`, in `pending_auth_commands`, or gone.
The third place is filled by `wait_reconnect_delay_or_shutdown` alone, which
ends the wait on any command and forgets it.
-/
namespace CommandAccounting

open InteractionPrograms InteractionMonitors WsFrames WsTypes ManagedOps ManagedLoop HookedLoop
open LoopOutline ManagedBlocks

variable {E : Endpoint}

/-- The data command, if the option holds one. -/
def data : Option (ManagedWsCommand E.Subscription) → Multiset (ManagedWsCommand E.Subscription)
  | some command => if commandRequiresAuth command then {command} else 0
  | none => 0

def armCommand : Arm E → Option (ManagedWsCommand E.Subscription)
  | .command received => received
  | .frame _ => none

/-- What a session `select!` takes out of `cmd_rx`. -/
def pulled : ManagedEvent E → Option (ManagedWsCommand E.Subscription)
  | ⟨(_, .select), ⟨_, arm⟩⟩ => armCommand arm
  | ⟨(_, .selectWithPing), ⟨_, some arm⟩⟩ => armCommand arm
  | _ => none

/-- What the reconnect wait takes out of `cmd_rx`. -/
def swallowed : ManagedEvent E → Option (ManagedWsCommand E.Subscription)
  | ⟨(_, .waitSelect _), ⟨_, some received⟩⟩ => received
  | _ => none

def handed : ManagedEvent E → Option (ManagedWsCommand E.Subscription)
  | ⟨(_, .enterApply command), _⟩ => some command
  | _ => none

@[simp] theorem data_none : data (none : Option (ManagedWsCommand E.Subscription)) = 0 := rfl

/-- The data commands taken out of `cmd_rx` along a trace. -/
def takenIn (t : List (ManagedEvent E)) : Multiset (ManagedWsCommand E.Subscription) :=
  (t.map fun e => data (pulled e) + data (swallowed e)).sum

/-- The data commands handed to `apply_command` along a trace. -/
def handedIn (t : List (ManagedEvent E)) : Multiset (ManagedWsCommand E.Subscription) :=
  (t.map fun e => data (handed e)).sum

theorem handedIn_snoc (t : List (ManagedEvent E)) (e : ManagedEvent E) :
    handedIn (t ++ [e]) = handedIn t + data (handed e) := by
  simp [handedIn]

/-- When the loop makes the call `e` after the trace `before`, every data
command it has taken was handed over exactly once, this call included, or is
in the queue exactly once. -/
def Accounted (before : List (ManagedEvent E)) (e : ManagedEvent E) : Prop :=
  takenIn before = handedIn (before ++ [e]) + e.op.1.pendingAuthCommands

/-- The same once the loop has returned with variables `l`. -/
def AccountedAtReturn (t : List (ManagedEvent E)) (l : Locals E) : Prop :=
  takenIn t = handedIn t + l.pendingAuthCommands

/-- A reconnect wait was ended by a data command. -/
def LostInWait (e : ManagedEvent E) : Prop :=
  (swallowed e).any commandRequiresAuth = true

instance (e : ManagedEvent E) : Decidable (LostInWait e) :=
  inferInstanceAs (Decidable (_ = true))

/-- The three places as one account, kept along the run. -/
structure Ledger (E : Endpoint) where
  taken : Multiset (ManagedWsCommand E.Subscription)
  handed : Multiset (ManagedWsCommand E.Subscription)
  lost : Multiset (ManagedWsCommand E.Subscription)

def record (m : Ledger E) (e : ManagedEvent E) : Ledger E where
  taken := m.taken + (data (pulled e) + data (swallowed e))
  handed := m.handed + data (handed e)
  lost := m.lost + data (swallowed e)

/-- The account balances with the commands `held` in hand, and the queue holds
data commands only. -/
structure Balanced (held : Multiset (ManagedWsCommand E.Subscription)) (l : Locals E)
    (m : Ledger E) : Prop where
  account : m.taken = m.handed + l.pendingAuthCommands + m.lost + held
  queue : ∀ command ∈ l.pendingAuthCommands, commandRequiresAuth command = true

/-- Each call finds the account balanced once the command it hands over is booked. -/
def accounting : ManagedMonitor E (Ledger E) where
  step := record
  rely := fun _ _ => True
  safe := fun m e => m.taken =
    m.handed + data (handed e) + e.op.1.pendingAuthCommands + m.lost

theorem accounting_run (t : List (ManagedEvent E)) (m : Ledger E) :
    accounting.run m t = ⟨m.taken + takenIn t, m.handed + handedIn t,
      m.lost + (t.map fun e => data (swallowed e)).sum⟩ := by
  induction t generalizing m with
  | nil => simp [takenIn, handedIn]
  | cons e t ih =>
    rw [Monitor.run_cons, ih]
    simp only [accounting, record, takenIn, handedIn, List.map_cons, List.sum_cons, add_assoc]

/-- Calls that move no command. -/
def Still : Op E → Prop
  | .select | .selectWithPing | .waitSelect _ | .enterApply _ => False
  | _ => True

theorem still_of_routine (op : Op E) (routine : Routine op) : Still op := by
  cases op <;> trivial

theorem record_still {op : Op E} (still : Still op) (m : Ledger E) (l : Locals E)
    (time : Instant) (val : op.Ans) :
    data (handed (event l op time val)) = 0 ∧ record m (event l op time val) = m := by
  cases op <;>
    first
    | exact still.elim
    | simp [record, event, handed, pulled, swallowed]

theorem Balanced.safe {l : Locals E} {m : Ledger E} (balanced : Balanced 0 l m) {op : Op E}
    {time : Instant} {val : op.Ans} (nothing : data (handed (event l op time val)) = 0) :
    accounting.safe m (event l op time val) := by
  change m.taken = m.handed + data (handed (event l op time val)) + _ + _
  rw [nothing, balanced.account, add_zero, add_zero]
  rfl

theorem keeps_balanced : Keeps accounting Still (Balanced (E := E) 0) := by
  intro l m op time val still balanced _
  obtain ⟨nothing, same⟩ := record_still still m l time val
  refine ⟨balanced.safe nothing, ?_⟩
  change Balanced 0 l (record m _)
  rw [same]
  exact balanced

theorem balanced_ask {op : Op E} (still : Still op) {l : Locals E} {m : Ledger E}
    (balanced : Balanced 0 l m) : accounting.ensures (fun _ => Balanced 0) (ask op) l m :=
  keeps_balanced.ensures (quiet_ask still) balanced

/-- A routine call keeps the account balanced, whatever it returns. -/
theorem keeps_routine : Keeps accounting Routine (Balanced (E := E) 0) :=
  keeps_balanced.mono still_of_routine

theorem balanced_orElse {context : String} (result : Except WebSocketError Unit) (l : Locals E)
    (m : Ledger E) (balanced : Balanced 0 l m) :
    orElse (Balanced 0) (fun _ => Balanced 0) context result l m :=
  orElse_of balanced (fun _ => balanced) context result

/-- `apply_command` on a command in hand: the mark books it, the rest is routine. -/
theorem apply_books {command : ManagedWsCommand E.Subscription} {l : Locals E} {m : Ledger E}
    (requires : commandRequiresAuth command = true) (holding : Balanced {command} l m) :
    accounting.ensures (fun _ => Balanced 0) (applyCommand command) l m := by
  have booked : m.taken = m.handed + data (some command) + l.pendingAuthCommands + m.lost := by
    rw [holding.account, data, if_pos requires]
    abel
  have marked : accounting.ensures (fun _ => Balanced 0) (ask (.enterApply command)) l m := by
    refine (ensures_ask accounting).mpr fun time val _ => ⟨booked, ?_, holding.queue⟩
    change m.taken + (0 + 0) = m.handed + data (some command) + l.pendingAuthCommands +
      (m.lost + 0) + 0
    simpa only [add_zero] using booked
  refine accounting.ensures_seq marked ?_
  intro _ l' m' balanced
  cases command with
  | send payload =>
    exact keeps_routine.ensures ((quiet_sendPayload _ payload).mono (routine_of_sends _)) balanced
  | updateSubscriptions action =>
    exact keeps_routine.ensures
      ((quiet_sendSubscriptionUpdates action).mono routine_of_applies) balanced
  | forceReconnect _ => exact balanced
  | shutdown => exact balanced

/-- Popping the queue takes a command in hand; a failure leaves the rest queued. -/
theorem flush_books {queue : List (ManagedWsCommand E.Subscription)} {l : Locals E}
    {m : Ledger E} (queued : l.pendingAuthCommands = queue) (balanced : Balanced 0 l m) :
    accounting.ensures (fun _ => Balanced 0) (applyQueued queue) l m := by
  induction queue generalizing l m with
  | nil => exact balanced
  | cons command rest ih =>
    have requires := balanced.queue
    rw [queued] at requires
    have holding : Balanced {command} { l with pendingAuthCommands := rest } m := by
      refine ⟨?_, fun c listed => requires c (List.mem_cons_of_mem _ listed)⟩
      rw [balanced.account, queued, ← Multiset.cons_coe, ← Multiset.singleton_add]
      abel
    have applied := accounting.ensures_frame (quiet_applyCommand command)
      (apply_books (requires command List.mem_cons_self) holding)
    rw [applyQueued, Monitor.ensures_bind, Monitor.ensures_modify]
    refine accounting.ensures_seq applied ?_
    rintro result l' m' ⟨rfl, balanced⟩
    cases result with
    | error _ => exact balanced
    | ok _ => exact ih rfl balanced

/-- The account balances at every junction; only `holding` has a command in hand. -/
def accountJunctions : Junctions E (Ledger E) where
  top := Balanced 0
  dialing := Balanced 0
  refused := fun _ => Balanced 0
  opened := Balanced 0
  fresh := Balanced 0
  greeted := Balanced 0
  ready := Balanced 0
  replaying := Balanced 0
  broken := fun _ => Balanced 0
  session := Balanced 0
  ticked := Balanced 0
  holding := fun command => Balanced {command}
  reading := fun _ => Balanced 0
  passed := fun _ => Balanced 0
  parsed := fun _ => Balanced 0
  judging := fun _ _ _ => Balanced 0
  flushing := Balanced 0
  stopping := Balanced 0
  leaving := fun _ => Balanced 0
  closing := fun _ => Balanced 0
  down := fun _ => Balanced 0
  done := Balanced 0

/-- A command just pulled is in hand if it carries data and settled otherwise. -/
theorem balanced_pulled {l : Locals E} {m : Ledger E} (balanced : Balanced 0 l m) (arm : Arm E) :
    afterSelect (Balanced 0) (Balanced 0) (fun _ => Balanced 0) (fun command => Balanced {command})
      (fun _ => Balanced 0) (some arm) l
      ⟨m.taken + data (armCommand arm), m.handed, m.lost⟩ := by
  have settled : Balanced 0 l ⟨m.taken + 0, m.handed, m.lost⟩ := by
    rw [add_zero]
    exact balanced
  have inHand : ∀ command, Balanced {command} l ⟨m.taken + {command}, m.handed, m.lost⟩ := by
    refine fun command => ⟨?_, balanced.queue⟩
    rw [balanced.account, add_zero]
  match arm with
  | .command none => exact settled
  | .command (some .shutdown) => exact settled
  | .command (some (.forceReconnect _)) => exact settled
  | .command (some (.send payload)) => exact inHand (.send payload)
  | .command (some (.updateSubscriptions action)) => exact inHand (.updateSubscriptions action)
  | .frame none => exact settled
  | .frame (some (.error _)) => exact settled
  | .frame (some (.ok _)) => exact settled

theorem select_pulls (pinging : Bool) {l : Locals E} {m : Ledger E} (balanced : Balanced 0 l m) :
    accounting.ensures (afterSelect (Balanced 0) (Balanced 0) (fun _ => Balanced 0)
      (fun command => Balanced {command}) (fun _ => Balanced 0)) (sessionSelect pinging) l m := by
  cases pinging with
  | true =>
    refine (ensures_ask accounting).mpr fun time val _ => ⟨balanced.safe rfl, ?_⟩
    cases val with
    | none =>
      simpa [accounting, record, event, pulled, swallowed, handed, afterSelect] using balanced
    | some arm => simpa [accounting, record, event, pulled, swallowed, handed]
        using balanced_pulled balanced arm
  | false =>
    refine accounting.ensures_bind.mpr ((ensures_ask accounting).mpr fun time arm _ =>
      ⟨balanced.safe rfl, ?_⟩)
    simpa [accounting, record, event, pulled, swallowed, handed] using balanced_pulled balanced arm

/-- The reconnect wait books every data command it takes as lost. -/
theorem wait_swallows (delay : Duration) {l : Locals E} {m : Ledger E}
    (balanced : Balanced 0 l m) :
    accounting.ensures (fun _ => Balanced 0) (waitReconnectDelayOrShutdown delay) l m := by
  have entered : accounting.ensures (fun _ => Balanced 0) (ask (.enterWait delay)) l m :=
    balanced_ask (by trivial) balanced
  refine accounting.ensures_seq entered ?_
  intro _ l' m' balanced
  by_cases zero : delay = 0
  · rw [if_pos zero]
    exact balanced
  · rw [if_neg zero]
    have waited : accounting.ensures (fun _ => Balanced 0) (ask (.waitSelect delay)) l' m' := by
      refine (ensures_ask accounting).mpr fun time val _ =>
        ⟨balanced.safe rfl, ?_, balanced.queue⟩
      simp only [accounting, record, event, pulled, handed, data_none, balanced.account]
      abel
    refine accounting.ensures_seq waited ?_
    intro answer l'' m'' balanced
    cases answer with
    | none => exact balanced
    | some received => exact balanced

theorem still_of_health (op : Op E) (health : HealthOp op) : Still op := by
  cases op <;> trivial

theorem account_steady : Steady accounting (accountJunctions (E := E)) := by
  have keeps := keeps_balanced.mono (still_of_health (E := E))
  constructor
  case fresh => exact fun _ _ balanced => balanced
  case retrying =>
    intro l m op time val health balanced relied
    obtain ⟨safe, kept⟩ :=
      keeps l m op time val health ⟨balanced.account, balanced.queue⟩ relied
    exact ⟨safe, kept.account, kept.queue⟩
  all_goals intros; exact keeps

theorem account_outline (url : String) (kind : LoopKind) :
    Outline accounting (hooksOf kind) url (accountJunctions (E := E)) where
  hooks := account_steady.hooks (hooksOf_silent kind)
  start := balanced_ask (by trivial)
  dial := fun dialing =>
    accounting.ensures_mono balanced_orElse (balanced_ask (by trivial) dialing)
  refuse := keeps_routine.ensures ((quiet_storeThenDecide _).mono routine_of_closes)
  greet := keeps_routine.ensures (quiet_greeting.mono routine_of_greets)
  auth := keeps_routine.into (quiet_offerAuth.mono routine_of_offersAuth) balanced_orElse
  mode := by
    intro l m ready
    refine keeps_routine.into (quiet_handler trivial) (fun mode l m balanced => ?_) ready
    cases mode with
    | publicSession => exact ⟨balanced.account, balanced.queue⟩
    | authGated => exact ⟨balanced.account, balanced.queue⟩
  replay := keeps_routine.into (quiet_replaySubscriptions.mono routine_of_replays) balanced_orElse
  fail := keeps_routine.ensures ((quiet_decideThenStore _).mono routine_of_closes)
  select := select_pulls _
  tick := by
    refine keeps_routine.into ((quiet_tick kind).mono routine_of_pulses)
      fun verdict l m balanced => ?_
    cases verdict with
    | none => exact balanced
    | some cause => exact balanced
  park := by
    intro command l m holding requires _
    refine ⟨?_, fun c listed => ?_⟩
    · rw [holding.account, ← Multiset.coe_add, Multiset.coe_singleton]
      abel
    · rcases List.mem_append.mp listed with earlier | here
      · exact holding.queue c earlier
      · rwa [List.mem_singleton.mp here]
  apply := fun holding requires _ =>
    accounting.ensures_mono balanced_orElse (apply_books requires holding)
  inbound := balanced_ask (by trivial)
  intercept := by
    intro frame l m reading
    refine keeps_routine.into ((quiet_intercept kind frame).mono routine_of_pulses)
      (fun verdict l m balanced => ?_) reading
    cases verdict with
    | pass => exact balanced
    | again => exact balanced
    | leave cause => exact balanced
  parse := by
    intro frame l m reading
    refine keeps_routine.into (quiet_handler trivial) (fun outcome l m balanced => ?_) reading
    match outcome with
    | .ok (.message action) => exact balanced
    | .ok (.serverError code message data) => exact balanced
    | .error error => exact balanced
  judge := by
    intro code message data l m judging
    refine keeps_routine.into (quiet_handler trivial) (fun action l m balanced => ?_) judging
    cases action with
    | «continue» => exact balanced
    | reconnect => exact balanced
    | fatal => exact balanced
  proceed := id
  authenticate := fun parsed =>
    keeps_routine.into (quiet_replaySubscriptions.mono routine_of_replays) balanced_orElse
      ⟨parsed.account, parsed.queue⟩
  flush := fun flushing => accounting.ensures_mono balanced_orElse (flush_books rfl flushing)
  reply := keeps_routine.into ((quiet_sendPayload _ _).mono (routine_of_sends _)) balanced_orElse
  process := by
    intro message l m parsed
    refine keeps_routine.into (quiet_handler trivial) (fun result l m balanced => ?_) parsed
    cases result with
    | ok _ => exact balanced
    | error error => exact balanced
  requested := id
  shutdown := id
  stop := balanced_ask (by trivial)
  finish := balanced_ask (by trivial)
  decide := keeps_routine.ensures (((quiet_decideReconnect _).mono closes_of_decides).mono
    routine_of_closes)
  abort := id
  wait := by
    intro delay l m down
    refine accounting.ensures_mono (fun retry l m balanced => ?_) (wait_swallows delay down)
    cases retry with
    | true => exact ⟨balanced.account, balanced.queue⟩
    | false => exact balanced

theorem swallowed_zero {t : List (ManagedEvent E)} :
    (t.map fun e => data (swallowed e)).sum = 0 ↔ ∀ d ∈ t, ¬ LostInWait d := by
  have one : ∀ e : ManagedEvent E, data (swallowed e) = 0 ↔ ¬ LostInWait e := by
    intro e
    cases received : swallowed e with
    | none => simp [LostInWait, received]
    | some command => simp [LostInWait, received, data]
  simp only [List.sum_eq_zero_iff, List.mem_map, forall_exists_index, and_imp,
    forall_apply_eq_imp_iff₂, one]

/-- Along every run of either loop, the commands taken so far are all accounted
for exactly as long as no reconnect wait has received a data command. -/
theorem commands_accounted_iff (url : String) (kind : LoopKind) {t : List (ManagedEvent E)}
    {q : Task E} (run : Run (managedLoop url kind) t q) :
    (∀ before e after, t = before ++ e :: after →
      (Accounted before e ↔ ∀ d ∈ before, ¬ LostInWait d)) ∧
    (∀ l, q = .ret (.inr ((), l)) → (AccountedAtReturn t l ↔ ∀ d ∈ t, ¬ LostInWait d)) := by
  rw [managedLoop_eq] at run
  have start : Balanced 0 (Locals.initial : Locals E) ⟨0, 0, 0⟩ :=
    ⟨rfl, fun _ listed => absurd listed List.not_mem_nil⟩
  have relied : accounting.Along accounting.rely ⟨0, 0, 0⟩ t :=
    accounting.along_iff.mpr fun _ _ _ _ => trivial
  obtain ⟨safe, owed⟩ := (account_outline url kind).run start run relied
  constructor
  · intro before e after cut
    have account := accounting.along_iff.mp safe before e after cut
    rw [accounting_run] at account
    simp only [accounting, zero_add] at account
    rw [← swallowed_zero, Accounted, handedIn_snoc, account, add_eq_left]
  · rintro l rfl
    have account := (owed : Balanced 0 l _).account
    rw [accounting_run] at account
    simp only [zero_add, add_zero] at account
    rw [← swallowed_zero, AccountedAtReturn, account, add_eq_left]

/-- Two commands arrive before the session is authenticated, and are applied when it is. -/
def sendBeforeAuth : Nat → (op : Op bareEndpoint) → op.Ans
  | 9, .select => .command (some (.send ⟨#[7]⟩))
  | 10, .select => .command (some (.send ⟨#[8]⟩))
  | 11, .select => .frame (some (.ok (.binary ⟨#[]⟩)))
  | _, .handler .sessionMode => .authGated
  | _, .handler (.parseFrame _) => .ok (.message .sessionAuthenticated)
  | _, op => bareAnswer op

/-- At the call in which the first is applied the second is still parked. -/
theorem parked_and_applied_accounted :
    ∃ (before : List (ManagedEvent bareEndpoint)) (e : ManagedEvent bareEndpoint),
      takenIn before = {.send ⟨#[7]⟩, .send ⟨#[8]⟩} ∧ handedIn before = {.send ⟨#[7]⟩} ∧
      e.op.1.pendingAuthCommands = [.send ⟨#[8]⟩] ∧ Accounted before e := by
  let loop : Head → Managed bareEndpoint Flow := managedLoop "ws://peer" .plain
  let applying : ManagedEvent bareEndpoint := event ⟨false, true, [.send ⟨#[8]⟩]⟩
    (.handler (.onOutboundFrame (intoWsMessage ⟨#[7]⟩))) 16 ()
  have run := trial_run loop sendBeforeAuth 17
  refine ⟨(trial loop sendBeforeAuth 16).1, applying, rfl, rfl, rfl, ?_⟩
  refine ((commands_accounted_iff "ws://peer" .plain run).1 _ _ [] rfl).mpr ?_
  decide

/-- The first connect fails, and a `Send` arrives while the loop waits to retry. -/
def sendDuringWait : Nat → (op : Op bareEndpoint) → op.Ans
  | _, .connect _ _ => .error (.timeout "connect")
  | _, .waitSelect _ => some (some (.send ⟨#[7]⟩))
  | _, op => bareAnswer op

theorem wait_loses_command :
    ∃ (before : List (ManagedEvent bareEndpoint)) (e : ManagedEvent bareEndpoint)
      (q : Task bareEndpoint),
      Run (managedLoop "ws://peer" .plain) (before ++ [e]) q ∧ ¬ Accounted before e := by
  let loop : Head → Managed bareEndpoint Flow := managedLoop "ws://peer" .plain
  refine ⟨(trial loop sendDuringWait 9).1,
    event { Locals.initial with isReconnect := true } (.storeStatus 0) 9 (),
    (trial loop sendDuringWait 10).2, trial_run loop sendDuringWait 10, fun accounted => ?_⟩
  have counts := congrArg Multiset.card accounted
  exact absurd counts (by decide)

end CommandAccounting
