import SharedWs.ClientObligations
import SharedWs.CommandAccounting

/-!
# The decision about the next attempt

What the classification, the strategy, the handler and the reconnect wait have
said since the last `connect`. A `connect` needs a wait without a delay or one
that was answered, and a decision against a reconnect is final.
-/
namespace ReconnectCourse

open InteractionPrograms InteractionMonitors InteractionProgress WsFrames WsTypes ManagedOps
open ManagedLoop HookedLoop LoopOutline ManagedBlocks ClientObligations CommandAccounting

variable {E : Endpoint}

inductive Course (E : Endpoint) where
  /-- There was no `connect` yet. -/
  | fresh
  /-- No disconnect was classified since the last `connect`. -/
  | attempted
  /-- A server error was answered with `Reconnect` or `Fatal`. -/
  | doomed
  /-- Classified as `BackoffReconnect`. -/
  | asked
  /-- `should_retry` was true. -/
  | granted
  /-- `reconnect_delay` has its result. -/
  | settled (delay : Option Duration)
  /-- The handler knows whether there will be a reconnect. -/
  | told (delay : Option Duration)
  /-- The wait of this length was answered, `none` by its timer. -/
  | waited (delay : Duration) (answer : Option (Option (ManagedWsCommand E.Subscription)))

namespace Course

def tell : Course E → Course E
  | .settled delay => .told delay
  | m => m

def after (m : Course E) : ManagedEvent E → Course E
  | ⟨(_, .connect _ _), _⟩ => .attempted
  | ⟨(_, .handler (.handleServerError _ _ _)), ⟨_, .reconnect⟩⟩
  | ⟨(_, .handler (.handleServerError _ _ _)), ⟨_, .fatal⟩⟩ => .doomed
  | ⟨(_, .handler (.classifyDisconnect _)), ⟨_, .abort⟩⟩ => .settled none
  | ⟨(_, .handler (.classifyDisconnect _)), ⟨_, .immediateReconnect⟩⟩ => .settled (some 0)
  | ⟨(_, .handler (.classifyDisconnect _)), ⟨_, .backoffReconnect⟩⟩ => .asked
  | ⟨(_, .reconnect .shouldRetry), ⟨_, true⟩⟩ => .granted
  | ⟨(_, .reconnect .shouldRetry), ⟨_, false⟩⟩ => .settled none
  | ⟨(_, .reconnect .nextDelay), ⟨_, delay⟩⟩ => .settled (some delay)
  | ⟨(_, .handler (.onConnectionDisconnected _ _)), _⟩ => m.tell
  | ⟨(_, .waitSelect delay), ⟨_, answer⟩⟩ => .waited delay answer
  | _ => m

/-- Nothing stands between this point and the next `connect`. -/
def Resumes : Course E → Prop
  | .told (some delay) => delay = 0
  | .waited _ none => True
  | .waited _ (some received) => isShutdown received = false
  | _ => False

/-- On a connection that has no decision yet. -/
def Leaving : Course E → Prop
  | .attempted | .doomed => True
  | _ => False

/-- The loop may return here. -/
def Over : Course E → Prop
  | .attempted | .told none | .waited _ (some _) => True
  | _ => False

end Course

def courseOf (t : List (ManagedEvent E)) : Course E := t.foldl Course.after .fresh

theorem courseOf_snoc (t : List (ManagedEvent E)) (e : ManagedEvent E) :
    courseOf (t ++ [e]) = (courseOf t).after e := List.foldl_append

/-- What a call of its kind needs. -/
def Fits (m : Course E) : Op E → Prop
  | .connect _ _ => m = .fresh ∨ m.Resumes
  | .handler (.classifyDisconnect _) => m.Leaving
  | .reconnect .shouldRetry => m = .asked
  | .reconnect .nextDelay => m = .granted
  | .reconnect .reset => m = .attempted
  | .handler (.onConnectionDisconnected _ will) => ∃ delay, m = .settled delay ∧ will = delay.isSome
  | .enterWait delay => m = .told (some delay)
  | .waitSelect delay => m = .told (some delay) ∧ delay ≠ 0
  | .select | .selectWithPing | .handler (.handleServerError _ _ _) => m = .attempted
  | _ => True

structure Permitted (m : Course E) (op : Op E) : Prop where
  fits : Fits m op
  asks : m = .asked → op = .reconnect .shouldRetry
  grants : m = .granted → op = .reconnect .nextDelay

def course : ManagedMonitor E (Course E) where
  step := Course.after
  rely := fun _ _ => True
  safe := fun m e => Permitted m e.op.2

/-- Calls with no effect on the course, whatever they answer. -/
def Idle : Op E → Prop
  | .connect _ _ | .waitSelect _ => False
  | .handler (.classifyDisconnect _) | .handler (.onConnectionDisconnected _ _)
  | .handler (.handleServerError _ _ _) => False
  | .reconnect .shouldRetry | .reconnect .nextDelay => False
  | _ => True

theorem after_idle {op : Op E} (idle : Idle op) (m : Course E) (l : Locals E) (time : Instant)
    (val : op.Ans) : m.after (event l op time val) = m := by
  cases op with
  | handler call => cases call <;> first | exact idle.elim | rfl
  | reconnect call => cases call <;> first | exact idle.elim | rfl
  | connect | waitSelect => exact idle.elim
  | _ => rfl

/-- Calls that have no part in the decision. -/
def Neutral : Op E → Prop
  | .enterWait _ => False
  | op => Idle op

theorem idle_of_neutral (op : Op E) (neutral : Neutral op) : Idle op := by
  cases op <;> first | exact neutral.elim | exact neutral

/-- Neither of the two states in which the next call is fixed. -/
theorem permits {m : Course E} {op : Op E} (fits : Fits m op) (notAsked : m ≠ .asked)
    (notGranted : m ≠ .granted) : Permitted m op where
  fits := fits
  asks := fun asked => absurd asked notAsked
  grants := fun granted => absurd granted notGranted

theorem leaving_permits {m : Course E} (leaving : m.Leaving) {op : Op E} (fits : Fits m op) :
    Permitted m op := by
  refine permits fits ?_ ?_
  · rintro rfl
    exact leaving
  · rintro rfl
    exact leaving

/-- Between a `connect` and the end of its connection. -/
def Trying (_ : Locals E) (m : Course E) : Prop := m = .attempted

theorem keeps_trying : Keeps course Neutral (Trying (E := E)) := by
  rintro l m op time val neutral rfl _
  have fits : Fits (.attempted : Course E) op := by
    cases op with
    | handler call => cases call <;> first | exact neutral.elim | trivial
    | reconnect call => cases call <;> first | exact neutral.elim | rfl
    | connect | enterWait | waitSelect => exact neutral.elim
    | _ => trivial
  constructor
  · exact permits fits nofun nofun
  · exact after_idle (idle_of_neutral op neutral) _ l time val

theorem Trying.leaving {l : Locals E} {m : Course E} (trying : Trying l m) : m.Leaving := by
  obtain rfl := trying
  trivial

theorem trying_orElse {context : String} (result : Except WebSocketError Unit) (l : Locals E)
    (m : Course E) (trying : Trying l m) :
    orElse Trying (fun _ _ m => m.Leaving) context result l m :=
  orElse_of trying (fun _ => trying.leaving) context result

section Blocks
variable {l : Locals E} {m : Course E}

theorem ask_then (op : Op E) {α : Type} {f : op.Ans → Managed E α}
    {post : α → Locals E → Course E → Prop} (permitted : Permitted m op)
    (rest : ∀ time val, course.ensures post (f val) l (m.after (event l op time val))) :
    course.ensures post (ask op >>= f) l m :=
  ensures_ask_then course op fun time val _ => ⟨permitted, rest time val⟩

theorem delay_settles (cause : WsDisconnectCause) (time : Instant) (action : WsDisconnectAction) :
    course.ensures (fun delay _ m' => m' = .settled delay) (reconnectDelay action) l
      (m.after (event l (.handler (.classifyDisconnect cause)) time action)) := by
  cases action with
  | abort => rfl
  | immediateReconnect => rfl
  | backoffReconnect =>
    have asks : Permitted (.asked : Course E) (.reconnect .shouldRetry) :=
      ⟨rfl, fun _ => rfl, nofun⟩
    refine ask_then (.reconnect .shouldRetry) asks fun time retry => ?_
    cases retry with
    | false => rfl
    | true =>
      have grants : Permitted (.granted : Course E) (.reconnect .nextDelay) :=
        ⟨rfl, nofun, fun _ => rfl⟩
      exact ask_then (.reconnect .nextDelay) grants fun time delay => rfl

theorem notify_tells {delay : Option Duration} (cause : WsDisconnectCause)
    (settled : m = .settled delay) :
    course.ensures (fun _ _ m' => m' = .told delay) (notifyDisconnect cause delay.isSome) l m := by
  subst settled
  refine ask_then (.handler (.onConnectionDisconnected cause delay.isSome))
    (permits ⟨delay, rfl, rfl⟩ nofun nofun) fun time message => ?_
  cases message with
  | none => rfl
  | some message =>
    have permitted : Permitted (.told delay : Course E) (.handler (.handleMessage message)) :=
      permits trivial nofun nofun
    exact (ensures_handler course).mpr fun _ _ _ => ⟨permitted, rfl⟩

theorem decide_tells (cause : WsDisconnectCause) (leaving : m.Leaving) :
    course.ensures (fun delay _ m' => m' = .told delay) (decideReconnect cause) l m := by
  refine ask_then (.handler (.classifyDisconnect cause)) (leaving_permits leaving leaving) ?_
  intro time action
  refine course.ensures_seq (delay_settles cause time action) fun delay l' m' settled => ?_
  exact course.ensures_seq (notify_tells cause settled) fun _ _ _ told => told

theorem wait_resumes {delay : Duration} (told : m = .told (some delay)) :
    course.ensures (fun retry _ m' => if retry then m'.Resumes else m'.Over)
      (waitReconnectDelayOrShutdown delay) l m := by
  subst told
  refine ask_then (.enterWait delay) (permits rfl nofun nofun) fun _ _ => ?_
  by_cases zero : delay = 0
  · rw [if_pos zero]
    exact zero
  · rw [if_neg zero]
    have polls : Permitted (.told (some delay) : Course E) (.waitSelect delay) :=
      permits ⟨rfl, zero⟩ nofun nofun
    refine ask_then (.waitSelect delay) polls fun _ answer => ?_
    cases answer with
    | none => trivial
    | some received =>
      change if (!isShutdown received) = true then isShutdown received = false else True
      cases isShutdown received with
      | true => trivial
      | false => rfl

end Blocks

def courseJunctions : Junctions E (Course E) where
  top := fun _ m => m = .fresh ∨ m.Resumes
  dialing := fun _ m => m = .fresh ∨ m.Resumes
  refused := fun _ _ m => m.Leaving
  opened := Trying
  fresh := Trying
  greeted := Trying
  ready := Trying
  replaying := Trying
  broken := fun _ _ m => m.Leaving
  session := Trying
  ticked := Trying
  holding := fun _ => Trying
  reading := fun _ => Trying
  passed := fun _ => Trying
  parsed := fun _ => Trying
  judging := fun _ _ _ => Trying
  flushing := Trying
  stopping := Trying
  leaving := fun _ _ m => m.Leaving
  closing := fun _ _ m => m.Leaving
  down := fun delay _ m => m = .told delay
  done := fun _ m => m.Over

theorem neutral_of_health (op : Op E) (health : HealthOp op) : Neutral op := by
  cases op <;> trivial

theorem resuming_permits {m : Course E} (resumes : m = .fresh ∨ m.Resumes) {op : Op E}
    (fits : Fits m op) : Permitted m op := by
  refine permits fits ?_ ?_
  · rintro rfl
    simp [Course.Resumes] at resumes
  · rintro rfl
    simp [Course.Resumes] at resumes

theorem keeps_resuming :
    Keeps course HealthOp fun (_ : Locals E) (m : Course E) => m = .fresh ∨ m.Resumes := by
  intro l m op time val health resumes _
  have fits : Fits m op := by cases op <;> trivial
  constructor
  · exact resuming_permits resumes fits
  · change m.after _ = _ ∨ (m.after _).Resumes
    rw [after_idle (idle_of_neutral op (neutral_of_health op health))]
    exact resumes

/-- Calls that fit on every connection without a decision. -/
theorem keeps_leaving {allowed : Op E → Prop} (neutral : ∀ op, allowed op → Neutral op)
    (fits : ∀ m op, allowed op → m.Leaving → Fits m op) :
    Keeps course allowed fun (_ : Locals E) (m : Course E) => m.Leaving := by
  intro l m op time val permitted leaving _
  constructor
  · exact leaving_permits leaving (fits m op permitted leaving)
  · change (m.after _).Leaving
    rw [after_idle (idle_of_neutral op (neutral op permitted))]
    exact leaving

theorem course_steady : Steady course (courseJunctions (E := E)) := by
  have keeps := keeps_trying.mono (neutral_of_health (E := E))
  have leaves : Keeps course HealthOp fun (_ : Locals E) (m : Course E) => m.Leaving :=
    keeps_leaving neutral_of_health fun m op health _ => by cases op <;> trivial
  constructor
  case fresh => exact fun _ _ trying => trying
  case dialing => exact keeps_resuming
  case retrying => exact keeps_resuming
  case opened => exact keeps
  case session => exact keeps
  case reading => exact fun _ => keeps
  case judging => exact fun _ _ _ => keeps
  all_goals intros; exact leaves

theorem neutral_of_speaks (op : Op E) (speaks : Speaks op) : Neutral op := by
  cases op with
  | handler call => cases call <;> trivial
  | _ => trivial

theorem neutral_of_greets (op : Op E) (greets : Greets op) : Neutral op := by
  cases op with
  | handler call => cases call <;> trivial
  | reconnect call => cases call <;> trivial
  | _ => trivial

theorem neutral_of_pulses (op : Op E) (pulses : Pulses op) : Neutral op := by
  cases op with
  | handler call => cases call <;> trivial
  | _ => trivial

theorem neutral_of_selects (op : Op E) (selects : Selects op) : Neutral op := by
  cases op <;> trivial

theorem quiet_store (status : WsConnectionStatus) :
    Proc.Quiet Neutral (storeStatus status : Managed E Unit) :=
  quiet_ask trivial

theorem leaving_stores {l : Locals E} {m : Course E} (leaving : m.Leaving) :
    course.ensures (fun _ _ m' => m'.Leaving) (storeStatus .disconnected) l m := by
  have permitted : Permitted m (.storeStatus (wsStatusToU8 .disconnected)) :=
    leaving_permits leaving trivial
  exact ensures_of_ask course _ fun _ _ _ => ⟨permitted, leaving⟩

theorem trying_select {l : Locals E} {m : Course E} (arm : Option (Arm E)) (trying : Trying l m) :
    afterSelect Trying Trying (fun _ _ m => m.Leaving) (fun _ => Trying) (fun _ => Trying)
      arm l m := by
  match arm with
  | none => exact trying
  | some (.command none) => exact trying
  | some (.command (some .shutdown)) => exact trying
  | some (.command (some (.forceReconnect _))) => exact trying.leaving
  | some (.command (some (.send _))) => exact trying
  | some (.command (some (.updateSubscriptions _))) => exact trying
  | some (.frame none) => exact trying.leaving
  | some (.frame (some (.error _))) => exact trying.leaving
  | some (.frame (some (.ok _))) => exact trying

theorem apply_trying (command : ManagedWsCommand E.Subscription) (l : Locals E) (m : Course E)
    (trying : Trying l m) : course.ensures (fun _ => Trying) (applyCommand command) l m :=
  keeps_trying.ensures ((speaking_applyCommand command).mono neutral_of_speaks) trying

theorem course_outline (url : String) (kind : LoopKind) :
    Outline course (hooksOf kind) url (courseJunctions (E := E)) where
  hooks := course_steady.hooks (hooksOf_silent kind)
  start := by
    intro l m top
    have permitted : Permitted m (.storeStatus (wsStatusToU8 .connecting)) :=
      resuming_permits top trivial
    exact ensures_of_ask course _ fun _ _ _ => ⟨permitted, top⟩
  dial := by
    intro l m dialing
    refine (ensures_ask course).mpr fun time result _ => ⟨resuming_permits dialing dialing, ?_⟩
    exact trying_orElse result l _ rfl
  refuse := by
    intro cause l m trying
    exact course.ensures_seq (leaving_stores trying) fun _ _ _ leaving => decide_tells cause leaving
  greet := keeps_trying.ensures (quiet_greeting.mono neutral_of_greets)
  auth := keeps_trying.into (speaking_offerAuth.mono neutral_of_speaks) trying_orElse
  mode := by
    intro l m ready
    refine keeps_trying.into (quiet_handler (by trivial)) (fun mode l m trying => ?_) ready
    cases mode with
    | publicSession => exact trying
    | authGated => exact trying
  replay := keeps_trying.into (speaking_replaySubscriptions.mono neutral_of_speaks) trying_orElse
  fail := by
    intro cause l m trying
    refine course.ensures_seq (decide_tells cause trying) fun delay l m told => ?_
    subst told
    exact ask_then (.storeStatus (wsStatusToU8 .disconnected)) (permits trivial nofun nofun)
      fun _ _ => rfl
  select := by
    intro l m trying
    exact keeps_trying.into ((quiet_sessionSelect _).mono neutral_of_selects)
      (fun arm _ _ trying => trying_select arm trying) trying
  tick := by
    intro l m trying
    refine keeps_trying.into ((quiet_tick kind).mono neutral_of_pulses)
      (fun verdict l m trying => ?_) trying
    cases verdict with
    | none => exact trying
    | some cause => exact trying.leaving
  park := fun trying _ _ => trying
  apply := fun trying _ _ => course.ensures_mono trying_orElse (apply_trying _ _ _ trying)
  inbound := keeps_trying.ensures (quiet_handler (by trivial))
  intercept := by
    intro frame l m trying
    refine keeps_trying.into ((quiet_intercept kind frame).mono neutral_of_pulses)
      (fun verdict l m trying => ?_) trying
    cases verdict with
    | pass => exact trying
    | again => exact trying
    | leave cause => exact trying.leaving
  parse := by
    intro frame l m trying
    refine keeps_trying.into (quiet_handler (by trivial)) (fun outcome l m trying => ?_) trying
    match outcome with
    | .ok (.message action) => exact trying
    | .ok (.serverError code message data) => exact trying
    | .error error => exact trying
  judge := by
    intro code message data l m trying
    obtain rfl := (trying : m = .attempted)
    refine (ensures_handler course).mpr fun time action _ => ⟨permits rfl nofun nofun, ?_⟩
    cases action with
    | «continue» => rfl
    | reconnect => trivial
    | fatal => trivial
  proceed := id
  authenticate :=
    keeps_trying.into (speaking_replaySubscriptions.mono neutral_of_speaks) trying_orElse
  flush := fun trying =>
    course.ensures_mono trying_orElse (ensures_flush (fun _ _ _ kept => kept) apply_trying trying)
  reply := keeps_trying.into ((speaking_sendPayload _ _).mono neutral_of_speaks) trying_orElse
  process := by
    intro message l m trying
    refine keeps_trying.into (quiet_handler (by trivial)) (fun result l m trying => ?_) trying
    cases result with
    | ok _ => exact trying
    | error error => exact trying.leaving
  requested := fun {_ l _} trying => Trying.leaving (l := l) trying
  shutdown := id
  stop := by
    intro l m trying
    refine keeps_trying.into (quiet_store _) (fun _ l m trying => ?_) trying
    obtain rfl := trying
    trivial
  finish := leaving_stores
  decide := decide_tells _
  abort := by
    intro l m told
    obtain rfl := (told : m = .told none)
    trivial
  wait := by
    intro delay l m told
    refine course.ensures_mono (fun retry l m next => ?_) (wait_resumes told)
    cases retry with
    | true => exact Or.inr next
    | false => exact next

/-- What `reconnect_delay` makes of a classification before it asks the strategy. -/
def classified : WsDisconnectAction → Course E
  | .abort => .settled none
  | .immediateReconnect => .settled (some 0)
  | .backoffReconnect => .asked

def judged : WsErrorAction → Course E
  | .continue => .attempted
  | .reconnect | .fatal => .doomed

inductive Moves : Course E → ManagedEvent E → Course E → Prop
  | connect {m : Course E} {e : ManagedEvent E} (resumes : m = .fresh ∨ m.Resumes)
      (connects : Connects e) : Moves m e .attempted
  | judge (l : Locals E) (code : Option Int32) (message : String) (data : Option E.Value)
      (time : Instant) (action : WsErrorAction) :
      Moves .attempted (event l (.handler (.handleServerError code message data)) time action)
        (judged action)
  | classify {m : Course E} (leaving : m.Leaving) (l : Locals E) (cause : WsDisconnectCause)
      (time : Instant) (action : WsDisconnectAction) :
      Moves m (event l (.handler (.classifyDisconnect cause)) time action) (classified action)
  | ask (l : Locals E) (time : Instant) (retry : Bool) :
      Moves .asked (event l (.reconnect .shouldRetry) time retry)
        (if retry then .granted else .settled none)
  | delay (l : Locals E) (time : Instant) (delay : Duration) :
      Moves .granted (event l (.reconnect .nextDelay) time delay) (.settled (some delay))
  | tell (delay : Option Duration) (l : Locals E) (cause : WsDisconnectCause) (time : Instant)
      (message : Option E.Message) :
      Moves (.settled delay)
        (event l (.handler (.onConnectionDisconnected cause delay.isSome)) time message)
        (.told delay)
  | wait {delay : Duration} (nonzero : delay ≠ 0) (l : Locals E) (time : Instant)
      (answer : Option (Option (ManagedWsCommand E.Subscription))) :
      Moves (.told (some delay)) (event l (.waitSelect delay) time answer) (.waited delay answer)
  | idle {m : Course E} {e : ManagedEvent E} (idle : Idle e.op.2) (notAsked : m ≠ .asked)
      (notGranted : m ≠ .granted) : Moves m e m

theorem moves_of_permitted {m : Course E} {e : ManagedEvent E} (permitted : Permitted m e.op.2) :
    Moves m e (m.after e) := by
  obtain ⟨⟨l, op⟩, time, val⟩ := e
  by_cases idle : Idle op
  · have same : m.after ⟨(l, op), ⟨time, val⟩⟩ = m := after_idle idle m l time val
    rw [same]
    refine .idle idle ?_ ?_
    · intro asked
      rw [show op = _ from permitted.asks asked] at idle
      exact idle
    · intro granted
      rw [show op = _ from permitted.grants granted] at idle
      exact idle
  · match op, val with
    | .connect url buffers, val => exact .connect permitted.fits trivial
    | .handler (.handleServerError code message data), action =>
      obtain rfl : m = .attempted := permitted.fits
      cases action with
      | «continue» => exact .judge l code message data time .continue
      | reconnect => exact .judge l code message data time .reconnect
      | fatal => exact .judge l code message data time .fatal
    | .handler (.classifyDisconnect cause), action =>
      cases action with
      | abort => exact .classify permitted.fits l cause time .abort
      | immediateReconnect => exact .classify permitted.fits l cause time .immediateReconnect
      | backoffReconnect => exact .classify permitted.fits l cause time .backoffReconnect
    | .reconnect .shouldRetry, retry =>
      obtain rfl : m = .asked := permitted.fits
      cases retry with
      | false => exact .ask l time false
      | true => exact .ask l time true
    | .reconnect .nextDelay, delay =>
      obtain rfl : m = .granted := permitted.fits
      exact .delay l time delay
    | .handler (.onConnectionDisconnected cause will), message =>
      obtain ⟨delay, rfl, rfl⟩ := permitted.fits
      exact .tell delay l cause time message
    | .waitSelect delay, answer =>
      obtain ⟨rfl, nonzero⟩ := permitted.fits
      exact .wait nonzero l time answer
    | .handler .resetState, _ | .handler .onOpen, _ | .handler (.onConnectionOpened _), _
    | .handler .generateAuth, _ | .handler .sessionMode, _ | .handler (.onOutboundFrame _), _
    | .handler (.onInboundFrame _), _ | .handler (.parseFrame _), _
    | .handler (.handleMessage _), _ | .handler .initialSubscriptions, _
    | .handler (.updateSubscriptions _), _ | .handler (.serializeSubscription _), _
    | .reconnect .reset, _ | .storeStatus _, _ | .write _ _, _ | .monitor _, _ | .ping _, _
    | .select, _ | .selectWithPing, _ | .startPingSleep _, _ | .resetPingSleep _, _
    | .enterWait _, _ | .enterApply _, _ => exact absurd trivial idle

section Runs
variable {url : String} {kind : LoopKind} {t : List (ManagedEvent E)} {q : Task E}

theorem course_run (run : Run (hookedLoop (hooksOf kind) url) t q) :
    course.Along course.safe .fresh t ∧ course.wp courseJunctions.owes q (courseOf t) := by
  have relied : course.Along course.rely .fresh t := course.along_iff.mpr fun _ _ _ _ => trivial
  exact (course_outline url kind).run (Or.inl rfl) run relied

/-- Along a stretch of a run each call moves the course. -/
theorem safe_between {before mid after : List (ManagedEvent E)}
    (run : Run (hookedLoop (hooksOf kind) url) t q) (cut : t = before ++ mid ++ after) :
    course.Along course.safe (courseOf before) mid := by
  have safe := (course_run run).1
  rw [cut, List.append_assoc] at safe
  have rest := (course.along_append.mp safe).2
  exact (course.along_append.mp rest).1

/-- After its answer a wait is not polled again before the next `connect`. -/
theorem waited_stays {delay : Duration}
    {answer : Option (Option (ManagedWsCommand E.Subscription))} {s : List (ManagedEvent E)}
    (safe : course.Along course.safe (.waited delay answer) s)
    (pause : ∀ e ∈ s, ¬ Connects e) :
    course.run (.waited delay answer) s = .waited delay answer ∧
      ∀ e ∈ s, ∀ d, e.op.2 ≠ .waitSelect d := by
  induction s with
  | nil => exact ⟨rfl, List.forall_mem_nil _⟩
  | cons e s ih =>
    obtain ⟨paused, rest⟩ := List.forall_mem_cons.mp pause
    have moves := moves_of_permitted safe.1
    have tail := safe.2
    change course.Along course.safe (Course.after _ e) s at tail
    rw [Monitor.run_cons]
    change course.run (Course.after _ e) s = _ ∧ _
    generalize after : (Course.waited delay answer).after e = m at moves tail ⊢
    cases moves with
    | connect _ connects => exact absurd connects paused
    | classify leaving => exact leaving.elim
    | idle idle _ _ =>
      obtain ⟨same, none⟩ := ih tail rest
      refine ⟨same, List.forall_mem_cons.mpr ⟨fun d waits => ?_, none⟩⟩
      rw [waits] at idle
      exact idle

/-- `reconnect_delay` has returned this delay, and the wait has not been answered. -/
def Agreed (delay : Duration) (m : Course E) : Prop :=
  m = .settled (some delay) ∨ m = .told (some delay)

def Polls (e : ManagedEvent E) : Prop := ∃ delay, e.op.2 = .waitSelect delay

/-- The one poll of a wait, between calls that are no polls. -/
structure PolledOnce (delay : Duration)
    (answer : Option (Option (ManagedWsCommand E.Subscription))) (s : List (ManagedEvent E)) :
    Prop where
  cut : ∃ before l time after, s = before ++ event l (.waitSelect delay) time answer :: after ∧
    (∀ e ∈ before, ¬ Polls e) ∧ ∀ e ∈ after, ¬ Polls e

theorem agreed_polls {delay : Duration} {m : Course E} (agreed : Agreed delay m)
    {s : List (ManagedEvent E)} (safe : course.Along course.safe m s)
    (pause : ∀ e ∈ s, ¬ Connects e) :
    Agreed delay (course.run m s) ∨
      ∃ answer, course.run m s = .waited delay answer ∧ PolledOnce delay answer s := by
  induction s generalizing m with
  | nil => exact Or.inl agreed
  | cons e s ih =>
    obtain ⟨paused, rest⟩ := List.forall_mem_cons.mp pause
    have moves := moves_of_permitted safe.1
    have tail : course.Along course.safe (m.after e) s := safe.2
    change Agreed delay (course.run (m.after e) s) ∨ ∃ answer, course.run (m.after e) s = _ ∧ _
    generalize m.after e = m' at moves tail
    -- a call that does not answer the wait leaves the delay agreed
    have later : Agreed delay m' → ¬ Polls e → Agreed delay (course.run m' s) ∨
        ∃ answer, course.run m' s = .waited delay answer ∧ PolledOnce delay answer (e :: s) := by
      intro agreed quiet
      rcases ih agreed tail rest with still | ⟨answer, waited, before, l, time, after, cut, none⟩
      · exact Or.inl still
      · refine Or.inr ⟨answer, waited, e :: before, l, time, after, ?_, ?_, none.2⟩
        · rw [cut, List.cons_append]
        · exact List.forall_mem_cons.mpr ⟨quiet, none.1⟩
    cases moves with
    | connect _ connects => exact absurd connects paused
    | judge => exact absurd agreed (by simp [Agreed])
    | classify leaving =>
      rcases agreed with rfl | rfl
      · exact leaving.elim
      · exact leaving.elim
    | ask => exact absurd agreed (by simp [Agreed])
    | delay => exact absurd agreed (by simp [Agreed])
    | tell other l cause time message =>
      have same : other = some delay := by simpa [Agreed] using agreed
      exact later (Or.inr (congrArg Course.told same)) (by simp [Polls, event])
    | @wait other nonzero l time answer =>
      have same : other = delay := by simpa [Agreed] using agreed
      subst same
      obtain ⟨waited, none⟩ := waited_stays tail rest
      refine Or.inr ⟨answer, waited, [], l, time, s, rfl, List.forall_mem_nil _, ?_⟩
      rintro e listed ⟨d, polls⟩
      exact none e listed d polls
    | idle idle _ _ =>
      refine later agreed ?_
      rintro ⟨d, polls⟩
      rw [polls] at idle
      exact idle

/-- The timer of the wait fired, or it received `ForceReconnect`. -/
def honours (delay : Duration) : ManagedEvent E → Bool
  | ⟨(_, .waitSelect d), ⟨_, none⟩⟩ => d == delay
  | ⟨(_, .waitSelect d), ⟨_, some (some (.forceReconnect _))⟩⟩ => d == delay
  | _ => false

theorem not_polls {e : ManagedEvent E} (quiet : ¬ Polls e) (delay : Duration) :
    honours delay e = false ∧ ¬ LostInWait e := by
  obtain ⟨⟨l, op⟩, time, val⟩ := e
  cases op with
  | waitSelect d => exact absurd ⟨d, rfl⟩ quiet
  | _ => exact ⟨rfl, by simp [LostInWait, swallowed]⟩

/-- Only the poll itself can honour the delay or lose a command. -/
theorem PolledOnce.decides {delay : Duration}
    {answer : Option (Option (ManagedWsCommand E.Subscription))} {s : List (ManagedEvent E)}
    (once : PolledOnce delay answer s) : ∃ l time,
      ((∃ e ∈ s, honours delay e = true) ↔
        honours delay (event l (.waitSelect delay) time answer) = true) ∧
      ((∀ e ∈ s, ¬ LostInWait e) ↔ ¬ LostInWait (event l (.waitSelect delay) time answer)) := by
  obtain ⟨before, l, time, after, rfl, early, late⟩ := once
  refine ⟨l, time, ⟨?_, fun honoured => ?_⟩, ⟨fun none => ?_, ?_⟩⟩
  · rintro ⟨e, listed, honoured⟩
    rcases List.mem_append.mp listed with listed | listed
    · rw [(not_polls (early e listed) delay).1] at honoured
      cases honoured
    · rcases List.mem_cons.mp listed with rfl | listed
      · exact honoured
      · rw [(not_polls (late e listed) delay).1] at honoured
        cases honoured
  · exact ⟨_, List.mem_append_right before List.mem_cons_self, honoured⟩
  · exact none _ (List.mem_append_right before List.mem_cons_self)
  · intro kept e listed
    rcases List.mem_append.mp listed with listed | listed
    · exact (not_polls (early e listed) delay).2
    · rcases List.mem_cons.mp listed with rfl | listed
      · exact kept
      · exact (not_polls (late e listed) delay).2

/-- A poll that lets the loop go on honours the delay unless it took a data command. -/
theorem honours_iff {delay : Duration}
    {answer : Option (Option (ManagedWsCommand E.Subscription))}
    (resumes : (Course.waited delay answer : Course E).Resumes) (l : Locals E) (time : Instant) :
    honours delay (event l (.waitSelect delay) time answer) = true ↔
      ¬ LostInWait (event l (.waitSelect delay) time answer) := by
  match answer with
  | none => simp [honours, event, LostInWait, swallowed]
  | some none => cases resumes
  | some (some .shutdown) => cases resumes
  | some (some (.forceReconnect reason)) =>
    simp [honours, event, LostInWait, swallowed, commandRequiresAuth]
  | some (some (.send payload)) =>
    simp [honours, event, LostInWait, swallowed, commandRequiresAuth]
  | some (some (.updateSubscriptions action)) =>
    simp [honours, event, LostInWait, swallowed, commandRequiresAuth]

end Runs

/-- When `reconnect_delay` has returned a positive delay, the next `connect` comes
after its timer or a `ForceReconnect` exactly if the wait took no data command. -/
theorem delay_honoured_iff (url : String) (kind : LoopKind)
    {before mid after : List (ManagedEvent E)} {e : ManagedEvent E} {q : Task E}
    {delay : Duration} (run : Run (managedLoop url kind) (before ++ mid ++ e :: after) q)
    (agreed : courseOf before = .settled (some delay)) (positive : 0 < delay)
    (pause : ∀ d ∈ mid, ¬ Connects d) (connects : Connects e) :
    (∃ d ∈ mid, honours delay d = true) ↔ ∀ d ∈ mid, ¬ LostInWait d := by
  rw [managedLoop_eq] at run
  have safe := safe_between run rfl
  have last : Permitted (courseOf (before ++ mid)) e.op.2 := by
    have whole := (course_run run).1
    exact (course.along_append.mp whole).2.1
  have resumes : courseOf (before ++ mid) = .fresh ∨ (courseOf (before ++ mid)).Resumes := by
    obtain ⟨⟨l, op⟩, ans⟩ := e
    cases op with
    | connect url buffers => exact last.fits
    | _ => exact connects.elim
  have joined : courseOf (before ++ mid) = course.run (courseOf before) mid :=
    List.foldl_append
  rw [joined] at resumes
  rcases agreed_polls (Or.inl agreed) safe pause with still | ⟨answer, waited, once⟩
  · -- without an answer the loop would not be at a `connect`
    rcases still with same | same
    · simp [same, Course.Resumes] at resumes
    · have zero : delay = 0 := by simpa [same, Course.Resumes] using resumes
      exact absurd zero (Nat.ne_of_gt positive)
  · obtain ⟨l, time, honoured, lost⟩ := once.decides
    rw [waited] at resumes
    have goes : (Course.waited delay answer : Course E).Resumes := by simpa using resumes
    rw [honoured, lost]
    exact honours_iff goes l time

/-- Every `connect` is refused, and the wait is answered with `answer`. -/
def refusedThen (answer : Option (Option (ManagedWsCommand Unit))) :
    Nat → (op : Op bareEndpoint) → op.Ans
  | _, .connect _ _ => .error (.timeout "connect")
  | _, .waitSelect _ => answer
  | _, op => bareAnswer op

theorem timer_honours_delay :
    ∃ d ∈ (trial (managedLoop "ws://peer" .plain) (refusedThen none) 10).1.drop 6,
      honours 1 d = true := by
  let loop : Head → Managed bareEndpoint Flow := managedLoop "ws://peer" .plain
  let script := refusedThen none
  have cut : (trial loop script 11).1 =
      (trial loop script 6).1 ++ (trial loop script 10).1.drop 6 ++
      [event ⟨true, false, []⟩ (.connect "ws://peer" .default) 10 (.error (.timeout "connect"))] :=
    rfl
  have run := trial_run loop script 11
  rw [cut] at run
  exact (delay_honoured_iff "ws://peer" .plain run rfl Nat.one_pos (by decide) trivial).mpr
    (by decide)

theorem send_shortens_delay :
    ∃ (before mid : List (ManagedEvent bareEndpoint)) (e : ManagedEvent bareEndpoint)
      (q : Task bareEndpoint),
      Run (managedLoop "ws://peer" .plain) (before ++ mid ++ [e]) q ∧
      courseOf before = .settled (some (1 : Nat)) ∧ (∀ d ∈ mid, ¬ Connects d) ∧ Connects e ∧
      ¬ ∃ d ∈ mid, honours 1 d = true := by
  let loop : Head → Managed bareEndpoint Flow := managedLoop "ws://peer" .plain
  let script := refusedThen (some (some (.send ⟨#[7]⟩)))
  exact ⟨(trial loop script 6).1, (trial loop script 10).1.drop 6,
    event ⟨true, false, []⟩ (.connect "ws://peer" .default) 10 (.error (.timeout "connect")), _,
    trial_run loop script 11, rfl, by decide, trivial, by decide⟩

end ReconnectCourse
