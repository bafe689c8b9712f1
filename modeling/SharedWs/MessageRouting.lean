import Mathlib.Data.List.Induction
import SharedWs.ManagedBlocks

/-!
# The messages of a handler

A handler produces messages at three places: when a connection opens, when a frame is parsed as a
message to process, and when it is told of a disconnect. `handle_message` is called with each of
them once, as the very next call, and with nothing else. Only for the second kind does its result
matter, but none is ever skipped.
-/
namespace MessageRouting

open InteractionPrograms InteractionMonitors WsFrames WsTypes ManagedOps
open ManagedLoop HookedLoop LoopOutline ManagedBlocks

variable {E : Endpoint}

/-- The message that one call produces with its answer. -/
def producedOf : ManagedEvent E → Option E.Message
  | ⟨(_, .handler (.onConnectionOpened _)), ⟨_, message⟩⟩ => message
  | ⟨(_, .handler (.onConnectionDisconnected _ _)), ⟨_, message⟩⟩ => message
  | ⟨(_, .handler (.parseFrame _)), ⟨_, .ok (.message (.process message))⟩⟩ => some message
  | _ => none

/-- The message that a call hands to `handle_message`. -/
def handledBy : Op E → Option E.Message
  | .handler (.handleMessage message) => some message
  | _ => none

def produced (t : List (ManagedEvent E)) : List E.Message := t.filterMap producedOf

def handled (t : List (ManagedEvent E)) : List E.Message := t.filterMap fun e => handledBy e.op.2

/-- The summary is the message that the last call produced. -/
def routing : ManagedMonitor E (Option E.Message) where
  step := fun _ e => producedOf e
  rely := fun _ _ => True
  safe := fun m e => handledBy e.op.2 = m

/-- Nothing is on its way. -/
def Idle (_ : Locals E) (m : Option E.Message) : Prop := m = none

/-- Calls that neither produce nor handle a message. -/
def Unconcerned : Op E → Prop
  | .handler (.onConnectionOpened _) | .handler (.onConnectionDisconnected _ _)
  | .handler (.parseFrame _) | .handler (.handleMessage _) => False
  | _ => True

section Blocks
variable {l : Locals E} {m : Option E.Message}

theorem keeps_unconcerned : Keeps (routing : ManagedMonitor E _) Unconcerned Idle := by
  intro l m op time val unconcerned idle _
  have silent : handledBy op = none ∧ producedOf (event l op time val) = none := by
    cases op with
    | handler call => cases call <;> first | exact unconcerned.elim | exact ⟨rfl, rfl⟩
    | _ => exact ⟨rfl, rfl⟩
  exact ⟨silent.1.trans idle.symm, silent.2⟩

/-- A block of such calls. -/
theorem idle_across {allowed : Op E → Prop} {α : Type} {x : Managed E α}
    (quiet : Proc.Quiet allowed x) (unconcerned : ∀ op, allowed op → Unconcerned op)
    {post : α → Locals E → Option E.Message → Prop}
    (enough : ∀ a l m, Idle l m → post a l m) (idle : Idle l m) : routing.ensures post x l m :=
  (keeps_unconcerned.mono unconcerned).into quiet enough idle

theorem idle_ask (op : Op E) (unconcerned : Unconcerned op) (idle : Idle l m) :
    routing.ensures (fun _ => Idle) (ask op) l m :=
  keeps_unconcerned.ensures (quiet_ask unconcerned) idle

theorem unconcerned_of_speaks (op : Op E) (speaks : Speaks op) : Unconcerned op := by
  cases op with
  | handler call => cases call <;> trivial
  | _ => trivial

theorem unconcerned_of_pulses (op : Op E) (pulses : Pulses op) : Unconcerned op := by
  cases op with
  | handler call => cases call <;> trivial
  | _ => trivial

theorem unconcerned_of_retries (op : Op E) (retries : Retries op) : Unconcerned op := by
  cases op <;> trivial

theorem unconcerned_of_waits (op : Op E) (waits : Waits op) : Unconcerned op := by
  cases op <;> trivial

theorem unconcerned_of_selects (op : Op E) (selects : Selects op) : Unconcerned op := by
  cases op <;> trivial

theorem unconcerned_of_health (op : Op E) (health : HealthOp op) : Unconcerned op := by
  cases op <;> trivial

/-- The message that was just produced, if any, is handled at once. -/
theorem handles_message {α : Type} {f : Except E.Error Unit → Managed E α}
    {post : α → Locals E → Option E.Message → Prop} (message : E.Message)
    (rest : ∀ result, routing.ensures post (f result) l none) :
    routing.ensures post (handler (.handleMessage message) >>= f) l (some message) :=
  ensures_ask_then routing (.handler (.handleMessage message)) fun _ result _ =>
    ⟨rfl, rest result⟩

theorem greeting_idle (idle : Idle l m) : routing.ensures (fun _ => Idle) greeting l m := by
  refine routing.ensures_seq (idle_ask (.reconnect .reset) trivial idle) fun _ l m idle => ?_
  refine routing.ensures_seq (idle_ask (.storeStatus _) trivial idle) fun _ l m idle => ?_
  refine routing.ensures_seq (idle_ask (.handler .resetState) trivial idle) fun _ l m idle => ?_
  refine routing.ensures_seq (idle_ask (.handler .onOpen) trivial idle) fun _ l m idle => ?_
  rw [Monitor.ensures_bind, Monitor.ensures_get]
  refine ensures_ask_then routing (.handler (.onConnectionOpened l.isReconnect))
    fun time message _ => ⟨idle.symm, ?_⟩
  cases message with
  | none => exact rfl
  | some message => exact handles_message message fun _ => rfl

theorem decideReconnect_idle (cause : WsDisconnectCause) (idle : Idle l m) :
    routing.ensures (fun _ => Idle) (decideReconnect cause) l m := by
  refine routing.ensures_seq (idle_ask (.handler (.classifyDisconnect cause)) trivial idle)
    fun action l m idle => ?_
  have chosen : routing.ensures (fun _ => Idle) (reconnectDelay action) l m :=
    idle_across (quiet_reconnectDelay action) unconcerned_of_retries (fun _ _ _ => id) idle
  refine routing.ensures_seq chosen fun delay l m idle => ?_
  have told : routing.ensures (fun _ => Idle) (notifyDisconnect cause delay.isSome) l m := by
    refine ensures_ask_then routing (.handler (.onConnectionDisconnected cause delay.isSome))
      fun time message _ => ⟨idle.symm, ?_⟩
    cases message with
    | none => exact rfl
    | some message =>
      exact ensures_of_ask routing (.handler (.handleMessage message)) fun _ _ _ => ⟨rfl, rfl⟩
  exact routing.ensures_seq told fun _ _ _ idle => idle

end Blocks

/-- Only an action `Process` carries a message. -/
def Parsed : WsMessageAction E.Message → Locals E → Option E.Message → Prop
  | .process message => fun _ m => m = some message
  | .continue | .sessionAuthenticated | .send _ | .reconnect _ | .shutdown => Idle

def routingJunctions : Junctions E (Option E.Message) where
  top := Idle
  dialing := Idle
  refused := fun _ => Idle
  opened := Idle
  fresh := Idle
  greeted := Idle
  ready := Idle
  replaying := Idle
  broken := fun _ => Idle
  session := Idle
  ticked := Idle
  holding := fun _ => Idle
  reading := fun _ => Idle
  passed := fun _ => Idle
  parsed := Parsed
  judging := fun _ _ _ => Idle
  flushing := Idle
  stopping := Idle
  leaving := fun _ => Idle
  closing := fun _ => Idle
  down := fun _ => Idle
  done := Idle

theorem idle_orElse {context : String} (result : Except WebSocketError Unit) (l : Locals E)
    (m : Option E.Message) (idle : Idle l m) :
    orElse Idle (fun _ => Idle) context result l m :=
  orElse_of idle (fun _ => idle) context result

theorem idle_afterSelect (arm : Option (Arm E)) (l : Locals E) (m : Option E.Message)
    (idle : Idle l m) :
    afterSelect Idle Idle (fun _ => Idle) (fun _ => Idle) (fun _ => Idle) arm l m := by
  unfold afterSelect
  split <;> exact idle

theorem routing_hooks (kind : LoopKind) :
    HookOutline (routing : ManagedMonitor E _) (hooksOf kind) routingJunctions := by
  have steady : Keeps (routing : ManagedMonitor E _) HealthOp Idle :=
    keeps_unconcerned.mono unconcerned_of_health
  have all : Steady (routing : ManagedMonitor E _) routingJunctions :=
    ⟨fun _ _ => id, steady, fun _ => steady, steady, fun _ => steady, steady, fun _ => steady,
      fun _ _ _ => steady, fun _ => steady, fun _ => steady, steady⟩
  exact all.hooks (hooksOf_silent kind)

theorem routing_outline (url : String) (kind : LoopKind) :
    Outline (routing : ManagedMonitor E _) (hooksOf kind) url routingJunctions where
  hooks := routing_hooks kind
  start := idle_ask (.storeStatus _) trivial
  dial := fun idle => routing.ensures_mono idle_orElse
    (idle_ask (.connect url .default) trivial idle)
  refuse := fun idle => routing.ensures_seq (idle_ask (.storeStatus _) trivial idle)
    fun _ _ _ idle => decideReconnect_idle _ idle
  greet := greeting_idle
  auth := idle_across speaking_offerAuth unconcerned_of_speaks idle_orElse
  mode := by
    intro l m idle
    refine routing.ensures_mono ?_ (idle_ask (.handler .sessionMode) trivial idle)
    intro mode l m idle
    split <;> exact idle
  replay := idle_across speaking_replaySubscriptions unconcerned_of_speaks idle_orElse
  fail := fun idle => routing.ensures_seq (decideReconnect_idle _ idle)
    fun _ _ _ idle => routing.ensures_seq (idle_ask (.storeStatus _) trivial idle)
      fun _ _ _ idle => idle
  select := idle_across (quiet_sessionSelect _) unconcerned_of_selects idle_afterSelect
  tick := idle_across (quiet_tick kind) unconcerned_of_pulses fun verdict _ _ idle => by
    cases verdict <;> exact idle
  park := fun idle _ _ => idle
  apply := fun idle _ _ =>
    idle_across (speaking_applyCommand _) unconcerned_of_speaks idle_orElse idle
  inbound := idle_ask (.handler (.onInboundFrame _)) trivial
  intercept := idle_across (quiet_intercept kind _) unconcerned_of_pulses fun verdict _ _ idle => by
    cases verdict <;> exact idle
  parse := by
    intro frame l m idle
    refine ensures_of_ask routing (.handler (.parseFrame frame)) fun time outcome _ =>
      ⟨idle.symm, ?_⟩
    match outcome with
    | .ok (.message action) => cases action <;> exact rfl
    | .ok (.serverError code message data) => exact rfl
    | .error error => exact rfl
  judge := by
    intro code message data l m idle
    refine routing.ensures_mono ?_
      (idle_ask (.handler (.handleServerError code message data)) trivial idle)
    intro action l m idle
    cases action <;> exact idle
  proceed := id
  authenticate := idle_across speaking_replaySubscriptions unconcerned_of_speaks idle_orElse
  flush := by
    intro l m idle
    refine routing.ensures_mono idle_orElse (ensures_flush (fun _ _ _ => id) ?_ idle)
    intro command l m idle
    exact idle_across (speaking_applyCommand command) unconcerned_of_speaks (fun _ _ _ => id) idle
  reply := idle_across (speaking_sendPayload .reply _) unconcerned_of_speaks idle_orElse
  process := by
    rintro message l m rfl
    refine ensures_of_ask routing (.handler (.handleMessage message)) fun time result _ =>
      ⟨rfl, ?_⟩
    cases result <;> exact rfl
  requested := id
  shutdown := id
  stop := idle_ask (.storeStatus _) trivial
  finish := idle_ask (.storeStatus _) trivial
  decide := decideReconnect_idle _
  abort := id
  wait := by
    intro delay l m idle
    refine idle_across (quiet_wait delay) unconcerned_of_waits ?_ idle
    intro retry l m idle
    split <;> exact idle

/-- The message on its way after the calls of `t`. -/
def onItsWay (t : List (ManagedEvent E)) : Option E.Message := t.getLast?.bind producedOf

theorem routing_run_eq (t : List (ManagedEvent E)) :
    (routing : ManagedMonitor E _).run none t = onItsWay t := by
  induction t using List.reverseRecOn with
  | nil => rfl
  | append_singleton t e _ => simp [Monitor.run, onItsWay, routing]

/-- Every message is handled, at once and in order, and `handle_message` gets nothing else. -/
structure Routed (t : List (ManagedEvent E)) (q : Task E) : Prop where
  next : ∀ before e after, t = before ++ e :: after → handledBy e.op.2 = onItsWay before
  inOrder : produced t = handled t ++ (onItsWay t).toList
  -- nothing is on its way at the top of a loop, nor when the task has returned
  settled : ∀ result, q = .ret result → produced t = handled t

theorem produced_eq {t : List (ManagedEvent E)}
    (next : ∀ before e after, t = before ++ e :: after → handledBy e.op.2 = onItsWay before) :
    produced t = handled t ++ (onItsWay t).toList := by
  refine Monitor.history_induction t rfl ?_ next
  intro t e _ handles earlier
  have last : onItsWay (t ++ [e]) = producedOf e := by simp [onItsWay]
  have now : handled (t ++ [e]) = handled t ++ (onItsWay t).toList := by
    rw [handled, filterMap_snoc, handles]
    rfl
  rw [last, now, produced, filterMap_snoc, ← earlier]
  rfl

section Runs
variable {url : String} {kind : LoopKind} {t : List (ManagedEvent E)} {q : Task E}

theorem routing_calls (run : Run (managedLoop url kind) t q) :
    (∀ before e after, t = before ++ e :: after → handledBy e.op.2 = onItsWay before) ∧
      ∀ result, q = .ret result → onItsWay t = none := by
  rw [managedLoop_eq] at run
  have start : (routingJunctions : Junctions E _).top Locals.initial none := rfl
  obtain ⟨safe, rest⟩ := (routing_outline url kind).run_rest (· = none) (fun _ _ => id)
    (fun _ _ => id) (fun _ _ => id) (fun _ _ => trivial) start run
  rw [routing_run_eq] at rest
  refine ⟨fun before e after cut => ?_, rest⟩
  have handles := (Monitor.along_iff _).mp safe before e after cut
  rwa [routing_run_eq] at handles

theorem messages_routed (run : Run (managedLoop url kind) t q) : Routed t q := by
  obtain ⟨next, rest⟩ := routing_calls run
  have inOrder := produced_eq next
  refine ⟨next, inOrder, fun result returned => ?_⟩
  rw [inOrder, rest result returned]
  exact List.append_nil _

end Runs

/-- The endpoint greets, turns one frame into a message, and has a last word. -/
def talkative : Nat → (op : Op bareEndpoint) → op.Ans
  | _, .handler (.onConnectionOpened _) => some (1 : Nat)
  | _, .handler (.onConnectionDisconnected _ _) => some (3 : Nat)
  | _, .handler (.handleMessage _) => .error ()
  | _, .handler (.parseFrame _) => .ok (.message (.process (2 : Nat)))
  | _, .handler (.classifyDisconnect _) => .abort
  | _, .select => .frame (some (.ok (.pong ByteArray.empty)))
  | _, op => bareAnswer op

def talkativeRun : List (ManagedEvent bareEndpoint) × Task bareEndpoint :=
  trial (managedLoop "ws://peer" .plain) talkative 19

theorem talkative_routed :
    Returned talkativeRun.2 ∧ produced talkativeRun.1 = [(1 : Nat), (2 : Nat), (3 : Nat)] ∧
      Routed talkativeRun.1 talkativeRun.2 :=
  ⟨⟨_, rfl⟩, rfl, messages_routed (trial_run _ talkative 19)⟩

end MessageRouting
