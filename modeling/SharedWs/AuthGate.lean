import SharedWs.ManagedBlocks

/-!
# The authentication gate

What the loops may write on a connection, told from the calls made since the
last `connect`. The gate of the source is the variable `session_authenticated`;
the condition below does not mention it.
-/
namespace AuthGate

open InteractionPrograms InteractionMonitors WsFrames WsTypes ManagedOps ManagedLoop HookedLoop
open LoopOutline ManagedBlocks

variable {E : Endpoint}

/-- The calls since the last `connect`. -/
def follow (segment : List (ManagedEvent E)) : ManagedEvent E → List (ManagedEvent E)
  | ⟨(_, .connect _ _), _⟩ => []
  | e => segment ++ [e]

def connectionTrace (t : List (ManagedEvent E)) : List (ManagedEvent E) := t.foldl follow []

def readMode : ManagedEvent E → Option WsSessionMode
  | ⟨(_, .handler .sessionMode), ⟨_, mode⟩⟩ => some mode
  | _ => none

/-- What `session_mode()` was read as on this connection. -/
def modeOf (segment : List (ManagedEvent E)) : Option WsSessionMode := segment.findSome? readMode

/-- `parse_frame` returned `SessionAuthenticated`. -/
def authenticates : ManagedEvent E → Bool
  | ⟨(_, .handler (.parseFrame _)), ⟨_, .ok (.message .sessionAuthenticated)⟩⟩ => true
  | _ => false

/-- A frame handed to the loop by `generate_auth`, by `WsMessageAction::Send` or
by the ping strategy. -/
def offers : ManagedEvent E → Option WsFrame
  | ⟨(_, .handler .generateAuth), ⟨_, payload⟩⟩ => payload.map intoWsMessage
  | ⟨(_, .handler (.parseFrame _)), ⟨_, .ok (.message (.send payload))⟩⟩ =>
    some (intoWsMessage payload)
  | ⟨(_, .ping .createPing), ⟨_, created⟩⟩ => created
  | ⟨(_, .ping (.handleInbound _)), ⟨_, .reply frame⟩⟩ => some frame
  | _ => none

/-- The calls that write one subscription successfully. -/
def writtenOne (l : Locals E) (first second third : Instant) (subscription : E.Subscription)
    (payload : Bytes) : List (ManagedEvent E) :=
  [event l (.handler (.serializeSubscription subscription)) first payload,
    event l (.handler (.onOutboundFrame (intoWsMessage payload))) second (),
    event l (.write .replay (intoWsMessage payload)) third (.ok ())]

/-- The calls that write the given subscriptions one after the other. -/
inductive ReplayBlock : List E.Subscription → List (ManagedEvent E) → Prop where
  | done : ReplayBlock [] []
  | next {subscription : E.Subscription} {rest : List E.Subscription}
      {block : List (ManagedEvent E)} (l : Locals E) (first second third : Instant)
      (payload : Bytes) (written : ReplayBlock rest block) :
      ReplayBlock (subscription :: rest)
        (writtenOne l first second third subscription payload ++ block)

/-- Everything `initial_subscriptions()` returned was written successfully. -/
def Replayed (segment : List (ManagedEvent E)) : Prop :=
  ∃ before l time subscriptions block after,
    segment = before ++ event l (.handler .initialSubscriptions) time subscriptions ::
      (block ++ after) ∧ ReplayBlock subscriptions block

/-- The mode of this connection is public, or its peer has confirmed the session. -/
def Open (segment : List (ManagedEvent E)) : Prop :=
  modeOf segment = some .publicSession ∨ ∃ d ∈ segment, authenticates d = true

/-- What may be written after the given calls on a connection. -/
def WriteAllowed (segment : List (ManagedEvent E)) (site : WriteSite) (frame : WsFrame) : Prop :=
  (¬ Open segment → site ∈ [.auth, .reply, .ping, .pong] ∧ ∃ d ∈ segment, offers d = some frame) ∧
  (site ∈ [.command, .update] → Replayed segment)

/-- Every write is allowed by the calls of its connection before it, and the
mode of a connection is read once. -/
def gate : ManagedMonitor E (List (ManagedEvent E)) where
  step := follow
  rely := fun _ _ => True
  safe := fun segment e =>
    (∀ site frame, e.op.2 = .write site frame → WriteAllowed segment site frame) ∧
    (e.op.2 = .handler .sessionMode → modeOf segment = none)

/-- What is open or replayed stays so along a connection. -/
theorem Open.mono {segment longer : List (ManagedEvent E)} (grows : segment <+: longer)
    (opened : Open segment) : Open longer := by
  obtain ⟨more, rfl⟩ := grows
  rcases opened with mode | ⟨d, listed, authenticated⟩
  · refine Or.inl ?_
    rw [modeOf, List.findSome?_append, show segment.findSome? readMode = _ from mode]
    rfl
  · exact Or.inr ⟨d, List.mem_append_left _ listed, authenticated⟩

theorem Replayed.mono {segment longer : List (ManagedEvent E)} (grows : segment <+: longer)
    (replayed : Replayed segment) : Replayed longer := by
  obtain ⟨more, rfl⟩ := grows
  obtain ⟨before, l, time, subscriptions, block, after, cut, written⟩ := replayed
  refine ⟨before, l, time, subscriptions, block, after ++ more, ?_, written⟩
  rw [cut]
  simp only [List.append_assoc, List.cons_append]

/-- Calls on the same connection that do not read its mode. -/
def Within : Op E → Prop
  | .connect _ _ | .handler .sessionMode => False
  | _ => True

/-- Among these, the calls that write nothing. -/
def Writeless : Op E → Prop
  | .write _ _ => False
  | op => Within op

theorem within_of_writeless (op : Op E) (writeless : Writeless op) : Within op := by
  cases op <;> trivial

theorem follow_within {op : Op E} (within : Within op) (segment : List (ManagedEvent E))
    (l : Locals E) (time : Instant) (val : op.Ans) :
    follow segment (event l op time val) = segment ++ [event l op time val] := by
  cases op <;> first | exact within.elim | rfl

theorem within_modeless {op : Op E} (within : Within op) (l : Locals E) (time : Instant)
    (val : op.Ans) : readMode (event l op time val) = none := by
  match op with
  | .handler .sessionMode => exact within.elim
  | .handler .resetState | .handler .onOpen | .handler (.onConnectionOpened _)
  | .handler .generateAuth | .handler (.onOutboundFrame _) | .handler (.onInboundFrame _)
  | .handler (.parseFrame _) | .handler (.handleMessage _) | .handler (.handleServerError _ _ _)
  | .handler (.classifyDisconnect _) | .handler (.onConnectionDisconnected _ _)
  | .handler .initialSubscriptions | .handler (.updateSubscriptions _)
  | .handler (.serializeSubscription _) => rfl
  | .connect _ _ | .storeStatus _ | .write _ _ | .reconnect _ | .monitor _ | .ping _ | .select
  | .selectWithPing | .startPingSleep _ | .resetPingSleep _ | .enterWait _ | .waitSelect _
  | .enterApply _ => rfl

/-- A call within a connection is safe if it is no write or an allowed one. -/
theorem within_safe {op : Op E} (within : Within op) {segment : List (ManagedEvent E)}
    (allowed : ∀ site frame, op = .write site frame → WriteAllowed segment site frame)
    {l : Locals E} {time : Instant} {val : op.Ans} : gate.safe segment (event l op time val) := by
  refine ⟨allowed, fun same => ?_⟩
  change op = .handler .sessionMode at same
  subst same
  exact within.elim

theorem writeless_safe {op : Op E} (writeless : Writeless op) {segment : List (ManagedEvent E)}
    {l : Locals E} {time : Instant} {val : op.Ans} : gate.safe segment (event l op time val) := by
  refine within_safe (within_of_writeless op writeless) fun site frame same => ?_
  subst same
  exact writeless.elim

/-- An assertion that every call on the connection keeps, but for the mode. -/
def Lasting (P : Locals E → List (ManagedEvent E) → Prop) : Prop :=
  ∀ l segment e, readMode e = none → P l segment → P l (segment ++ [e])

theorem keeps_lasting {P : Locals E → List (ManagedEvent E) → Prop} (lasting : Lasting P) :
    Keeps gate Writeless P := by
  intro l segment op time val writeless holds _
  have within := within_of_writeless op writeless
  refine ⟨writeless_safe writeless, ?_⟩
  change P l (follow segment _)
  rw [follow_within within]
  exact lasting l segment _ (within_modeless within l time val) holds

/-- Once the connection is open and replayed every write is allowed. -/
theorem keeps_free :
    Keeps gate Within fun (_ : Locals E) segment => Open segment ∧ Replayed segment := by
  intro l segment op time val within free _
  have grows : segment <+: follow segment (event l op time val) := by
    rw [follow_within within]
    exact List.prefix_append _ _
  refine ⟨within_safe within fun site frame _ => ?_, free.1.mono grows, free.2.mono grows⟩
  exact ⟨fun shut => absurd free.1 shut, fun _ => free.2⟩

theorem write_then {site : WriteSite} {frame : WsFrame}
    {post : Except WebSocketError Unit → Locals E → List (ManagedEvent E) → Prop} {l : Locals E}
    {segment : List (ManagedEvent E)} (allowed : WriteAllowed segment site frame)
    (rest : ∀ time val, post val l (segment ++ [event l (.write site frame) time val])) :
    gate.ensures post (ask (.write site frame)) l segment := by
  refine (ensures_ask gate).mpr fun time val _ => ⟨within_safe (by trivial) ?_, rest time val⟩
  intro site' frame' same
  cases same
  exact allowed

/-- A frame offered on this connection passes at the sites of the handshake. -/
theorem offered_allowed {segment : List (ManagedEvent E)} {site : WriteSite} {frame : WsFrame}
    (early : site ∈ [WriteSite.auth, .reply, .ping, .pong])
    (offered : ∃ d ∈ segment, offers d = some frame) : WriteAllowed segment site frame := by
  refine ⟨fun _ => ⟨early, offered⟩, fun late => ?_⟩
  cases site <;> simp at early late

/-- The gate as the loop keeps it: `session_authenticated` is only set where
everything may be written. -/
def Gated (l : Locals E) (segment : List (ManagedEvent E)) : Prop :=
  l.sessionAuthenticated = true → Open segment ∧ Replayed segment

theorem lasting_gated : Lasting (Gated (E := E)) := by
  intro l segment e _ gated authenticated
  obtain ⟨opened, replayed⟩ := gated authenticated
  exact ⟨opened.mono (List.prefix_append _ _), replayed.mono (List.prefix_append _ _)⟩

/-- The mode of the connection has not been read yet. -/
def Unread (_ : Locals E) (segment : List (ManagedEvent E)) : Prop := modeOf segment = none

theorem lasting_unread : Lasting (Unread (E := E)) := by
  intro l segment e modeless unread
  rw [Unread, modeOf, List.findSome?_append, show segment.findSome? readMode = _ from unread]
  simp [modeless]

theorem lasting_true : Lasting fun (_ : Locals E) _ => True := fun _ _ _ _ _ => trivial

theorem lasting_offered {P : Locals E → List (ManagedEvent E) → Prop} (lasting : Lasting P)
    (frame : WsFrame) :
    Lasting fun l segment => P l segment ∧ ∃ d ∈ segment, offers d = some frame := by
  rintro l segment e modeless ⟨holds, d, listed, offered⟩
  exact ⟨lasting l segment e modeless holds, d, List.mem_append_left _ listed, offered⟩

theorem offered_last {segment : List (ManagedEvent E)} {e : ManagedEvent E} {frame : WsFrame}
    (offered : offers e = some frame) : ∃ d ∈ segment ++ [e], offers d = some frame :=
  ⟨e, List.mem_append_right _ (List.mem_singleton_self e), offered⟩

/-- Showing an offered frame to the capture hook and writing it. -/
theorem emit_ensures {P : Locals E → List (ManagedEvent E) → Prop} (lasting : Lasting P)
    {site : WriteSite} {frame : WsFrame} (early : site ∈ [WriteSite.auth, .reply, .ping, .pong])
    {l : Locals E} {segment : List (ManagedEvent E)}
    (offered : ∃ d ∈ segment, offers d = some frame) (holds : P l segment) :
    gate.ensures (fun _ => P) (do
      handler (.onOutboundFrame frame)
      ask (.write site frame)) l segment := by
  have keeps := keeps_lasting (lasting_offered lasting frame)
  have shown : gate.ensures
      (fun _ l' segment' => P l' segment' ∧ ∃ d ∈ segment', offers d = some frame)
      (handler (.onOutboundFrame frame)) l segment :=
    keeps.ensures (quiet_handler (by trivial)) ⟨holds, offered⟩
  refine gate.ensures_seq shown ?_
  rintro _ l' segment' ⟨holds', offered'⟩
  refine write_then (offered_allowed early offered') fun _ _ => ?_
  exact lasting l' segment' _ rfl holds'

theorem emit_then {P : Locals E → List (ManagedEvent E) → Prop} (lasting : Lasting P)
    {site : WriteSite} {frame : WsFrame} (early : site ∈ [WriteSite.auth, .reply, .ping, .pong])
    {l : Locals E} {segment : List (ManagedEvent E)}
    (offered : ∃ d ∈ segment, offers d = some frame) (holds : P l segment) {α : Type}
    {f : Except WebSocketError Unit → Managed E α}
    {post : α → Locals E → List (ManagedEvent E) → Prop}
    (rest : ∀ result l' segment', P l' segment' → gate.ensures post (f result) l' segment') :
    gate.ensures post (do
      handler (.onOutboundFrame frame)
      f (← ask (.write site frame))) l segment := by
  have emitted := gate.ensures_seq (emit_ensures lasting early offered holds) rest
  rwa [bind_assoc] at emitted

/-- A call that writes nothing, and what follows it. -/
theorem ask_then (op : Op E) (writeless : Writeless op) {α : Type} {f : op.Ans → Managed E α}
    {post : α → Locals E → List (ManagedEvent E) → Prop} {l : Locals E}
    {segment : List (ManagedEvent E)}
    (rest : ∀ time val, gate.ensures post (f val) l (segment ++ [event l op time val])) :
    gate.ensures post (ask op >>= f) l segment := by
  refine ensures_ask_then gate op fun time val _ => ⟨writeless_safe writeless, ?_⟩
  change gate.ensures post (f val) l (follow segment _)
  rw [follow_within (within_of_writeless op writeless)]
  exact rest time val

theorem handler_then {call : HandlerCall E} (other : Writeless (.handler call)) {α : Type}
    {f : call.Res → Managed E α}
    {post : α → Locals E → List (ManagedEvent E) → Prop} {l : Locals E}
    {segment : List (ManagedEvent E)}
    (rest : ∀ time val, gate.ensures post (f val) l
      (segment ++ [event l (.handler call) time val])) :
    gate.ensures post (handler call >>= f) l segment :=
  ask_then (.handler call) other rest

theorem auth_ensures {l : Locals E} {segment : List (ManagedEvent E)} (unread : Unread l segment) :
    gate.ensures (fun _ => Unread) offerAuth l segment := by
  refine handler_then (by trivial) fun time payload => ?_
  have unread := lasting_unread l segment (event l (.handler .generateAuth) time payload) rfl unread
  cases payload with
  | none => exact unread
  | some payload => exact emit_ensures lasting_unread (by simp) (offered_last rfl) unread

/-- Part of a replay: what is written so far, completed by the rest, is a replay. -/
def Sending (subscriptions rest : List E.Subscription) (segment : List (ManagedEvent E)) : Prop :=
  ∃ before l time block,
    segment = before ++ event l (.handler .initialSubscriptions) time subscriptions :: block ∧
    ∀ more, ReplayBlock rest more → ReplayBlock subscriptions (block ++ more)

theorem Sending.replayed {subscriptions : List E.Subscription} {segment : List (ManagedEvent E)}
    (sending : Sending subscriptions [] segment) : Replayed segment := by
  obtain ⟨before, l, time, block, cut, completes⟩ := sending
  refine ⟨before, l, time, subscriptions, block, [], ?_, ?_⟩
  · rw [cut, List.append_nil]
  · simpa only [List.append_nil] using completes [] .done

theorem Sending.snoc {subscriptions rest : List E.Subscription} {subscription : E.Subscription}
    {segment : List (ManagedEvent E)}
    (sending : Sending subscriptions (subscription :: rest) segment)
    (l : Locals E) (first second third : Instant) (payload : Bytes) :
    Sending subscriptions rest
      (segment ++ writtenOne l first second third subscription payload) := by
  obtain ⟨before, l₀, time, block, cut, completes⟩ := sending
  refine ⟨before, l₀, time, block ++ writtenOne l first second third subscription payload, ?_,
    fun more written => ?_⟩
  · rw [cut, List.append_assoc, List.cons_append]
  · rw [List.append_assoc]
    exact completes _ (.next l first second third payload written)

/-- The loop of a replay: a step for each subscription, and `Sending` in between. -/
theorem sends_ensures {subscriptions rest : List E.Subscription} {l : Locals E}
    {segment : List (ManagedEvent E)} (opened : Open segment)
    (sending : Sending subscriptions rest segment) :
    gate.ensures (fun result _ segment' => result = .ok () → Open segment' ∧ Replayed segment')
      (sendSubscriptions .replay rest) l segment := by
  induction rest generalizing segment with
  | nil => exact fun _ => ⟨opened, sending.replayed⟩
  | cons subscription rest ih =>
    refine handler_then (by trivial) fun first payload => ?_
    refine gate.ensures_bind.mpr (handler_then (by trivial) fun second _ => ?_)
    refine write_then ⟨fun shut => absurd (opened.mono ?_) shut, fun late => ?_⟩ ?_
    · rw [List.append_assoc]
      exact List.prefix_append _ _
    · simp at late
    · intro third result
      cases result with
      | error error => exact fun failed => nomatch failed
      | ok _ =>
        have written := sending.snoc l first second third payload
        have grows := List.prefix_append segment
          (writtenOne l first second third subscription payload)
        rw [List.append_assoc, List.append_assoc]
        exact ih (opened.mono grows) written

theorem replay_ensures {l : Locals E} {segment : List (ManagedEvent E)} (opened : Open segment) :
    gate.ensures (fun result _ segment' => result = .ok () → Open segment' ∧ Replayed segment')
      replaySubscriptions l segment :=
  handler_then (by trivial) fun time _ => sends_ensures (opened.mono (List.prefix_append _ _))
    ⟨segment, l, time, [], rfl, fun _ written => written⟩

theorem gated_quiet {α : Type} {x : Managed E α} (quiet : Proc.Quiet Writeless x) {l : Locals E}
    {segment : List (ManagedEvent E)} (gated : Gated l segment) :
    gate.ensures (fun _ => Gated) x l segment :=
  (keeps_lasting lasting_gated).ensures quiet gated

theorem writeless_of_health (op : Op E) (health : HealthOp op) : Writeless op := by
  cases op <;> trivial

theorem gated_rearm {l : Locals E} {segment : List (ManagedEvent E)} (gated : Gated l segment) :
    gate.ensures (fun _ => Gated) (do
      rearmPing
      pure (none : Option WsDisconnectCause)) l segment :=
  gated_quiet ((quiet_rearmPing.mono writeless_of_health).bind fun _ => Proc.Quiet.pure _) gated

/-- A tick writes only what the ping strategy created. -/
theorem tick_ensures (kind : LoopKind) {l : Locals E} {segment : List (ManagedEvent E)}
    (gated : Gated l segment) : gate.ensures (fun _ => Gated) (hooksOf kind).tick l segment := by
  cases kind with
  | plain => exact gated
  | healthChecked =>
    refine gate.ensures_seq (gated_quiet (quiet_ping trivial) gated) fun stale l m gated => ?_
    cases stale with
    | true => exact gated
    | false =>
      refine gate.ensures_seq (gated_quiet (quiet_monitor trivial) gated) fun stale l m gated => ?_
      cases stale with
      | true => exact gated
      | false =>
        refine ask_then (.ping .createPing) trivial fun time created => ?_
        have gated := lasting_gated l m (event l (.ping .createPing) time created) rfl gated
        cases created with
        | none => exact gated_rearm gated
        | some frame =>
          refine emit_then lasting_gated (by simp) (offered_last rfl) gated ?_
          intro result l m gated
          cases result with
          | error error =>
            exact gate.ensures_seq (gated_quiet (quiet_monitor trivial) gated)
              fun _ _ _ gated => gated
          | ok _ =>
            exact gate.ensures_seq (gated_quiet (quiet_monitor trivial) gated)
              fun _ _ _ gated => gated_rearm gated

/-- An intercepted frame is answered with what the ping strategy replied. -/
theorem intercept_ensures (kind : LoopKind) (frame : WsFrame) {l : Locals E}
    {segment : List (ManagedEvent E)} (gated : Gated l segment) :
    gate.ensures (fun _ => Gated) ((hooksOf kind).intercept frame) l segment := by
  cases kind with
  | plain => exact gated
  | healthChecked =>
    refine ask_then (.ping (.handleInbound frame)) trivial fun time result => ?_
    have gated := lasting_gated l segment (event l (.ping (.handleInbound frame)) time result)
      rfl gated
    cases result with
    | notPong => exact gated
    | invalidPong =>
      exact gate.ensures_seq (gated_quiet (quiet_monitor trivial) gated) fun _ _ _ gated => gated
    | pongReceived rtt =>
      cases rtt with
      | none => exact gated
      | some rtt =>
        exact gate.ensures_seq (gated_quiet (quiet_monitor trivial) gated) fun _ _ _ gated => gated
    | reply reply =>
      refine emit_then lasting_gated (by simp) (offered_last rfl) gated fun result l m gated => ?_
      cases result with
      | error error =>
        exact gate.ensures_seq (gated_quiet (quiet_monitor trivial) gated) fun _ _ _ gated => gated
      | ok _ =>
        exact gate.ensures_seq (gated_quiet (quiet_monitor trivial) gated) fun _ _ _ gated => gated

/-- Up to the session only the order of the mode and the replay matters; in the
session it is the gate; after it nothing. -/
def gateJunctions : Junctions E (List (ManagedEvent E)) where
  top := fun _ _ => True
  dialing := fun _ _ => True
  refused := fun _ _ _ => True
  opened := Unread
  fresh := Unread
  greeted := Unread
  ready := Unread
  replaying := fun _ segment => Open segment
  broken := fun _ _ _ => True
  session := Gated
  ticked := Gated
  holding := fun _ => Gated
  reading := fun _ => Gated
  passed := fun _ => Gated
  parsed := fun action l segment => Gated l segment ∧
    (action = .sessionAuthenticated → Open segment) ∧
    (∀ payload, action = .send payload → ∃ d ∈ segment, offers d = some (intoWsMessage payload))
  judging := fun _ _ _ => Gated
  flushing := fun _ segment => Open segment ∧ Replayed segment
  stopping := fun _ _ => True
  leaving := fun _ _ _ => True
  closing := fun _ _ _ => True
  down := fun _ _ _ => True
  done := fun _ _ => True

theorem gate_steady : Steady gate (gateJunctions (E := E)) := by
  have idle := (keeps_lasting lasting_true).mono (writeless_of_health (E := E))
  have gated := (keeps_lasting lasting_gated).mono (writeless_of_health (E := E))
  constructor
  case fresh => exact fun _ _ unread => unread
  case opened => exact (keeps_lasting lasting_unread).mono writeless_of_health
  case session => exact gated
  case reading => exact fun _ => gated
  case judging => exact fun _ _ _ => gated
  all_goals intros; exact idle

/-- A successful replay opens the way for commands. -/
theorem replayed_orElse {context : String}
    {next : Locals E → List (ManagedEvent E) → Prop}
    (enough : ∀ l segment, Open segment ∧ Replayed segment → next l segment)
    {l : Locals E} {segment : List (ManagedEvent E)} (opened : Open segment) :
    gate.ensures (orElse next (fun _ _ _ => True) context) replaySubscriptions l segment := by
  refine gate.ensures_mono (fun result l' segment' => ?_) (replay_ensures opened)
  intro replayed
  cases result with
  | error error => trivial
  | ok _ => exact enough l' segment' (replayed rfl)

/-- After the replay nothing holds a command back. -/
theorem apply_free (command : ManagedWsCommand E.Subscription) {l : Locals E}
    {segment : List (ManagedEvent E)} (free : Open segment ∧ Replayed segment) :
    gate.ensures (fun _ _ segment' => Open segment' ∧ Replayed segment') (applyCommand command)
      l segment := by
  have hands : ∀ op : Op E, Hands op → Within op := by
    intro op hands
    cases op with
    | handler call => cases call <;> first | trivial | exact hands.elim id id
    | _ => first | trivial | exact hands.elim id id
  exact (keeps_free.mono hands).ensures (quiet_applyCommand command) free

theorem free_orElse {context : String} (result : Except WebSocketError Unit) (l : Locals E)
    (segment : List (ManagedEvent E)) (free : Open segment ∧ Replayed segment) :
    orElse Gated (fun _ _ _ => True) context result l segment :=
  orElse_of (fun _ => free) (fun _ => trivial) context result

theorem idle_ensures {α : Type} {x : Managed E α} (quiet : Proc.Quiet Writeless x) {l : Locals E}
    {segment : List (ManagedEvent E)} : gate.ensures (fun _ _ _ => True) x l segment :=
  (keeps_lasting lasting_true).ensures quiet trivial

theorem writeless_of_closes (op : Op E) (closes : Closes op) : Writeless op := by
  cases op with
  | handler call => cases call <;> trivial
  | _ => trivial

theorem writeless_of_greets (op : Op E) (greets : Greets op) : Writeless op := by
  cases op with
  | handler call => cases call <;> trivial
  | _ => trivial

theorem writeless_of_selects (op : Op E) (selects : Selects op) : Writeless op := by
  cases op <;> trivial

theorem writeless_of_waits (op : Op E) (waits : Waits op) : Writeless op := by
  cases op <;> trivial

theorem gate_outline (url : String) (kind : LoopKind) :
    Outline gate (hooksOf kind) url (gateJunctions (E := E)) where
  hooks := gate_steady.hooks (hooksOf_silent kind)
  start := fun _ => idle_ensures (quiet_ask (by trivial))
  dial := by
    intro l segment _
    refine (ensures_ask gate).mpr fun time result _ => ⟨⟨fun _ _ same => ?_, fun same => ?_⟩, ?_⟩
    · exact nomatch (same : Op.connect url .default = _)
    · exact nomatch (same : Op.connect url .default = _)
    · cases result with
      | error error => trivial
      | ok _ => rfl
  refuse := fun _ => idle_ensures ((quiet_storeThenDecide _).mono writeless_of_closes)
  greet := (keeps_lasting lasting_unread).ensures (quiet_greeting.mono writeless_of_greets)
  auth := by
    intro l segment unread
    refine gate.ensures_mono (fun result l segment unread => ?_) (auth_ensures unread)
    cases result with
    | error error => trivial
    | ok _ => exact unread
  mode := by
    intro l segment unread
    refine (ensures_handler gate).mpr fun time mode _ => ⟨⟨fun _ _ same => ?_, fun _ => unread⟩, ?_⟩
    · exact nomatch (same : Op.handler .sessionMode = _)
    · cases mode with
      | publicSession =>
        refine Or.inl ?_
        change List.findSome? readMode (segment ++ [_]) = _
        rw [List.findSome?_append, show segment.findSome? readMode = _ from unread]
        rfl
      | authGated => exact fun authenticated => absurd authenticated Bool.false_ne_true
  replay := by
    intro l segment opened
    have enough : ∀ (l : Locals E) segment, Open segment ∧ Replayed segment → Gated l segment :=
      fun _ _ free _ => free
    exact replayed_orElse enough opened
  fail := fun _ => idle_ensures ((quiet_decideThenStore _).mono writeless_of_closes)
  select := by
    intro l segment gated
    refine gate.ensures_mono (fun arm l segment gated => ?_) (gated_quiet
      ((quiet_sessionSelect _).mono writeless_of_selects) gated)
    match arm with
    | none => exact gated
    | some (.command none) => trivial
    | some (.command (some .shutdown)) => trivial
    | some (.command (some (.forceReconnect _))) => trivial
    | some (.command (some (.send _))) => exact gated
    | some (.command (some (.updateSubscriptions _))) => exact gated
    | some (.frame none) => trivial
    | some (.frame (some (.error _))) => trivial
    | some (.frame (some (.ok _))) => exact gated
  tick := by
    intro l segment gated
    refine gate.ensures_mono (fun verdict l segment gated => ?_) (tick_ensures kind gated)
    cases verdict with
    | none => exact gated
    | some cause => trivial
  park := fun gated _ closed authenticated => absurd authenticated (by rw [closed]; decide)
  apply := fun gated _ authenticated =>
    gate.ensures_mono free_orElse (apply_free _ (gated authenticated))
  inbound := gated_quiet (quiet_handler (by trivial))
  intercept := by
    intro frame l segment gated
    refine gate.ensures_mono (fun verdict l segment gated => ?_)
      (intercept_ensures kind frame gated)
    cases verdict with
    | pass => exact gated
    | again => exact gated
    | leave cause => trivial
  parse := by
    intro frame l segment gated
    refine (ensures_handler gate).mpr fun time outcome _ => ⟨writeless_safe (by trivial), ?_⟩
    have grown := lasting_gated l segment
      (event l (.handler (.parseFrame frame)) time outcome) rfl gated
    match outcome with
    | .error error => exact grown
    | .ok (.serverError code message data) => exact grown
    | .ok (.message action) =>
      refine ⟨grown, ?_, ?_⟩
      · rintro rfl
        exact Or.inr ⟨_, List.mem_append_right _ (List.mem_singleton_self _), rfl⟩
      · rintro payload rfl
        exact offered_last rfl
  judge := by
    intro code message data l segment gated
    refine gate.ensures_mono (fun action l segment gated => ?_)
      (gated_quiet (quiet_handler (by trivial)) gated)
    cases action with
    | «continue» => exact gated
    | reconnect => trivial
    | fatal => trivial
  proceed := fun parsed => parsed.1
  authenticate := fun parsed => replayed_orElse (fun _ _ free => free) (parsed.2.1 rfl)
  flush := fun free => gate.ensures_mono free_orElse
    (ensures_flush (fun _ _ _ free => free) (fun command _ _ free => apply_free command free) free)
  reply := by
    intro payload l segment parsed
    refine gate.ensures_mono (fun result l segment gated => ?_)
      (emit_ensures lasting_gated (by simp) (parsed.2.2 payload rfl) parsed.1)
    cases result with
    | error error => trivial
    | ok _ => exact gated
  process := by
    intro message l segment parsed
    refine gate.ensures_mono (fun result l segment gated => ?_)
      (gated_quiet (quiet_handler (by trivial)) parsed.1)
    cases result with
    | error error => trivial
    | ok _ => exact gated
  requested := fun _ => trivial
  shutdown := fun _ => trivial
  stop := fun _ => idle_ensures (quiet_ask (by trivial))
  finish := fun _ => idle_ensures (quiet_ask (by trivial))
  decide := fun _ => idle_ensures (((quiet_decideReconnect _).mono closes_of_decides).mono
    writeless_of_closes)
  abort := fun _ => trivial
  wait := by
    intro delay l segment _
    refine gate.ensures_mono (fun retry l segment _ => ?_)
      (idle_ensures ((quiet_wait delay).mono writeless_of_waits))
    cases retry with
    | true => trivial
    | false => trivial

/-- Every write of every run of either loop is one that the calls made on its
connection so far allow, and no connection reads its mode twice. -/
theorem writes_allowed (url : String) (kind : LoopKind) {t : List (ManagedEvent E)} {q : Task E}
    (run : Run (managedLoop url kind) t q) {before after : List (ManagedEvent E)}
    {e : ManagedEvent E} (cut : t = before ++ e :: after) :
    (∀ site frame, e.op.2 = .write site frame →
      WriteAllowed (connectionTrace before) site frame) ∧
    (e.op.2 = .handler .sessionMode → modeOf (connectionTrace before) = none) := by
  rw [managedLoop_eq] at run
  have relied : gate.Along gate.rely [] t := gate.along_iff.mpr fun _ _ _ _ => trivial
  obtain ⟨safe, _⟩ := (gate_outline url kind).run trivial run relied
  exact gate.along_iff.mp safe before e after cut

/-- A gated session in which the peer confirms at once and a `Send` follows. -/
def confirmedThenSend : Nat → (op : Op bareEndpoint) → op.Ans
  | _, .handler .sessionMode => .authGated
  | _, .handler (.parseFrame _) => .ok (.message .sessionAuthenticated)
  | 9, .select => .frame (some (.ok (.ping ⟨#[]⟩)))
  | _, .select => .command (some (.send ⟨#[7]⟩))
  | _, op => bareAnswer op

theorem send_after_confirmation :
    WriteAllowed
      (connectionTrace (trial (managedLoop "ws://peer" .plain) confirmedThenSend 16).1)
      .command (intoWsMessage ⟨#[7]⟩) := by
  let loop : Head → Managed bareEndpoint Flow := managedLoop "ws://peer" .plain
  have cut : (trial loop confirmedThenSend 17).1 = (trial loop confirmedThenSend 16).1 ++
      [event ⟨false, true, []⟩ (.write .command (intoWsMessage ⟨#[7]⟩)) 16 (.ok ())] := rfl
  exact (writes_allowed "ws://peer" .plain (trial_run loop confirmedThenSend 17) cut).1 _ _ rfl

end AuthGate
