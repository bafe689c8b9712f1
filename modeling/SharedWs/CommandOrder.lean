import Mathlib.Data.List.Induction
import SharedWs.AuthGate
import SharedWs.CommandAccounting
import SharedWs.QueuedShutdown

/-!
# The order in which commands are applied

A command that has to wait for authentication is parked, and a later one must
not overtake it. The queue is first in, first out; what has to be shown is that
no command is applied directly while others are parked. The flag alone does not
say so: it is true as soon as the session is authenticated, before the queue is
flushed, and a failed flush leaves the rest of the queue to the next connection.
-/
namespace CommandOrder

open InteractionPrograms InteractionMonitors InteractionChannels WsFrames WsTypes ManagedOps
open ManagedLoop HookedLoop LoopOutline ManagedBlocks AuthGate CommandAccounting QueuedShutdown

variable {E : Endpoint}

/-- The commands handed to `apply_command`, in order. -/
def handedOver (t : List (ManagedEvent E)) : List (ManagedWsCommand E.Subscription) :=
  t.filterMap handed

/-- The handler gives the same session mode throughout the run. -/
def ConstantMode (mode : WsSessionMode) (t : List (ManagedEvent E)) : Prop :=
  ∀ e ∈ t, ∀ answer ∈ readMode e, answer = mode

instance (mode : WsSessionMode) (t : List (ManagedEvent E)) : Decidable (ConstantMode mode t) :=
  inferInstanceAs (Decidable (∀ e ∈ t, ∀ answer ∈ readMode e, answer = mode))

/-- Where the session is about to receive as authenticated, nothing is parked. -/
def NothingParked (e : ManagedEvent E) : Prop :=
  Selects e.op.2 → e.op.1.sessionAuthenticated = true → e.op.1.pendingAuthCommands = []

structure Line (E : Endpoint) where
  taken : List (ManagedWsCommand E.Subscription)
  applied : List (ManagedWsCommand E.Subscription)

def Line.after (m : Line E) (e : ManagedEvent E) : Line E where
  taken := m.taken ++ (received e).join.toList
  applied := m.applied ++ (handed e).toList

def ordering (mode : WsSessionMode) : ManagedMonitor E (Line E) where
  step := Line.after
  rely := fun _ e => ∀ answer ∈ readMode e, answer = mode
  safe := fun m e => NothingParked e ∧
    ∀ command, handed e = some command → (m.applied ++ [command]).Sublist m.taken

theorem ordering_run (mode : WsSessionMode) (t : List (ManagedEvent E)) (m : Line E) :
    (ordering mode).run m t = ⟨m.taken ++ cmdRx.taken t, m.applied ++ handedOver t⟩ := by
  have cons : ∀ (e : ManagedEvent E) t,
      handedOver (e :: t) = (handed e).toList ++ handedOver t := by
    intro e t
    rw [handedOver, List.filterMap_cons]
    cases handed e with
    | none => rfl
    | some command => rfl
  induction t generalizing m with
  | nil => simp [Inlet.taken, handedOver]
  | cons e t ih =>
    rw [Monitor.run_cons, ih, cons, Inlet.taken_cons, ← List.append_assoc, ← List.append_assoc]
    rfl

/-- A still call takes no command and hands none over. -/
theorem moves_nothing {op : Op E} (still : Still op) (l : Locals E) (time : Instant)
    (val : op.Ans) : received (event l op time val) = none ∧ handed (event l op time val) = none ∧
      ¬ Selects op := by
  cases op <;> first | exact still.elim | exact ⟨rfl, rfl, id⟩

theorem ordering_ignores (mode : WsSessionMode) : Ignores (ordering (E := E) mode) Still := by
  intro l m op time val still
  obtain ⟨unread, unapplied, idle⟩ := moves_nothing still l time val
  refine ⟨⟨fun selects => absurd selects idle, ?_⟩, ?_⟩
  · intro command hands
    cases unapplied.symm.trans hands
  · change Line.after m _ = m
    simp [Line.after, unread, unapplied]

theorem ignores_routine (mode : WsSessionMode) : Ignores (ordering (E := E) mode) Routine :=
  (ordering_ignores mode).mono still_of_routine

/-- What was applied and what is parked come in the order in which they were
taken, and a public session parks nothing. -/
structure InLine (mode : WsSessionMode) (queue : List (ManagedWsCommand E.Subscription))
    (m : Line E) : Prop where
  order : (m.applied ++ queue).Sublist m.taken
  idle : mode = .publicSession → queue = []

def Parked (mode : WsSessionMode) (l : Locals E) : Line E → Prop :=
  InLine mode l.pendingAuthCommands

/-- During a session the flag tells whether anything can be parked. A command
that is in hand comes behind everything that is parked. -/
structure Serving (mode : WsSessionMode) (held : List (ManagedWsCommand E.Subscription))
    (l : Locals E) (m : Line E) : Prop where
  order : (m.applied ++ (l.pendingAuthCommands ++ held)).Sublist m.taken
  flushed : l.sessionAuthenticated = true → l.pendingAuthCommands = []
  opened : mode = .publicSession → l.sessionAuthenticated = true

/-- The session is authenticated and its queue not yet flushed. -/
structure Flushing (mode : WsSessionMode) (l : Locals E) (m : Line E) : Prop where
  parked : Parked mode l m
  authenticated : l.sessionAuthenticated = true

section Blocks
variable {mode : WsSessionMode} {l : Locals E} {m : Line E}
variable {command : ManagedWsCommand E.Subscription}
variable {queue : List (ManagedWsCommand E.Subscription)}

theorem Serving.idle {held : List (ManagedWsCommand E.Subscription)}
    (serving : Serving mode held l m) (isPublic : mode = .publicSession) :
    l.pendingAuthCommands = [] :=
  serving.flushed (serving.opened isPublic)

theorem Serving.parked (serving : Serving mode [] l m) : Parked mode l m := by
  refine ⟨?_, serving.idle⟩
  have order := serving.order
  rwa [List.append_nil] at order

theorem InLine.grow (inLine : InLine mode queue m) (more : List (ManagedWsCommand E.Subscription)) :
    InLine mode queue ⟨m.taken ++ more, m.applied⟩ :=
  ⟨inLine.order.trans (List.sublist_append_left _ _), inLine.idle⟩

/-- The command that comes next is applied. -/
theorem apply_next (inLine : InLine mode (command :: queue) m ∨
      (m.applied ++ [command]).Sublist m.taken ∧ queue = []) :
    (ordering mode).ensures (fun _ l' m' => l' = l ∧ InLine mode queue m') (applyCommand command)
      l m := by
  have next : (m.applied ++ [command] ++ queue).Sublist m.taken := by
    rcases inLine with inLine | ⟨order, rfl⟩
    · simpa using inLine.order
    · simpa using order
  have idle : mode = .publicSession → queue = [] := by
    rcases inLine with inLine | ⟨_, rfl⟩
    · exact fun isPublic => absurd (inLine.idle isPublic) (List.cons_ne_nil _ _)
    · exact fun _ => rfl
  have marked : (ordering mode).ensures (fun _ _ => InLine mode queue) (ask (.enterApply command))
      l m := by
    have here : (m.applied ++ [command]).Sublist m.taken :=
      (List.sublist_append_left _ _).trans next
    refine ensures_of_ask _ _ fun time val _ => ⟨⟨nofun, fun c same => ?_⟩, ?_, idle⟩
    · cases same
      exact here
    · simpa [ordering, Line.after, event, received, handed] using next
  refine (ordering mode).ensures_frame (quiet_applyCommand command)
    ((ordering mode).ensures_seq marked ?_)
  intro _ l' m' kept
  cases command with
  | send payload =>
    exact (ignores_routine mode).ensures ((quiet_sendPayload _ payload).mono (routine_of_sends _))
      fun _ => kept
  | updateSubscriptions action =>
    exact (ignores_routine mode).ensures
      ((quiet_sendSubscriptionUpdates action).mono routine_of_applies) fun _ => kept
  | forceReconnect _ => exact kept
  | shutdown => exact kept

/-- A flush that succeeds empties the queue; one that fails leaves a rest in line. -/
theorem flush_in_line (same : l.pendingAuthCommands = queue) (inLine : InLine mode queue m) :
    (ordering mode).ensures (fun result l' m' => Parked mode l' m' ∧
        l'.sessionAuthenticated = l.sessionAuthenticated ∧
        (result = .ok () → l'.pendingAuthCommands = [])) (applyQueued queue) l m := by
  induction queue generalizing l m with
  | nil =>
    have parked : Parked mode l m := by
      rw [Parked, same]
      exact inLine
    exact ⟨parked, rfl, fun _ => same⟩
  | cons command rest ih =>
    rw [applyQueued, Monitor.ensures_bind, Monitor.ensures_modify]
    refine (ordering mode).ensures_seq (apply_next (Or.inl inLine)) ?_
    rintro result l' m' ⟨rfl, inLine⟩
    cases result with
    | error _ => exact ⟨inLine, rfl, fun applied => by cases applied⟩
    | ok _ => exact ih (l := { l with pendingAuthCommands := rest }) rfl inLine

/-- A data command just pulled is in hand. -/
theorem serving_pulled (serving : Serving mode [] l m) (arm : Arm E) :
    afterSelect (Serving mode []) (Parked mode) (fun _ => Parked mode)
      (fun command => Serving mode [command]) (fun _ => Serving mode []) (some arm) l
      ⟨m.taken ++ (armCommand arm).toList, m.applied⟩ := by
  have parked := serving.parked.grow (armCommand arm).toList
  have same : Serving mode [] l ⟨m.taken ++ [], m.applied⟩ := by
    rw [List.append_nil]
    exact serving
  have inHand : ∀ command, Serving mode [command] l ⟨m.taken ++ [command], m.applied⟩ := by
    refine fun command => ⟨?_, serving.flushed, serving.opened⟩
    rw [← List.append_assoc]
    exact serving.parked.order.append (List.Sublist.refl _)
  match arm with
  | .command none => exact parked
  | .command (some .shutdown) => exact parked
  | .command (some (.forceReconnect _)) => exact parked
  | .command (some (.send payload)) => exact inHand (.send payload)
  | .command (some (.updateSubscriptions action)) => exact inHand (.updateSubscriptions action)
  | .frame none => exact parked
  | .frame (some (.error _)) => exact parked
  | .frame (some (.ok _)) => exact same

theorem select_in_line (pinging : Bool) (serving : Serving mode [] l m) :
    (ordering mode).ensures (afterSelect (Serving mode []) (Parked mode) (fun _ => Parked mode)
      (fun command => Serving mode [command]) (fun _ => Serving mode [])) (sessionSelect pinging)
      l m := by
  have pulled := serving_pulled serving
  cases pinging with
  | true =>
    refine ensures_of_ask _ _ fun time val _ =>
      ⟨⟨fun _ => serving.flushed, fun _ hands => by cases hands⟩, ?_⟩
    cases val with
    | none =>
      simpa [ordering, Line.after, event, received, handed, afterSelect] using serving
    | some arm =>
      cases arm with
      | command pull =>
        simpa [ordering, Line.after, event, received, handed, armCommand]
          using pulled (.command pull)
      | frame read =>
        simpa [ordering, Line.after, event, received, handed, armCommand] using pulled (.frame read)
  | false =>
    refine ensures_ask_then _ _ fun time arm _ =>
      ⟨⟨fun _ => serving.flushed, fun _ hands => by cases hands⟩, ?_⟩
    cases arm with
    | command pull =>
      simpa [ordering, Line.after, event, received, handed, armCommand]
        using pulled (.command pull)
    | frame read =>
      simpa [ordering, Line.after, event, received, handed, armCommand] using pulled (.frame read)

theorem wait_in_line (delay : Duration) (parked : Parked mode l m) :
    (ordering mode).ensures (fun _ => Parked mode) (waitReconnectDelayOrShutdown delay) l m := by
  have entered : (ordering mode).ensures (fun _ => Parked mode) (ask (.enterWait delay)) l m :=
    (ordering_ignores mode).ensures (quiet_ask (by trivial)) fun _ => parked
  refine (ordering mode).ensures_seq entered ?_
  intro _ l' m' parked
  by_cases zero : delay = 0
  · rw [if_pos zero]
    exact parked
  · rw [if_neg zero]
    refine ensures_ask_then _ _ fun time answer _ => ⟨⟨nofun, nofun⟩, ?_⟩
    have grown := parked.grow (received (event l' (.waitSelect delay) time answer)).join.toList
    cases answer with
    | none => simpa [ordering, Line.after, event, handed, Parked] using grown
    | some received => simpa [ordering, Line.after, event, handed, Parked] using grown

end Blocks

def orderJunctions (mode : WsSessionMode) : Junctions E (Line E) where
  top := Parked mode
  dialing := Parked mode
  refused := fun _ => Parked mode
  opened := Parked mode
  fresh := Parked mode
  greeted := Parked mode
  ready := Parked mode
  replaying := Serving mode []
  broken := fun _ => Parked mode
  session := Serving mode []
  ticked := Serving mode []
  holding := fun command => Serving mode [command]
  reading := fun _ => Serving mode []
  passed := fun _ => Serving mode []
  parsed := fun _ => Serving mode []
  judging := fun _ _ _ => Serving mode []
  flushing := Flushing mode
  stopping := Parked mode
  leaving := fun _ => Parked mode
  closing := fun _ => Parked mode
  down := fun _ => Parked mode
  done := Parked mode

theorem order_outline (url : String) (kind : LoopKind) (mode : WsSessionMode) :
    Outline (ordering mode) (hooksOf kind) url (orderJunctions (E := E) mode) := by
  have routine := ignores_routine (E := E) mode
  have other := ordering_ignores (E := E) mode
  have steady : Steady (ordering mode) (orderJunctions (E := E) mode) :=
    (other.mono still_of_health).steady fun _ _ parked => parked
  constructor
  case hooks => exact steady.hooks (hooksOf_silent kind)
  case start => exact fun parked => routine.ensures (quiet_ask (by trivial)) fun _ => parked
  case dial =>
    exact fun parked => other.ensures (quiet_ask (by trivial))
      (orElse_of parked (fun _ => parked) _)
  case refuse =>
    exact fun parked => routine.ensures ((quiet_storeThenDecide _).mono routine_of_closes)
      fun _ => parked
  case greet =>
    exact fun parked => routine.ensures (quiet_greeting.mono routine_of_greets) fun _ => parked
  case auth =>
    exact fun parked => routine.ensures (quiet_offerAuth.mono routine_of_offersAuth)
      (orElse_of parked (fun _ => parked) _)
  case mode =>
    intro l m parked
    refine (ensures_handler _).mpr fun time answer relied => ?_
    obtain rfl : answer = mode := relied answer rfl
    obtain ⟨safe, same⟩ := routine l m _ time answer trivial
    refine ⟨safe, ?_⟩
    rw [same]
    cases answer with
    | publicSession =>
      refine ⟨?_, fun _ => parked.idle rfl, fun _ => rfl⟩
      rw [List.append_nil]
      exact parked.order
    | authGated =>
      refine ⟨?_, nofun, nofun⟩
      rw [List.append_nil]
      exact parked.order
  case replay =>
    exact fun serving => routine.ensures (quiet_replaySubscriptions.mono routine_of_replays)
      (orElse_of serving (fun _ => serving.parked) _)
  case fail =>
    exact fun parked => routine.ensures ((quiet_decideThenStore _).mono routine_of_closes)
      fun _ => parked
  case select => exact select_in_line _
  case tick =>
    intro l m serving
    refine routine.ensures ((quiet_tick kind).mono routine_of_pulses) fun verdict => ?_
    cases verdict with
    | none => exact serving
    | some cause => exact serving.parked
  case park =>
    intro command l m holding requires unauthenticated
    refine ⟨?_, fun authenticated => ?_, holding.opened⟩
    · rw [List.append_nil]
      exact holding.order
    · cases unauthenticated.symm.trans authenticated
  case apply =>
    intro command l m holding requires authenticated
    have empty := holding.flushed authenticated
    have next : (m.applied ++ [command]).Sublist m.taken := by
      have order := holding.order
      rwa [empty, List.nil_append] at order
    refine (ordering mode).ensures_mono ?_ (apply_next (Or.inr ⟨next, rfl⟩))
    rintro result l' m' ⟨rfl, inLine⟩
    have parked : Parked mode l' m' := by
      rw [Parked, empty]
      exact inLine
    have serving : Serving mode [] l' m' := by
      refine ⟨?_, fun _ => empty, fun _ => authenticated⟩
      rw [List.append_nil]
      exact parked.order
    exact orElse_of serving (fun _ => parked) _ result
  case inbound => exact fun serving => routine.ensures (quiet_ask (by trivial)) fun _ => serving
  case intercept =>
    intro frame l m serving
    refine routine.ensures ((quiet_intercept kind frame).mono routine_of_pulses) fun verdict => ?_
    cases verdict with
    | pass => exact serving
    | again => exact serving
    | leave cause => exact serving.parked
  case parse =>
    intro frame l m serving
    refine routine.ensures (quiet_handler trivial) fun outcome => ?_
    match outcome with
    | .ok (.message action) => exact serving
    | .ok (.serverError code message data) => exact serving
    | .error error => exact serving
  case judge =>
    intro code message data l m serving
    refine routine.ensures (quiet_handler trivial) fun action => ?_
    cases action with
    | «continue» => exact serving
    | reconnect => exact serving.parked
    | fatal => exact serving.parked
  case proceed => exact id
  case authenticate =>
    intro l m serving
    have flushing : Flushing mode { l with sessionAuthenticated := true } m :=
      ⟨serving.parked, rfl⟩
    exact routine.ensures (quiet_replaySubscriptions.mono routine_of_replays)
      (orElse_of flushing (fun _ => flushing.parked) _)
  case flush =>
    intro l m flushing
    change (ordering mode).ensures _ (applyQueued l.pendingAuthCommands) l m
    refine (ordering mode).ensures_mono ?_ (flush_in_line rfl flushing.parked)
    rintro result l' m' ⟨parked, same, empty⟩
    cases result with
    | error error => exact parked
    | ok _ =>
      refine ⟨?_, fun _ => empty rfl, fun _ => same.trans flushing.authenticated⟩
      rw [List.append_nil]
      exact parked.order
  case reply =>
    exact fun serving => routine.ensures ((quiet_sendPayload _ _).mono (routine_of_sends _))
      (orElse_of serving (fun _ => serving.parked) _)
  case process =>
    intro message l m serving
    refine routine.ensures (quiet_handler trivial) fun result => ?_
    cases result with
    | ok _ => exact serving
    | error error => exact serving.parked
  case requested => exact Serving.parked
  case shutdown => exact Serving.parked
  case stop => exact fun parked => routine.ensures (quiet_ask (by trivial)) fun _ => parked
  case finish => exact fun parked => routine.ensures (quiet_ask (by trivial)) fun _ => parked
  case decide =>
    exact fun parked => routine.ensures
      (((quiet_decideReconnect _).mono closes_of_decides).mono routine_of_closes) fun _ => parked
  case abort => exact id
  case wait =>
    intro delay l m parked
    refine (ordering mode).ensures_mono ?_ (wait_in_line delay parked)
    intro retry l' m' parked
    cases retry with
    | true => exact parked
    | false => exact parked

theorem applied_of_safe {mode : WsSessionMode} {t : List (ManagedEvent E)}
    (safe : (ordering mode).Along (ordering mode).safe ⟨[], []⟩ t) :
    (handedOver t).Sublist (cmdRx.taken t) := by
  induction t using List.reverseRecOn with
  | nil => exact List.Sublist.refl []
  | append_singleton t e ih =>
    obtain ⟨early, here, _⟩ := (ordering mode).along_append.mp safe
    have grown : (cmdRx.taken t).Sublist (cmdRx.taken (t ++ [e])) := by
      rw [Inlet.taken, Inlet.taken, List.filterMap_append]
      exact List.sublist_append_left _ _
    have snoc : handedOver (t ++ [e]) = handedOver t ++ (handed e).toList :=
      filterMap_snoc handed t e
    rw [snoc]
    cases hands : handed e with
    | none => simpa using (ih early).trans grown
    | some command =>
      have next := here.2 command hands
      rw [ordering_run] at next
      simpa using next.trans grown

/-- The commands handed to `apply_command` are a subsequence of those sent, in
their order and each at most once, and no command is received past a parked one. -/
theorem commands_in_order (url : String) (kind : LoopKind) (mode : WsSessionMode)
    {channel : Channel (ManagedWsCommand E.Subscription)} {t : List (ManagedEvent E)}
    {sent : List (ManagedWsCommand E.Subscription)} {s : Client E}
    (run : Carries cmdRx (Proc.turn (managedLoop url kind)) (spawned channel) sent t s)
    (constant : ConstantMode mode t) :
    (handedOver t).Sublist (channel.queue ++ sent) ∧ ∀ e ∈ t, NothingParked e := by
  have reached : Run (managedLoop url kind) t s.task := run.feeds.reaches
  rw [managedLoop_eq] at reached
  have start : Parked mode (Locals.initial : Locals E) ⟨[], []⟩ :=
    ⟨List.Sublist.refl [], fun _ => rfl⟩
  have relied : (ordering mode).Along (ordering mode).rely ⟨[], []⟩ t := by
    refine (ordering mode).along_iff.mpr fun before e after cut => constant e ?_
    rw [cut]
    exact List.mem_append_right before List.mem_cons_self
  have safe := ((order_outline url kind mode).run start reached relied).1
  constructor
  · have conserved : channel.queue ++ sent = cmdRx.taken t ++ s.channel.queue := run.conserves
    rw [conserved]
    exact (applied_of_safe safe).trans (List.sublist_append_left _ _)
  · intro e listed
    obtain ⟨before, after, cut⟩ := List.append_of_mem listed
    exact ((ordering mode).along_iff.mp safe before e after cut).1

/-- Two commands are parked before the session is authenticated. -/
def parkedTwice : Nat → (op : Op bareEndpoint) → op.Ans
  | _, .handler .sessionMode => .authGated
  | 9, .select => .command (some (.send ⟨#[1]⟩))
  | 10, .select => .command (some (.send ⟨#[2]⟩))
  | 11, .select => .frame (some (.ok (.binary ByteArray.empty)))
  | _, .handler (.parseFrame _) => .ok (.message .sessionAuthenticated)
  | _, op => bareAnswer op

theorem parked_commands_in_order :
    handedOver (trial (managedLoop "ws://peer" .plain) parkedTwice 21).1 =
      [.send ⟨#[1]⟩, .send ⟨#[2]⟩] ∧
    (handedOver (trial (managedLoop "ws://peer" .plain) parkedTwice 21).1).Sublist
      [.send ⟨#[1]⟩, .send ⟨#[2]⟩] := by
  let loop : Head → Managed bareEndpoint Flow := managedLoop "ws://peer" .plain
  have ready : ∀ e ∈ (trial loop parkedTwice 21).1,
      (cmdRx.takes e).isSome = (cmdRx.takes e).join.isSome := by
    decide
  have carried := carries_of_stocked (trial_run loop parkedTwice 21) ready [] false
  have gated : ConstantMode .authGated (trial loop parkedTwice 21).1 := by decide +kernel
  have ordered := (commands_in_order "ws://peer" .plain .authGated carried gated).1
  constructor
  · rfl
  · rw [List.append_nil] at ordered
    exact ordered

end CommandOrder
