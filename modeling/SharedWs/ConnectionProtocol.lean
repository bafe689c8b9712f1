import Mathlib.Data.List.Induction
import SharedWs.ConnectionTask
import SharedWs.InteractionProgress

/-!
# What a connection's handler is told

The handler hears `Connected`, then frames, commands and ticks, then `Closed`,
and nothing at all if the upgrade fails. The cause of the close is the first
reason that the run gave: an error or a `Close` action of the handler, a write
that failed, or the arm of the `select!` that ended the loop.
-/
namespace ConnectionProtocol

open BroadcastRing InteractionPrograms InteractionMonitors InteractionMonitors.Monitor
open InteractionProgress ConnectionTask ServerTypes WsFrames

variable {Command : Type}

def eventOf : ConnectionEvent Command → Option (WsServerEndpointEvent Command)
  | ⟨.onEvent event, _⟩ => some event
  | _ => none

/-- The events that the handler was given. -/
def delivered (t : List (ConnectionEvent Command)) : List (WsServerEndpointEvent Command) :=
  t.filterMap eventOf

/-- The reason to close that one call gives with its answer. -/
def reasonOf : ConnectionEvent Command → Option WsServerCloseCause
  | ⟨.onEvent _, .error error⟩ => some (.handlerError error)
  | ⟨.onEvent _, .ok (.close _)⟩ => some .handlerRequested
  | ⟨.send _, .error error⟩ => some (.transportError error)
  | ⟨.select, .shutdown⟩ => some .serverShutdown
  | ⟨.select, .incoming none⟩ => some .clientClosed
  | ⟨.select, .incoming (some (.error error))⟩ => some (.transportError error)
  | ⟨.select, .incoming (some (.ok (.close _)))⟩ => some .clientClosed
  | ⟨.select, .command (.error (.lagged missed))⟩ => some (.lagged missed)
  | ⟨.select, .command (.error .closed)⟩ => some .serverShutdown
  | _ => none

/-- The first reason of a run. -/
def causeOf (t : List (ConnectionEvent Command)) : Option WsServerCloseCause :=
  t.findSome? reasonOf

/-- The upgrade went through. -/
def Upgraded (t : List (ConnectionEvent Command)) : Prop :=
  ∃ timeout websocket, (⟨.handshake timeout websocket, .completed⟩ : ConnectionEvent Command) ∈ t

/-- Between `Connected` and `Closed`: application frames, commands and ticks. -/
def Ordinary : WsServerEndpointEvent Command → Prop
  | .frame (.text _) | .frame (.binary _) | .command _ | .tick => True
  | _ => False

/-- The handler is connected and has not been told of a close. -/
def Open (ctx : WsServerConnectionContext) (events : List (WsServerEndpointEvent Command)) : Prop :=
  ∃ middle, (∀ event ∈ middle, Ordinary event) ∧ events = .connected ctx :: middle

/-- The handler has been told why the connection ended. -/
def Parted (ctx : WsServerConnectionContext) (cause : WsServerCloseCause)
    (events : List (WsServerEndpointEvent Command)) : Prop :=
  ∃ middle, (∀ event ∈ middle, Ordinary event) ∧
    events = .connected ctx :: middle ++ [.closed cause]

/-- What may be called after the calls made so far. -/
def Allowed (ctx : WsServerConnectionContext) (t : List (ConnectionEvent Command)) :
    ConnectionOp Command → Prop
  | .handshake _ _ => t = []
  | .createEndpoint c => c = ctx ∧ Upgraded t ∧ delivered t = []
  | .firstTick _ => Upgraded t ∧ delivered t = []
  | .onEvent (.connected c) => c = ctx ∧ Upgraded t ∧ delivered t = [] ∧ causeOf t = none
  | .onEvent (.closed cause) => causeOf t = some cause ∧ Open ctx (delivered t) ∧ Upgraded t
  | .onEvent event =>
      Ordinary event ∧ causeOf t = none ∧ Open ctx (delivered t) ∧ Upgraded t
  | .select => causeOf t = none ∧ Open ctx (delivered t)
  | .send _ => delivered t ≠ []
  | .close => ∃ cause, Parted ctx cause (delivered t)

def protocol (Command : Type) (ctx : WsServerConnectionContext) :
    Monitor (connectionSignature Command) (List (ConnectionEvent Command)) :=
  history (fun _ _ => True) fun t e => Allowed ctx t e.op

section Traces
variable (t : List (ConnectionEvent Command))

theorem delivered_append (more : List (ConnectionEvent Command)) :
    delivered (t ++ more) = delivered t ++ delivered more :=
  List.filterMap_append

theorem delivered_snoc (e : ConnectionEvent Command) :
    delivered (t ++ [e]) = delivered t ++ (eventOf e).toList :=
  filterMap_snoc eventOf t e

theorem causeOf_snoc (e : ConnectionEvent Command) :
    causeOf (t ++ [e]) = (causeOf t).or (reasonOf e) := by
  simp [causeOf, List.findSome?_append]

variable {t}

theorem upgraded_append {s : List (ConnectionEvent Command)} (up : Upgraded t) :
    Upgraded (t ++ s) := by
  obtain ⟨timeout, websocket, seen⟩ := up
  exact ⟨timeout, websocket, List.mem_append_left s seen⟩

end Traces

variable {ctx : WsServerConnectionContext} {cause : WsServerCloseCause}
variable {t : List (ConnectionEvent Command)}

theorem open_snoc {events : List (WsServerEndpointEvent Command)}
    {event : WsServerEndpointEvent Command} (opened : Open ctx events)
    (ordinary : Ordinary event) : Open ctx (events ++ [event]) := by
  obtain ⟨middle, all, rfl⟩ := opened
  refine ⟨middle ++ [event], ?_, rfl⟩
  intro other listed
  rcases List.mem_append.mp listed with early | late
  · exact all other early
  · rw [List.mem_singleton.mp late]
    exact ordinary

theorem not_open_nil : ¬ Open ctx ([] : List (WsServerEndpointEvent Command)) := by
  rintro ⟨middle, _, wrong⟩
  cases wrong

theorem parted_of_open {events : List (WsServerEndpointEvent Command)} (opened : Open ctx events) :
    Parted ctx cause (events ++ [.closed cause]) := by
  obtain ⟨middle, all, rfl⟩ := opened
  exact ⟨middle, all, rfl⟩

theorem not_open_of_parted {events : List (WsServerEndpointEvent Command)}
    (parted : Parted ctx cause events) : ¬ Open ctx events := by
  obtain ⟨middle, _, rfl⟩ := parted
  rintro ⟨others, all, same⟩
  have listed : WsServerEndpointEvent.closed cause ∈ others := by
    rw [← (List.cons.inj same).2]
    exact List.mem_append_right middle List.mem_cons_self
  exact all _ listed

/-- The phases of a connection after its upgrade. -/
structure Phase (ctx : WsServerConnectionContext) (cause : Option WsServerCloseCause)
    (t : List (ConnectionEvent Command)) : Prop where
  upgraded : Upgraded t
  causes : causeOf t = cause
  opened : Open ctx (delivered t)

structure Told (ctx : WsServerConnectionContext) (cause : WsServerCloseCause)
    (t : List (ConnectionEvent Command)) : Prop where
  upgraded : Upgraded t
  causes : causeOf t = some cause
  parted : Parted ctx cause (delivered t)

theorem Phase.heard {first : Option WsServerCloseCause} (phase : Phase ctx first t) :
    delivered t ≠ [] := by
  obtain ⟨middle, _, events⟩ := phase.opened
  rw [events]
  exact nofun

theorem Told.heard (told : Told ctx cause t) : delivered t ≠ [] := by
  obtain ⟨middle, _, events⟩ := told.parted
  rw [events]
  exact nofun

/-- A call that tells the handler nothing only adds its reason, if there was none. -/
theorem Phase.quiet {e : ConnectionEvent Command} {first : Option WsServerCloseCause}
    (phase : Phase ctx first t) (untold : eventOf e = none) :
    Phase ctx (first.or (reasonOf e)) (t ++ [e]) where
  upgraded := upgraded_append phase.upgraded
  causes := by rw [causeOf_snoc, phase.causes]
  opened := by
    rw [delivered_snoc, untold]
    simpa using phase.opened

theorem Phase.sent {first : Option WsServerCloseCause} (phase : Phase ctx first t)
    (frame : WsFrame) (answer : Except String Unit) :
    Phase ctx (first.or (reasonOf (⟨.send frame, answer⟩ : ConnectionEvent Command)))
      (t ++ [⟨.send frame, answer⟩]) :=
  phase.quiet rfl

theorem Phase.ordinary {event : WsServerEndpointEvent Command}
    {answer : Except String WsServerEndpointAction} (phase : Phase ctx none t)
    (allowed : Ordinary event) :
    Phase ctx (reasonOf (⟨.onEvent event, answer⟩ : ConnectionEvent Command))
      (t ++ [⟨.onEvent event, answer⟩]) where
  upgraded := upgraded_append phase.upgraded
  causes := by rw [causeOf_snoc, phase.causes, Option.none_or]
  opened := by
    rw [delivered_snoc]
    exact open_snoc phase.opened allowed

theorem Phase.told {answer : Except String WsServerEndpointAction}
    (phase : Phase ctx (some cause) t) : Told ctx cause (t ++ [⟨.onEvent (.closed cause), answer⟩])
    where
  upgraded := upgraded_append phase.upgraded
  causes := by rw [causeOf_snoc, phase.causes, Option.some_or]
  parted := by
    rw [delivered_snoc]
    exact parted_of_open phase.opened

theorem Told.quiet {e : ConnectionEvent Command} (told : Told ctx cause t)
    (untold : eventOf e = none) : Told ctx cause (t ++ [e]) where
  upgraded := upgraded_append told.upgraded
  causes := by rw [causeOf_snoc, told.causes, Option.some_or]
  parted := by
    rw [delivered_snoc, untold]
    simpa using told.parted

/-- How a task may return: nothing was told to anyone, or everything was. -/
def Finished (ctx : WsServerConnectionContext) (t : List (ConnectionEvent Command)) : Prop :=
  ¬ Upgraded t ∧ delivered t = [] ∨ ∃ cause, Told ctx cause t

def Standing (ctx : WsServerConnectionContext) : Head → List (ConnectionEvent Command) → Prop
  | .accepted, t => t = []
  | .serving, t => Phase ctx none t

/-- The rest of the turn keeps to the protocol. -/
abbrev Keeps (ctx : WsServerConnectionContext) (p : Step Command (Head ⊕ Unit))
    (t : List (ConnectionEvent Command)) : Prop :=
  (protocol Command ctx).wp (Owes (Standing ctx) fun _ t => Finished ctx t) p t

theorem wp_call {α : Type} {post : α → List (ConnectionEvent Command) → Prop}
    (op : ConnectionOp Command) (next : op.Res → Step Command α) (allowed : Allowed ctx t op)
    (rest : ∀ answer, (protocol Command ctx).wp post (next answer) (t ++ [⟨op, answer⟩])) :
    (protocol Command ctx).wp post (call op >>= next) t :=
  fun answer _ => ⟨allowed, rest answer⟩

theorem keeps_close (told : Told ctx cause t) :
    Keeps ctx (call .close >>= fun _ => pure (.inr ())) t :=
  wp_call _ _ ⟨cause, told.parted⟩ fun _ => Or.inr ⟨cause, told.quiet rfl⟩

theorem keeps_finish (phase : Phase ctx (some cause) t) :
    Keeps ctx (finishConnection cause) t := by
  refine wp_call (.onEvent (.closed cause)) _ ⟨phase.causes, phase.opened, phase.upgraded⟩ ?_
  intro answer
  have told := (phase.told : Told ctx cause (t ++ [⟨.onEvent (.closed cause), answer⟩]))
  cases closeFrame cause with
  | none => exact keeps_close told
  | some frame =>
    exact wp_call (.send (.close (some frame))) _ told.heard fun _ => keeps_close (told.quiet rfl)

theorem applied_sendBatch (frames : List WsFrame) (phase : Phase ctx none t) :
    (protocol Command ctx).wp (Phase ctx) (sendBatch frames) t := by
  induction frames generalizing t with
  | nil => exact phase
  | cons frame rest ih =>
    refine wp_call (.send frame) _ phase.heard fun answer => ?_
    have sent := phase.sent frame answer
    cases answer with
    | error error => exact sent
    | ok => exact ih sent

/-- The action is applied after the answer that asked for it. -/
theorem applied_applyAction {action : WsServerEndpointAction}
    {event : WsServerEndpointEvent Command}
    (phase : Phase ctx (reasonOf (⟨.onEvent event, .ok action⟩ : ConnectionEvent Command)) t) :
    (protocol Command ctx).wp (Phase ctx) (applyAction action) t := by
  cases action with
  | none => exact phase
  | send frame =>
    refine wp_call (.send frame) _ phase.heard fun answer => ?_
    have sent := phase.sent frame answer
    cases answer with
    | error error => exact sent
    | ok => exact sent
  | sendBatch batch => exact applied_sendBatch batch.drain phase
  | close frame => exact wp_call (.send (.close frame)) _ phase.heard fun _ => phase.quiet rfl

/-- One event is handled, from the phase that its delivery leaves. -/
theorem keeps_handled {event : WsServerEndpointEvent Command}
    (allowed : Allowed ctx t (.onEvent event))
    (after : ∀ answer, Phase ctx (reasonOf (⟨.onEvent event, answer⟩ : ConnectionEvent Command))
      (t ++ [⟨.onEvent event, answer⟩])) : Keeps ctx (handleEvent event) t := by
  refine wp_call (.onEvent event) _ allowed fun answer => ?_
  have phase := after answer
  cases answer with
  | error error => exact keeps_finish phase
  | ok action =>
    apply (wp_bind _).mpr
    apply wp_mono _ _ (applied_applyAction phase)
    intro result t' phase'
    cases result with
    | none => exact phase'
    | some cause => exact keeps_finish phase'

theorem keeps_ordinary {event : WsServerEndpointEvent Command} (phase : Phase ctx none t)
    (ordinary : Ordinary event) : Keeps ctx (handleEvent event) t := by
  refine keeps_handled ?_ fun _ => phase.ordinary ordinary
  cases event with
  | connected c => exact ordinary.elim
  | closed cause => exact ordinary.elim
  | frame frame => exact ⟨ordinary, phase.causes, phase.opened, phase.upgraded⟩
  | command command => exact ⟨ordinary, phase.causes, phase.opened, phase.upgraded⟩
  | tick => exact ⟨ordinary, phase.causes, phase.opened, phase.upgraded⟩

theorem keeps_arm (arm : ConnectionArm Command)
    (phase : Phase ctx (reasonOf (⟨.select, arm⟩ : ConnectionEvent Command)) t) :
    Keeps ctx (handleArm arm) t := by
  rcases arm with _ | item | received | _
  · exact keeps_finish phase
  · rcases item with _ | error | frame
    · exact keeps_finish phase
    · exact keeps_finish phase
    · cases frame with
      | text payload => exact keeps_ordinary phase trivial
      | binary payload => exact keeps_ordinary phase trivial
      | pong payload => exact phase
      | close frame => exact keeps_finish phase
      | ping payload =>
        refine wp_call (.send (.pong payload)) _ phase.heard fun answer => ?_
        have sent := phase.sent (.pong payload) answer
        cases answer with
        | error error => exact keeps_finish sent
        | ok => exact sent
  · rcases received with error | command
    · rcases error with missed | _
      · exact keeps_finish phase
      · exact keeps_finish phase
    · exact keeps_ordinary phase trivial
  · exact keeps_ordinary phase trivial

theorem not_upgraded_refused {op : ConnectionOp Command} {answer : op.Res}
    (refused : ∀ timeout websocket,
      (⟨op, answer⟩ : ConnectionEvent Command) ≠ ⟨.handshake timeout websocket, .completed⟩) :
    ¬ Upgraded [(⟨op, answer⟩ : ConnectionEvent Command)] := by
  rintro ⟨timeout, websocket, seen⟩
  exact refused timeout websocket (List.mem_singleton.mp seen).symm

/-- Every turn keeps to the protocol. -/
theorem protocol_turns (config : WsServerConfig) (head : Head)
    (standing : Standing ctx head t) : Keeps ctx (runConnection config ctx head) t := by
  cases head with
  | serving =>
    refine wp_call .select _ ⟨standing.causes, standing.opened⟩ fun arm => ?_
    exact keeps_arm arm (standing.quiet rfl)
  | accepted =>
    have start : t = [] := standing
    subst start
    refine wp_call (.handshake config.handshakeTimeout config.websocket) _ rfl fun answer => ?_
    cases answer with
    | rejected error =>
      refine Or.inl ⟨not_upgraded_refused ?_, rfl⟩
      intro timeout websocket same
      cases same
    | timedOut =>
      refine Or.inl ⟨not_upgraded_refused ?_, rfl⟩
      intro timeout websocket same
      cases same
    | completed =>
      have up : Upgraded [(⟨.handshake config.handshakeTimeout config.websocket, .completed⟩ :
          ConnectionEvent Command)] :=
        ⟨config.handshakeTimeout, config.websocket, List.mem_singleton.mpr rfl⟩
      refine wp_call (.createEndpoint ctx) _ ⟨rfl, up, rfl⟩ fun _ => ?_
      refine wp_call (.firstTick config.endpointTickInterval) _ ⟨upgraded_append up, rfl⟩ ?_
      intro _
      have up' := upgraded_append (s := [⟨.firstTick config.endpointTickInterval, ()⟩])
        (upgraded_append (s := [⟨.createEndpoint ctx, ()⟩]) up)
      exact keeps_handled ⟨rfl, up', rfl, rfl⟩ fun answer =>
        ⟨upgraded_append up', causeOf_snoc _ _, [], List.forall_mem_nil _, rfl⟩

/-- The event that an arm hands to the handler. -/
def eventOfArm : ConnectionArm Command → Option (WsServerEndpointEvent Command)
  | .incoming (some (.ok (.text payload))) => some (.frame (.text payload))
  | .incoming (some (.ok (.binary payload))) => some (.frame (.binary payload))
  | .command (.ok command) => some (.command command)
  | .tick => some .tick
  | _ => none

/-- The calls that answer an event or end a connection. -/
structure AllowsEnding (allowed : ConnectionOp Command → Prop) : Prop where
  send : ∀ frame, allowed (.send frame)
  closed : ∀ cause, allowed (.onEvent (.closed cause))
  close : allowed .close

/-- A turn ends at the loop or with the task. -/
def Onward (flow : Head ⊕ Unit) : Prop := flow ≠ .inl .accepted

section Calls
variable {allowed : ConnectionOp Command → Prop} (ends : AllowsEnding allowed)
include ends

theorem obeys_finish (cause : WsServerCloseCause) :
    (finishConnection cause).Obeys allowed Onward := by
  refine ⟨ends.closed cause, fun _ => ?_⟩
  cases closeFrame cause with
  | none => exact ⟨ends.close, fun _ => nofun⟩
  | some frame => exact ⟨ends.send _, fun _ => ⟨ends.close, fun _ => nofun⟩⟩

theorem obeys_sendBatch (frames : List WsFrame) :
    (sendBatch frames).Obeys allowed fun _ => True := by
  induction frames with
  | nil => trivial
  | cons frame rest ih =>
    refine ⟨ends.send frame, fun answer => ?_⟩
    cases answer with
    | error error => trivial
    | ok => exact ih

theorem obeys_applyAction (action : WsServerEndpointAction) :
    (applyAction action).Obeys allowed fun _ => True := by
  cases action with
  | none => trivial
  | sendBatch batch => exact obeys_sendBatch ends batch.drain
  | close frame => exact ⟨ends.send _, fun _ => trivial⟩
  | send frame =>
    refine ⟨ends.send frame, fun answer => ?_⟩
    cases answer <;> trivial

/-- Handling an event is telling the handler, and then only such calls. -/
theorem handleEvent_calls (event : WsServerEndpointEvent Command) :
    ∃ next, handleEvent event = .call (.onEvent event) next ∧
      ∀ answer, (next answer).Obeys allowed Onward := by
  refine ⟨_, rfl, fun answer => ?_⟩
  cases answer with
  | error error => exact obeys_finish ends _
  | ok action =>
    apply Prog.Obeys.bind (obeys_applyAction ends action)
    intro result _
    cases result with
    | none => exact nofun
    | some cause => exact obeys_finish ends cause

theorem obeys_handleEvent {event : WsServerEndpointEvent Command}
    (told : allowed (.onEvent event)) : (handleEvent event).Obeys allowed Onward := by
  obtain ⟨next, calls, rest⟩ := handleEvent_calls ends event
  rw [calls]
  exact ⟨told, rest⟩

theorem obeys_arm (arm : ConnectionArm Command)
    (told : ∀ event, eventOfArm arm = some event → allowed (.onEvent event)) :
    (handleArm arm).Obeys allowed Onward := by
  rcases arm with _ | item | received | _
  · exact obeys_finish ends _
  · rcases item with _ | error | frame
    · exact obeys_finish ends _
    · exact obeys_finish ends _
    · cases frame with
      | text payload => exact obeys_handleEvent ends (told _ rfl)
      | binary payload => exact obeys_handleEvent ends (told _ rfl)
      | pong payload => exact nofun
      | close frame => exact obeys_finish ends _
      | ping payload =>
        refine ⟨ends.send _, fun answer => ?_⟩
        cases answer with
        | error error => exact obeys_finish ends _
        | ok => exact nofun
  · rcases received with error | command
    · rcases error with missed | _
      · exact obeys_finish ends _
      · exact obeys_finish ends _
    · exact obeys_handleEvent ends (told _ rfl)
  · exact obeys_handleEvent ends (told _ rfl)

end Calls

/-- The rest of a turn makes no further choice, for a turn waits at its `select!` at most once. -/
abbrev Decided {α : Type} (p : Step Command α) : Prop :=
  p.Obeys (fun op => op ≠ ConnectionOp.select) fun _ => True

theorem decided_ending : AllowsEnding fun op : ConnectionOp Command => op ≠ .select where
  send := nofun
  closed := nofun
  close := nofun

/-- One call leaves a decided rest, and if it was the choice, the rest of its arm. -/
theorem fires_decided {config : WsServerConfig} {p q : Step Command (Head ⊕ Unit)}
    {e : ConnectionEvent Command} (decided : Decided p)
    (fires : Fires (runConnection config ctx) p e q) :
    Decided q ∧ ∀ arm, e = ⟨.select, arm⟩ → q = handleArm arm := by
  cases fires with
  | call op next ans =>
    refine ⟨decided.2 ans, fun arm same => ?_⟩
    cases same
    exact absurd rfl decided.1
  | @head c _ _ turn =>
    cases c with
    | serving =>
      cases turn with
      | call _ _ arm =>
        refine ⟨(obeys_arm decided_ending arm nofun).calls, fun other same => ?_⟩
        cases same
        rfl
    | accepted =>
      cases turn with
      | call _ _ answer =>
        refine ⟨?_, nofun⟩
        cases answer with
        | rejected error => trivial
        | timedOut => trivial
        | completed =>
          exact ⟨nofun, fun _ => ⟨nofun, fun _ => (obeys_handleEvent decided_ending nofun).calls⟩⟩

/-- After a run whose last call was the choice, the task is at the arm it took. -/
theorem arm_handled {config : WsServerConfig} {q : Step Command (Head ⊕ Unit)}
    {arm : ConnectionArm Command}
    (run : Reaches (runConnection config ctx) (.ret (.inl .accepted)) (t ++ [⟨.select, arm⟩]) q) :
    q = handleArm arm := by
  obtain ⟨r, before, last⟩ := run.split
  have decided : Decided r := by
    clear last run
    generalize start : (Prog.ret (.inl .accepted) : Step Command (Head ⊕ Unit)) = p at before
    have first : Decided p := by rw [← start]; trivial
    clear start
    induction before with
    | here => exact first
    | step fires _ ih => exact ih (fires_decided first fires).1
  cases last with
  | step fires rest =>
    cases rest with
    | here => exact (fires_decided decided fires).2 arm rfl

section Runs
variable {config : WsServerConfig} {q : Step Command (Head ⊕ Unit)}

/-- A task of the server, from its accepted socket on. -/
abbrev ConnectionRun (config : WsServerConfig) (ctx : WsServerConnectionContext)
    (t : List (ConnectionEvent Command)) (q : Step Command (Head ⊕ Unit)) : Prop :=
  Reaches (runConnection config ctx) (.ret (.inl .accepted)) t q

theorem protocol_run (run : ConnectionRun config ctx t q) :
    (∀ before e after, t = before ++ e :: after → Allowed ctx before e.op) ∧ Keeps ctx q t := by
  have relied : (protocol Command ctx).Along (protocol Command ctx).rely [] t :=
    (along_iff _).mpr fun _ _ _ _ => trivial
  obtain ⟨safe, owed⟩ := reaches_wp _ (fun head _ standing => protocol_turns config head standing)
    run (rfl : Standing ctx .accepted []) relied
  refine ⟨(history_along _ _).mp safe, ?_⟩
  rw [protocol, history_run] at owed
  exact owed

/-- What the handler has heard agrees with what the run has decided. -/
def Consistent (ctx : WsServerConnectionContext) (t : List (ConnectionEvent Command)) : Prop :=
  delivered t = [] ∧ causeOf t = none ∨ Upgraded t ∧ Open ctx (delivered t) ∨
    ∃ cause, Told ctx cause t

/-- Before the handler exists there is nothing that could give a reason. -/
theorem reasonOf_silent {e : ConnectionEvent Command} (allowed : Allowed ctx t e.op)
    (silent : delivered t = []) (untold : eventOf e = none) : reasonOf e = none := by
  rcases e with ⟨op, answer⟩
  cases op with
  | onEvent event => cases untold
  | select => exact absurd (silent ▸ allowed.2) not_open_nil
  | send frame => exact absurd silent allowed
  | _ => rfl

theorem Consistent.quiet {e : ConnectionEvent Command} (consistent : Consistent ctx t)
    (allowed : Allowed ctx t e.op) (untold : eventOf e = none) : Consistent ctx (t ++ [e]) := by
  have same : delivered (t ++ [e]) = delivered t := by rw [delivered_snoc, untold]; simp
  rcases consistent with ⟨silent, undecided⟩ | ⟨up, opened⟩ | ⟨cause, told⟩
  · refine Or.inl ⟨same.trans silent, ?_⟩
    rw [causeOf_snoc, undecided, reasonOf_silent allowed silent untold, Option.none_or]
  · exact Or.inr (Or.inl ⟨upgraded_append up, same ▸ opened⟩)
  · exact Or.inr (Or.inr ⟨cause, told.quiet untold⟩)

theorem Consistent.told {event : WsServerEndpointEvent Command}
    {answer : Except String WsServerEndpointAction} (allowed : Allowed ctx t (.onEvent event)) :
    Consistent ctx (t ++ [⟨.onEvent event, answer⟩]) := by
  have grown : delivered (t ++ [(⟨.onEvent event, answer⟩ : ConnectionEvent Command)]) =
      delivered t ++ [event] := delivered_snoc t _
  cases event with
  | connected c =>
    obtain ⟨rfl, up, silent, _⟩ := allowed
    refine Or.inr (Or.inl ⟨upgraded_append up, [], List.forall_mem_nil _, ?_⟩)
    rw [grown, silent, List.nil_append]
  | closed cause =>
    obtain ⟨causes, opened, up⟩ := allowed
    exact Or.inr (Or.inr ⟨cause, Phase.told ⟨up, causes, opened⟩⟩)
  | frame frame =>
    obtain ⟨ordinary, _, opened, up⟩ := allowed
    exact Or.inr (Or.inl ⟨upgraded_append up, grown ▸ open_snoc opened ordinary⟩)
  | command command =>
    obtain ⟨ordinary, _, opened, up⟩ := allowed
    exact Or.inr (Or.inl ⟨upgraded_append up, grown ▸ open_snoc opened ordinary⟩)
  | tick =>
    obtain ⟨ordinary, _, opened, up⟩ := allowed
    exact Or.inr (Or.inl ⟨upgraded_append up, grown ▸ open_snoc opened ordinary⟩)

theorem eventOf_eq_none {e : ConnectionEvent Command} :
    eventOf e = none ∨ ∃ event answer, e = ⟨.onEvent event, answer⟩ := by
  rcases e with ⟨op, answer⟩
  cases op with
  | onEvent event => exact Or.inr ⟨event, answer, rfl⟩
  | _ => exact Or.inl rfl

theorem consistent_run
    (allowed : ∀ before e after, t = before ++ e :: after → Allowed ctx before e.op) :
    Consistent ctx t := by
  refine history_induction t ?_ ?_ allowed
  · exact Or.inl ⟨rfl, rfl⟩
  · intro t e _ last before
    rcases eventOf_eq_none (e := e) with untold | ⟨event, answer, rfl⟩
    · exact before.quiet last untold
    · exact Consistent.told last

/-- Once there is a cause, the handler hears of it and of nothing else. -/
theorem delivered_decided {before after : List (ConnectionEvent Command)}
    (allowed : ∀ s e r, before ++ after = s ++ e :: r → Allowed ctx s e.op)
    (causes : causeOf before = some cause) :
    delivered after = [] ∨
      delivered after = [.closed cause] ∧ Told ctx cause (before ++ after) := by
  induction after using List.reverseRecOn with
  | nil => exact Or.inl rfl
  | append_singleton after e ih =>
    have shorter := ih fun s d r cut => allowed s d (r ++ [e]) (by
      rw [← List.append_assoc, cut, List.append_assoc, List.cons_append])
    have last : Allowed ctx (before ++ after) e.op := allowed _ e [] (by simp)
    have known : causeOf (before ++ after) = some cause := by
      simp [causeOf, List.findSome?_append, show before.findSome? reasonOf = _ from causes]
    rw [← List.append_assoc]
    rcases eventOf_eq_none (e := e) with untold | ⟨event, answer, rfl⟩
    · have same : delivered (after ++ [e]) = delivered after := by
        rw [delivered_snoc, untold]; simp
      rw [same]
      rcases shorter with silent | ⟨heard, told⟩
      · exact Or.inl silent
      · exact Or.inr ⟨heard, told.quiet untold⟩
    · have grown : delivered (after ++ [(⟨.onEvent event, answer⟩ : ConnectionEvent Command)]) =
          delivered after ++ [event] := delivered_snoc after _
      cases event with
      | closed other =>
        obtain ⟨same, opened, up⟩ := last
        rw [known] at same
        obtain rfl := Option.some.inj same
        rcases shorter with silent | ⟨_, told⟩
        · refine Or.inr ⟨?_, Phase.told ⟨up, known, opened⟩⟩
          rw [grown, silent, List.nil_append]
        · exact absurd opened (not_open_of_parted told.parted)
      | connected c => exact absurd (known.symm.trans last.2.2.2) nofun
      | frame frame => exact absurd (known.symm.trans last.2.1) nofun
      | command command => exact absurd (known.symm.trans last.2.1) nofun
      | tick => exact absurd (known.symm.trans last.2.1) nofun

def Closes (cause : WsServerCloseCause) (e : ConnectionEvent Command) : Prop :=
  ∃ answer, e = ⟨.onEvent (.closed cause), answer⟩

def Writes (e : ConnectionEvent Command) : Prop := ∃ frame answer, e = ⟨.send frame, answer⟩

def Leaves (e : ConnectionEvent Command) : Prop := Writes e ∨ ∃ answer, e = ⟨.close, answer⟩

def Returned (q : Step Command (Head ⊕ Unit)) : Prop := q = .ret (.inr ())

/-- With a cause on record, only writes come before the handler is told. -/
theorem telling (config : WsServerConfig) (ctx : WsServerConnectionContext)
    (cause : WsServerCloseCause) :
    Obligation (protocol Command ctx) (runConnection config ctx) (Standing ctx)
      (fun _ t => Finished ctx t) Writes (Closes cause) (fun _ => False)
      (Phase ctx (some cause)) (fun _ => 0) where
  answers := fun _ op => by
    cases op with
    | handshake _ _ => exact ⟨.completed, trivial⟩
    | select => exact ⟨.tick, trivial⟩
    | onEvent _ => exact ⟨.ok .none, trivial⟩
    | send _ => exact ⟨.ok (), trivial⟩
    | close => exact ⟨.ok (), trivial⟩
    | _ => exact ⟨(), trivial⟩
  keeps := by
    rintro t ⟨op, answer⟩ allowed phase missed
    cases op with
    | send frame => exact ⟨⟨frame, answer, rfl⟩, phase.sent frame answer, Nat.le_refl _⟩
    | handshake timeout websocket =>
      have start : t = [] := allowed
      subst start
      exact absurd phase.causes nofun
    | createEndpoint c => exact absurd (allowed.2.2 ▸ phase.opened) not_open_nil
    | firstTick interval => exact absurd (allowed.2 ▸ phase.opened) not_open_nil
    | select => exact absurd (phase.causes.symm.trans allowed.1) nofun
    | close =>
      obtain ⟨other, parted⟩ := allowed
      exact absurd phase.opened (not_open_of_parted parted)
    | onEvent event =>
      cases event with
      | closed other =>
        obtain rfl := Option.some.inj (phase.causes.symm.trans allowed.1)
        exact absurd ⟨answer, rfl⟩ missed
      | connected c => exact absurd (phase.causes.symm.trans allowed.2.2.2) nofun
      | frame frame => exact absurd (phase.causes.symm.trans allowed.2.1) nofun
      | command command => exact absurd (phase.causes.symm.trans allowed.2.1) nofun
      | tick => exact absurd (phase.causes.symm.trans allowed.2.1) nofun
  headway := by
    intro head t e q standing _ phase _ _
    cases head with
    | serving => exact absurd (phase.causes.symm.trans standing.causes) nofun
    | accepted =>
      have start : t = [] := standing
      subst start
      exact absurd phase.causes nofun
  ending := by
    rintro r t (⟨refused, _⟩ | ⟨other, told⟩) phase
    · exact refused phase.upgraded
    · exact not_open_of_parted told.parted phase.opened

/-- After `Closed` there are only the server's close frame and the end of the socket. -/
theorem parting (config : WsServerConfig) (ctx : WsServerConnectionContext)
    (cause : WsServerCloseCause) :
    Obligation (protocol Command ctx) (runConnection config ctx) (Standing ctx)
      (fun _ t => Finished ctx t) Leaves (fun _ => False) Returned (Told ctx cause)
      (fun _ => 0) where
  answers := (telling config ctx cause).answers
  keeps := by
    rintro t ⟨op, answer⟩ allowed told _
    have closed : ¬ Open ctx (delivered t) := not_open_of_parted told.parted
    have heard : delivered t ≠ [] := told.heard
    cases op with
    | send frame => exact ⟨Or.inl ⟨frame, answer, rfl⟩, told.quiet rfl, Nat.le_refl _⟩
    | close => exact ⟨Or.inr ⟨answer, rfl⟩, told.quiet rfl, Nat.le_refl _⟩
    | handshake timeout websocket =>
      have start : t = [] := allowed
      subst start
      exact absurd rfl heard
    | createEndpoint c => exact absurd allowed.2.2 heard
    | firstTick interval => exact absurd allowed.2 heard
    | select => exact absurd allowed.2 closed
    | onEvent event =>
      cases event with
      | closed other => exact absurd allowed.2.1 closed
      | connected c => exact absurd allowed.2.2.1 heard
      | frame frame => exact absurd allowed.2.2.1 closed
      | command command => exact absurd allowed.2.2.1 closed
      | tick => exact absurd allowed.2.2.1 closed
  headway := by
    intro head t e q standing _ told _ _
    cases head with
    | serving => exact absurd standing.opened (not_open_of_parted told.parted)
    | accepted =>
      have start : t = [] := standing
      subst start
      exact absurd told.causes nofun
  ending := fun _ _ _ _ => rfl

theorem runConnection_starts (config : WsServerConfig) (ctx : WsServerConnectionContext)
    (head : Head) : ∃ op next, (runConnection config ctx head : Step Command (Head ⊕ Unit)) =
      .call op next := by
  cases head with
  | accepted => exact ⟨_, _, rfl⟩
  | serving => exact ⟨_, _, rfl⟩

/-- A decided run is on its way to `Closed`, or has told it and is on its way out. -/
theorem leads_of_cause (run : ConnectionRun config ctx t q) (causes : causeOf t = some cause) :
    Parted ctx cause (delivered t) ∧ Leads (runConnection config ctx) Leaves (fun _ => False)
        Returned q ∨
      Leads (runConnection config ctx) Writes (Closes cause) (fun _ => False) q := by
  obtain ⟨allowed, owed⟩ := protocol_run run
  rcases consistent_run allowed with ⟨_, undecided⟩ | ⟨up, opened⟩ | ⟨other, told⟩
  · exact absurd (causes.symm.trans undecided) nofun
  · have leads := (telling config ctx cause).leads _ (runConnection_starts config ctx)
      (fun head _ standing => protocol_turns config head standing) owed ⟨up, causes, opened⟩
    exact Or.inr (leads.leads _ fun _ _ => trivial)
  · obtain rfl := Option.some.inj (causes.symm.trans told.causes)
    have leads := (parting config ctx cause).leads _ (runConnection_starts config ctx)
      (fun head _ standing => protocol_turns config head standing) owed told
    exact Or.inl ⟨told.parted, leads.leads _ fun _ _ => trivial⟩

/-- A decided run whose handler has heard nothing since is on its way to `Closed`. -/
theorem leads_of_silent {more : List (ConnectionEvent Command)}
    (run : ConnectionRun config ctx (t ++ more) q) (causes : causeOf t = some cause)
    (opened : Open ctx (delivered t)) (silent : delivered more = []) :
    Leads (runConnection config ctx) Writes (Closes cause) (fun _ => False) q := by
  have known : causeOf (t ++ more) = some cause := by
    rw [causeOf, List.findSome?_append]
    exact congrArg (Option.or · _) causes
  rcases leads_of_cause run known with ⟨parted, _⟩ | leads
  · rw [delivered_append, silent, List.append_nil] at parted
    exact absurd opened (not_open_of_parted parted)
  · exact leads

/-- The answer to a ping is the next call; then the loop goes on, or the failed
write is what the handler hears. -/
def Ponged (payload : Bytes) (after : List (ConnectionEvent Command)) : Prop :=
  after = [] ∨ ∃ result rest, after = ⟨.send (.pong payload), result⟩ :: rest ∧
    match result with
    | .ok () => ∀ e ∈ rest.head?, e.op = .select
    | .error error => ∀ e ∈ rest.head?, e.op = .onEvent (.closed (.transportError error))

theorem ping_answered {before after : List (ConnectionEvent Command)} {payload : Bytes}
    (run : ConnectionRun config ctx
      (before ++ ⟨.select, .incoming (some (.ok (.ping payload)))⟩ :: after) q) :
    Ponged payload after := by
  rw [List.append_cons] at run
  obtain ⟨r, chosen, rest⟩ := run.split
  obtain rfl := arm_handled chosen
  cases rest with
  | here => exact Or.inl rfl
  | step first rest =>
    cases first with
    | call _ _ result =>
      refine Or.inr ⟨result, _, rfl, ?_⟩
      cases result with
      | ok =>
        intro e next
        cases rest with
        | here => cases next
        | step second _ =>
          cases next
          cases second with
          | head turn => cases turn; rfl
      | error error =>
        intro e next
        cases rest with
        | here => cases next
        | step second _ =>
          cases next
          cases second
          rfl

/-- The protocol between a connection and its handler, for a run `t` that
stands at `q`. -/
structure KeepsProtocol (config : WsServerConfig) (ctx : WsServerConnectionContext)
    (t : List (ConnectionEvent Command)) (q : Step Command (Head ⊕ Unit)) : Prop where
  refused : ¬ Upgraded t → delivered t = [] ∧ ∀ e ∈ t, ∀ c, e.op ≠ .createEndpoint c
  ordered : delivered t = [] ∨ Open ctx (delivered t) ∨ ∃ cause, Parted ctx cause (delivered t)
  answered : ∀ before payload after,
    t = before ++ ⟨.select, .incoming (some (.ok (.ping payload)))⟩ :: after → Ponged payload after
  decided : ∀ before after cause, t = before ++ after → causeOf before = some cause →
    delivered after = [] ∨ delivered after = [.closed cause]
  closes : ∀ cause, causeOf t = some cause →
    Parted ctx cause (delivered t) ∧
        Leads (runConnection config ctx) Leaves (fun _ => False) Returned q ∨
      Leads (runConnection config ctx) Writes (Closes cause) (fun _ => False) q
  returned : Returned q → ¬ Upgraded t ∧ delivered t = [] ∨
    ∃ cause, Parted ctx cause (delivered t) ∧ causeOf t = some cause

theorem refused_silent (run : ConnectionRun config ctx t q) (refused : ¬ Upgraded t) :
    delivered t = [] ∧ ∀ e ∈ t, ∀ c, e.op ≠ .createEndpoint c := by
  obtain ⟨allowed, _⟩ := protocol_run run
  constructor
  · rcases consistent_run allowed with ⟨silent, _⟩ | ⟨up, _⟩ | ⟨cause, told⟩
    · exact silent
    · exact absurd up refused
    · exact absurd told.upgraded refused
  · intro e listed c asked
    obtain ⟨before, after, cut⟩ := List.append_of_mem listed
    have permitted := allowed before e after cut
    rw [asked] at permitted
    rw [cut] at refused
    exact refused (upgraded_append permitted.2.1)

/-- Whatever the handler, the peer, the commands and the clock do. -/
theorem events_follow_protocol (run : ConnectionRun config ctx t q) :
    KeepsProtocol config ctx t q := by
  obtain ⟨allowed, owed⟩ := protocol_run run
  constructor
  · exact refused_silent run
  · rcases consistent_run allowed with ⟨silent, _⟩ | ⟨_, opened⟩ | ⟨cause, told⟩
    · exact Or.inl silent
    · exact Or.inr (Or.inl opened)
    · exact Or.inr (Or.inr ⟨cause, told.parted⟩)
  · rintro before payload after rfl
    exact ping_answered run
  · rintro before after cause rfl causes
    rcases delivered_decided allowed causes with silent | ⟨heard, _⟩
    · exact Or.inl silent
    · exact Or.inr heard
  · intro cause causes
    exact leads_of_cause run causes
  · rintro rfl
    rcases owed with refused | ⟨cause, told⟩
    · exact Or.inl refused
    · exact Or.inr ⟨cause, told.parted, told.causes⟩

end Runs

/-- A client that pings once and a handler that closes on its first command,
with a socket that is gone by then. -/
def briefVisit : Nat → (op : ConnectionOp Nat) → op.Res
  | 4, .select => .incoming (some (.ok (.ping (ByteArray.mk #[1, 2]))))
  | _, .select => .command (.ok 7)
  | 7, .onEvent _ => .ok (.close none)
  | _, .onEvent _ => .ok .none
  | 8, .send _ => .error "gone"
  | _, .send _ => .ok ()
  | _, .handshake _ _ => .completed
  | _, .createEndpoint _ => ()
  | _, .firstTick _ => ()
  | _, .close => .ok ()

def localhost (port : UInt16) : SocketAddr := .v4 (BitVec.ofNat 32 0x7f000001) port

theorem brief_visit_follows_protocol :
    ∃ t : List (ConnectionEvent Nat), ∃ q,
      ConnectionRun (.new (localhost 80)) ⟨0, localhost 5000, localhost 80⟩ t q ∧ Returned q ∧
      delivered t = [.connected ⟨0, localhost 5000, localhost 80⟩, .command 7,
        .closed .handlerRequested] ∧
      KeepsProtocol (.new (localhost 80)) ⟨0, localhost 5000, localhost 80⟩ t q := by
  have run := (play_reaches briefVisit 11 0 _ : ConnectionRun (.new (localhost 80))
    ⟨0, localhost 5000, localhost 80⟩ _ _)
  exact ⟨_, _, run, rfl, rfl, events_follow_protocol run⟩

end ConnectionProtocol
