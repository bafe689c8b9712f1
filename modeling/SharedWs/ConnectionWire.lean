import SharedWs.CommandFanout

/-!
# The wire of a connection

A connection answers what happens to it: an action of the handler asks for frames, a ping asks
for a pong, and the end of the connection may ask for a close frame. The frames go out in the
order in which they were asked for, and all of them before the next `select!`. A write that fails
ends the writing. In the other direction the handler is given the text and binary frames that
were read, each once and in order.

Together with the fanout of commands this fixes what a client sees of the commands: if the handler
turns every command into data frames and asks for no other, the data frames of the connection
are those of a segment of the dispatches without a gap.
-/
namespace ConnectionWire

open BroadcastRing InteractionPrograms InteractionMonitors InteractionMonitors.Monitor
open CommandFanout ConnectionBudget ConnectionProtocol ConnectionTask ServerSystem ServerTypes
open ServerTask WsFrames

variable {Command : Type}

def writeOf : ConnectionEvent Command → Option WsFrame
  | ⟨.send frame, _⟩ => some frame
  | _ => none

/-- The frames that a run tried to write. -/
def written (t : List (ConnectionEvent Command)) : List WsFrame := t.filterMap writeOf

/-- The frames that an action asks for. -/
def framesOf : WsServerEndpointAction → List WsFrame
  | .none => []
  | .send frame => [frame]
  | .sendBatch batch => batch.drain
  | .close frame => [.close frame]

/-- The frame that the server itself closes with, as it goes out. -/
def farewell (cause : WsServerCloseCause) : List WsFrame :=
  (closeFrame cause).toList.map fun frame => .close (some frame)

/-- The frames that one call asks for with its answer. The answer to `Closed` is dropped. -/
def repliesOf : ConnectionEvent Command → List WsFrame
  | ⟨.onEvent (.closed cause), _⟩ => farewell cause
  | ⟨.onEvent _, .ok action⟩ => framesOf action
  | ⟨.select, .incoming (some (.ok (.ping payload)))⟩ => [.pong payload]
  | _ => []

/-- The frames that a run was asked to write. -/
def replies (t : List (ConnectionEvent Command)) : List WsFrame := t.flatMap repliesOf

def inboundOf : ConnectionEvent Command → Option WsFrame
  | ⟨.select, .incoming (some (.ok (.text payload)))⟩ => some (.text payload)
  | ⟨.select, .incoming (some (.ok (.binary payload)))⟩ => some (.binary payload)
  | _ => none

/-- The application frames that a run read. -/
def inbound (t : List (ConnectionEvent Command)) : List WsFrame := t.filterMap inboundOf

def handedOf : ConnectionEvent Command → Option WsFrame
  | ⟨.onEvent (.frame frame), _⟩ => some frame
  | _ => none

/-- The frames that the handler was given. -/
def handed (t : List (ConnectionEvent Command)) : List WsFrame := t.filterMap handedOf

/-- A write that fails. -/
def FailedWrite : ConnectionEvent Command → Prop
  | ⟨.send _, .error _⟩ => True
  | _ => False

def Sound (t : List (ConnectionEvent Command)) : Prop := ∀ e ∈ t, ¬ FailedWrite e

section Traces
variable (t : List (ConnectionEvent Command)) (e : ConnectionEvent Command)

theorem written_snoc : written (t ++ [e]) = written t ++ (writeOf e).toList :=
  filterMap_snoc writeOf t e

theorem replies_snoc : replies (t ++ [e]) = replies t ++ repliesOf e := by
  simp [replies]

theorem inbound_snoc : inbound (t ++ [e]) = inbound t ++ (inboundOf e).toList :=
  filterMap_snoc inboundOf t e

theorem handed_snoc : handed (t ++ [e]) = handed t ++ (handedOf e).toList :=
  filterMap_snoc handedOf t e

variable {t e}

theorem Sound.snoc (sound : Sound t) (lasts : ¬ FailedWrite e) : Sound (t ++ [e]) := by
  intro d listed
  rcases List.mem_append.mp listed with early | late
  · exact sound d early
  · rw [List.mem_singleton.mp late]
    exact lasts

theorem not_sound_snoc (broken : ¬ Sound t) : ¬ Sound (t ++ [e]) :=
  fun sound => broken fun d listed => sound d (List.mem_append_left _ listed)

end Traces

/-- No write has failed; `due` was asked for and is not written, `inbox` was read and is not
handed to the handler. -/
structure Stage (due inbox : List WsFrame) (t : List (ConnectionEvent Command)) : Prop where
  outbound : replies t = written t ++ due
  inbound : inbound t = handed t ++ inbox
  sound : Sound t

/-- A write has failed. -/
structure Snapped (t : List (ConnectionEvent Command)) : Prop where
  outbound : written t <+: replies t
  inbound : inbound t = handed t
  broken : ¬ Sound t

/-- What may be called after the calls made so far. -/
def Permitted (t : List (ConnectionEvent Command)) : ConnectionOp Command → Prop
  | .send frame => ∃ rest, Stage (frame :: rest) [] t
  | .onEvent (.frame frame) => Stage [] [frame] t
  | .onEvent (.closed _) | .close => Stage [] [] t ∨ Snapped t
  | .handshake _ _ | .createEndpoint _ | .firstTick _ | .onEvent _ | .select => Stage [] [] t

def wire (Command : Type) :
    Monitor (connectionSignature Command) (List (ConnectionEvent Command)) :=
  history (fun _ _ => True) fun t e => Permitted t e.op

variable {t : List (ConnectionEvent Command)} {cause : WsServerCloseCause}
variable {due inbox : List WsFrame}

theorem wp_permitted {α : Type} {post : α → List (ConnectionEvent Command) → Prop}
    (op : ConnectionOp Command) (next : op.Res → Step Command α) (permitted : Permitted t op)
    (rest : ∀ answer, (wire Command).wp post (next answer) (t ++ [⟨op, answer⟩])) :
    (wire Command).wp post (call op >>= next) t :=
  fun answer _ => ⟨permitted, rest answer⟩

/-- A call that writes nothing and hands nothing over adds to the debt. -/
theorem Stage.asked (stage : Stage [] [] t) (e : ConnectionEvent Command)
    (silent : writeOf e = none) (kept : handedOf e = none) (lasts : ¬ FailedWrite e) :
    Stage (repliesOf e) (inboundOf e).toList (t ++ [e]) where
  outbound := by rw [replies_snoc, written_snoc, silent, stage.outbound]; simp
  inbound := by rw [inbound_snoc, handed_snoc, kept, stage.inbound]; simp
  sound := stage.sound.snoc lasts

theorem stage_sent {frame : WsFrame} {rest : List WsFrame} (stage : Stage (frame :: rest) [] t) :
    Stage rest [] (t ++ [⟨.send frame, .ok ()⟩]) where
  outbound := by
    rw [replies_snoc, written_snoc, stage.outbound]
    simp [repliesOf, writeOf]
  inbound := by
    rw [inbound_snoc, handed_snoc, stage.inbound]
    rfl
  sound := stage.sound.snoc id

theorem snapped_sent {frame : WsFrame} {rest : List WsFrame} {error : String}
    (stage : Stage (frame :: rest) [] t) : Snapped (t ++ [⟨.send frame, .error error⟩]) where
  outbound := by
    refine ⟨rest, ?_⟩
    rw [replies_snoc, written_snoc, stage.outbound]
    simp [repliesOf, writeOf]
  inbound := by
    rw [inbound_snoc, handed_snoc, stage.inbound]
    simp [inboundOf, handedOf]
  broken := fun sound => sound _ (List.mem_append_right t List.mem_cons_self) trivial

/-- After a failed write the task only tells `Closed` and closes the socket. -/
theorem Snapped.snoc (snapped : Snapped t) (e : ConnectionEvent Command)
    (silent : writeOf e = none) (unread : inboundOf e = none) (kept : handedOf e = none) :
    Snapped (t ++ [e]) where
  outbound := by
    rw [written_snoc, silent, replies_snoc, Option.toList_none, List.append_nil]
    exact snapped.outbound.trans (List.prefix_append _ _)
  inbound := by rw [inbound_snoc, handed_snoc, unread, kept, snapped.inbound]
  broken := not_sound_snoc snapped.broken

/-- The loop has ended; a cause with a frame of the server's finds the wire whole. -/
def Finishing (cause : WsServerCloseCause) (t : List (ConnectionEvent Command)) : Prop :=
  Stage [] [] t ∨ Snapped t ∧ farewell cause = []

/-- Everything is written, or a write has failed. -/
def Over (t : List (ConnectionEvent Command)) : Prop := Stage [] [] t ∨ Snapped t

def Stands : Head → List (ConnectionEvent Command) → Prop
  | .accepted, t | .serving, t => Stage [] [] t

abbrev Fits (p : Step Command (Head ⊕ Unit)) (t : List (ConnectionEvent Command)) : Prop :=
  (wire Command).wp (Owes Stands fun _ t => Over t) p t

theorem fits_close (whole : Over t) :
    Fits (call .close >>= fun _ => pure (.inr ()) : Step Command (Head ⊕ Unit)) t := by
  refine wp_permitted .close _ whole fun result => ?_
  rcases whole with stage | snapped
  · exact Or.inl (stage.asked ⟨.close, result⟩ rfl rfl id)
  · exact Or.inr (snapped.snoc ⟨.close, result⟩ rfl rfl rfl)

theorem fits_finish (finishing : Finishing cause t) :
    Fits (finishConnection cause : Step Command (Head ⊕ Unit)) t := by
  refine wp_permitted (.onEvent (.closed cause)) _ (finishing.imp_right And.left) fun answer => ?_
  have told : Stage (farewell cause) [] (t ++ [⟨.onEvent (.closed cause), answer⟩]) ∨
      Snapped (t ++ [⟨.onEvent (.closed cause), answer⟩]) ∧ farewell cause = [] := by
    rcases finishing with stage | ⟨snapped, unsaid⟩
    · exact Or.inl (stage.asked ⟨.onEvent (.closed cause), answer⟩ rfl rfl id)
    · exact Or.inr ⟨snapped.snoc _ rfl rfl rfl, unsaid⟩
  unfold farewell at told
  cases said : closeFrame cause with
  | none =>
    rw [said] at told
    exact fits_close (told.imp_right And.left)
  | some frame =>
    rw [said] at told
    rcases told with stage | ⟨_, unsaid⟩
    · refine wp_permitted (.send (.close (some frame))) _ ⟨[], stage⟩ fun result => ?_
      cases result with
      | ok => exact fits_close (Or.inl (stage_sent stage))
      | error error => exact fits_close (Or.inr (snapped_sent stage))
    · cases unsaid

def Applied : Option WsServerCloseCause → List (ConnectionEvent Command) → Prop
  | none, t => Stage [] [] t
  | some cause, t => Finishing cause t

theorem fits_sendBatch (frames : List WsFrame) (stage : Stage frames [] t) :
    (wire Command).wp Applied (sendBatch frames) t := by
  induction frames generalizing t with
  | nil => exact stage
  | cons frame rest ih =>
    refine wp_permitted (.send frame) _ ⟨rest, stage⟩ fun answer => ?_
    cases answer with
    | error error => exact Or.inr ⟨snapped_sent stage, rfl⟩
    | ok => exact ih (stage_sent stage)

theorem fits_applyAction (action : WsServerEndpointAction) (stage : Stage (framesOf action) [] t) :
    (wire Command).wp Applied (applyAction action) t := by
  cases action with
  | none => exact stage
  | send frame =>
    refine wp_permitted (.send frame) _ ⟨[], stage⟩ fun answer => ?_
    cases answer with
    | error error => exact Or.inr ⟨snapped_sent stage, rfl⟩
    | ok => exact stage_sent stage
  | sendBatch batch => exact fits_sendBatch batch.drain stage
  | close frame =>
    refine wp_permitted (.send (.close frame)) _ ⟨[], stage⟩ fun answer => ?_
    cases answer with
    | error error => exact Or.inr ⟨snapped_sent stage, rfl⟩
    | ok => exact Or.inl (stage_sent stage)

theorem repliesOf_answered {event : WsServerEndpointEvent Command}
    (action : WsServerEndpointAction) (early : ∀ cause, event ≠ .closed cause) :
    repliesOf (⟨.onEvent event, .ok action⟩ : ConnectionEvent Command) = framesOf action := by
  cases event with
  | closed cause => exact absurd rfl (early cause)
  | _ => rfl

theorem repliesOf_failed {event : WsServerEndpointEvent Command} {error : String}
    (early : ∀ cause, event ≠ .closed cause) :
    repliesOf (⟨.onEvent event, .error error⟩ : ConnectionEvent Command) = [] := by
  cases event with
  | closed cause => exact absurd rfl (early cause)
  | _ => rfl

/-- The rest of the turn, from the debt that the handler's answer leaves. -/
theorem fits_handled {event : WsServerEndpointEvent Command}
    (permitted : Permitted t (.onEvent event)) (early : ∀ cause, event ≠ .closed cause)
    (after : ∀ answer, Stage (repliesOf (⟨.onEvent event, answer⟩ : ConnectionEvent Command)) []
      (t ++ [⟨.onEvent event, answer⟩])) : Fits (handleEvent event) t := by
  refine wp_permitted (.onEvent event) _ permitted fun answer => ?_
  have stage := after answer
  cases answer with
  | error error =>
    rw [repliesOf_failed early] at stage
    exact fits_finish (Or.inl stage)
  | ok action =>
    rw [repliesOf_answered action early] at stage
    apply (wp_bind _).mpr
    apply wp_mono _ _ (fits_applyAction action stage)
    intro result t' applied
    cases result with
    | none => exact applied
    | some cause => exact fits_finish applied

theorem fits_frame {frame : WsFrame} (stage : Stage [] [frame] t) :
    Fits (handleEvent (.frame frame)) t := by
  refine fits_handled stage nofun fun answer => ?_
  constructor
  · rw [replies_snoc, written_snoc, stage.outbound]
    simp [writeOf]
  · rw [inbound_snoc, handed_snoc, stage.inbound]
    simp [inboundOf, handedOf]
  · exact stage.sound.snoc id

theorem fits_arm (arm : ConnectionArm Command)
    (stage : Stage (repliesOf (⟨.select, arm⟩ : ConnectionEvent Command))
      (inboundOf (⟨.select, arm⟩ : ConnectionEvent Command)).toList t) :
    Fits (handleArm arm) t := by
  rcases arm with _ | item | received | _
  · exact fits_finish (Or.inl stage)
  · rcases item with _ | error | frame
    · exact fits_finish (Or.inl stage)
    · exact fits_finish (Or.inl stage)
    · cases frame with
      | text payload => exact fits_frame stage
      | binary payload => exact fits_frame stage
      | pong payload => exact stage
      | close frame => exact fits_finish (Or.inl stage)
      | ping payload =>
        refine wp_permitted (.send (.pong payload)) _ ⟨[], stage⟩ fun answer => ?_
        cases answer with
        | error error => exact fits_finish (Or.inr ⟨snapped_sent stage, rfl⟩)
        | ok => exact stage_sent stage
  · rcases received with error | command
    · rcases error with missed | _
      · exact fits_finish (Or.inl stage)
      · exact fits_finish (Or.inl stage)
    · exact fits_handled stage nofun fun answer => stage.asked _ rfl rfl id
  · exact fits_handled stage nofun fun answer => stage.asked _ rfl rfl id

theorem stage_nil : Stage [] [] ([] : List (ConnectionEvent Command)) :=
  ⟨rfl, rfl, fun _ listed => absurd listed List.not_mem_nil⟩

theorem wire_turns (config : WsServerConfig) (ctx : WsServerConnectionContext) (head : Head)
    (stands : Stands head t) :
    Fits (runConnection config ctx head : Step Command (Head ⊕ Unit)) t := by
  cases head with
  | serving =>
    have stage : Stage [] [] t := stands
    exact wp_permitted .select _ stage fun arm => fits_arm arm (stage.asked _ rfl rfl id)
  | accepted =>
    have stage : Stage [] [] t := stands
    refine wp_permitted (.handshake config.handshakeTimeout config.websocket) _ stage ?_
    intro answer
    have shaken := stage.asked ⟨.handshake config.handshakeTimeout config.websocket, answer⟩
      rfl rfl id
    cases answer with
    | rejected error => exact Or.inl shaken
    | timedOut => exact Or.inl shaken
    | completed =>
      refine wp_permitted (.createEndpoint ctx) _ shaken fun _ => ?_
      have made := Stage.asked shaken ⟨.createEndpoint ctx, ()⟩ rfl rfl id
      refine wp_permitted (.firstTick config.endpointTickInterval) _ made fun _ => ?_
      have timed := Stage.asked made ⟨.firstTick config.endpointTickInterval, ()⟩ rfl rfl id
      exact fits_handled timed nofun fun answer => Stage.asked timed _ rfl rfl id

section Runs
variable {config : WsServerConfig} {ctx : WsServerConnectionContext}
variable {q : Step Command (Head ⊕ Unit)}

theorem wire_run (run : ConnectionRun config ctx t q) :
    (∀ before e after, t = before ++ e :: after → Permitted before e.op) ∧ Fits q t := by
  have relied : (wire Command).Along (wire Command).rely [] t :=
    (along_iff _).mpr fun _ _ _ _ => trivial
  obtain ⟨safe, owed⟩ := reaches_wp _ (fun head _ stands => wire_turns config ctx head stands)
    run (stage_nil : Stands .accepted []) relied
  refine ⟨(history_along _ _).mp safe, ?_⟩
  rw [wire, history_run] at owed
  exact owed

theorem writeOf_eq_some {e : ConnectionEvent Command} {frame : WsFrame}
    (writes : writeOf e = some frame) : ∃ answer, e = ⟨.send frame, answer⟩ := by
  rcases e with ⟨op, answer⟩
  cases op with
  | send other =>
    cases writes
    exact ⟨answer, rfl⟩
  | _ => cases writes

theorem handedOf_eq_some {e : ConnectionEvent Command} {frame : WsFrame}
    (hands : handedOf e = some frame) : ∃ answer, e = ⟨.onEvent (.frame frame), answer⟩ := by
  rcases e with ⟨op, answer⟩
  cases op with
  | onEvent event =>
    cases event with
    | frame other =>
      cases hands
      exact ⟨answer, rfl⟩
    | _ => cases hands
  | _ => cases hands

section Calls
variable (calls : ∀ before e after, t = before ++ e :: after → Permitted before e.op)
include calls

theorem written_of_replies : written t <+: replies t := by
  refine history_induction t (List.prefix_refl _) ?_ calls
  intro t e _ permitted earlier
  rw [written_snoc, replies_snoc]
  cases writes : writeOf e with
  | none =>
    rw [Option.toList_none, List.append_nil]
    exact earlier.trans (List.prefix_append _ _)
  | some frame =>
    obtain ⟨answer, rfl⟩ := writeOf_eq_some writes
    obtain ⟨rest, stage⟩ := permitted
    rw [stage.outbound]
    exact ⟨rest, by simp [repliesOf]⟩

theorem handed_of_inbound : handed t <+: inbound t := by
  refine history_induction t (List.prefix_refl _) ?_ calls
  intro t e _ permitted earlier
  rw [handed_snoc, inbound_snoc]
  cases hands : handedOf e with
  | none =>
    rw [Option.toList_none, List.append_nil]
    exact earlier.trans (List.prefix_append _ _)
  | some frame =>
    obtain ⟨answer, rfl⟩ := handedOf_eq_some hands
    have stage : Stage [] [frame] t := permitted
    rw [stage.inbound]
    exact ⟨[], by simp [inboundOf]⟩

/-- A failed write forbids every later one. -/
theorem written_after_failure {before after : List (ConnectionEvent Command)}
    {e : ConnectionEvent Command} (cut : t = before ++ e :: after) (fails : FailedWrite e) :
    written after = [] := by
  refine List.filterMap_eq_nil_iff.mpr fun later listed => ?_
  cases writes : writeOf later with
  | none => rfl
  | some frame =>
    obtain ⟨answer, rfl⟩ := writeOf_eq_some writes
    obtain ⟨between, rest, rfl⟩ := List.append_of_mem listed
    obtain ⟨left, stage⟩ : Permitted (before ++ e :: between) (.send frame) :=
      calls _ ⟨.send frame, answer⟩ rest (by rw [cut, List.append_assoc, List.cons_append])
    exact absurd fails (stage.sound e (List.mem_append_right before List.mem_cons_self))

end Calls

/-- What goes over the wire of one connection, against what was asked of it. -/
structure WireKept (t : List (ConnectionEvent Command)) (q : Step Command (Head ⊕ Unit)) : Prop
    where
  outbound : written t <+: replies t
  inward : handed t <+: inbound t
  -- nothing is left over when the connection looks at its sources again
  settled : ∀ before arm after, t = before ++ ⟨.select, arm⟩ :: after →
    written before = replies before ∧ handed before = inbound before
  silenced : ∀ before frame error after, t = before ++ ⟨.send frame, .error error⟩ :: after →
    written after = []
  ended : q = .ret (.inr ()) → handed t = inbound t ∧
    (written t = replies t ∨ ∃ frame error, ⟨.send frame, .error error⟩ ∈ t)

theorem failedWrite_iff {e : ConnectionEvent Command} :
    FailedWrite e ↔ ∃ frame error, e = ⟨.send frame, .error error⟩ := by
  rcases e with ⟨op, answer⟩
  constructor
  · intro fails
    cases op with
    | send frame =>
      cases answer with
      | error error => exact ⟨frame, error, rfl⟩
      | ok => cases fails
    | _ => cases fails
  · rintro ⟨frame, error, same⟩
    rw [same]
    trivial

theorem wire_kept (run : ConnectionRun config ctx t q) : WireKept t q := by
  obtain ⟨calls, rest⟩ := wire_run run
  refine ⟨written_of_replies calls, handed_of_inbound calls, ?_, ?_, ?_⟩
  · intro before arm after cut
    have stage : Stage [] [] before := calls before _ after cut
    have out := stage.outbound
    have inn := stage.inbound
    rw [List.append_nil] at out inn
    exact ⟨out.symm, inn.symm⟩
  · intro before frame error after cut
    exact written_after_failure calls cut trivial
  · rintro rfl
    have whole : Over t := rest
    rcases whole with stage | snapped
    · have out := stage.outbound
      have inn := stage.inbound
      rw [List.append_nil] at out inn
      exact ⟨inn.symm, Or.inl out.symm⟩
    · refine ⟨snapped.inbound.symm, Or.inr ?_⟩
      by_contra none_failed
      apply snapped.broken
      intro e listed fails
      obtain ⟨frame, error, rfl⟩ := failedWrite_iff.mp fails
      exact none_failed ⟨frame, error, listed⟩

end Runs

/-- The handler greets with three frames, and the connection breaks at the second. -/
def greeting : List WsFrame := [.ping ⟨#[1]⟩, .ping ⟨#[2]⟩, .ping ⟨#[3]⟩]

def brokenVisit : Nat → (op : ConnectionOp Nat) → op.Res
  | _, .onEvent (.connected _) => .ok (.sendBatch (WsServerFrameBatch.new.fromIter greeting))
  | _, .onEvent _ => .ok .none
  | _, .send frame => if frame = .ping ⟨#[2]⟩ then .error "broken pipe" else .ok ()
  | _, .handshake _ _ => .completed
  | _, .select => .shutdown
  | _, .createEndpoint _ => ()
  | _, .firstTick _ => ()
  | _, .close => .ok ()

def brokenRun : List (ConnectionEvent Nat) × Step Nat (Head ⊕ Unit) :=
  play (runConnection (.new (localhost 80)) ⟨0, localhost 5000, localhost 80⟩) brokenVisit 8 0
    (.ret (.inl .accepted))

theorem wire_kept_broken :
    replies brokenRun.1 = greeting ∧ written brokenRun.1 = greeting.take 2 ∧
      Returned brokenRun.2 ∧ WireKept brokenRun.1 brokenRun.2 :=
  ⟨rfl, rfl, rfl, wire_kept (play_reaches brokenVisit 8 0 _ : ConnectionRun (.new (localhost 80))
    ⟨0, localhost 5000, localhost 80⟩ _ _)⟩

def IsData : WsFrame → Bool
  | .text _ | .binary _ => true
  | .close _ | .ping _ | .pong _ => false

def dataFrames (frames : List WsFrame) : List WsFrame := frames.filter IsData

/-- The handler turns a command into the action `act` gives for it, and asks for data at no other
event. What it answers to `Closed` is left open. -/
def Relays (act : Command → WsServerEndpointAction) : ConnectionEvent Command → Prop
  | ⟨.onEvent (.command command), answer⟩ => answer = .ok (act command)
  | ⟨.onEvent (.connected _), .ok action⟩ | ⟨.onEvent (.frame _), .ok action⟩
  | ⟨.onEvent .tick, .ok action⟩ => dataFrames (framesOf action) = []
  | _ => True

/-- The data frames of the actions for `commands`. -/
def broadcast (act : Command → WsServerEndpointAction) (commands : List Command) : List WsFrame :=
  commands.flatMap fun command => dataFrames (framesOf (act command))

section Relaying
variable {act : Command → WsServerEndpointAction}

theorem dataFrames_append (first second : List WsFrame) :
    dataFrames (first ++ second) = dataFrames first ++ dataFrames second :=
  List.filter_append ..

theorem dataFrames_mono {first second : List WsFrame} (part : first <+: second) :
    dataFrames first <+: dataFrames second := by
  obtain ⟨rest, rfl⟩ := part
  rw [dataFrames_append]
  exact List.prefix_append _ _

theorem broadcast_mono {first second : List Command} (part : first <+: second) :
    broadcast act first <+: broadcast act second := by
  obtain ⟨rest, rfl⟩ := part
  rw [broadcast, broadcast, List.flatMap_append]
  exact List.prefix_append _ _

theorem dataFrames_farewell (cause : WsServerCloseCause) : dataFrames (farewell cause) = [] := by
  cases cause <;> rfl

/-- Only commands make data, and each makes the data of its action. -/
theorem dataFrames_repliesOf {e : ConnectionEvent Command} (relays : Relays act e) :
    dataFrames (repliesOf e) = broadcast act ((eventOf e).bind commandOf).toList := by
  rcases e with ⟨op, answer⟩
  cases op with
  | onEvent event =>
    cases event with
    | command command =>
      have answered : answer = .ok (act command) := relays
      rw [answered]
      exact (List.append_nil _).symm
    | closed cause => exact dataFrames_farewell cause
    | connected ctx => cases answer with
      | ok action => exact relays
      | error error => rfl
    | frame frame => cases answer with
      | ok action => exact relays
      | error error => rfl
    | tick => cases answer with
      | ok action => exact relays
      | error error => rfl
  | select =>
    rcases answer with _ | (_ | _ | frame) | _ | _
    case incoming.some.ok => cases frame <;> rfl
    all_goals rfl
  | _ => rfl

theorem dataFrames_replies (relays : ∀ e ∈ t, Relays act e) :
    dataFrames (replies t) = broadcast act (receivedCommands t) := by
  induction t using List.reverseRecOn with
  | nil => rfl
  | append_singleton t e ih =>
    have earlier := ih fun d listed => relays d (List.mem_append_left _ listed)
    have last := dataFrames_repliesOf (relays e (List.mem_append_right t List.mem_cons_self))
    rw [replies_snoc, dataFrames_append, earlier, last, receivedCommands_snoc, broadcast,
      broadcast, broadcast, List.flatMap_append]

/-- A connection that waits in its `select!` has handed over all it read. -/
theorem received_eq_read {config : WsServerConfig} {ctx : WsServerConnectionContext}
    (run : ConnectionRun config ctx t (.ret (.inl .serving))) :
    receivedCommands t = readCommands t := by
  rcases handing_run run with ⟨_, same⟩ | ⟨command, handling, _⟩
  · exact same
  · cases handling

end Relaying

/-- What the client of the connection `c` has been sent of the commands. -/
structure Relayed (act : Command → WsServerEndpointAction) (s : System Command)
    (c : Connection Command) : Prop where
  segment : dataFrames (written c.trace) <+: broadcast act (s.dispatched.drop c.receiver.since)
  -- a connection that waits with nothing unread has sent all of it
  complete : c.fate = .running → c.task = .ret (.inl .serving) →
    s.shared.commands.log.length ≤ c.receiver.next →
    dataFrames (written c.trace) = broadcast act (s.dispatched.drop c.receiver.since)

section System
variable {config : WsServerConfig} {retry : WsServerRetryPolicy} {faults : ServerFaults}
variable {s : System Command} {act : Command → WsServerEndpointAction}

/-- A connection that waits has not been told that it missed something. -/
theorem not_missed_of_waiting {ctx : WsServerConnectionContext}
    (run : ConnectionRun config ctx t (.ret (.inl .serving))) : ¬ Missed t := by
  have fires : Fires (runConnection config ctx) (.ret (.inl .serving))
      (⟨.select, .shutdown⟩ : ConnectionEvent Command) (handleArm .shutdown) :=
    .head (.call _ _ _)
  exact (not_missed_of_select run fires).2

/-- With nothing unread in the ring, everything dispatched since the subscription was read. -/
theorem read_all {c : Connection Command} {log dispatched : List Command}
    (linked : Linked config log dispatched c) (running : c.fate = .running)
    (told : ¬ Missed c.trace) (behind : log.length ≤ c.receiver.next) :
    readCommands c.trace = dispatched.drop c.receiver.since := by
  have follows := linked.position running told
  have rest := follows.same
  rw [List.drop_eq_nil_of_le behind, ← List.drop_drop] at rest
  have long := List.drop_eq_nil_iff.mp rest.symm
  exact linked.segment.eq_of_length_le long

theorem segment_sent (reached : Reachable config retry faults s) {k : Nat}
    {c : Connection Command} (here : s.connections[k]? = some c)
    (relays : ∀ e ∈ c.trace, Relays act e) :
    dataFrames (written c.trace) <+: broadcast act (s.dispatched.drop c.receiver.since) := by
  have linked := (fanout_reachable reached).links k c here
  have out := dataFrames_mono (written_of_replies (wire_run linked.run).1)
  rw [dataFrames_replies relays] at out
  have read := (received_of_read linked.run).trans linked.segment
  exact out.trans (broadcast_mono read)

theorem segment_complete (reached : Reachable config retry faults s) {k : Nat}
    {c : Connection Command} (here : s.connections[k]? = some c)
    (relays : ∀ e ∈ c.trace, Relays act e) (running : c.fate = .running)
    (waiting : c.task = .ret (.inl .serving))
    (behind : s.shared.commands.log.length ≤ c.receiver.next) :
    dataFrames (written c.trace) = broadcast act (s.dispatched.drop c.receiver.since) := by
  have linked := (fanout_reachable reached).links k c here
  have run := linked.run
  rw [waiting] at run
  have stage : Stage [] [] c.trace := (wire_run run).2
  have out := stage.outbound
  rw [List.append_nil] at out
  rw [← out, dataFrames_replies relays, received_eq_read run]
  rw [read_all linked running (not_missed_of_waiting run) behind]

theorem commands_relayed (reached : Reachable config retry faults s) {k : Nat}
    {c : Connection Command} (here : s.connections[k]? = some c)
    (relays : ∀ e ∈ c.trace, Relays act e) : Relayed act s c :=
  ⟨segment_sent reached here relays, segment_complete reached here relays⟩

end System

/-- The number of a command in one byte. -/
def announce (command : Nat) : WsServerEndpointAction := .send (.binary ⟨#[command.toUInt8]⟩)

/-- A client that was let in and has got two commands. -/
def toldClient : Connection Nat :=
  toldOf (toldOf greetedClient 7 (.binary ⟨#[7]⟩)) 8 (.binary ⟨#[8]⟩)

theorem toldClient_relays : ∀ e ∈ toldClient.trace, Relays announce e :=
  List.forall_iff_forall_mem.mp
    ⟨trivial, trivial, trivial, rfl, trivial, rfl, trivial, trivial, rfl, trivial⟩

theorem two_commands_relayed :
    ∃ s : System Nat, s.dispatched.drop toldClient.receiver.since = [7, 8] ∧
      dataFrames (written toldClient.trace) = [.binary ⟨#[7]⟩, .binary ⟨#[8]⟩] ∧
      Relayed announce s toldClient := by
  obtain ⟨s, reached, dispatched, attends⟩ := two_told fun command => .binary ⟨#[command.toUInt8]⟩
  have here : s.connections[0]? = some toldClient := congrArg (·[0]?) attends.newest
  exact ⟨s, dispatched, rfl, commands_relayed reached here toldClient_relays⟩

end ConnectionWire
