import SharedWs.ConnectionProtocol

/-!
# The close frames of a connection

A connection writes a close frame at one of two places. `apply_action` writes the frame of a
`Close` action, and `finish_connection` writes the server's own after the handler has heard
`Closed`. The two exclude each other, and nothing is written after either. The answer to `Closed`
is dropped: the calls that follow it depend on the cause alone.
-/
namespace CloseFrames

open InteractionPrograms InteractionMonitors InteractionMonitors.Monitor
open ConnectionProtocol ConnectionTask ServerTypes WsFrames

variable {Command : Type}

/-- The close frame that one call tries to write. -/
def closeOf : ConnectionEvent Command → Option (Option WsCloseFrame)
  | ⟨.send (.close frame), _⟩ => some frame
  | _ => none

/-- The close frames that a run tried to write. -/
def closeFrames (t : List (ConnectionEvent Command)) : List (Option WsCloseFrame) :=
  t.filterMap closeOf

/-- The frame of a `Close` action, unless it answers `Closed`. -/
def requestOf : ConnectionEvent Command → Option (Option WsCloseFrame)
  | ⟨.onEvent (.closed _), _⟩ => none
  | ⟨.onEvent _, .ok (.close frame)⟩ => some frame
  | _ => none

def requests (t : List (ConnectionEvent Command)) : List (Option WsCloseFrame) :=
  t.filterMap requestOf

/-- The close frames that `finish_connection` writes. -/
def serverFrames (cause : WsServerCloseCause) : List (Option WsCloseFrame) :=
  (closeFrame cause).toList.map some

/-- The calls that follow `Closed`. -/
def ending (cause : WsServerCloseCause) : List (ConnectionOp Command) :=
  (serverFrames cause).map (fun frame => .send (.close frame)) ++ [.close]

def opOf (e : ConnectionEvent Command) : ConnectionOp Command := e.op

abbrev Parting (Command : Type) := Option (WsServerCloseCause × List (ConnectionOp Command))

def partStep : Parting Command → ConnectionEvent Command → Parting Command
  | some (cause, done), e => some (cause, done ++ [opOf e])
  | none, ⟨.onEvent (.closed cause), _⟩ => some (cause, [])
  | none, _ => none

/-- The cause that the handler was told, and the calls made since. -/
def parted (t : List (ConnectionEvent Command)) : Parting Command := t.foldl partStep none

/-- Not a close frame. -/
def NotClose (frame : WsFrame) : Prop := ∀ close, frame ≠ .close close

def TameAction : WsServerEndpointAction → Prop
  | .send frame => NotClose frame
  | .sendBatch batch => ∀ frame ∈ batch.drain, NotClose frame
  | .none | .close _ => True

def TameAnswer : ConnectionEvent Command → Prop
  | ⟨.onEvent _, .ok action⟩ => TameAction action
  | _ => True

/-- The handler puts no close frame into `Send` or `SendBatch`. -/
def Tame (t : List (ConnectionEvent Command)) : Prop := ∀ e ∈ t, TameAnswer e

/-- All other frames carry bytes. -/
theorem isSome_frameBytes {frame : WsFrame} :
    (frameBytes frame).isSome = true ↔ NotClose frame := by
  cases frame with
  | close close =>
    constructor
    · intro carries
      cases carries
    · intro other
      exact absurd rfl (other close)
  | text | binary | ping | pong =>
    constructor
    · intro _ close same
      cases same
    · intro _
      rfl

instance : DecidablePred NotClose :=
  fun _ => decidable_of_iff _ isSome_frameBytes

instance : DecidablePred TameAction
  | .send frame => inferInstanceAs (Decidable (NotClose frame))
  | .sendBatch batch => inferInstanceAs (Decidable (∀ frame ∈ batch.drain, NotClose frame))
  | .none | .close _ => isTrue trivial

instance : DecidablePred (TameAnswer : ConnectionEvent Command → Prop)
  | ⟨.onEvent _, .ok action⟩ => inferInstanceAs (Decidable (TameAction action))
  | ⟨.onEvent _, .error _⟩ | ⟨.handshake _ _, _⟩ | ⟨.createEndpoint _, _⟩ | ⟨.firstTick _, _⟩
  | ⟨.select, _⟩ | ⟨.send _, _⟩ | ⟨.close, _⟩ => isTrue trivial

instance (t : List (ConnectionEvent Command)) : Decidable (Tame t) :=
  inferInstanceAs (Decidable (∀ e ∈ t, TameAnswer e))

section Traces
variable (t : List (ConnectionEvent Command)) (e : ConnectionEvent Command)

theorem closeFrames_snoc : closeFrames (t ++ [e]) = closeFrames t ++ (closeOf e).toList :=
  filterMap_snoc closeOf t e

theorem requests_snoc : requests (t ++ [e]) = requests t ++ (requestOf e).toList :=
  filterMap_snoc requestOf t e

theorem parted_snoc : parted (t ++ [e]) = partStep (parted t) e := by
  simp [parted]

variable {t}

theorem Tame.left {s : List (ConnectionEvent Command)} (tame : Tame (t ++ s)) : Tame t :=
  fun e listed => tame e (List.mem_append_left s listed)

end Traces

def Permitted (t : List (ConnectionEvent Command)) (op : ConnectionOp Command) : Prop :=
  (∀ cause done, parted t = some (cause, done) → done ++ [op] <+: ending cause) ∧
    (Tame t → ∀ frame, op = .send frame → closeFrames t = [] ∧
      ∀ close, frame = .close close → parted t = none → requests t = [close])

def closing (Command : Type) :
    Monitor (connectionSignature Command) (List (ConnectionEvent Command)) :=
  history (fun _ _ => True) fun t e => Permitted t e.op

variable {t : List (ConnectionEvent Command)} {cause : WsServerCloseCause}
variable {asked written : List (Option WsCloseFrame)}

theorem wp_permitted {α : Type} {post : α → List (ConnectionEvent Command) → Prop}
    (op : ConnectionOp Command) (next : op.Res → Step Command α) (permitted : Permitted t op)
    (rest : ∀ answer, (closing Command).wp post (next answer) (t ++ [⟨op, answer⟩])) :
    (closing Command).wp post (call op >>= next) t :=
  fun answer _ => ⟨permitted, rest answer⟩

/-- Before `Closed`: the frames that the handler asked for and those that were written. -/
structure Stage (asked written : List (Option WsCloseFrame))
    (t : List (ConnectionEvent Command)) : Prop where
  unparted : parted t = none
  asked : requests t = asked
  written : Tame t → closeFrames t = written

/-- The loop has ended; a cause with a frame of the server's finds none written. -/
def Finishing (cause : WsServerCloseCause) (t : List (ConnectionEvent Command)) : Prop :=
  ∃ asked, Stage asked asked t ∧ (serverFrames cause = [] ∨ asked = [])

/-- How the task may return: before its handler existed, or after everything is written. -/
def Over (t : List (ConnectionEvent Command)) : Prop :=
  Stage [] [] t ∧ causeOf t = none ∨
    ∃ cause, parted t = some (cause, ending cause) ∧
      (Tame t → closeFrames t = requests t ++ serverFrames cause)

def Stands : Head → List (ConnectionEvent Command) → Prop
  | .accepted, t => t = []
  | .serving, t => Stage [] [] t

abbrev Fits (p : Step Command (Head ⊕ Unit)) (t : List (ConnectionEvent Command)) : Prop :=
  (closing Command).wp (Owes Stands fun _ t => Over t) p t

/-- Any call but the one that tells `Closed`. -/
theorem Stage.snoc (stage : Stage asked written t) (e : ConnectionEvent Command)
    (untold : partStep none e = none) :
    Stage (asked ++ (requestOf e).toList) (written ++ (closeOf e).toList) (t ++ [e]) where
  unparted := by rw [parted_snoc, stage.unparted, untold]
  asked := by rw [requests_snoc, stage.asked]
  written := by
    intro tame
    rw [closeFrames_snoc, stage.written tame.left]

theorem Stage.permits {op : ConnectionOp Command} (stage : Stage asked written t)
    (silent : ∀ frame, op ≠ .send frame) : Permitted t op := by
  constructor
  · intro cause done told
    exact absurd (stage.unparted.symm.trans told) nofun
  · intro _ frame sends
    exact absurd sends (silent frame)

theorem Stage.permits_send {frame : WsFrame} (stage : Stage asked [] t)
    (source : Tame t → ∀ close, frame = .close close → asked = [close]) :
    Permitted t (.send frame) := by
  constructor
  · intro cause done told
    exact absurd (stage.unparted.symm.trans told) nofun
  · intro tame other same
    cases same
    refine ⟨stage.written tame, ?_⟩
    intro close is _
    rw [stage.asked]
    exact source tame close is

theorem closeOf_send {frame : WsFrame} {answer : Except String Unit} (other : NotClose frame) :
    closeOf (⟨.send frame, answer⟩ : ConnectionEvent Command) = none := by
  cases frame with
  | close close => exact absurd rfl (other close)
  | _ => rfl

/-- A frame that is no close frame leaves an open connection as it was. -/
theorem Stage.sent {frame : WsFrame} {answer : Except String Unit} (stage : Stage [] [] t)
    (other : Tame t → NotClose frame) : Stage [] [] (t ++ [⟨.send frame, answer⟩]) where
  unparted := (stage.snoc _ rfl).unparted
  asked := (stage.snoc ⟨.send frame, answer⟩ rfl).asked
  written := by
    intro tame
    rw [closeFrames_snoc, stage.written tame.left, closeOf_send (other tame.left)]
    rfl

theorem fits_send {α : Type} {post : α → List (ConnectionEvent Command) → Prop} {frame : WsFrame}
    {next : Except String Unit → Step Command α} (stage : Stage [] [] t)
    (other : Tame t → NotClose frame)
    (rest : ∀ answer, Stage [] [] (t ++ [⟨.send frame, answer⟩]) →
      (closing Command).wp post (next answer) (t ++ [⟨.send frame, answer⟩])) :
    (closing Command).wp post (call (.send frame) >>= next) t := by
  refine wp_permitted (.send frame) next (stage.permits_send ?_) fun answer => ?_
  · intro tame close is
    exact absurd is (other tame close)
  · exact rest answer (stage.sent other)

section Ending
variable {done : List (ConnectionOp Command)}

/-- The calls made since `Closed`, and the close frames of the whole run. -/
structure Gone (cause : WsServerCloseCause) (done : List (ConnectionOp Command))
    (written : List (Option WsCloseFrame)) (t : List (ConnectionEvent Command)) : Prop where
  told : parted t = some (cause, done)
  written : Tame t → closeFrames t = requests t ++ written

theorem Stage.closed {answer : Except String WsServerEndpointAction} (stage : Stage asked asked t) :
    Gone cause [] [] (t ++ [⟨.onEvent (.closed cause), answer⟩]) where
  told := by
    rw [parted_snoc, stage.unparted]
    rfl
  written := by
    intro tame
    rw [closeFrames_snoc, requests_snoc, stage.written tame.left, stage.asked]
    simp [closeOf, requestOf]

theorem Gone.permits_close (gone : Gone cause done written t)
    (all : done ++ [.close] = ending cause) : Permitted t .close := by
  constructor
  · intro other since told
    cases gone.told.symm.trans told
    exact ⟨[], (List.append_nil _).trans all⟩
  · intro _ frame sends
    cases sends

theorem Gone.finished {result : Except String Unit} (gone : Gone cause done (serverFrames cause) t)
    (all : done ++ [.close] = ending cause) : Over (t ++ [⟨.close, result⟩]) := by
  refine Or.inr ⟨cause, ?_, ?_⟩
  · rw [parted_snoc, gone.told, ← all]
    rfl
  · intro tame
    rw [closeFrames_snoc, requests_snoc, gone.written tame.left]
    simp [closeOf, requestOf]

theorem fits_close (done : List (ConnectionOp Command))
    (gone : Gone cause done (serverFrames cause) t)
    (all : done ++ [.close] = ending cause) :
    Fits (call .close >>= fun _ => pure (.inr ())) t :=
  wp_permitted .close _ (gone.permits_close all) fun _ => gone.finished all

theorem fits_finish (finishing : Finishing cause t) :
    Fits (finishConnection cause : Step Command (Head ⊕ Unit)) t := by
  obtain ⟨asked, stage, apart⟩ := finishing
  refine wp_permitted (.onEvent (.closed cause)) _ (stage.permits nofun) fun answer => ?_
  have gone : Gone cause [] [] (t ++ [⟨.onEvent (.closed cause), answer⟩]) := stage.closed
  have idle : requests (t ++ [(⟨.onEvent (.closed cause), answer⟩ : ConnectionEvent Command)]) =
      asked := by
    rw [requests_snoc, stage.asked]
    simp [requestOf]
  cases server : closeFrame cause with
  | none =>
    have empty : serverFrames cause = [] := by simp [serverFrames, server]
    have last : Gone cause [] (serverFrames cause)
        (t ++ [⟨.onEvent (.closed cause), answer⟩]) := by
      rw [empty]
      exact gone
    exact fits_close [] last (by simp [ending, empty])
  | some frame =>
    have single : serverFrames cause = [some frame] := by simp [serverFrames, server]
    have unasked : asked = [] := by
      rcases apart with empty | unasked
      · rw [single] at empty
        cases empty
      · exact unasked
    refine wp_permitted (.send (.close (some frame))) _ ?_ fun result => ?_
    · constructor
      · intro other done told
        cases gone.told.symm.trans told
        simp [ending, single]
      · intro tame sent same
        refine ⟨?_, ?_⟩
        · rw [gone.written tame, idle, unasked]
          rfl
        · intro close _ unparted
          exact absurd (gone.told.symm.trans unparted) nofun
    · have last : Gone cause [.send (.close (some frame))] (serverFrames cause)
          (t ++ [⟨.onEvent (.closed cause), answer⟩] ++
            [⟨.send (.close (some frame)), result⟩]) := by
        constructor
        · rw [parted_snoc, gone.told]
          rfl
        · intro tame
          rw [closeFrames_snoc, requests_snoc, gone.written tame.left, single]
          simp [closeOf, requestOf]
      exact fits_close _ last (by simp [ending, single])

end Ending

/-- What an action asks to close with. -/
def asks : WsServerEndpointAction → List (Option WsCloseFrame)
  | .close frame => [frame]
  | _ => []

def Applied : Option WsServerCloseCause → List (ConnectionEvent Command) → Prop
  | none, t => Stage [] [] t
  | some cause, t => Finishing cause t

theorem Stage.finishing (stage : Stage [] [] t) (cause : WsServerCloseCause) :
    Finishing cause t := ⟨[], stage, Or.inr rfl⟩

theorem fits_sendBatch (frames : List WsFrame) (stage : Stage [] [] t)
    (others : Tame t → ∀ frame ∈ frames, NotClose frame) :
    (closing Command).wp Applied (sendBatch frames) t := by
  induction frames generalizing t with
  | nil => exact stage
  | cons frame rest ih =>
    refine fits_send stage (fun tame => others tame frame List.mem_cons_self) ?_
    intro answer sent
    cases answer with
    | error error => exact sent.finishing _
    | ok =>
      apply ih sent
      intro tame other listed
      exact others tame.left other (List.mem_cons_of_mem frame listed)

theorem fits_applyAction (action : WsServerEndpointAction) (stage : Stage (asks action) [] t)
    (tameAction : Tame t → TameAction action) :
    (closing Command).wp Applied (applyAction action) t := by
  cases action with
  | none => exact stage
  | send frame =>
    refine fits_send stage tameAction fun answer sent => ?_
    cases answer with
    | error error => exact sent.finishing _
    | ok => exact sent
  | sendBatch batch => exact fits_sendBatch batch.drain stage tameAction
  | close frame =>
    refine wp_permitted (.send (.close frame)) _ (stage.permits_send ?_) fun answer => ?_
    · intro _ close same
      cases same
      rfl
    · have sent := stage.snoc ⟨.send (.close frame), answer⟩ rfl
      exact ⟨[frame], sent, Or.inl rfl⟩

theorem requestOf_answered {event : WsServerEndpointEvent Command}
    (action : WsServerEndpointAction) (early : ∀ cause, event ≠ .closed cause) :
    (requestOf (⟨.onEvent event, .ok action⟩ : ConnectionEvent Command)).toList = asks action := by
  cases event with
  | closed cause => exact absurd rfl (early cause)
  | _ => cases action <;> rfl

theorem requestOf_failed (event : WsServerEndpointEvent Command) (error : String) :
    requestOf (⟨.onEvent event, .error error⟩ : ConnectionEvent Command) = none := by
  cases event <;> rfl

theorem partStep_early {event : WsServerEndpointEvent Command}
    {answer : Except String WsServerEndpointAction} (early : ∀ cause, event ≠ .closed cause) :
    partStep none (⟨.onEvent event, answer⟩ : ConnectionEvent Command) = none := by
  cases event with
  | closed cause => exact absurd rfl (early cause)
  | _ => rfl

theorem fits_handleEvent {event : WsServerEndpointEvent Command} (stage : Stage [] [] t)
    (early : ∀ cause, event ≠ .closed cause) : Fits (handleEvent event) t := by
  refine wp_permitted (.onEvent event) _ (stage.permits nofun) fun answer => ?_
  have next := stage.snoc ⟨.onEvent event, answer⟩ (partStep_early early)
  cases answer with
  | error error =>
    rw [requestOf_failed] at next
    exact fits_finish (next.finishing _)
  | ok action =>
    rw [requestOf_answered action early] at next
    apply (wp_bind _).mpr
    apply wp_mono _ _ (fits_applyAction action next ?_)
    · intro result t' applied
      cases result with
      | none => exact applied
      | some cause => exact fits_finish applied
    · intro tame
      exact tame ⟨.onEvent event, .ok action⟩ (List.mem_append_right t List.mem_cons_self)

theorem fits_arm (arm : ConnectionArm Command) (stage : Stage [] [] t) :
    Fits (handleArm arm) t := by
  rcases arm with _ | item | received | _
  · exact fits_finish (stage.finishing _)
  · rcases item with _ | error | frame
    · exact fits_finish (stage.finishing _)
    · exact fits_finish (stage.finishing _)
    · cases frame with
      | text payload => exact fits_handleEvent stage nofun
      | binary payload => exact fits_handleEvent stage nofun
      | pong payload => exact stage
      | close frame => exact fits_finish (stage.finishing _)
      | ping payload =>
        refine fits_send stage (fun _ => nofun) fun answer sent => ?_
        cases answer with
        | error error => exact fits_finish (sent.finishing _)
        | ok => exact sent
  · rcases received with error | command
    · rcases error with missed | _
      · exact fits_finish (stage.finishing _)
      · exact fits_finish (stage.finishing _)
    · exact fits_handleEvent stage nofun
  · exact fits_handleEvent stage nofun

theorem stage_nil : Stage [] [] ([] : List (ConnectionEvent Command)) :=
  ⟨rfl, rfl, fun _ => rfl⟩

theorem closing_turns (config : WsServerConfig) (ctx : WsServerConnectionContext) (head : Head)
    (stands : Stands head t) :
    Fits (runConnection config ctx head : Step Command (Head ⊕ Unit)) t := by
  cases head with
  | serving =>
    have stage : Stage [] [] t := stands
    refine wp_permitted .select _ (stage.permits nofun) fun arm => ?_
    exact fits_arm arm (stage.snoc ⟨.select, arm⟩ rfl)
  | accepted =>
    have start : t = [] := stands
    subst start
    refine wp_permitted (.handshake config.handshakeTimeout config.websocket) _
      (stage_nil.permits nofun) fun answer => ?_
    have shaken := stage_nil.snoc (⟨.handshake config.handshakeTimeout config.websocket, answer⟩ :
      ConnectionEvent Command) rfl
    cases answer with
    | rejected error => exact Or.inl ⟨shaken, rfl⟩
    | timedOut => exact Or.inl ⟨shaken, rfl⟩
    | completed =>
      refine wp_permitted (.createEndpoint ctx) _ (shaken.permits nofun) fun _ => ?_
      have made := shaken.snoc ⟨.createEndpoint ctx, ()⟩ rfl
      refine wp_permitted (.firstTick config.endpointTickInterval) _ (made.permits nofun) ?_
      intro _
      exact fits_handleEvent (made.snoc ⟨.firstTick config.endpointTickInterval, ()⟩ rfl) nofun

section Runs
variable {config : WsServerConfig} {ctx : WsServerConnectionContext}
variable {q : Step Command (Head ⊕ Unit)}

theorem closing_run (run : ConnectionRun config ctx t q) :
    (∀ before e after, t = before ++ e :: after → Permitted before e.op) ∧ Fits q t := by
  have relied : (closing Command).Along (closing Command).rely [] t :=
    (along_iff _).mpr fun _ _ _ _ => trivial
  obtain ⟨safe, owed⟩ := reaches_wp _ (fun head _ stands => closing_turns config ctx head stands)
    run (rfl : Stands .accepted []) relied
  refine ⟨(history_along _ _).mp safe, ?_⟩
  rw [closing, history_run] at owed
  exact owed

/-- Every call keeps to both rules. -/
def Followed (ctx : WsServerConnectionContext) (t : List (ConnectionEvent Command)) : Prop :=
  ∀ before e after, t = before ++ e :: after → Permitted before e.op ∧ Allowed ctx before e.op

theorem calls_run (run : ConnectionRun config ctx t q) : Followed ctx t := by
  intro before e after cut
  exact ⟨(closing_run run).1 before e after cut, (protocol_run run).1 before e after cut⟩

theorem closeOf_eq_some {e : ConnectionEvent Command} {close : Option WsCloseFrame}
    (writes : closeOf e = some close) : ∃ answer, e = ⟨.send (.close close), answer⟩ := by
  rcases e with ⟨op, answer⟩
  cases op with
  | send frame =>
    cases frame with
    | close other =>
      cases writes
      exact ⟨answer, rfl⟩
    | _ => cases writes
  | _ => cases writes

theorem requestOf_eq_some {e : ConnectionEvent Command} {close : Option WsCloseFrame}
    (asked : requestOf e = some close) : ∃ event, (∀ cause, event ≠ .closed cause) ∧
      e = ⟨.onEvent event, .ok (.close close)⟩ := by
  rcases e with ⟨op, answer⟩
  cases op with
  | onEvent event =>
    have early : ∀ cause, event ≠ .closed cause := by
      rintro cause rfl
      cases asked
    refine ⟨event, early, ?_⟩
    cases answer with
    | error error =>
      rw [requestOf_failed] at asked
      cases asked
    | ok action =>
      have same := requestOf_answered action early
      rw [asked] at same
      cases action with
      | close other =>
        cases same
        rfl
      | _ => cases same
  | _ => cases asked

theorem partStep_eq_some {e : ConnectionEvent Command} {done : List (ConnectionOp Command)}
    (told : partStep none e = some (cause, done)) :
    ∃ answer, e = ⟨.onEvent (.closed cause), answer⟩ := by
  rcases e with ⟨op, answer⟩
  cases op with
  | onEvent event =>
    cases event with
    | closed other =>
      cases told
      exact ⟨answer, rfl⟩
    | _ => cases told
  | _ => cases told

theorem reasonOf_requested {e : ConnectionEvent Command}
    (requested : reasonOf e = some .handlerRequested) :
    requestOf e ≠ none ∨ ∃ cause answer, e = ⟨.onEvent (.closed cause), answer⟩ := by
  rcases e with ⟨op, answer⟩
  cases op with
  | onEvent event =>
    cases event with
    | closed cause => exact Or.inr ⟨cause, answer, rfl⟩
    | _ =>
      rcases answer with error | action
      · cases requested
      · cases action with
        | close close => exact Or.inl nofun
        | _ => cases requested
  | send frame => cases answer <;> cases requested
  | select =>
    rcases answer with _ | (_ | _ | frame) | ((_ | _) | _) | _
    · cases requested
    · cases requested
    · cases requested
    · cases frame <;> cases requested
    · cases requested
    · cases requested
    · cases requested
    · cases requested
  | _ => cases requested

theorem undecided_of_early {event : WsServerEndpointEvent Command}
    (allowed : Allowed ctx t (.onEvent event)) (early : ∀ cause, event ≠ .closed cause) :
    causeOf t = none := by
  cases event with
  | connected c => exact allowed.2.2.2
  | closed cause => exact absurd rfl (early cause)
  | frame frame => exact allowed.2.1
  | command command => exact allowed.2.1
  | tick => exact allowed.2.1

/-- Where the close frame of a run comes from. -/
def Origin (t : List (ConnectionEvent Command)) (close : Option WsCloseFrame) : Prop :=
  close ∈ requests t ∨ ∃ cause, causeOf t = some cause ∧ close ∈ serverFrames cause

theorem Origin.snoc {close : Option WsCloseFrame} (origin : Origin t close)
    (e : ConnectionEvent Command) : Origin (t ++ [e]) close := by
  rcases origin with asked | ⟨cause, decided, listed⟩
  · refine Or.inl ?_
    rw [requests_snoc]
    exact List.mem_append_left _ asked
  · refine Or.inr ⟨cause, ?_, listed⟩
    rw [causeOf_snoc, decided]
    rfl

theorem mem_serverFrames {close : Option WsCloseFrame}
    (listed : (.send (.close close) : ConnectionOp Command) ∈ ending cause) :
    close ∈ serverFrames cause := by
  simpa [ending] using listed

section Calls
variable (calls : Followed ctx t)
include calls

/-- The handler asks for a close at most once, and then that is the cause. -/
theorem requests_cases :
    requests t = [] ∧ causeOf t ≠ some .handlerRequested ∨
      ∃ close, requests t = [close] ∧ causeOf t = some .handlerRequested := by
  refine history_induction t ?_ ?_ calls
  · exact Or.inl ⟨rfl, nofun⟩
  rintro t e _ ⟨_, allowed⟩ earlier
  rw [requests_snoc, causeOf_snoc]
  cases asked : requestOf e with
  | some close =>
    obtain ⟨event, early, rfl⟩ := requestOf_eq_some asked
    have undecided := undecided_of_early allowed early
    rcases earlier with ⟨unasked, _⟩ | ⟨_, _, decided⟩
    · refine Or.inr ⟨close, ?_, ?_⟩
      · rw [unasked]
        rfl
      · rw [undecided]
        rfl
    · exact absurd (undecided.symm.trans decided) nofun
  | none =>
    simp only [Option.toList_none, List.append_nil]
    rcases earlier with ⟨unasked, other⟩ | ⟨close, once, decided⟩
    · refine Or.inl ⟨unasked, ?_⟩
      cases first : causeOf t with
      | some cause =>
        rw [first] at other
        exact other
      | none =>
        intro requested
        rcases reasonOf_requested requested with wrong | ⟨cause, answer, rfl⟩
        · exact wrong asked
        · exact absurd (first.symm.trans allowed.1) nofun
    · refine Or.inr ⟨close, once, ?_⟩
      rw [decided]
      rfl

theorem parted_cause :
    ∀ since, parted t = some since → causeOf t = some since.1 := by
  refine history_induction t ?_ ?_ calls
  · intro since told
    cases told
  · rintro t e _ ⟨_, allowed⟩ earlier since told
    rw [parted_snoc] at told
    rw [causeOf_snoc]
    cases before : parted t with
    | some earlierCalls =>
      rw [before] at told
      cases told
      rw [earlier earlierCalls before]
      rfl
    | none =>
      rw [before] at told
      obtain ⟨cause, done⟩ := since
      obtain ⟨answer, rfl⟩ := partStep_eq_some told
      rw [show causeOf t = some cause from allowed.1]
      rfl

theorem closeFrames_cases (tame : Tame t) :
    closeFrames t = [] ∨ ∃ close, closeFrames t = [close] ∧ Origin t close := by
  revert tame
  refine history_induction t ?_ ?_ calls
  · exact fun _ => Or.inl rfl
  rintro t e before ⟨permitted, _⟩ earlier tame
  rw [closeFrames_snoc]
  cases writes : closeOf e with
  | none =>
    simp only [Option.toList_none, List.append_nil]
    rcases earlier tame.left with silent | ⟨close, once, origin⟩
    · exact Or.inl silent
    · exact Or.inr ⟨close, once, origin.snoc e⟩
  | some close =>
    obtain ⟨answer, rfl⟩ := closeOf_eq_some writes
    obtain ⟨silent, source⟩ := permitted.2 tame.left (.close close) rfl
    refine Or.inr ⟨close, ?_, Origin.snoc ?_ _⟩
    · rw [silent]
      rfl
    · cases told : parted t with
      | none =>
        refine Or.inl ?_
        rw [source close rfl told]
        exact List.mem_cons_self
      | some since =>
        obtain ⟨cause, done⟩ := since
        refine Or.inr ⟨cause, parted_cause before _ told, ?_⟩
        exact mem_serverFrames ((permitted.1 cause done told).subset (List.mem_append_right done
          List.mem_cons_self))

/-- Nothing is written after a close frame. -/
theorem silent_after {before after : List (ConnectionEvent Command)}
    {close : Option WsCloseFrame} {answer : Except String Unit} (tame : Tame t)
    (cut : t = before ++ ⟨.send (.close close), answer⟩ :: after) :
    ∀ e ∈ after, ∀ frame, e.op ≠ .send frame := by
  intro e listed frame sends
  obtain ⟨s, r, rfl⟩ := List.append_of_mem listed
  have split : t = (before ++ ⟨.send (.close close), answer⟩ :: s) ++ e :: r := by
    rw [cut, List.append_assoc, List.cons_append]
  have permitted := (calls _ e r split).1
  rw [split] at tame
  have none := (permitted.2 tame.left frame sends).1
  simp [closeFrames, closeOf] at none

/-- What follows `Closed` is fixed by the cause, whatever the handler answered. -/
theorem calls_after_closed {before after : List (ConnectionEvent Command)}
    {answer : Except String WsServerEndpointAction}
    (cut : t = before ++ ⟨.onEvent (.closed cause), answer⟩ :: after) :
    after.map opOf <+: ending cause := by
  have first : parted before = none := by
    cases told : parted before with
    | none => rfl
    | some since =>
      obtain ⟨other, done⟩ := since
      have within := (calls before _ after cut).1.1 other done told
      have listed := within.subset (List.mem_append_right done List.mem_cons_self)
      simp [ending] at listed
  have since : ∀ s : List (ConnectionEvent Command),
      parted (before ++ ⟨.onEvent (.closed cause), answer⟩ :: s) = some (cause, s.map opOf) := by
    intro s
    induction s using List.reverseRecOn with
    | nil =>
      rw [parted_snoc, first]
      rfl
    | append_singleton s e ih =>
      rw [← List.cons_append, ← List.append_assoc, parted_snoc, ih, List.map_append]
      rfl
  rcases List.eq_nil_or_concat' after with rfl | ⟨s, e, rfl⟩
  · exact List.nil_prefix
  · have split : t = (before ++ ⟨.onEvent (.closed cause), answer⟩ :: s) ++ e :: [] := by
      rw [cut, List.append_assoc, List.cons_append]
    rw [List.map_append]
    exact (calls _ e [] split).1.1 cause _ (since s)

end Calls

/-- Each of the server's codes stands for one cause. -/
structure Coded (cause : WsServerCloseCause) (code : UInt16) : Prop where
  lagged : code = 1008 ↔ ∃ missed, cause = .lagged missed
  failed : code = 1011 ↔ ∃ error, cause = .handlerError error
  leaving : code = 1001 ↔ cause = .serverShutdown

theorem coded_lagged (missed : Nat) : Coded (.lagged missed) closePolicyViolation where
  lagged := by simp [closePolicyViolation]
  failed := by simp [closePolicyViolation]
  leaving := by simp [closePolicyViolation]

theorem coded_handlerError (error : String) : Coded (.handlerError error) closeInternalError where
  lagged := by simp [closeInternalError]
  failed := by simp [closeInternalError]
  leaving := by simp [closeInternalError]

theorem coded_serverShutdown : Coded .serverShutdown closeGoingAway where
  lagged := by simp [closeGoingAway]
  failed := by simp [closeGoingAway]
  leaving := by simp [closeGoingAway]

theorem coded_of_mem {close : Option WsCloseFrame} (listed : close ∈ serverFrames cause) :
    ∃ frame, close = some frame ∧ Coded cause frame.code := by
  cases cause with
  | lagged missed =>
    obtain rfl := List.mem_singleton.mp listed
    exact ⟨_, rfl, coded_lagged missed⟩
  | handlerError error =>
    obtain rfl := List.mem_singleton.mp listed
    exact ⟨_, rfl, coded_handlerError error⟩
  | serverShutdown =>
    obtain rfl := List.mem_singleton.mp listed
    exact ⟨_, rfl, coded_serverShutdown⟩
  | clientClosed => cases listed
  | handlerRequested => cases listed
  | transportError error => cases listed

/-- The peer is gone, or its socket is. -/
def Unreachable (cause : WsServerCloseCause) : Prop :=
  cause = .clientClosed ∨ ∃ error, cause = .transportError error

theorem serverFrames_ne_nil (other : cause ≠ .handlerRequested) (reachable : ¬ Unreachable cause) :
    serverFrames cause ≠ [] := by
  cases cause with
  | lagged missed => exact nofun
  | handlerError error => exact nofun
  | serverShutdown => exact nofun
  | handlerRequested => exact absurd rfl other
  | clientClosed => exact absurd (Or.inl rfl) reachable
  | transportError error => exact absurd (Or.inr ⟨error, rfl⟩) reachable

theorem serverFrames_unreachable (gone : Unreachable cause) : serverFrames cause = [] := by
  rcases gone with rfl | ⟨error, rfl⟩
  · rfl
  · rfl

/-- The close frames of a run `t` that stands at `q`. The cause is the one that the handler is
told; `requests` are the frames of the `Close` actions it returned before that. -/
structure ClosesOnce (t : List (ConnectionEvent Command)) (q : Step Command (Head ⊕ Unit)) :
    Prop where
  single : (closeFrames t).length ≤ 1
  last : ∀ before close answer after, t = before ++ ⟨.send (.close close), answer⟩ :: after →
    ∀ e ∈ after, ∀ frame, e.op ≠ .send frame
  told : ∀ cause, .closed cause ∈ delivered t → causeOf t = some cause
  requested : causeOf t = some .handlerRequested ↔ requests t ≠ []
  own : ∀ asked ∈ requests t, ∀ close ∈ closeFrames t, close = asked
  codes : ∀ cause, causeOf t = some cause → cause ≠ .handlerRequested →
    ∀ close ∈ closeFrames t, ∃ frame, close = some frame ∧ Coded cause frame.code
  decided : closeFrames t ≠ [] → ∃ cause, causeOf t = some cause ∧ ¬ Unreachable cause
  attempted : Returned q → ∀ cause, causeOf t = some cause → ¬ Unreachable cause →
    closeFrames t ≠ []

theorem told_cause (calls : Followed ctx t) (told : .closed cause ∈ delivered t) :
    causeOf t = some cause := by
  obtain ⟨e, listed, is⟩ := List.mem_filterMap.mp told
  rcases eventOf_eq_none (e := e) with untold | ⟨event, answer, rfl⟩
  · exact absurd (untold.symm.trans is) nofun
  · cases is
    obtain ⟨before, after, rfl⟩ := List.append_of_mem listed
    have known : causeOf before = some cause := (calls before _ after rfl).2.1
    rw [causeOf, List.findSome?_append]
    exact congrArg (Option.or · _) known

theorem attempted_of_over (calls : Followed ctx t) (finished : Over t) (tame : Tame t)
    (decided : causeOf t = some cause) (reachable : ¬ Unreachable cause) :
    closeFrames t ≠ [] := by
  rcases finished with ⟨_, undecided⟩ | ⟨other, told, all⟩
  · exact absurd (decided.symm.trans undecided) nofun
  · obtain rfl := Option.some.inj (decided.symm.trans (parted_cause calls _ told))
    rw [all tame]
    by_cases requested : cause = .handlerRequested
    · rcases requests_cases calls with ⟨_, other⟩ | ⟨close, once, _⟩
      · exact absurd (requested ▸ decided) other
      · rw [once]
        exact nofun
    · intro none
      exact serverFrames_ne_nil requested reachable (List.append_eq_nil_iff.mp none).2

section Origins
variable {close : Option WsCloseFrame} (calls : Followed ctx t)
include calls

theorem origin_of_mem (tame : Tame t) (writes : close ∈ closeFrames t) : Origin t close := by
  rcases closeFrames_cases calls tame with silent | ⟨first, once, origin⟩
  · rw [silent] at writes
    cases writes
  · rw [once] at writes
    obtain rfl := List.mem_singleton.mp writes
    exact origin

theorem requested_of_mem (asked : close ∈ requests t) :
    requests t = [close] ∧ causeOf t = some .handlerRequested := by
  rcases requests_cases calls with ⟨unasked, _⟩ | ⟨own, once, decided⟩
  · rw [unasked] at asked
    cases asked
  · rw [once] at asked
    obtain rfl := List.mem_singleton.mp asked
    exact ⟨once, decided⟩

theorem origin_own {asked : Option WsCloseFrame} (origin : Origin t close)
    (listed : asked ∈ requests t) : close = asked := by
  obtain ⟨once, requested⟩ := requested_of_mem calls listed
  rcases origin with own | ⟨cause, decided, server⟩
  · rw [once] at own
    exact List.mem_singleton.mp own
  · obtain rfl := Option.some.inj (decided.symm.trans requested)
    cases server

theorem origin_coded (origin : Origin t close) (decided : causeOf t = some cause)
    (other : cause ≠ .handlerRequested) :
    ∃ frame, close = some frame ∧ Coded cause frame.code := by
  rcases origin with own | ⟨known, recorded, server⟩
  · have requested := (requested_of_mem calls own).2
    exact absurd (Option.some.inj (decided.symm.trans requested)) other
  · obtain rfl := Option.some.inj (decided.symm.trans recorded)
    exact coded_of_mem server

theorem origin_reachable (origin : Origin t close) :
    ∃ cause, causeOf t = some cause ∧ ¬ Unreachable cause := by
  rcases origin with own | ⟨cause, decided, server⟩
  · refine ⟨.handlerRequested, (requested_of_mem calls own).2, ?_⟩
    rintro (wrong | ⟨error, wrong⟩)
    · cases wrong
    · cases wrong
  · refine ⟨cause, decided, fun gone => ?_⟩
    rw [serverFrames_unreachable gone] at server
    cases server

end Origins

/-- Whatever the peer, the commands and the clock do, and for every handler that leaves close
frames out of `Send` and `SendBatch`. -/
theorem one_close_frame (run : ConnectionRun config ctx t q) (tame : Tame t) :
    ClosesOnce t q := by
  have calls := calls_run run
  constructor
  · rcases closeFrames_cases calls tame with silent | ⟨close, once, _⟩
    · simp [silent]
    · simp [once]
  · intro before close answer after cut
    exact silent_after calls tame cut
  · intro cause told
    exact told_cause calls told
  · rcases requests_cases calls with ⟨unasked, other⟩ | ⟨close, once, decided⟩
    · simp [unasked, other]
    · simp [once, decided]
  · intro asked listed close writes
    exact origin_own calls (origin_of_mem calls tame writes) listed
  · intro cause decided other close writes
    exact origin_coded calls (origin_of_mem calls tame writes) decided other
  · intro written
    obtain ⟨close, writes⟩ := List.exists_mem_of_ne_nil _ written
    exact origin_reachable calls (origin_of_mem calls tame writes)
  · rintro rfl cause decided reachable
    have finished : Over t := (closing_run run).2
    exact attempted_of_over calls finished tame decided reachable

theorem closeFrames_append (s : List (ConnectionEvent Command)) :
    closeFrames (t ++ s) = closeFrames t ++ closeFrames s :=
  List.filterMap_append

/-- Which close frames are written is read off the calls alone. -/
theorem closeFrames_of_calls {frames : List (Option WsCloseFrame)}
    {s : List (ConnectionEvent Command)}
    (same : s.map opOf = frames.map fun frame => .send (.close frame)) :
    closeFrames s = frames := by
  induction frames generalizing s with
  | nil =>
    rw [List.map_nil, List.map_eq_nil_iff] at same
    rw [same]
    rfl
  | cons frame frames ih =>
    obtain ⟨e, rest, rfl, first, others⟩ := List.map_eq_cons_iff.mp same
    obtain ⟨op, answer⟩ := e
    cases first
    exact congrArg (frame :: ·) (ih others)

/-- Between `Closed` and the end of the socket there is room for the server's frame only. -/
theorem calls_until_close {middle rest : List (ConnectionOp Command)}
    (within : middle ++ .close :: rest <+: ending cause) :
    middle = (serverFrames cause).map fun frame => .send (.close frame) := by
  obtain ⟨more, all⟩ := within
  cases server : closeFrame cause with
  | none =>
    rcases middle with _ | ⟨op, middle⟩
    · simp [serverFrames, server]
    · simp [ending, serverFrames, server] at all
  | some frame =>
    rcases middle with _ | ⟨op, _ | ⟨second, middle⟩⟩
    · simp [ending, serverFrames, server] at all
    · simp only [ending, serverFrames, server, Option.toList_some, List.map_cons, List.map_nil,
        List.cons_append, List.nil_append, List.cons.injEq] at all ⊢
      exact ⟨all.1, trivial⟩
    · simp [ending, serverFrames, server] at all

/-- What becomes of the handler's answer to `Closed`. The calls that follow depend on the cause
alone, and a close frame that it names is written before the socket is closed just if it had been
written before, or is the server's own. -/
def FarewellRule (t : List (ConnectionEvent Command)) : Prop :=
  ∀ before cause answer after, t = before ++ ⟨.onEvent (.closed cause), answer⟩ :: after →
    after.map opOf <+: ending cause ∧
    ∀ frame middle result rest, answer = .ok (.close (some frame)) →
      after = middle ++ ⟨.close, result⟩ :: rest →
      (some frame ∈ closeFrames (before ++ middle) ↔
        some frame ∈ closeFrames before ∨ closeFrame cause = some frame)

theorem farewell_honoured_iff (run : ConnectionRun config ctx t q) : FarewellRule t := by
  intro before cause answer after cut
  have within := calls_after_closed (calls_run run) cut
  refine ⟨within, ?_⟩
  rintro frame middle result rest _ rfl
  rw [List.map_append] at within
  have written : closeFrames middle = serverFrames cause :=
    closeFrames_of_calls (calls_until_close within)
  rw [closeFrames_append, List.mem_append, written]
  simp [serverFrames]

end Runs

/-- A close frame of the handler's own for a server that shuts down. -/
def restarting : WsCloseFrame := ⟨1012, "restarting".toUTF8⟩

/-- The one that the server writes. -/
def goingAway : WsCloseFrame := ⟨closeGoingAway, "server shutting down".toUTF8⟩

def farewellVisit (farewell : WsCloseFrame) : Nat → (op : ConnectionOp Nat) → op.Res
  | _, .select => .shutdown
  | _, .onEvent (.closed _) => .ok (.close (some farewell))
  | _, .onEvent _ => .ok .none
  | _, .send _ => .ok ()
  | _, .handshake _ _ => .completed
  | _, .createEndpoint _ => ()
  | _, .firstTick _ => ()
  | _, .close => .ok ()

def farewellRun (farewell : WsCloseFrame) :
    List (ConnectionEvent Nat) × Step Nat (Head ⊕ Unit) :=
  play (runConnection (.new (localhost 80)) ⟨0, localhost 5000, localhost 80⟩)
    (farewellVisit farewell) 8 0 (.ret (.inl .accepted))

theorem farewellRun_reaches (farewell : WsCloseFrame) : ConnectionRun (.new (localhost 80))
    ⟨0, localhost 5000, localhost 80⟩ (farewellRun farewell).1 (farewellRun farewell).2 := by
  have run := (play_reaches (farewellVisit farewell) 8 0 _ : ConnectionRun (.new (localhost 80))
    ⟨0, localhost 5000, localhost 80⟩ _ _)
  exact run

theorem shutdown_closes_once :
    Tame (farewellRun restarting).1 ∧ Returned (farewellRun restarting).2 ∧
      causeOf (farewellRun restarting).1 = some .serverShutdown ∧
      ClosesOnce (farewellRun restarting).1 (farewellRun restarting).2 :=
  ⟨by decide, rfl, rfl, one_close_frame (farewellRun_reaches restarting) (by decide)⟩

/-- The frame of the answer to `Closed` is never written; the server's own is. -/
theorem farewell_dropped :
    ConnectionRun (.new (localhost 80)) ⟨0, localhost 5000, localhost 80⟩
        (farewellRun restarting).1 (farewellRun restarting).2 ∧
      Returned (farewellRun restarting).2 ∧
      ⟨.onEvent (.closed .serverShutdown), .ok (.close (some restarting))⟩ ∈
        (farewellRun restarting).1 ∧
      some restarting ∉ closeFrames (farewellRun restarting).1 := by
  refine ⟨farewellRun_reaches restarting, rfl, List.mem_of_getElem? (i := 5) rfl, ?_⟩
  have written : closeFrames (farewellRun restarting).1 = serverFrames .serverShutdown := rfl
  rw [written]
  simp [serverFrames, closeFrame, closeGoingAway, restarting]

/-- With the handler's own frame, and with a frame that is also the server's. -/
theorem farewell_rule_at_shutdown :
    (⟨.onEvent (.closed .serverShutdown), .ok (.close (some restarting))⟩ ∈
        (farewellRun restarting).1 ∧ FarewellRule (farewellRun restarting).1) ∧
      ⟨.onEvent (.closed .serverShutdown), .ok (.close (some goingAway))⟩ ∈
        (farewellRun goingAway).1 ∧
      closeFrames (farewellRun goingAway).1 = [some goingAway] ∧
      FarewellRule (farewellRun goingAway).1 :=
  ⟨⟨List.mem_of_getElem? (i := 5) rfl, farewell_honoured_iff (farewellRun_reaches restarting)⟩,
    List.mem_of_getElem? (i := 5) rfl, rfl,
    farewell_honoured_iff (farewellRun_reaches goingAway)⟩

end CloseFrames
