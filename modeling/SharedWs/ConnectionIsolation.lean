import SharedWs.CommandFanout

/-!
# Isolation of connections

A step of one connection's task changes nothing but that connection; when the
task ends, its own slot and its own receiver go with it. Conversely a connection
is moved by three things only: the commands that are dispatched, the shutdown
flag, and what its own client, handler and clock answer. `Alone` is a connection
that is given just these, one at a time, and computes the rest; every run of the
whole server shows it what it needs to follow the connection call by call.
-/
namespace ConnectionIsolation

open BroadcastRing InteractionPrograms WsFrames
open ConnectionTask ConnectionProtocol ConnectionBudget CommandFanout ServerHandle ServerSystem
open ServerTask ServerTypes

variable {Command : Type}

/-- A step of the task at place `k`: one call, its return, or its end from outside. -/
inductive OwnStep (config : WsServerConfig) (k : Nat) : System Command → System Command → Prop
  | call {s : System Command} {c : Connection Command} {e : ConnectionEvent Command}
      {task : ConnectionTask.Step Command (Head ⊕ Unit)} {receiver : Receiver}
      (here : s.connections[k]? = some c) (live : c.fate = .running)
      (fires : Fires (runConnection config c.ctx) c.task e task)
      (hears : Hears s.shared c.receiver e receiver) :
      OwnStep config k s { s with connections := s.connections.set k (c.advance e task receiver) }
  | finish {s : System Command} {c : Connection Command} (here : s.connections[k]? = some c)
      (live : c.fate = .running) (returned : c.task = .ret (.inr ())) :
      OwnStep config k s (s.release k c .returned)
  | cut {s : System Command} {c : Connection Command} (here : s.connections[k]? = some c)
      (live : c.fate = .running) : OwnStep config k s (s.release k c .cut)

section Frame
variable {config : WsServerConfig} {retry : WsServerRetryPolicy} {faults : ServerFaults}
variable {s s' : System Command} {k : Nat}

/-- The end of the connection at place `k` gives back one slot and one receiver. -/
structure Releases (k : Nat) (s s' : System Command) : Prop where
  ended : ∃ c fate, s.connections[k]? = some c ∧ c.fate = .running ∧ fate ≠ .running ∧
    s'.connections[k]? = some { c with fate := fate }
  shared : s'.shared = { s.shared with
    active := s.shared.active - 1
    commands := s.shared.commands.leave }
  slot : s'.shared.active.toNat + 1 = s.shared.active.toNat
  receiver : s'.shared.commands.receivers + 1 = s.shared.commands.receivers

/-- Nobody but the connection at place `k` is touched. -/
structure Untouched (k : Nat) (s s' : System Command) : Prop where
  statuses : s'.shared.statuses = s.shared.statuses
  terminal : s'.shared.terminal = s.shared.terminal
  shutdown : s'.shared.shutdown = s.shared.shutdown
  dispatched : s'.dispatched = s.dispatched
  others : ∀ j, j ≠ k → s'.connections[j]? = s.connections[j]?
  server : s'.task = s.task ∧ s'.trace = s.trace
  callers : s'.callers = s.callers
  shared : s'.shared = s.shared ∨ Releases k s s'

theorem OwnStep.step (own : OwnStep config k s s') : Step config retry faults s s' := by
  cases own with
  | call here live fires hears => exact .connection here live fires hears
  | finish here live returned => exact .finish here live returned
  | cut here live => exact .cut here live

theorem releases_release (reached : Reachable config retry faults s) {c : Connection Command}
    (here : s.connections[k]? = some c) (live : c.fate = .running) {fate : Fate}
    (ended : fate ≠ .running) : Releases k s (s.release k c fate) := by
  obtain ⟨inside, _⟩ := List.getElem?_eq_some_iff.mp here
  have receivers := (fanout_reachable reached).receivers
  have fewer := running_ended here live ended
  refine ⟨⟨c, fate, here, live, ended, List.getElem?_set_self inside⟩, rfl, ?_, ?_⟩
  · exact (active_released (budget_reachable reached).counts here live ended).1
  · change s.shared.commands.receivers - 1 + 1 = s.shared.commands.receivers
    omega

theorem untouched_of_own (reached : Reachable config retry faults s)
    (own : OwnStep config k s s') : Untouched k s s' := by
  cases own with
  | call here live fires hears =>
    exact ⟨rfl, rfl, rfl, rfl, fun _ other => List.getElem?_set_ne other.symm, ⟨rfl, rfl⟩, rfl,
      Or.inl rfl⟩
  | finish here live returned =>
    exact ⟨rfl, rfl, rfl, rfl, fun _ other => List.getElem?_set_ne other.symm, ⟨rfl, rfl⟩, rfl,
      Or.inr (releases_release reached here live nofun)⟩
  | cut here live =>
    exact ⟨rfl, rfl, rfl, rfl, fun _ other => List.getElem?_set_ne other.symm, ⟨rfl, rfl⟩, rfl,
      Or.inr (releases_release reached here live nofun)⟩

end Frame

/-- What a connection's own client, handler and clock give it. At a `select!`
that is a frame from the client, or that there is none. -/
inductive Input where
  | handshake (result : HandshakeResult)
  | created
  | ticked
  | handled (result : Except String WsServerEndpointAction)
  | select (item : Option (Option (Except String WsFrame)))
  | sent (result : Except String Unit)
  | closed (result : Except String Unit)

/-- The frame that an arm was taken for. -/
def itemOf : ConnectionArm Command → Option (Option (Except String WsFrame))
  | .incoming item => some item
  | _ => none

def inputOf : ConnectionEvent Command → Input
  | ⟨.handshake _ _, result⟩ => .handshake result
  | ⟨.createEndpoint _, _⟩ => .created
  | ⟨.firstTick _, _⟩ => .ticked
  | ⟨.onEvent _, result⟩ => .handled result
  | ⟨.select, arm⟩ => .select (itemOf arm)
  | ⟨.send _, result⟩ => .sent result
  | ⟨.close, result⟩ => .closed result

/-- What can move a connection. -/
inductive Stimulus (Command : Type) where
  | dispatch (command : Command)
  | shutdown
  | input (input : Input)

/-- A connection with the commands dispatched since it subscribed. -/
structure Alone (Command : Type) where
  task : ConnectionTask.Step Command (Head ⊕ Unit)
  trace : List (ConnectionEvent Command)
  dispatched : List Command
  shutdown : Bool

section Alone
variable (config : WsServerConfig) (ctx : WsServerConnectionContext) (a : Alone Command)

def retained : Nat := (channel config.retainedCommandsPerClient.toNat : RingBuffer Unit).capacity

/-- The arm that the `select!` takes, polled in order. -/
def Alone.arm (item : Option (Option (Except String WsFrame))) : ConnectionArm Command :=
  if a.shutdown then .shutdown
  else
    match item with
    | some item => .incoming item
    | none =>
      match offer (retained config) (a.dispatched.drop (readCommands a.trace).length) with
      | some received => .command received
      | none => .tick

def Alone.answer : (op : ConnectionOp Command) → Input → Option op.Res
  | .handshake _ _, .handshake result => some result
  | .createEndpoint _, .created => some ()
  | .firstTick _, .ticked => some ()
  | .onEvent _, .handled result => some result
  | .select, .select item => some (a.arm config item)
  | .send _, .sent result => some result
  | .close, .closed result => some result
  | _, _ => none

/-- The rest of the current turn. -/
def current : ConnectionTask.Step Command (Head ⊕ Unit) →
    ConnectionTask.Step Command (Head ⊕ Unit)
  | .ret (.inl head) => runConnection config ctx head
  | p => p

def Alone.hear (input : Input) : Alone Command :=
  match current config ctx a.task with
  | .call op next =>
    match a.answer config op input with
    | some answer => { a with task := next answer, trace := a.trace ++ [⟨op, answer⟩] }
    | none => a
  | .ret _ => a

def Alone.take : Stimulus Command → Alone Command
  | .dispatch command => { a with dispatched := a.dispatched ++ [command] }
  | .shutdown => { a with shutdown := true }
  | .input input => a.hear config ctx input

def Alone.takes (stimuli : List (Stimulus Command)) : Alone Command :=
  stimuli.foldl (Alone.take config ctx) a

variable {config ctx a}

theorem arm_flagged (requested : a.shutdown = true)
    (item : Option (Option (Except String WsFrame))) : a.arm config item = .shutdown := by
  unfold Alone.arm
  rw [requested]
  rfl

theorem arm_frame (quiet : a.shutdown = false) (item : Option (Except String WsFrame)) :
    a.arm config (some item) = .incoming item := by
  rw [Alone.arm, quiet]
  rfl

theorem arm_command (quiet : a.shutdown = false) {received : Except RecvError Command}
    (offered : offer (retained config) (a.dispatched.drop (readCommands a.trace).length) =
      some received) : a.arm config none = .command received := by
  rw [Alone.arm, quiet, offered]
  rfl

theorem arm_tick (quiet : a.shutdown = false)
    (offered : offer (retained config) (a.dispatched.drop (readCommands a.trace).length) = none) :
    a.arm config none = .tick := by
  rw [Alone.arm, quiet, offered]
  rfl

/-- A call with the answer that the connection itself would compute. -/
theorem hear_fires {e : ConnectionEvent Command}
    {task : ConnectionTask.Step Command (Head ⊕ Unit)}
    (fires : Fires (runConnection config ctx) a.task e task)
    (answered : a.answer config e.op (inputOf e) = some e.ans) :
    a.hear config ctx (inputOf e) = { a with task := task, trace := a.trace ++ [e] } := by
  have now : ∃ next, current config ctx a.task = .call e.op next ∧ next e.ans = task := by
    generalize a.task = p at fires
    cases fires with
    | call op next ans => exact ⟨next, rfl, rfl⟩
    | @head head _ _ turn =>
      obtain ⟨op, next, starts⟩ := @runConnection_starts Command config ctx head
      rw [starts] at turn
      cases turn with
      | call _ _ ans => exact ⟨next, starts, rfl⟩
  obtain ⟨next, calls, rfl⟩ := now
  unfold Alone.hear
  rw [calls]
  dsimp only
  rw [answered]

end Alone

section View
variable {config : WsServerConfig} {retry : WsServerRetryPolicy} {faults : ServerFaults}
variable {s s' : System Command} {k : Nat}

def viewOf (s : System Command) (c : Connection Command) : Alone Command :=
  ⟨c.task, c.trace, s.dispatched.drop c.receiver.since, s.shared.shutdown⟩

def traceAt (s : System Command) (k : Nat) : List (ConnectionEvent Command) :=
  (s.connections[k]?).elim [] Connection.trace

/-- What one step means to the connection at place `k`. -/
def stimuli (k : Nat) (s s' : System Command) : List (Stimulus Command) :=
  (s'.dispatched.drop s.dispatched.length).map .dispatch ++
    (if s'.shared.shutdown && !s.shared.shutdown then [.shutdown] else []) ++
    ((traceAt s' k).drop (traceAt s k).length).map fun e => .input (inputOf e)

/-- A run, by what it means to the connection at place `k`. -/
inductive Course (config : WsServerConfig) (retry : WsServerRetryPolicy) (faults : ServerFaults)
    (k : Nat) : System Command → List (Stimulus Command) → System Command → Prop
  | here (s : System Command) : Course config retry faults k s [] s
  | step {s s' s'' : System Command} {t : List (Stimulus Command)}
      (first : Step config retry faults s s') (rest : Course config retry faults k s' t s'') :
      Course config retry faults k s (stimuli k s s' ++ t) s''

/-- The parts of the state that a step of the system can change for everybody. -/
theorem step_outside (step : Step config retry faults s s') :
    s'.dispatched = s.dispatched ∧ s'.shared.shutdown = s.shared.shutdown ∨
      (∃ command, s'.dispatched = s.dispatched ++ [command]) ∧
        s'.shared.shutdown = s.shared.shutdown ∧ s'.connections = s.connections ∨
      s'.dispatched = s.dispatched ∧ s'.shared.shutdown = true ∧
        s'.connections = s.connections := by
  cases step with
  | server fires serves => cases serves <;> exact Or.inl ⟨rfl, rfl⟩
  | requestShutdown => exact Or.inr (Or.inr ⟨rfl, rfl, rfl⟩)
  | caller here fires grants =>
    cases grants with
    | send command => exact Or.inr (Or.inl ⟨⟨command, rfl⟩, rfl, rfl⟩)
    | _ => exact Or.inl ⟨rfl, rfl⟩
  | _ => exact Or.inl ⟨rfl, rfl⟩

/-- What the channel offers is decided by the dispatches and by what was read. -/
theorem recv_viewed (reached : Reachable config retry faults s) {c : Connection Command}
    (here : s.connections[k]? = some c) (live : c.fate = .running)
    (reading : ¬ Missed c.trace) :
    (s.shared.commands.recv c.receiver.next).map Prod.fst =
      offer (retained config)
        ((s.dispatched.drop c.receiver.since).drop (readCommands c.trace).length) := by
  have follows := ((fanout_reachable reached).links k c here).position live reading
  rw [recv_offer, capacity_reachable reached, follows.same, List.drop_drop]
  rfl

/-- The connection by itself would have taken the same arm. -/
theorem arm_viewed (reached : Reachable config retry faults s) {c : Connection Command}
    (here : s.connections[k]? = some c) (live : c.fate = .running) {arm : ConnectionArm Command}
    {task : ConnectionTask.Step Command (Head ⊕ Unit)} {receiver : Receiver}
    (fires : Fires (runConnection config c.ctx) c.task ⟨.select, arm⟩ task)
    (hears : Hears s.shared c.receiver ⟨.select, arm⟩ receiver) :
    (viewOf s c).arm config (itemOf arm) = arm := by
  have run := ((fanout_reachable reached).links k c here).run
  have offered := recv_viewed reached here live (not_missed_of_select run fires).2
  cases hears with
  | shutdown requested => exact arm_flagged requested none
  | incoming quiet item => exact arm_frame quiet item
  | command quiet got =>
    rw [got] at offered
    exact arm_command quiet offered.symm
  | tick quiet waits =>
    rw [waits] at offered
    exact arm_tick quiet offered.symm
  | other notSelect answer => exact absurd rfl notSelect

/-- The connection by itself would have got the same answer. -/
theorem answer_viewed (reached : Reachable config retry faults s) {c : Connection Command}
    (here : s.connections[k]? = some c) (live : c.fate = .running) {e : ConnectionEvent Command}
    {task : ConnectionTask.Step Command (Head ⊕ Unit)} {receiver : Receiver}
    (fires : Fires (runConnection config c.ctx) c.task e task)
    (hears : Hears s.shared c.receiver e receiver) :
    (viewOf s c).answer config e.op (inputOf e) = some e.ans := by
  rcases e with ⟨op, answer⟩
  cases op with
  | select => exact congrArg some (arm_viewed reached here live fires hears)
  | _ => rfl

theorem hears_since {shared : Shared Command} {receiver receiver' : Receiver}
    {e : ConnectionEvent Command} (hears : Hears shared receiver e receiver') :
    receiver'.since = receiver.since := by
  cases hears <;> rfl

theorem stimuli_calm (dispatched : s'.dispatched = s.dispatched)
    (shutdown : s'.shared.shutdown = s.shared.shutdown) :
    stimuli k s s' =
      ((traceAt s' k).drop (traceAt s k).length).map fun e => .input (inputOf e) := by
  simp [stimuli, dispatched, shutdown]

/-- A step that only moves connections. -/
theorem view_moves (reached : Reachable config retry faults s) {c c' : Connection Command}
    (here : s.connections[k]? = some c) (there : s'.connections[k]? = some c')
    (moves : Moves config s.shared (some c) (some c'))
    (dispatched : s'.dispatched = s.dispatched)
    (shutdown : s'.shared.shutdown = s.shared.shutdown) :
    c'.ctx = c.ctx ∧ viewOf s' c' = (viewOf s c).takes config c.ctx (stimuli k s s') := by
  rw [stimuli_calm dispatched shutdown]
  have before : traceAt s k = c.trace := by rw [traceAt, here]; rfl
  have after : traceAt s' k = c'.trace := by rw [traceAt, there]; rfl
  rw [before, after]
  have still : c'.task = c.task → c'.trace = c.trace → c'.receiver = c.receiver →
      viewOf s' c' = (viewOf s c).takes config c.ctx
        ((c'.trace.drop c.trace.length).map fun e => .input (inputOf e)) := by
    intro task trace receiver
    rw [viewOf, task, trace, receiver, dispatched, shutdown, List.drop_length]
    rfl
  cases moves with
  | advances live fires hears =>
    refine ⟨rfl, ?_⟩
    have heard := hear_fires (a := viewOf s c) fires
      (answer_viewed reached here live fires hears)
    change _ = (viewOf s c).takes config c.ctx
      (((c.trace ++ [_]).drop c.trace.length).map fun e => .input (inputOf e))
    rw [List.drop_left]
    refine Eq.trans ?_ heard.symm
    change Alone.mk _ _ (s'.dispatched.drop _) s'.shared.shutdown = _
    rw [dispatched, shutdown, Connection.advance, hears_since hears]
    rfl
  | stays => exact ⟨rfl, still rfl rfl rfl⟩
  | returns => exact ⟨rfl, still rfl rfl rfl⟩
  | cut => exact ⟨rfl, still rfl rfl rfl⟩
  | reaped => exact ⟨rfl, still rfl rfl rfl⟩

/-- Every step moves the connection as it would move by itself. -/
theorem view_step (reached : Reachable config retry faults s) {c : Connection Command}
    (here : s.connections[k]? = some c) (step : Step config retry faults s s') :
    ∃ c', s'.connections[k]? = some c' ∧ c'.ctx = c.ctx ∧
      viewOf s' c' = (viewOf s c).takes config c.ctx (stimuli k s s') := by
  have moves := moves_step step k
  rw [here] at moves
  obtain ⟨c', there⟩ := moves_some moves
  rw [there] at moves
  rcases step_outside step with ⟨dispatched, shutdown⟩ | ⟨⟨command, grown⟩, shutdown, same⟩ |
    ⟨dispatched, requested, same⟩
  · exact ⟨c', there, view_moves reached here there moves dispatched shutdown⟩
  · have since := ((fanout_reachable reached).links k c here).since
    have told : stimuli k s s' = [.dispatch command] := by
      simp [stimuli, grown, shutdown, traceAt, same]
    refine ⟨c, same ▸ here, rfl, ?_⟩
    rw [told, viewOf, grown, shutdown, List.drop_append_of_le_length since]
    rfl
  · refine ⟨c, same ▸ here, rfl, ?_⟩
    cases flag : s.shared.shutdown with
    | true =>
      have told : stimuli k s s' = [] := by simp [stimuli, dispatched, flag, traceAt, same]
      rw [told, viewOf, dispatched, requested, ← flag]
      rfl
    | false =>
      have told : stimuli k s s' = [.shutdown] := by
        simp [stimuli, dispatched, requested, flag, traceAt, same]
      rw [told, viewOf, dispatched, requested]
      rfl

/-- So does every run. -/
theorem view_course {t : List (Stimulus Command)} (reached : Reachable config retry faults s)
    {c : Connection Command} (here : s.connections[k]? = some c)
    (course : Course config retry faults k s t s') :
    ∃ c', s'.connections[k]? = some c' ∧ c'.ctx = c.ctx ∧
      viewOf s' c' = (viewOf s c).takes config c.ctx t := by
  induction course generalizing c with
  | here => exact ⟨c, here, rfl, rfl⟩
  | step first _ ih =>
    obtain ⟨c₁, there, ctx, view⟩ := view_step reached here first
    obtain ⟨c₂, last, ctx', view'⟩ := ih (reached.tail (.single first)) there
    refine ⟨c₂, last, ctx'.trans ctx, ?_⟩
    rw [view', view, ctx, Alone.takes, Alone.takes, Alone.takes, List.foldl_append]

end View

section Context
variable {config : WsServerConfig} {first second : WsServerConnectionContext}

/-- The event with another context in `Connected`. -/
def addressed (ctx : WsServerConnectionContext) :
    WsServerEndpointEvent Command → WsServerEndpointEvent Command
  | .connected _ => .connected ctx
  | event => event

/-- The turn after the upgrade, and after the factory was asked. -/
def upgraded (config : WsServerConfig) (ctx : WsServerConnectionContext) :
    ConnectionTask.Step Command (Head ⊕ Unit) := do
  let () ← call (.createEndpoint ctx)
  let () ← call (.firstTick config.endpointTickInterval)
  handleEvent (.connected ctx)

def created (config : WsServerConfig) (ctx : WsServerConnectionContext) :
    ConnectionTask.Step Command (Head ⊕ Unit) := do
  let () ← call (.firstTick config.endpointTickInterval)
  handleEvent (.connected ctx)

/-- The same point of the same program, up to the context. -/
inductive Abreast (config : WsServerConfig) (first second : WsServerConnectionContext) :
    ConnectionTask.Step Command (Head ⊕ Unit) → ConnectionTask.Step Command (Head ⊕ Unit) → Prop
  | same (p : ConnectionTask.Step Command (Head ⊕ Unit)) : Abreast config first second p p
  | upgraded : Abreast config first second (upgraded config first) (upgraded config second)
  | created : Abreast config first second (created config first) (created config second)
  | opening :
      Abreast config first second (handleEvent (.connected first)) (handleEvent (.connected second))

structure Alike (config : WsServerConfig) (first second : WsServerConnectionContext)
    (a b : Alone Command) : Prop where
  task : Abreast config first second a.task b.task
  read : readCommands a.trace = readCommands b.trace
  heard : ∀ ctx, (delivered a.trace).map (addressed ctx) = (delivered b.trace).map (addressed ctx)
  dispatched : a.dispatched = b.dispatched
  shutdown : a.shutdown = b.shutdown

variable {a b : Alone Command}

theorem Alike.arm (alike : Alike config first second a b)
    (item : Option (Option (Except String WsFrame))) : a.arm config item = b.arm config item := by
  unfold Alone.arm
  rw [alike.shutdown, alike.dispatched, alike.read]

theorem Alike.answer (alike : Alike config first second a b) (op : ConnectionOp Command)
    (input : Input) : a.answer config op input = b.answer config op input := by
  cases op with
  | select =>
    cases input with
    | select item => exact congrArg some (alike.arm item)
    | _ => rfl
  | _ => cases input <;> rfl

/-- Both make a call that tells their handlers the same, up to the context. -/
theorem Alike.called (alike : Alike config first second a b) {d e : ConnectionEvent Command}
    {p q : ConnectionTask.Step Command (Head ⊕ Unit)} (abreast : Abreast config first second p q)
    (read : readOf d = readOf e)
    (told : ∀ ctx, (eventOf d).map (addressed ctx) = (eventOf e).map (addressed ctx)) :
    Alike config first second { a with task := p, trace := a.trace ++ [d] }
      { b with task := q, trace := b.trace ++ [e] } where
  task := abreast
  read := by
    change readCommands (a.trace ++ [d]) = readCommands (b.trace ++ [e])
    rw [readCommands_snoc, readCommands_snoc, alike.read, read]
  heard := by
    intro ctx
    change (delivered (a.trace ++ [d])).map _ = (delivered (b.trace ++ [e])).map _
    rw [delivered_snoc, delivered_snoc, List.map_append, List.map_append, alike.heard ctx,
      ← Option.toList_map, ← Option.toList_map, told ctx]
  dispatched := alike.dispatched
  shutdown := alike.shutdown

/-- Both are at the same call. -/
theorem Alike.calls (alike : Alike config first second a b) {op : ConnectionOp Command}
    {next next' : op.Res → ConnectionTask.Step Command (Head ⊕ Unit)}
    (mine : current config first a.task = .call op next)
    (theirs : current config second b.task = .call op next')
    (rest : ∀ answer, Abreast config first second (next answer) (next' answer)) (input : Input) :
    Alike config first second (a.hear config first input) (b.hear config second input) := by
  unfold Alone.hear
  rw [mine, theirs]
  dsimp only
  rw [alike.answer op input]
  cases b.answer config op input with
  | none => exact alike
  | some answer => exact alike.called (rest answer) rfl fun _ => rfl

theorem Alike.hear (alike : Alike config first second a b) (input : Input) :
    Alike config first second (a.hear config first input) (b.hear config second input) := by
  have task := alike.task
  generalize mine : a.task = p at task
  generalize theirs : b.task = q at task
  cases task with
  | same =>
    cases p with
    | call op next =>
      exact alike.calls (by rw [mine]; rfl) (by rw [theirs]; rfl) (fun _ => .same _) input
    | ret flow =>
      rcases flow with (_ | _) | _
      · refine alike.calls (by rw [mine]; rfl) (by rw [theirs]; rfl) ?_ input
        intro answer
        cases answer with
        | completed => exact .upgraded
        | rejected error => exact .same _
        | timedOut => exact .same _
      · exact alike.calls (by rw [mine]; rfl) (by rw [theirs]; rfl) (fun _ => .same _) input
      · unfold Alone.hear
        rw [mine, theirs]
        exact alike
  | upgraded =>
    unfold Alone.hear
    rw [mine, theirs]
    cases input with
    | created => exact alike.called .created rfl fun _ => rfl
    | _ => exact alike
  | created =>
    exact alike.calls (by rw [mine]; rfl) (by rw [theirs]; rfl) (fun _ => .opening) input
  | opening =>
    unfold Alone.hear
    rw [mine, theirs]
    cases input with
    | handled result =>
      refine alike.called ?_ rfl fun _ => rfl
      cases result with
      | error error => exact .same _
      | ok action => exact .same _
    | _ => exact alike

theorem Alike.takes (alike : Alike config first second a b) (t : List (Stimulus Command)) :
    Alike config first second (a.takes config first t) (b.takes config second t) := by
  induction t generalizing a b with
  | nil => exact alike
  | cons stimulus t ih =>
    apply ih
    cases stimulus with
    | input input => exact alike.hear input
    | shutdown => exact ⟨alike.task, alike.read, alike.heard, alike.dispatched, rfl⟩
    | dispatch command =>
      exact ⟨alike.task, alike.read, alike.heard, congrArg (· ++ [command]) alike.dispatched,
        alike.shutdown⟩

end Context

section System
variable {config : WsServerConfig} {retry retry' : WsServerRetryPolicy}
variable {faults faults' : ServerFaults} {s r s' r' : System Command} {k j : Nat}
variable {c d : Connection Command}

/-- Two connections that were just admitted, with the same commands dispatched
since they subscribed. -/
structure SameStart (s : System Command) (c : Connection Command) (r : System Command)
    (d : Connection Command) : Prop where
  fresh : c.trace = [] ∧ d.trace = []
  dispatches : s.dispatched.drop c.receiver.since = r.dispatched.drop d.receiver.since
  shutdown : s.shared.shutdown = r.shared.shutdown

/-- Two handlers that heard the same. A connection's context is its own: where
the two differ, so does what `Connected` says. -/
structure SameEvents (c d : Connection Command) : Prop where
  unaddressed : ∀ ctx,
    (delivered c.trace).map (addressed ctx) = (delivered d.trace).map (addressed ctx)
  equal : c.ctx = d.ctx → delivered c.trace = delivered d.trace

/-- The isolation of connections in state `s`: of the others from each, and of
each from the others. -/
structure IsolationKept (config : WsServerConfig) (retry : WsServerRetryPolicy)
    (faults : ServerFaults) (s : System Command) : Prop where
  untouched : ∀ k s', OwnStep config k s s' → Untouched k s s'
  unaffected : ∀ retry' faults' (r : System Command), Reachable config retry' faults' r →
    ∀ (k j : Nat) c d, s.connections[k]? = some c → r.connections[j]? = some d →
      SameStart s c r d → ∀ t s' r', Course config retry faults k s t s' →
        Course config retry' faults' j r t r' →
          ∃ c' d', s'.connections[k]? = some c' ∧ r'.connections[j]? = some d' ∧ SameEvents c' d'

theorem fresh_task (reached : Reachable config retry faults s)
    (here : s.connections[k]? = some c) (fresh : c.trace = []) :
    c.task = .ret (.inl .accepted) := by
  have run := ((fanout_reachable reached).links k c here).run
  rw [fresh] at run
  generalize c.task = task at run
  cases run with
  | here => rfl

theorem same_events (reached : Reachable config retry faults s)
    (reached' : Reachable config retry' faults' r) (here : s.connections[k]? = some c)
    (there : r.connections[j]? = some d) (start : SameStart s c r d)
    {t : List (Stimulus Command)} (course : Course config retry faults k s t s')
    (course' : Course config retry' faults' j r t r') :
    ∃ c' d', s'.connections[k]? = some c' ∧ r'.connections[j]? = some d' ∧ SameEvents c' d' := by
  obtain ⟨c', here', ctx, view⟩ := view_course reached here course
  obtain ⟨d', there', ctx', view'⟩ := view_course reached' there course'
  obtain ⟨⟨fresh, fresh'⟩, dispatches, shutdown⟩ := start
  have task := fresh_task reached here fresh
  have task' := fresh_task reached' there fresh'
  have alike : Alike config c.ctx d.ctx (viewOf s c) (viewOf r d) := by
    refine ⟨?_, ?_, ?_, dispatches, shutdown⟩
    · change Abreast config c.ctx d.ctx c.task d.task
      rw [task, task']
      exact .same _
    · change readCommands c.trace = readCommands d.trace
      rw [fresh, fresh']
    · intro ctx
      change (delivered c.trace).map _ = (delivered d.trace).map _
      rw [fresh, fresh']
  refine ⟨c', d', here', there', ?_, ?_⟩
  · have alike' := alike.takes t
    rw [← view, ← view'] at alike'
    exact alike'.heard
  · intro same
    have equal : viewOf s c = viewOf r d := by
      rw [viewOf, viewOf, task, task', fresh, fresh', dispatches, shutdown]
    have views : viewOf s' c' = viewOf r' d' := by
      rw [view, view', equal, ← ctx, same, ctx']
    exact congrArg (fun a => delivered a.trace) views

/-- In every reachable state, for every step of a connection and every two runs. -/
theorem connections_isolated (reached : Reachable config retry faults s) :
    IsolationKept config retry faults s where
  untouched := fun _ _ own => untouched_of_own reached own
  unaffected := fun _ _ _ reached' _ _ _ _ here there start _ _ _ course course' =>
    same_events reached reached' here there start course course'

theorem Course.quiet {s'' : System Command} {t : List (Stimulus Command)}
    (first : Step config retry faults s s') (calm : stimuli k s s' = [])
    (rest : Course config retry faults k s' t s'') : Course config retry faults k s t s'' := by
  have whole := Course.step first rest
  rw [calm] at whole
  exact whole

theorem Course.one {s'' : System Command} {t : List (Stimulus Command)}
    {stimulus : Stimulus Command} (first : Step config retry faults s s')
    (told : stimuli k s s' = [stimulus]) (rest : Course config retry faults k s' t s'') :
    Course config retry faults k s (stimulus :: t) s'' := by
  have whole := Course.step first rest
  rw [told] at whole
  exact whole

end System

/-- The same client, once by itself and once beside a client whose handshake
fails while the other is served. -/
theorem neighbour_unnoticed :
    ∃ (s r s' r' : System Nat) (t : List (Stimulus Nat)),
      Reachable (.new (.v4 0 80)) .default ⟨none⟩ s ∧
      Reachable (.new (.v4 0 80)) .default ⟨none⟩ r ∧
      Course (.new (.v4 0 80)) .default ⟨none⟩ 0 s t s' ∧
      Course (.new (.v4 0 80)) .default ⟨none⟩ 1 r t r' ∧
      r'.connections.map Connection.fate = [.returned, .running] ∧
      ∃ c d, s'.connections[0]? = some c ∧ r'.connections[1]? = some d ∧ SameEvents c d := by
  have runs : ∃ (s r s' r' : System Nat) (c d : Connection Nat) (t : List (Stimulus Nat)),
      Relation.ReflTransGen (Step (.new (.v4 0 80)) .default ⟨none⟩)
        (start (.new (.v4 0 80)) .default) s ∧
      Relation.ReflTransGen (Step (.new (.v4 0 80)) .default ⟨none⟩)
        (start (.new (.v4 0 80)) .default) r ∧
      s.connections[0]? = some c ∧ r.connections[1]? = some d ∧ SameStart s c r d ∧
      Course (.new (.v4 0 80)) .default ⟨none⟩ 0 s t s' ∧
      Course (.new (.v4 0 80)) .default ⟨none⟩ 1 r t r' ∧
      r'.connections.map Connection.fate = [.returned, .running] := by
    have room : 0 < (WsServerConfig.new (.v4 0 80)).maxConnections := by decide
    have free : 1 < (WsServerConfig.new (.v4 0 80)).maxConnections := by decide
    obtain ⟨_, alone⟩ := oneClient_reached .default (.v4 1 5000) room
    obtain ⟨_, beside⟩ := oneClient_reached .default (.v4 2 5001) room
    refine ⟨_, _, _, _, _, _, [.input (.handshake .completed), .input .created, .input .ticked,
        .input (.handled (.ok .none))],
      alone,
      beside.trans <| .head (.server (.head (.call _ _ _))
        (.acceptIncoming _ rfl (.ok (.v4 1 5000)))) <|
      .head (.server (.call _ _ _) (.acquired _ free)) <|
      .head (.server (.call _ _ _) (.nextConnectionId _)) <|
      .head (.server (.call _ _ _) (.subscribe _)) <|
      .head (.server (.call _ _ _) (.spawn _ _ _)) .refl,
      rfl, rfl, ⟨⟨rfl, rfl⟩, rfl, rfl⟩,
      .one (.connection (k := 0) rfl rfl (.head (.call _ _ _))
        (@Hears.other _ _ _ (.handshake _ _) nofun .completed)) rfl <|
      .one (.connection (k := 0) rfl rfl (.call _ _ _)
        (@Hears.other _ _ _ (.createEndpoint _) nofun ())) rfl <|
      .one (.connection (k := 0) rfl rfl (.call _ _ _)
        (@Hears.other _ _ _ (.firstTick _) nofun ())) rfl <|
      .one (.connection (k := 0) rfl rfl (.call _ _ _)
        (@Hears.other _ _ _ (.onEvent _) nofun (.ok .none))) rfl (.here _),
      .quiet (.connection (k := 0) rfl rfl (.head (.call _ _ _))
        (@Hears.other _ _ _ (.handshake _ _) nofun (.rejected "bad request"))) rfl <|
      .one (.connection (k := 1) rfl rfl (.head (.call _ _ _))
        (@Hears.other _ _ _ (.handshake _ _) nofun .completed)) rfl <|
      .one (.connection (k := 1) rfl rfl (.call _ _ _)
        (@Hears.other _ _ _ (.createEndpoint _) nofun ())) rfl <|
      .quiet (.finish (k := 0) rfl rfl rfl) rfl <|
      .one (.connection (k := 1) rfl rfl (.call _ _ _)
        (@Hears.other _ _ _ (.firstTick _) nofun ())) rfl <|
      .one (.connection (k := 1) rfl rfl (.call _ _ _)
        (@Hears.other _ _ _ (.onEvent _) nofun (.ok .none))) rfl (.here _), rfl⟩
  obtain ⟨s, r, s', r', c, d, t, run, run', here, there, same, course, course', fates⟩ := runs
  have reached : Reachable (.new (.v4 0 80)) .default ⟨none⟩ s := ⟨_, rfl, run⟩
  have reached' : Reachable (.new (.v4 0 80)) .default ⟨none⟩ r := ⟨_, rfl, run'⟩
  exact ⟨s, r, s', r', t, reached, reached', course, course', fates,
    (connections_isolated reached).unaffected .default ⟨none⟩ r reached' 0 1 c d here there same t
      s' r' course course'⟩

end ConnectionIsolation
