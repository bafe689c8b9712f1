import SharedWs.ServerOutline
import SharedWs.ServerSystem

/-!
# The lifecycle of a server

The published statuses are a mix of `Retrying` and `Listening`, then either
`ShuttingDown` and `Stopped`, or `Terminal`. The server task alone writes the
status and the terminal cell, so the path and the agreement of the two are
facts about its own runs; the shutdown flag comes from outside, and only the
system knows that an exit through it was asked for.
-/
namespace ServerLifecycle

open InteractionPrograms InteractionMonitors InteractionMonitors.Monitor
open ServerHandle ServerOutline ServerSystem ServerTask ServerTypes

/-- What the server task has published, stored and seen. -/
structure Life where
  published : List ManagedWsServerStatus
  terminal : Option ManagedWsServerTerminalError
  requested : Bool

def Life.after (m : Life) : ServerEvent → Life
  | ⟨(_, .publish status), _⟩ => { m with published := m.published ++ [status] }
  | ⟨(_, .storeTerminal error), _⟩ => { m with terminal := m.terminal.or (some error) }
  | ⟨(_, .readShutdown), true⟩ => { m with requested := true }
  | ⟨(_, .acceptSelect), .shutdown⟩ => { m with requested := true }
  | ⟨(_, .backoffSelect _), .shutdown⟩ => { m with requested := true }
  | _ => m

def unborn : Life := ⟨[], none, false⟩

/-- `Retrying` and `Listening` in any order. -/
def Mixed (statuses : List ManagedWsServerStatus) : Prop :=
  ∀ status ∈ statuses, status = .retrying ∨ status = .listening

structure Running (m : Life) : Prop where
  mixed : Mixed m.published
  clear : m.terminal = none

structure Leaving (m : Life) : Prop where
  path : ∃ mix, Mixed mix ∧ m.published = mix ++ [.shuttingDown]
  clear : m.terminal = none
  requested : m.requested = true

structure Stopped (m : Life) : Prop where
  path : ∃ mix, Mixed mix ∧ m.published = mix ++ [.shuttingDown, .stopped]
  clear : m.terminal = none
  requested : m.requested = true

structure Failed (m : Life) : Prop where
  path : ∃ mix, Mixed mix ∧ m.published = mix ++ [.terminal]
  cause : ∃ error, m.terminal = some error

/-- What the server task may do next. -/
def Permitted (m : Life) : ServerOp → Prop
  | .publish .starting => False
  | .publish .retrying | .publish .listening => Running m
  | .publish .shuttingDown => Running m ∧ m.requested = true
  | .publish .stopped => Leaving m
  | .publish .terminal => Mixed m.published ∧ m.terminal.isSome = true
  | .storeTerminal _ => Running m
  | _ => True

/-- Nobody else writes the terminal cell. -/
def Faithful (m : Life) : ServerEvent → Prop
  | ⟨(_, .readTerminal), stored⟩ => stored = m.terminal
  | _ => True

def life : Monitor (serverSignature.showing ServerVars) Life where
  step := Life.after
  rely := Faithful
  safe := fun m e => Permitted m e.op.2

variable {m : Life} {vars : ServerVars} {α : Type}

theorem mixed_snoc {statuses : List ManagedWsServerStatus} {status : ManagedWsServerStatus}
    (mixed : Mixed statuses) (allowed : status = .retrying ∨ status = .listening) :
    Mixed (statuses ++ [status]) := by
  intro other listed
  rcases List.mem_append.mp listed with early | late
  · exact mixed other early
  · rw [List.mem_singleton.mp late]
    exact allowed

/-- While the cell is empty, `set_status` publishes. -/
theorem sets (status : ManagedWsServerStatus) (clear : m.terminal = none)
    (permitted : Permitted m (.publish status)) :
    life.ensures (fun _ _ m' => m' = { m with published := m.published ++ [status] })
      (setStatus status) vars m := by
  apply life.ensures_bind.mpr
  intro (stored : Option ManagedWsServerTerminalError) faithful
  refine ⟨trivial, ?_⟩
  have empty : stored = none := Eq.trans faithful clear
  subst empty
  intro answer _
  exact ⟨permitted, rfl⟩

/-- Where the task stands at the top of a loop. -/
def Standing : ServerHead → ServerVars → Life → Prop
  | .lifecycle, _, m => Running m
  | .accepting _ _, _, m => Running m
  | .draining, _, m => Leaving m
  | .aborting true, _, m => Leaving m
  | .aborting false, _, m => Failed m

def Ended (m : Life) : Prop := Stopped m ∨ Failed m

theorem Running.requested (running : Running m) : Running { m with requested := true } :=
  ⟨running.mixed, running.clear⟩

theorem Running.published {status : ManagedWsServerStatus} (running : Running m)
    (allowed : status = .retrying ∨ status = .listening) :
    Running { m with published := m.published ++ [status] } :=
  ⟨mixed_snoc running.mixed allowed, running.clear⟩

theorem running_sets {status : ManagedWsServerStatus} (running : Running m)
    (allowed : status = .retrying ∨ status = .listening) :
    life.ensures (fun _ _ => Running) (setStatus status) vars m := by
  have permitted : Permitted m (.publish status) := by
    rcases allowed with rfl | rfl <;> exact running
  refine life.ensures_mono ?_ (sets status running.clear permitted)
  rintro _ _ _ rfl
  exact running.published allowed

theorem leaving_sets (running : Running m) (requested : m.requested = true) :
    life.ensures (fun _ _ => Leaving) (setStatus .shuttingDown) vars m := by
  refine life.ensures_mono ?_ (sets .shuttingDown running.clear ⟨running, requested⟩)
  rintro _ _ _ rfl
  exact ⟨⟨m.published, running.mixed, rfl⟩, running.clear, requested⟩

theorem stopped_sets (leaving : Leaving m) :
    life.ensures (fun _ _ => Stopped) (setStatus .stopped) vars m := by
  refine life.ensures_mono ?_ (sets .stopped leaving.clear leaving)
  rintro _ _ _ rfl
  obtain ⟨mix, mixed, path⟩ := leaving.path
  have longer : m.published ++ [.stopped] = mix ++ [.shuttingDown, .stopped] := by
    rw [path, List.append_assoc]
    rfl
  exact ⟨⟨mix, mixed, longer⟩, leaving.clear, leaving.requested⟩

/-- The lifecycle at the junctions of the server task. -/
def lifeJunctions : Junctions Life where
  standing := Standing
  binding := fun _ => Running
  bound := fun _ => Running
  listening := fun _ => Running
  losing := fun _ _ => Running
  failed := fun _ _ => Running
  retrying := fun _ => Running
  closing := fun _ m => Running m ∧ m.requested = true
  leaving := fun _ m => Running m ∧ m.requested = true
  doomed := fun _ _ => Running
  stored := fun _ m => Mixed m.published ∧ ∃ error, m.terminal = some error
  terminal := fun _ => Failed
  incoming := fun _ => Running
  acquired := fun _ => Running
  identified := fun _ _ => Running
  subscribed := fun _ _ _ => Running
  overdue := fun _ => Leaving
  emptied := fun _ => Leaving
  done := fun _ => Ended

theorem life_outline (config : WsServerConfig) (retry : WsServerRetryPolicy)
    (faults : ServerFaults) : Outline life config retry faults lifeJunctions where
  poll := by
    intro vars m running requested _
    refine ⟨trivial, ?_⟩
    cases requested with
    | true => exact ⟨running.requested, rfl⟩
    | false => exact running
  bind := by
    intro vars m running result _
    refine ⟨trivial, ?_⟩
    cases result <;> exact running
  announce := fun running => running_sets running (Or.inr rfl)
  locate := by
    intro vars m running result _
    refine ⟨trivial, ?_⟩
    cases result <;> exact running
  lose := fun running _ _ => ⟨trivial, running⟩
  exhaust := fun running _ _ _ => running
  again := fun running _ _ _ => running_sets running (Or.inl rfl)
  wait := by
    intro vars m running arm _
    refine ⟨trivial, ?_⟩
    cases arm with
    | shutdown => exact ⟨running.requested, rfl⟩
    | elapsed => exact running
  fault := fun running _ _ _ => ⟨trivial, running⟩
  accept := by
    intro localAddr accepted vars m running arm _
    refine ⟨trivial, ?_⟩
    rcases arm with _ | task | error | peerAddr
    · exact ⟨Running.requested running, rfl⟩
    · exact running
    · exact Junctions.afterAccept_error running running
    · exact running
  acquire := by
    intro vars m running localAddr accepted acquired _
    refine ⟨trivial, ?_⟩
    cases acquired <;> exact running
  identify := fun running _ _ => ⟨trivial, running⟩
  subscribe := fun running _ _ => ⟨trivial, running⟩
  spawn := fun running _ _ _ _ _ => ⟨trivial, running⟩
  close := fun leaving _ _ => ⟨trivial, leaving⟩
  leave := fun ⟨running, requested⟩ => leaving_sets running requested
  store := by
    intro error vars m running _ _
    have stored : m.terminal.or (some error) = some error := by rw [running.clear]; rfl
    exact ⟨running, running.mixed, error, stored⟩
  tell := by
    rintro vars m ⟨mixed, error, stored⟩ _ _
    refine ⟨⟨mixed, ?_⟩, ⟨m.published, mixed, rfl⟩, error, stored⟩
    rw [stored]
    rfl
  abort := fun failed _ _ => ⟨trivial, failed⟩
  drain := by
    intro vars m leaving arm _
    refine ⟨trivial, ?_⟩
    cases arm <;> exact leaving
  giveUp := fun leaving _ _ => ⟨trivial, leaving⟩
  join := by
    intro thenStop vars m standing task _
    refine ⟨trivial, ?_⟩
    cases task with
    | some task => exact standing
    | none =>
      cases thenStop with
      | true => exact standing
      | false => exact Or.inr standing
  stop := fun leaving => life.ensures_mono (fun _ _ _ => Or.inl) (stopped_sets leaving)

section Waiting
variable {Command : Type}

/-- The answers of a call that is kept waiting: the status channel stays open. -/
def Open (_ : List (HandleEvent Command)) (e : HandleEvent Command) : Prop :=
  ∀ timeout, e ≠ ⟨.changed timeout, .closed⟩

def Observed (status : ManagedWsServerStatus) (t : List (HandleEvent Command)) : Prop :=
  (⟨.borrowAndUpdate, status⟩ : HandleEvent Command) ∈ t

/-- What `wait_for_status` reports is what it has observed. -/
def Reports (expected : ManagedWsServerStatus) (t : List (HandleEvent Command)) :
    HandleResult → Prop
  | .waited (.ok ()) => Observed expected t
  | .waited (.error (.settled other last)) =>
      other = expected ∧ last ≠ expected ∧ last.isFinal = true ∧ Observed last t
  | _ => True

def waiting (Command : Type) : Monitor (handleSignature Command) (List (HandleEvent Command)) :=
  history Open fun _ _ => True

def Waits (expected : ManagedWsServerStatus) (call : HandleCall Command)
    (_ : List (HandleEvent Command)) : Prop :=
  ∃ timeout, call = .waitForStatus expected timeout

theorem wp_access {post : α → List (HandleEvent Command) → Prop} {t : List (HandleEvent Command)}
    (op : HandleOp Command) {next : op.Res → HandleStep Command α}
    (rest : ∀ answer, Open t ⟨op, answer⟩ →
      (waiting Command).wp post (next answer) (t ++ [⟨op, answer⟩])) :
    (waiting Command).wp post (access op >>= next) t :=
  fun answer stays => ⟨trivial, rest answer stays⟩

theorem waitTurn_reports (expected : ManagedWsServerStatus) (timeout : WsTypes.Duration)
    (t : List (HandleEvent Command)) :
    (waiting Command).wp (fun result t' => ∀ found, result = some found →
      Reports expected t' (.waited found)) (waitTurn expected timeout) t := by
  apply wp_access .borrowAndUpdate
  intro (current : ManagedWsServerStatus) _
  have observed : Observed current (t ++ [(⟨.borrowAndUpdate, current⟩ : HandleEvent Command)]) :=
    List.mem_append_right t List.mem_cons_self
  by_cases reached : current = expected
  · rw [if_pos reached]
    rintro _ ⟨⟩
    exact reached ▸ observed
  · rw [if_neg reached]
    by_cases final : current.isFinal = true
    · rw [if_pos final]
      rintro _ ⟨⟩
      exact ⟨rfl, reached, final, observed⟩
    · rw [if_neg final]
      apply wp_access (.changed timeout)
      intro arm stays
      cases arm with
      | changed => exact nofun
      | closed => exact absurd rfl (stays timeout)
      | elapsed =>
        apply wp_access .statusSnapshot
        rintro last _ _ ⟨⟩
        trivial

theorem waiting_turns (expected : ManagedWsServerStatus) (call : HandleCall Command)
    (t : List (HandleEvent Command)) (waits : Waits expected call t) :
    (waiting Command).wp (Owes (Waits expected) fun result t => Reports expected t result)
      (runCall call) t := by
  obtain ⟨timeout, rfl⟩ := waits
  apply (wp_bind _).mpr
  apply wp_mono _ _ (waitTurn_reports expected timeout t)
  intro result t' reports
  cases result with
  | none => exact ⟨timeout, rfl⟩
  | some found => exact reports found rfl

theorem waited_reports {expected : ManagedWsServerStatus} {timeout : WsTypes.Duration}
    {t : List (HandleEvent Command)} {result : HandleResult}
    (run : Reaches runCall (.ret (.inl (.waitForStatus expected timeout))) t
      (.ret (.inr result)))
    (stays : ∀ e ∈ t, ∀ timeout, e ≠ ⟨.changed timeout, .closed⟩) : Reports expected t result := by
  have relied : (waiting Command).Along (waiting Command).rely [] t := by
    apply (history_along _ _).mpr
    rintro before e after rfl
    exact stays e (List.mem_append_right before List.mem_cons_self)
  obtain ⟨_, owed⟩ := reaches_wp _ (waiting_turns expected) run
    (⟨timeout, rfl⟩ : Waits expected (.waitForStatus expected timeout) []) relied
  rw [waiting, history_run] at owed
  exact owed

end Waiting

section System
variable {Command : Type} {config : WsServerConfig} {retry : WsServerRetryPolicy}
variable {faults : ServerFaults} {s s' : System Command}

def lifeOf (t : List ServerEvent) : Life := life.run unborn t

theorem lifeOf_snoc (t : List ServerEvent) (e : ServerEvent) :
    lifeOf (t ++ [e]) = (lifeOf t).after e := by
  rw [lifeOf, run_append]
  rfl

/-- Where a lifecycle can be. Between the two writes of `set_terminal` the cell
is full and the status not yet published. -/
def OnPath (m : Life) : Prop := Mixed m.published ∨ Leaving m ∨ Stopped m ∨ Failed m

/-- What the shared state says of the lifecycle is what the server task did. -/
structure Agrees (m : Life) (shared : Shared Command) : Prop where
  statuses : shared.statuses = .starting :: m.published
  terminal : shared.terminal = m.terminal
  shutdown : m.requested = true → shared.shutdown = true

theorem agrees_serves {m : Life} {e : ServerEvent} (agrees : Agrees m s.shared)
    (serves : Serves s e s') : Agrees (m.after e) s'.shared ∧ Faithful m e := by
  obtain ⟨statuses, terminal, shutdown⟩ := agrees
  cases serves with
  | readTerminal => exact ⟨⟨statuses, terminal, shutdown⟩, terminal⟩
  | publish _ status =>
    refine ⟨⟨?_, terminal, shutdown⟩, trivial⟩
    exact congrArg (· ++ [status]) statuses
  | storeTerminal _ error =>
    refine ⟨⟨statuses, ?_, shutdown⟩, trivial⟩
    exact congrArg (Option.or · (some error)) terminal
  | readShutdown vars =>
    cases flag : s.shared.shutdown with
    | true => exact ⟨⟨statuses, terminal, fun _ => flag⟩, trivial⟩
    | false => exact ⟨⟨statuses, terminal, shutdown⟩, trivial⟩
  | acceptShutdown _ requested => exact ⟨⟨statuses, terminal, fun _ => requested⟩, trivial⟩
  | backoffShutdown _ _ requested => exact ⟨⟨statuses, terminal, fun _ => requested⟩, trivial⟩
  | _ => exact ⟨⟨statuses, terminal, shutdown⟩, trivial⟩

theorem OnPath.requested {m : Life} (onPath : OnPath m) : OnPath { m with requested := true } := by
  rcases onPath with mixed | leaving | stopped | failed
  · exact Or.inl mixed
  · exact Or.inr (Or.inl ⟨leaving.path, leaving.clear, rfl⟩)
  · exact Or.inr (Or.inr (Or.inl ⟨stopped.path, stopped.clear, rfl⟩))
  · exact Or.inr (Or.inr (Or.inr ⟨failed.path, failed.cause⟩))

theorem onPath_publish {m : Life} {status : ManagedWsServerStatus}
    (permitted : Permitted m (.publish status)) :
    OnPath { m with published := m.published ++ [status] } := by
  cases status with
  | starting => exact permitted.elim
  | retrying => exact Or.inl (mixed_snoc permitted.mixed (Or.inl rfl))
  | listening => exact Or.inl (mixed_snoc permitted.mixed (Or.inr rfl))
  | shuttingDown =>
    obtain ⟨running, requested⟩ := permitted
    exact Or.inr (Or.inl ⟨⟨m.published, running.mixed, rfl⟩, running.clear, requested⟩)
  | stopped =>
    obtain ⟨⟨mix, mixed, path⟩, clear, requested⟩ := permitted
    refine Or.inr (Or.inr (Or.inl ⟨⟨mix, mixed, ?_⟩, clear, requested⟩))
    rw [path, List.append_assoc]
    rfl
  | terminal =>
    obtain ⟨mixed, full⟩ := permitted
    exact Or.inr (Or.inr (Or.inr ⟨⟨m.published, mixed, rfl⟩, Option.isSome_iff_exists.mp full⟩))

theorem onPath_after {m : Life} {e : ServerEvent} (onPath : OnPath m)
    (permitted : Permitted m e.op.2) : OnPath (m.after e) := by
  unfold Life.after
  split
  · exact onPath_publish permitted
  · have running : Running m := permitted
    exact Or.inl running.mixed
  · exact onPath.requested
  · exact onPath.requested
  · exact onPath.requested
  · exact onPath

/-- The invariant: the task keeps the lifecycle from here on, and the shared
state shows the one it has led. -/
structure Lives (s : System Command) : Prop where
  owed : life.wp (Owes (fun c m => Standing c.1 c.2 m) fun _ m => Ended m) s.task (lifeOf s.trace)
  agrees : Agrees (lifeOf s.trace) s.shared
  onPath : OnPath (lifeOf s.trace)

theorem lives_start : Lives (start config retry : System Command) where
  owed := (⟨fun _ listed => absurd listed (List.not_mem_nil), rfl⟩ : Running unborn)
  agrees := ⟨rfl, rfl, nofun⟩
  onPath := Or.inl fun _ listed => absurd listed (List.not_mem_nil)

theorem lives_step (lives : Lives s) (step : Step config retry faults s s') : Lives s' := by
  obtain ⟨owed, agrees, onPath⟩ := lives
  cases step with
  | server fires serves =>
    obtain ⟨agrees', faithful⟩ := agrees_serves agrees serves
    obtain ⟨permitted, owed'⟩ := (life_outline config retry faults).fires fires owed faithful
    constructor
    · rw [lifeOf_snoc]
      exact owed'
    · rw [lifeOf_snoc]
      exact agrees'
    · rw [lifeOf_snoc]
      exact onPath_after onPath permitted
  | connection => exact ⟨owed, agrees, onPath⟩
  | finish => exact ⟨owed, ⟨agrees.statuses, agrees.terminal, agrees.shutdown⟩, onPath⟩
  | cut => exact ⟨owed, ⟨agrees.statuses, agrees.terminal, agrees.shutdown⟩, onPath⟩
  | call => exact ⟨owed, agrees, onPath⟩
  | requestShutdown => exact ⟨owed, ⟨agrees.statuses, agrees.terminal, fun _ => rfl⟩, onPath⟩
  | caller _ _ grants =>
    cases grants with
    | send => exact ⟨owed, ⟨agrees.statuses, agrees.terminal, agrees.shutdown⟩, onPath⟩
    | _ => exact ⟨owed, agrees, onPath⟩

theorem lives_reachable (reached : Reachable config retry faults s) : Lives s :=
  reached.invariant Lives lives_start fun _ _ => lives_step

theorem ended_of_final_mem (lives : Lives s) {status : ManagedWsServerStatus}
    (listed : status ∈ s.shared.statuses) (final : status.isFinal = true) :
    Ended (lifeOf s.trace) := by
  rw [lives.agrees.statuses] at listed
  rcases List.mem_cons.mp listed with rfl | late
  · cases final
  rcases lives.onPath with mixed | leaving | stopped | failed
  · rcases mixed status late with rfl | rfl
    · cases final
    · cases final
  · obtain ⟨mix, mixed, path⟩ := leaving.path
    rw [path] at late
    rcases List.mem_append.mp late with early | last
    · rcases mixed status early with rfl | rfl
      · cases final
      · cases final
    · rw [List.mem_singleton.mp last] at final
      cases final
  · exact Or.inl stopped
  · exact Or.inr failed

theorem status_of_snoc {shared : Shared Command} (early : List ManagedWsServerStatus)
    {status : ManagedWsServerStatus} (statuses : shared.statuses = early ++ [status]) :
    shared.status = status := by
  rw [Shared.status, statuses]
  simp

theorem status_mem (lives : Lives s) : s.shared.status ∈ s.shared.statuses := by
  rw [Shared.status, lives.agrees.statuses, List.getLastD_cons]
  exact List.getLastD_mem_cons

/-- After a final status there is nothing to publish. -/
theorem not_permitted_of_ended {m : Life} (ended : Ended m) (status : ManagedWsServerStatus) :
    ¬ Permitted m (.publish status) := by
  have unmixed : ¬ Mixed m.published := by
    intro mixed
    rcases ended with ⟨⟨mix, _, path⟩, _, _⟩ | ⟨⟨mix, _, path⟩, _⟩
    · rcases mixed .stopped (by simp [path]) with wrong | wrong <;> cases wrong
    · rcases mixed .terminal (by simp [path]) with wrong | wrong <;> cases wrong
  intro permitted
  cases status with
  | starting => exact permitted
  | retrying => exact unmixed permitted.mixed
  | listening => exact unmixed permitted.mixed
  | shuttingDown => exact unmixed permitted.1.mixed
  | terminal => exact unmixed permitted.1
  | stopped =>
    obtain ⟨⟨mix, mixed, path⟩, clear, _⟩ := permitted
    rcases ended with ⟨⟨other, _, longer⟩, _, _⟩ | ⟨_, error, full⟩
    · have same : (other ++ [.shuttingDown]) ++ [.stopped] = mix ++ [.shuttingDown] := by
        rw [← path, longer, List.append_assoc]
        rfl
      cases (List.append_inj' same rfl).2
    · rw [clear] at full
      cases full

/-- A step of the server task publishes at most one status and never empties the
cell. -/
theorem serves_lifecycle {e : ServerEvent} (serves : Serves s e s') :
    s'.callers = s.callers ∧ s.shared.statuses <+: s'.shared.statuses ∧
      (∀ error, s.shared.terminal = some error → s'.shared.terminal = some error) ∧
      (s'.shared.statuses = s.shared.statuses ∨ ∃ status, e.op.2 = .publish status) := by
  cases serves with
  | publish _ status =>
    exact ⟨rfl, List.prefix_append _ _, fun _ same => same, Or.inr ⟨status, rfl⟩⟩
  | storeTerminal _ error =>
    refine ⟨rfl, List.prefix_refl _, fun first same => ?_, Or.inl rfl⟩
    have kept : s.shared.terminal.or (some error) = some first := by rw [same]; rfl
    exact kept
  | _ => exact ⟨rfl, List.prefix_refl _, fun _ same => same, Or.inl rfl⟩

theorem grants_lifecycle {seen seen' : Nat} {e : HandleEvent Command}
    (grants : Grants s seen e seen' s') :
    s'.shared.statuses = s.shared.statuses ∧ s'.shared.terminal = s.shared.terminal := by
  cases grants <;> exact ⟨rfl, rfl⟩

theorem step_statuses (step : Step config retry faults s s') :
    s.shared.statuses <+: s'.shared.statuses := by
  cases step with
  | server _ serves => exact (serves_lifecycle serves).2.1
  | caller _ _ grants => exact ⟨[], by simp [(grants_lifecycle grants).1]⟩
  | _ => exact List.prefix_refl _

theorem step_terminal {error : ManagedWsServerTerminalError} (step : Step config retry faults s s')
    (full : s.shared.terminal = some error) : s'.shared.terminal = some error := by
  cases step with
  | server _ serves => exact (serves_lifecycle serves).2.2.1 error full
  | caller _ _ grants => exact (grants_lifecycle grants).2.trans full
  | _ => exact full

theorem step_final (lives : Lives s) (step : Step config retry faults s s')
    (ended : Ended (lifeOf s.trace)) : s'.shared.statuses = s.shared.statuses := by
  cases step with
  | server fires serves =>
    rcases (serves_lifecycle serves).2.2.2 with same | ⟨status, publishes⟩
    · exact same
    · obtain ⟨_, faithful⟩ := agrees_serves lives.agrees serves
      obtain ⟨permitted, _⟩ := (life_outline config retry faults).fires fires lives.owed faithful
      have published : Permitted (lifeOf s.trace) (.publish status) := publishes ▸ permitted
      exact absurd published (not_permitted_of_ended ended status)
  | caller _ _ grants => exact (grants_lifecycle grants).1
  | _ => rfl

/-- A final status is the last one. -/
theorem run_final (lives : Lives s) {status : ManagedWsServerStatus}
    (listed : status ∈ s.shared.statuses) (final : status.isFinal = true)
    (run : Relation.ReflTransGen (Step config retry faults) s s') :
    s'.shared.statuses = s.shared.statuses ∧ Lives s' := by
  induction run with
  | refl => exact ⟨rfl, lives⟩
  | tail _ last ih =>
    obtain ⟨same, lives'⟩ := ih
    have ended := ended_of_final_mem lives' (same ▸ listed) final
    exact ⟨(step_final lives' last ended).trans same, lives_step lives' last⟩

theorem run_terminal {error : ManagedWsServerTerminalError}
    (run : Relation.ReflTransGen (Step config retry faults) s s')
    (full : s.shared.terminal = some error) : s'.shared.terminal = some error := by
  induction run with
  | refl => exact full
  | tail _ last ih => exact step_terminal last ih

/-- What a caller has observed was published. -/
structure Informed (shared : Shared Command) (caller : Caller Command) : Prop where
  run : Reaches runCall (.ret (.inl caller.call)) caller.trace caller.task
  stays : ∀ e ∈ caller.trace, ∀ timeout, e ≠ ⟨.changed timeout, .closed⟩
  observed : ∀ status, Observed status caller.trace → status ∈ shared.statuses

theorem Informed.grow {shared shared' : Shared Command} {caller : Caller Command}
    (informed : Informed shared caller) (grown : shared.statuses <+: shared'.statuses) :
    Informed shared' caller :=
  ⟨informed.run, informed.stays, fun status seen => grown.subset (informed.observed status seen)⟩

theorem Informed.access (lives : Lives s) {caller : Caller Command} {e : HandleEvent Command}
    {task : HandleStep Command (HandleCall Command ⊕ HandleResult)} {seen : Nat}
    (informed : Informed s.shared caller) (fires : Fires runCall caller.task e task)
    (grants : Grants s caller.seen e seen s') : Informed s.shared (caller.advance e task seen) := by
  refine ⟨informed.run.snoc fires, ?_, ?_⟩
  · intro d listed
    rcases List.mem_append.mp listed with early | late
    · exact informed.stays d early
    · rw [List.mem_singleton.mp late]
      intro timeout same
      cases grants <;> cases same
  · intro status seen
    rcases List.mem_append.mp seen with early | late
    · exact informed.observed status early
    · have same := List.mem_singleton.mp late
      subst same
      cases grants
      exact status_mem lives

/-- What holds of a fresh call, survives every change of the shared state and
every access of its own, holds of every call. -/
theorem callers_step {inv : Shared Command → Caller Command → Prop}
    (fresh : ∀ call seen, inv s'.shared ⟨call, seen, .ret (.inl call), []⟩)
    (grow : ∀ caller, inv s.shared caller → inv s'.shared caller)
    (access : ∀ caller e task seen s'', inv s.shared caller → Fires runCall caller.task e task →
      Grants s caller.seen e seen s'' → inv s.shared (caller.advance e task seen))
    (step : Step config retry faults s s') (holds : ∀ caller ∈ s.callers, inv s.shared caller) :
    ∀ caller ∈ s'.callers, inv s'.shared caller := by
  intro caller listed
  cases step with
  | server _ serves =>
    rw [(serves_lifecycle serves).1] at listed
    exact grow caller (holds caller listed)
  | call call =>
    rcases List.mem_append.mp listed with early | late
    · exact holds caller early
    · rw [List.mem_singleton.mp late]
      exact fresh call _
  | @caller _ k asking _ _ _ here fires grants =>
    rcases List.mem_or_eq_of_mem_set listed with early | rfl
    · exact grow caller (holds caller early)
    · exact grow _ (access asking _ _ _ _ (holds asking (List.mem_of_getElem? here)) fires grants)
  | _ => exact grow caller (holds caller listed)

theorem informed_step (lives : Lives s) (step : Step config retry faults s s')
    (informed : ∀ caller ∈ s.callers, Informed s.shared caller) :
    ∀ caller ∈ s'.callers, Informed s'.shared caller := by
  refine callers_step ?_ ?_ ?_ step informed
  · intro call seen
    exact ⟨.here _, fun _ wrong => absurd wrong List.not_mem_nil,
      fun _ wrong => absurd wrong List.not_mem_nil⟩
  · intro caller known
    exact known.grow (step_statuses step)
  · intro caller e task seen s'' known fires grants
    exact known.access lives fires grants

/-- The statuses of one run, from `Starting` on. -/
def StatusPath (statuses : List ManagedWsServerStatus) : Prop :=
  ∃ mix, Mixed mix ∧
    (statuses = .starting :: mix ∨ statuses = .starting :: mix ++ [.shuttingDown] ∨
      statuses = .starting :: mix ++ [.shuttingDown, .stopped] ∨
      statuses = .starting :: mix ++ [.terminal])

def Returned (task : ServerProg) : Prop := ∃ vars, task = .ret (.inr ((), vars))

/-- The lifecycle of a server in state `s`. -/
structure LifecycleKept (config : WsServerConfig) (retry : WsServerRetryPolicy)
    (faults : ServerFaults) (s : System Command) : Prop where
  path : StatusPath s.shared.statuses
  returned : Returned s.task →
    s.shared.status = .stopped ∧ s.shared.terminal = none ∧ s.shared.shutdown = true ∨
      s.shared.status = .terminal ∧ ∃ error, s.shared.terminal = some error ∧
        ∀ s', Relation.ReflTransGen (Step config retry faults) s s' →
          s'.shared.terminal = some error
  final : s.shared.status.isFinal = true →
    ∀ s', Relation.ReflTransGen (Step config retry faults) s s' →
      s'.shared.statuses = s.shared.statuses
  reached : ∀ caller ∈ s.callers, ∀ expected timeout,
    caller.call = .waitForStatus expected timeout →
      caller.task = .ret (.inr (.waited (.ok ()))) → expected ∈ s.shared.statuses
  settled : ∀ caller ∈ s.callers, ∀ expected timeout other last,
    caller.call = .waitForStatus expected timeout →
      caller.task = .ret (.inr (.waited (.error (.settled other last)))) →
        other = expected ∧ ∀ s', Relation.ReflTransGen (Step config retry faults) s s' →
          expected ∉ s'.shared.statuses.drop s.shared.statuses.length

theorem statusPath_of_lives (lives : Lives s) : StatusPath s.shared.statuses := by
  rw [lives.agrees.statuses]
  rcases lives.onPath with mixed | ⟨⟨mix, mixed, path⟩, _, _⟩ | ⟨⟨mix, mixed, path⟩, _, _⟩ |
    ⟨⟨mix, mixed, path⟩, _⟩
  · exact ⟨_, mixed, Or.inl rfl⟩
  · exact ⟨mix, mixed, Or.inr (Or.inl (path ▸ rfl))⟩
  · exact ⟨mix, mixed, Or.inr (Or.inr (Or.inl (path ▸ rfl)))⟩
  · exact ⟨mix, mixed, Or.inr (Or.inr (Or.inr (path ▸ rfl)))⟩

theorem ended_of_returned (lives : Lives s) (returned : Returned s.task) :
    s.shared.status = .stopped ∧ s.shared.terminal = none ∧ s.shared.shutdown = true ∨
      s.shared.status = .terminal ∧ ∃ error, s.shared.terminal = some error := by
  obtain ⟨vars, returned⟩ := returned
  have owed := lives.owed
  rw [returned] at owed
  have statuses := lives.agrees.statuses
  rcases owed with ⟨⟨mix, _, path⟩, clear, requested⟩ | ⟨⟨mix, _, path⟩, error, full⟩
  · left
    refine ⟨?_, lives.agrees.terminal.trans clear, lives.agrees.shutdown requested⟩
    apply status_of_snoc (.starting :: mix ++ [.shuttingDown])
    rw [statuses, path]
    simp
  · right
    refine ⟨?_, error, lives.agrees.terminal.trans full⟩
    apply status_of_snoc (.starting :: mix)
    rw [statuses, path]
    rfl

theorem informed_reachable (reached : Reachable config retry faults s) :
    ∀ caller ∈ s.callers, Informed s.shared caller := by
  have both : Lives s ∧ ∀ caller ∈ s.callers, Informed s.shared caller := by
    refine reached.invariant (fun s => Lives s ∧ ∀ caller ∈ s.callers, Informed s.shared caller)
      ⟨lives_start, fun _ wrong => absurd wrong List.not_mem_nil⟩ ?_
    rintro s s' ⟨lives, informed⟩ step
    exact ⟨lives_step lives step, informed_step lives step informed⟩
  exact both.2

/-- For every run of a server, its connections and its handles. -/
theorem lifecycle_settles (reached : Reachable config retry faults s) :
    LifecycleKept config retry faults s := by
  have lives := lives_reachable reached
  have informed := informed_reachable reached
  constructor
  · exact statusPath_of_lives lives
  · intro returned
    rcases ended_of_returned lives returned with stopped | ⟨terminal, error, full⟩
    · exact Or.inl stopped
    · exact Or.inr ⟨terminal, error, full, fun _ run => run_terminal run full⟩
  · intro final s' run
    exact (run_final lives (status_mem lives) final run).1
  · intro caller listed expected timeout called result
    obtain ⟨run, stays, observed⟩ := informed caller listed
    rw [called, result] at run
    exact observed expected (waited_reports run stays)
  · intro caller listed expected timeout other last called result
    obtain ⟨run, stays, observed⟩ := informed caller listed
    rw [called, result] at run
    obtain ⟨same, _, final, seen⟩ := waited_reports run stays
    refine ⟨same, fun s' run' => ?_⟩
    rw [(run_final lives (observed last seen) final run').1, List.drop_length]
    exact List.not_mem_nil

end System

/-- A server that is asked to stop at once, and a caller that waits for it to
listen. -/
theorem early_shutdown_settles :
    ∃ s : System Nat, Reachable (.new (.v4 0 80)) .default ⟨none⟩ s ∧ Returned s.task ∧
      s.shared.statuses = [.starting, .shuttingDown, .stopped] ∧
      (∃ caller ∈ s.callers, caller.call = .waitForStatus .listening 5 ∧
        caller.task = .ret (.inr (.waited (.error (.settled .listening .stopped))))) ∧
      LifecycleKept (.new (.v4 0 80)) .default ⟨none⟩ s := by
  have run : ∃ s, Relation.ReflTransGen (Step (.new (.v4 0 80)) .default ⟨none⟩)
      (start (.new (.v4 0 80)) .default : System Nat) s ∧ Returned s.task ∧
      s.shared.statuses = [.starting, .shuttingDown, .stopped] ∧
      ∃ caller ∈ s.callers, caller.call = .waitForStatus .listening 5 ∧
        caller.task = .ret (.inr (.waited (.error (.settled .listening .stopped)))) := by
    refine ⟨_, .head (.requestShutdown _) <| .head (.call _ (.waitForStatus .listening 5)) <|
      .head (.server (.head (.call _ _ _)) (.readShutdown _)) <|
      .head (.server (.call _ _ _) (.readTerminal _)) <|
      .head (.server (.call _ _ _) (.publish _ _)) <|
      .head (.server (.head (.call _ _ _)) (.drainEmpty _ _ fun _ => nofun)) <|
      .head (.server (.call _ _ _) (.readTerminal _)) <|
      .head (.server (.call _ _ _) (.publish _ _)) <|
      .head (.caller (k := 0) rfl (.head (.call _ _ _)) .borrowAndUpdate) .refl, ⟨_, rfl⟩, rfl, ?_⟩
    exact ⟨_, .head [], rfl, rfl⟩
  obtain ⟨s, run, returned, statuses, waited⟩ := run
  have reached : Reachable (.new (.v4 0 80)) .default ⟨none⟩ s := ⟨_, rfl, run⟩
  exact ⟨s, reached, returned, statuses, waited, lifecycle_settles reached⟩

end ServerLifecycle
