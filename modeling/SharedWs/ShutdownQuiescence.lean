import SharedWs.CommandFanout
import SharedWs.ServerLifecycle

/-!
# How a server falls silent

The server task gives up its listener before it publishes an end status, and on
the way out it neither binds nor admits; `Stopped` comes after the last
connection task has been joined. A connection that is not aborted finds the
shutdown flag at its next `select!`, so its handler hears at most the event that
is already on its way, and then why it is closed.
-/
namespace ShutdownQuiescence

open InteractionPrograms InteractionMonitors InteractionMonitors.Monitor InteractionProgress
open ConnectionTask ConnectionProtocol ConnectionBudget ServerOutline ServerSystem ServerTask
open ServerTypes

/-- Whether the server task holds a listener, has entered its exit path, and has
seen that no connection task is left. -/
structure WindDown where
  listener : Bool
  ending : Bool
  cleared : Bool
  deriving DecidableEq

def WindDown.after (m : WindDown) : ServerEvent → WindDown
  | ⟨(_, .bindListener _ _), .ok ()⟩ => { m with listener := true }
  | ⟨(_, .dropListener), _⟩ => { m with listener := false }
  | ⟨(_, .publish .shuttingDown), _⟩ => { m with ending := true }
  | ⟨(_, .publish .stopped), _⟩ => { m with ending := true }
  | ⟨(_, .publish .terminal), _⟩ => { m with ending := true }
  | ⟨(_, .drainNext _), .empty⟩ => { m with ending := true, cleared := true }
  | ⟨(_, .drainNext _), _⟩ => { m with ending := true }
  | ⟨(_, .joinNext), none⟩ => { m with ending := true, cleared := true }
  | ⟨(_, .joinNext), some _⟩ => { m with ending := true }
  | _ => m

/-- What the server task may do next. -/
def Permitted (m : WindDown) : ServerOp → Prop
  | .bindListener _ _ => m.ending = false
  | .tryAcquire _ | .nextConnectionId | .subscribe | .spawn _ _ => m.ending = false
  | .publish .shuttingDown | .publish .terminal => m.listener = false
  | .publish .stopped => m.listener = false ∧ m.cleared = true
  | .drainNext _ | .joinNext => m.listener = false
  | _ => True

def windDown : Monitor (serverSignature.showing ServerVars) WindDown where
  step := WindDown.after
  rely := fun _ _ => True
  safe := fun m e => Permitted m e.op.2

/-- Where the task stands at the top of a loop. -/
def Standing : ServerHead → ServerVars → WindDown → Prop
  | .lifecycle, _, m => m.listener = false ∧ m.ending = false
  | .accepting _ _, _, m => m.ending = false
  | .draining, _, m | .aborting _, _, m => m.listener = false

section Turns
variable {vars : ServerVars} {m : WindDown}

/-- `set_status` publishes, or leaves everything as it is. -/
theorem sets (status : ManagedWsServerStatus) (permitted : Permitted m (.publish status)) :
    windDown.ensures (fun _ _ m' => m' = m.after ⟨(vars, .publish status), ()⟩ ∨ m' = m)
      (setStatus status) vars m := by
  have read : windDown.ensures (fun _ vars' m' => vars' = vars ∧ m' = m) (ask .readTerminal)
      vars m := fun _ _ => ⟨trivial, rfl, rfl⟩
  refine windDown.ensures_seq read ?_
  rintro stored _ _ ⟨rfl, rfl⟩
  apply windDown.ensures_ite
  · exact fun _ => Or.inr rfl
  · exact fun _ _ _ => ⟨permitted, Or.inl rfl⟩

/-- `Listening` and `Retrying` do not touch the wind-down. -/
theorem plain_sets {status : ManagedWsServerStatus}
    (plain : status = .listening ∨ status = .retrying) :
    windDown.ensures (fun _ _ m' => m' = m) (setStatus status) vars m := by
  have permitted : Permitted m (.publish status) := by
    rcases plain with rfl | rfl <;> trivial
  refine windDown.ensures_mono ?_ (sets status permitted)
  rintro _ _ _ (rfl | rfl)
  · rcases plain with rfl | rfl <;> rfl
  · rfl

/-- Where the listener is and whether the exit has begun. -/
def windDownJunctions : Junctions WindDown where
  standing := Standing
  binding := fun _ m => m.listener = false ∧ m.ending = false
  bound := fun _ m => m.ending = false
  listening := fun _ m => m.ending = false
  losing := fun _ _ m => m.ending = false
  failed := fun _ _ m => m.listener = false ∧ m.ending = false
  retrying := fun _ m => m.listener = false ∧ m.ending = false
  closing := fun _ m => m.ending = false
  leaving := fun _ m => m.listener = false
  doomed := fun _ _ m => m.listener = false
  stored := fun _ m => m.listener = false
  terminal := fun _ m => m.listener = false
  incoming := fun _ m => m.ending = false
  acquired := fun _ m => m.ending = false
  identified := fun _ _ m => m.ending = false
  subscribed := fun _ _ _ m => m.ending = false
  overdue := fun _ m => m.listener = false
  emptied := fun _ m => m.listener = false ∧ m.cleared = true
  done := fun _ _ => True

theorem windDown_outline (config : WsServerConfig) (retry : WsServerRetryPolicy)
    (faults : ServerFaults) : Outline windDown config retry faults windDownJunctions where
  poll := by
    intro vars m standing requested _
    refine ⟨trivial, ?_⟩
    cases requested with
    | true => exact standing.1
    | false => exact standing
  bind := by
    intro vars m binding result _
    refine ⟨binding.2, ?_⟩
    cases result with
    | ok => exact binding.2
    | error error => exact binding
  announce := by
    intro vars m early
    refine windDown.ensures_mono ?_ (plain_sets (Or.inl rfl))
    rintro _ _ _ rfl
    exact early
  locate := by
    intro vars m early result _
    refine ⟨trivial, ?_⟩
    cases result <;> exact early
  lose := fun early _ _ => ⟨trivial, rfl, early⟩
  exhaust := fun failed _ _ _ => failed.1
  again := by
    intro failure vars m failed _ _ _
    refine windDown.ensures_mono ?_ (plain_sets (Or.inr rfl))
    rintro _ _ _ rfl
    exact failed
  wait := by
    intro vars m retrying arm _
    refine ⟨trivial, ?_⟩
    cases arm with
    | shutdown => exact retrying.1
    | elapsed => exact retrying
  fault := fun _ _ _ _ => ⟨trivial, rfl⟩
  accept := by
    intro localAddr accepted vars m early arm _
    refine ⟨trivial, ?_⟩
    rcases arm with _ | task | error | peerAddr
    · exact early
    · exact early
    · exact Junctions.afterAccept_error early early
    · exact early
  acquire := by
    intro vars m early localAddr accepted acquired _
    refine ⟨early, ?_⟩
    cases acquired <;> exact early
  identify := fun early _ _ => ⟨early, early⟩
  subscribe := fun early _ _ => ⟨early, early⟩
  spawn := fun early _ _ _ _ _ => ⟨early, early⟩
  close := fun _ _ _ => ⟨trivial, rfl⟩
  leave := by
    intro vars m free
    refine windDown.ensures_mono ?_ (sets .shuttingDown free)
    rintro _ _ _ (rfl | rfl)
    · exact free
    · exact free
  store := fun free _ _ => ⟨trivial, free⟩
  tell := fun free _ _ => ⟨free, free⟩
  abort := fun free _ _ => ⟨trivial, free⟩
  drain := by
    intro vars m free arm _
    refine ⟨free, ?_⟩
    cases arm with
    | joined task => exact free
    | empty => exact ⟨free, rfl⟩
    | elapsed => exact free
  giveUp := fun free _ _ => ⟨trivial, free⟩
  join := by
    intro thenStop vars m free task _
    refine ⟨free, ?_⟩
    cases task with
    | some task => exact free
    | none =>
      cases thenStop with
      | true => exact ⟨free, rfl⟩
      | false => trivial
  stop := fun emptied => windDown.ensures_mono (fun _ _ _ _ => trivial) (sets .stopped emptied)

end Turns

section System
variable {Command : Type} {config : WsServerConfig} {retry : WsServerRetryPolicy}
variable {faults : ServerFaults} {s s' : System Command}

def windDownOf (t : List ServerEvent) : WindDown := t.foldl WindDown.after ⟨false, false, false⟩

theorem windDownOf_snoc (t : List ServerEvent) (e : ServerEvent) :
    windDownOf (t ++ [e]) = (windDownOf t).after e := List.foldl_append

/-- The server task holds a listener. -/
def HoldsListener (s : System Command) : Prop := (windDownOf s.trace).listener = true

def closing : ManagedWsServerStatus → Bool
  | .shuttingDown | .stopped | .terminal => true
  | _ => false

/-- On the exit path there is no listener, and only there the tasks are joined. -/
structure Ordered (m : WindDown) : Prop where
  free : m.ending = true → m.listener = false
  cleared : m.cleared = true → m.ending = true

theorem Ordered.after {m : WindDown} {e : ServerEvent} (ordered : Ordered m)
    (permitted : Permitted m e.op.2) : Ordered (m.after e) := by
  obtain ⟨free, cleared⟩ := ordered
  unfold WindDown.after
  split
  · have early : m.ending = false := permitted
    exact ⟨fun late => absurd late (by simp [early]), cleared⟩
  · exact ⟨fun _ => rfl, cleared⟩
  · exact ⟨fun _ => permitted, fun _ => rfl⟩
  · exact ⟨fun _ => permitted.1, fun _ => rfl⟩
  · exact ⟨fun _ => permitted, fun _ => rfl⟩
  · exact ⟨fun _ => permitted, fun _ => rfl⟩
  · exact ⟨fun _ => permitted, fun _ => rfl⟩
  · exact ⟨fun _ => permitted, fun _ => rfl⟩
  · exact ⟨fun _ => permitted, fun _ => rfl⟩
  · exact ⟨free, cleared⟩

/-- The exit path is never left. -/
theorem ending_after {m : WindDown} (e : ServerEvent) (late : m.ending = true) :
    (m.after e).ending = true := by
  unfold WindDown.after
  split <;> first | exact late | rfl

theorem cleared_after {m : WindDown} (e : ServerEvent) (cleared : m.cleared = true) :
    (m.after e).cleared = true := by
  unfold WindDown.after
  split <;> first | exact cleared | rfl

/-- Nobody joins a task that runs, and a task that returned is at its end. -/
structure Settled (c : Connection Command) : Prop where
  joined : c.joined = true → c.fate ≠ .running
  returned : c.fate = .returned → c.task = .ret (.inr ())

theorem Settled.moves {shared : Shared Command} {c c' : Connection Command}
    (moves : Moves config shared (some c) (some c')) (settled : Settled c) : Settled c' := by
  obtain ⟨joined, returned⟩ := settled
  cases moves with
  | stays => exact ⟨joined, returned⟩
  | advances live fires hears =>
    exact ⟨joined, fun ended => absurd (live.symm.trans ended) nofun⟩
  | returns live ended => exact ⟨fun _ => nofun, fun _ => ended⟩
  | cut live => exact ⟨fun _ => nofun, nofun⟩
  | reaped ripe =>
    refine ⟨fun _ => ?_, returned⟩
    rw [Connection.ripe, Bool.and_eq_true] at ripe
    exact bne_iff_ne.mp ripe.1

theorem settled_reachable (reached : Reachable config retry faults s) :
    ∀ c ∈ s.connections, Settled c := by
  refine reached.invariant (fun s => ∀ c ∈ s.connections, Settled c)
    (fun _ wrong => absurd wrong List.not_mem_nil) fun s s' settled step => ?_
  refine connections_step ?_ ?_ step settled
  · exact fun _ _ => ⟨nofun, nofun⟩
  · exact fun _ _ moves settled => settled.moves moves

/-- A step that admits nobody leaves joined what was joined. -/
theorem joined_step (step : Step config retry faults s s')
    (length : s'.connections.length = s.connections.length)
    (joined : ∀ c ∈ s.connections, c.joined = true) : ∀ c ∈ s'.connections, c.joined = true := by
  intro c' listed
  obtain ⟨k, there⟩ := List.getElem?_of_mem listed
  have moves := moves_step step k
  rw [there] at moves
  cases here : s.connections[k]? with
  | none =>
    obtain ⟨inside, _⟩ := List.getElem?_eq_some_iff.mp there
    have outside := List.getElem?_eq_none_iff.mp here
    omega
  | some c =>
    have before := joined c (List.mem_of_getElem? here)
    rw [here] at moves
    cases moves with
    | reaped ripe => rfl
    | _ => exact before

theorem serves_length {e : ServerEvent} (serves : Serves s e s') :
    (∃ ctx receiver, e.op.2 = .spawn ctx receiver) ∨
      s'.connections.length = s.connections.length := by
  cases serves with
  | spawn vars ctx receiver => exact Or.inl ⟨ctx, receiver, rfl⟩
  | acceptJoined => exact Or.inr List.length_set
  | drainJoined => exact Or.inr List.length_set
  | joined => exact Or.inr List.length_set
  | _ => exact Or.inr rfl

/-- The invariant: the server winds down in order from here on, and the shared
state shows how far it is. -/
structure Winds (s : System Command) : Prop where
  owed : windDown.wp (Owes (fun c m => Standing c.1 c.2 m) fun _ _ => True) s.task
    (windDownOf s.trace)
  ordered : Ordered (windDownOf s.trace)
  closing : ∀ status ∈ s.shared.statuses, closing status = true →
    (windDownOf s.trace).ending = true
  stopped : .stopped ∈ s.shared.statuses → (windDownOf s.trace).cleared = true
  idle : (windDownOf s.trace).ending = true → handOf s.trace = .idle
  joined : (windDownOf s.trace).cleared = true → ∀ c ∈ s.connections, c.joined = true

theorem winds_start : Winds (start config retry : System Command) where
  owed := ⟨rfl, rfl⟩
  ordered := ⟨nofun, nofun⟩
  closing := by
    intro status listed closes
    rw [List.mem_singleton.mp listed] at closes
    cases closes
  stopped := nofun
  idle := nofun
  joined := nofun

theorem permitted_winds (winds : Winds s) {e : ServerEvent} {task : ServerProg}
    (fires : Fires (Proc.turn (runServer config retry faults)) s.task e task) :
    Permitted (windDownOf s.trace) e.op.2 ∧
      windDown.wp (Owes (fun c m => Standing c.1 c.2 m) fun _ _ => True) task
        ((windDownOf s.trace).after e) :=
  (windDown_outline config retry faults).fires fires winds.owed trivial

/-- Nobody is admitted on the exit path. -/
theorem length_step (winds : Winds s) (late : (windDownOf s.trace).ending = true)
    (step : Step config retry faults s s') :
    s'.connections.length = s.connections.length := by
  cases step with
  | server fires serves =>
    rcases serves_length serves with ⟨ctx, receiver, spawns⟩ | same
    · have permitted := (permitted_winds winds fires).1
      rw [spawns] at permitted
      exact absurd (late.symm.trans permitted) nofun
    · exact same
  | connection => exact List.length_set
  | finish => exact List.length_set
  | cut => exact List.length_set
  | call => rfl
  | requestShutdown => rfl
  | caller here fires grants => cases grants <;> rfl

/-- A server step that the exit path begins with, or that lies on it, is no
part of an admission. -/
theorem idle_after {e : ServerEvent} (budget : Budget config s) (winds : Winds s)
    {task : ServerProg}
    (fires : Fires (Proc.turn (runServer config retry faults)) s.task e task)
    (late : ((windDownOf s.trace).after e).ending = true) :
    (handOf s.trace).after e = .idle := by
  have allowed := (permitted_fires budget fires).1
  have permitted := (permitted_winds winds fires).1
  have before : handOf s.trace = .idle ∧ ¬ Admits e.op.2 := by
    by_cases already : (windDownOf s.trace).ending = true
    · refine ⟨winds.idle already, fun admits => ?_⟩
      generalize e.op.2 = op at admits permitted
      cases op <;> first | exact admits | exact absurd (already.symm.trans permitted) nofun
    · unfold WindDown.after at late
      split at late <;> first | exact absurd late already | exact ⟨allowed, id⟩
  rcases e with ⟨⟨vars, op⟩, answer⟩
  rw [before.1]
  exact (@idle_outside config op vars answer before.2).2

theorem winds_serves {e : ServerEvent} (winds : Winds s) {task : ServerProg}
    (fires : Fires (Proc.turn (runServer config retry faults)) s.task e task)
    (serves : Serves s e s') :
    (∀ status ∈ s'.shared.statuses, closing status = true →
        ((windDownOf s.trace).after e).ending = true) ∧
      (.stopped ∈ s'.shared.statuses → ((windDownOf s.trace).after e).cleared = true) := by
  have known : ∀ status ∈ s.shared.statuses, closing status = true →
      ((windDownOf s.trace).after e).ending = true :=
    fun status listed closes => ending_after e (winds.closing status listed closes)
  have seen : .stopped ∈ s.shared.statuses → ((windDownOf s.trace).after e).cleared = true :=
    fun listed => cleared_after e (winds.stopped listed)
  have permitted := (permitted_winds winds fires).1
  cases serves with
  | publish vars status =>
    constructor
    · intro other listed closes
      rcases List.mem_append.mp listed with early | late
      · exact known other early closes
      · rw [List.mem_singleton.mp late] at closes
        cases status with
        | shuttingDown => rfl
        | stopped => rfl
        | terminal => rfl
        | _ => cases closes
    · intro listed
      rcases List.mem_append.mp listed with early | late
      · exact seen early
      · rw [← List.mem_singleton.mp late] at permitted
        rw [← List.mem_singleton.mp late]
        exact permitted.2
  | _ => exact ⟨known, seen⟩

/-- Steps of the others leave the exit path where it is. -/
theorem Winds.same (winds : Winds s) (task : s'.task = s.task) (trace : s'.trace = s.trace)
    (statuses : s'.shared.statuses = s.shared.statuses)
    (joined : (windDownOf s.trace).cleared = true → ∀ c ∈ s'.connections, c.joined = true) :
    Winds s' := by
  constructor
  · rw [task, trace]
    exact winds.owed
  · rw [trace]
    exact winds.ordered
  · rw [statuses, trace]
    exact winds.closing
  · rw [statuses, trace]
    exact winds.stopped
  · rw [trace]
    exact winds.idle
  · rw [trace]
    exact joined

/-- The server learns that no task is left only when all are joined. -/
theorem joined_serves {e : ServerEvent} {m : WindDown} (serves : Serves s e s')
    (unseen : m.cleared ≠ true) (cleared : (m.after e).cleared = true) :
    ∀ c ∈ s'.connections, c.joined = true := by
  cases serves with
  | drainEmpty vars timeout all => exact all
  | noneLeft vars all => exact all
  | publish vars status => cases status <;> exact absurd cleared unseen
  | bindListener vars addr backlog result =>
    rcases result with _ | ⟨⟨⟩⟩ <;> exact absurd cleared unseen
  | _ => exact absurd cleared unseen

theorem winds_step (budget : Budget config s) (winds : Winds s)
    (step : Step config retry faults s s') : Winds s' := by
  have length := fun late => length_step winds late step
  have joined : (windDownOf s.trace).cleared = true → ∀ c ∈ s'.connections, c.joined = true :=
    fun cleared => joined_step step (length (winds.ordered.cleared cleared)) (winds.joined cleared)
  cases step with
  | server fires serves =>
    obtain ⟨permitted, owed⟩ := permitted_winds winds fires
    obtain ⟨closing', stopped'⟩ := winds_serves winds fires serves
    constructor
    · rw [windDownOf_snoc]
      exact owed
    · rw [windDownOf_snoc]
      exact winds.ordered.after permitted
    · rw [windDownOf_snoc]
      exact closing'
    · rw [windDownOf_snoc]
      exact stopped'
    · rw [windDownOf_snoc, handOf_snoc]
      exact idle_after budget winds fires
    · rw [windDownOf_snoc]
      intro cleared
      by_cases already : (windDownOf s.trace).cleared = true
      · exact joined already
      · have all := joined_serves serves already cleared
        exact all
  | connection => exact winds.same rfl rfl rfl joined
  | finish => exact winds.same rfl rfl rfl joined
  | cut => exact winds.same rfl rfl rfl joined
  | call => exact winds.same rfl rfl rfl joined
  | requestShutdown => exact winds.same rfl rfl rfl joined
  | caller here fires grants => cases grants <;> exact winds.same rfl rfl rfl joined

theorem winds_reachable (reached : Reachable config retry faults s) : Winds s := by
  have both : Budget config s ∧ Winds s := by
    refine reached.invariant (fun s => Budget config s ∧ Winds s) ⟨budget_start, winds_start⟩ ?_
    rintro s s' ⟨budget, winds⟩ step
    exact ⟨budget_step budget step, winds_step budget winds step⟩
  exact both.2

theorem ending_step (late : (windDownOf s.trace).ending = true)
    (step : Step config retry faults s s') : (windDownOf s'.trace).ending = true := by
  cases step with
  | server fires serves =>
    rw [windDownOf_snoc]
    exact ending_after _ late
  | caller here fires grants => cases grants <;> exact late
  | _ => exact late

/-- The exit path is never left, and nobody is ever admitted again. -/
theorem run_ending (reached : Reachable config retry faults s)
    (late : (windDownOf s.trace).ending = true)
    (run : Relation.ReflTransGen (Step config retry faults) s s') :
    (windDownOf s'.trace).ending = true ∧ s'.connections.length = s.connections.length := by
  induction run with
  | refl => exact ⟨late, rfl⟩
  | tail before last ih =>
    obtain ⟨late', same⟩ := ih
    have winds := winds_reachable (reached.tail before)
    exact ⟨ending_step late' last, (length_step winds late' last).trans same⟩

/-- When everything is joined and nothing is in hand, no slot is left. -/
theorem active_zero (reached : Reachable config retry faults s)
    (cleared : (windDownOf s.trace).cleared = true) :
    (∀ c ∈ s.connections, c.fate ≠ .running) ∧ s.shared.active = 0 := by
  have winds := winds_reachable reached
  have counts := (budget_reachable reached).counts.active
  have ended : ∀ c ∈ s.connections, c.fate ≠ .running := fun c listed =>
    (settled_reachable reached c listed).joined (winds.joined cleared c listed)
  have none_running : running s.connections = 0 := by
    apply List.countP_eq_zero.mpr
    intro c listed live
    exact ended c listed (beq_iff_eq.mp live)
  rw [liveSlots, winds.idle (winds.ordered.cleared cleared), none_running] at counts
  exact ⟨ended, UInt64.toNat_inj.mp counts⟩

end System

section Connections
variable {Command : Type} {config : WsServerConfig} {ctx : WsServerConnectionContext} {m : Nat}

def isClosed : WsServerEndpointEvent Command → Bool
  | .closed _ => true
  | _ => false

/-- How many events other than `Closed` the handler may still hear before the
task chooses again. -/
def allowanceAfter (m : Nat) : ConnectionEvent Command → Nat
  | ⟨.select, .shutdown⟩ => 0
  | ⟨.select, _⟩ => 1
  | ⟨.onEvent (.closed _), _⟩ => m
  | ⟨.onEvent _, _⟩ => m - 1
  | _ => m

def Spares (m : Nat) : ConnectionOp Command → Prop
  | .onEvent (.closed _) => True
  | .onEvent _ => 0 < m
  | _ => True

def allowance (Command : Type) : Monitor (connectionSignature Command) Nat where
  step := allowanceAfter
  rely := fun _ _ => True
  safe := fun m e => Spares m e.op

/-- A call that chooses nothing and tells the handler of nothing but a close. -/
def Mute : ConnectionOp Command → Prop
  | .select => False
  | .onEvent (.closed _) => True
  | .onEvent _ => False
  | _ => True

theorem mute_ending : AllowsEnding fun op : ConnectionOp Command => Mute op where
  send := fun _ => trivial
  closed := fun _ => trivial
  close := trivial

def Poised : Head → Nat → Prop
  | .accepted, m => 0 < m
  | .serving, _ => True

/-- The rest of the turn gets by with the allowance. -/
abbrev Lasts (p : Step Command (Head ⊕ Unit)) (m : Nat) : Prop :=
  (allowance Command).wp (Owes Poised fun _ _ => True) p m

theorem spares_mute {op : ConnectionOp Command} (mute : Mute op) : Spares m op := by
  cases op with
  | onEvent event =>
    cases event with
    | closed cause => trivial
    | _ => exact mute.elim
  | _ => trivial

theorem spares_pos (positive : 0 < m) (op : ConnectionOp Command) : Spares m op := by
  cases op with
  | onEvent event =>
    cases event with
    | closed cause => trivial
    | _ => exact positive
  | _ => trivial

theorem lasts_mute {p : Step Command (Head ⊕ Unit)} (mute : p.Obeys Mute Onward) :
    Lasts p m := by
  have kept := wp_of_obeys (allowance Command) (fun _ => True)
    (fun m op answer quiet _ _ => ⟨spares_mute quiet, trivial⟩) mute (m := m) trivial
  apply wp_mono _ _ kept
  rintro (head | _) m' ⟨onward, _⟩
  · cases head with
    | accepted => exact absurd rfl onward
    | serving => trivial
  · trivial

theorem lasts_handleEvent (positive : 0 < m) (event : WsServerEndpointEvent Command) :
    Lasts (handleEvent event) m := by
  obtain ⟨next, calls, rest⟩ := handleEvent_calls mute_ending event
  rw [calls]
  exact fun answer _ => ⟨spares_pos positive _, lasts_mute (rest answer)⟩

theorem lasts_arm (arm : ConnectionArm Command) :
    Lasts (handleArm arm) (allowanceAfter m ⟨.select, arm⟩) := by
  rcases arm with _ | item | received | _
  · exact lasts_mute (obeys_arm mute_ending _ nofun)
  · rcases item with _ | error | frame
    · exact lasts_mute (obeys_arm mute_ending _ nofun)
    · exact lasts_mute (obeys_arm mute_ending _ nofun)
    · cases frame with
      | text payload => exact lasts_handleEvent Nat.one_pos _
      | binary payload => exact lasts_handleEvent Nat.one_pos _
      | _ => exact lasts_mute (obeys_arm mute_ending _ nofun)
  · rcases received with error | command
    · exact lasts_mute (obeys_arm mute_ending _ nofun)
    · exact lasts_handleEvent Nat.one_pos _
  · exact lasts_handleEvent Nat.one_pos _

theorem allowance_turns (head : Head) (m : Nat) (poised : Poised head m) :
    Lasts (runConnection config ctx head : Step Command (Head ⊕ Unit)) m := by
  cases head with
  | serving => exact fun arm _ => ⟨trivial, lasts_arm arm⟩
  | accepted =>
    intro answer _
    refine ⟨trivial, ?_⟩
    cases answer with
    | rejected error => trivial
    | timedOut => trivial
    | completed =>
      exact fun _ _ => ⟨trivial, fun _ _ => ⟨trivial, lasts_handleEvent poised _⟩⟩

/-- Every choice of the stretch took the shutdown arm. -/
def Flagged (t : List (ConnectionEvent Command)) : Prop :=
  ∀ arm, (⟨.select, arm⟩ : ConnectionEvent Command) ∈ t → arm = .shutdown

theorem allowance_le (t : List (ConnectionEvent Command)) (small : m ≤ 1) :
    (allowance Command).run m t ≤ 1 := by
  induction t generalizing m with
  | nil => exact small
  | cons e rest ih =>
    apply ih
    change allowanceAfter m e ≤ 1
    unfold allowanceAfter
    split <;> omega

theorem counted_cons_le (e : ConnectionEvent Command) (t : List (ConnectionEvent Command)) :
    (delivered (e :: t)).countP (fun event => !isClosed event) ≤
      (delivered t).countP (fun event => !isClosed event) + 1 := by
  cases told : eventOf e with
  | none => simp [delivered, told]
  | some event => cases closes : isClosed event <;> simp [delivered, told, closes]

/-- Under the flag nothing fills the allowance up again. -/
theorem further_le {t : List (ConnectionEvent Command)} (flagged : Flagged t)
    (safe : (allowance Command).Along (allowance Command).safe m t) :
    (delivered t).countP (fun event => !isClosed event) + (allowance Command).run m t ≤ m := by
  induction t generalizing m with
  | nil => exact Nat.le_of_eq (Nat.zero_add m)
  | cons e rest ih =>
    obtain ⟨spared, safe'⟩ := safe
    have later := ih (fun arm listed => flagged arm (List.mem_cons_of_mem e listed)) safe'
    have counted := counted_cons_le e rest
    rcases e with ⟨op, answer⟩
    cases op with
    | select =>
      obtain rfl := flagged answer List.mem_cons_self
      exact Nat.le_trans later (Nat.zero_le m)
    | onEvent event =>
      cases event with
      | closed cause => exact later
      | _ =>
        have positive : 0 < m := spared
        have spent : _ ≤ m - 1 := later
        rw [run_cons]
        omega
    | _ => exact later

theorem few_events {t more : List (ConnectionEvent Command)} {q : Step Command (Head ⊕ Unit)}
    (run : ConnectionRun config ctx (t ++ more) q) (flagged : Flagged more) :
    (delivered more).countP (fun event => !isClosed event) ≤ 1 := by
  obtain ⟨safe, _⟩ := reaches_wp (allowance Command) allowance_turns run
    (Nat.one_pos : Poised .accepted 1) ((along_iff _).mpr fun _ _ _ _ => trivial)
  obtain ⟨_, safe'⟩ := (along_append _).mp safe
  have bound := further_le flagged safe'
  have small := allowance_le t (Nat.le_refl 1)
  omega

/-- From a choice under the flag on: the handler hears why it is closed, and only that. -/
theorem closing_heard {t more : List (ConnectionEvent Command)} {q : Step Command (Head ⊕ Unit)}
    (ran : ConnectionRun config ctx t (.ret (.inl .serving)))
    (onward : Reaches (runConnection config ctx) (.ret (.inl .serving)) more q)
    (flagged : Flagged more) :
    more = [] ∧ q = .ret (.inl .serving) ∨ delivered more = [.closed .serverShutdown] ∨
      delivered more = [] ∧
        Leads (runConnection config ctx) Writes (Closes .serverShutdown) (fun _ => False) q := by
  have run := ran.trans onward
  cases onward with
  | here => exact Or.inl ⟨rfl, rfl⟩
  | @step _ _ _ _ rest first after =>
    right
    cases first with
    | head turn =>
      cases turn with
      | call _ _ arm =>
        obtain rfl := flagged arm List.mem_cons_self
        obtain ⟨allowed, _⟩ := protocol_run run
        obtain ⟨undecided, opened⟩ := allowed t _ rest rfl
        have causes : causeOf (t ++ [(⟨.select, .shutdown⟩ : ConnectionEvent Command)]) =
            some .serverShutdown := by
          rw [causeOf_snoc, undecided]
          rfl
        rw [List.append_cons] at allowed run
        rcases delivered_decided allowed causes with silent | ⟨heard, _⟩
        · have opened' : Open ctx
              (delivered (t ++ [(⟨.select, .shutdown⟩ : ConnectionEvent Command)])) := by
            rw [delivered_snoc]
            simpa [eventOf] using opened
          exact Or.inr ⟨silent, leads_of_silent run causes opened' silent⟩
        · exact Or.inl heard

end Connections

section Flag
variable {Command : Type} {config : WsServerConfig} {retry : WsServerRetryPolicy}
variable {faults : ServerFaults} {s s' : System Command}

/-- How a connection goes on while the flag is set. -/
structure Continues (config : WsServerConfig) (c c' : Connection Command) : Prop where
  ctx : c'.ctx = c.ctx
  more : ∃ more, c'.trace = c.trace ++ more ∧
    Reaches (runConnection config c.ctx) c.task more c'.task ∧ Flagged more

theorem Continues.refl (c : Connection Command) : Continues config c c :=
  ⟨rfl, [], by simp, .here _, fun _ wrong => absurd wrong List.not_mem_nil⟩

theorem flagged_of_hears {shared : Shared Command} {receiver receiver' : Receiver}
    {e : ConnectionEvent Command} (requested : shared.shutdown = true)
    (hears : Hears shared receiver e receiver') : Flagged [e] := by
  intro arm listed
  have same := List.mem_singleton.mp listed
  cases hears with
  | shutdown => cases same; rfl
  | incoming quiet item => exact absurd (requested.symm.trans quiet) nofun
  | command quiet got => exact absurd (requested.symm.trans quiet) nofun
  | tick quiet waits => exact absurd (requested.symm.trans quiet) nofun
  | other notSelect answer => exact absurd (congrArg Event.op same).symm notSelect

theorem Continues.moves {shared : Shared Command} {c c' c'' : Connection Command}
    (requested : shared.shutdown = true) (continues : Continues config c c')
    (moves : Moves config shared (some c') (some c'')) : Continues config c c'' := by
  obtain ⟨ctx, more, trace, onward, flagged⟩ := continues
  cases moves with
  | advances live fires hears =>
    have chosen := flagged_of_hears requested hears
    rw [ctx] at fires
    refine ⟨ctx, more ++ [_], ?_, onward.snoc fires, fun arm listed => ?_⟩
    · change c'.trace ++ [_] = _
      rw [trace, List.append_assoc]
    · rcases List.mem_append.mp listed with early | late
      · exact flagged arm early
      · exact chosen arm late
  | _ => exact ⟨ctx, more, trace, onward, flagged⟩

/-- The connection at a place, before and after: it continues, or it was admitted since. -/
def Onwards (config : WsServerConfig) :
    Option (Connection Command) → Option (Connection Command) → Prop
  | some c, some c' => Continues config c c'
  | none, some c' => ∃ c, c.trace = [] ∧ Continues config c c'
  | none, none => True
  | some _, none => False

theorem Onwards.moves {shared : Shared Command} {c c' c'' : Option (Connection Command)}
    (requested : shared.shutdown = true) (onwards : Onwards config c c')
    (moves : Moves config shared c' c'') : Onwards config c c'' := by
  cases c' with
  | none =>
    cases moves with
    | stays => exact onwards
    | admitted ctx receiver =>
      cases c with
      | none => exact ⟨_, rfl, Continues.refl _⟩
      | some c => exact onwards.elim
  | some c' =>
    obtain ⟨c'', rfl⟩ := moves_some moves
    cases c with
    | none =>
      obtain ⟨first, fresh, continues⟩ := onwards
      exact ⟨first, fresh, continues.moves requested moves⟩
    | some c => exact Continues.moves requested onwards moves

theorem run_onwards (requested : s.shared.shutdown = true)
    (run : Relation.ReflTransGen (Step config retry faults) s s') (k : Nat) :
    Onwards config s.connections[k]? s'.connections[k]? := by
  have both : Onwards config s.connections[k]? s'.connections[k]? ∧
      s'.shared.shutdown = true := by
    induction run with
    | refl =>
      refine ⟨?_, requested⟩
      cases s.connections[k]? with
      | none => trivial
      | some c => exact Continues.refl c
    | tail _ last ih =>
      obtain ⟨onwards, still⟩ := ih
      exact ⟨onwards.moves still (moves_step last k), step_shutdown last still⟩
  exact both.1

/-- What the handler of the connection at place `k` has heard. -/
def heardBy (s : System Command) (k : Nat) : List (WsServerEndpointEvent Command) :=
  (s.connections[k]?).elim [] fun c => delivered c.trace

/-- What becomes of a connection that chose under the flag: it is still at that
choice, or its handler has heard why it is closed and nothing else, or is about
to hear it. -/
structure ClosesDown (config : WsServerConfig) (c c' : Connection Command) : Prop where
  heard : c'.trace = c.trace ∧ c'.task = c.task ∨
    delivered c'.trace = delivered c.trace ++ [.closed .serverShutdown] ∨
    delivered c'.trace = delivered c.trace ∧
      Leads (runConnection config c.ctx) Writes (Closes .serverShutdown) (fun _ => False) c'.task
  returned : c'.fate = .returned →
    delivered c'.trace = delivered c.trace ++ [.closed .serverShutdown]

/-- How a server in state `s` falls silent. -/
structure Quiesces (config : WsServerConfig) (retry : WsServerRetryPolicy)
    (faults : ServerFaults) (s : System Command) : Prop where
  released : closing s.shared.status = true →
    ∀ s', Relation.ReflTransGen (Step config retry faults) s s' →
      ¬ HoldsListener s' ∧ s'.connections.length = s.connections.length
  stopped : s.shared.status = .stopped →
    (∀ c ∈ s.connections, c.fate ≠ .running) ∧ s.shared.active = 0
  further : s.shared.shutdown = true →
    ∀ s', Relation.ReflTransGen (Step config retry faults) s s' →
      ∀ k, ∃ more, heardBy s' k = heardBy s k ++ more ∧
        more.countP (fun event => !isClosed event) ≤ 1
  closes : s.shared.shutdown = true → ∀ (k : Nat) c, s.connections[k]? = some c →
    c.task = .ret (.inl .serving) →
      ∀ s', Relation.ReflTransGen (Step config retry faults) s s' →
        ∃ c', s'.connections[k]? = some c' ∧ ClosesDown config c c'

theorem connection_run (reached : Reachable config retry faults s) {k : Nat}
    {c : Connection Command} (here : s.connections[k]? = some c) :
    ConnectionRun config c.ctx c.trace c.task :=
  ((CommandFanout.fanout_reachable reached).links k c here).run

/-- A handler that continues under the flag hears at most one event but `Closed`. -/
theorem Continues.few {c c' : Connection Command} (continues : Continues config c c')
    (run : ConnectionRun config c'.ctx c'.trace c'.task) :
    ∃ more, delivered c'.trace = delivered c.trace ++ more ∧
      more.countP (fun event => !isClosed event) ≤ 1 := by
  obtain ⟨_, more, trace, _, flagged⟩ := continues
  rw [trace] at run
  refine ⟨delivered more, ?_, few_events run flagged⟩
  rw [trace, delivered_append]

theorem heard_further (reached : Reachable config retry faults s)
    (requested : s.shared.shutdown = true)
    (run : Relation.ReflTransGen (Step config retry faults) s s') (k : Nat) :
    ∃ more, heardBy s' k = heardBy s k ++ more ∧
      more.countP (fun event => !isClosed event) ≤ 1 := by
  have onwards := run_onwards requested run k
  unfold heardBy
  cases there : s'.connections[k]? with
  | none =>
    cases here : s.connections[k]? with
    | none => exact ⟨[], rfl, Nat.zero_le 1⟩
    | some c =>
      rw [here, there] at onwards
      exact onwards.elim
  | some c' =>
    have ran := connection_run (reached.tail run) there
    cases here : s.connections[k]? with
    | some c =>
      rw [here, there] at onwards
      exact Continues.few onwards ran
    | none =>
      rw [here, there] at onwards
      obtain ⟨c, fresh, continues⟩ := onwards
      obtain ⟨more, heard, few⟩ := continues.few ran
      rw [fresh] at heard
      exact ⟨more, heard, few⟩

theorem Continues.closesDown {c c' : Connection Command} (continues : Continues config c c')
    (ran : ConnectionRun config c.ctx c.trace c.task) (serving : c.task = .ret (.inl .serving))
    (settled : Settled c') : ClosesDown config c c' := by
  obtain ⟨_, more, trace, onward, flagged⟩ := continues
  rw [serving] at ran onward
  have grown : delivered c'.trace = delivered c.trace ++ delivered more := by
    rw [trace, delivered_append]
  have cases_of := closing_heard ran onward flagged
  constructor
  · rcases cases_of with ⟨rfl, waits⟩ | heard | ⟨silent, leads⟩
    · exact Or.inl ⟨by rw [trace, List.append_nil], waits.trans serving.symm⟩
    · exact Or.inr (Or.inl (by rw [grown, heard]))
    · exact Or.inr (Or.inr ⟨by rw [grown, silent, List.append_nil], leads⟩)
  · intro ended
    have finished := settled.returned ended
    rcases cases_of with ⟨_, waits⟩ | heard | ⟨_, leads⟩
    · exact absurd (waits.symm.trans finished) nofun
    · rw [grown, heard]
    · rw [finished] at leads
      cases leads with
      | arrived there => exact there.elim
      | step live =>
        obtain ⟨e, q, fires⟩ := live
        exact absurd fires not_fires_result

/-- For any number of connections and every interleaving. -/
theorem shutdown_quiesces (reached : Reachable config retry faults s) :
    Quiesces config retry faults s := by
  have lives := ServerLifecycle.lives_reachable reached
  have winds := winds_reachable reached
  have listed := ServerLifecycle.status_mem lives
  constructor
  · intro closes s' run
    have late := winds.closing _ listed closes
    obtain ⟨late', length⟩ := run_ending reached late run
    refine ⟨?_, length⟩
    intro holds
    have free := (winds_reachable (reached.tail run)).ordered.free late'
    exact absurd (holds.symm.trans free) nofun
  · intro status
    rw [status] at listed
    exact active_zero reached (winds.stopped listed)
  · intro requested s' run k
    exact heard_further reached requested run k
  · intro requested k c here serving s' run
    have onwards := run_onwards requested run k
    rw [here] at onwards
    cases there : s'.connections[k]? with
    | none =>
      rw [there] at onwards
      exact onwards.elim
    | some c' =>
      rw [there] at onwards
      have settled := settled_reachable (reached.tail run) c' (List.mem_of_getElem? there)
      exact ⟨c', rfl, Continues.closesDown onwards (connection_run reached here) serving settled⟩

end Flag

/-- A client is connected when the server is asked to stop. -/
theorem connected_client_closed :
    ∃ s : System Nat, Reachable solo .default ⟨none⟩ s ∧ s.shared.status = .stopped ∧
      heardBy s 0 = [.connected ⟨0, .v4 1 5000, .v4 0 80⟩, .closed .serverShutdown] ∧
      Quiesces solo .default ⟨none⟩ s := by
  have run : ∃ s, Relation.ReflTransGen (Step solo .default ⟨none⟩)
      (start solo .default : System Nat) s ∧ s.shared.status = .stopped ∧
      heardBy s 0 = [.connected ⟨0, .v4 1 5000, .v4 0 80⟩, .closed .serverShutdown] := by
    have room : 0 < solo.maxConnections := by decide
    obtain ⟨trace, opened⟩ := oneClient_reached .default (.v4 1 5000) room
    have served := opened.trans (CommandFanout.newest_served [] rfl)
    refine ⟨_, served.trans <|
      .head (.requestShutdown _) <|
      .head (.server (.head (.call _ _ _)) (.acceptShutdown _ rfl)) <|
      .head (.server (.call _ _ _) (.dropListener _)) <|
      .head (.server (.call _ _ _) (.readTerminal _)) <|
      .head (.server (.call _ _ _) (.publish _ _)) <|
      .head (.connection (k := 0) rfl rfl (.head (.call _ _ _)) (.shutdown rfl)) <|
      .head (.connection (k := 0) rfl rfl (.call _ _ _)
        (@Hears.other _ _ _ (.onEvent _) nofun (.ok .none))) <|
      .head (.connection (k := 0) rfl rfl (.call _ _ _)
        (@Hears.other _ _ _ (.send _) nofun (.ok ()))) <|
      .head (.connection (k := 0) rfl rfl (.call _ _ _)
        (@Hears.other _ _ _ .close nofun (.ok ()))) <|
      .head (.finish (k := 0) rfl rfl rfl) <|
      .head (.server (.head (.call _ _ _)) (.drainJoined _ _ (k := 0) rfl rfl)) <|
      .head (.server (.head (.call _ _ _)) (.drainEmpty _ _ (List.forall_mem_singleton.mpr rfl))) <|
      .head (.server (.call _ _ _) (.readTerminal _)) <|
      .head (.server (.call _ _ _) (.publish _ _)) .refl, rfl, rfl⟩
  obtain ⟨s, run, status, heard⟩ := run
  have reached : Reachable solo .default ⟨none⟩ s := ⟨_, rfl, run⟩
  exact ⟨s, reached, status, heard, shutdown_quiesces reached⟩

end ShutdownQuiescence
