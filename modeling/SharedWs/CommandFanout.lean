import SharedWs.ConnectionBudget
import SharedWs.ConnectionProtocol

/-!
# Fanout of commands

A connection reads the commands that were dispatched after it subscribed, in
order, until one of them is overwritten unread. From then on it reads none: the
next time it looks at its channel it learns that it lags, and closes. It may
still end before that for a reason of its own.
-/
namespace CommandFanout

open BroadcastRing InteractionPrograms InteractionProgress
open ConnectionTask ConnectionProtocol ConnectionBudget ServerHandle ServerSystem ServerTask
open ServerTypes

variable {Command : Type}

def readOf : ConnectionEvent Command → Option Command
  | ⟨.select, .command (.ok command)⟩ => some command
  | _ => none

/-- The commands that the task took from its channel. -/
def readCommands (t : List (ConnectionEvent Command)) : List Command := t.filterMap readOf

def commandOf : WsServerEndpointEvent Command → Option Command
  | .command command => some command
  | _ => none

/-- The commands that the handler was given. -/
def receivedCommands (t : List (ConnectionEvent Command)) : List Command :=
  (delivered t).filterMap commandOf

/-- A call that neither reads a command nor hands one out. -/
def Plain : ConnectionOp Command → Prop
  | .select | .onEvent (.command _) => False
  | _ => True

theorem plain_ending : AllowsEnding (fun op : ConnectionOp Command => Plain op) where
  send := fun _ => trivial
  closed := fun _ => trivial
  close := trivial

theorem readCommands_snoc (t : List (ConnectionEvent Command)) (e : ConnectionEvent Command) :
    readCommands (t ++ [e]) = readCommands t ++ (readOf e).toList :=
  filterMap_snoc readOf t e

theorem receivedCommands_snoc (t : List (ConnectionEvent Command)) (e : ConnectionEvent Command) :
    receivedCommands (t ++ [e]) =
      receivedCommands t ++ ((eventOf e).bind commandOf).toList := by
  unfold receivedCommands
  rw [delivered_snoc, List.filterMap_append]
  congr 1
  cases eventOf e with
  | none => rfl
  | some event => cases given : commandOf event <;> simp [given]

/-- Either everything read has been handed to the handler, or the task is about
to hand over the last command it read. -/
def Handing (t : List (ConnectionEvent Command)) (q : Step Command (Head ⊕ Unit)) : Prop :=
  (q.Obeys Plain fun _ => True) ∧ receivedCommands t = readCommands t ∨
    ∃ command, q = handleArm (.command (.ok command)) ∧
      readCommands t = receivedCommands t ++ [command]

theorem plain_untouched {e : ConnectionEvent Command} (plain : Plain e.op) :
    readOf e = none ∧ (eventOf e).bind commandOf = none := by
  rcases e with ⟨op, answer⟩
  cases op with
  | select => exact plain.elim
  | onEvent event =>
    cases event with
    | command command => exact plain.elim
    | _ => exact ⟨rfl, rfl⟩
  | _ => exact ⟨rfl, rfl⟩

theorem arm_cases (arm : ConnectionArm Command) :
    (∃ command, arm = .command (.ok command)) ∨
      readOf (⟨.select, arm⟩ : ConnectionEvent Command) = none ∧
        (handleArm arm).Obeys Plain Onward := by
  rcases arm with _ | item | (error | command) | _
  · exact Or.inr ⟨rfl, obeys_arm plain_ending _ nofun⟩
  · refine Or.inr ⟨rfl, obeys_arm plain_ending _ fun event told => ?_⟩
    rcases item with _ | error | frame
    · cases told
    · cases told
    · cases frame with
      | text payload => cases told; trivial
      | binary payload => cases told; trivial
      | _ => cases told
  · exact Or.inr ⟨rfl, obeys_arm plain_ending _ nofun⟩
  · exact Or.inl ⟨command, rfl⟩
  · refine Or.inr ⟨rfl, obeys_arm plain_ending _ fun event told => ?_⟩
    cases told
    trivial

section Runs
variable {config : WsServerConfig} {ctx : WsServerConnectionContext}
variable {t : List (ConnectionEvent Command)}

theorem Handing.quiet {e : ConnectionEvent Command} {q : Step Command (Head ⊕ Unit)}
    (same : receivedCommands t = readCommands t) (untouched : readOf e = none)
    (untold : (eventOf e).bind commandOf = none) (rest : q.Obeys Plain fun _ => True) :
    Handing (t ++ [e]) q := by
  refine Or.inl ⟨rest, ?_⟩
  rw [receivedCommands_snoc, readCommands_snoc, untouched, untold, same]

theorem handing_step {p q : Step Command (Head ⊕ Unit)} {e : ConnectionEvent Command}
    (handing : Handing t p) (fires : Fires (runConnection config ctx) p e q) :
    Handing (t ++ [e]) q := by
  rcases handing with ⟨plain, same⟩ | ⟨command, rfl, ahead⟩
  · cases fires with
    | call op next answer =>
      obtain ⟨untouched, untold⟩ := plain_untouched (e := ⟨op, answer⟩) plain.1
      exact Handing.quiet same untouched untold (plain.2 answer)
    | @head c _ _ turn =>
      cases c with
      | accepted =>
        cases turn with
        | call _ _ answer =>
          apply Handing.quiet same rfl rfl
          cases answer with
          | rejected error => trivial
          | timedOut => trivial
          | completed =>
            have told : Plain (.onEvent (.connected ctx) : ConnectionOp Command) := trivial
            exact ⟨trivial, fun _ => ⟨trivial, fun _ =>
              (obeys_handleEvent plain_ending told).calls⟩⟩
      | serving =>
        cases turn with
        | call _ _ arm =>
          rcases arm_cases arm with ⟨command, rfl⟩ | ⟨untouched, rest⟩
          · refine Or.inr ⟨command, rfl, ?_⟩
            rw [receivedCommands_snoc, readCommands_snoc, same]
            simp [eventOf, readOf]
          · exact Handing.quiet same untouched rfl rest.calls
  · obtain ⟨next, calls, rest⟩ := handleEvent_calls plain_ending (.command command)
    have told : handleArm (.command (.ok command)) = .call (.onEvent (.command command)) next :=
      calls
    rw [told] at fires
    cases fires with
    | call _ _ answer =>
      refine Or.inl ⟨(rest answer).calls, ?_⟩
      rw [receivedCommands_snoc, readCommands_snoc, ahead]
      simp [eventOf, readOf, commandOf]

theorem handing_run {q : Step Command (Head ⊕ Unit)} (run : ConnectionRun config ctx t q) :
    Handing t q := by
  have from_any : ∀ {p q : Step Command (Head ⊕ Unit)} {s t : List (ConnectionEvent Command)},
      Reaches (runConnection config ctx) p t q → Handing s p → Handing (s ++ t) q := by
    intro p q s t run
    induction run generalizing s with
    | here => simp
    | step first _ ih =>
      intro handing
      rw [List.append_cons]
      exact ih (handing_step handing first)
  exact from_any run (s := []) (Or.inl ⟨trivial, rfl⟩)

/-- The handler is given the commands that were read, at most the last one still
on its way. -/
theorem received_of_read {q : Step Command (Head ⊕ Unit)} (run : ConnectionRun config ctx t q) :
    receivedCommands t <+: readCommands t := by
  rcases handing_run run with ⟨_, same⟩ | ⟨command, _, ahead⟩
  · exact ⟨[], by simp [same]⟩
  · rw [ahead]
    exact List.prefix_append _ _

end Runs

/-- What a receiver has not read is what was dispatched after the first `seen`. -/
structure Follows (log dispatched : List Command) (next seen : Nat) : Prop where
  inside : next ≤ log.length
  dispatches : seen ≤ dispatched.length
  same : log.drop next = dispatched.drop seen

section Positions
variable {log dispatched : List Command} {next seen : Nat}

theorem Follows.send (follows : Follows log dispatched next seen) (command : Command) :
    Follows (log ++ [command]) (dispatched ++ [command]) next seen := by
  obtain ⟨inside, dispatches, same⟩ := follows
  constructor
  · rw [List.length_append]
    omega
  · rw [List.length_append]
    omega
  · rw [List.drop_append_of_le_length inside, List.drop_append_of_le_length dispatches, same]

theorem Follows.read (follows : Follows log dispatched next seen) {command : Command}
    (here : log[next]? = some command) :
    dispatched[seen]? = some command ∧ Follows log dispatched (next + 1) (seen + 1) := by
  obtain ⟨inside, dispatches, same⟩ := follows
  obtain ⟨less, _⟩ := List.getElem?_eq_some_iff.mp here
  have there : dispatched[seen]? = some command := by
    have first : (log.drop next)[0]? = some command := by rw [List.getElem?_drop]; exact here
    rw [same, List.getElem?_drop] at first
    exact first
  obtain ⟨less', _⟩ := List.getElem?_eq_some_iff.mp there
  refine ⟨there, less, less', ?_⟩
  rw [← List.drop_drop, ← List.drop_drop, same]

end Positions

/-- The task has been told that it lags, or that the channel is closed. -/
def Missed (t : List (ConnectionEvent Command)) : Prop :=
  ∃ error, (⟨.select, .command (.error error)⟩ : ConnectionEvent Command) ∈ t

/-- A connection between the ring and the dispatches. -/
structure Linked (config : WsServerConfig) (log dispatched : List Command)
    (c : Connection Command) : Prop where
  run : ConnectionRun config c.ctx c.trace c.task
  since : c.receiver.since ≤ dispatched.length
  segment : readCommands c.trace <+: dispatched.drop c.receiver.since
  position : c.fate = .running → ¬ Missed c.trace →
    Follows log dispatched c.receiver.next (c.receiver.since + (readCommands c.trace).length)

section Links
variable {config : WsServerConfig} {log dispatched : List Command} {c : Connection Command}

theorem Linked.dispatch (linked : Linked config log dispatched c) (command : Command)
    {log' : List Command} (stored : c.fate = .running → log' = log ++ [command]) :
    Linked config log' (dispatched ++ [command]) c := by
  obtain ⟨run, since, segment, position⟩ := linked
  refine ⟨run, ?_, ?_, fun live reading => ?_⟩
  · rw [List.length_append]
    omega
  · rw [List.drop_append_of_le_length since]
    exact segment.trans (List.prefix_append _ _)
  · rw [stored live]
    exact (position live reading).send command

theorem Linked.ended (linked : Linked config log dispatched c) {fate : Fate}
    (ended : fate ≠ .running) : Linked config log dispatched { c with fate := fate } :=
  ⟨linked.run, linked.since, linked.segment, fun live => absurd live ended⟩

/-- Once told, the task is past its last `select!`. -/
theorem not_missed_of_select {ctx : WsServerConnectionContext}
    {t : List (ConnectionEvent Command)} {p q : Step Command (Head ⊕ Unit)}
    {arm : ConnectionArm Command} (run : ConnectionRun config ctx t p)
    (fires : Fires (runConnection config ctx) p ⟨.select, arm⟩ q) :
    causeOf t = none ∧ ¬ Missed t := by
  obtain ⟨allowed, _⟩ := protocol_run (run.snoc fires)
  have undecided : causeOf t = none := (allowed t ⟨.select, arm⟩ [] rfl).1
  refine ⟨undecided, ?_⟩
  rintro ⟨error, listed⟩
  have none_of := List.findSome?_eq_none_iff.mp undecided _ listed
  cases error <;> cases none_of

theorem prefix_snoc {first whole : List Command} {command : Command} (part : first <+: whole)
    (here : whole[first.length]? = some command) : first ++ [command] <+: whole := by
  obtain ⟨rest, rfl⟩ := part
  rw [List.getElem?_append_right (Nat.le_refl _), Nat.sub_self] at here
  cases rest with
  | nil => cases here
  | cons other rest =>
    cases here
    exact ⟨rest, by simp⟩

/-- A call that reads no command. -/
theorem Linked.quiet (linked : Linked config log dispatched c) {e : ConnectionEvent Command}
    {task : Step Command (Head ⊕ Unit)} (untouched : readOf e = none)
    (fires : Fires (runConnection config c.ctx) c.task e task) :
    Linked config log dispatched (c.advance e task c.receiver) := by
  obtain ⟨run, since, segment, position⟩ := linked
  have same : readCommands (c.trace ++ [e]) = readCommands c.trace := by
    rw [readCommands_snoc, untouched]
    simp
  refine ⟨run.snoc fires, since, same ▸ segment, fun live reading => ?_⟩
  have before : ¬ Missed c.trace := by
    rintro ⟨error, listed⟩
    exact reading ⟨error, List.mem_append_left _ listed⟩
  change Follows log dispatched c.receiver.next
    (c.receiver.since + (readCommands (c.trace ++ [e])).length)
  rw [same]
  exact position live before

theorem readOf_other {op : ConnectionOp Command} (notSelect : op ≠ .select) (answer : op.Res) :
    readOf (⟨op, answer⟩ : ConnectionEvent Command) = none := by
  cases op with
  | select => exact absurd rfl notSelect
  | _ => rfl

theorem Linked.advance {shared : Shared Command}
    (linked : Linked config shared.commands.log dispatched c) (live : c.fate = .running)
    {e : ConnectionEvent Command} {task : Step Command (Head ⊕ Unit)} {receiver : Receiver}
    (fires : Fires (runConnection config c.ctx) c.task e task)
    (hears : Hears shared c.receiver e receiver) :
    Linked config shared.commands.log dispatched (c.advance e task receiver) := by
  cases hears with
  | shutdown requested => exact linked.quiet rfl fires
  | incoming quiet item => exact linked.quiet rfl fires
  | tick quiet waits => exact linked.quiet rfl fires
  | other notSelect answer => exact linked.quiet (readOf_other notSelect answer) fires
  | @command quiet received next got =>
    obtain ⟨_, reading⟩ := not_missed_of_select linked.run fires
    obtain ⟨run, since, segment, position⟩ := linked
    cases received with
    | error error =>
      refine ⟨run.snoc fires, since, ?_, fun _ told => ?_⟩
      · change readCommands (c.trace ++ [_]) <+: dispatched.drop c.receiver.since
        rw [readCommands_snoc]
        simpa [readOf] using segment
      · exact absurd ⟨error, List.mem_append_right _ List.mem_cons_self⟩ told
    | ok command =>
      obtain ⟨_, here, after⟩ := recv_ok got
      subst after
      obtain ⟨there, follows⟩ := (position live reading).read here
      have grown : readCommands (c.trace ++ [⟨.select, .command (.ok command)⟩]) =
          readCommands c.trace ++ [command] := by
        rw [readCommands_snoc]
        rfl
      refine ⟨run.snoc fires, since, ?_, fun _ _ => ?_⟩
      · change readCommands (c.trace ++ [_]) <+: _
        rw [grown]
        apply prefix_snoc segment
        rw [List.getElem?_drop]
        exact there
      · change Follows _ _ _ (c.receiver.since + (readCommands (c.trace ++ [_])).length)
        rw [grown, List.length_append]
        exact follows

end Links

section System
variable {config : WsServerConfig} {retry : WsServerRetryPolicy} {faults : ServerFaults}
variable {s s' : System Command} {m m' : Admission}

/-- Every receiver counts, the one in hand included, and each follows the dispatches. -/
structure Fanout (config : WsServerConfig) (m : Admission) (s : System Command) : Prop where
  receivers : s.shared.commands.receivers = running s.connections + m.receiver.isSome.toNat
  held : ∀ r, m.receiver = some r → Follows s.shared.commands.log s.dispatched r.next r.since
  links : ∀ (k : Nat) c, s.connections[k]? = some c →
    Linked config s.shared.commands.log s.dispatched c

theorem Fanout.same (fanout : Fanout config m s) (receiver : m'.receiver = m.receiver)
    (commands : s'.shared.commands = s.shared.commands) (dispatched : s'.dispatched = s.dispatched)
    (connections : s'.connections = s.connections) : Fanout config m' s' := by
  obtain ⟨receivers, held, links⟩ := fanout
  constructor
  · rw [commands, connections, receiver]
    exact receivers
  · rw [receiver, commands, dispatched]
    exact held
  · rw [commands, dispatched, connections]
    exact links

theorem Fanout.replace (fanout : Fanout config m s) (receiver : m'.receiver = m.receiver)
    {k : Nat} {c replaced : Connection Command} (here : s.connections[k]? = some c)
    (fate : replaced.fate = c.fate)
    (linked : Linked config s.shared.commands.log s.dispatched replaced) :
    Fanout config m' { s with connections := s.connections.set k replaced } := by
  obtain ⟨receivers, held, links⟩ := fanout
  have same := running_replace here fate
  constructor
  · change s.shared.commands.receivers = running (s.connections.set k replaced) + _
    rw [same, receiver]
    exact receivers
  · rw [receiver]
    exact held
  · exact forall_set links linked

theorem Fanout.subscribed {id : UInt64} (fanout : Fanout config ⟨true, some id, none, false⟩ s) :
    Fanout config ⟨true, some id, some ⟨s.shared.commands.subscribe.1, s.dispatched.length⟩, false⟩
      (s.updateShared fun shared => { shared with commands := shared.commands.subscribe.2 }) := by
  obtain ⟨receivers, _, links⟩ := fanout
  constructor
  · change s.shared.commands.receivers + 1 = running s.connections + 1
    rw [receivers]
    rfl
  · rintro _ ⟨⟩
    exact ⟨Nat.le_refl _, Nat.le_refl _, by simp [RingBuffer.subscribe, System.updateShared]⟩
  · exact links

theorem Fanout.spawned {ctx : WsServerConnectionContext} {receiver : Receiver}
    (fanout : Fanout config ⟨true, some ctx.connectionId, some receiver, false⟩ s) :
    Fanout config .idle { s with connections :=
      s.connections ++ [⟨ctx, receiver, .ret (.inl .accepted), [], .running, false⟩] } := by
  obtain ⟨receivers, held, links⟩ := fanout
  constructor
  · change s.shared.commands.receivers = running (_ ++ _) + 0
    rw [receivers, running, running, List.countP_append]
    rfl
  · rintro _ ⟨⟩
  · intro k c here
    rcases Nat.lt_trichotomy k s.connections.length with early | rfl | late
    · rw [List.getElem?_append_left early] at here
      exact links k c here
    · rw [List.getElem?_concat_length] at here
      cases here
      have follows := held receiver rfl
      exact ⟨.here _, follows.dispatches, List.nil_prefix, fun _ _ => follows⟩
    · rw [List.getElem?_eq_none (by simp; omega)] at here
      cases here

theorem Fanout.serves {e : ServerEvent} (fanout : Fanout config m s)
    (permitted : Permitted config m e.op.2) (serves : Serves s e s') :
    Fanout config (m.after e) s' := by
  have reaped : ∀ {k : Nat} {c : Connection Command} {m' : Admission},
      m'.receiver = m.receiver → s.connections[k]? = some c → Fanout config m' (s.reap k c) := by
    intro k c m' receiver here
    obtain ⟨run, since, segment, position⟩ := fanout.links k c here
    exact fanout.replace receiver here rfl ⟨run, since, segment, position⟩
  cases serves with
  | subscribe vars =>
    obtain ⟨id, rfl⟩ := permitted
    exact fanout.subscribed
  | spawn vars ctx receiver =>
    have held : m = ⟨true, some ctx.connectionId, some receiver, false⟩ := permitted
    subst held
    exact fanout.spawned
  | acceptJoined vars quiet here ripe => exact reaped rfl here
  | drainJoined vars timeout here ripe => exact reaped rfl here
  | joined vars here ripe => exact reaped rfl here
  | _ => exact fanout.same rfl rfl rfl rfl

theorem Fanout.release (fanout : Fanout config m s) {k : Nat} {c : Connection Command}
    (here : s.connections[k]? = some c) (live : c.fate = .running) {fate : Fate}
    (ended : fate ≠ .running) : Fanout config m (s.release k c fate) := by
  obtain ⟨receivers, held, links⟩ := fanout
  have fewer : running (s.connections.set k { c with fate := fate }) + 1 =
      running s.connections := running_ended here live ended
  constructor
  · change s.shared.commands.receivers - 1 =
      running (s.connections.set k { c with fate := fate }) + m.receiver.isSome.toNat
    omega
  · exact held
  · exact forall_set links ((links k c here).ended ended)

/-- While anybody is subscribed, a dispatched command is stored for all. -/
theorem Fanout.send (fanout : Fanout config m s) (command : Command) :
    Fanout config m { s with
      shared := { s.shared with commands := (s.shared.commands.send command).2 }
      dispatched := s.dispatched ++ [command] } := by
  obtain ⟨receivers, held, links⟩ := fanout
  have stored : s.shared.commands.receivers ≠ 0 →
      (s.shared.commands.send command).2.log = s.shared.commands.log ++ [command] := by
    intro listened
    rw [send_log, if_neg listened]
  constructor
  · rw [send_receivers]
    exact receivers
  · intro r holding
    have listened : s.shared.commands.receivers ≠ 0 := by
      rw [receivers, holding]
      simp
    change Follows (s.shared.commands.send command).2.log _ _ _
    rw [stored listened]
    exact (held r holding).send command
  · intro k c here
    apply (links k c here).dispatch command
    intro live
    apply stored
    have counted : 0 < running s.connections :=
      List.countP_pos_iff.mpr ⟨c, List.mem_of_getElem? here, by rw [isRunning, live]; rfl⟩
    omega

theorem fanout_step (budget : Budget config s) (fanout : Fanout config (handOf s.trace) s)
    (step : Step config retry faults s s') : Fanout config (handOf s'.trace) s' := by
  cases step with
  | server fires serves =>
    obtain ⟨permitted, _⟩ := permitted_fires budget fires
    rw [handOf_snoc]
    exact (fanout.serves permitted serves).same rfl rfl rfl rfl
  | @connection k c _ _ _ here live fires hears =>
    exact fanout.replace rfl here rfl ((fanout.links k c here).advance live fires hears)
  | finish here live returned => exact fanout.release here live nofun
  | cut here live => exact fanout.release here live nofun
  | call => exact fanout.same rfl rfl rfl rfl
  | requestShutdown => exact fanout.same rfl rfl rfl rfl
  | caller _ _ grants =>
    cases grants with
    | send command => exact (fanout.send command).same rfl rfl rfl rfl
    | _ => exact fanout.same rfl rfl rfl rfl

theorem fanout_reachable (reached : Reachable config retry faults s) :
    Fanout config (handOf s.trace) s := by
  have both : Budget config s ∧ Fanout config (handOf s.trace) s := by
    refine reached.invariant (fun s => Budget config s ∧ Fanout config (handOf s.trace) s) ?_ ?_
    · exact ⟨budget_start, rfl, nofun, nofun⟩
    · rintro s s' ⟨budget, fanout⟩ step
      exact ⟨budget_step budget step, fanout_step budget fanout step⟩
  exact both.2

/-- How a connection goes on from a moment at which it lagged: it has read no
further command and taken no tick; it still lags, or it has been told so, and
that is the cause of its close. -/
structure Lagging (commands : RingBuffer Command) (before after : Connection Command) : Prop where
  ctx : after.ctx = before.ctx
  more : ∃ more, after.trace = before.trace ++ more ∧ readCommands more = [] ∧
    (⟨.select, .tick⟩ : ConnectionEvent Command) ∉ more ∧
    ((∀ received, (⟨.select, .command received⟩ : ConnectionEvent Command) ∉ more) ∧
        (after.fate = .running → commands.Lags after.receiver.next) ∨
      ∃ missed, causeOf after.trace = some (.lagged missed))

theorem Lagging.refl {commands : RingBuffer Command} {c : Connection Command}
    (lags : commands.Lags c.receiver.next) : Lagging commands c c :=
  ⟨rfl, [], by simp, rfl, List.not_mem_nil, Or.inl ⟨fun _ => List.not_mem_nil, fun _ => lags⟩⟩

/-- A call that reads nothing and is no tick, with what it leaves open. -/
theorem Lagging.extend {commands : RingBuffer Command} {before c : Connection Command}
    {e : ConnectionEvent Command} {task : Step Command (Head ⊕ Unit)} {receiver : Receiver}
    (lagging : Lagging commands before c) (untouched : readOf e = none)
    (notTick : e ≠ ⟨.select, .tick⟩)
    (rest : (∀ received, e ≠ ⟨.select, .command received⟩) ∧ receiver = c.receiver ∨
      ∃ missed, causeOf (c.trace ++ [e]) = some (.lagged missed)) :
    Lagging commands before (c.advance e task receiver) := by
  obtain ⟨ctx, more, trace, unread, untimed, state⟩ := lagging
  refine ⟨ctx, more ++ [e], ?_, ?_, ?_, ?_⟩
  · change c.trace ++ [e] = _
    rw [trace, List.append_assoc]
  · rw [readCommands_snoc, unread, untouched]
    rfl
  · intro listed
    rcases List.mem_append.mp listed with early | late
    · exact untimed early
    · exact notTick (List.mem_singleton.mp late).symm
  · rcases rest with ⟨notRead, rfl⟩ | told
    · rcases state with ⟨none_read, lags⟩ | ⟨missed, causes⟩
      · refine Or.inl ⟨fun received listed => ?_, lags⟩
        rcases List.mem_append.mp listed with early | late
        · exact none_read received early
        · exact notRead received (List.mem_singleton.mp late).symm
      · refine Or.inr ⟨missed, ?_⟩
        change causeOf (c.trace ++ [e]) = _
        rw [causeOf_snoc, causes, Option.some_or]
    · exact Or.inr told

/-- One call of the connection that lags. -/
theorem Lagging.advance {shared : Shared Command} {before c : Connection Command}
    (lagging : Lagging shared.commands before c) (live : c.fate = .running)
    {e : ConnectionEvent Command} {task : Step Command (Head ⊕ Unit)} {receiver : Receiver}
    (run : ConnectionRun config c.ctx c.trace c.task)
    (fires : Fires (runConnection config c.ctx) c.task e task)
    (hears : Hears shared c.receiver e receiver) :
    Lagging shared.commands before (c.advance e task receiver) := by
  -- a task that makes a choice has no cause yet, so it still lags
  have lags : ∀ arm, e = ⟨.select, arm⟩ → shared.commands.Lags c.receiver.next := by
    rintro arm rfl
    obtain ⟨undecided, _⟩ := not_missed_of_select run fires
    obtain ⟨_, _, _, _, _, ⟨_, lags⟩ | ⟨missed, causes⟩⟩ := lagging
    · exact lags live
    · rw [undecided] at causes
      cases causes
  cases hears with
  | shutdown requested => exact lagging.extend rfl nofun (Or.inl ⟨nofun, rfl⟩)
  | incoming quiet item => exact lagging.extend rfl nofun (Or.inl ⟨nofun, rfl⟩)
  | tick quiet waits => exact absurd (lags _ rfl) (recv_none waits).2
  | other notSelect answer =>
    refine lagging.extend (readOf_other notSelect answer) ?_ (Or.inl ⟨fun _ => ?_, rfl⟩)
    · intro same
      exact notSelect (congrArg Event.op same)
    · intro same
      exact notSelect (congrArg Event.op same)
  | @command quiet received next got =>
    cases received with
    | ok command => exact absurd (lags _ rfl) (recv_ok got).1
    | error error =>
      obtain ⟨_, rfl⟩ := recv_error got
      refine lagging.extend rfl nofun
        (Or.inr ⟨shared.commands.log.length - c.receiver.next - shared.commands.capacity, ?_⟩)
      rw [causeOf_snoc, (not_missed_of_select run fires).1, Option.none_or]
      rfl

theorem Lagging.ring {commands commands' : RingBuffer Command} {before after : Connection Command}
    (lagging : Lagging commands before after)
    (kept : ∀ next, commands.Lags next → commands'.Lags next) :
    Lagging commands' before after := by
  obtain ⟨ctx, more, trace, unread, untimed, state⟩ := lagging
  refine ⟨ctx, more, trace, unread, untimed, ?_⟩
  rcases state with ⟨none_read, lags⟩ | told
  · exact Or.inl ⟨none_read, fun live => kept _ (lags live)⟩
  · exact Or.inr told

/-- The connection at place `k` goes on lagging. -/
def LagsOn (k : Nat) (before : Connection Command) (s : System Command) : Prop :=
  ∃ c, s.connections[k]? = some c ∧ Lagging s.shared.commands before c

theorem Lagging.fate {commands : RingBuffer Command} {before c : Connection Command} {fate : Fate}
    (lagging : Lagging commands before c) (ended : fate ≠ .running) :
    Lagging commands before { c with fate := fate } := by
  obtain ⟨ctx, more, trace, unread, untimed, state⟩ := lagging
  refine ⟨ctx, more, trace, unread, untimed, ?_⟩
  rcases state with ⟨none_read, _⟩ | told
  · exact Or.inl ⟨none_read, fun live => absurd live ended⟩
  · exact Or.inr told

/-- One move of the connection that lags, against the ring that it moved in. -/
theorem Lagging.moves {shared : Shared Command} {before c c' : Connection Command}
    (lagging : Lagging shared.commands before c)
    (run : ConnectionRun config c.ctx c.trace c.task)
    (moves : Moves config shared (some c) (some c')) : Lagging shared.commands before c' := by
  cases moves with
  | stays => exact lagging
  | advances live fires hears => exact lagging.advance live run fires hears
  | returns live returned => exact lagging.fate nofun
  | cut live => exact lagging.fate nofun
  | reaped ripe => exact ⟨lagging.ctx, lagging.more⟩

/-- What was overwritten stays overwritten. -/
theorem lags_step (step : Step config retry faults s s') {next : Nat}
    (lags : s.shared.commands.Lags next) : s'.shared.commands.Lags next := by
  cases step with
  | server fires serves => cases serves <;> exact lags
  | caller here fires grants =>
    cases grants with
    | send command => exact lags_send command lags
    | _ => exact lags
  | _ => exact lags

theorem lagsOn_step {k : Nat} {before : Connection Command}
    (fanout : Fanout config (handOf s.trace) s) (lagsOn : LagsOn k before s)
    (step : Step config retry faults s s') : LagsOn k before s' := by
  obtain ⟨c, here, lagging⟩ := lagsOn
  have moves := moves_step step k
  rw [here] at moves
  obtain ⟨c', there⟩ := moves_some moves
  rw [there] at moves
  have moved := lagging.moves (fanout.links k c here).run moves
  exact ⟨c', there, moved.ring fun _ => lags_step step⟩

/-- A connection that lags goes on lagging in every later state. -/
theorem lagsOn_run (reached : Reachable config retry faults s) {k : Nat}
    {c : Connection Command} (here : s.connections[k]? = some c)
    (lags : s.shared.commands.Lags c.receiver.next)
    (run : Relation.ReflTransGen (Step config retry faults) s s') : LagsOn k c s' := by
  induction run with
  | refl => exact ⟨c, here, Lagging.refl lags⟩
  | tail before last ih => exact lagsOn_step (fanout_reachable (reached.tail before)) ih last

/-- A connection that lags is given no command that it has not read. -/
theorem LagsOn.received {k : Nat} {before : Connection Command} (lagsOn : LagsOn k before s)
    (reached : Reachable config retry faults s) :
    ∃ c more, s.connections[k]? = some c ∧ c.trace = before.trace ++ more ∧
      receivedCommands c.trace <+: readCommands before.trace ∧
      (⟨.select, .tick⟩ : ConnectionEvent Command) ∉ more ∧
      ((∀ received, (⟨.select, .command received⟩ : ConnectionEvent Command) ∉ more) ∨
        ∃ missed, causeOf c.trace = some (.lagged missed)) := by
  obtain ⟨c, here, _, more, trace, unread, untimed, state⟩ := lagsOn
  refine ⟨c, more, here, trace, ?_, untimed, ?_⟩
  · have run := ((fanout_reachable reached).links k c here).run
    have same : readCommands c.trace = readCommands before.trace := by
      rw [trace, readCommands, List.filterMap_append]
      change readCommands before.trace ++ readCommands more = _
      rw [unread, List.append_nil]
    exact same ▸ received_of_read run
  · rcases state with ⟨none_read, _⟩ | told
    · exact Or.inl none_read
    · exact Or.inr told

end System

/-- The calls of a connection that is let in and greeted without complaint. -/
def greeting (config : WsServerConfig) (ctx : WsServerConnectionContext) :
    List (ConnectionEvent Command) :=
  [⟨.handshake config.handshakeTimeout config.websocket, .completed⟩, ⟨.createEndpoint ctx, ()⟩,
    ⟨.firstTick config.endpointTickInterval, ()⟩, ⟨.onEvent (.connected ctx), .ok .none⟩]

theorem newest_served {config : WsServerConfig} {retry : WsServerRetryPolicy}
    {faults : ServerFaults} {s : System Command} {ctx : WsServerConnectionContext}
    {receiver : Receiver} (earlier : List (Connection Command))
    (newest : s.connections =
      earlier ++ [⟨ctx, receiver, .ret (.inl .accepted), [], .running, false⟩]) :
    Relation.ReflTransGen (Step config retry faults) s { s with
      connections := earlier ++
        [⟨ctx, receiver, .ret (.inl .serving), greeting config ctx, .running, false⟩] } := by
  obtain ⟨shared, dispatched, task, trace, connections, callers⟩ := s
  subst newest
  exact .head (step_newest rfl rfl (.head (.call _ _ _))
      (@Hears.other _ _ _ (.handshake _ _) nofun .completed)) <|
    .head (step_newest rfl rfl (.call _ _ _)
      (@Hears.other _ _ _ (.createEndpoint _) nofun ())) <|
    .head (step_newest rfl rfl (.call _ _ _) (@Hears.other _ _ _ (.firstTick _) nofun ())) <|
    .head (step_newest rfl rfl (.call _ _ _)
      (@Hears.other _ _ _ (.onEvent _) nofun (.ok .none))) .refl

/-- The state after these commands were dispatched, each by a caller of its own. -/
def afterDispatch (s : System Command) (commands : List Command)
    (callers : List (Caller Command)) : System Command :=
  { s with
    shared := { s.shared with
      commands := { s.shared.commands with log := s.shared.commands.log ++ commands } }
    dispatched := s.dispatched ++ commands
    callers := callers }

/-- While the server listens and has a receiver, anything may be dispatched. -/
theorem dispatch_all (config : WsServerConfig) (retry : WsServerRetryPolicy)
    (faults : ServerFaults) {s : System Command} (healthy : s.shared.terminal = none)
    (listening : s.shared.status = .listening) (subscribed : s.shared.commands.receivers = 1)
    (commands : List Command) :
    ∃ callers, Relation.ReflTransGen (Step config retry faults) s
      (afterDispatch s commands callers) := by
  obtain ⟨⟨⟨capacity, log, receivers⟩, statuses, shutdown, terminal, active, nextId⟩, dispatched,
    task, trace, connections, callers⟩ := s
  subst healthy subscribed
  induction commands using List.reverseRecOn with
  | nil =>
    refine ⟨callers, ?_⟩
    unfold afterDispatch
    rw [List.append_nil, List.append_nil]
  | append_singleton commands command ih =>
    obtain ⟨callers', before⟩ := ih
    unfold afterDispatch at before ⊢
    rw [← List.append_assoc, ← List.append_assoc]
    exact ⟨_, before.trans <| .head (.call _ (.dispatch command)) <|
      .head (step_last rfl (.head (.call _ _ _)) .readTerminal) <|
      .head (step_last rfl (.call _ _ _) (grants_status listening)) <|
      .head (step_last rfl (.call _ _ _) (.send command)) .refl⟩

/-- A server that listens, with one connection left that is served and has read everything. -/
structure Attends (s : System Command) (earlier : List (Connection Command))
    (c : Connection Command) : Prop where
  newest : s.connections = earlier ++ [c]
  serving : c.task = .ret (.inl .serving)
  live : c.fate = .running
  quiet : s.shared.shutdown = false
  healthy : s.shared.terminal = none
  listening : s.shared.status = .listening
  subscribed : s.shared.commands.receivers = 1
  current : c.receiver.next = s.shared.commands.log.length
  room : 0 < s.shared.commands.capacity

/-- The connection has been given `command` and has answered it with `frame`. -/
def toldOf (c : Connection Command) (command : Command) (frame : WsFrames.WsFrame) :
    Connection Command :=
  { c with
    receiver := { c.receiver with next := c.receiver.next + 1 }
    trace := c.trace ++ [⟨.select, .command (.ok command)⟩] ++
      [⟨.onEvent (.command command), .ok (.send frame)⟩] ++ [⟨.send frame, .ok ()⟩] }

section Telling
variable {config : WsServerConfig} {retry : WsServerRetryPolicy} {faults : ServerFaults}
variable {s : System Command} {earlier : List (Connection Command)} {c : Connection Command}

/-- A command is dispatched, read, handed over and answered. -/
theorem Attends.told (attends : Attends s earlier c) (command : Command)
    (frame : WsFrames.WsFrame) :
    ∃ callers, Relation.ReflTransGen (Step config retry faults) s
        { afterDispatch s [command] callers with
          connections := earlier ++ [toldOf c command frame] } ∧
      Attends { afterDispatch s [command] callers with
        connections := earlier ++ [toldOf c command frame] } earlier (toldOf c command frame) := by
  obtain ⟨callers, sent⟩ := dispatch_all config retry faults attends.healthy attends.listening
    attends.subscribed [command]
  refine ⟨callers, sent.trans ?_, ?_⟩
  · obtain ⟨newest, serving, live, quiet, healthy, listening, subscribed, current, room⟩ := attends
    obtain ⟨⟨⟨capacity, log, receivers⟩, statuses, shutdown, terminal, active, nextId⟩, dispatched,
      task, trace, connections, _⟩ := s
    obtain ⟨ctx, ⟨next, since⟩, task', trace', fate, joined⟩ := c
    subst newest serving live quiet
    obtain rfl : next = log.length := current
    have got : RingBuffer.recv ⟨capacity, log ++ [command], receivers⟩ log.length =
        some (.ok command, log.length + 1) := by
      refine recv_retained ?_ List.getElem?_concat_length
      simpa using Nat.succ_le_of_lt room
    exact .head (step_newest rfl rfl (.head (.call _ _ _)) (.command rfl got)) <|
      .head (step_newest rfl rfl (.call _ _ _)
        (@Hears.other _ _ _ (.onEvent _) nofun (.ok (.send frame)))) <|
      .head (step_newest rfl rfl (.call _ _ _)
        (@Hears.other _ _ _ (.send _) nofun (.ok ()))) .refl
  · refine ⟨rfl, attends.serving, attends.live, attends.quiet, attends.healthy, attends.listening,
      attends.subscribed, ?_, attends.room⟩
    change c.receiver.next + 1 = (s.shared.commands.log ++ [command]).length
    rw [attends.current, List.length_append]
    rfl

end Telling

/-- The first client of `solo`, let in and greeted. -/
def greetedClient : Connection Nat :=
  ⟨⟨0, .v4 1 5000, .v4 0 80⟩, ⟨0, 0⟩, .ret (.inl .serving),
    greeting solo ⟨0, .v4 1 5000, .v4 0 80⟩, .running, false⟩

/-- The client is being served. -/
def soloServed (events : List ServerEvent) : System Nat :=
  { oneClient solo .default (.v4 1 5000) events with connections := [greetedClient] }

theorem soloServed_reached :
    ∃ events, Relation.ReflTransGen (Step solo .default ⟨none⟩) (start solo .default)
      (soloServed events) := by
  have room : 0 < solo.maxConnections := by decide
  obtain ⟨events, opened⟩ := oneClient_reached .default (.v4 1 5000) room
  exact ⟨events, opened.trans (newest_served [] rfl)⟩

theorem soloServed_attends (events : List ServerEvent) :
    Attends (soloServed events) [] greetedClient :=
  ⟨rfl, rfl, rfl, rfl, rfl, rfl, rfl, rfl, Nat.two_pow_pos _⟩

/-- The client is told two commands, each before the next is dispatched. -/
theorem two_told (frame : Nat → WsFrames.WsFrame) :
    ∃ s : System Nat, Reachable solo .default ⟨none⟩ s ∧ s.dispatched = [7, 8] ∧
      Attends s [] (toldOf (toldOf greetedClient 7 (frame 7)) 8 (frame 8)) := by
  obtain ⟨events, served⟩ := soloServed_reached
  obtain ⟨_, first, attends⟩ := (soloServed_attends events).told 7 (frame 7)
  obtain ⟨_, second, attends⟩ := attends.told 8 (frame 8)
  exact ⟨_, ⟨_, rfl, served.trans (first.trans second)⟩, rfl, attends⟩

end CommandFanout
