import Mathlib.Data.List.Perm.Basic
import SharedWs.CommandFanout
import SharedWs.DispatchFate

/-!
# Who a dispatched command is queued for

Any number of calls of `dispatch` run side by side with the server, its connections and the
admission of new ones. The calls that sent their command are exactly accounted for by the history
of dispatches, and the number that a call returns is the number of connections that were there
when it sent: those running, and the one that was being admitted. For each of them the command has
its fixed place in the stream of commands that the connection receives.
-/
namespace DispatchAudience

open InteractionPrograms InteractionMonitors InteractionMonitors.Monitor BroadcastRing
open ServerHandle ServerLifecycle ServerSystem ServerTask ServerTypes
open ConnectionTask ConnectionBudget CommandFanout DispatchFate

variable {Command : Type}

def sendOf : HandleEvent Command → Option (Command × Except Unit Nat)
  | ⟨.send command, answer⟩ => some (command, answer)
  | _ => none

/-- The commands that a call has sent, with the answers of the channel. -/
def sends (t : List (HandleEvent Command)) : List (Command × Except Unit Nat) := t.filterMap sendOf

theorem sends_snoc (t : List (HandleEvent Command)) (e : HandleEvent Command) :
    sends (t ++ [e]) = sends t ++ (sendOf e).toList := filterMap_snoc sendOf t e

/-- What a dispatch reports of the answer. -/
def count : Except Unit Nat → Nat
  | .ok delivered => delivered
  | .error () => 0

/-- What a dispatch has sent when it reports its result. -/
def Sent (command : Command) (t : List (HandleEvent Command)) :
    Except ManagedWsServerDispatchError Nat → Prop
  | .ok delivered => ∃ answer, sends t = [(command, answer)] ∧ delivered = count answer
  | .error _ => sends t = []

section Calls
variable {command : Command} {t : List (HandleEvent Command)}

theorem send_sent (unsent : sends t = []) :
    (waiting Command).wp (fun result t' => Sent command t' result) (do
      match ← access (.send command) with
      | .ok delivered => pure (.ok delivered)
      | .error () => pure (.ok 0)) t := by
  apply wp_access (.send command)
  intro sent _
  have once : sends (t ++ [⟨.send command, sent⟩]) = [(command, sent)] := by
    rw [sends_snoc, unsent]
    rfl
  cases sent with
  | ok delivered => exact ⟨_, once, rfl⟩
  | error nobody => exact ⟨_, once, rfl⟩

theorem unsent_snoc (unsent : sends t = []) {e : HandleEvent Command} (other : sendOf e = none) :
    sends (t ++ [e]) = [] := by
  rw [sends_snoc, unsent, other]
  rfl

theorem dispatch_sent (unsent : sends t = []) :
    (waiting Command).wp (fun result t' => Sent command t' result) (dispatch command) t := by
  apply wp_access .readTerminal
  intro (stored : Option ManagedWsServerTerminalError) _
  have read := unsent_snoc unsent (e := ⟨.readTerminal, stored⟩) rfl
  cases stored with
  | some cause => exact read
  | none =>
    apply wp_access .statusSnapshot
    intro (status : ManagedWsServerStatus) _
    have looked := unsent_snoc read (e := ⟨.statusSnapshot, status⟩) rfl
    cases status with
    | shuttingDown => exact looked
    | stopped => exact looked
    | starting => exact send_sent looked
    | retrying => exact send_sent looked
    | listening => exact send_sent looked
    | terminal =>
      apply wp_access .readTerminal
      intro (again : Option ManagedWsServerTerminalError) _
      have reread := unsent_snoc looked (e := ⟨.readTerminal, again⟩) rfl
      cases again with
      | some cause => exact reread
      | none => exact reread

theorem dispatched_sent {result : Except ManagedWsServerDispatchError Nat}
    (run : Reaches runCall (.ret (.inl (.dispatch command))) t (.ret (.inr (.dispatched result))))
    (stays : ∀ e ∈ t, ∀ timeout, e ≠ ⟨.changed timeout, .closed⟩) : Sent command t result := by
  have relied : (waiting Command).Along (waiting Command).rely [] t := by
    apply (history_along _ _).mpr
    rintro before e after rfl
    exact stays e (List.mem_append_right before List.mem_cons_self)
  have turns : ∀ (call : HandleCall Command) (t : List (HandleEvent Command)),
      call = .dispatch command ∧ t = [] → (waiting Command).wp
        (Owes (fun call t => call = .dispatch command ∧ t = []) fun result t =>
          ∀ found, result = .dispatched found → Sent command t found) (runCall call) t := by
    rintro _ _ ⟨rfl, rfl⟩
    apply (wp_bind _).mpr
    apply wp_mono _ _ (dispatch_sent rfl)
    rintro result t' sent _ ⟨⟩
    exact sent
  obtain ⟨_, owed⟩ := reaches_wp _ turns run (⟨rfl, rfl⟩ : _ ∧ _) relied
  rw [waiting, history_run] at owed
  exact owed result rfl

end Calls

/-- All commands that the calls have sent, call by call. -/
def sentBy (callers : List (Caller Command)) : List Command :=
  callers.flatMap fun caller => (sends caller.trace).map Prod.fst

theorem flatMap_set_perm {α β : Type} {l : List α} {k : Nat} {a b : α} (f : α → List β)
    (here : l[k]? = some a) {more : List β} (grown : f b = f a ++ more) :
    List.Perm ((l.set k b).flatMap f) (l.flatMap f ++ more) := by
  induction l generalizing k with
  | nil => cases here
  | cons x l ih =>
    cases k with
    | zero =>
      obtain rfl : x = a := Option.some.inj here
      rw [List.set_cons_zero, List.flatMap_cons, List.flatMap_cons, grown, List.append_assoc,
        List.append_assoc]
      exact List.perm_append_comm.append_left (f x)
    | succ k =>
      rw [List.set_cons_succ, List.flatMap_cons, List.flatMap_cons, List.append_assoc]
      exact (ih here).append_left (f x)

section System
variable {config : WsServerConfig} {retry : WsServerRetryPolicy} {faults : ServerFaults}
variable {s s' : System Command}

theorem sent_step (sent : List.Perm (sentBy s.callers) s.dispatched)
    (step : Step config retry faults s s') : List.Perm (sentBy s'.callers) s'.dispatched := by
  cases step with
  | server fires serves => cases serves <;> exact sent
  | call call =>
    change List.Perm (sentBy (s.callers ++ [_])) s.dispatched
    simpa [sentBy, sends] using sent
  | @caller _ k caller e task seen here fires grants =>
    have grown : (sends (caller.trace ++ [e])).map Prod.fst =
        (sends caller.trace).map Prod.fst ++ (sendOf e).toList.map Prod.fst := by
      rw [sends_snoc, List.map_append]
    have more := flatMap_set_perm (b := caller.advance e task seen)
      (fun caller => (sends caller.trace).map Prod.fst) here grown
    refine more.trans ?_
    cases grants with
    | send command => exact sent.append_right [command]
    | _ => exact (sent.append_right []).trans (by simp)
  | _ => exact sent

theorem sent_reachable (reached : Reachable config retry faults s) :
    List.Perm (sentBy s.callers) s.dispatched :=
  reached.invariant (fun s => List.Perm (sentBy s.callers) s.dispatched) .nil
    fun _ _ => sent_step

/-- The connections that follow the commands: those running, and the one that is being admitted. -/
def audience (s : System Command) : Nat :=
  running s.connections + (handOf s.trace).receiver.isSome.toNat

theorem dispatched_step (step : Step config retry faults s s') :
    s.dispatched <+: s'.dispatched := by
  cases step with
  | server fires serves => cases serves <;> exact List.prefix_refl _
  | caller here fires grants =>
    cases grants with
    | send command => exact List.prefix_append _ _
    | _ => exact List.prefix_refl _
  | _ => exact List.prefix_refl _

theorem since_moves {shared : Shared Command} {c c' : Connection Command}
    (moves : Moves config shared (some c) (some c')) :
    c'.receiver.since = c.receiver.since := by
  cases moves with
  | advances running fires hears => cases hears <;> rfl
  | _ => rfl

/-- A connection keeps its place, and where it started. -/
theorem since_run (run : Relation.ReflTransGen (Step config retry faults) s s') {k : Nat}
    {c : Connection Command} (here : s.connections[k]? = some c) :
    ∃ c', s'.connections[k]? = some c' ∧ c'.receiver.since = c.receiver.since := by
  induction run with
  | refl => exact ⟨c, here, rfl⟩
  | tail _ last ih =>
    obtain ⟨c', there, same⟩ := ih
    have moves := moves_step last k
    rw [there] at moves
    obtain ⟨c'', next⟩ := moves_some moves
    rw [next] at moves
    exact ⟨c'', next, (since_moves moves).trans same⟩

/-- In this step the call at place `k` sends its command, and the channel answers it. -/
structure SendStep (config : WsServerConfig) (retry : WsServerRetryPolicy) (faults : ServerFaults)
    (k : Nat) (command : Command) (answer : Except Unit Nat) (past next : System Command) :
    Prop where
  step : Step config retry faults past next
  asking : ∃ caller task seen, past.callers[k]? = some caller ∧
    next.callers[k]? = some (caller.advance ⟨.send command, answer⟩ task seen)
  dispatched : next.dispatched = past.dispatched ++ [command]

/-- On the way to `s` the call at place `k` has sent the command, to the audience of that moment. -/
def Queued (config : WsServerConfig) (retry : WsServerRetryPolicy) (faults : ServerFaults)
    (s : System Command) (k : Nat) (command : Command) (answer : Except Unit Nat) : Prop :=
  ∃ past next, Reachable config retry faults past ∧
    SendStep config retry faults k command answer past next ∧
    Relation.ReflTransGen (Step config retry faults) next s ∧ count answer = audience past

theorem Queued.step {k : Nat} {command : Command} {answer : Except Unit Nat}
    (queued : Queued config retry faults s k command answer)
    (step : Step config retry faults s s') : Queued config retry faults s' k command answer := by
  obtain ⟨past, next, reached, sends, run, counted⟩ := queued
  exact ⟨past, next, reached, sends, run.tail step, counted⟩

theorem count_send (reached : Reachable config retry faults s) (command : Command) :
    count (s.shared.commands.send command).1 = audience s := by
  have receivers := (fanout_reachable reached).receivers
  rw [audience, ← receivers]
  unfold RingBuffer.send
  split
  · rename_i none
    exact none.symm
  · rfl

/-- Every command that a call has sent was queued for the audience of that moment. -/
def Accounted (config : WsServerConfig) (retry : WsServerRetryPolicy) (faults : ServerFaults)
    (s : System Command) : Prop :=
  ∀ (k : Nat) (caller : Caller Command), s.callers[k]? = some caller → ∀ command answer,
    (command, answer) ∈ sends caller.trace → Queued config retry faults s k command answer

theorem accounted_step (reached : Reachable config retry faults s)
    (accounted : Accounted config retry faults s) (step : Step config retry faults s s') :
    Accounted config retry faults s' := by
  have kept : ∀ (k : Nat) (caller : Caller Command), s.callers[k]? = some caller →
      ∀ command answer, (command, answer) ∈ sends caller.trace →
        Queued config retry faults s' k command answer :=
    fun k caller here command answer sent => (accounted k caller here command answer sent).step step
  cases step with
  | call call =>
    intro k caller here command answer sent
    change (s.callers ++ [_])[k]? = some caller at here
    rcases Nat.lt_or_ge k s.callers.length with early | late
    · rw [List.getElem?_append_left early] at here
      exact kept k caller here command answer sent
    · rw [List.getElem?_append_right late] at here
      rw [List.mem_singleton.mp (List.mem_of_getElem? here)] at sent
      cases sent
  | server fires serves => cases serves <;> exact kept
  | connection => exact kept
  | finish => exact kept
  | cut => exact kept
  | requestShutdown => exact kept
  | @caller _ j asking e task seen there fires grants =>
    intro k caller here command answer sent
    have inside := (List.getElem?_eq_some_iff.mp there).1
    by_cases same : j = k
    · subst same
      have moved : caller = asking.advance e task seen := by
        have now := here
        rw [show _ = some _ from List.getElem?_set_self inside] at now
        exact (Option.some.inj now).symm
      have split : (command, answer) ∈ sends asking.trace ++ (sendOf e).toList := by
        rw [← sends_snoc]
        rw [moved] at sent
        exact sent
      rcases List.mem_append.mp split with early | now
      · exact kept j asking there command answer early
      have step : Step config retry faults s _ := .caller there fires grants
      cases grants with
      | send command =>
        obtain ⟨rfl, rfl⟩ := Prod.mk.inj (List.mem_singleton.mp now)
        refine ⟨s, _, reached, ⟨step, ⟨asking, task, asking.seen, there, ?_⟩, rfl⟩, .refl,
          count_send reached _⟩
        exact List.getElem?_set_self inside
      | _ => cases now
    · have before : s.callers[k]? = some caller := by
        rw [← List.getElem?_set_ne same]
        exact here
      exact kept k caller before command answer sent

theorem accounted_reachable (reached : Reachable config retry faults s) :
    Accounted config retry faults s := by
  have both : Reachable config retry faults s ∧ Accounted config retry faults s := by
    obtain ⟨first, spawned, run⟩ := reached
    induction run with
    | refl =>
      refine ⟨⟨first, spawned, .refl⟩, ?_⟩
      rw [spawned_start spawned]
      exact fun k caller here => nomatch here
    | tail _ last ih => exact ⟨ih.1.tail (.single last), accounted_step ih.1 ih.2 last⟩
  exact both.2

/-- What the audience of `past` makes of a command sent there, as the later state `s` shows. -/
structure Addressed (past s : System Command) (command : Command) : Prop where
  placed : s.dispatched[past.dispatched.length]? = some command
  received : ∀ (k : Nat) (c : Connection Command), past.connections[k]? = some c →
    c.fate = .running → ∃ c' : Connection Command, s.connections[k]? = some c' ∧
      c.receiver.since ≤ past.dispatched.length ∧
      ∀ got, (receivedCommands c'.trace)[past.dispatched.length - c.receiver.since]? = some got →
        got = command

theorem addressed_of_placed {past : System Command} {command : Command}
    (reached : Reachable config retry faults past)
    (run : Relation.ReflTransGen (Step config retry faults) past s)
    (placed : s.dispatched[past.dispatched.length]? = some command) :
    Addressed past s command := by
  refine ⟨placed, fun k c here _ => ?_⟩
  obtain ⟨c', there, same⟩ := since_run run here
  have since := ((fanout_reachable reached).links k c here).since
  refine ⟨c', there, since, fun got found => ?_⟩
  have linked := (fanout_reachable (reached.tail run)).links k c' there
  obtain ⟨rest, whole⟩ := (received_of_read linked.run).trans linked.segment
  have shown : (s.dispatched.drop c'.receiver.since)[past.dispatched.length - c.receiver.since]? =
      some got := by
    rw [← whole, List.getElem?_append_left (List.getElem?_eq_some_iff.mp found).1]
    exact found
  rw [List.getElem?_drop, same, Nat.add_sub_cancel' since, placed] at shown
  exact (Option.some.inj shown).symm

theorem dispatched_run (run : Relation.ReflTransGen (Step config retry faults) s s') :
    s.dispatched <+: s'.dispatched := by
  induction run with
  | refl => exact List.prefix_refl _
  | tail _ last ih => exact ih.trans (dispatched_step last)

theorem SendStep.placed {k : Nat} {command : Command} {answer : Except Unit Nat}
    {past next : System Command} (sends : SendStep config retry faults k command answer past next)
    (run : Relation.ReflTransGen (Step config retry faults) next s) :
    s.dispatched[past.dispatched.length]? = some command := by
  obtain ⟨more, same⟩ := dispatched_run run
  rw [← same, sends.dispatched, List.append_assoc, List.getElem?_append_right (Nat.le_refl _),
    Nat.sub_self]
  rfl

/-- What the result of a dispatch of `command` by the call at place `k` says. The send of that very
call is the step from `past` to `next`. -/
def Answered (config : WsServerConfig) (retry : WsServerRetryPolicy) (faults : ServerFaults)
    (s : System Command) (k : Nat) (caller : Caller Command) (command : Command) :
    Except ManagedWsServerDispatchError Nat → Prop
  | .ok delivered => ∃ answer past next, sends caller.trace = [(command, answer)] ∧
      Reachable config retry faults past ∧
      SendStep config retry faults k command answer past next ∧
      Relation.ReflTransGen (Step config retry faults) next s ∧
      delivered = count answer ∧ delivered = audience past ∧ Addressed past s command
  | .error _ => sends caller.trace = []

/-- For every interleaving of any number of dispatches with the server and its connections. -/
theorem dispatches_addressed (reached : Reachable config retry faults s) :
    List.Perm (sentBy s.callers) s.dispatched ∧
      ∀ (k : Nat) (caller : Caller Command), s.callers[k]? = some caller →
        ∀ command, caller.call = .dispatch command →
          ∀ result, caller.task = .ret (.inr (.dispatched result)) →
            Answered config retry faults s k caller command result := by
  refine ⟨sent_reachable reached, fun k caller here command called result ended => ?_⟩
  obtain ⟨run, stays, _⟩ := informed_reachable reached caller (List.mem_of_getElem? here)
  rw [called, ended] at run
  have sent := dispatched_sent run stays
  cases result with
  | error error => exact sent
  | ok delivered =>
    obtain ⟨answer, once, counted⟩ := sent
    obtain ⟨past, next, before, sends, later, audience⟩ := accounted_reachable reached k caller here
      command answer (once ▸ List.mem_singleton_self _)
    have whole := Relation.ReflTransGen.head sends.step later
    exact ⟨answer, past, next, once, before, sends, later, counted, counted.trans audience,
      addressed_of_placed before whole (sends.placed later)⟩

end System

/-- One client is served while two calls run side by side; the second one sends first. -/
theorem two_dispatches_addressed :
    ∃ (s : System Nat) (first second : Caller Nat), s.dispatched = [8, 7] ∧
      s.callers = [first, second] ∧
      Answered solo .default ⟨none⟩ s 0 first 7 (.ok 1) ∧
      Answered solo .default ⟨none⟩ s 1 second 8 (.ok 1) := by
  have run : ∃ (s : System Nat) (first second : Caller Nat),
      Relation.ReflTransGen (Step solo .default ⟨none⟩) (start solo .default) s ∧
      s.dispatched = [8, 7] ∧ s.callers = [first, second] ∧ first.call = .dispatch 7 ∧
      second.call = .dispatch 8 ∧ first.task = .ret (.inr (.dispatched (.ok 1))) ∧
      second.task = .ret (.inr (.dispatched (.ok 1))) := by
    have room : 0 < solo.maxConnections := by decide
    obtain ⟨trace, opened⟩ := oneClient_reached .default (.v4 1 5000) room
    have served := opened.trans (newest_served [] rfl)
    exact ⟨_, _, _, served.trans <|
      .head (.call _ (.dispatch 7)) <|
      .head (.call _ (.dispatch 8)) <|
      .head (.caller (k := 1) rfl (.head (.call _ _ _)) .readTerminal) <|
      .head (.caller (k := 0) rfl (.head (.call _ _ _)) .readTerminal) <|
      .head (.caller (k := 1) rfl (.call _ _ _) .statusSnapshot) <|
      .head (.caller (k := 1) rfl (.call _ _ _) (.send 8)) <|
      .head (.caller (k := 0) rfl (.call _ _ _) .statusSnapshot) <|
      .head (.caller (k := 0) rfl (.call _ _ _) (.send 7)) .refl,
      rfl, rfl, rfl, rfl, rfl, rfl⟩
  obtain ⟨s, first, second, run, dispatched, callers, calls, calls', ends, ends'⟩ := run
  have answered := (dispatches_addressed (⟨_, rfl, run⟩ : Reachable solo .default ⟨none⟩ s)).2
  have here : s.callers[0]? = some first := congrArg (·[0]?) callers
  have there : s.callers[1]? = some second := congrArg (·[1]?) callers
  exact ⟨s, first, second, dispatched, callers, answered 0 first here 7 calls (.ok 1) ends,
    answered 1 second there 8 calls' (.ok 1) ends'⟩

end DispatchAudience
