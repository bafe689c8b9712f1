import SharedWs.ServerLifecycle

/-!
# What `dispatch` reports about the server

A dispatch reads the terminal cell, then the status, in one branch the cell
again, and then sends, while the server task goes on writing both. The cell is
written before `Terminal` is published and is never emptied, and an exit through
shutdown never writes it: so whatever lies between two reads, the report is true
when the call returns and stays true.
-/
namespace DispatchFate

open InteractionPrograms InteractionMonitors InteractionMonitors.Monitor
open ServerHandle ServerLifecycle ServerSystem ServerTask ServerTypes

section Reads
variable {Command : Type}

def ReadCause (cause : ManagedWsServerTerminalError) (t : List (HandleEvent Command)) : Prop :=
  (⟨.readTerminal, some cause⟩ : HandleEvent Command) ∈ t

def ReadStatus (status : ManagedWsServerStatus) (t : List (HandleEvent Command)) : Prop :=
  (⟨.statusSnapshot, status⟩ : HandleEvent Command) ∈ t

/-- The status was read as `Terminal`, and the cell empty after that. -/
def Unexplained (t : List (HandleEvent Command)) : Prop :=
  ∃ before after, t = before ++ (⟨.readTerminal, none⟩ : HandleEvent Command) :: after ∧
    ReadStatus .terminal before

/-- What a dispatch has read when it reports its result. -/
def Grounds (t : List (HandleEvent Command)) : Except ManagedWsServerDispatchError Nat → Prop
  | .error (.terminated cause) => ReadCause cause t
  | .error .stopped => ReadStatus .shuttingDown t ∨ ReadStatus .stopped t ∨ Unexplained t
  | .ok _ => ReadStatus .starting t ∨ ReadStatus .retrying t ∨ ReadStatus .listening t

theorem ReadStatus.snoc {status : ManagedWsServerStatus} {t : List (HandleEvent Command)}
    (read : ReadStatus status t) (e : HandleEvent Command) : ReadStatus status (t ++ [e]) :=
  List.mem_append_left [e] read

theorem send_grounds {command : Command} {t : List (HandleEvent Command)}
    (accepting : ReadStatus .starting t ∨ ReadStatus .retrying t ∨ ReadStatus .listening t) :
    (waiting Command).wp (fun result t' => Grounds t' result) (do
      match ← access (.send command) with
      | .ok delivered => pure (.ok delivered)
      | .error () => pure (.ok 0)) t := by
  apply wp_access (.send command)
  intro sent _
  have still := accepting.imp (·.snoc ⟨.send command, sent⟩)
    (Or.imp (·.snoc ⟨.send command, sent⟩) (·.snoc ⟨.send command, sent⟩))
  cases sent with
  | ok delivered => exact still
  | error nobody => exact still

theorem dispatch_grounds (command : Command) (t : List (HandleEvent Command)) :
    (waiting Command).wp (fun result t' => Grounds t' result) (dispatch command) t := by
  apply wp_access .readTerminal
  intro (stored : Option ManagedWsServerTerminalError) _
  cases stored with
  | some cause => exact List.mem_append_right t List.mem_cons_self
  | none =>
    apply wp_access .statusSnapshot
    intro (status : ManagedWsServerStatus) _
    have read : ReadStatus status (t ++ [(⟨.readTerminal, none⟩ : HandleEvent Command)] ++
        [⟨.statusSnapshot, status⟩]) :=
      List.mem_append_right _ List.mem_cons_self
    cases status with
    | shuttingDown => exact Or.inl read
    | stopped => exact Or.inr (Or.inl read)
    | starting => exact send_grounds (Or.inl read)
    | retrying => exact send_grounds (Or.inr (Or.inl read))
    | listening => exact send_grounds (Or.inr (Or.inr read))
    | terminal =>
      apply wp_access .readTerminal
      intro (again : Option ManagedWsServerTerminalError) _
      cases again with
      | some cause => exact List.mem_append_right _ List.mem_cons_self
      | none => exact Or.inr (Or.inr ⟨_, [], rfl, read⟩)

/-- A dispatch has no loop: it is at its start or has its result. -/
def Dispatches (command : Command) (call : HandleCall Command)
    (_ : List (HandleEvent Command)) : Prop :=
  call = .dispatch command

theorem dispatch_turns (command : Command) (call : HandleCall Command)
    (t : List (HandleEvent Command)) (dispatches : Dispatches command call t) :
    (waiting Command).wp (Owes (Dispatches command) fun result t =>
      ∀ found, result = .dispatched found → Grounds t found) (runCall call) t := by
  cases dispatches
  apply (wp_bind _).mpr
  apply wp_mono _ _ (dispatch_grounds command t)
  rintro result t' grounds _ ⟨⟩
  exact grounds

theorem dispatched_grounds {command : Command} {t : List (HandleEvent Command)}
    {result : Except ManagedWsServerDispatchError Nat}
    (run : Reaches runCall (.ret (.inl (.dispatch command))) t (.ret (.inr (.dispatched result))))
    (stays : ∀ e ∈ t, ∀ timeout, e ≠ ⟨.changed timeout, .closed⟩) : Grounds t result := by
  have relied : (waiting Command).Along (waiting Command).rely [] t := by
    apply (history_along _ _).mpr
    rintro before e after rfl
    exact stays e (List.mem_append_right before List.mem_cons_self)
  obtain ⟨_, owed⟩ := reaches_wp _ (dispatch_turns command) run
    (rfl : Dispatches command (.dispatch command) []) relied
  rw [waiting, history_run] at owed
  exact owed result rfl

end Reads

section System
variable {Command : Type} {config : WsServerConfig} {retry : WsServerRetryPolicy}
variable {faults : ServerFaults} {s s' : System Command}

theorem leaving_of_mem (lives : Lives s) {status : ManagedWsServerStatus}
    (listed : status ∈ s.shared.statuses)
    (normal : status = .shuttingDown ∨ status = .stopped) :
    Leaving (lifeOf s.trace) ∨ Stopped (lifeOf s.trace) := by
  rw [lives.agrees.statuses] at listed
  have late : status ∈ (lifeOf s.trace).published := by
    rcases List.mem_cons.mp listed with rfl | late
    · rcases normal with wrong | wrong <;> cases wrong
    · exact late
  have unmixed : ∀ {mix}, Mixed mix → status ∉ mix := by
    intro mix mixed early
    rcases normal with rfl | rfl <;> rcases mixed _ early with wrong | wrong <;> cases wrong
  rcases lives.onPath with mixed | leaving | stopped | ⟨⟨mix, mixed, path⟩, _⟩
  · exact absurd late (unmixed mixed)
  · exact Or.inl leaving
  · exact Or.inr stopped
  · rw [path] at late
    rcases List.mem_append.mp late with early | last
    · exact absurd early (unmixed mixed)
    · rw [List.mem_singleton.mp last] at normal
      rcases normal with wrong | wrong <;> cases wrong

/-- The server is ending as it was asked to. -/
structure Ending (shared : Shared Command) : Prop where
  requested : shared.shutdown = true
  status : shared.status = .shuttingDown ∨ shared.status = .stopped
  clear : shared.terminal = none

theorem ending_of_leaving (lives : Lives s)
    (leaving : Leaving (lifeOf s.trace) ∨ Stopped (lifeOf s.trace)) : Ending s.shared := by
  obtain ⟨statuses, terminal, shutdown⟩ := lives.agrees
  rcases leaving with ⟨⟨mix, _, path⟩, clear, requested⟩ | ⟨⟨mix, _, path⟩, clear, requested⟩
  · refine ⟨shutdown requested, Or.inl ?_, terminal.trans clear⟩
    apply status_of_snoc (.starting :: mix)
    rw [statuses, path]
    rfl
  · refine ⟨shutdown requested, Or.inr ?_, terminal.trans clear⟩
    apply status_of_snoc (.starting :: mix ++ [.shuttingDown])
    rw [statuses, path]
    simp

theorem run_statuses (run : Relation.ReflTransGen (Step config retry faults) s s') :
    s.shared.statuses <+: s'.shared.statuses := by
  induction run with
  | refl => exact List.prefix_refl _
  | tail _ last ih => exact ih.trans (step_statuses last)

theorem run_ending {status : ManagedWsServerStatus} (reached : Reachable config retry faults s)
    (listed : status ∈ s.shared.statuses) (normal : status = .shuttingDown ∨ status = .stopped)
    (run : Relation.ReflTransGen (Step config retry faults) s s') : Ending s'.shared := by
  have lives := lives_reachable (reached.tail run)
  exact ending_of_leaving lives (leaving_of_mem lives ((run_statuses run).subset listed) normal)

/-- A server whose status is `Terminal` has stored the cause before. -/
theorem full_of_terminal (lives : Lives s) (status : s.shared.status = .terminal) :
    ∃ cause, s.shared.terminal = some cause := by
  have listed : .terminal ∈ s.shared.statuses := status ▸ status_mem lives
  rcases ended_of_final_mem lives listed rfl with stopped | ⟨_, cause, full⟩
  · have normal := (ending_of_leaving lives (Or.inr stopped)).status
    rw [status] at normal
    rcases normal with wrong | wrong <;> cases wrong
  · exact ⟨cause, lives.agrees.terminal.trans full⟩

/-- What a caller has read is still so, and a `Terminal` it has read has its
cause in the cell. -/
structure Aware (shared : Shared Command) (caller : Caller Command) : Prop where
  cause : ∀ cause, ReadCause cause caller.trace → shared.terminal = some cause
  status : ∀ status, ReadStatus status caller.trace → status ∈ shared.statuses
  terminal : ReadStatus .terminal caller.trace → ∃ cause, shared.terminal = some cause
  explained : ¬ Unexplained caller.trace

theorem aware_fresh (shared : Shared Command) (call : HandleCall Command) (seen : Nat) :
    Aware shared ⟨call, seen, .ret (.inl call), []⟩ where
  cause := fun _ wrong => absurd wrong List.not_mem_nil
  status := fun _ wrong => absurd wrong List.not_mem_nil
  terminal := fun wrong => absurd wrong List.not_mem_nil
  explained := by
    rintro ⟨before, after, wrong, _⟩
    cases before <;> cases wrong

theorem Aware.grow {caller : Caller Command} (step : Step config retry faults s s')
    (aware : Aware s.shared caller) : Aware s'.shared caller where
  cause := fun cause read => step_terminal step (aware.cause cause read)
  status := fun status read => (step_statuses step).subset (aware.status status read)
  terminal := fun read =>
    (aware.terminal read).imp fun _ full => step_terminal step full
  explained := aware.explained

/-- A read that makes the trace unexplained is the last one. -/
theorem unexplained_snoc {t : List (HandleEvent Command)} {e : HandleEvent Command}
    (bad : Unexplained (t ++ [e])) :
    Unexplained t ∨ e = ⟨.readTerminal, none⟩ ∧ ReadStatus .terminal t := by
  obtain ⟨before, after, cut, read⟩ := bad
  rcases List.eq_nil_or_concat after with rfl | ⟨early, last, rfl⟩
  · obtain ⟨rfl, same⟩ := List.append_inj' cut rfl
    cases same
    exact Or.inr ⟨rfl, read⟩
  · left
    rw [List.concat_eq_append, ← List.cons_append, ← List.append_assoc] at cut
    exact ⟨before, early, (List.append_inj' cut rfl).1, read⟩

theorem Aware.access (lives : Lives s) {caller : Caller Command} {e : HandleEvent Command}
    {task : HandleStep Command (HandleCall Command ⊕ HandleResult)} {seen : Nat}
    (aware : Aware s.shared caller) (grants : Grants s caller.seen e seen s') :
    Aware s.shared (caller.advance e task seen) := by
  constructor
  · intro cause read
    rcases List.mem_append.mp read with early | late
    · exact aware.cause cause early
    · have same := List.mem_singleton.mp late
      subst same
      generalize some cause = stored at grants ⊢
      cases grants
      rfl
  · intro status read
    rcases List.mem_append.mp read with early | late
    · exact aware.status status early
    · have same := List.mem_singleton.mp late
      subst same
      cases grants
      exact status_mem lives
  · intro read
    rcases List.mem_append.mp read with early | late
    · exact aware.terminal early
    · have same := List.mem_singleton.mp late
      subst same
      generalize answer : ManagedWsServerStatus.terminal = status at grants
      cases grants
      exact full_of_terminal lives answer.symm
  · intro bad
    rcases unexplained_snoc bad with early | ⟨rfl, read⟩
    · exact aware.explained early
    · obtain ⟨cause, full⟩ := aware.terminal read
      generalize answer : none = stored at grants
      cases grants
      rw [full] at answer
      cases answer

theorem aware_reachable (reached : Reachable config retry faults s) :
    ∀ caller ∈ s.callers, Aware s.shared caller := by
  have both : Lives s ∧ ∀ caller ∈ s.callers, Aware s.shared caller := by
    refine reached.invariant (fun s => Lives s ∧ ∀ caller ∈ s.callers, Aware s.shared caller)
      ⟨lives_start, fun _ wrong => absurd wrong List.not_mem_nil⟩ ?_
    rintro s s' ⟨lives, aware⟩ step
    refine ⟨lives_step lives step, callers_step (aware_fresh _) ?_ ?_ step aware⟩
    · intro caller known
      exact known.grow step
    · intro caller e task seen s'' known _ grants
      exact known.access lives grants
  exact both.2

/-- What the result of a dispatch says about the server in state `s`, now and
from now on. -/
structure DispatchTruthful (config : WsServerConfig) (retry : WsServerRetryPolicy)
    (faults : ServerFaults) (s : System Command) (caller : Caller Command) : Prop where
  terminated : ∀ cause, caller.task = .ret (.inr (.dispatched (.error (.terminated cause)))) →
    ∀ s', Relation.ReflTransGen (Step config retry faults) s s' → s'.shared.terminal = some cause
  stopped : caller.task = .ret (.inr (.dispatched (.error .stopped))) →
    ∀ s', Relation.ReflTransGen (Step config retry faults) s s' → Ending s'.shared
  explained : ¬ Unexplained caller.trace
  accepted : ∀ delivered, caller.task = .ret (.inr (.dispatched (.ok delivered))) →
    ReadStatus .starting caller.trace ∨ ReadStatus .retrying caller.trace ∨
      ReadStatus .listening caller.trace

/-- For every interleaving of the accesses of a dispatch with everything else. -/
theorem dispatch_truthful (reached : Reachable config retry faults s) {caller : Caller Command}
    (listed : caller ∈ s.callers) {command : Command} (called : caller.call = .dispatch command) :
    DispatchTruthful config retry faults s caller := by
  obtain ⟨run, stays, _⟩ := informed_reachable reached caller listed
  have aware := aware_reachable reached caller listed
  rw [called] at run
  constructor
  · intro cause result s' run'
    rw [result] at run
    have read : ReadCause cause caller.trace := dispatched_grounds run stays
    exact run_terminal run' (aware.cause cause read)
  · intro result s' run'
    rw [result] at run
    rcases dispatched_grounds run stays with leaving | stopped | unexplained
    · exact run_ending reached (aware.status _ leaving) (Or.inl rfl) run'
    · exact run_ending reached (aware.status _ stopped) (Or.inr rfl) run'
    · exact absurd unexplained aware.explained
  · exact aware.explained
  · intro delivered result
    rw [result] at run
    exact dispatched_grounds run stays

end System

/-- A dispatch that finds the cell empty, and a server that fails before the
dispatch reads the status. -/
theorem overtaken_dispatch_truthful :
    ∃ s : System Nat, Reachable (.new (.v4 0 80)) .default ⟨some 0⟩ s ∧
      ∃ caller ∈ s.callers, caller.call = .dispatch 7 ∧
        (⟨.readTerminal, none⟩ : HandleEvent Nat) ∈ caller.trace ∧
        caller.task = .ret (.inr (.dispatched (.error (.terminated (injectedFault 0))))) ∧
        DispatchTruthful (.new (.v4 0 80)) .default ⟨some 0⟩ s caller := by
  have run : ∃ s, Relation.ReflTransGen (Step (.new (.v4 0 80)) .default ⟨some 0⟩)
      (start (.new (.v4 0 80)) .default : System Nat) s ∧
      ∃ caller ∈ s.callers, caller.call = .dispatch 7 ∧
        (⟨.readTerminal, none⟩ : HandleEvent Nat) ∈ caller.trace ∧
        caller.task = .ret (.inr (.dispatched (.error (.terminated (injectedFault 0))))) := by
    refine ⟨_, .head (.call _ (.dispatch 7)) <|
      .head (.caller (k := 0) rfl (.head (.call _ _ _)) .readTerminal) <|
      .head (.server (.head (.call _ _ _)) (.readShutdown _)) <|
      .head (.server (.call _ _ _) (.bindListener _ _ _ (.ok ()))) <|
      .head (.server (.call _ _ _) (.readTerminal _)) <|
      .head (.server (.call _ _ _) (.publish _ _)) <|
      .head (.server (.call _ _ _) (.localAddr _ (.ok (.v4 0 80)))) <|
      .head (.server (.head (.call _ _ _)) (.dropListener _)) <|
      .head (.server (.call _ _ _) (.storeTerminal _ _)) <|
      .head (.server (.call _ _ _) (.publish _ _)) <|
      .head (.caller (k := 0) rfl (.call _ _ _) .statusSnapshot) <|
      .head (.caller (k := 0) rfl (.call _ _ _) .readTerminal) .refl, ?_⟩
    exact ⟨_, .head [], rfl, .head _, rfl⟩
  obtain ⟨s, run, caller, listed, called, empty, result⟩ := run
  have reached : Reachable (.new (.v4 0 80)) .default ⟨some 0⟩ s := ⟨_, rfl, run⟩
  exact ⟨s, reached, caller, listed, called, empty, result,
    dispatch_truthful reached listed called⟩

end DispatchFate
