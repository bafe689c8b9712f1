import SharedWs.InteractionProgress
import SharedWs.ClientLifecycle

/-!
# What a managed client is bound to do

Three calls oblige the loop to something later: a successful `connect` to
`on_connection_opened`, and each of the two notices of a disconnect to what it
announces. With the conditions on single calls this gives the whole life cycle.
-/
namespace ClientObligations

open InteractionPrograms InteractionMonitors InteractionProgress WsFrames WsTypes ManagedOps
open ManagedLoop HookedLoop LoopOutline ManagedBlocks ClientLifecycle

variable {E : Endpoint}

def Establishes : ManagedEvent E → Prop
  | ⟨(_, .connect _ _), ⟨_, .ok ()⟩⟩ => True
  | _ => False

def Opens : ManagedEvent E → Prop
  | ⟨(_, .handler (.onConnectionOpened _)), _⟩ => True
  | _ => False

/-- A notice of a disconnect: `will_reconnect` and the message it returned. -/
def notice : ManagedEvent E → Option (Bool × Option E.Message)
  | ⟨(_, .handler (.onConnectionDisconnected _ will)), ⟨_, message⟩⟩ => some (will, message)
  | _ => none

/-- `Shutdown` or channel closure received during a reconnect wait. -/
def Halts : ManagedEvent E → Prop
  | ⟨(_, .waitSelect _), ⟨_, some received⟩⟩ => isShutdown received = true
  | _ => False

/-- Nothing that belongs to the connection loop: at most the handling of `message`. -/
def Concludes (message : Option E.Message) (e : ManagedEvent E) : Prop :=
  ¬ Connects e ∧ ∀ call, e.op.2 = .handler call → ∃ m, message = some m ∧ call = .handleMessage m

/-- Between two attempts each record has one kind of event that changes it. -/
theorem after_same {m : Life E} {e : ManagedEvent E} (same : ¬ Connects e) :
    (notice e = none → (m.after e).attempts = m.attempts ∧ (m.after e).linked = m.linked ∧
        (m.after e).tells = m.tells) ∧
      (¬ Opens e → (m.after e).opens = m.opens) ∧
      (¬ Halts e → (m.after e).halted = m.halted) := by
  rw [Life.after.eq_def]
  split
  case h_1 | h_2 => exact absurd trivial same
  case h_4 => exact ⟨fun _ => ⟨rfl, rfl, rfl⟩, fun other => absurd trivial other, fun _ => rfl⟩
  case h_5 => exact ⟨fun silent => (nomatch silent), fun _ => rfl, fun _ => rfl⟩
  case h_14 received =>
    refine ⟨fun _ => ⟨rfl, rfl, rfl⟩, fun _ => rfl, fun going => ?_⟩
    have stays : isShutdown received = false := by simpa [Halts] using going
    simp [stays]
  all_goals exact ⟨fun _ => ⟨rfl, rfl, rfl⟩, fun _ => rfl, fun _ => rfl⟩

theorem after_attempt {m : Life E} {e : ManagedEvent E} (same : ¬ Connects e)
    (silent : notice e = none) : (m.after e).attempts = m.attempts ∧
      (m.after e).linked = m.linked ∧ (m.after e).tells = m.tells :=
  (after_same same).1 silent

theorem after_opens {m : Life E} {e : ManagedEvent E} (same : ¬ Connects e) (other : ¬ Opens e) :
    (m.after e).opens = m.opens :=
  (after_same same).2.1 other

theorem after_halted {m : Life E} {e : ManagedEvent E} (same : ¬ Connects e) (going : ¬ Halts e) :
    (m.after e).halted = m.halted :=
  (after_same same).2.2 going

theorem after_note {m : Life E} {e : ManagedEvent E} (silent : notice e = none) :
    (m.after e).note = m.note ∨ (m.after e).note = none := by
  rw [Life.after.eq_def]
  split <;> first | exact Or.inl rfl | exact Or.inr rfl | cases silent

theorem no_connect {m : Life E} {e : ManagedEvent E} (permitted : Permitted m e.op.2)
    (again : m.attempts ≠ 0) (tells : m.tells ≠ [true]) : ¬ Connects e := by
  intro connects
  obtain ⟨⟨l, op⟩, ans⟩ := e
  cases op with
  | connect url buffers => exact tells (permitted.fits.2 again).1
  | _ => exact connects

theorem no_notice {m : Life E} {e : ManagedEvent E} (permitted : Permitted m e.op.2)
    (early : m.tells = [] → m.opens.length ≠ m.linked.toNat) : notice e = none := by
  obtain ⟨⟨l, op⟩, ans⟩ := e
  match op with
  | .handler (.onConnectionDisconnected cause will) =>
    obtain ⟨_, tells, opens⟩ := permitted.fits
    exact absurd opens (early tells)
  | .handler .resetState | .handler .onOpen | .handler (.onConnectionOpened _)
  | .handler .generateAuth | .handler (.onOutboundFrame _) | .handler (.onInboundFrame _)
  | .handler (.parseFrame _) | .handler (.handleMessage _) | .handler (.handleServerError _ _ _)
  | .handler (.classifyDisconnect _) | .handler .sessionMode
  | .handler .initialSubscriptions | .handler (.updateSubscriptions _)
  | .handler (.serializeSubscription _) => rfl
  | .connect _ _ | .storeStatus _ | .write _ _ | .reconnect _ | .monitor _ | .ping _ | .select
  | .selectWithPing | .startPingSleep _ | .resetPingSleep _ | .enterWait _ | .waitSelect _
  | .enterApply _ => rfl

section Obligations
variable (url : String) (kind : LoopKind)

abbrev LifeObligation (via goal : ManagedEvent E → Prop) (final : Task E → Prop)
    (pending : Life E → Prop) (stage : Life E → Nat) : Prop :=
  Obligation life (Proc.turn (hookedLoop (hooksOf kind) url))
    (fun c m => lifeJunctions.inv c.1 c.2 m) (fun r m => lifeJunctions.done r.2 m)
    via goal final pending stage

theorem life_answers (m : Life E) (op : Locals E × Op E) : ∃ ans, life.rely m ⟨op, ans⟩ :=
  ⟨⟨0, bareAnswer op.2⟩, trivial⟩

/-- Connected, and the handler does not know yet. -/
structure Unopened (m : Life E) : Prop where
  attempts : m.attempts ≠ 0
  linked : m.linked = true
  opens : m.opens = []
  tells : m.tells = []

theorem Unopened.unsettled {m : Life E} (unopened : Unopened m) :
    m.opens.length ≠ m.linked.toNat := by
  rw [unopened.opens, unopened.linked]
  exact Nat.zero_ne_one

theorem opening : LifeObligation (E := E) url kind (fun e => ¬ Connects e ∧ notice e = none) Opens
    (fun _ => False) Unopened fun _ => 0 where
  answers := life_answers
  keeps := by
    intro m e permitted unopened other
    have same : ¬ Connects e := by
      refine no_connect permitted unopened.attempts ?_
      rw [unopened.tells]
      exact nofun
    have silent : notice e = none := no_notice permitted fun _ => unopened.unsettled
    obtain ⟨attempts, linked, tells⟩ := after_attempt (m := m) same silent
    refine ⟨⟨same, silent⟩, ⟨?_, ?_, ?_, ?_⟩, Nat.le_refl 0⟩
    · exact attempts ▸ unopened.attempts
    · exact linked.trans unopened.linked
    · exact (after_opens same other).trans unopened.opens
    · exact tells.trans unopened.tells
  headway := by
    rintro ⟨head, l⟩ m e q inv _ unopened _ _
    cases head with
    | connect => exact absurd inv.1.opens unopened.unsettled
    | session =>
      have opens := inv.opens
      rw [unopened.opens] at opens
      cases opens
  ending := fun _ _ done unopened => unopened.unsettled done.opens

/-- The handler was told that there will be no reconnect. -/
structure Concluding (message : Option E.Message) (m : Life E) : Prop where
  attempts : m.attempts ≠ 0
  tells : m.tells = [false]
  note : m.note = message ∨ m.note = none

theorem concluding (message : Option E.Message) :
    LifeObligation url kind (Concludes message) (fun _ => False) Returned
      (Concluding message) fun _ => 0 where
  answers := life_answers
  keeps := by
    intro m e permitted concluding _
    have same : ¬ Connects e := by
      refine no_connect permitted concluding.attempts ?_
      rw [concluding.tells]
      decide
    have silent : notice e = none := no_notice permitted fun early => by
      rw [concluding.tells] at early
      cases early
    obtain ⟨attempts, _, tells⟩ := after_attempt (m := m) same silent
    refine ⟨⟨same, fun call called => ?_⟩, ⟨?_, ?_, ?_⟩, Nat.le_refl 0⟩
    · obtain ⟨n, noted, handled⟩ := (permitted.last concluding.tells).2 call called
      rcases concluding.note with note | note
      · exact ⟨n, note ▸ noted, handled⟩
      · rw [note] at noted
        cases noted
    · exact attempts ▸ concluding.attempts
    · exact tells.trans concluding.tells
    · rcases after_note (m := m) silent with note | note
      · exact concluding.note.imp note.trans note.trans
      · exact Or.inr note
  headway := by
    rintro ⟨head, l⟩ m e q inv _ concluding _ _
    cases head with
    | connect => exact absurd concluding.tells inv.1.free.tells
    | session => exact absurd concluding.tells inv.free.tells
  ending := fun _ _ _ _ => ⟨_, rfl⟩

/-- The handler was told that there will be a reconnect, and no wait was told to stop. -/
structure Retrying (m : Life E) : Prop where
  tells : m.tells = [true]
  halted : m.halted = false

/-- What is left before the retry: the rest of this turn, or only the next one. -/
def turnsLeft (m : Life E) : Nat := if m.status = some .connecting then 0 else 1

theorem turnsLeft_after {m : Life E} {e : ManagedEvent E} (permitted : Permitted m e.op.2)
    (retrying : Retrying m) (same : ¬ Connects e) : turnsLeft (m.after e) ≤ turnsLeft m := by
  by_cases connecting : m.status = some .connecting
  · obtain ⟨⟨l, op⟩, time, val⟩ := e
    rcases permitted.dials connecting retrying.tells with health | ⟨url, buffers, connect⟩
    · have kept := after_neutral (health_neutral health) m l time val
      exact Nat.le_of_eq (congrArg turnsLeft kept)
    · change op = .connect url buffers at connect
      subst connect
      exact absurd trivial same
  · rw [show turnsLeft m = 1 from if_neg connecting, turnsLeft]
    split
    · exact Nat.zero_le 1
    · exact Nat.le_refl 1

theorem retrying : LifeObligation (E := E) url kind (fun e => notice e = none)
    (fun e => Connects e ∨ Halts e) (fun _ => False) Retrying turnsLeft where
  answers := life_answers
  keeps := by
    intro m e permitted retrying other
    obtain ⟨same, going⟩ := not_or.mp other
    have silent : notice e = none := no_notice permitted fun early => by
      rw [retrying.tells] at early
      cases early
    obtain ⟨_, _, tells⟩ := after_attempt (m := m) same silent
    refine ⟨silent, ⟨?_, ?_⟩, turnsLeft_after permitted retrying same⟩
    · exact tells.trans retrying.tells
    · exact (after_halted same going).trans retrying.halted
  headway := by
    rintro ⟨head, l⟩ m e q inv _ retrying fires _
    cases head with
    | session =>
      have tells := inv.tells
      rw [retrying.tells] at tells
      cases tells
    | connect =>
      -- the turn starts by storing `Connecting`
      cases fires with
      | head turn =>
        cases turn
        have other : m.status ≠ some .connecting := by
          intro connecting
          have order := inv.2
          rw [connecting] at order
          exact order
        rw [show turnsLeft m = 1 from if_neg other]
        exact Nat.zero_lt_one
  ending := by
    intro r m done retrying
    rcases done.reason with tells | ⟨_, halted⟩ | ⟨tells, _⟩
    · rw [retrying.tells] at tells
      cases tells
    · rw [retrying.halted] at halted
      cases halted
    · rw [retrying.tells] at tells
      cases tells

end Obligations

/-- What the last event of a run obliges the loop to. -/
structure Bound (loop : Head → Managed E Flow) (e : ManagedEvent E) (q : Task E) : Prop where
  /-- A successful `connect` is reported before anything is torn down. -/
  opens : Establishes e →
    Leads (Proc.turn loop) (fun d => ¬ Connects d ∧ notice d = none) Opens (fun _ => False) q
  /-- After `will_reconnect = false` the loop returns and handles at most the message. -/
  returns : ∀ message, notice e = some (false, message) →
    Leads (Proc.turn loop) (Concludes message) (fun _ => False) Returned q
  /-- After `will_reconnect = true` it connects, unless a wait is told to stop. -/
  retries : ∀ message, notice e = some (true, message) →
    Leads (Proc.turn loop) (fun d => notice d = none) (fun d => Connects d ∨ Halts d)
      (fun _ => False) q

/-- What a returned loop leaves behind. -/
structure Settled (m : Life E) : Prop where
  status : m.status = some .disconnected
  opened : m.opens.length = m.linked.toNat
  untold : m.tells = [] → m.stopped = true
  unkept : m.tells = [true] → m.halted = true

theorem settled_of_done {m : Life E} (done : Done m) : Settled m where
  status := done.status
  opened := done.opens
  untold := by
    intro none
    rcases done.reason with tells | ⟨tells, _⟩ | ⟨_, stopped⟩
    · cases none.symm.trans tells
    · cases none.symm.trans tells
    · exact stopped
  unkept := by
    intro retried
    rcases done.reason with tells | ⟨_, halted⟩ | ⟨tells, _⟩
    · cases retried.symm.trans tells
    · exact halted
    · cases retried.symm.trans tells

section Runs
variable {url : String} {kind : LoopKind} {t : List (ManagedEvent E)} {q : Task E}

theorem life_run (run : Run (hookedLoop (hooksOf kind) url) t q) :
    life.Along life.safe Life.start t ∧ life.wp lifeJunctions.owes q (lifeOf t) := by
  have ready : Ready Locals.initial (Life.start (E := E)) :=
    ⟨rfl, rfl, rfl, nofun, Or.inl ⟨rfl, rfl, rfl⟩⟩
  have relied : life.Along life.rely Life.start t := life.along_iff.mpr fun _ _ _ _ => trivial
  exact (life_outline url kind).run ⟨ready, trivial⟩ run relied

theorem permitted_along (run : Run (hookedLoop (hooksOf kind) url) t q)
    {before after : List (ManagedEvent E)} {e : ManagedEvent E} (cut : t = before ++ e :: after) :
    Permitted (lifeOf before) e.op.2 :=
  life.along_iff.mp (life_run run).1 before e after cut

/-- A pending obligation is met from every point of every run. -/
theorem leads_of_pending {via goal : ManagedEvent E → Prop} {final : Task E → Prop}
    {pending : Life E → Prop} {stage : Life E → Nat}
    (obligation : LifeObligation url kind via goal final pending stage)
    (run : Run (hookedLoop (hooksOf kind) url) t q) (due : pending (lifeOf t)) :
    Leads (Proc.turn (hookedLoop (hooksOf kind) url)) via goal final q :=
  (obligation.leads life (turn_starts url kind)
    (fun c m inv => life.turn_wp ((life_outline url kind).turns c.1 c.2 m inv))
    (life_run run).2 due).leads life fun _ _ => trivial

/-- A loop whose wait was told to stop has returned. -/
theorem returned_of_halted (run : Run (hookedLoop (hooksOf kind) url) t q)
    (halted : (lifeOf t).halted = true) : Returned q := by
  have going : (lifeOf t).halted ≠ false := by
    rw [halted]
    exact Bool.noConfusion
  have owed := (life_run run).2
  match q with
  | .ret (.inr ((), l)) => exact ⟨l, rfl⟩
  | .ret (.inl (.connect, l)) => exact absurd owed.1.halted going
  | .ret (.inl (.session, l)) => exact absurd owed.halted going
  | .call op next => exact absurd (owed ⟨0, bareAnswer op.2⟩ trivial).1.halted going

theorem lifeOf_snoc (before : List (ManagedEvent E)) (e : ManagedEvent E) :
    lifeOf (before ++ [e]) = (lifeOf before).after e := List.foldl_append

theorem unopened_after {m : Life E} {e : ManagedEvent E} (established : Establishes e) :
    Unopened (m.after e) := by
  obtain ⟨⟨l, op⟩, time, val⟩ := e
  cases op with
  | connect url buffers =>
    cases val with
    | ok _ => exact ⟨Nat.succ_ne_zero _, rfl, rfl, rfl⟩
    | error _ => exact established.elim
  | _ => exact established.elim

/-- The only event with a notice is the callback itself, on an attempt not yet reported. -/
theorem told_after {m : Life E} {e : ManagedEvent E} (permitted : Permitted m e.op.2)
    {will : Bool} {message : Option E.Message} (told : notice e = some (will, message)) :
    (m.after e).attempts ≠ 0 ∧ (m.after e).tells = [will] ∧ (m.after e).note = message ∧
      (m.after e).halted = false := by
  rw [notice.eq_def] at told
  split at told
  · rename_i l cause will' time message'
    obtain ⟨rfl, rfl⟩ := Prod.mk.inj (Option.some.inj told)
    obtain ⟨attempts, tells, _⟩ := permitted.fits
    refine ⟨attempts, ?_, rfl, permitted.halted⟩
    change m.tells ++ [will'] = [will']
    rw [tells, List.nil_append]
  · cases told

theorem bound_after (run : Run (hookedLoop (hooksOf kind) url) t q)
    {before : List (ManagedEvent E)} {e : ManagedEvent E} (cut : t = before ++ [e]) :
    Bound (hookedLoop (hooksOf kind) url) e q := by
  have permitted := permitted_along run cut
  have last : lifeOf t = (lifeOf before).after e := by rw [cut, lifeOf_snoc]
  constructor
  · intro established
    refine leads_of_pending (opening url kind) run ?_
    rw [last]
    exact unopened_after established
  · intro message told
    obtain ⟨attempts, tells, note, _⟩ := told_after permitted told
    refine leads_of_pending (concluding url kind message) run ?_
    rw [last]
    exact ⟨attempts, tells, Or.inl note⟩
  · intro message told
    obtain ⟨_, tells, _, halted⟩ := told_after permitted told
    refine leads_of_pending (retrying url kind) run ?_
    rw [last]
    exact ⟨tells, halted⟩

end Runs

/-- The life cycle of both loops: what each call requires of the calls before
it, how a returned loop is left, and what the last call commits the loop to. -/
theorem lifecycle_kept (url : String) (kind : LoopKind) {t : List (ManagedEvent E)} {q : Task E}
    (run : Run (managedLoop url kind) t q) :
    (∀ before e after, t = before ++ e :: after → Permitted (lifeOf before) e.op.2) ∧
    (Returned q → Settled (lifeOf t)) ∧
    ∀ before e, t = before ++ [e] → Bound (managedLoop url kind) e q := by
  rw [managedLoop_eq] at run ⊢
  refine ⟨fun before e after cut => permitted_along run cut, ?_, fun _ _ cut => bound_after run cut⟩
  rintro ⟨l, rfl⟩
  exact settled_of_done (life_run run).2

/-- The peer closes the first connection; the retry is refused and is the last one. -/
def refusedRetry : Nat → (op : Op bareEndpoint) → op.Ans
  | 1, .connect _ _ => .ok ()
  | _, .connect _ _ => .error (.timeout "connect")
  | n, .reconnect .shouldRetry => n < 16
  | _, op => bareAnswer op

theorem refused_retry_settles :
    (lifeOf (trial (managedLoop "ws://peer" .plain) refusedRetry 24).1).attempts = 2 ∧
    (lifeOf (trial (managedLoop "ws://peer" .plain) refusedRetry 24).1).tells = [false] ∧
    Settled (lifeOf (trial (managedLoop "ws://peer" .plain) refusedRetry 24).1) := by
  have run := trial_run (managedLoop "ws://peer" .plain) refusedRetry 24
  exact ⟨by decide, by decide, (lifecycle_kept "ws://peer" .plain run).2.1 ⟨_, rfl⟩⟩

end ClientObligations
