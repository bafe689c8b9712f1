import Mathlib.Algebra.Order.Ring.Unbundled.Rat
import Mathlib.Data.List.Induction
import SharedWs.BinaryRounding
import SharedWs.ReconnectFinality

/-!
# Reconnect strategies

A strategy with a state of its own, and the two that never retry: `NoReconnect`
of `testing.rs` and `ExponentialBackoffReconnect::abort()` of `core/reconnect.rs`.
`reconnect_delay` asks `should_retry` only for `BackoffReconnect`, so a refusal
holds as long as no disconnect is classified as `ImmediateReconnect`.
-/
namespace ReconnectStrategies

open InteractionPrograms InteractionMonitors InteractionProgress WsFrames WsTypes ManagedOps
open ManagedLoop HookedLoop LoopOutline ClientObligations ReconnectCourse ReconnectFinality

variable {E : Endpoint}

/-- `WsReconnectStrategy`. -/
structure ReconnectStrategy where
  State : Type
  nextDelay : State → Duration × State
  reset : State → State
  shouldRetry : State → Bool

namespace ReconnectStrategy
variable (strategy : ReconnectStrategy)

/-- The strategy as the loop calls it: the answer and the state afterwards. -/
def respond (σ : strategy.State) : (call : ReconnectCall) → call.Res × strategy.State
  | .shouldRetry => (strategy.shouldRetry σ, σ)
  | .nextDelay => strategy.nextDelay σ
  | .reset => ((), strategy.reset σ)

def after (σ : strategy.State) : ManagedEvent E → strategy.State
  | ⟨(_, .reconnect call), _⟩ => (strategy.respond σ call).2
  | _ => σ

def stateAfter (σ : strategy.State) (t : List (ManagedEvent E)) : strategy.State :=
  t.foldl strategy.after σ

def Answers (σ : strategy.State) : ManagedEvent E → Prop
  | ⟨(_, .reconnect call), ⟨_, val⟩⟩ => val = (strategy.respond σ call).1
  | _ => True

/-- The strategy, started in `σ`, gave the answers of the trace. -/
def Guides (σ : strategy.State) (t : List (ManagedEvent E)) : Prop :=
  ∀ before e after, t = before ++ e :: after → strategy.Answers (strategy.stateAfter σ before) e

/-- No call makes the strategy retry. -/
def NeverRetries (σ : strategy.State) : Prop :=
  ∀ calls : List ReconnectCall,
    strategy.shouldRetry (calls.foldl (fun σ call => (strategy.respond σ call).2) σ) = false

variable {strategy} {σ : strategy.State}

theorem after_other {e : ManagedEvent E} (other : ∀ call, e.op.2 ≠ .reconnect call) :
    strategy.after σ e = σ ∧ strategy.Answers σ e := by
  obtain ⟨⟨l, op⟩, ans⟩ := e
  cases op with
  | reconnect call => exact absurd rfl (other call)
  | _ => exact ⟨rfl, trivial⟩

theorem Guides.snoc_other {t : List (ManagedEvent E)} (guides : strategy.Guides σ t)
    {e : ManagedEvent E} (other : ∀ call, e.op.2 ≠ .reconnect call) :
    strategy.Guides σ (t ++ [e]) := by
  intro before d after cut
  rcases List.eq_nil_or_concat after with rfl | ⟨rest, last, rfl⟩
  · obtain ⟨rfl, same⟩ := List.append_inj' cut rfl
    obtain rfl := List.singleton_inj.mp same
    exact (after_other other).2
  · rw [List.concat_eq_append, ← List.cons_append, ← List.append_assoc] at cut
    obtain ⟨same, _⟩ := List.append_inj' cut rfl
    exact guides before d rest same

theorem Guides.append_other {t s : List (ManagedEvent E)} (guides : strategy.Guides σ t)
    (other : ∀ e ∈ s, ∀ call, e.op.2 ≠ .reconnect call) : strategy.Guides σ (t ++ s) := by
  induction s generalizing t with
  | nil => simpa using guides
  | cons e s ih =>
    obtain ⟨first, rest⟩ := List.forall_mem_cons.mp other
    rw [List.append_cons]
    exact ih (guides.snoc_other first) rest

theorem stateAfter_calls (t : List (ManagedEvent E)) : ∃ calls : List ReconnectCall,
    strategy.stateAfter σ t = calls.foldl (fun σ call => (strategy.respond σ call).2) σ := by
  induction t generalizing σ with
  | nil => exact ⟨[], rfl⟩
  | cons e t ih =>
    obtain ⟨calls, same⟩ := ih (σ := strategy.after σ e)
    obtain ⟨⟨l, op⟩, ans⟩ := e
    cases op with
    | reconnect call => exact ⟨call :: calls, same⟩
    | _ => exact ⟨calls, same⟩

end ReconnectStrategy

/-- `NoReconnect`. -/
def noReconnect : ReconnectStrategy where
  State := Unit
  nextDelay := fun _ => (24 * 60 * 60 * 1000000000, ())
  reset := fun _ => ()
  shouldRetry := fun _ => false

/-- The `f64` computations are exact here: the factor is a rational. -/
structure ExponentialBackoffReconnect where
  base : Duration
  max : Duration
  factor : Rat
  current : Duration
  retry : Bool

namespace ExponentialBackoffReconnect

/-- A factor that is not finite is `none`. -/
def new (base max : Duration) (factor : Option Rat) : ExponentialBackoffReconnect where
  base := base
  max := max
  factor := match factor with
    | some factor => if factor > 1 then factor else 3 / 2
    | none => 3 / 2
  current := base
  retry := true

def abort (s : ExponentialBackoffReconnect) : ExponentialBackoffReconnect :=
  { s with retry := false }

def asSecs (d : Duration) : Rat := (d : Rat) / 1000000000

/-- To the nearest nanosecond, and to the even one of two, as `Duration::from_secs_f64` does. -/
def fromSecs (secs : Rat) : Duration := (BinaryRounding.nearestEven (secs * 1000000000)).toNat

def nextDelay (s : ExponentialBackoffReconnect) : Duration × ExponentialBackoffReconnect :=
  let next := min (asSecs s.current * s.factor) (asSecs s.max)
  (s.current, { s with current := fromSecs next })

def reset (s : ExponentialBackoffReconnect) : ExponentialBackoffReconnect :=
  { s with current := s.base }

end ExponentialBackoffReconnect

def exponentialBackoff : ReconnectStrategy where
  State := ExponentialBackoffReconnect
  nextDelay := ExponentialBackoffReconnect.nextDelay
  reset := ExponentialBackoffReconnect.reset
  shouldRetry := ExponentialBackoffReconnect.retry

/-- The strategies that are made to refuse, in the states they start in. -/
inductive Refuser : (strategy : ReconnectStrategy) → strategy.State → Prop
  | noReconnect : Refuser noReconnect ()
  | abort (s : ExponentialBackoffReconnect) : Refuser exponentialBackoff s.abort

/-- The retry mark of the backoff never changes. -/
theorem backoff_retry (s : ExponentialBackoffReconnect) (calls : List ReconnectCall) :
    (calls.foldl (fun σ call => (exponentialBackoff.respond σ call).2) s).retry = s.retry := by
  induction calls generalizing s with
  | nil => rfl
  | cons call calls ih =>
    refine (ih (exponentialBackoff.respond s call).2).trans ?_
    cases call <;> rfl

theorem Refuser.never {strategy : ReconnectStrategy} {σ : strategy.State}
    (refuser : Refuser strategy σ) : strategy.NeverRetries σ := by
  intro calls
  cases refuser with
  | noReconnect => rfl
  | abort s => exact backoff_retry s.abort calls

/-- A decision has been made, and the strategy is not asked before the next `connect`. -/
def Concluded : Course E → Prop
  | .settled _ | .told _ | .waited _ _ => True
  | _ => False

theorem concluded_silent {m : Course E} (concluded : Concluded m) {s : List (ManagedEvent E)}
    (safe : course.Along course.safe m s) (pause : ∀ e ∈ s, ¬ Connects e) :
    ∀ e ∈ s, ∀ call, e.op.2 ≠ .reconnect call := by
  induction s generalizing m with
  | nil => exact List.forall_mem_nil _
  | cons e s ih =>
    obtain ⟨paused, rest⟩ := List.forall_mem_cons.mp pause
    have moves := moves_of_permitted safe.1
    have kept : Concluded (m.after e) := by
      generalize m.after e = m' at moves
      cases moves with
      | connect _ connects => exact absurd connects paused
      | classify leaving => cases m <;> first | exact concluded.elim | exact leaving.elim
      | judge | ask | delay => exact concluded.elim
      | tell | wait => trivial
      | idle => exact concluded
    refine List.forall_mem_cons.mpr ⟨fun call asked => ?_, ih kept safe.2 rest⟩
    have fits := safe.1.fits
    rw [asked] at fits
    cases call with
    | shouldRetry =>
      obtain rfl : m = .asked := fits
      exact concluded
    | nextDelay =>
      obtain rfl : m = .granted := fits
      exact concluded
    | reset =>
      obtain rfl : m = .attempted := fits
      exact concluded

/-- Nobody is dialled any more, as long as the strategy goes on as it is. -/
def StaysDown (loop : Head → Managed E Flow) (strategy : ReconnectStrategy) (σ : strategy.State)
    (t : List (ManagedEvent E)) (q : Task E) : Prop :=
  ∀ more r, Reaches (Proc.turn loop) q more r → strategy.Guides σ (t ++ more) →
    ∀ e ∈ more, ¬ Connects e

section Runs
variable {url : String} {kind : LoopKind} {t : List (ManagedEvent E)} {q : Task E}
variable {strategy : ReconnectStrategy} {σ : strategy.State}

/-- `ImmediateReconnect` does not ask the strategy. -/
theorem immediate_connects {l : Locals E} {cause : WsDisconnectCause} {time : Instant}
    (run : Run (hookedLoop (hooksOf kind) url)
      (t ++ [event l (.handler (.classifyDisconnect cause)) time .immediateReconnect]) q)
    (guides : strategy.Guides σ
      (t ++ [event l (.handler (.classifyDisconnect cause)) time .immediateReconnect])) :
    ¬ StaysDown (hookedLoop (hooksOf kind) url) strategy σ
      (t ++ [event l (.handler (.classifyDisconnect cause)) time .immediateReconnect]) q := by
  intro down
  have settled : courseOf (t ++
      [event l (.handler (.classifyDisconnect cause)) time .immediateReconnect]) =
      .settled (some 0) := courseOf_snoc t _
  obtain ⟨more, e, r, reaches, pause, connects⟩ := connect_of_promised run (Or.inr ⟨0, settled⟩)
  have safe := safe_between (run.trans reaches) (List.append_assoc _ more [e]).symm
  rw [settled] at safe
  have silent := concluded_silent (by trivial) safe pause
  have last : ∀ call, e.op.2 ≠ .reconnect call := by
    obtain ⟨⟨l, op⟩, ans⟩ := e
    cases op with
    | connect url buffers => exact nofun
    | _ => exact connects.elim
  have guided := guides.append_other (s := more ++ [e]) fun d listed => by
    rcases List.mem_append.mp listed with listed | listed
    · exact silent d listed
    · rw [List.mem_singleton.mp listed]
      exact last
  exact down _ r reaches guided e (List.mem_append_right more (List.mem_singleton_self e)) connects

/-- After `BackoffReconnect` the strategy is asked at once, and its refusal ends the loop. -/
theorem backoff_stays_down {l : Locals E} {cause : WsDisconnectCause} {time : Instant}
    (run : Run (hookedLoop (hooksOf kind) url)
      (t ++ [event l (.handler (.classifyDisconnect cause)) time .backoffReconnect]) q)
    (refuses : strategy.shouldRetry (strategy.stateAfter σ t) = false) :
    StaysDown (hookedLoop (hooksOf kind) url) strategy σ
      (t ++ [event l (.handler (.classifyDisconnect cause)) time .backoffReconnect]) q := by
  intro more r reaches guides
  cases reaches with
  | here => exact List.forall_mem_nil _
  | @step _ p _ d rest first tail =>
    have whole := run.snoc first
    have permitted : Permitted (courseOf (t ++ [_])) d.op.2 :=
      (course.along_append.mp (course_run whole).1).2.1
    rw [courseOf_snoc] at permitted
    have asks : d.op.2 = .reconnect .shouldRetry := permitted.asks rfl
    have answers := guides (t ++ [_]) d rest rfl
    obtain ⟨⟨l', op⟩, time', retry⟩ := d
    obtain rfl : op = .reconnect .shouldRetry := asks
    have same : strategy.stateAfter σ
        (t ++ [event l (.handler (.classifyDisconnect cause)) time .backoffReconnect]) =
        strategy.stateAfter σ t := List.foldl_append
    obtain rfl : retry = false := by
      rw [same] at answers
      exact answers.trans refuses
    have refused : Refused (courseOf (t ++
        [event l (.handler (.classifyDisconnect cause)) time .backoffReconnect] ++
        [event l' (.reconnect .shouldRetry) time' false])) := Or.inl (courseOf_snoc _ _)
    have ends := leads_of_course (refusing url kind) whole refused
    exact List.forall_mem_cons.mpr ⟨id, ends_stay_down ends tail⟩

theorem abort_stays_down {l : Locals E} {cause : WsDisconnectCause} {time : Instant}
    (run : Run (hookedLoop (hooksOf kind) url)
      (t ++ [event l (.handler (.classifyDisconnect cause)) time .abort]) q) :
    StaysDown (hookedLoop (hooksOf kind) url) strategy σ
      (t ++ [event l (.handler (.classifyDisconnect cause)) time .abort]) q := by
  intro more r reaches _
  have refused : Refused (courseOf (t ++
      [event l (.handler (.classifyDisconnect cause)) time .abort])) := Or.inl (courseOf_snoc _ _)
  exact ends_stay_down (leads_of_course (refusing url kind) run refused) reaches

/-- States that only a promise of a reconnect leads to. -/
def Hopeful : Course E → Prop
  | .granted | .settled (some _) | .told (some _) | .waited _ _ => True
  | _ => False

/-- Calls of `connect` along a trace. -/
def attempts (t : List (ManagedEvent E)) : Nat := t.countP fun e => decide (Connects e)

def Immediate (e : ManagedEvent E) : Prop :=
  ∃ l cause time, e = event l (.handler (.classifyDisconnect cause)) time .immediateReconnect

theorem attempts_snoc (t : List (ManagedEvent E)) (e : ManagedEvent E) :
    attempts (t ++ [e]) = attempts t + if Connects e then 1 else 0 := by
  simp [attempts, List.countP_append, List.countP_singleton]

theorem resumes_hopeful {m : Course E} (resumes : m.Resumes) : Hopeful m := by
  cases m with
  | told delay => cases delay <;> first | exact resumes.elim | trivial
  | waited => trivial
  | _ => exact resumes.elim

/-- The count of attempts and where the course stands while nothing was promised. -/
def Lone (n : Nat) (m : Course E) : Prop :=
  n = 0 ∧ m = .fresh ∨ n = 1 ∧ m ≠ .fresh ∧ ¬ Hopeful m

/-- A call that is no `connect` and makes no promise. -/
theorem Lone.stays {n : Nat} {m m' : Course E} {e : ManagedEvent E} (lone : Lone n m)
    (started : m ≠ .fresh) (other : ¬ Connects e) (started' : m' ≠ .fresh)
    (kept : ¬ Hopeful m → ¬ Hopeful m') : Lone (n + if Connects e then 1 else 0) m' := by
  rcases lone with ⟨_, fresh⟩ | ⟨one, _, hopeless⟩
  · exact absurd fresh started
  · exact Or.inr ⟨by rw [one, if_neg other], started', kept hopeless⟩

theorem Lone.connect {n : Nat} {m : Course E} {e : ManagedEvent E} (lone : Lone n m)
    (resumes : m = .fresh ∨ m.Resumes) (connects : Connects e) :
    Lone (n + if Connects e then 1 else 0) (.attempted : Course E) := by
  rcases lone with ⟨none, _⟩ | ⟨_, started, hopeless⟩
  · exact Or.inr ⟨by rw [none, if_pos connects], nofun, id⟩
  · have stuck : ¬ m.Resumes := fun resumes => hopeless (resumes_hopeful resumes)
    exact absurd resumes (not_or.mpr ⟨started, stuck⟩)

/-- One move, unless it is a promise. -/
theorem Lone.moves {n : Nat} {m m' : Course E} {e : ManagedEvent E} (lone : Lone n m)
    (moves : Moves m e m') (calm : ¬ Immediate e)
    (refused : ∀ l time retry, e = event l (.reconnect .shouldRetry) time retry → retry = false) :
    Lone (n + if Connects e then 1 else 0) m' := by
  cases moves with
  | connect resumes connects => exact lone.connect resumes connects
  | idle idle =>
    rw [if_neg (idle_stays idle).1]
    exact lone
  | judge l code message data time action =>
    cases action with
    | «continue» => exact lone.stays nofun id nofun id
    | reconnect => exact lone.stays nofun id nofun fun _ => id
    | fatal => exact lone.stays nofun id nofun fun _ => id
  | classify leaving l cause time action =>
    have started : m ≠ .fresh := by
      rintro rfl
      exact leaving
    cases action with
    | abort => exact lone.stays started id nofun fun _ => id
    | immediateReconnect => exact absurd ⟨l, cause, time, rfl⟩ calm
    | backoffReconnect => exact lone.stays started id nofun fun _ => id
  | ask l time retry =>
    obtain rfl := refused l time retry rfl
    exact lone.stays nofun id nofun fun _ => id
  | delay => exact lone.stays nofun id nofun fun hopeless _ => hopeless trivial
  | tell delay =>
    cases delay with
    | none => exact lone.stays nofun id nofun fun _ => id
    | some delay => exact lone.stays nofun id nofun fun hopeless _ => hopeless trivial
  | wait => exact lone.stays nofun id nofun fun hopeless _ => hopeless trivial

/-- Without a promise the first attempt stays the only one. -/
theorem one_attempt (never : strategy.NeverRetries σ) {t : List (ManagedEvent E)}
    (safe : course.Along course.safe .fresh t) (guides : strategy.Guides σ t)
    (calm : ∀ e ∈ t, ¬ Immediate e) : Lone (attempts t) (courseOf t) := by
  induction t using List.reverseRecOn with
  | nil => exact Or.inl ⟨rfl, rfl⟩
  | append_singleton t e ih =>
    obtain ⟨early, late⟩ := course.along_append.mp safe
    have guides' : strategy.Guides σ t := fun before d after cut =>
      guides before d (after ++ [e]) (by rw [cut, List.append_assoc, List.cons_append])
    have before := ih early guides' fun d listed => calm d (List.mem_append_left [e] listed)
    have answers := guides t e [] rfl
    have refused : ∀ l time retry, e = event l (.reconnect .shouldRetry) time retry →
        retry = false := by
      rintro l time retry rfl
      obtain ⟨calls, same⟩ := strategy.stateAfter_calls (σ := σ) t
      rw [same] at answers
      exact Eq.trans answers (never calls)
    rw [attempts_snoc, courseOf_snoc]
    exact before.moves (moves_of_permitted late.1)
      (calm e (List.mem_append_right t (List.mem_singleton_self e))) refused

end Runs

/-- How far a refusal of the strategy goes. -/
structure RespectsRefusal (loop : Head → Managed E Flow) (strategy : ReconnectStrategy)
    (σ : strategy.State) : Prop where
  /-- At a disconnect at which `should_retry` is false. -/
  down : ∀ t q l cause time action,
    Run loop (t ++ [event l (.handler (.classifyDisconnect cause)) time action]) q →
    strategy.Guides σ (t ++ [event l (.handler (.classifyDisconnect cause)) time action]) →
    strategy.shouldRetry (strategy.stateAfter σ t) = false →
    (StaysDown loop strategy σ
      (t ++ [event l (.handler (.classifyDisconnect cause)) time action]) q ↔
      action ≠ .immediateReconnect)
  /-- For the strategies that are made to refuse. -/
  once : Refuser strategy σ → ∀ t q, Run loop t q → strategy.Guides σ t →
    (∀ e ∈ t, ¬ Immediate e) → attempts t ≤ 1

/-- A refusal of the strategy is respected exactly if the disconnect is not
classified as `ImmediateReconnect`. -/
theorem refusal_respected_iff (url : String) (kind : LoopKind) (strategy : ReconnectStrategy)
    (σ : strategy.State) : RespectsRefusal (E := E) (managedLoop url kind) strategy σ := by
  rw [managedLoop_eq]
  constructor
  · intro t q l cause time action run guides refuses
    cases action with
    | abort => exact ⟨fun _ => nofun, fun _ => abort_stays_down run⟩
    | immediateReconnect =>
      exact ⟨fun down => absurd down (immediate_connects run guides), fun other => absurd rfl other⟩
    | backoffReconnect => exact ⟨fun _ => nofun, fun _ => backoff_stays_down run refuses⟩
  · intro refuser t q run guides calm
    rcases one_attempt refuser.never (course_run run).1 guides calm with ⟨none, _⟩ | ⟨one, _⟩
    · omega
    · omega

theorem guides_of_script {loop : Head → Managed E Flow} {script : Nat → (op : Op E) → op.Ans}
    (follows : ∀ n call, script n (.reconnect call) = (noReconnect.respond () call).1) (n : Nat) :
    noReconnect.Guides () (trial loop script n).1 := by
  intro before e after cut
  have listed : e ∈ (trial loop script n).1 := by
    rw [cut]
    exact List.mem_append_right before List.mem_cons_self
  obtain ⟨j, answered⟩ := play_answers _ n 0 _ e listed
  obtain ⟨⟨l, op⟩, ans⟩ := e
  cases op with
  | reconnect call =>
    obtain rfl : ans = ⟨j, script j (.reconnect call)⟩ := answered
    exact follows j call
  | _ => trivial

/-- Every `connect` is refused, the strategy is `NoReconnect` and every disconnect
is classified as `action`. -/
def unretried (action : WsDisconnectAction) : Nat → (op : Op bareEndpoint) → op.Ans
  | _, .connect _ _ => .error (.timeout "connect")
  | _, .handler (.classifyDisconnect _) => action
  | _, .reconnect call => (noReconnect.respond () call).1
  | _, op => bareAnswer op

theorem unretried_calm {loop : Head → Managed bareEndpoint Flow} {action : WsDisconnectAction}
    (other : action ≠ .immediateReconnect) (n : Nat) :
    ∀ e ∈ (trial loop (unretried action) n).1, ¬ Immediate e := by
  rintro e listed ⟨l, cause, time, rfl⟩
  obtain ⟨j, answered⟩ := play_answers _ n 0 _ _ listed
  exact other (congrArg Stamped.val answered).symm

theorem no_reconnect_dials_once :
    Returned (trial (managedLoop "ws://peer" .plain) (unretried .backoffReconnect) 9).2 ∧
    attempts (trial (managedLoop "ws://peer" .plain) (unretried .backoffReconnect) 9).1 ≤ 1 := by
  let loop : Head → Managed bareEndpoint Flow := managedLoop "ws://peer" .plain
  have other : WsDisconnectAction.backoffReconnect ≠ .immediateReconnect := nofun
  refine ⟨⟨_, rfl⟩, (refusal_respected_iff "ws://peer" .plain noReconnect ()).once .noReconnect _ _
    (trial_run loop (unretried .backoffReconnect) 9) (guides_of_script (fun _ _ => rfl) 9)
    (unretried_calm other 9)⟩

theorem no_reconnect_dials_twice :
    ∃ (t : List (ManagedEvent bareEndpoint)) (q : Task bareEndpoint),
      Run (managedLoop "ws://peer" .plain) t q ∧ noReconnect.Guides () t ∧ attempts t = 2 := by
  let loop : Head → Managed bareEndpoint Flow := managedLoop "ws://peer" .plain
  let script := unretried .immediateReconnect
  exact ⟨_, _, trial_run loop script 8, guides_of_script (fun _ _ => rfl) 8, by decide⟩

end ReconnectStrategies
