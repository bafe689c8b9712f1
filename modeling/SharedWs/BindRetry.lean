import SharedWs.HistoryCounts
import SharedWs.ServerOutline

/-!
# The retry schedule of `run_server`

A failure is a bind that fails or the loss of a listener. Counted since the last
successful bind, the failures determine how long the server waits before it
binds again, when it gives up, and with which cause. Nothing is assumed of the
answers the server task gets, so every order of bind results and losses is
covered.
-/
namespace BindRetry

open HistoryCounts InteractionPrograms InteractionMonitors InteractionMonitors.Monitor
open ServerOutline ServerTask ServerTypes WsTypes

def Binds : ServerEvent → Bool
  | ⟨(_, .bindListener _ _), .ok _⟩ => true
  | _ => false

/-- A failed bind, or the loss of the listener. -/
def failure : ServerEvent → Option String
  | ⟨(_, .bindListener _ _), .error error⟩ => some error
  | ⟨(_, .localAddr), .error error⟩ => some error
  | ⟨(_, .acceptSelect), .incoming (.error error)⟩ =>
    if isTransientAcceptError error then none else some error.text
  | _ => none

/-- The number of failures since the last successful bind. -/
def failuresSince (trace : List ServerEvent) : Nat :=
  countSince Binds (fun e => (failure e).isSome) trace

def everBound (trace : List ServerEvent) : Bool := trace.any Binds

/-- The wait after the `k`-th failure, `k` counted from one. -/
def wait (retry : WsServerRetryPolicy) (k : Nat) : Duration :=
  min (retry.initialBackoff * 2 ^ (k - 1)) retry.maxBackoff

/-- The budget is used up by this many failures. -/
def Exhausted (retry : WsServerRetryPolicy) (k : Nat) : Prop :=
  ∃ m, retry.maxAttempts = some m ∧ k = m.toNat

/-- The cause with which the server gives up. -/
def cause (config : WsServerConfig) (bound : Bool) (attempts : UInt32) (error : String) :
    ManagedWsServerTerminalError :=
  if bound then .acceptRetryExhausted config.bindAddr attempts error
  else .bindRetryExhausted config.bindAddr attempts error

def IsExhaustion : ManagedWsServerTerminalError → Prop
  | .bindRetryExhausted _ _ _ | .acceptRetryExhausted _ _ _ => True
  | .internalLoopFailure _ => False

/-- What the task does between a failure and its decision: drop the listener,
announce the retry. -/
def Preparatory : ServerOp → Prop
  | .dropListener | .readTerminal | .publish .retrying => True
  | _ => False

/-- The next call that is not preparatory. -/
def NextCall (trace : List ServerEvent) (op : ServerOp) : Prop :=
  ∀ before e after, trace = before ++ e :: after → (∀ d ∈ before, Preparatory d.op.2) →
    ¬ Preparatory e.op.2 → e.op.2 = op

/-- Doubling and cutting off at each step is cutting off the power of two. -/
theorem min_double (x bound top : Nat) (fits : bound ≤ top) :
    min (min (min x bound * 2) top) bound = min (x * 2) bound := by
  omega

theorem nextBackoff_wait {retry : WsServerRetryPolicy}
    (representable : retry.maxBackoff ≤ maxDuration) (k : Nat) :
    retry.nextBackoff (wait retry (k + 1)) = wait retry (k + 2) := by
  have doubled := min_double (retry.initialBackoff * 2 ^ k) retry.maxBackoff maxDuration
    representable
  have power : retry.initialBackoff * 2 ^ (k + 2 - 1) = retry.initialBackoff * 2 ^ k * 2 := by
    rw [show k + 2 - 1 = k + 1 from rfl, Nat.pow_succ, Nat.mul_assoc]
  unfold WsServerRetryPolicy.nextBackoff wait
  rw [power, Nat.add_sub_cancel]
  exact doubled

theorem wait_one {retry : WsServerRetryPolicy} (valid : retry.validate = .ok ()) :
    wait retry 1 = retry.initialBackoff := by
  have ordered := (WsServerRetryPolicy.validate_eq_ok.mp valid).2.1
  unfold wait
  simp only [Nat.sub_self, Nat.pow_zero, Nat.mul_one]
  exact Nat.min_eq_left ordered

/-- While the budget is not used up, the counter of the task is exact and the
test of the task compares it with the budget. -/
theorem isExhausted_iff {retry : WsServerRetryPolicy} {k : Nat}
    (within : ∀ m, retry.maxAttempts = some m → k < m.toNat) :
    retry.isExhausted (UInt32.ofNat k + 1) = true ↔ Exhausted retry (k + 1) := by
  unfold WsServerRetryPolicy.isExhausted Exhausted
  cases known : retry.maxAttempts with
  | none => simp
  | some m =>
    have below := within m known
    have small := m.toNat_lt
    have exact : (UInt32.ofNat k + 1).toNat = k + 1 := by
      rw [UInt32.toNat_add, UInt32.toNat_ofNat', UInt32.toNat_one]
      omega
    simp only [ge_iff_le, decide_eq_true_eq, UInt32.le_iff_toNat_le, exact, Option.some.injEq,
      exists_eq_left']
    omega

/-- What the last failure still asks for. -/
inductive Stage where
  | settled
  /-- The listener is lost and not dropped yet. -/
  | lost (error : String)
  /-- The decision is due: to wait or to give up. -/
  | failed (error : String)
  /-- The cause is stored, and the status is to follow. -/
  | stored
  deriving DecidableEq

structure Course where
  failures : Nat
  bound : Bool
  stage : Stage

def Course.start : Course := ⟨0, false, .settled⟩

def Course.dropped (m : Course) : Course :=
  match m.stage with
  | .lost error => { m with stage := .failed error }
  | _ => m

def Course.after (m : Course) : ServerEvent → Course
  | ⟨(_, .bindListener _ _), .ok _⟩ => ⟨0, true, .settled⟩
  | ⟨(_, .bindListener _ _), .error error⟩ => ⟨m.failures + 1, m.bound, .failed error⟩
  | ⟨(_, .localAddr), .error error⟩ => ⟨m.failures + 1, m.bound, .lost error⟩
  | ⟨(_, .acceptSelect), .incoming (.error error)⟩ =>
    if isTransientAcceptError error then m else ⟨m.failures + 1, m.bound, .lost error.text⟩
  | ⟨(_, .dropListener), _⟩ => m.dropped
  | ⟨(_, .backoffSelect _), _⟩ => { m with stage := .settled }
  | ⟨(_, .storeTerminal _), _⟩ => { m with stage := .stored }
  | ⟨(_, .publish .terminal), _⟩ => { m with stage := .settled }
  | _ => m

/-- What the task may call, given what is due. -/
def Fits (config : WsServerConfig) (retry : WsServerRetryPolicy) (m : Course) (op : ServerOp) :
    Prop :=
  match m.stage with
  | .settled => (∀ backoff, op ≠ .backoffSelect backoff) ∧
      ∀ error, op = .storeTerminal error → ¬ IsExhaustion error
  | .lost _ => op = .dropListener
  | .failed error =>
      (∃ attempts, retry.maxAttempts = some attempts ∧ m.failures = attempts.toNat ∧
        op = .storeTerminal (cause config m.bound attempts error)) ∨
      ¬ Exhausted retry m.failures ∧ (op = .readTerminal ∨ op = .publish .retrying ∨
        0 < m.failures ∧ op = .backoffSelect (wait retry m.failures))
  | .stored => op = .publish .terminal

/-- After a failure: the end, or the way to the wait. -/
theorem fits_failed {config : WsServerConfig} {retry : WsServerRetryPolicy} {m : Course}
    {op : ServerOp} {error : String} (stage : m.stage = .failed error) :
    Fits config retry m op ↔
      (∃ attempts, retry.maxAttempts = some attempts ∧ m.failures = attempts.toNat ∧
        op = .storeTerminal (cause config m.bound attempts error)) ∨
      ¬ Exhausted retry m.failures ∧ (op = .readTerminal ∨ op = .publish .retrying ∨
        0 < m.failures ∧ op = .backoffSelect (wait retry m.failures)) := by
  simp only [Fits, stage]

def course (config : WsServerConfig) (retry : WsServerRetryPolicy) : ServerMonitor Course where
  step := Course.after
  rely := fun _ _ => True
  safe := fun m e => Fits config retry m e.op.2

section Outline
variable {config : WsServerConfig} {retry : WsServerRetryPolicy} {faults : ServerFaults}
variable {vars : ServerVars} {m : Course}

/-- The variables hold what the next failure needs: its wait, the count of the
earlier ones, and whether a bind has succeeded. -/
structure Ready (retry : WsServerRetryPolicy) (k : Nat) (vars : ServerVars) (m : Course) :
    Prop where
  backoff : vars.backoff = wait retry (k + 1)
  counted : vars.consecutiveFailures = UInt32.ofNat k
  origin : vars.origin = .accept ↔ m.bound = true
  within : ∀ attempts, retry.maxAttempts = some attempts → k < attempts.toNat

/-- Nothing is due, and the variables are ready. -/
def Calm (retry : WsServerRetryPolicy) (vars : ServerVars) (m : Course) : Prop :=
  m.stage = .settled ∧ Ready retry m.failures vars m

/-- A failure has happened that the variables do not count yet. -/
def Behind (retry : WsServerRetryPolicy) (stage : Stage) (vars : ServerVars) (m : Course) : Prop :=
  m.stage = stage ∧ ∃ k, m.failures = k + 1 ∧ Ready retry k vars m

/-- The failure is counted, and the budget is not used up. -/
structure Waiting (retry : WsServerRetryPolicy) (vars : ServerVars) (m : Course) : Prop where
  due : ∃ error, m.stage = .failed error
  left : ¬ Exhausted retry m.failures
  counted : ∃ k, m.failures = k + 1 ∧ vars.backoff = wait retry (k + 1) ∧
    Ready retry (k + 1) { vars with backoff := retry.nextBackoff vars.backoff } m

/-- The cause that is going to be stored: the budget is used up, or it has
nothing to do with retries. -/
def Doomed (config : WsServerConfig) (retry : WsServerRetryPolicy)
    (error : ManagedWsServerTerminalError) (m : Course) : Prop :=
  (∃ text attempts, m.stage = .failed text ∧ retry.maxAttempts = some attempts ∧
    m.failures = attempts.toNat ∧ error = cause config m.bound attempts text) ∨
  m.stage = .settled ∧ ¬ IsExhaustion error

def courseJunctions (config : WsServerConfig) (retry : WsServerRetryPolicy) :
    Junctions Course where
  standing := fun head vars m =>
    match head with
    | .lifecycle | .accepting _ _ => Calm retry vars m
    | .draining | .aborting _ => m.stage = .settled
  binding := Calm retry
  bound := fun _ m => m.stage = .settled ∧ m.failures = 0 ∧ m.bound = true
  listening := Calm retry
  losing := fun error => Behind retry (.lost error)
  failed := fun error => Behind retry (.failed error)
  retrying := Waiting retry
  closing := fun _ m => m.stage = .settled
  leaving := fun _ m => m.stage = .settled
  doomed := fun error _ m => Doomed config retry error m
  stored := fun _ m => m.stage = .stored
  terminal := fun _ m => m.stage = .settled
  incoming := Calm retry
  acquired := Calm retry
  identified := fun _ => Calm retry
  subscribed := fun _ _ => Calm retry
  overdue := fun _ m => m.stage = .settled
  emptied := fun _ m => m.stage = .settled
  done := fun _ m => m.stage = .settled

/-- Calls that change nothing while nothing is due. -/
def Plain : ServerOp → Prop
  | .bindListener _ _ | .localAddr | .acceptSelect | .backoffSelect _ | .storeTerminal _ => False
  | _ => True

theorem settled_plain {op : ServerOp} (plain : Plain op) (settled : m.stage = .settled)
    (answer : op.Res) :
    Fits config retry m op ∧ m.after ⟨(vars, op), answer⟩ = m := by
  obtain ⟨failures, bound, stage⟩ := m
  subst settled
  refine ⟨⟨fun backoff same => ?_, fun error same => ?_⟩, ?_⟩
  · subst same
    exact plain
  · subst same
    exact False.elim plain
  · cases op with
    | publish status => cases status <;> rfl
    | bindListener addr backlog => exact False.elim plain
    | localAddr => exact False.elim plain
    | acceptSelect => exact False.elim plain
    | backoffSelect backoff => exact False.elim plain
    | storeTerminal error => exact False.elim plain
    | _ => rfl

/-- A plain call keeps every assertion under which nothing is due. -/
theorem plain_asks (op : ServerOp) (plain : Plain op) (settled : m.stage = .settled)
    {post : op.Res → ServerVars → Course → Prop} (next : ∀ answer, post answer vars m) :
    (course config retry).ensures post (ask op) vars m := by
  intro answer _
  obtain ⟨fits, same⟩ := @settled_plain config retry vars m op plain settled answer
  refine ⟨fits, ?_⟩
  change post answer vars (m.after ⟨(vars, op), answer⟩)
  rw [same]
  exact next answer

/-- While nothing is due, a call other than a wait or the end by retries fits. -/
theorem fits_settled {op : ServerOp} (settled : m.stage = .settled)
    (noWait : ∀ backoff, op ≠ .backoffSelect backoff)
    (noEnd : ∀ error, op = .storeTerminal error → ¬ IsExhaustion error) :
    Fits config retry m op := by
  unfold Fits
  rw [settled]
  exact ⟨noWait, noEnd⟩

/-- `set_status` changes nothing here, except for the status `Terminal`. -/
theorem sets_same {status : ManagedWsServerStatus} (other : status ≠ .terminal)
    (reads : Fits config retry m .readTerminal) (tells : Fits config retry m (.publish status)) :
    (course config retry).ensures (fun _ vars' m' => vars' = vars ∧ m' = m) (setStatus status)
      vars m := by
  have asked : (course config retry).ensures (fun _ vars' m' => vars' = vars ∧ m' = m)
      (ask .readTerminal) vars m := fun _ _ => ⟨reads, rfl, rfl⟩
  refine (course config retry).ensures_seq asked ?_
  rintro stored _ _ ⟨rfl, rfl⟩
  apply (course config retry).ensures_ite
  · exact fun _ => ⟨rfl, rfl⟩
  · intro _ _ _
    refine ⟨tells, rfl, ?_⟩
    cases status with
    | terminal => exact absurd rfl other
    | _ => rfl

theorem settled_sets {status : ManagedWsServerStatus} (other : status ≠ .terminal)
    (settled : m.stage = .settled) {post : ServerVars → Course → Prop} (holds : post vars m) :
    (course config retry).ensures (fun _ => post) (setStatus status) vars m := by
  refine (course config retry).ensures_mono ?_
    (sets_same other (fits_settled settled nofun nofun) (fits_settled settled nofun nofun))
  rintro _ _ _ ⟨rfl, rfl⟩
  exact holds

theorem calm_binds (calm : Calm retry vars m) :
    (course config retry).ensures
      (orFail (fun () => (courseJunctions config retry).bound)
        (courseJunctions config retry).failed)
      (ask (.bindListener config.bindAddr config.backlog) : ServerProc (Except String Unit))
      vars m := by
  intro (result : Except String Unit) _
  refine ⟨fits_settled calm.1 nofun nofun, ?_⟩
  cases result with
  | ok => exact ⟨rfl, rfl, rfl⟩
  | error error =>
    obtain ⟨backoff, counted, origin, within⟩ := calm.2
    exact ⟨rfl, m.failures, rfl, backoff, counted, origin, within⟩

theorem calm_locates (calm : Calm retry vars m) :
    (course config retry).ensures
      (orFail (fun addr => (courseJunctions config retry).standing (.accepting addr 0))
        (courseJunctions config retry).losing)
      (ask .localAddr : ServerProc (Except String SocketAddr)) vars m := by
  intro (result : Except String SocketAddr) _
  refine ⟨fits_settled calm.1 nofun nofun, ?_⟩
  cases result with
  | ok localAddr => exact calm
  | error error =>
    obtain ⟨backoff, counted, origin, within⟩ := calm.2
    exact ⟨rfl, m.failures, rfl, backoff, counted, origin, within⟩

theorem calm_accepts {localAddr : SocketAddr} {accepted : UInt64} (calm : Calm retry vars m) :
    (course config retry).ensures
      ((courseJunctions config retry).afterAccept localAddr accepted)
      (ask .acceptSelect : ServerProc AcceptArm) vars m := by
  intro (arm : AcceptArm) _
  refine ⟨fits_settled calm.1 nofun nofun, ?_⟩
  rcases arm with _ | task | error | peerAddr
  · exact calm.1
  · exact calm
  · change (courseJunctions config retry).afterAccept localAddr accepted (.incoming (.error error))
      vars (if isTransientAcceptError error then m
        else ⟨m.failures + 1, m.bound, .lost error.text⟩)
    rw [Junctions.afterAccept]
    by_cases transient : isTransientAcceptError error = true
    · rw [if_pos transient, if_pos transient]
      exact calm
    · rw [if_neg transient, if_neg transient]
      obtain ⟨backoff, counted, origin, within⟩ := calm.2
      exact ⟨rfl, m.failures, rfl, backoff, counted, origin, within⟩
  · exact calm

theorem behind_drops {error : String} (behind : Behind retry (.lost error) vars m) :
    (course config retry).ensures (fun _ => Behind retry (.failed error)) (ask .dropListener)
      vars m := by
  obtain ⟨stage, k, counted, backoff, failures, origin, within⟩ := behind
  intro _ _
  have fits : Fits config retry m .dropListener := by
    unfold Fits
    rw [stage]
  refine ⟨fits, ?_⟩
  change Behind retry (.failed error) vars m.dropped
  unfold Course.dropped
  rw [stage]
  exact ⟨rfl, k, counted, backoff, failures, origin, within⟩

/-- The last failure of the budget: the count and the origin are in the cause. -/
theorem behind_exhausts {error : String} (behind : Behind retry (.failed error) vars m)
    {counted : ServerVars}
    (counts : counted = { vars with consecutiveFailures := vars.consecutiveFailures + 1 })
    (exhausted : retry.isExhausted counted.consecutiveFailures = true) :
    Doomed config retry (exhaustion config counted error) m := by
  subst counts
  obtain ⟨stage, k, failures, ready⟩ := behind
  rw [ready.counted] at exhausted
  obtain ⟨attempts, budget, reached⟩ := (isExhausted_iff ready.within).mp exhausted
  refine Or.inl ⟨error, attempts, stage, budget, failures.trans reached, ?_⟩
  have exact : vars.consecutiveFailures + 1 = attempts := by
    rw [ready.counted]
    apply UInt32.toNat_inj.mp
    have small := attempts.toNat_lt
    rw [UInt32.toNat_add, UInt32.toNat_ofNat', UInt32.toNat_one]
    omega
  unfold exhaustion cause
  cases origin : vars.origin with
  | accept =>
    rw [if_pos (ready.origin.mp origin)]
    simp only [exact]
  | bind =>
    have unbound : ¬ m.bound = true := by
      intro bound
      rw [ready.origin.mpr bound] at origin
      cases origin
    rw [if_neg unbound]
    simp only [exact]

/-- Before the budget is used up the retry is announced. -/
theorem behind_retries (representable : retry.maxBackoff ≤ maxDuration) {error : String}
    (behind : Behind retry (.failed error) vars m) {counted : ServerVars}
    (counts : counted = { vars with consecutiveFailures := vars.consecutiveFailures + 1 })
    (left : ¬ retry.isExhausted counted.consecutiveFailures = true) :
    (course config retry).ensures (fun _ => Waiting retry) (setStatus .retrying) counted m := by
  subst counts
  obtain ⟨stage, k, failures, ready⟩ := behind
  have notExhausted : ¬ Exhausted retry m.failures := by
    rw [failures, ← isExhausted_iff ready.within, ← ready.counted]
    exact left
  have waiting : Waiting retry
      { vars with consecutiveFailures := vars.consecutiveFailures + 1 } m := by
    refine ⟨⟨error, stage⟩, notExhausted, k, failures, ready.backoff, ?_, ?_, ready.origin, ?_⟩
    · simp only [ready.backoff]
      exact nextBackoff_wait representable k
    · simp only [ready.counted]
      exact (UInt32.ofNat_add k 1).symm
    · intro attempts budget
      have below := ready.within attempts budget
      have unequal : k + 1 ≠ attempts.toNat := by
        intro same
        exact notExhausted ⟨attempts, budget, failures.trans same⟩
      omega
  have fits : ∀ op, op = .readTerminal ∨ op = .publish .retrying → Fits config retry m op := by
    intro op prepares
    refine (fits_failed stage).mpr (Or.inr ⟨notExhausted, ?_⟩)
    rcases prepares with rfl | rfl
    · exact Or.inl rfl
    · exact Or.inr (Or.inl rfl)
  refine (course config retry).ensures_mono ?_
    (sets_same (by decide) (fits _ (Or.inl rfl)) (fits _ (Or.inr rfl)))
  rintro _ _ _ ⟨rfl, rfl⟩
  exact waiting

theorem waiting_waits (waiting : Waiting retry vars m) :
    (course config retry).ensures ((courseJunctions config retry).afterBackoff retry)
      (ask (.backoffSelect vars.backoff) : ServerProc BackoffArm) vars m := by
  obtain ⟨⟨error, stage⟩, left, k, failures, backoff, ready⟩ := waiting
  intro (arm : BackoffArm) _
  have fits : Fits config retry m (.backoffSelect vars.backoff) := by
    refine (fits_failed stage).mpr (Or.inr ⟨left, Or.inr (Or.inr ⟨?_, ?_⟩)⟩)
    · rw [failures]
      exact Nat.succ_pos k
    · rw [backoff, failures]
  refine ⟨fits, ?_⟩
  cases arm with
  | shutdown => rfl
  | elapsed =>
    refine ⟨rfl, ?_⟩
    change Ready retry m.failures _ _
    rw [failures]
    exact ⟨ready.backoff, ready.counted, ready.origin, ready.within⟩

theorem doomed_stores {error : ManagedWsServerTerminalError}
    (doomed : Doomed config retry error m) :
    (course config retry).ensures (fun _ _ m => m.stage = .stored) (ask (.storeTerminal error))
      vars m := by
  intro _ _
  refine ⟨?_, rfl⟩
  rcases doomed with ⟨text, attempts, stage, budget, failures, same⟩ | ⟨settled, other⟩
  · refine (fits_failed stage).mpr (Or.inl ⟨attempts, budget, failures, ?_⟩)
    rw [same]
  · refine fits_settled settled nofun fun stored same => ?_
    rw [← ServerOp.storeTerminal.inj same]
    exact other

theorem course_outline (config : WsServerConfig) {retry : WsServerRetryPolicy}
    (valid : retry.validate = .ok ()) (representable : retry.maxBackoff ≤ maxDuration)
    (faults : ServerFaults) :
    Outline (course config retry) config retry faults (courseJunctions config retry) where
  poll := fun calm => plain_asks .readShutdown trivial calm.1 fun (requested : Bool) => by
    cases requested with
    | true => exact calm.1
    | false => exact calm
  bind := calm_binds
  announce := by
    rintro vars m ⟨settled, none, bound⟩
    refine settled_sets (by decide) settled ⟨settled, ?_⟩
    rw [none]
    refine ⟨(wait_one valid).symm, rfl, ⟨fun _ => bound, fun _ => rfl⟩, fun attempts budget => ?_⟩
    refine Nat.pos_of_ne_zero fun zero => (WsServerRetryPolicy.validate_eq_ok.mp valid).2.2 ?_
    have noAttempts : attempts = 0 := UInt32.toNat_inj.mp zero
    rw [budget, noAttempts]
  locate := calm_locates
  lose := behind_drops
  exhaust := fun behind _ counts exhausted => behind_exhausts behind counts exhausted
  again := fun behind _ counts left => behind_retries representable behind counts left
  wait := waiting_waits
  fault := fun calm _ => plain_asks .dropListener trivial calm.1 fun _ => Or.inr ⟨calm.1, id⟩
  accept := calm_accepts
  acquire := fun calm _ _ => plain_asks (.tryAcquire _) trivial calm.1 fun (acquired : Bool) => by
    cases acquired <;> exact calm
  identify := fun calm => plain_asks .nextConnectionId trivial calm.1 fun _ => calm
  subscribe := fun calm => plain_asks .subscribe trivial calm.1 fun _ => calm
  spawn := fun calm _ _ _ => plain_asks (.spawn _ _) trivial calm.1 fun _ => calm
  close := fun settled => plain_asks .dropListener trivial settled fun _ => settled
  leave := by
    intro vars m settled
    exact settled_sets (by decide) settled settled
  store := doomed_stores
  tell := by
    intro vars m stored _ _
    have fits : Fits config retry m (.publish .terminal) := by
      unfold Fits
      rw [stored]
    exact ⟨fits, rfl⟩
  abort := fun settled => plain_asks .abortAll trivial settled fun _ => settled
  drain := fun settled => plain_asks (.drainNext _) trivial settled fun (arm : DrainArm) => by
    cases arm <;> exact settled
  giveUp := fun settled => plain_asks .abortAll trivial settled fun _ => settled
  join := by
    intro thenStop vars m settled
    refine plain_asks .joinNext trivial settled fun (task : Option Nat) => ?_
    cases task <;> cases thenStop <;> exact settled
  stop := by
    intro vars m settled
    exact settled_sets (by decide) settled settled

end Outline

section Runs
variable {config : WsServerConfig} {retry : WsServerRetryPolicy} {faults : ServerFaults}

/-- What one call does to the two counters of the summary. -/
theorem after_counters (m : Course) (e : ServerEvent) :
    ((m.after e).failures =
      if Binds e then 0 else m.failures + if (failure e).isSome then 1 else 0) ∧
    (m.after e).bound = (m.bound || Binds e) := by
  obtain ⟨⟨vars, op⟩, answer⟩ := e
  cases op with
  | bindListener addr backlog =>
    revert answer
    change ∀ answer : Except String Unit, _
    rintro (error | ok)
    · exact ⟨rfl, (Bool.or_false _).symm⟩
    · exact ⟨rfl, (Bool.or_true _).symm⟩
  | localAddr =>
    revert answer
    change ∀ answer : Except String SocketAddr, _
    rintro (error | ok)
    · exact ⟨rfl, (Bool.or_false _).symm⟩
    · exact ⟨rfl, (Bool.or_false _).symm⟩
  | acceptSelect =>
    revert answer
    change ∀ answer : AcceptArm, _
    rintro (_ | task | error | peerAddr)
    · exact ⟨rfl, (Bool.or_false _).symm⟩
    · exact ⟨rfl, (Bool.or_false _).symm⟩
    · by_cases transient : isTransientAcceptError error = true
      · simp [Course.after, Binds, failure, transient]
      · simp [Course.after, Binds, failure, transient]
    · exact ⟨rfl, (Bool.or_false _).symm⟩
  | dropListener =>
    have same : m.dropped.failures = m.failures ∧ m.dropped.bound = m.bound := by
      unfold Course.dropped
      split <;> exact ⟨rfl, rfl⟩
    exact ⟨same.1, same.2.trans (Bool.or_false _).symm⟩
  | publish status => cases status <;> exact ⟨rfl, (Bool.or_false _).symm⟩
  | _ => exact ⟨rfl, (Bool.or_false _).symm⟩

theorem run_failures (trace : List ServerEvent) :
    ((course config retry).run .start trace).failures = failuresSince trace :=
  counter_eq_countSince (fun m e => (after_counters m e).1) rfl trace

theorem run_bound (trace : List ServerEvent) :
    ((course config retry).run .start trace).bound = everBound trace := by
  induction trace using List.reverseRecOn with
  | nil => rfl
  | append_singleton trace e ih =>
    rw [Monitor.run_append]
    refine (after_counters _ e).2.trans ?_
    rw [ih]
    simp [everBound]

/-- A failure is due, and its text is known. -/
def Unanswered (error : String) (m : Course) : Prop :=
  m.stage = .lost error ∨ m.stage = .failed error

theorem due_of_failure {m : Course} {e : ServerEvent} {error : String}
    (failed : failure e = some error) : Unanswered error (m.after e) := by
  obtain ⟨⟨vars, op⟩, answer⟩ := e
  cases op with
  | bindListener addr backlog =>
    revert answer
    change ∀ answer : Except String Unit, _
    rintro (text | ok) failed
    · exact Or.inr (congrArg Stage.failed (Option.some.inj failed))
    · cases failed
  | localAddr =>
    revert answer
    change ∀ answer : Except String SocketAddr, _
    rintro (text | ok) failed
    · exact Or.inl (congrArg Stage.lost (Option.some.inj failed))
    · cases failed
  | acceptSelect =>
    revert answer
    change ∀ answer : AcceptArm, _
    rintro (_ | task | lost | peerAddr) failed
    · cases failed
    · cases failed
    · by_cases transient : isTransientAcceptError lost = true
      · simp [failure, transient] at failed
      · simp only [failure, transient, Bool.false_eq_true, if_false, Option.some.injEq] at failed
        simp [Unanswered, Course.after, transient, failed]
    · cases failed
  | _ => cases failed

/-- Preparations leave the failure due and the counters alone. -/
theorem due_prepares {m : Course} {e : ServerEvent} {error : String}
    (preparatory : Preparatory e.op.2) (due : Unanswered error m) :
    Unanswered error (m.after e) ∧ (m.after e).failures = m.failures ∧
      (m.after e).bound = m.bound := by
  obtain ⟨⟨vars, op⟩, answer⟩ := e
  cases op with
  | dropListener =>
    change Unanswered error m.dropped ∧ m.dropped.failures = m.failures ∧ m.dropped.bound = m.bound
    unfold Course.dropped
    rcases due with lost | failed
    · simp [Unanswered, lost]
    · simp [Unanswered, failed]
  | readTerminal => exact ⟨due, rfl, rfl⟩
  | publish status =>
    cases status with
    | retrying => exact ⟨due, rfl, rfl⟩
    | _ => exact False.elim preparatory
  | _ => exact False.elim preparatory

theorem due_run {error : String} {calm : List ServerEvent}
    (preparatory : ∀ d ∈ calm, Preparatory d.op.2) {m : Course} (due : Unanswered error m) :
    Unanswered error ((course config retry).run m calm) ∧
      ((course config retry).run m calm).failures = m.failures ∧
      ((course config retry).run m calm).bound = m.bound := by
  induction calm generalizing m with
  | nil => exact ⟨due, rfl, rfl⟩
  | cons e calm ih =>
    obtain ⟨still, failures, bound⟩ := due_prepares (preparatory e (by simp)) due
    obtain ⟨later, failures', bound'⟩ := ih (fun d member => preparatory d (by simp [member])) still
    exact ⟨later, failures'.trans failures, bound'.trans bound⟩

/-- The call that decides: giving up when the budget is used up, else the wait. -/
theorem decision {m : Course} {error : String} {op : ServerOp} (due : Unanswered error m)
    (fits : Fits config retry m op) (decides : ¬ Preparatory op) :
    (∃ attempts, retry.maxAttempts = some attempts ∧ m.failures = attempts.toNat ∧
      op = .storeTerminal (cause config m.bound attempts error)) ∨
    ¬ Exhausted retry m.failures ∧ op = .backoffSelect (wait retry m.failures) := by
  rcases due with lost | failed
  · simp only [Fits, lost] at fits
    subst fits
    exact absurd trivial decides
  · rcases (fits_failed failed).mp fits with givesUp | ⟨left, rfl | rfl | ⟨-, waits⟩⟩
    · exact Or.inl givesUp
    · exact absurd trivial decides
    · exact absurd trivial decides
    · exact Or.inr ⟨left, waits⟩

/-- A wait is called for by a failure, and lasts as long as that says. -/
theorem wait_fits {m : Course} {backoff : Duration}
    (fits : Fits config retry m (.backoffSelect backoff)) :
    0 < m.failures ∧ backoff = wait retry m.failures := by
  cases stage : m.stage with
  | settled =>
    simp only [Fits, stage] at fits
    exact absurd rfl (fits.1 backoff)
  | lost text =>
    simp only [Fits, stage] at fits
    cases fits
  | failed text =>
    rcases (fits_failed stage).mp fits with
      ⟨attempts, -, -, other⟩ | ⟨-, other | other | ⟨positive, same⟩⟩
    · cases other
    · cases other
    · cases other
    · exact ⟨positive, ServerOp.backoffSelect.inj same⟩
  | stored =>
    simp only [Fits, stage] at fits
    cases fits

/-- An end through retries is called for by the failure that uses up the budget. -/
theorem end_fits {m : Course} {error : ManagedWsServerTerminalError}
    (fits : Fits config retry m (.storeTerminal error)) (exhaustion : IsExhaustion error) :
    ∃ attempts text, retry.maxAttempts = some attempts ∧ m.failures = attempts.toNat ∧
      error = cause config m.bound attempts text := by
  cases stage : m.stage with
  | settled =>
    simp only [Fits, stage] at fits
    exact absurd exhaustion (fits.2 error rfl)
  | lost text =>
    simp only [Fits, stage] at fits
    cases fits
  | failed text =>
    rcases (fits_failed stage).mp fits with
      ⟨attempts, budget, reached, same⟩ | ⟨-, other | other | ⟨-, other⟩⟩
    · exact ⟨attempts, text, budget, reached, ServerOp.storeTerminal.inj same⟩
    · cases other
    · cases other
    · cases other
  | stored =>
    simp only [Fits, stage] at fits
    cases fits

/-- The schedule: how long the server waits, when it gives up, and how. -/
structure RetrySchedule (config : WsServerConfig) (retry : WsServerRetryPolicy)
    (trace : List ServerEvent) : Prop where
  /-- Every wait is the one of the last failure. -/
  waits : ∀ before vars backoff arm after,
    trace = before ++ ⟨(vars, .backoffSelect backoff), arm⟩ :: after →
    0 < failuresSince before ∧ backoff = wait retry (failuresSince before)
  /-- Every failure within the budget is followed by its wait. -/
  retries : ∀ before e error after, trace = before ++ e :: after → failure e = some error →
    ¬ Exhausted retry (failuresSince (before ++ [e])) →
    NextCall after (.backoffSelect (wait retry (failuresSince (before ++ [e]))))
  /-- The failure that uses up the budget is followed by the end. -/
  givesUp : ∀ before e error after attempts, trace = before ++ e :: after →
    failure e = some error → retry.maxAttempts = some attempts →
    failuresSince (before ++ [e]) = attempts.toNat →
    NextCall after (.storeTerminal (cause config (everBound before) attempts error))
  /-- There is no other end through retries. -/
  only : ∀ before vars error answer after,
    trace = before ++ ⟨(vars, .storeTerminal error), answer⟩ :: after → IsExhaustion error →
    ∃ attempts text, retry.maxAttempts = some attempts ∧
      failuresSince before = attempts.toNat ∧ error = cause config (everBound before) attempts text
  /-- The status follows the stored cause at once. -/
  terminal : ∀ before vars error answer e after,
    trace = before ++ ⟨(vars, .storeTerminal error), answer⟩ :: e :: after →
    e.op.2 = .publish .terminal
  unlimited : retry.maxAttempts = none → ∀ e ∈ trace, ∀ error,
    e.op.2 = .storeTerminal error → ¬ IsExhaustion error

/-- The run of a server task from its start: its calls, and where it stands. -/
abbrev ServerRun (config : WsServerConfig) (retry : WsServerRetryPolicy) (faults : ServerFaults)
    (trace : List ServerEvent)
    (q : Prog (serverSignature.showing ServerVars)
      ((ServerHead × ServerVars) ⊕ (Unit × ServerVars))) : Prop :=
  Reaches (Proc.turn (runServer config retry faults))
    (.ret (.inl (.lifecycle, initialVars retry))) trace q

/-- Between a failure and its decision the task is not finished. -/
theorem running_of_unanswered {error : String} {m : Course}
    {q : Prog (serverSignature.showing ServerVars)
      ((ServerHead × ServerVars) ⊕ (Unit × ServerVars))}
    (owed : (course config retry).wp
      (Owes (fun c m => (courseJunctions config retry).standing c.1 c.2 m)
        fun r m => (courseJunctions config retry).done r.2 m) q m)
    (due : Unanswered error m) : ∃ op next, q = .call op next := by
  have unsettled : m.stage ≠ .settled := by
    rcases due with lost | failed
    · rw [lost]
      exact nofun
    · rw [failed]
      exact nofun
  match q with
  | .call op next => exact ⟨op, next, rfl⟩
  | .ret (.inr r) => exact absurd owed unsettled
  | .ret (.inl (head, vars)) =>
    cases head with
    | lifecycle => exact absurd owed.1 unsettled
    | accepting localAddr accepted => exact absurd owed.1 unsettled
    | draining => exact absurd owed unsettled
    | aborting thenStop => exact absurd owed unsettled

theorem unanswered_at (config : WsServerConfig) (retry : WsServerRetryPolicy)
    (before : List ServerEvent) {e : ServerEvent} {error : String}
    (failed : failure e = some error) :
    Unanswered error ((course config retry).run .start (before ++ [e])) := by
  rw [Monitor.run_append]
  exact due_of_failure failed

/-- The summary at the decision about a failure is that of the failure. -/
theorem decided {trace : List ServerEvent}
    (safe : (course config retry).Along (course config retry).safe .start trace)
    {before : List ServerEvent} {e : ServerEvent} {error : String} {after : List ServerEvent}
    (split : trace = before ++ e :: after) (failed : failure e = some error)
    {calm : List ServerEvent} {d : ServerEvent} {rest : List ServerEvent}
    (later : after = calm ++ d :: rest) (preparatory : ∀ x ∈ calm, Preparatory x.op.2)
    (decides : ¬ Preparatory d.op.2) :
    (∃ attempts, retry.maxAttempts = some attempts ∧
      failuresSince (before ++ [e]) = attempts.toNat ∧
      d.op.2 = .storeTerminal (cause config (everBound before) attempts error)) ∨
    ¬ Exhausted retry (failuresSince (before ++ [e])) ∧
      d.op.2 = .backoffSelect (wait retry (failuresSince (before ++ [e]))) := by
  have cut : trace = (before ++ [e] ++ calm) ++ d :: rest := by
    rw [split, later]
    simp
  have fits := (course config retry).along_iff.mp safe _ _ _ cut
  rw [Monitor.run_append] at fits
  have failures : ((course config retry).run .start (before ++ [e])).failures =
      failuresSince (before ++ [e]) := run_failures _
  have bound : ((course config retry).run .start (before ++ [e])).bound = everBound before := by
    have notBinding : Binds e = false := by
      by_contra binds
      unfold Binds at binds
      split at binds
      · cases failed
      · exact binds rfl
    rw [run_bound]
    simp [everBound, notBinding]
  have due := unanswered_at config retry before failed
  obtain ⟨still, sameFailures, sameBound⟩ := due_run preparatory due
  have decided := decision still fits decides
  rw [sameFailures, sameBound, failures, bound] at decided
  exact decided

/-- Every run of the server keeps the retry schedule, and it does not end between
a failure and the decision about it. -/
theorem retry_schedule {trace : List ServerEvent}
    {q : Prog (serverSignature.showing ServerVars)
      ((ServerHead × ServerVars) ⊕ (Unit × ServerVars))}
    (valid : retry.validate = .ok ()) (representable : retry.maxBackoff ≤ maxDuration)
    (run : ServerRun config retry faults trace q) :
    RetrySchedule config retry trace ∧
      ∀ before e error after, trace = before ++ e :: after → failure e = some error →
        (∀ d ∈ after, Preparatory d.op.2) → ∃ op next, q = .call op next := by
  have outline := course_outline config valid representable faults
  have begins : (courseJunctions config retry).standing .lifecycle (initialVars retry) .start := by
    refine ⟨rfl, (wait_one valid).symm, rfl, ⟨nofun, nofun⟩, fun attempts budget => ?_⟩
    refine Nat.pos_of_ne_zero fun zero => (WsServerRetryPolicy.validate_eq_ok.mp valid).2.2 ?_
    have noAttempts : attempts = 0 := UInt32.toNat_inj.mp zero
    rw [budget, noAttempts]
  have relied : (course config retry).Along (course config retry).rely .start trace :=
    (course config retry).along_iff.mpr fun _ _ _ _ => trivial
  obtain ⟨safe, owed⟩ := (course config retry).loop_rule
    (fun head vars m standing => outline.turns head vars m standing) begins run relied
  have cutSafe := (course config retry).along_iff.mp safe
  have only : ∀ before vars error answer after,
      trace = before ++ ⟨(vars, .storeTerminal error), answer⟩ :: after → IsExhaustion error →
      ∃ attempts text, retry.maxAttempts = some attempts ∧ failuresSince before = attempts.toNat ∧
        error = cause config (everBound before) attempts text := by
    intro before vars error answer after cut exhaustion
    have found := end_fits (cutSafe _ _ _ cut) exhaustion
    rw [run_failures, run_bound] at found
    exact found
  refine ⟨⟨?_, ?_, ?_, only, ?_, ?_⟩, ?_⟩
  · intro before vars backoff arm after cut
    have found := wait_fits (cutSafe _ _ _ cut)
    rw [run_failures] at found
    exact found
  · intro before e error after split failed left calm d rest later preparatory decides
    rcases decided safe split failed later preparatory decides with
      ⟨attempts, budget, reached, -⟩ | ⟨-, waits⟩
    · exact absurd ⟨attempts, budget, reached⟩ left
    · exact waits
  · intro before e error after attempts split failed budget reached calm d rest later preparatory
      decides
    rcases decided safe split failed later preparatory decides with
      ⟨found, known, -, stores⟩ | ⟨left, -⟩
    · obtain rfl := Option.some.inj (budget.symm.trans known)
      exact stores
    · exact absurd ⟨attempts, budget, reached⟩ left
  · intro before vars error answer e after cut
    have fits := cutSafe (before ++ [⟨(vars, .storeTerminal error), answer⟩]) e after
      (by rw [cut]; simp)
    rw [Monitor.run_append] at fits
    exact fits
  · intro unlimited e member error stores exhaustion
    obtain ⟨before, after, cut⟩ := List.append_of_mem member
    obtain ⟨⟨vars, op⟩, answer⟩ := e
    subst stores
    obtain ⟨attempts, text, budget, -⟩ := only before vars error answer after cut exhaustion
    rw [unlimited] at budget
    cases budget
  · intro before e error after split failed preparatory
    have still : Unanswered error
        ((course config retry).run ((course config retry).run .start (before ++ [e])) after) :=
      (due_run preparatory (unanswered_at config retry before failed)).1
    rw [← Monitor.run_append] at still
    have whole : trace = before ++ [e] ++ after := by
      rw [split]
      simp
    rw [← whole] at still
    exact running_of_unanswered owed still

/-- The answers to a server whose address is in use. -/
def inUse (_ : Nat) : (op : ServerVars × ServerOp) → op.2.Res
  | (_, .readShutdown) => false
  | (_, .bindListener _ _) => .error "address in use"
  | (_, .localAddr) => .error "no listener"
  | (_, .dropListener) => ()
  | (_, .readTerminal) => none
  | (_, .storeTerminal _) => ()
  | (_, .publish _) => ()
  | (_, .acceptSelect) => .shutdown
  | (_, .tryAcquire _) => false
  | (_, .nextConnectionId) => (0 : UInt64)
  | (_, .subscribe) => ⟨0, 0⟩
  | (_, .spawn _ _) => ()
  | (_, .backoffSelect _) => .elapsed
  | (_, .drainNext _) => .empty
  | (_, .abortAll) => ()
  | (_, .joinNext) => none

/-- Two attempts at it: one wait, then the end. -/
theorem two_failed_binds :
    let retry := { WsServerRetryPolicy.default with maxAttempts := some 2 }
    ∃ trace q, ServerRun (.new (.v4 0 80)) retry ⟨none⟩ trace q ∧
      trace.map (fun e => e.op.2) =
        [.readShutdown, .bindListener (.v4 0 80) 1024, .readTerminal, .publish .retrying,
          .backoffSelect (100 * 1000000), .readShutdown, .bindListener (.v4 0 80) 1024,
          .storeTerminal (.bindRetryExhausted (.v4 0 80) 2 "address in use")] ∧
      RetrySchedule (.new (.v4 0 80)) retry trace := by
  intro retry
  have run := (play_reaches inUse 8 0 _ : ServerRun (.new (.v4 0 80)) retry ⟨none⟩ _ _)
  exact ⟨_, _, run, rfl, (retry_schedule rfl (by decide) run).1⟩

end Runs
end BindRetry
