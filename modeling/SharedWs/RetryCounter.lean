import SharedWs.BindRetry

/-!
# The counter of consecutive failures

`run_server` counts its failures in a `u32` and adds one at each of them. With a retry budget the
counter stays below the budget at every call, so the sum is representable. Without one nothing
stops the count: a run of failed binds reaches the largest value, and the next addition overflows.
-/
namespace RetryCounter

open BindRetry InteractionPrograms InteractionMonitors InteractionMonitors.Monitor
open ServerOutline ServerTask ServerTypes

/-- Every addition to the counter is exact: at each failure the counter of the task is below its
largest value. -/
def NoOverflow (trace : List ServerEvent) : Prop :=
  ∀ e ∈ trace, (failure e).isSome = true → e.op.1.consecutiveFailures.toNat + 1 < UInt32.size

/-- The calls that can fail in a way that is counted. -/
def Counts : ServerOp → Prop
  | .bindListener _ _ | .localAddr | .acceptSelect => True
  | _ => False

theorem counts_of_failure {e : ServerEvent} (failed : (failure e).isSome = true) :
    Counts e.op.2 := by
  obtain ⟨⟨vars, op⟩, answer⟩ := e
  cases op with
  | bindListener addr backlog => trivial
  | localAddr => trivial
  | acceptSelect => trivial
  | _ => cases failed

section Budget
variable {attempts : UInt32} {config : WsServerConfig} {retry : WsServerRetryPolicy}
variable {vars : ServerVars}

def Below (attempts : UInt32) (vars : ServerVars) (_ : Unit) : Prop :=
  vars.consecutiveFailures < attempts

/-- At a call that can fail the counter is below the budget. -/
def budget (attempts : UInt32) : ServerMonitor Unit where
  step := fun _ _ => ()
  rely := fun _ _ => True
  safe := fun m e => Counts e.op.2 → Below attempts e.op.1 m

theorem asks (op : ServerOp) (below : Below attempts vars ())
    {post : op.Res → ServerVars → Unit → Prop} (next : ∀ answer, post answer vars ()) :
    (budget attempts).ensures post (ask op) vars () :=
  fun answer _ => ⟨fun _ => below, next answer⟩

theorem plain_asks (op : ServerOp) (plain : ¬ Counts op)
    {post : op.Res → ServerVars → Unit → Prop} (next : ∀ answer, post answer vars ()) :
    (budget attempts).ensures post (ask op) vars () :=
  fun answer _ => ⟨fun counts => absurd counts plain, next answer⟩

theorem sets (status : ManagedWsServerStatus) {post : ServerVars → Unit → Prop}
    (holds : post vars ()) :
    (budget attempts).ensures (fun _ => post) (setStatus status) vars () := by
  have read : (budget attempts).ensures (fun _ vars' _ => vars' = vars) (ask .readTerminal)
      vars () := plain_asks .readTerminal id fun _ => rfl
  refine (budget attempts).ensures_seq read ?_
  rintro stored _ _ rfl
  apply (budget attempts).ensures_ite
  · exact fun _ => holds
  · exact fun _ => plain_asks (.publish status) id fun _ => holds

def budgetJunctions (attempts : UInt32) : Junctions Unit where
  standing := fun head vars m =>
    match head with
    | .lifecycle | .accepting _ _ => Below attempts vars m
    | .draining | .aborting _ => True
  binding := Below attempts
  bound := fun _ _ => True
  listening := Below attempts
  losing := fun _ => Below attempts
  failed := fun _ => Below attempts
  retrying := Below attempts
  closing := fun _ _ => True
  leaving := fun _ _ => True
  doomed := fun _ _ _ => True
  stored := fun _ _ => True
  terminal := fun _ _ => True
  incoming := Below attempts
  acquired := Below attempts
  identified := fun _ => Below attempts
  subscribed := fun _ _ => Below attempts
  overdue := fun _ _ => True
  emptied := fun _ _ => True
  done := fun _ _ => True

/-- A count that does not use up the budget is below it. -/
theorem below_of_left {count : UInt32} (limited : retry.maxAttempts = some attempts)
    (left : ¬ retry.isExhausted count = true) : count < attempts := by
  simpa [WsServerRetryPolicy.isExhausted, limited] using left

theorem budget_outline (config : WsServerConfig) (limited : retry.maxAttempts = some attempts)
    (positive : 0 < attempts) (faults : ServerFaults) :
    Outline (budget attempts) config retry faults (budgetJunctions attempts) where
  poll := fun below => plain_asks _ id fun (requested : Bool) => by
    cases requested with
    | true => trivial
    | false => exact below
  bind := fun below => asks _ below fun (result : Except String Unit) => by
    cases result with
    | ok => trivial
    | error error => exact below
  announce := fun _ => sets _ positive
  locate := fun below => asks _ below fun (result : Except String SocketAddr) => by
    cases result <;> exact below
  lose := fun below => plain_asks _ id fun _ => below
  exhaust := fun _ _ _ _ => trivial
  again := fun _ counted _ left => sets _ (below_of_left limited left)
  wait := fun below => plain_asks _ id fun (arm : BackoffArm) => by
    cases arm with
    | shutdown => trivial
    | elapsed => exact below
  fault := fun _ _ => plain_asks _ id fun _ => trivial
  accept := fun below => asks _ below fun (arm : AcceptArm) => by
    rcases arm with _ | task | error | peerAddr
    · trivial
    · exact below
    · exact Junctions.afterAccept_error below below
    · exact below
  acquire := fun below _ _ => plain_asks _ id fun (acquired : Bool) => by
    cases acquired <;> exact below
  identify := fun below => plain_asks _ id fun _ => below
  subscribe := fun below => plain_asks _ id fun _ => below
  spawn := fun below _ _ _ => plain_asks _ id fun _ => below
  close := fun _ => plain_asks _ id fun _ => trivial
  leave := fun _ => sets _ trivial
  store := fun _ => plain_asks _ id fun _ => trivial
  tell := fun _ => plain_asks _ id fun _ => trivial
  abort := fun _ => plain_asks _ id fun _ => trivial
  drain := fun _ => plain_asks _ id fun (arm : DrainArm) => by cases arm <;> trivial
  giveUp := fun _ => plain_asks _ id fun _ => trivial
  join := by
    intro thenStop vars m _
    refine plain_asks _ id fun (task : Option Nat) => ?_
    cases task <;> cases thenStop <;> trivial
  stop := fun _ => sets _ trivial

theorem noOverflow_of_budget {faults : ServerFaults} {trace : List ServerEvent}
    {q : Prog (serverSignature.showing ServerVars)
      ((ServerHead × ServerVars) ⊕ (Unit × ServerVars))}
    (limited : retry.maxAttempts = some attempts) (positive : 0 < attempts)
    (run : ServerRun config retry faults trace q) : NoOverflow trace := by
  have relied : (budget attempts).Along (budget attempts).rely () trace :=
    (budget attempts).along_iff.mpr fun _ _ _ _ => trivial
  obtain ⟨safe, -⟩ := (budget attempts).loop_rule
    (fun head vars m standing =>
      (budget_outline config limited positive faults).turns head vars m standing)
    (show (budgetJunctions attempts).standing .lifecycle (initialVars retry) () from positive)
    run relied
  intro e member failed
  obtain ⟨before, after, cut⟩ := List.append_of_mem member
  have below : e.op.1.consecutiveFailures < attempts :=
    (budget attempts).along_iff.mp safe before e after cut (counts_of_failure failed)
  have small := attempts.toNat_lt
  rw [UInt32.lt_iff_toNat_lt] at below
  simp only [UInt32.size]
  omega

end Budget

section Unlimited
variable {config : WsServerConfig} {retry : WsServerRetryPolicy} {faults : ServerFaults}

/-- A failed bind and its wait bring the task back to its start with one failure more. -/
theorem failing_turn (config : WsServerConfig) (faults : ServerFaults)
    (unlimited : retry.maxAttempts = none) (vars : ServerVars) :
    ∃ trace backoff, Reaches (Proc.turn (runServer config retry faults))
      (.ret (.inl (.lifecycle, vars))) trace
      (.ret (.inl (.lifecycle, ⟨backoff, vars.consecutiveFailures + 1, vars.origin⟩))) := by
  obtain ⟨initialBackoff, maxBackoff, maxAttempts⟩ := retry
  subst unlimited
  have turn := (play_reaches inUse 5 0 _ :
    Reaches (Proc.turn (runServer config ⟨initialBackoff, maxBackoff, none⟩ faults))
      (.ret (.inl (.lifecycle, vars))) _ _)
  exact ⟨_, min (min (vars.backoff * 2) maxDuration) maxBackoff, turn⟩

theorem ofNat_succ (k : Nat) : UInt32.ofNat (k + 1) = UInt32.ofNat k + 1 := by
  apply UInt32.toNat_inj.mp
  simp

/-- Any number of binds can fail in a row. -/
theorem failing_turns (config : WsServerConfig) (faults : ServerFaults)
    (unlimited : retry.maxAttempts = none) (k : Nat) :
    ∃ trace vars, ServerRun config retry faults trace (.ret (.inl (.lifecycle, vars))) ∧
      vars.consecutiveFailures = UInt32.ofNat k := by
  induction k with
  | zero => exact ⟨[], initialVars retry, .here _, rfl⟩
  | succ k ih =>
    obtain ⟨trace, vars, run, counted⟩ := ih
    obtain ⟨more, backoff, turn⟩ := failing_turn config faults unlimited vars
    refine ⟨trace ++ more, _, run.trans turn, ?_⟩
    rw [ofNat_succ, ← counted]

/-- After `u32::MAX` failed binds one more overflows the counter. -/
theorem overflow_of_unlimited (config : WsServerConfig) (faults : ServerFaults)
    (unlimited : retry.maxAttempts = none) :
    ∃ trace q, ServerRun config retry faults trace q ∧ ¬ NoOverflow trace := by
  obtain ⟨trace, vars, run, counted⟩ :=
    failing_turns config faults unlimited (UInt32.size - 1)
  have bind := (play_reaches inUse 2 0 _ : Reaches (Proc.turn (runServer config retry faults))
    (.ret (.inl (.lifecycle, vars))) _ _)
  refine ⟨_, _, run.trans bind, fun exact_sums => ?_⟩
  have sum : vars.consecutiveFailures.toNat + 1 < UInt32.size := exact_sums
    ⟨(vars, .bindListener config.bindAddr config.backlog), .error "address in use"⟩
    (List.mem_append_right trace (.tail _ (.head _))) rfl
  rw [counted] at sum
  exact absurd sum (by decide)

/-- Waits of a millisecond, and no budget: `u32::MAX` failed binds take about fifty days. -/
def impatient : WsServerRetryPolicy := ⟨1000000, 1000000, none⟩

/-- Nor has the default policy a budget, but with its waits the run takes centuries. -/
theorem impatient_policy_overflows :
    (impatient.validate = .ok () ∧
      ∃ trace q, ServerRun (.new (.v4 0 80)) impatient ⟨none⟩ trace q ∧ ¬ NoOverflow trace) ∧
    WsServerRetryPolicy.default.validate = .ok () ∧
      ∃ trace q, ServerRun (.new (.v4 0 80)) .default ⟨none⟩ trace q ∧ ¬ NoOverflow trace :=
  ⟨⟨rfl, overflow_of_unlimited (.new (.v4 0 80)) ⟨none⟩ rfl⟩,
    rfl, overflow_of_unlimited (.new (.v4 0 80)) ⟨none⟩ rfl⟩

/-- Under a valid policy no run of the server overflows the counter if and only if the number of
attempts is limited. -/
theorem counter_exact_iff (config : WsServerConfig) (faults : ServerFaults)
    (valid : retry.validate = .ok ()) :
    (∀ trace q, ServerRun config retry faults trace q → NoOverflow trace) ↔
      ∃ attempts, retry.maxAttempts = some attempts := by
  constructor
  · intro safe
    cases limit : retry.maxAttempts with
    | some attempts => exact ⟨attempts, rfl⟩
    | none =>
      obtain ⟨trace, q, run, overflows⟩ := overflow_of_unlimited config faults limit
      exact absurd (safe trace q run) overflows
  · rintro ⟨attempts, limited⟩ trace q run
    have allowed : attempts ≠ 0 := by
      rintro rfl
      exact (WsServerRetryPolicy.validate_eq_ok.mp valid).2.2 limited
    exact noOverflow_of_budget limited (UInt32.pos_iff_ne_zero.mpr allowed) run

theorem two_attempts_exact :
    WsServerRetryPolicy.validate ⟨100, 200, some 2⟩ = .ok () ∧
      ∀ trace q, ServerRun (.new (.v4 0 80)) ⟨100, 200, some 2⟩ ⟨none⟩ trace q →
        NoOverflow trace :=
  ⟨rfl, (counter_exact_iff (.new (.v4 0 80)) ⟨none⟩ rfl).mpr ⟨2, rfl⟩⟩

end Unlimited
end RetryCounter
