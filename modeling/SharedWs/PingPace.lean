import SharedWs.HealthOutline

/-!
# The pace of pings

`run_health_checked_managed_ws_loop` pings when its timer fires, and it sets the timer anew at the
end of every tick, never earlier. If the timer does not fire early and the strategy asks for
intervals of at least `interval`, two pings of a connection are at least `interval` apart, and the
first comes at least `interval` after the start of the session. So the number of pings of a
connection is bounded by the length of its session.
-/
namespace PingPace

open InteractionPrograms InteractionMonitors InteractionMonitors.Monitor
open WsFrames WsTypes ManagedOps ManagedLoop HealthCheckedLoop HookedLoop LoopOutline ManagedBlocks
open HealthOutline

variable {E : Endpoint}

/-- The clock, its reading before the interval was last asked for, the timer, and of the present
connection the start of its session, its pings and the last of them; before the first ping the
start takes its place. -/
structure Pace where
  now : Nat
  asked : Nat
  deadline : Nat
  started : Nat
  pings : Nat
  last : Nat

def Pace.initial : Pace := ⟨0, 0, 0, 0, 0, 0⟩

/-- At the end of a tick the source reads the clock, and then asks for the interval. The timer is
set from that reading, which may be as early as the answer before. -/
def Pace.after (p : Pace) : ManagedEvent E → Pace
  | ⟨(_, .connect _ _), ⟨time, _⟩⟩ => { p with now := time, pings := 0 }
  | ⟨(_, .startPingSleep interval), ⟨time, _⟩⟩ =>
    { p with now := time, deadline := time + interval, started := time, last := time }
  | ⟨(_, .ping .interval), ⟨time, _⟩⟩ => { p with now := time, asked := p.now }
  | ⟨(_, .resetPingSleep interval), ⟨time, _⟩⟩ =>
    { p with now := time, deadline := p.asked + interval }
  | ⟨(_, .write .ping _), ⟨time, _⟩⟩ => { p with now := time, pings := p.pings + 1, last := time }
  | e => { p with now := e.ans.time }

def paceOf (t : List (ManagedEvent E)) : Pace := t.foldl Pace.after .initial

/-- The clock does not run backwards, the timer does not fire early, and the strategy asks for no
interval shorter than `interval`. -/
def Honest (interval : Nat) (p : Pace) : ManagedEvent E → Prop
  | ⟨(_, .selectWithPing), ⟨time, none⟩⟩ => p.now ≤ time ∧ p.deadline ≤ time
  | ⟨(_, .ping .interval), ⟨time, asked⟩⟩ => p.now ≤ time ∧ interval ≤ asked
  | e => p.now ≤ e.ans.time

/-- When a ping may be written. -/
def Due (interval : Nat) (p : Pace) : ManagedEvent E → Prop
  | ⟨(_, .write .ping _), ⟨time, _⟩⟩ =>
    p.last + interval ≤ time ∧ p.started + (p.pings + 1) * interval ≤ time
  | _ => True

def pace (E : Endpoint) (interval : Nat) : ManagedMonitor E Pace where
  step := Pace.after
  rely := Honest interval
  safe := Due interval

section Blocks
variable {interval : Nat} {l : Locals E} {m : Pace}

/-- The pings so far keep the pace, and so will the next one. -/
structure Steady (interval : Nat) (p : Pace) : Prop where
  kept : p.started + p.pings * interval ≤ p.last
  armed : p.last + interval ≤ p.deadline

/-- The timer has fired. -/
structure Late (interval : Nat) (p : Pace) : Prop where
  steady : Steady interval p
  fired : p.deadline ≤ p.now

def paceStages (interval : Nat) : Stages Pace where
  idle := fun _ => True
  opened := fun p => p.pings = 0
  live := Steady interval
  ticked := Late interval

/-- Calls that only take time. -/
def Passing : Op E → Prop
  | .connect _ _ | .startPingSleep _ | .resetPingSleep _ | .selectWithPing => False
  | .ping .interval => False
  | .write site _ => site ≠ .ping
  | _ => True

/-- Such a call moves the clock and nothing else. -/
theorem passing_step {op : Op E} (passing : Passing op) (time : Instant) (val : op.Ans) :
    Due interval m (event l op time val) ∧
      m.after (event l op time val) = { m with now := time } := by
  cases op with
  | write site frame =>
    cases site with
    | ping => exact absurd rfl passing
    | _ => exact ⟨trivial, rfl⟩
  | ping call =>
    cases call with
    | interval => exact passing.elim
    | _ => exact ⟨trivial, rfl⟩
  | connect url buffers => exact passing.elim
  | startPingSleep interval => exact passing.elim
  | resetPingSleep interval => exact passing.elim
  | selectWithPing => exact passing.elim
  | _ => exact ⟨trivial, rfl⟩

theorem now_le_of_honest {e : ManagedEvent E} (honest : Honest interval m e) :
    m.now ≤ e.ans.time := by
  unfold Honest at honest
  split at honest
  · exact honest.1
  · exact honest.1
  · exact honest

theorem passing_kept {stage : Pace → Prop}
    (later : ∀ {p : Pace} {time}, stage p → p.now ≤ time → stage { p with now := time }) :
    Keeps (pace E interval) Passing fun _ => stage := by
  intro l m op time val passing holds honest
  obtain ⟨due, same⟩ := passing_step (l := l) (m := m) passing time val
  refine ⟨due, ?_⟩
  change stage (m.after _)
  rw [same]
  exact later holds (now_le_of_honest honest)

theorem Steady.later (steady : Steady interval m) (time : Nat) :
    Steady interval { m with now := time } :=
  ⟨steady.kept, steady.armed⟩

theorem steady_passing : Keeps (pace E interval) Passing fun _ => Steady interval :=
  passing_kept fun steady _ => steady.later _

theorem fresh_passing : Keeps (pace E interval) Passing fun _ p => p.pings = 0 :=
  passing_kept fun fresh _ => fresh

theorem idle_passing : Keeps (pace E interval) Passing fun _ _ => True :=
  passing_kept fun _ _ => trivial

/-- The pings so far keep the pace; the timer has to be set. -/
structure Pinged (interval : Nat) (p : Pace) : Prop where
  kept : p.started + p.pings * interval ≤ p.last
  past : p.last ≤ p.now

theorem late_passing : Keeps (pace E interval) Passing fun _ => Late interval :=
  passing_kept fun late later => ⟨late.steady.later _, Nat.le_trans late.fired later⟩

theorem pinged_passing : Keeps (pace E interval) Passing fun _ => Pinged interval :=
  passing_kept fun pinged later => ⟨pinged.kept, Nat.le_trans pinged.past later⟩

theorem Late.pinged (late : Late interval m) : Pinged interval m := by
  obtain ⟨⟨kept, armed⟩, fired⟩ := late
  exact ⟨kept, by omega⟩

/-- When the timer fires the next ping is due. -/
theorem Late.due (late : Late interval m) :
    m.last + interval ≤ m.now ∧ m.started + (m.pings + 1) * interval ≤ m.now := by
  obtain ⟨⟨kept, armed⟩, fired⟩ := late
  rw [Nat.add_mul, Nat.one_mul]
  omega

/-- One call that takes time, and what comes after it. -/
theorem passes {op : Op E} {stage : Pace → Prop} {α : Type} {f : op.Ans → Managed E α}
    {post : α → Locals E → Pace → Prop} (kept : Keeps (pace E interval) Passing fun _ => stage)
    (passing : Passing op) (holds : stage m)
    (rest : ∀ a m, stage m → (pace E interval).ensures post (f a) l m) :
    (pace E interval).ensures post (ask op >>= f) l m := by
  refine ensures_ask_then (pace E interval) op fun time val relied => ?_
  obtain ⟨safe, still⟩ := kept l m op time val passing holds relied
  exact ⟨safe, rest val _ still⟩

theorem attempt_paced (url : String) :
    (pace E interval).ensures (fun result _ => match result with
      | .error _ => (paceStages interval).idle
      | .ok () => (paceStages interval).opened) (reportedConnect url) l m := by
  refine passes idle_passing trivial trivial fun _ m _ => ?_
  refine ensures_ask_then (pace E interval) (.connect url .default) fun time result _ => ?_
  refine ⟨trivial, ?_⟩
  cases result with
  | error error => exact passes idle_passing trivial trivial fun _ _ _ => trivial
  | ok _ =>
    refine passes fresh_passing trivial rfl fun _ m fresh => ?_
    refine passes fresh_passing trivial fresh fun _ m fresh => ?_
    exact passes fresh_passing trivial fresh fun _ m fresh => fresh

theorem enter_paced (fresh : m.pings = 0) :
    (pace E interval).ensures (fun _ _ => Steady interval)
      (healthHooks : Hooks E).enterSession l m := by
  refine ensures_ask_then (pace E interval) (.ping .interval) fun _ asked relied => ⟨trivial, ?_⟩
  refine ensures_of_ask (pace E interval) (.startPingSleep asked) fun time _ _ => ⟨trivial, ?_⟩
  have long : interval ≤ asked := relied.2
  constructor
  · change time + m.pings * interval ≤ time
    rw [fresh, Nat.zero_mul]
    exact Nat.le_refl time
  · exact Nat.add_le_add_left long time

theorem select_paced (steady : Steady interval m) :
    (pace E interval).ensures (fun arm _ => match arm with
      | none => (paceStages interval).ticked
      | some (.frame (some (.error _))) => (paceStages interval).idle
      | _ => (paceStages interval).live) reportedSelect l m := by
  refine ensures_ask_then (pace E interval) .selectWithPing fun time arm relied => ⟨trivial, ?_⟩
  match arm with
  | none => exact ⟨steady.later time, relied.2⟩
  | some (.command received) => exact steady.later time
  | some (.frame none) => exact steady.later time
  | some (.frame (some (.error error))) =>
    exact passes idle_passing trivial trivial fun _ _ _ => trivial
  | some (.frame (some (.ok frame))) =>
    exact passes steady_passing trivial (steady.later time) fun _ _ steady => steady

/-- After a tick the timer is set to at least an interval after the last ping. -/
theorem rearm_paced (pinged : Pinged interval m) :
    (pace E interval).ensures (fun _ _ => Steady interval) rearmPing l m := by
  refine ensures_ask_then (pace E interval) (.ping .interval) fun _ asked relied => ⟨trivial, ?_⟩
  refine ensures_of_ask (pace E interval) (.resetPingSleep asked) fun _ _ _ =>
    ⟨trivial, pinged.kept, ?_⟩
  have long : interval ≤ asked := relied.2
  exact Nat.add_le_add pinged.past long

theorem tick_paced (late : Late interval m) :
    (pace E interval).ensures (fun verdict _ => match verdict with
      | none => Steady interval
      | some _ => fun _ => True) pingTick l m := by
  refine passes late_passing trivial late fun stale m late => ?_
  cases stale with
  | true => trivial
  | false =>
    refine passes late_passing trivial late fun stale m late => ?_
    cases stale with
    | true => trivial
    | false =>
      refine passes late_passing trivial late fun created m late => ?_
      cases created with
      | none =>
        exact (pace E interval).ensures_seq (rearm_paced late.pinged) fun _ _ _ steady => steady
      | some frame =>
        refine passes late_passing trivial late fun _ m late => ?_
        refine ensures_ask_then (pace E interval) (.write .ping frame) fun time written later => ?_
        have due := late.due
        have apart : m.last + interval ≤ time := Nat.le_trans due.1 later
        have rate : m.started + (m.pings + 1) * interval ≤ time := Nat.le_trans due.2 later
        refine ⟨⟨apart, rate⟩, ?_⟩
        cases written with
        | error error => exact passes idle_passing trivial trivial fun _ _ _ => trivial
        | ok _ =>
          refine passes pinged_passing trivial ⟨rate, Nat.le_refl time⟩ fun _ m pinged => ?_
          exact (pace E interval).ensures_seq (rearm_paced pinged) fun _ _ _ steady => steady

end Blocks

section Books
variable {interval : Nat}

theorem passing_of_failing (op : Op E) (failing : Failing op) : Passing op := by
  cases op with
  | monitor call => trivial
  | ping call => cases call <;> trivial
  | write site frame => exact failing
  | _ => trivial

theorem passing_of_neutral (op : Op E) (neutral : Neutral op) : Passing op :=
  passing_of_failing op (failing_of_neutral op neutral)

theorem passing_of_heeds : ∀ op : Op E, Heeds op → Passing op :=
  heeds_cases passing_of_neutral (fun _ => trivial) fun _ => trivial

theorem passing_of_parses : ∀ op : Op E, Parses op → Passing op :=
  parses_cases (fun _ => trivial) (fun _ _ => trivial) fun _ _ => trivial

theorem pace_books (url : String) : Books (pace E interval) url (paceStages interval) where
  idle_kept := idle_passing.mono passing_of_failing
  opened_kept := fresh_passing.mono passing_of_neutral
  live_kept := steady_passing.mono passing_of_neutral
  lost := fun _ => trivial
  ended := fun _ => trivial
  attempt := fun _ => attempt_paced url
  enter := enter_paced
  select := select_paced
  tick := tick_paced
  intercept := fun frame _ _ => intercept_kept (steady_passing.mono passing_of_heeds)
    (idle_passing.mono passing_of_failing) (fun _ => trivial) frame
  parse := fun frame _ _ => parse_kept (steady_passing.mono passing_of_parses) frame

end Books

/-- Every call is made under these conditions. -/
def HonestRun (interval : Nat) (t : List (ManagedEvent E)) : Prop :=
  ∀ before e after, t = before ++ e :: after → Honest interval (paceOf before) e

/-- The pings of each connection keep the pace. -/
structure Paced (interval : Nat) (t : List (ManagedEvent E)) : Prop where
  apart : ∀ before l frame time result after,
    t = before ++ event l (.write .ping frame) time result :: after →
      (paceOf before).last + interval ≤ time
  -- after so many intervals there have been at most as many pings
  rate : ∀ before l frame time result after,
    t = before ++ event l (.write .ping frame) time result :: after →
      (paceOf before).started + ((paceOf before).pings + 1) * interval ≤ time

theorem pings_paced {url : String} {interval : Nat} {t : List (ManagedEvent E)} {q : Task E}
    (run : Run (runHealthCheckedManagedWsLoop url) t q) (honest : HonestRun interval t) :
    Paced interval t := by
  have relied : (pace E interval).Along (pace E interval).rely .initial t :=
    ((pace E interval).along_iff).mpr honest
  have safe := (pace_books url).run trivial run relied
  have due : ∀ before e after, t = before ++ e :: after → Due interval (paceOf before) e :=
    ((pace E interval).along_iff).mp safe
  constructor
  · exact fun _ _ _ _ _ _ cut => (due _ _ _ cut).1
  · exact fun _ _ _ _ _ _ cut => (due _ _ _ cut).2

/-- The timer fires whenever it may, and every tick pings. -/
def eagerTimer : Nat → (op : Op bareEndpoint) → op.Ans
  | _, .selectWithPing => none
  | _, .ping .createPing => some (.ping ByteArray.empty)
  | _, op => bareAnswer op

def eagerRun : List (ManagedEvent bareEndpoint) × Task bareEndpoint :=
  trial (runHealthCheckedManagedWsLoop "ws://peer") eagerTimer 31

theorem eager_honest : HonestRun 1 eagerRun.1 := by
  have along : (pace bareEndpoint 1).Along (pace bareEndpoint 1).rely .initial eagerRun.1 := by
    repeat' apply And.intro
    all_goals first
      | trivial
      | exact Nat.le_of_ble_eq_true rfl
  exact ((pace bareEndpoint 1).along_iff).mp along

theorem eager_paced :
    (paceOf eagerRun.1).pings = 2 ∧ (paceOf eagerRun.1).started = 15 ∧
      (paceOf eagerRun.1).last = 30 ∧ Paced 1 eagerRun.1 :=
  ⟨rfl, rfl, rfl, pings_paced (trial_run _ eagerTimer 31) eager_honest⟩

end PingPace
