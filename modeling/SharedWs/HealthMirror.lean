import SharedWs.HealthOutline
import SharedWs.ReconnectAccounting

/-!
# The health monitor and what the loop saw

`run_health_checked_managed_ws_loop` reports to its monitor at many places. Whenever the loop waits
in its `select!` the books agree: the monitor has counted every connect and every success of the
run, and of the present connection every frame that was read, every frame that could not be parsed
or carried a server error, and every round trip that the ping strategy measured.
-/
namespace HealthMirror

open InteractionPrograms InteractionMonitors InteractionMonitors.Monitor
open WsFrames WsTypes ManagedOps ManagedLoop HealthCheckedLoop HookedLoop LoopOutline ManagedBlocks
open HealthMonitor HealthStatistics HistoryCounts HealthOutline ReconnectAccounting

variable {E : Endpoint}

/-- The connects and successes of a run; of its present connection the frames, the errors and the
measured round trips. -/
structure Counts where
  attempts : Nat
  successes : Nat
  messages : Nat
  errors : Nat
  latencies : Nat
  deriving DecidableEq

def Counts.zero : Counts := ⟨0, 0, 0, 0, 0⟩

/-- What one call shows. -/
def Counts.sees (c : Counts) : ManagedEvent E → Counts
  | ⟨(_, .connect _ _), ⟨_, .ok ()⟩⟩ => ⟨c.attempts + 1, c.successes + 1, 0, 0, 0⟩
  | ⟨(_, .connect _ _), ⟨_, .error _⟩⟩ => { c with attempts := c.attempts + 1 }
  | ⟨(_, .selectWithPing), ⟨_, some (.frame (some (.ok _)))⟩⟩ =>
    { c with messages := c.messages + 1 }
  | ⟨(_, .handler (.parseFrame _)), ⟨_, .error _⟩⟩ => { c with errors := c.errors + 1 }
  | ⟨(_, .handler (.parseFrame _)), ⟨_, .ok (.serverError _ _ _)⟩⟩ =>
    { c with errors := c.errors + 1 }
  | ⟨(_, .ping (.handleInbound _)), ⟨_, .pongReceived (some _)⟩⟩ =>
    { c with latencies := c.latencies + 1 }
  | _ => c

/-- What one call tells the monitor. -/
def Counts.hears (c : Counts) : ManagedEvent E → Counts
  | ⟨(_, .monitor .recordConnectAttempt), _⟩ => { c with attempts := c.attempts + 1 }
  | ⟨(_, .monitor .recordConnectSuccess), _⟩ => { c with successes := c.successes + 1 }
  | ⟨(_, .monitor .resetConnection), _⟩ => { c with messages := 0, errors := 0, latencies := 0 }
  | ⟨(_, .monitor .recordMessage), _⟩ => { c with messages := c.messages + 1 }
  | ⟨(_, .monitor .recordError), _⟩ => { c with errors := c.errors + 1 }
  | ⟨(_, .monitor (.recordInternalError _ _)), _⟩ => { c with errors := c.errors + 1 }
  | ⟨(_, .monitor (.recordServerError _ _)), _⟩ => { c with errors := c.errors + 1 }
  | ⟨(_, .monitor (.recordRtt _)), _⟩ => { c with latencies := c.latencies + 1 }
  | _ => c

def seen (t : List (ManagedEvent E)) : Counts := t.foldl Counts.sees .zero

def heard (t : List (ManagedEvent E)) : Counts := t.foldl Counts.hears .zero

structure Mirror where
  seen : Counts
  heard : Counts

def mirror (E : Endpoint) : ManagedMonitor E Mirror where
  step := fun m e => ⟨m.seen.sees e, m.heard.hears e⟩
  rely := fun _ _ => True
  safe := fun m e => e.op.2 = .selectWithPing → m.seen = m.heard

def Even (m : Mirror) : Prop := m.seen = m.heard

/-- Between two connections only the counts of the run agree. -/
def Apart (m : Mirror) : Prop :=
  m.seen.attempts = m.heard.attempts ∧ m.seen.successes = m.heard.successes

theorem Even.apart {m : Mirror} (even : Even m) : Apart m := by
  rw [Apart, even]
  exact ⟨rfl, rfl⟩

def mirrorStages : Stages Mirror where
  idle := Apart
  opened := Even
  live := Even
  ticked := Even

/-- Calls that neither show nor tell anything that is counted. -/
def Uncounted : Op E → Prop
  | .connect _ _ | .selectWithPing | .handler (.parseFrame _) | .ping (.handleInbound _) => False
  | .monitor .recordSent | .monitor .isStale | .monitor .incrementReconnect => True
  | .monitor _ => False
  | _ => True

theorem uncounted_ignored : Ignores (mirror E) Uncounted := by
  intro l m op time val uncounted
  cases op with
  | monitor call => cases call <;> first | exact uncounted.elim | exact ⟨nofun, rfl⟩
  | ping call => cases call <;> first | exact uncounted.elim | exact ⟨nofun, rfl⟩
  | handler call => cases call <;> first | exact uncounted.elim | exact ⟨nofun, rfl⟩
  | connect url buffers => exact uncounted.elim
  | selectWithPing => exact uncounted.elim
  | _ => exact ⟨nofun, rfl⟩

theorem uncounted_of_neutral (op : Op E) (neutral : Neutral op) : Uncounted op := by
  cases op with
  | monitor call => cases call <;> trivial
  | ping call => cases call <;> trivial
  | handler call => cases call <;> trivial
  | _ => trivial

theorem uncounted_of_beats : ∀ op : Op E, Beats op → Uncounted op := by
  refine beats_cases (fun call beats => ?_) trivial trivial (fun _ => trivial) (fun _ => trivial)
    fun _ => trivial
  cases call <;> trivial

theorem neutral_ignored : Ignores (mirror E) Neutral :=
  uncounted_ignored.mono uncounted_of_neutral

/-- An error that is reported on the way out is counted for no connection. -/
theorem apart_kept : Keeps (mirror E) Failing fun _ => Apart := by
  intro l m op time val failing apart relied
  by_cases neutral : Neutral op
  · exact neutral_ignored.keeps (fun _ => Apart) l m op time val neutral apart relied
  · cases op with
    | monitor call =>
      cases call with
      | recordError => exact ⟨nofun, apart⟩
      | recordInternalError context error => exact ⟨nofun, apart⟩
      | _ => exact absurd failing neutral
    | _ => exact absurd failing neutral

section Blocks
variable {l : Locals E} {m : Mirror} {α : Type} {x : Managed E α}
  {post : α → Locals E → Mirror → Prop}

/-- A report, and what comes after it. -/
theorem tells {call : MonitorCall} (next : ∀ time val, (mirror E).ensures post x l
      ((mirror E).step m (event l (.monitor call) time val))) :
    (mirror E).ensures post (monitor call >>= fun _ => x) l m :=
  ensures_ask_then (mirror E) (.monitor call) fun time val _ => ⟨nofun, next time val⟩

/-- The two sides of an even summary under one name. -/
theorem even_elim {P : Mirror → Prop} (same : ∀ c, P ⟨c, c⟩) (even : Even m) : P m := by
  obtain ⟨seen, heard⟩ := m
  obtain rfl : seen = heard := even
  exact same seen

/-- A block of calls that count for nothing, and what comes after it. -/
theorem past {β : Type} {y : Managed E β} {f : β → Managed E α} (quiet : Proc.Quiet Uncounted y)
    (rest : ∀ b, (mirror E).ensures post (f b) l m) : (mirror E).ensures post (y >>= f) l m :=
  (mirror E).ensures_bind.mpr (uncounted_ignored.ensures quiet rest)

theorem attempt_mirrors (url : String) (apart : Apart m) :
    (mirror E).ensures (fun result _ => match result with
      | .error _ => Apart
      | .ok () => Even) (reportedConnect url) l m := by
  have tried : m.seen.attempts + 1 = m.heard.attempts + 1 := congrArg (· + 1) apart.1
  have settled : m.seen.successes + 1 = m.heard.successes + 1 := congrArg (· + 1) apart.2
  refine tells fun _ _ => ?_
  refine ensures_ask_then (mirror E) (.connect url .default) fun time result _ => ⟨nofun, ?_⟩
  cases result with
  | error error => exact tells fun _ _ => ⟨tried, apart.2⟩
  | ok _ =>
    refine tells fun _ _ => tells fun _ _ => ?_
    refine ensures_ask_then (mirror E) (.ping .reset) fun time _ _ => ⟨nofun, ?_⟩
    change (⟨m.seen.attempts + 1, m.seen.successes + 1, 0, 0, 0⟩ : Counts) =
      ⟨m.heard.attempts + 1, m.heard.successes + 1, 0, 0, 0⟩
    rw [tried, settled]

theorem select_mirrors (even : Even m) :
    (mirror E).ensures (fun arm _ => match arm with
      | none => Even
      | some (.frame (some (.error _))) => Apart
      | _ => Even) reportedSelect l m := by
  revert even
  refine even_elim fun c => ?_
  refine ensures_ask_then (mirror E) .selectWithPing fun time arm _ => ⟨fun _ => rfl, ?_⟩
  match arm with
  | none => exact rfl
  | some (.command received) => exact rfl
  | some (.frame none) => exact rfl
  | some (.frame (some (.error error))) => exact tells fun _ _ => ⟨rfl, rfl⟩
  | some (.frame (some (.ok frame))) => exact tells fun _ _ => rfl

theorem parse_mirrors (frame : WsFrame) (even : Even m) :
    (mirror E).ensures (fun _ _ => Even) (reportedParse frame) l m := by
  revert even
  refine even_elim fun c => ?_
  refine ensures_ask_then (mirror E) (.handler (.parseFrame frame)) fun time outcome _ =>
    ⟨nofun, ?_⟩
  match outcome with
  | .ok (.message action) => exact rfl
  | .ok (.serverError code message data) => exact tells fun _ _ => rfl
  | .error error => exact tells fun _ _ => rfl

theorem intercept_mirrors (frame : WsFrame) (even : Even m) :
    (mirror E).ensures (fun verdict _ => match verdict with
      | .leave _ => Apart
      | _ => Even) (pingIntercept frame) l m := by
  revert even
  refine even_elim fun c => ?_
  refine ensures_ask_then (mirror E) (.ping (.handleInbound frame)) fun time result _ =>
    ⟨nofun, ?_⟩
  cases result with
  | notPong => exact rfl
  | invalidPong => exact tells fun _ _ => ⟨rfl, rfl⟩
  | pongReceived rtt =>
    cases rtt with
    | none => exact rfl
    | some rtt => exact tells fun _ _ => rfl
  | reply reply =>
    refine past (quiet_ask trivial) fun _ => past (quiet_ask trivial) fun written => ?_
    cases written with
    | error error => exact tells fun _ _ => ⟨rfl, rfl⟩
    | ok _ => exact past (quiet_ask trivial) fun _ => rfl

end Blocks

theorem mirror_books (url : String) : Books (mirror E) url mirrorStages where
  idle_kept := apart_kept
  opened_kept := neutral_ignored.keeps _
  live_kept := neutral_ignored.keeps _
  lost := Even.apart
  ended := Even.apart
  attempt := attempt_mirrors url
  enter := by
    intro l m even
    have quiet : Proc.Quiet Uncounted (healthHooks : Hooks E).enterSession :=
      (quiet_ask trivial).bind fun _ => quiet_ask trivial
    exact uncounted_ignored.ensures quiet fun _ => even
  select := select_mirrors
  tick := tick_kept ((uncounted_ignored.mono uncounted_of_beats).keeps _) apart_kept Even.apart
  intercept := fun frame _ _ => intercept_mirrors frame
  parse := fun frame _ _ => parse_mirrors frame

section Told
variable {lib : HistogramLibrary}

/-- The counts that a history of the monitor gives. -/
def countsOf (history : List Entry) : Counts where
  attempts := history.countP fun entry => decide (entry.operation = .recordConnectAttempt)
  successes := history.countP fun entry => decide (entry.operation = .recordConnectSuccess)
  messages := ((entriesSince resets history).map fun entry => (frames entry).toNat).sum
  errors := (entriesSince resets history).countP isError
  latencies := (entriesSince resets history).countP fun entry => (latency entry).isSome

theorem countsOf_snoc (history : List Entry) (entry : Entry) :
    countsOf (history ++ [entry]) =
      { attempts := (countsOf history).attempts +
          if entry.operation = .recordConnectAttempt then 1 else 0
        successes := (countsOf history).successes +
          if entry.operation = .recordConnectSuccess then 1 else 0
        messages := if resets entry then 0 else (countsOf history).messages + (frames entry).toNat
        errors := if resets entry then 0 else
          (countsOf history).errors + if isError entry then 1 else 0
        latencies := if resets entry then 0 else
          (countsOf history).latencies + if (latency entry).isSome then 1 else 0 } := by
  unfold countsOf
  rw [entriesSince_snoc]
  by_cases reset : resets entry = true
  · simp [reset, List.countP_append, List.countP_cons]
  · simp [reset, List.countP_append, List.countP_cons]

theorem hears_eq (history : List Entry) (e : ManagedEvent E) :
    (countsOf history).hears e = countsOf (history ++ (entryOf e).toList) := by
  obtain ⟨⟨l, op⟩, time, val⟩ := e
  cases op with
  | monitor call =>
    cases call with
    | isStale => exact congrArg countsOf (List.append_nil history).symm
    | _ => simp [Counts.hears, entryOf, operationOf, countsOf_snoc, resets, frames, isError,
        isServerError, isInternalError, latency]
  | _ => exact congrArg countsOf (List.append_nil history).symm

theorem heard_eq (t : List (ManagedEvent E)) : heard t = countsOf (entries t) := by
  induction t using List.reverseRecOn with
  | nil => rfl
  | append_singleton t e ih =>
    have last : heard (t ++ [e]) = (heard t).hears e := by simp [heard]
    rw [last, ih, hears_eq, entries, entries, filterMap_snoc]

end Told

/-- The statistics show these counts, each up to the largest `u64`. -/
structure Shows (stats : WsConnectionStats) (c : Counts) : Prop where
  attempts : stats.connectAttempts.toNat = min c.attempts counterMax
  successes : stats.connectSuccesses.toNat = min c.successes counterMax
  messages : stats.messages.toNat = min c.messages counterMax
  errors : stats.errors.toNat = min c.errors counterMax
  latencies : stats.latencySamples.toNat = min c.latencies counterMax

theorem shows_heard {lib : HistogramLibrary} (lawful : Lawful lib) {staleThreshold : Duration}
    {created : Instant} {t : List (ManagedEvent E)} {m : WsHealthMonitor lib}
    (kept : after lib staleThreshold created (entries t) = some m) (now later : Instant) :
    Shows (m.getStats now later) (heard t) := by
  have reports := reports_after lawful kept now later
  rw [heard_eq]
  exact ⟨reports.connectAttempts, reports.connectSuccesses, reports.messages, reports.errors,
    reports.latencySamples⟩

theorem mirror_run (t : List (ManagedEvent E)) :
    (mirror E).run ⟨.zero, .zero⟩ t = ⟨seen t, heard t⟩ := by
  induction t using List.reverseRecOn with
  | nil => rfl
  | append_singleton t e ih =>
    rw [Monitor.run_append, ih]
    simp [mirror, seen, heard]

/-- Whenever the loop waits in its session, `get_stats` shows what happened so far. -/
def StatisticsKept (lib : HistogramLibrary) (staleThreshold : Duration) (created : Instant)
    (t : List (ManagedEvent E)) : Prop :=
  ∀ before l time arm rest, t = before ++ event l .selectWithPing time arm :: rest →
    ∃ m, after lib staleThreshold created (entries before) = some m ∧
      ∀ now later, Shows (m.getStats now later) (seen before)

theorem statistics_mirrored {lib : HistogramLibrary} (lawful : Lawful lib)
    (staleThreshold : Duration) (created : Instant) {url : String} {t : List (ManagedEvent E)}
    {q : Task E} (run : Run (runHealthCheckedManagedWsLoop url) t q) :
    StatisticsKept lib staleThreshold created t := by
  intro before l time arm rest cut
  have relied : (mirror E).Along (mirror E).rely ⟨.zero, .zero⟩ t :=
    ((mirror E).along_iff).mpr fun _ _ _ _ => trivial
  have safe := (mirror_books url).run ⟨rfl, rfl⟩ run relied
  have even : seen before = heard before := by
    have waiting := ((mirror E).along_iff).mp safe before _ rest cut rfl
    rwa [mirror_run] at waiting
  obtain ⟨m, kept⟩ := after_isSome lib staleThreshold created (entries before)
  refine ⟨m, kept, fun now later => ?_⟩
  have shown := shows_heard lawful kept now later
  rwa [← even] at shown

/-- A pong that measures a round trip, a frame that cannot be parsed, and a server error. -/
def noisy : Nat → (op : Op bareEndpoint) → op.Ans
  | _, .selectWithPing => some (.frame (some (.ok (.pong ByteArray.empty))))
  | 19, .ping (.handleInbound _) => .pongReceived (some 1500)
  | 25, .handler (.parseFrame _) => .error ()
  | _, .handler (.parseFrame _) => .ok (.serverError none "busy" none)
  | _, .handler (.handleServerError _ _ _) => .continue
  | _, op => bareAnswer op

def noisyRun (n : Nat) : List (ManagedEvent bareEndpoint) × Task bareEndpoint :=
  trial bareLoop noisy n

theorem noisy_mirrored :
    seen (noisyRun 34).1 = ⟨1, 1, 3, 2, 1⟩ ∧
      ∃ m, after tally 5 0 (entries (noisyRun 34).1) = some m ∧
        (m.getStats 40 41).messages = 3 ∧ (m.getStats 40 41).errors = 2 ∧
          (m.getStats 40 41).latencySamples = 1 := by
  have lawful : Lawful tally := ⟨fun _ _ _ => rfl, fun _ _ _ _ _ _ => ⟨rfl, rfl⟩⟩
  have counts : seen (noisyRun 34).1 = ⟨1, 1, 3, 2, 1⟩ := rfl
  have cut : (noisyRun 35).1 = (noisyRun 34).1 ++
    [event ⟨false, true, []⟩ .selectWithPing 34
      (some (.frame (some (.ok (.pong ByteArray.empty)))))] := rfl
  obtain ⟨m, kept, shows_all⟩ := statistics_mirrored lawful 5 0
    (trial_run bareLoop noisy 35) _ _ _ _ [] cut
  have shown := shows_all 40 41
  rw [counts] at shown
  exact ⟨counts, m, kept, UInt64.toNat_inj.mp shown.messages, UInt64.toNat_inj.mp shown.errors,
    UInt64.toNat_inj.mp shown.latencies⟩

end HealthMirror
