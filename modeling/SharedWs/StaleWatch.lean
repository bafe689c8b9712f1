import SharedWs.DisconnectCauses
import SharedWs.HealthOutline
import SharedWs.ReconnectAccounting

/-!
# Silent connections

At every tick `run_health_checked_managed_ws_loop` asks its monitor whether the connection is
stale. The monitor goes by the clock of the last `record_message` or `reset_connection`, not by the
connection. The two belong together: before the monitor is asked, every frame that was read and
every connection that was opened has been reported. So a connection is given up for silence only
after a silence longer than the threshold, and a connection that passes the check was heard of
within the threshold.
-/
namespace StaleWatch

open InteractionPrograms InteractionMonitors InteractionMonitors.Monitor
open WsFrames WsTypes ManagedOps ManagedLoop HealthCheckedLoop HookedLoop LoopOutline ManagedBlocks
open HealthMonitor HealthMonitor.WsHealthMonitor HealthStatistics HistoryCounts HealthOutline
open ReconnectAccounting DisconnectCauses

variable {E : Endpoint}

/-- A frame was read, or a connection opened. -/
def isSign : ManagedEvent E → Bool
  | ⟨(_, .selectWithPing), ⟨_, some (.frame (some (.ok _)))⟩⟩ => true
  | ⟨(_, .connect _ _), ⟨_, .ok ()⟩⟩ => true
  | _ => false

/-- The monitor is told of a sign of life. -/
def isNote : ManagedEvent E → Bool
  | ⟨(_, .monitor .recordMessage), _⟩ | ⟨(_, .monitor .resetConnection), _⟩ => true
  | _ => false

/-- The summary says whether every sign of life has been noted, and there was one. -/
def watch (E : Endpoint) : ManagedMonitor E Bool where
  step := fun noted e => if isNote e then true else if isSign e then false else noted
  rely := fun _ _ => True
  safe := fun noted e => e.op.2 = .monitor .isStale → noted = true

def Noted (noted : Bool) : Prop := noted = true

/-- Before a connection is reported nobody asks. -/
theorem watch_outside : Keeps (watch E) Outside fun _ _ => True := by
  intro l m op time val outside _ _
  refine ⟨?_, trivial⟩
  rintro (rfl : op = .monitor .isStale)
  exact outside.elim

/-- What has been noted stays so until something is read. -/
theorem watch_onward : Keeps (watch E) Onward fun _ => Noted := by
  rintro l _ op time val onward rfl -
  refine ⟨fun _ => rfl, ?_⟩
  cases op with
  | connect url buffers => exact onward.elim
  | selectWithPing => exact onward.elim
  | monitor call => cases call <;> rfl
  | _ => rfl

theorem select_watched {l : Locals E} {m : Bool} (noted : Noted m) :
    (watch E).ensures (fun arm _ => match arm with
      | none => (held Noted).ticked
      | some (.frame (some (.error _))) => (held Noted).idle
      | _ => (held Noted).live) reportedSelect l m := by
  subst noted
  refine ensures_ask_then (watch E) .selectWithPing fun time arm _ => ⟨nofun, ?_⟩
  match arm with
  | none => exact rfl
  | some (.command received) => exact rfl
  | some (.frame none) => exact rfl
  | some (.frame (some (.error error))) =>
    exact ensures_ask_then (watch E) (.monitor (.recordInternalError _ _)) fun _ _ _ =>
      ⟨nofun, trivial⟩
  | some (.frame (some (.ok frame))) =>
    exact ensures_ask_then (watch E) (.monitor .recordMessage) fun _ _ _ => ⟨nofun, rfl⟩

theorem watch_books (url : String) : Books (watch E) url (held Noted) :=
  onward_books watch_outside (fun _ _ _ _ => rfl) watch_onward select_watched

/-- The clock of the last note, or of the start. -/
def heardAt (created : Instant) (t : List (ManagedEvent E)) : Instant :=
  t.foldl (fun heard e => if isNote e then e.ans.time else heard) created

theorem heardAt_snoc (created : Instant) (t : List (ManagedEvent E)) (e : ManagedEvent E) :
    heardAt created (t ++ [e]) = if isNote e then e.ans.time else heardAt created t := by
  simp [heardAt]

def touches (entry : Entry) : Bool :=
  match entry.operation with
  | .resetConnection | .recordMessage => true
  | .recordInboundFrames frames => decide (frames ≠ 0)
  | _ => false

section Clock
variable {lib : HistogramLibrary} {staleThreshold : Duration} {created : Instant}

theorem received_of_apply {m next : WsHealthMonitor lib} {entry : Entry}
    (applied : m.apply entry = some next) :
    next.lastMessageReceived = (if touches entry then entry.now else m.lastMessageReceived) ∧
      next.staleThreshold = m.staleThreshold := by
  obtain ⟨operation, now⟩ := entry
  cases operation with
  | recordServerError code message =>
    obtain ⟨text, cut⟩ := truncateString_isSome message
    simp only [WsHealthMonitor.apply, recordServerError, cut] at applied
    cases applied
    exact ⟨rfl, rfl⟩
  | recordInternalError context error =>
    obtain ⟨context', cut⟩ := truncateString_isSome context
    obtain ⟨error', cut'⟩ := truncateString_isSome error
    simp only [WsHealthMonitor.apply, recordInternalError, cut, cut'] at applied
    cases applied
    exact ⟨rfl, rfl⟩
  | recordRtt rtt =>
    cases applied
    unfold recordRtt
    obtain ⟨micros, clamped⟩ := clampRtt rtt
    cases clamped <;> exact ⟨rfl, rfl⟩
  | recordInboundFrames count =>
    cases applied
    by_cases none : count = 0
    · simp [recordInboundFrames, touches, none]
    · simp [recordInboundFrames, touches, none]
  | _ =>
    cases applied
    exact ⟨rfl, rfl⟩

/-- The monitor of a run remembers the threshold and the last note. -/
theorem monitor_clock {t : List (ManagedEvent E)} {m : WsHealthMonitor lib}
    (kept : after lib staleThreshold created (entries t) = some m) :
    m.lastMessageReceived = heardAt created t ∧ m.staleThreshold = staleThreshold := by
  induction t using List.reverseRecOn generalizing m with
  | nil =>
    cases kept
    exact ⟨rfl, rfl⟩
  | append_singleton t e ih =>
    rw [heardAt_snoc]
    rw [entries, filterMap_snoc, after, List.foldlM_append] at kept
    obtain ⟨middle, before, last⟩ := Option.bind_eq_some_iff.mp kept
    obtain ⟨heard, threshold⟩ := ih before
    cases entered : entryOf e with
    | none =>
      have quiet : isNote e = false := by
        obtain ⟨⟨l, op⟩, time, val⟩ := e
        cases op with
        | monitor call => cases call <;> first | rfl | exact nomatch entered
        | _ => rfl
      rw [entered] at last
      cases last
      rw [quiet]
      exact ⟨heard, threshold⟩
    | some entry =>
      have same : entry.now = e.ans.time ∧ touches entry = isNote e := by
        obtain ⟨⟨l, op⟩, time, val⟩ := e
        cases op with
        | monitor call => cases call <;> cases entered <;> exact ⟨rfl, rfl⟩
        | _ => exact nomatch entered
      have applied : middle.apply entry = some m := by simpa [entered] using last
      obtain ⟨received, kept'⟩ := received_of_apply applied
      rw [received, heard, same.1, same.2]
      exact ⟨rfl, kept'.trans threshold⟩

end Clock

/-- The clock does not run backwards. -/
def Clocked (t : List (ManagedEvent E)) : Prop := t.Pairwise fun d e => d.ans.time ≤ e.ans.time

/-- If the call asks `is_stale`, the answer is that of the monitor after the earlier calls. -/
def Truthful (lib : HistogramLibrary) (staleThreshold : Duration) (created : Instant)
    (before : List (ManagedEvent E)) (e : ManagedEvent E) : Prop :=
  ∀ l time stale, e = event l (.monitor .isStale) time stale →
    ∃ m : WsHealthMonitor lib,
      after lib staleThreshold created (entries before) = some m ∧ stale = m.isStale time

def Answered (lib : HistogramLibrary) (staleThreshold : Duration) (created : Instant)
    (t : List (ManagedEvent E)) : Prop :=
  ∀ before e rest, t = before ++ e :: rest → Truthful lib staleThreshold created before e

section Runs
variable {url : String} {t : List (ManagedEvent E)} {q : Task E}

theorem Clocked.first {before rest : List (ManagedEvent E)} (clocked : Clocked (before ++ rest)) :
    Clocked before :=
  (List.pairwise_append.mp clocked).1

theorem Clocked.le {before rest : List (ManagedEvent E)} {d e : ManagedEvent E}
    (clocked : Clocked (before ++ e :: rest)) (mem : d ∈ before) : d.ans.time ≤ e.ans.time :=
  (List.pairwise_append.mp clocked).2.2 d mem e List.mem_cons_self

theorem used_of_sign {e : ManagedEvent E} (sign : isSign e = true) :
    Connects e ∨ UsesConnection e.op.2 := by
  obtain ⟨⟨l, op⟩, time, val⟩ := e
  cases op with
  | selectWithPing => exact Or.inr trivial
  | connect url buffers =>
    cases val with
    | ok _ => exact Or.inl trivial
    | error error => exact nomatch sign
  | _ => exact nomatch sign

/-- When everything is noted, there is a last note, and no sign of life is later. -/
theorem noted_since (created : Instant) (clocked : Clocked t)
    (noted : (watch E).run false t = true) :
    (∃ d ∈ t, isNote d = true ∧ d.ans.time = heardAt created t) ∧
      ∀ d ∈ t, isSign d = true → d.ans.time ≤ heardAt created t := by
  induction t using List.reverseRecOn with
  | nil => exact nomatch noted
  | append_singleton t e ih =>
    rw [heardAt_snoc]
    by_cases note : isNote e = true
    · rw [if_pos note]
      constructor
      · exact ⟨e, by simp, note, rfl⟩
      · intro d mem sign
        rcases List.mem_append.mp mem with mem | mem
        · exact clocked.le mem
        · rw [List.mem_singleton.mp mem]
    · have silent : isSign e = false ∧ (watch E).run false t = true := by
        rw [Monitor.run_append] at noted
        change (if isNote e then true else if isSign e then false else _) = true at noted
        rw [if_neg note] at noted
        by_cases sign : isSign e = true
        · rw [if_pos sign] at noted
          cases noted
        · rw [if_neg sign] at noted
          exact ⟨by simpa using sign, noted⟩
      obtain ⟨⟨d, mem, noted_d, at_d⟩, signs⟩ := ih clocked.first silent.2
      rw [if_neg note]
      constructor
      · exact ⟨d, by simp [mem], noted_d, at_d⟩
      · intro d mem sign
        rcases List.mem_append.mp mem with mem | mem
        · exact signs d mem sign
        · rw [List.mem_singleton.mp mem, silent.1] at sign
          cases sign

theorem noted_at_check (run : Run (runHealthCheckedManagedWsLoop url) t q)
    {before rest : List (ManagedEvent E)} {l : Locals E} {time : Instant} {stale : Bool}
    (cut : t = before ++ event l (.monitor .isStale) time stale :: rest) :
    (watch E).run false before = true := by
  have relied : (watch E).Along (watch E).rely false t :=
    ((watch E).along_iff).mpr fun _ _ _ _ => trivial
  have safe := (watch_books url).run trivial run relied
  exact ((watch E).along_iff).mp safe before _ rest cut rfl

theorem armReason_not_stale (arm : Option (Arm E)) : armReason arm ≠ some .staleData := by
  unfold armReason
  split <;> exact nofun

theorem check_of_reason {place : Place} {e : ManagedEvent E}
    (reason : reasonOf place e = some .staleData) :
    ∃ l time, e = event l (.monitor .isStale) time true := by
  unfold reasonOf at reason
  split at reason
  case h_10 => exact ⟨_, _, rfl⟩
  case h_11 => exact absurd reason (armReason_not_stale _)
  case h_12 => exact absurd reason (armReason_not_stale _)
  case h_5 => split at reason <;> exact nomatch reason
  all_goals exact nomatch reason

/-- A connection that is given up for silence was found silent by the last check, and has not been
used since. -/
theorem check_of_blame (permitted : ∀ before e after, t = before ++ e :: after →
      Permitted (blameOf before) e.op.2) (blamed : (blameOf t).cause = some .staleData) :
    ∃ before l time rest, t = before ++ event l (.monitor .isStale) time true :: rest ∧
      ∀ d ∈ rest, ¬ Connects d ∧ ¬ UsesConnection d.op.2 := by
  obtain ⟨before, e, rest, place, cut, reason, unused⟩ := reason_of_blame permitted blamed
  obtain ⟨l, time, rfl⟩ := check_of_reason reason
  exact ⟨before, l, time, rest, cut, unused⟩

/-- A reason stands until the next `connect`. -/
theorem blame_stands {before middle : List (ManagedEvent E)} {cause : WsDisconnectCause}
    (blamed : (blameOf before).cause = some cause) (onward : ∀ d ∈ middle, ¬ Connects d) :
    (blameOf (before ++ middle)).cause = some cause := by
  induction middle using List.reverseRecOn with
  | nil => rwa [List.append_nil]
  | append_singleton middle e ih =>
    have last : blameOf (before ++ (middle ++ [e])) = (blameOf (before ++ middle)).after e := by
      simp [blameOf]
    have stood := ih fun d mem => onward d (by simp [mem])
    rw [last, after_reason (onward e (by simp)), stood, Option.some_or]

/-- The loop goes by the silence of the connection. -/
structure Watched (staleThreshold : Duration) (t : List (ManagedEvent E)) : Prop where
  -- nothing was heard for longer than the threshold when a connection is given up for silence
  patient : ∀ before l time action rest,
    t = before ++ event l (.handler (.classifyDisconnect .staleData)) time action :: rest →
      ∀ d ∈ before, isSign d = true → d.ans.time + staleThreshold < time
  -- a connection that passes the check was heard of within the threshold
  alert : ∀ before l time rest,
    t = before ++ event l (.monitor .isStale) time false :: rest →
      ∃ d ∈ before, isNote d = true ∧ time ≤ d.ans.time + staleThreshold
  -- one that fails it is not used again, and the loop says why
  firm : ∀ before l time middle e rest,
    t = before ++ event l (.monitor .isStale) time true :: middle ++ e :: rest →
      (∀ d ∈ middle, ¬ Connects d) → ¬ UsesConnection e.op.2 ∧
        ∀ cause, e.op.2 = .handler (.classifyDisconnect cause) → cause = .staleData

theorem stale_iff {lib : HistogramLibrary} {staleThreshold : Duration} {created : Instant}
    (answered : Answered lib staleThreshold created t) {before rest : List (ManagedEvent E)}
    {l : Locals E} {time : Instant} {stale : Bool}
    (cut : t = before ++ event l (.monitor .isStale) time stale :: rest) :
    stale = true ↔ staleThreshold < time - heardAt created before := by
  obtain ⟨m, kept, answer⟩ := answered before _ rest cut l time stale rfl
  obtain ⟨heard, threshold⟩ := monitor_clock kept
  rw [answer, WsHealthMonitor.isStale, heard, threshold, decide_eq_true_iff]

section Checks
variable {lib : HistogramLibrary} {staleThreshold : Duration} {created : Instant}
  {before rest : List (ManagedEvent E)} {l : Locals E} {time : Instant}

theorem silent_of_stale (run : Run (runHealthCheckedManagedWsLoop url) t q) (clocked : Clocked t)
    (answered : Answered lib staleThreshold created t)
    (cut : t = before ++ event l (.monitor .isStale) time true :: rest) :
    ∀ d ∈ before, isSign d = true → d.ans.time + staleThreshold < time := by
  intro d mem sign
  have silent := Nat.add_lt_of_lt_sub' ((stale_iff answered cut).mp rfl)
  rw [cut] at clocked
  have heard := (noted_since created clocked.first (noted_at_check run cut)).2 d mem sign
  exact Nat.lt_of_le_of_lt (Nat.add_le_add_right heard staleThreshold) silent

theorem heard_of_fresh (run : Run (runHealthCheckedManagedWsLoop url) t q) (clocked : Clocked t)
    (answered : Answered lib staleThreshold created t)
    (cut : t = before ++ event l (.monitor .isStale) time false :: rest) :
    ∃ d ∈ before, isNote d = true ∧ time ≤ d.ans.time + staleThreshold := by
  have heard : ¬ staleThreshold < time - heardAt created before :=
    fun silent => Bool.false_ne_true ((stale_iff answered cut).mpr silent)
  rw [cut] at clocked
  obtain ⟨d, mem, note, last⟩ := (noted_since created clocked.first (noted_at_check run cut)).1
  refine ⟨d, mem, note, ?_⟩
  rw [last]
  exact Nat.sub_le_iff_le_add'.mp (Nat.le_of_not_lt heard)

end Checks

theorem silence_watched {lib : HistogramLibrary} {staleThreshold : Duration} {created : Instant}
    (run : Run (runHealthCheckedManagedWsLoop url) t q) (clocked : Clocked t)
    (answered : Answered lib staleThreshold created t) : Watched staleThreshold t := by
  have permitted := permitted_run .healthChecked run
  constructor
  case patient =>
    intro before l time action rest cut d mem sign
    have permits : ∀ first e second, before = first ++ e :: second →
        Permitted (blameOf first) e.op.2 := by
      intro first e second split
      exact permitted first e (second ++ event l _ time action :: rest) (by rw [cut, split]; simp)
    obtain ⟨first, l', checked, second, split, unused⟩ :=
      check_of_blame permits (permitted _ _ _ cut)
    have whole : t = first ++ event l' (.monitor .isStale) checked true ::
        (second ++ event l (.handler (.classifyDisconnect .staleData)) time action :: rest) := by
      rw [cut, split]
      simp
    -- The sign came before the check, for afterwards the connection was not used.
    have early : d ∈ first := by
      rw [split] at mem
      rcases List.mem_append.mp mem with mem | mem
      · exact mem
      rcases List.mem_cons.mp mem with rfl | mem
      · exact nomatch sign
      · exact absurd (used_of_sign sign) (not_or.mpr (unused d mem))
    have silent := silent_of_stale run clocked answered whole d early sign
    rw [cut] at clocked
    have later := clocked.le (show event l' (.monitor .isStale) checked true ∈ before by
      simp [split])
    exact Nat.lt_of_lt_of_le silent later
  case alert =>
    exact fun before l time rest cut => heard_of_fresh run clocked answered cut
  case firm =>
    intro before l time middle e rest cut onward
    have unblamed : (blameOf before).cause = none := by
      have uses : UsesConnection (.monitor .isStale : Op E) := trivial
      refine clear_of_uses uses (permitted before (event l (.monitor .isStale) time true)
        (middle ++ e :: rest) ?_)
      rw [cut]
      simp
    have found : (blameOf (before ++ [event l (.monitor .isStale) time true])).cause =
        some .staleData := by
      have last : blameOf (before ++ [event l (.monitor .isStale) time true]) =
          (blameOf before).after (event l (.monitor .isStale) time true) := by simp [blameOf]
      rw [last, after_reason id, unblamed]
      rfl
    have blamed := blame_stands found onward
    rw [List.append_assoc, List.singleton_append] at blamed
    have permits := permitted _ e rest cut
    constructor
    · intro uses
      rw [clear_of_uses uses permits] at blamed
      cases blamed
    · intro cause named
      rw [named] at permits
      have same : (blameOf _).cause = some cause := permits
      rw [blamed, Option.some.injEq] at same
      exact same.symm

end Runs

/-- The peer is silent. The first check finds a connection of fourteen ticks of the clock, the
second one of twenty. -/
def silentPeer : Nat → (op : Op bareEndpoint) → op.Ans
  | _, .selectWithPing => none
  | n, .monitor .isStale => decide (20 ≤ n)
  | _, op => bareAnswer op

def silentRun : List (ManagedEvent bareEndpoint) × Task bareEndpoint :=
  trial bareLoop silentPeer 28

theorem silent_answered : Answered tally 15 0 silentRun.1 := by
  have along : (history (fun _ _ => True) fun _ _ => True).Along (Truthful tally 15 0) []
      silentRun.1 := by
    repeat' apply And.intro
    all_goals first
      | trivial
      | (intro l time stale same; cases same; exact ⟨_, rfl, rfl⟩)
      | nofun
  exact (Monitor.history_along _ _).mp along

theorem silent_clocked : Clocked silentRun.1 := by
  unfold Clocked
  decide

theorem silent_peer_given_up :
    silentRun.1.getLast?.map (fun e => e.op.2) =
        some (.handler (.classifyDisconnect .staleData)) ∧
      Watched 15 silentRun.1 :=
  ⟨rfl, silence_watched (trial_run bareLoop silentPeer 28) silent_clocked silent_answered⟩

end StaleWatch
