import SharedWs.HealthMonitor
import SharedWs.HistoryCounts

/-!
# Health statistics as a function of history

What `get_stats` of the health monitor reports after any sequence of operations. The counters of a
connection, its latency samples and its error rings look back to the last `reset_connection`; the
rings also to the last `clear_error_buffers`; the counts of attempts, successes and reconnects
look back to the creation of the monitor.

The histogram is assumed to accept a value within its bounds and to count it once. Counters of 64
bits stay at their largest value.
-/
namespace HealthStatistics

open CircularBuffers HealthMonitor HistoryCounts WsTypes
open HealthMonitor.WsHealthMonitor

variable {lib : HistogramLibrary}

/-- The largest value of a counter. -/
def counterMax : Nat := UInt64.size - 1

/-- The histogram after recording a value. -/
def recorded (lib : HistogramLibrary) (histogram : lib.Histogram) (value : UInt64) :
    lib.Histogram :=
  (lib.record histogram value).2

/-- A histogram is created empty. After any values within its bounds it accepts one more such
value and counts it once. -/
structure Lawful (lib : HistogramLibrary) : Prop where
  created : ∀ low high digits, lib.len (lib.newWithBounds low high digits) = 0
  counts : ∀ low high digits values value, (∀ v ∈ value :: values, low ≤ v ∧ v ≤ high) →
    (lib.record (values.foldl (recorded lib) (lib.newWithBounds low high digits)) value).1 = true ∧
    lib.len (recorded lib (values.foldl (recorded lib) (lib.newWithBounds low high digits)) value) =
      saturatingAdd (lib.len (values.foldl (recorded lib) (lib.newWithBounds low high digits))) 1

def resets (entry : Entry) : Bool :=
  decide (entry.operation = .resetConnection)

/-- Both rings are emptied. -/
def clears (entry : Entry) : Bool :=
  resets entry || decide (entry.operation = .clearErrorBuffers)

/-- The inbound frames an operation reports. -/
def frames (entry : Entry) : UInt64 :=
  match entry.operation with
  | .recordMessage => 1
  | .recordInboundFrames frames => frames
  | _ => 0

def isServerError (entry : Entry) : Bool :=
  match entry.operation with
  | .recordServerError _ _ => true
  | _ => false

def isInternalError (entry : Entry) : Bool :=
  match entry.operation with
  | .recordInternalError _ _ => true
  | _ => false

/-- An error of any kind counts once. -/
def isError (entry : Entry) : Bool :=
  decide (entry.operation = .recordError) || isServerError entry || isInternalError entry

/-- The latency an operation reports. -/
def latency (entry : Entry) : Option Duration :=
  match entry.operation with
  | .recordRtt latency => some latency
  | _ => none

/-- The value an operation puts into the histogram. -/
def sample (entry : Entry) : Option UInt64 :=
  (latency entry).map fun latency => (clampRtt latency).1

/-- The whole microseconds of a latency are outside the bounds of the histogram. -/
def outsideBounds (latency : Duration) : Bool :=
  decide (asMicros latency < 1 ∨ 60000000 < asMicros latency)

def isClamped (entry : Entry) : Bool :=
  (latency entry).any outsideBounds

/-- The record an operation leaves in the ring of server errors. -/
def serverError (entry : Entry) : Option ServerErrorRec :=
  match entry.operation with
  | .recordServerError code message =>
    (truncateString message).map fun message => ⟨entry.now, code, message⟩
  | _ => none

/-- The record an operation leaves in the ring of internal errors. -/
def internalError (entry : Entry) : Option InternalErrorRec :=
  match entry.operation with
  | .recordInternalError context error =>
    (truncateString context).bind fun context =>
      (truncateString error).map fun error => ⟨entry.now, context, error⟩
  | _ => none

theorem saturatingAdd_toNat (m n : UInt64) :
    (saturatingAdd m n).toNat = min (m.toNat + n.toNat) counterMax := by
  unfold saturatingAdd counterMax
  by_cases fits : m.toNat + n.toNat < UInt64.size
  · have exact_sum : (m + n).toNat = m.toNat + n.toNat := by
      rw [UInt64.toNat_add]
      exact Nat.mod_eq_of_lt fits
    rw [if_pos fits, exact_sum]
    omega
  · have top : (UInt64.ofNat (UInt64.size - 1)).toNat = UInt64.size - 1 := by decide
    rw [if_neg fits, top]
    omega

@[simp] theorem saturatingAdd_zero (m : UInt64) : saturatingAdd m 0 = m := by
  have small := m.toNat_lt
  apply UInt64.toNat_inj.mp
  rw [saturatingAdd_toNat, UInt64.toNat_zero]
  simp only [counterMax, UInt64.size]
  omega

/-- The weight of an entry that either counts or does not. -/
def bit (counted : Bool) : UInt64 :=
  if counted then 1 else 0

section

variable {α : Type}

/-- Saturating at every step is saturating once at the end. -/
theorem foldl_saturatingAdd (weight : α → UInt64) (entries : List α) (start : UInt64) :
    (entries.foldl (fun count entry => saturatingAdd count (weight entry)) start).toNat =
      min (start.toNat + (entries.map fun entry => (weight entry).toNat).sum) counterMax := by
  induction entries generalizing start with
  | nil =>
    have small := start.toNat_lt
    simp only [List.foldl_nil, List.map_nil, List.sum_nil, counterMax, UInt64.size]
    omega
  | cons entry entries ih =>
    simp only [List.foldl_cons, List.map_cons, List.sum_cons]
    rw [ih, saturatingAdd_toNat]
    omega

theorem sum_bit (counted : α → Bool) (entries : List α) :
    (entries.map fun entry => (bit (counted entry)).toNat).sum = entries.countP counted := by
  induction entries with
  | nil => rfl
  | cons entry entries ih =>
    rw [List.map_cons, List.sum_cons, ih, List.countP_cons, Nat.add_comm]
    by_cases here : counted entry = true
    · simp [bit, here]
    · simp [bit, here]

/-- A counter of the entries that count. -/
theorem foldl_bit (counted : α → Bool) (entries : List α) :
    (entries.foldl (fun count entry => saturatingAdd count (bit (counted entry))) 0).toNat =
      min (entries.countP counted) counterMax := by
  rw [foldl_saturatingAdd, sum_bit, UInt64.toNat_zero, Nat.zero_add]

end

/-- The value put into the histogram is within its bounds, whatever the latency; it was changed
exactly when the whole microseconds are not. -/
theorem clampRtt_spec (latency : Duration) :
    minRttUs ≤ (clampRtt latency).1 ∧ (clampRtt latency).1 ≤ maxRttUs ∧
      (clampRtt latency).2 = outsideBounds latency := by
  have whole (n : Nat) : (UInt64.ofNat (min n (UInt64.size - 1))).toNat =
      min n (UInt64.size - 1) := by
    rw [UInt64.toNat_ofNat']
    simp only [UInt64.size]
    omega
  have least : minRttUs.toNat = 1 := rfl
  have most : maxRttUs.toNat = 60000000 := rfl
  unfold clampRtt outsideBounds
  generalize asMicros latency = n
  have value := whole n
  generalize UInt64.ofNat (min n (UInt64.size - 1)) = micros at value
  simp only [UInt64.size] at value
  simp only [UInt64.lt_iff_toNat_lt, UInt64.le_iff_toNat_le, least, most]
  by_cases small : micros.toNat < 1
  · have below : n < 1 := by omega
    simp [small, below, least]
  by_cases large : 60000000 < micros.toNat
  · have above : 60000000 < n := by omega
    simp [small, large, above, most]
  · have above : n ≠ 0 := by omega
    have below : n ≤ 60000000 := by omega
    have here : 1 ≤ micros.toNat := by omega
    have there : micros.toNat ≤ 60000000 := by omega
    simp [small, large, above, below, here, there]

/-- After values within its bounds a lawful histogram has counted all of them. -/
theorem len_recorded (lawful : Lawful lib) {low high : UInt64} {digits : UInt8}
    {values : List UInt64} (within : ∀ v ∈ values, low ≤ v ∧ v ≤ high) :
    (lib.len (values.foldl (recorded lib) (lib.newWithBounds low high digits))).toNat =
      min values.length counterMax := by
  induction values using List.reverseRecOn with
  | nil => simp [lawful.created]
  | append_singleton values value ih =>
    have last : low ≤ value ∧ value ≤ high := within value (by simp)
    have before : ∀ v ∈ values, low ≤ v ∧ v ≤ high := fun v mem => within v (by simp [mem])
    have both : ∀ v ∈ value :: values, low ≤ v ∧ v ≤ high := by
      intro v mem
      rcases List.mem_cons.mp mem with rfl | mem
      · exact last
      · exact before v mem
    rw [List.foldl_append, List.foldl_cons, List.foldl_nil,
      (lawful.counts low high digits values value both).2, saturatingAdd_toNat, ih before,
      UInt64.toNat_one, List.length_append, List.length_singleton]
    omega

/-- What an operation does to every field that the statistics are made of. -/
structure Effect (m : WsHealthMonitor lib) (entry : Entry) (next : WsHealthMonitor lib) : Prop where
  messages : next.messageCount =
    if resets entry then 0 else saturatingAdd m.messageCount (frames entry)
  errors : next.errorCount =
    if resets entry then 0 else saturatingAdd m.errorCount (bit (isError entry))
  attempts : next.connectAttempts =
    saturatingAdd m.connectAttempts (bit (decide (entry.operation = .recordConnectAttempt)))
  successes : next.connectSuccesses =
    saturatingAdd m.connectSuccesses (bit (decide (entry.operation = .recordConnectSuccess)))
  reconnects : next.reconnectCount =
    saturatingAdd m.reconnectCount (bit (decide (entry.operation = .incrementReconnect)))
  clamped : next.rttClampedSamples =
    if resets entry then 0 else saturatingAdd m.rttClampedSamples (bit (isClamped entry))
  histogram : next.latencyHistogram =
    if resets entry then newLatencyHistogram lib
    else (sample entry).elim m.latencyHistogram (recorded lib m.latencyHistogram)
  serverErrors : next.serverErrors =
    if clears entry then .new maxRecentErrors
    else (serverError entry).elim m.serverErrors m.serverErrors.push
  internalErrors : next.internalErrors =
    if clears entry then .new maxRecentErrors
    else (internalError entry).elim m.internalErrors m.internalErrors.push

section OneOperation

attribute [local simp] resets clears bit frames isError isServerError isInternalError latency
  sample isClamped serverError internalError

/-- No operation panics, and each has its effect. -/
theorem apply_effect (m : WsHealthMonitor lib) (entry : Entry) :
    ∃ next, m.apply entry = some next ∧ Effect m entry next := by
  obtain ⟨operation, now⟩ := entry
  cases operation with
  | resetConnection =>
    refine ⟨_, rfl, ?_⟩
    constructor <;>
      simp [resetConnection, clear_eq m.serverCapacity, clear_eq m.internalCapacity]
  | clearErrorBuffers =>
    refine ⟨_, rfl, ?_⟩
    constructor <;>
      simp [clearErrorBuffers, clear_eq m.serverCapacity, clear_eq m.internalCapacity]
  | recordServerError code message =>
    obtain ⟨text, cut⟩ := truncateString_isSome message
    refine ⟨_, by simp only [apply, recordServerError, cut]; rfl, ?_⟩
    constructor <;> simp [recordError, cut]
  | recordInternalError context error =>
    obtain ⟨context', cut⟩ := truncateString_isSome context
    obtain ⟨error', cut'⟩ := truncateString_isSome error
    refine ⟨_, by simp only [apply, recordInternalError, cut, cut']; rfl, ?_⟩
    constructor <;> simp [recordError, cut, cut']
  | recordRtt rtt =>
    refine ⟨_, rfl, ?_⟩
    have changed := (clampRtt_spec rtt).2.2
    cases outside : outsideBounds rtt
    all_goals
      rw [outside] at changed
      constructor <;> simp [recordRtt, recorded, changed, outside]
  | recordInboundFrames count =>
    refine ⟨_, rfl, ?_⟩
    by_cases none : count = 0
    · constructor <;> simp [recordInboundFrames, none]
    · constructor <;> simp [recordInboundFrames, none]
  | recordConnectAttempt | recordConnectSuccess | recordMessage | recordSent | recordError |
    incrementReconnect =>
    refine ⟨_, rfl, ?_⟩
    constructor <;>
      simp [recordConnectAttempt, recordConnectSuccess, recordMessage, recordSent, recordError,
        incrementReconnect]

end OneOperation

theorem effect_of_apply {m next : WsHealthMonitor lib} {entry : Entry}
    (applied : m.apply entry = some next) : Effect m entry next := by
  obtain ⟨result, same, effect⟩ := apply_effect m entry
  rw [applied, Option.some.injEq] at same
  exact same ▸ effect

/-- A new monitor after a history of operations. -/
def after (lib : HistogramLibrary) (staleThreshold : Duration) (created : Instant)
    (history : List Entry) : Option (WsHealthMonitor lib) :=
  history.foldlM apply (new lib staleThreshold created)

/-- No history of operations panics. -/
theorem after_isSome (lib : HistogramLibrary) (staleThreshold : Duration) (created : Instant)
    (history : List Entry) :
    ∃ m, after lib staleThreshold created history = some m := by
  unfold after
  generalize new lib staleThreshold created = m
  induction history generalizing m with
  | nil => exact ⟨m, rfl⟩
  | cons entry history ih =>
    obtain ⟨next, applied, -⟩ := apply_effect m entry
    obtain ⟨last, run⟩ := ih next
    refine ⟨last, ?_⟩
    rw [List.foldlM_cons, applied]
    exact run

/-- What the statistics must be after a history. -/
structure Reports (history : List Entry) (stats : WsConnectionStats) : Prop where
  messages : stats.messages.toNat =
    min ((entriesSince resets history).map fun entry => (frames entry).toNat).sum counterMax
  errors : stats.errors.toNat = min ((entriesSince resets history).countP isError) counterMax
  connectAttempts : stats.connectAttempts.toNat =
    min (history.countP fun entry => decide (entry.operation = .recordConnectAttempt)) counterMax
  connectSuccesses : stats.connectSuccesses.toNat =
    min (history.countP fun entry => decide (entry.operation = .recordConnectSuccess)) counterMax
  reconnects : stats.reconnects.toNat =
    min (history.countP fun entry => decide (entry.operation = .incrementReconnect)) counterMax
  latencySamples : stats.latencySamples.toNat =
    min ((entriesSince resets history).countP fun entry => (latency entry).isSome) counterMax
  rttClampedSamples : stats.rttClampedSamples.toNat =
    min ((entriesSince resets history).countP isClamped) counterMax
  recentServerErrors : stats.recentServerErrors =
    min maxRecentErrors ((entriesSince clears history).countP isServerError)
  recentInternalErrors : stats.recentInternalErrors =
    min maxRecentErrors ((entriesSince clears history).countP isInternalError)

/-- What the monitor must hold after a history: its rings the last errors of their kind, oldest
first, and its histogram the samples, all of them within its bounds. -/
structure Holds (history : List Entry) (m : WsHealthMonitor lib) : Prop where
  serverErrors : m.serverErrors.buffer =
    lastItems maxRecentErrors ((entriesSince clears history).filterMap serverError)
  internalErrors : m.internalErrors.buffer =
    lastItems maxRecentErrors ((entriesSince clears history).filterMap internalError)
  histogram : m.latencyHistogram =
    ((entriesSince resets history).filterMap sample).foldl (recorded lib) (newLatencyHistogram lib)
  within : ∀ value ∈ (entriesSince resets history).filterMap sample,
    minRttUs ≤ value ∧ value ≤ maxRttUs

section

variable {staleThreshold : Duration} {created : Instant} {history : List Entry}
  {m : WsHealthMonitor lib}

theorem holds_after (run : after lib staleThreshold created history = some m) :
    Holds history m := by
  have server : m.serverErrors =
      ((entriesSince clears history).filterMap serverError).foldl .push (.new maxRecentErrors) :=
    field_eq_collected_since run (fun _ _ _ applied => (effect_of_apply applied).serverErrors) rfl
  have internal : m.internalErrors =
      ((entriesSince clears history).filterMap internalError).foldl .push
        (.new maxRecentErrors) :=
    field_eq_collected_since run (fun _ _ _ applied => (effect_of_apply applied).internalErrors) rfl
  constructor
  · rw [server, (foldl_push maxRecentErrors _).1]
  · rw [internal, (foldl_push maxRecentErrors _).1]
  · exact field_eq_collected_since run
      (fun _ _ _ applied => (effect_of_apply applied).histogram) rfl
  · intro value sampled
    obtain ⟨entry, -, taken⟩ := List.mem_filterMap.mp sampled
    obtain ⟨latency, -, rfl⟩ := Option.map_eq_some_iff.mp taken
    exact ⟨(clampRtt_spec latency).1, (clampRtt_spec latency).2.1⟩

/-- As many items lie in a ring as its capacity and the errors of its kind allow. -/
theorem ring_len {β : Type} {ring : CircularBuffer β} {take : Entry → Option β}
    {kind : Entry → Bool} {entries : List Entry}
    (held : ring.buffer = lastItems maxRecentErrors (entries.filterMap take))
    (taken : ∀ entry, (take entry).isSome = kind entry) :
    ring.len = min maxRecentErrors (entries.countP kind) := by
  have same : (fun entry => (take entry).isSome) = kind := funext taken
  rw [CircularBuffer.len, held, length_lastItems, List.length_filterMap_eq_countP, same]

theorem serverError_isSome (entry : Entry) :
    (serverError entry).isSome = isServerError entry := by
  obtain ⟨operation, now⟩ := entry
  cases operation with
  | recordServerError code message =>
    obtain ⟨text, cut⟩ := truncateString_isSome message
    simp [serverError, isServerError, cut]
  | _ => rfl

theorem internalError_isSome (entry : Entry) :
    (internalError entry).isSome = isInternalError entry := by
  obtain ⟨operation, now⟩ := entry
  cases operation with
  | recordInternalError context error =>
    obtain ⟨text, cut⟩ := truncateString_isSome context
    obtain ⟨text', cut'⟩ := truncateString_isSome error
    simp [internalError, isInternalError, cut, cut']
  | _ => rfl

/-- A counter that a connection starts anew. -/
theorem counter_since_reset {counter : WsHealthMonitor lib → UInt64} {counted : Entry → Bool}
    (run : after lib staleThreshold created history = some m)
    (moves : ∀ m entry next, Effect m entry next → counter next =
      if resets entry then 0 else saturatingAdd (counter m) (bit (counted entry)))
    (zero : counter (new lib staleThreshold created) = 0) :
    (counter m).toNat = min ((entriesSince resets history).countP counted) counterMax := by
  rw [← foldl_bit]
  exact congrArg UInt64.toNat (field_eq_foldl_since run
    (fun m entry next applied => moves m entry next (effect_of_apply applied)) zero)

/-- A counter that only grows. -/
theorem counter_ever {counter : WsHealthMonitor lib → UInt64} {counted : Entry → Bool}
    (run : after lib staleThreshold created history = some m)
    (moves : ∀ m entry next, Effect m entry next →
      counter next = saturatingAdd (counter m) (bit (counted entry)))
    (zero : counter (new lib staleThreshold created) = 0) :
    (counter m).toNat = min (history.countP counted) counterMax := by
  have same : counter m =
      (entriesSince (fun _ => false) history).foldl
        (fun count entry => saturatingAdd count (bit (counted entry))) 0 :=
    field_eq_foldl_since run
      (fun m entry next applied => moves m entry next (effect_of_apply applied)) zero
  rw [same, entriesSince_never, foldl_bit]

theorem reports_after (lawful : Lawful lib)
    (run : after lib staleThreshold created history = some m) (now later : Instant) :
    Reports history (m.getStats now later) := by
  have holds := holds_after run
  constructor
  · have same : m.messageCount = (entriesSince resets history).foldl
        (fun count entry => saturatingAdd count (frames entry)) 0 :=
      field_eq_foldl_since run (fun _ _ _ applied => (effect_of_apply applied).messages) rfl
    change m.messageCount.toNat = _
    rw [same, foldl_saturatingAdd, UInt64.toNat_zero, Nat.zero_add]
  · exact counter_since_reset run (fun _ _ _ effect => effect.errors) rfl
  · exact counter_ever run (fun _ _ _ effect => effect.attempts) rfl
  · exact counter_ever run (fun _ _ _ effect => effect.successes) rfl
  · exact counter_ever run (fun _ _ _ effect => effect.reconnects) rfl
  · have counted : ∀ entry, (sample entry).isSome = (latency entry).isSome := by
      intro entry
      rw [sample, Option.isSome_map]
    change (lib.len m.latencyHistogram).toNat = _
    rw [holds.histogram, newLatencyHistogram, len_recorded lawful holds.within,
      List.length_filterMap_eq_countP, funext counted]
  · exact counter_since_reset run (fun _ _ _ effect => effect.clamped) rfl
  · exact ring_len holds.serverErrors serverError_isSome
  · exact ring_len holds.internalErrors internalError_isSome

end

/-- The statistics are the right function of history. After any sequence of operations the
monitor exists, `get_stats` reports the counts that the history gives, and the rings and the
histogram hold what was recorded since they were last emptied. -/
theorem stats_of_history (lawful : Lawful lib) (staleThreshold : Duration) (created : Instant)
    (history : List Entry) :
    ∃ m, after lib staleThreshold created history = some m ∧
      (∀ now later, Reports history (m.getStats now later)) ∧ Holds history m := by
  obtain ⟨m, run⟩ := after_isSome lib staleThreshold created history
  exact ⟨m, run, reports_after lawful run, holds_after run⟩

/-- A histogram that remembers only how many values it was given. -/
def tally : HistogramLibrary where
  Histogram := UInt64
  newWithBounds _ _ _ := 0
  record count _ := (true, saturatingAdd count 1)
  len count := count
  valueAtPercentile _ _ := 1

/-- Two samples, one of them outside the bounds, and an error between two resets. -/
theorem stats_of_short_history :
    Lawful tally ∧ ∃ m, after tally 5 0
        [⟨.recordMessage, 1⟩, ⟨.resetConnection, 2⟩, ⟨.recordRtt 1500, 3⟩, ⟨.recordRtt 0, 4⟩,
          ⟨.recordServerError (some 7) "refused", 5⟩] = some m ∧
      ((m.getStats 6 6).latencySamples = 2 ∧ (m.getStats 6 6).rttClampedSamples = 1 ∧
        (m.getStats 6 6).errors = 1 ∧ (m.getStats 6 6).messages = 0) := by
  have lawful : Lawful tally := ⟨fun _ _ _ => rfl, fun _ _ _ _ _ _ => ⟨rfl, rfl⟩⟩
  obtain ⟨m, run, reports, -⟩ := stats_of_history lawful 5 0
    [⟨.recordMessage, 1⟩, ⟨.resetConnection, 2⟩, ⟨.recordRtt 1500, 3⟩, ⟨.recordRtt 0, 4⟩,
      ⟨.recordServerError (some 7) "refused", 5⟩]
  have stats := reports 6 6
  refine ⟨lawful, m, run, ?_⟩
  have samples := stats.latencySamples
  have clamped := stats.rttClampedSamples
  have errors := stats.errors
  have messages := stats.messages
  refine ⟨UInt64.toNat_inj.mp (samples.trans (by decide)),
    UInt64.toNat_inj.mp (clamped.trans (by decide)), UInt64.toNat_inj.mp (errors.trans (by decide)),
    UInt64.toNat_inj.mp (messages.trans (by decide))⟩

end HealthStatistics
