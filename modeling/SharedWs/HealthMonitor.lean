import Mathlib.Data.UInt
import SharedWs.CircularBuffers
import SharedWs.Utf8Boundaries
import SharedWs.WsTypes

/-!
# The health monitor

`WsHealthMonitor` of `core/health.rs`. The clock is read by the operations that need it, so each
of them takes the reading as an argument. The histogram is a library's and stays a parameter: its
bounds are constants that its constructor accepts, so the constructor is total here.

The texts of recorded errors are cut to a fixed number of bytes. A cut inside a character would
panic; an operation that panics gives no monitor.
-/
namespace HealthMonitor

open CircularBuffers Utf8Boundaries WsTypes

def maxRecentErrors : Nat := 100

def maxErrorTextBytes : Nat := 1024

def minRttUs : UInt64 := 1

def maxRttUs : UInt64 := 60000000

/-- The loop that walks back from `stop` to a character boundary. -/
def boundaryFrom (s : String) : Nat → Nat
  | 0 => 0
  | stop + 1 => if isCharBoundary s (stop + 1) then stop + 1 else boundaryFrom s stop

def truncateString (s : String) : Option String :=
  if s.utf8ByteSize ≤ maxErrorTextBytes then some s
  else sliceTo s (boundaryFrom s maxErrorTextBytes)

/-- Among the prefixes of `s` that end on a character boundary and have at most `limit` bytes,
`text` is the longest. -/
structure LongestPrefix (s : String) (limit : Nat) (text : String) : Prop where
  begins : ∃ rest, s = text ++ rest
  within : text.utf8ByteSize ≤ limit
  longest : ∀ stop, isCharBoundary s stop = true → stop ≤ limit → stop ≤ text.utf8ByteSize

/-- The loop stops at the last boundary that is not after its start. -/
theorem boundaryFrom_spec (s : String) (start : Nat) :
    isCharBoundary s (boundaryFrom s start) = true ∧ boundaryFrom s start ≤ start ∧
      ∀ stop, isCharBoundary s stop = true → stop ≤ start → stop ≤ boundaryFrom s start := by
  induction start with
  | zero =>
    refine ⟨by simp [boundaryFrom, isCharBoundary], Nat.le_refl 0, ?_⟩
    intro stop _ low
    simpa [boundaryFrom] using low
  | succ start ih =>
    obtain ⟨boundary, low, last⟩ := ih
    by_cases here : isCharBoundary s (start + 1) = true
    · simp only [boundaryFrom, here, ↓reduceIte]
      exact ⟨trivial, Nat.le_refl _, fun _ _ within => within⟩
    · simp only [boundaryFrom, here, Bool.false_eq_true, ↓reduceIte]
      refine ⟨boundary, by omega, ?_⟩
      intro stop found within
      have below : stop ≠ start + 1 := fun same => here (same ▸ found)
      exact last stop found (by omega)

/-- A text that is too long is cut to its longest prefix that fits. -/
theorem truncateString_long {s : String} (long : maxErrorTextBytes < s.utf8ByteSize) :
    ∃ text, truncateString s = some text ∧ LongestPrefix s maxErrorTextBytes text := by
  obtain ⟨boundary, low, last⟩ := boundaryFrom_spec s maxErrorTextBytes
  obtain ⟨text, rest, split, size⟩ := isCharBoundary_iff.mp boundary
  have kept : sliceTo s (boundaryFrom s maxErrorTextBytes) = some text := by
    rw [split] at size ⊢
    rw [← size]
    exact sliceTo_append text rest
  refine ⟨text, ?_, ⟨rest, split⟩, by omega, by rw [size]; exact last⟩
  rw [truncateString, if_neg (by omega), kept]

theorem truncateString_short {s : String} (short : s.utf8ByteSize ≤ maxErrorTextBytes) :
    truncateString s = some s := by
  rw [truncateString, if_pos short]

/-- Cutting never panics. -/
theorem truncateString_isSome (s : String) : ∃ text, truncateString s = some text := by
  by_cases short : s.utf8ByteSize ≤ maxErrorTextBytes
  · exact ⟨s, truncateString_short short⟩
  · obtain ⟨text, cut, -⟩ := truncateString_long (Nat.lt_of_not_le short)
    exact ⟨text, cut⟩

/-- The longest prefix of a longer text misses the limit by less than one character. -/
theorem LongestPrefix.almost {s text : String} {limit : Nat} (cut : LongestPrefix s limit text)
    (long : limit < s.utf8ByteSize) : limit < text.utf8ByteSize + 4 := by
  obtain ⟨rest, split⟩ := cut.begins
  have more : rest ≠ "" := by
    rintro rfl
    have within := cut.within
    rw [split, String.append_empty] at long
    omega
  obtain ⟨c, after, further, width⟩ := next_boundary text more
  have boundary : isCharBoundary s (text.push c).utf8ByteSize = true :=
    isCharBoundary_iff.mpr ⟨text.push c, after, split.trans further, rfl⟩
  -- The text with one more character is a prefix too, so it is over the limit.
  by_cases fits : (text.push c).utf8ByteSize ≤ limit
  · have short := cut.longest _ boundary fits
    have positive := c.utf8Size_pos
    rw [String.utf8ByteSize_push] at short
    omega
  · omega

/-- Error texts are cut to the longest valid prefix: a text of at most 1024 bytes is kept, a
longer one becomes its longest prefix on a character boundary within 1024 bytes, which has at
least 1021. -/
theorem truncateString_keeps_longest (s : String) :
    (s.utf8ByteSize ≤ maxErrorTextBytes → truncateString s = some s) ∧
    (maxErrorTextBytes < s.utf8ByteSize → ∃ text, truncateString s = some text ∧
      LongestPrefix s maxErrorTextBytes text ∧
      1021 ≤ text.utf8ByteSize ∧ text.utf8ByteSize ≤ 1024) := by
  constructor
  · exact truncateString_short
  · intro long
    obtain ⟨text, cut, prefixes⟩ := truncateString_long long
    have near := prefixes.almost long
    have within := prefixes.within
    unfold maxErrorTextBytes at near within
    exact ⟨text, cut, prefixes, by omega, by omega⟩

/-- `u64::saturating_add`. -/
def saturatingAdd (m n : UInt64) : UInt64 :=
  if m.toNat + n.toNat < UInt64.size then m + n else UInt64.ofNat (UInt64.size - 1)

/-- The histogram, as far as the monitor uses it. `record` also says whether the value was
accepted. -/
structure HistogramLibrary where
  Histogram : Type
  newWithBounds : (low high : UInt64) → (digits : UInt8) → Histogram
  record : Histogram → UInt64 → Bool × Histogram
  len : Histogram → UInt64
  valueAtPercentile : Histogram → Rat → UInt64

structure ServerErrorRec where
  timestamp : Instant
  code : Option Int32
  message : String
  deriving DecidableEq

structure InternalErrorRec where
  timestamp : Instant
  context : String
  error : String
  deriving DecidableEq

/-- Both rings keep the capacity they are created with. -/
structure WsHealthMonitor (lib : HistogramLibrary) where
  connectionStarted : Instant
  lastMessageReceived : Instant
  lastMessageSent : Instant
  staleThreshold : Duration
  messageCount : UInt64
  errorCount : UInt64
  connectAttempts : UInt64
  connectSuccesses : UInt64
  reconnectCount : UInt64
  serverErrors : CircularBuffer ServerErrorRec
  internalErrors : CircularBuffer InternalErrorRec
  latencyHistogram : lib.Histogram
  rttClampedSamples : UInt64
  serverCapacity : serverErrors.capacity = maxRecentErrors
  internalCapacity : internalErrors.capacity = maxRecentErrors

structure WsConnectionStats where
  uptime : Duration
  messages : UInt64
  errors : UInt64
  connectAttempts : UInt64
  connectSuccesses : UInt64
  reconnects : UInt64
  lastMessageAge : Duration
  recentServerErrors : Nat
  recentInternalErrors : Nat
  p50LatencyUs : UInt64
  p99LatencyUs : UInt64
  latencySamples : UInt64
  rttClampedSamples : UInt64
  deriving DecidableEq

variable {lib : HistogramLibrary}

def newLatencyHistogram (lib : HistogramLibrary) : lib.Histogram :=
  lib.newWithBounds minRttUs maxRttUs 3

/-- `Duration::as_micros`. -/
def asMicros (duration : Duration) : Nat :=
  duration / 1000

/-- The whole microseconds of a latency, brought within the bounds of the histogram, and whether
this changed them. -/
def clampRtt (latency : Duration) : UInt64 × Bool :=
  let micros := UInt64.ofNat (min (asMicros latency) (UInt64.size - 1))
  let (micros, clamped) := if micros < minRttUs then (minRttUs, true) else (micros, false)
  if maxRttUs < micros then (maxRttUs, true) else (micros, clamped)

namespace WsHealthMonitor

def new (lib : HistogramLibrary) (staleThreshold : Duration) (now : Instant) :
    WsHealthMonitor lib where
  connectionStarted := now
  lastMessageReceived := now
  lastMessageSent := now
  staleThreshold := staleThreshold
  messageCount := 0
  errorCount := 0
  connectAttempts := 0
  connectSuccesses := 0
  reconnectCount := 0
  serverErrors := .new maxRecentErrors
  internalErrors := .new maxRecentErrors
  latencyHistogram := newLatencyHistogram lib
  rttClampedSamples := 0
  serverCapacity := rfl
  internalCapacity := rfl

def resetConnection (m : WsHealthMonitor lib) (now : Instant) : WsHealthMonitor lib :=
  { m with
    connectionStarted := now
    lastMessageReceived := now
    lastMessageSent := now
    messageCount := 0
    errorCount := 0
    serverErrors := m.serverErrors.clear
    internalErrors := m.internalErrors.clear
    latencyHistogram := newLatencyHistogram lib
    rttClampedSamples := 0
    serverCapacity := m.serverCapacity
    internalCapacity := m.internalCapacity }

def recordConnectAttempt (m : WsHealthMonitor lib) : WsHealthMonitor lib :=
  { m with connectAttempts := saturatingAdd m.connectAttempts 1 }

def recordConnectSuccess (m : WsHealthMonitor lib) : WsHealthMonitor lib :=
  { m with connectSuccesses := saturatingAdd m.connectSuccesses 1 }

def recordMessage (m : WsHealthMonitor lib) (now : Instant) : WsHealthMonitor lib :=
  { m with
    lastMessageReceived := now
    messageCount := saturatingAdd m.messageCount 1 }

def recordInboundFrames (m : WsHealthMonitor lib) (frames : UInt64) (now : Instant) :
    WsHealthMonitor lib :=
  if frames = 0 then m
  else
    { m with
      lastMessageReceived := now
      messageCount := saturatingAdd m.messageCount frames }

def recordSent (m : WsHealthMonitor lib) (now : Instant) : WsHealthMonitor lib :=
  { m with lastMessageSent := now }

def recordError (m : WsHealthMonitor lib) : WsHealthMonitor lib :=
  { m with errorCount := saturatingAdd m.errorCount 1 }

def recordServerError (m : WsHealthMonitor lib) (code : Option Int32) (message : String)
    (now : Instant) : Option (WsHealthMonitor lib) := do
  let m := m.recordError
  let message ← truncateString message
  return { m with
    serverErrors := m.serverErrors.push ⟨now, code, message⟩
    serverCapacity := (push_capacity _ _).trans m.serverCapacity }

def recordInternalError (m : WsHealthMonitor lib) (context error : String) (now : Instant) :
    Option (WsHealthMonitor lib) := do
  let m := m.recordError
  let context ← truncateString context
  let error ← truncateString error
  return { m with
    internalErrors := m.internalErrors.push ⟨now, context, error⟩
    internalCapacity := (push_capacity _ _).trans m.internalCapacity }

/-- Whether the histogram accepts the value is ignored. -/
def recordRtt (m : WsHealthMonitor lib) (latency : Duration) : WsHealthMonitor lib :=
  let (micros, clamped) := clampRtt latency
  let m :=
    if clamped then { m with rttClampedSamples := saturatingAdd m.rttClampedSamples 1 } else m
  { m with latencyHistogram := (lib.record m.latencyHistogram micros).2 }

def incrementReconnect (m : WsHealthMonitor lib) : WsHealthMonitor lib :=
  { m with reconnectCount := saturatingAdd m.reconnectCount 1 }

def isStale (m : WsHealthMonitor lib) (now : Instant) : Bool :=
  decide (m.staleThreshold < now - m.lastMessageReceived)

def clearErrorBuffers (m : WsHealthMonitor lib) : WsHealthMonitor lib :=
  { m with
    serverErrors := m.serverErrors.clear
    internalErrors := m.internalErrors.clear
    serverCapacity := m.serverCapacity
    internalCapacity := m.internalCapacity }

/-- The clock is read twice, for the uptime and for the age of the last message. -/
def getStats (m : WsHealthMonitor lib) (now later : Instant) : WsConnectionStats :=
  let latencySamples := lib.len m.latencyHistogram
  let (p50, p99) :=
    if latencySamples = 0 then (0, 0)
    else
      (min (lib.valueAtPercentile m.latencyHistogram 50) maxRttUs,
        min (lib.valueAtPercentile m.latencyHistogram 99) maxRttUs)
  { uptime := now - m.connectionStarted
    messages := m.messageCount
    errors := m.errorCount
    connectAttempts := m.connectAttempts
    connectSuccesses := m.connectSuccesses
    reconnects := m.reconnectCount
    lastMessageAge := later - m.lastMessageReceived
    recentServerErrors := m.serverErrors.len
    recentInternalErrors := m.internalErrors.len
    p50LatencyUs := p50
    p99LatencyUs := p99
    latencySamples := latencySamples
    rttClampedSamples := m.rttClampedSamples }

end WsHealthMonitor

/-- The operations that can change a monitor. -/
inductive Operation where
  | resetConnection
  | recordConnectAttempt
  | recordConnectSuccess
  | recordMessage
  | recordInboundFrames (frames : UInt64)
  | recordSent
  | recordError
  | recordServerError (code : Option Int32) (message : String)
  | recordInternalError (context error : String)
  | recordRtt (latency : Duration)
  | incrementReconnect
  | clearErrorBuffers
  deriving DecidableEq

/-- An operation and the reading of the clock when it is made. -/
structure Entry where
  operation : Operation
  now : Instant
  deriving DecidableEq

def WsHealthMonitor.apply (m : WsHealthMonitor lib) (entry : Entry) :
    Option (WsHealthMonitor lib) :=
  match entry.operation with
  | .resetConnection => some (m.resetConnection entry.now)
  | .recordConnectAttempt => some m.recordConnectAttempt
  | .recordConnectSuccess => some m.recordConnectSuccess
  | .recordMessage => some (m.recordMessage entry.now)
  | .recordInboundFrames frames => some (m.recordInboundFrames frames entry.now)
  | .recordSent => some (m.recordSent entry.now)
  | .recordError => some m.recordError
  | .recordServerError code message => m.recordServerError code message entry.now
  | .recordInternalError context error => m.recordInternalError context error entry.now
  | .recordRtt latency => some (m.recordRtt latency)
  | .incrementReconnect => some m.incrementReconnect
  | .clearErrorBuffers => some m.clearErrorBuffers

end HealthMonitor
