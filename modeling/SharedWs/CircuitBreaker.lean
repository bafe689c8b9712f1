import Mathlib.Data.UInt
import SharedWs.HistoryCounts
import SharedWs.ServerTypes

/-!
# The circuit breaker

`WsCircuitBreaker` of `core/connection_policy.rs`. Opening the circuit adds the
timeout to the current reading of the clock, and this addition panics when the
sum is not representable. The latest representable reading depends on the
platform and is a parameter, `horizon`; a call that panics gives no breaker.

The specification is stated over sequences of calls: when the breaker opens, how
long it refuses, and how a probing phase ends.
-/
namespace CircuitBreaker

open HistoryCounts WsTypes

inductive CircuitState where
  | closed
  | opened (untilTime : Instant)
  | halfOpen
  deriving DecidableEq

structure WsCircuitBreaker where
  state : CircuitState
  failureThreshold : UInt32
  successThreshold : UInt32
  timeout : Duration
  failures : UInt32
  successes : UInt32

/-- `u32::saturating_add`. -/
def saturatingAdd (m n : UInt32) : UInt32 :=
  if m.toNat + n.toNat < UInt32.size then m + n else UInt32.ofNat (UInt32.size - 1)

/-- Below some counter value the addition of one is exact. -/
theorem saturatingAdd_one {n bound : UInt32} (below : n.toNat < bound.toNat) :
    (saturatingAdd n 1).toNat = n.toNat + 1 := by
  have small := bound.toNat_lt
  have fits : n.toNat + (1 : UInt32).toNat < UInt32.size := by
    simp only [UInt32.toNat_one, UInt32.size]
    omega
  rw [saturatingAdd, if_pos fits, UInt32.toNat_add, UInt32.toNat_one]
  omega

/-- `Instant + Duration`, where `none` is the panic on overflow. -/
def addDuration (horizon now : Instant) (duration : Duration) : Option Instant :=
  if now + duration ≤ horizon then some (now + duration) else none

namespace WsCircuitBreaker

def new (failureThreshold successThreshold : UInt32) (timeout : Duration) : WsCircuitBreaker where
  state := .closed
  failureThreshold := max failureThreshold 1
  successThreshold := max successThreshold 1
  timeout := timeout
  failures := 0
  successes := 0

def canProceed (b : WsCircuitBreaker) (now : Instant) : Bool × WsCircuitBreaker :=
  match b.state with
  | .closed => (true, b)
  | .opened untilTime =>
    if untilTime ≤ now then
      (true, { b with state := .halfOpen, failures := 0, successes := 0 })
    else (false, b)
  | .halfOpen => (true, b)

def recordSuccess (b : WsCircuitBreaker) : WsCircuitBreaker :=
  match b.state with
  | .halfOpen =>
    let successes := saturatingAdd b.successes 1
    if b.successThreshold ≤ successes then
      { b with state := .closed, failures := 0, successes := 0 }
    else { b with successes := successes }
  | .closed => { b with failures := 0 }
  | .opened _ => b

def openCircuit (horizon : Instant) (b : WsCircuitBreaker) (now : Instant) :
    Option WsCircuitBreaker := do
  let untilTime ← addDuration horizon now b.timeout
  return { b with state := .opened untilTime, failures := 0, successes := 0 }

def recordFailure (horizon : Instant) (b : WsCircuitBreaker) (now : Instant) :
    Option WsCircuitBreaker :=
  let b := { b with failures := saturatingAdd b.failures 1 }
  match b.state with
  | .closed =>
    if b.failureThreshold ≤ b.failures then b.openCircuit horizon now else some b
  | .halfOpen => b.openCircuit horizon now
  | .opened _ => some b

/-- `checked_duration_since` is absent only when the reading is past the time. -/
def timeUntilRetry (b : WsCircuitBreaker) (now : Instant) : Option Duration :=
  match b.state with
  | .opened untilTime => if now ≤ untilTime then some (untilTime - now) else none
  | _ => none

end WsCircuitBreaker

inductive Call where
  | canProceed (now : Instant)
  | recordSuccess (now : Instant)
  | recordFailure (now : Instant)
  | timeUntilRetry (now : Instant)
  deriving DecidableEq

def Call.now : Call → Instant
  | .canProceed now | .recordSuccess now | .recordFailure now | .timeUntilRetry now => now

def Call.isSuccess : Call → Bool
  | .recordSuccess _ => true
  | _ => false

def Call.isFailure : Call → Bool
  | .recordFailure _ => true
  | _ => false

/-- The breaker after one call, when the call returns. -/
def after (horizon : Instant) (b : WsCircuitBreaker) : Call → Option WsCircuitBreaker
  | .canProceed now => some (b.canProceed now).2
  | .recordSuccess _ => some b.recordSuccess
  | .recordFailure now => b.recordFailure horizon now
  | .timeUntilRetry _ => some b

def run (horizon : Instant) : WsCircuitBreaker → List Call → Option WsCircuitBreaker
  | b, [] => some b
  | b, call :: calls => (after horizon b call).bind fun b => run horizon b calls

theorem run_append (horizon : Instant) (b : WsCircuitBreaker) (before rest : List Call) :
    run horizon b (before ++ rest) =
      (run horizon b before).bind fun b => run horizon b rest := by
  induction before generalizing b with
  | nil => rfl
  | cons call before ih =>
    simp only [List.cons_append, run, Option.bind_assoc]
    congr
    funext b
    exact ih b

theorem run_snoc (horizon : Instant) (b : WsCircuitBreaker) (before : List Call) (call : Call) :
    run horizon b (before ++ [call]) =
      (run horizon b before).bind fun b => after horizon b call := by
  rw [run_append]
  congr
  funext b
  simp [run]

/-- The breaker is at a failure that opens it. -/
def Trips (b : WsCircuitBreaker) : Call → Prop
  | .recordFailure _ =>
      b.state = .halfOpen ∨
        b.state = .closed ∧ b.failureThreshold ≤ saturatingAdd b.failures 1
  | _ => False

theorem Call.isSuccess_of_isFailure {call : Call} (failed : call.isFailure = true) :
    call.isSuccess = false := by
  cases call with
  | recordFailure now => rfl
  | canProceed now => cases failed
  | recordSuccess now => cases failed
  | timeUntilRetry now => cases failed

theorem Trips.isFailure {b : WsCircuitBreaker} {call : Call} (tripped : Trips b call) :
    call.isFailure = true := by
  cases call with
  | recordFailure now => rfl
  | canProceed now => exact False.elim tripped
  | recordSuccess now => exact False.elim tripped
  | timeUntilRetry now => exact False.elim tripped

/-- While probing every failure opens the circuit. -/
theorem trips_of_halfOpen {b : WsCircuitBreaker} {call : Call} (failed : call.isFailure = true)
    (probing : b.state = .halfOpen) : Trips b call := by
  cases call with
  | recordFailure now => exact Or.inl probing
  | canProceed now => cases failed
  | recordSuccess now => cases failed
  | timeUntilRetry now => cases failed

/-- An open circuit ignores failures. -/
theorem not_trips_of_opened {b : WsCircuitBreaker} {call : Call} {untilTime : Instant}
    (resting : b.state = .opened untilTime) : ¬ Trips b call := by
  cases call <;> simp [Trips, resting]

/-- Everything a call can do to the breaker, with the conditions under which it
does it. -/
inductive Transition (b : WsCircuitBreaker) (call : Call) : WsCircuitBreaker → Prop
  | trips (untilTime : Instant) (tripped : Trips b call) (rest : untilTime = call.now + b.timeout) :
      Transition b call { b with state := .opened untilTime, failures := 0, successes := 0 }
  | fails (failed : call.isFailure = true) (kept : ¬ Trips b call) :
      Transition b call { b with failures := saturatingAdd b.failures 1 }
  | closes (succeeded : call.isSuccess = true) (probing : b.state = .halfOpen)
      (enough : b.successThreshold ≤ saturatingAdd b.successes 1) :
      Transition b call { b with state := .closed, failures := 0, successes := 0 }
  | probes (succeeded : call.isSuccess = true) (probing : b.state = .halfOpen)
      (few : ¬ b.successThreshold ≤ saturatingAdd b.successes 1) :
      Transition b call { b with successes := saturatingAdd b.successes 1 }
  | clears (succeeded : call.isSuccess = true) (atWork : b.state = .closed) :
      Transition b call { b with failures := 0 }
  | retries (now untilTime : Instant) (asked : call = .canProceed now)
      (resting : b.state = .opened untilTime) (due : untilTime ≤ now) :
      Transition b call { b with state := .halfOpen, failures := 0, successes := 0 }
  | idles (noFailure : call.isFailure = false)
      (noSuccess : call.isSuccess = true → ∃ untilTime, b.state = .opened untilTime)
      (notDue : ∀ now untilTime, call = .canProceed now → b.state = .opened untilTime →
        now < untilTime) :
      Transition b call b

theorem openCircuit_eq_some {horizon now : Instant} {b b' : WsCircuitBreaker}
    (opened : b.openCircuit horizon now = some b') :
    now + b.timeout ≤ horizon ∧
      b' = { b with state := .opened (now + b.timeout), failures := 0, successes := 0 } := by
  unfold WsCircuitBreaker.openCircuit addDuration at opened
  by_cases fits : now + b.timeout ≤ horizon
  · rw [if_pos fits] at opened
    exact ⟨fits, (Option.some.inj opened).symm⟩
  · rw [if_neg fits] at opened
    cases opened

theorem transition_of_after {horizon : Instant} {b b' : WsCircuitBreaker} {call : Call}
    (done : after horizon b call = some b') : Transition b call b' := by
  cases call with
  | canProceed now =>
    obtain rfl := Option.some.inj done
    unfold WsCircuitBreaker.canProceed
    cases known : b.state with
    | closed => exact .idles rfl nofun (by simp [known])
    | halfOpen => exact .idles rfl nofun (by simp [known])
    | opened untilTime =>
      by_cases due : untilTime ≤ now
      · simp only [if_pos due]
        exact .retries now untilTime rfl known due
      · simp only [if_neg due]
        refine .idles rfl nofun fun other time asked resting => ?_
        obtain rfl := Call.canProceed.inj asked
        obtain rfl := CircuitState.opened.inj (known.symm.trans resting)
        exact lt_of_not_ge due
  | recordSuccess now =>
    obtain rfl := Option.some.inj done
    cases known : b.state with
    | closed =>
      have cleared : b.recordSuccess = { b with failures := 0 } := by
        simp only [WsCircuitBreaker.recordSuccess, known]
      rw [cleared]
      exact .clears rfl known
    | opened untilTime =>
      have ignored : b.recordSuccess = b := by
        simp only [WsCircuitBreaker.recordSuccess, known]
      rw [ignored]
      exact .idles rfl (fun _ => ⟨untilTime, known⟩) nofun
    | halfOpen =>
      by_cases enough : b.successThreshold ≤ saturatingAdd b.successes 1
      · have closed : b.recordSuccess =
            { b with state := .closed, failures := 0, successes := 0 } := by
          simp only [WsCircuitBreaker.recordSuccess, known, if_pos enough]
        rw [closed]
        exact .closes rfl known enough
      · have counted : b.recordSuccess =
            { b with successes := saturatingAdd b.successes 1 } := by
          simp only [WsCircuitBreaker.recordSuccess, known, if_neg enough]
        rw [counted]
        exact .probes rfl known enough
  | recordFailure now =>
    simp only [after, WsCircuitBreaker.recordFailure] at done
    by_cases tripped : Trips b (.recordFailure now)
    · have opened :
          ({ b with failures := saturatingAdd b.failures 1 } : WsCircuitBreaker).openCircuit
            horizon now = some b' := by
        rcases tripped with known | ⟨known, enough⟩
        · simpa only [known] using done
        · simpa only [known, if_pos enough] using done
      obtain ⟨-, rfl⟩ := openCircuit_eq_some opened
      exact .trips _ tripped rfl
    · have counted : some { b with failures := saturatingAdd b.failures 1 } = some b' := by
        cases known : b.state with
        | closed =>
          have few : ¬ b.failureThreshold ≤ saturatingAdd b.failures 1 :=
            fun enough => tripped (Or.inr ⟨known, enough⟩)
          simpa only [known, if_neg few] using done
        | halfOpen => exact absurd (Or.inl known) tripped
        | opened untilTime => simpa only [known] using done
      obtain rfl := Option.some.inj counted
      exact .fails rfl tripped
  | timeUntilRetry now =>
    obtain rfl := Option.some.inj done
    exact .idles rfl nofun nofun

theorem openCircuit_isSome {horizon now : Instant} {b : WsCircuitBreaker} :
    (b.openCircuit horizon now).isSome = true ↔ now + b.timeout ≤ horizon := by
  unfold WsCircuitBreaker.openCircuit addDuration
  by_cases fits : now + b.timeout ≤ horizon
  · simp [fits]
  · simp [fits]

/-- A call returns unless it opens the circuit past the horizon. -/
theorem after_isSome {horizon : Instant} {b : WsCircuitBreaker} {call : Call} :
    (after horizon b call).isSome = true ↔
      (Trips b call → call.now + b.timeout ≤ horizon) := by
  cases call with
  | canProceed now => simp [after, Trips]
  | recordSuccess now => simp [after, Trips]
  | timeUntilRetry now => simp [after, Trips]
  | recordFailure now =>
    simp only [after, WsCircuitBreaker.recordFailure, Trips, Call.now]
    cases known : b.state with
    | closed =>
      by_cases enough : b.failureThreshold ≤ saturatingAdd b.failures 1
      · simp only [if_pos enough, openCircuit_isSome]
        simp [enough]
      · simp [enough]
    | halfOpen => simp only [openCircuit_isSome, true_or, forall_const]
    | opened untilTime => simp

/-- The latest reading the platform can represent, and the parameters of a
breaker. -/
structure Setup where
  horizon : Instant
  failureThreshold : UInt32
  successThreshold : UInt32
  timeout : Duration

namespace Setup

/-- The number of failures that open the circuit. -/
def f (c : Setup) : Nat := max 1 c.failureThreshold.toNat

/-- The number of successes that close it again. -/
def s (c : Setup) : Nat := max 1 c.successThreshold.toNat

/-- The breaker after these calls, if none of them panicked. -/
def reached (c : Setup) (calls : List Call) : Option WsCircuitBreaker :=
  run c.horizon (.new c.failureThreshold c.successThreshold c.timeout) calls

/-- The calls lead to a breaker in this phase. -/
def In (c : Setup) (phase : CircuitState → Prop) (calls : List Call) : Prop :=
  ∃ b, c.reached calls = some b ∧ phase b.state

/-- The last of the calls brings the breaker into the phase, or it starts there. -/
def Enters (c : Setup) (phase : CircuitState → Prop) (calls : List Call) : Prop :=
  c.In phase calls ∧ ∀ before call, calls = before ++ [call] → ¬ c.In phase before

/-- From `before` on the breaker is in the phase all through these calls. -/
def Stays (c : Setup) (phase : CircuitState → Prop) (before calls : List Call) : Prop :=
  ∀ part, part <+: calls → c.In phase (before ++ part)

end Setup

def CircuitState.IsClosed (state : CircuitState) : Prop := state = .closed

def CircuitState.IsOpen (state : CircuitState) : Prop := ∃ untilTime, state = .opened untilTime

def CircuitState.IsHalfOpen (state : CircuitState) : Prop := state = .halfOpen

/-- The failures at the end of the calls that no success separates. -/
def streak (calls : List Call) : Nat := countSince Call.isSuccess Call.isFailure calls

/-- The breaker as its callers are told it works, along these calls. -/
structure MeetsSpecification (c : Setup) (calls : List Call) : Prop where
  returns : ∀ before, before <+: calls → ∃ b, c.reached before = some b
  opens : ∀ before during call b, before ++ during ++ [call] <+: calls →
    c.Enters CircuitState.IsClosed before → c.Stays CircuitState.IsClosed before during →
    c.reached (before ++ during ++ [call]) = some b →
      (b.state ≠ .closed ↔ call.isFailure = true ∧ streak (during ++ [call]) = c.f) ∧
      (b.state ≠ .closed → b.state = .opened (call.now + c.timeout))
  rests : ∀ before opening during b, before ++ [opening] ++ during <+: calls →
    c.Enters CircuitState.IsOpen (before ++ [opening]) →
    (∀ now, Call.canProceed now ∈ during → now < opening.now + c.timeout) →
    c.reached (before ++ [opening] ++ during) = some b → ∀ now,
      (now < opening.now + c.timeout → (b.canProceed now).1 = false) ∧
      (opening.now + c.timeout ≤ now →
        (b.canProceed now).1 = true ∧ (b.canProceed now).2.state = .halfOpen)
  probes : ∀ before during call b, before ++ during ++ [call] <+: calls →
    c.Enters CircuitState.IsHalfOpen before → c.Stays CircuitState.IsHalfOpen before during →
    c.reached (before ++ during ++ [call]) = some b →
      (call.isFailure = true → b.state = .opened (call.now + c.timeout)) ∧
      (call.isSuccess = true → (during ++ [call]).countP Call.isSuccess = c.s →
        b.state = .closed ∧ b.failures = 0) ∧
      (call.isFailure = false →
        ¬ (call.isSuccess = true ∧ (during ++ [call]).countP Call.isSuccess = c.s) →
        b.state = .halfOpen)
  closed : ∀ before b, before <+: calls → c.reached before = some b → b.state = .closed →
    b.failures.toNat < c.f ∧ b.successes = 0
  halfOpen : ∀ before b, before <+: calls → c.reached before = some b → b.state = .halfOpen →
    b.failures = 0 ∧ b.successes.toNat < c.s
  refuses : ∀ before b, before <+: calls → c.reached before = some b → ∀ now,
    ((b.canProceed now).1 = false ↔ ∃ wait, b.timeUntilRetry now = some wait ∧ 0 < wait) ∧
    ∀ wait, b.timeUntilRetry now = some wait → 0 < wait → (b.canProceed (now + wait)).1 = true

/-- The parameters a breaker was made with, and the bounds of its counters. -/
structure Sound (c : Setup) (b : WsCircuitBreaker) : Prop where
  failureThreshold : b.failureThreshold.toNat = c.f
  successThreshold : b.successThreshold.toNat = c.s
  timeout : b.timeout = c.timeout
  closed : b.state = .closed → b.failures.toNat < c.f ∧ b.successes = 0
  halfOpen : b.state = .halfOpen → b.failures = 0 ∧ b.successes.toNat < c.s

theorem toNat_max_one (n : UInt32) : (max n 1).toNat = max 1 n.toNat := by
  by_cases small : n ≤ 1
  · have same : max n 1 = 1 := if_pos small
    rw [same]
    have bound := UInt32.le_iff_toNat_le.mp small
    simp only [UInt32.toNat_one] at bound ⊢
    omega
  · have same : max n 1 = n := if_neg small
    rw [same]
    have bound := UInt32.lt_iff_toNat_lt.mp (UInt32.not_le.mp small)
    simp only [UInt32.toNat_one] at bound
    omega

theorem sound_new (c : Setup) :
    Sound c (.new c.failureThreshold c.successThreshold c.timeout) where
  failureThreshold := toNat_max_one c.failureThreshold
  successThreshold := toNat_max_one c.successThreshold
  timeout := rfl
  closed := fun _ => ⟨lt_of_lt_of_le Nat.zero_lt_one (le_max_left _ _), rfl⟩
  halfOpen := nofun

/-- In a closed breaker the failure that opens it is the one that completes the
number. -/
theorem Sound.trips_iff {c : Setup} {b : WsCircuitBreaker} (sound : Sound c b) {call : Call}
    (closed : b.state = .closed) :
    Trips b call ↔ call.isFailure = true ∧ b.failures.toNat + 1 = c.f := by
  cases call with
  | recordFailure now =>
    have below : b.failures.toNat < b.failureThreshold.toNat := by
      rw [sound.failureThreshold]
      exact (sound.closed closed).1
    have exact := saturatingAdd_one below
    simp only [Trips, closed, Call.isFailure, true_and]
    rw [UInt32.le_iff_toNat_le, exact, sound.failureThreshold]
    have bound := (sound.closed closed).1
    constructor
    · rintro (different | enough)
      · cases different
      · omega
    · intro same
      exact Or.inr (by omega)
  | canProceed now => simp [Trips, Call.isFailure]
  | recordSuccess now => simp [Trips, Call.isFailure]
  | timeUntilRetry now => simp [Trips, Call.isFailure]

theorem Sound.successes_succ {c : Setup} {b : WsCircuitBreaker} (sound : Sound c b)
    (probing : b.state = .halfOpen) :
    (saturatingAdd b.successes 1).toNat = b.successes.toNat + 1 := by
  have below : b.successes.toNat < b.successThreshold.toNat := by
    rw [sound.successThreshold]
    exact (sound.halfOpen probing).2
  exact saturatingAdd_one below

theorem Sound.step {c : Setup} {b b' : WsCircuitBreaker} {call : Call} (sound : Sound c b)
    (moved : Transition b call b') : Sound c b' := by
  have positive : 0 < c.f ∧ 0 < c.s :=
    ⟨lt_of_lt_of_le Nat.zero_lt_one (le_max_left _ _),
      lt_of_lt_of_le Nat.zero_lt_one (le_max_left _ _)⟩
  cases moved with
  | trips untilTime tripped rest =>
    exact ⟨sound.failureThreshold, sound.successThreshold, sound.timeout, nofun, nofun⟩
  | fails failed kept =>
    refine ⟨sound.failureThreshold, sound.successThreshold, sound.timeout, ?_, ?_⟩
    · intro closed
      have bound := (sound.closed closed).1
      have below : b.failures.toNat < b.failureThreshold.toNat := by
        rw [sound.failureThreshold]
        exact bound
      have next := saturatingAdd_one below
      have incomplete : ¬ b.failures.toNat + 1 = c.f :=
        fun same => kept ((sound.trips_iff closed).mpr ⟨failed, same⟩)
      simp only [next]
      exact ⟨by omega, (sound.closed closed).2⟩
    · intro probing
      have tripped : Trips b call := trips_of_halfOpen failed probing
      exact absurd tripped kept
  | closes succeeded probing enough =>
    exact ⟨sound.failureThreshold, sound.successThreshold, sound.timeout,
      fun _ => ⟨positive.1, rfl⟩, nofun⟩
  | probes succeeded probing few =>
    refine ⟨sound.failureThreshold, sound.successThreshold, sound.timeout, ?_, ?_⟩
    · intro closed
      rw [probing] at closed
      cases closed
    · intro _
      rw [UInt32.le_iff_toNat_le, sound.successThreshold] at few
      exact ⟨(sound.halfOpen probing).1, lt_of_not_ge few⟩
  | clears succeeded atWork =>
    refine ⟨sound.failureThreshold, sound.successThreshold, sound.timeout, ?_, ?_⟩
    · intro closed
      exact ⟨positive.1, (sound.closed closed).2⟩
    · intro probing
      rw [atWork] at probing
      cases probing
  | retries now untilTime asked resting due =>
    exact ⟨sound.failureThreshold, sound.successThreshold, sound.timeout, nofun,
      fun _ => ⟨rfl, positive.2⟩⟩
  | idles noFailure noSuccess notDue => exact sound

/-- The last call of a sequence that returned, taken apart. -/
theorem Setup.reached_snoc {c : Setup} {before : List Call} {call : Call} {b : WsCircuitBreaker}
    (done : c.reached (before ++ [call]) = some b) :
    ∃ earlier, c.reached before = some earlier ∧ Transition earlier call b := by
  unfold Setup.reached at done
  rw [run_snoc] at done
  obtain ⟨earlier, known, last⟩ := Option.bind_eq_some_iff.mp done
  exact ⟨earlier, known, transition_of_after last⟩

theorem Setup.sound {c : Setup} {calls : List Call} {b : WsCircuitBreaker}
    (done : c.reached calls = some b) : Sound c b := by
  induction calls using List.reverseRecOn generalizing b with
  | nil =>
    obtain rfl := Option.some.inj done
    exact sound_new c
  | append_singleton before call ih =>
    obtain ⟨earlier, known, moved⟩ := Setup.reached_snoc done
    exact (ih known).step moved

/-- A phase is entered by the start or by a call from outside the phase. -/
theorem Setup.Enters.cases {c : Setup} {phase : CircuitState → Prop} {calls : List Call}
    {b : WsCircuitBreaker} (entered : c.Enters phase calls) (done : c.reached calls = some b) :
    phase b.state ∧
      (b = .new c.failureThreshold c.successThreshold c.timeout ∨
        ∃ before call earlier, calls = before ++ [call] ∧ c.reached before = some earlier ∧
          Transition earlier call b ∧ ¬ phase earlier.state) := by
  obtain ⟨⟨found, known, inside⟩, outside⟩ := entered
  obtain rfl := Option.some.inj (known.symm.trans done)
  refine ⟨inside, ?_⟩
  rcases List.eq_nil_or_concat calls with rfl | ⟨before, call, rfl⟩
  · exact Or.inl (Option.some.inj done).symm
  · rw [List.concat_eq_append] at done outside
    obtain ⟨earlier, before_done, moved⟩ := Setup.reached_snoc done
    refine Or.inr ⟨before, call, earlier, List.concat_eq_append, before_done, moved, ?_⟩
    intro already
    exact outside before call rfl ⟨earlier, before_done, already⟩

theorem Setup.Stays.init {c : Setup} {phase : CircuitState → Prop} {before during : List Call}
    {call : Call} (stays : c.Stays phase before (during ++ [call])) :
    c.Stays phase before during :=
  fun part within => stays part (within.trans (List.prefix_append during [call]))

theorem Setup.Stays.last {c : Setup} {phase : CircuitState → Prop} {before during : List Call}
    {b : WsCircuitBreaker} (stays : c.Stays phase before during)
    (done : c.reached (before ++ during) = some b) : phase b.state := by
  obtain ⟨found, known, inside⟩ := stays during List.prefix_rfl
  obtain rfl := Option.some.inj (known.symm.trans done)
  exact inside

theorem entered_closed {c : Setup} {calls : List Call} {b : WsCircuitBreaker}
    (entered : c.Enters CircuitState.IsClosed calls) (done : c.reached calls = some b) :
    b.failures = 0 := by
  obtain ⟨inside, rfl | ⟨before, call, earlier, -, -, moved, outside⟩⟩ := entered.cases done
  · rfl
  · cases moved with
    | trips untilTime tripped rest => cases inside
    | fails failed kept => exact absurd inside outside
    | closes succeeded probing enough => rfl
    | probes succeeded probing few => exact absurd inside outside
    | clears succeeded atWork => rfl
    | retries now untilTime asked resting due => cases inside
    | idles noFailure noSuccess notDue => exact absurd inside outside

theorem entered_halfOpen {c : Setup} {calls : List Call} {b : WsCircuitBreaker}
    (entered : c.Enters CircuitState.IsHalfOpen calls) (done : c.reached calls = some b) :
    b.successes = 0 := by
  obtain ⟨inside, rfl | ⟨before, call, earlier, -, -, moved, outside⟩⟩ := entered.cases done
  · rfl
  · cases moved with
    | trips untilTime tripped rest => rfl
    | fails failed kept => exact absurd inside outside
    | closes succeeded probing enough => rfl
    | probes succeeded probing few => exact absurd inside outside
    | clears succeeded atWork => exact absurd inside outside
    | retries now untilTime asked resting due => rfl
    | idles noFailure noSuccess notDue => exact absurd inside outside

/-- The circuit is opened by a failure, for a full timeout. -/
theorem entered_open {c : Setup} {before : List Call} {opening : Call} {b : WsCircuitBreaker}
    (entered : c.Enters CircuitState.IsOpen (before ++ [opening]))
    (done : c.reached (before ++ [opening]) = some b) :
    b.state = .opened (opening.now + c.timeout) := by
  obtain ⟨⟨since, inside⟩, rfl | ⟨others, call, earlier, split, known, moved, outside⟩⟩ :=
    entered.cases done
  · cases inside
  · obtain ⟨-, same⟩ := List.append_inj' split rfl
    obtain rfl := List.singleton_inj.mp same
    cases moved with
    | trips untilTime tripped rest =>
      rw [rest, (Setup.sound known).timeout]
    | fails failed kept => exact absurd ⟨since, inside⟩ outside
    | closes succeeded probing enough => cases inside
    | probes succeeded probing few => exact absurd ⟨since, inside⟩ outside
    | clears succeeded atWork => exact absurd ⟨since, inside⟩ outside
    | retries now untilTime asked resting due => cases inside
    | idles noFailure noSuccess notDue => exact absurd ⟨since, inside⟩ outside

theorem streak_snoc (calls : List Call) (call : Call) :
    streak (calls ++ [call]) =
      if call.isSuccess then 0 else streak calls + if call.isFailure then 1 else 0 :=
  countSince_snoc calls call

/-- A closed breaker counts the failures since the last success. -/
theorem failures_eq_streak {c : Setup} {before during : List Call} {b : WsCircuitBreaker}
    (entered : c.Enters CircuitState.IsClosed before)
    (stays : c.Stays CircuitState.IsClosed before during)
    (done : c.reached (before ++ during) = some b) : b.failures.toNat = streak during := by
  induction during using List.reverseRecOn generalizing b with
  | nil =>
    rw [List.append_nil] at done
    rw [entered_closed entered done]
    rfl
  | append_singleton during call ih =>
    have inside : b.state = .closed := stays.last done
    rw [← List.append_assoc] at done
    obtain ⟨earlier, known, moved⟩ := Setup.reached_snoc done
    have counted := ih stays.init known
    have closed : earlier.state = .closed := stays.init.last known
    have sound := Setup.sound known
    rw [streak_snoc]
    cases moved with
    | trips untilTime tripped rest => cases inside
    | fails failed kept =>
      have below : earlier.failures.toNat < earlier.failureThreshold.toNat := by
        rw [sound.failureThreshold]
        exact (sound.closed closed).1
      have next := saturatingAdd_one below
      have notSuccess := Call.isSuccess_of_isFailure failed
      simp only [next, counted, notSuccess, failed, Bool.false_eq_true, if_false, if_true]
    | closes succeeded probing enough =>
      rw [closed] at probing
      cases probing
    | probes succeeded probing few =>
      rw [closed] at probing
      cases probing
    | clears succeeded atWork =>
      rw [if_pos succeeded]
      rfl
    | retries now untilTime asked resting due => cases inside
    | idles noFailure noSuccess notDue =>
      have notSuccess : call.isSuccess = false := by
        by_contra succeeded
        obtain ⟨untilTime, resting⟩ := noSuccess (by simpa using succeeded)
        rw [closed] at resting
        cases resting
      simp only [counted, notSuccess, noFailure, Bool.false_eq_true, if_false, Nat.add_zero]

/-- A probing breaker counts the successes of the phase. -/
theorem successes_eq_count {c : Setup} {before during : List Call} {b : WsCircuitBreaker}
    (entered : c.Enters CircuitState.IsHalfOpen before)
    (stays : c.Stays CircuitState.IsHalfOpen before during)
    (done : c.reached (before ++ during) = some b) :
    b.successes.toNat = during.countP Call.isSuccess := by
  induction during using List.reverseRecOn generalizing b with
  | nil =>
    rw [List.append_nil] at done
    rw [entered_halfOpen entered done]
    rfl
  | append_singleton during call ih =>
    have inside : b.state = .halfOpen := stays.last done
    rw [← List.append_assoc] at done
    obtain ⟨earlier, known, moved⟩ := Setup.reached_snoc done
    have counted := ih stays.init known
    have probing : earlier.state = .halfOpen := stays.init.last known
    rw [List.countP_append, List.countP_singleton]
    cases moved with
    | trips untilTime tripped rest => cases inside
    | fails failed kept =>
      exact absurd (trips_of_halfOpen failed probing) kept
    | closes succeeded probing enough => cases inside
    | probes succeeded probing few =>
      rw [if_pos succeeded]
      simp only [(Setup.sound known).successes_succ probing, counted]
    | clears succeeded atWork =>
      rw [atWork] at probing
      cases probing
    | retries now untilTime asked resting due =>
      rw [resting] at probing
      cases probing
    | idles noFailure noSuccess notDue =>
      have notSuccess : ¬ call.isSuccess = true := by
        intro succeeded
        obtain ⟨untilTime, resting⟩ := noSuccess succeeded
        rw [resting] at probing
        cases probing
      rw [if_neg notSuccess]
      exact counted

/-- Nothing but a `can_proceed` that is due ends the refusal. -/
theorem stays_open {c : Setup} {before during : List Call} {opening : Call} {b : WsCircuitBreaker}
    (entered : c.Enters CircuitState.IsOpen (before ++ [opening]))
    (early : ∀ now, Call.canProceed now ∈ during → now < opening.now + c.timeout)
    (done : c.reached (before ++ [opening] ++ during) = some b) :
    b.state = .opened (opening.now + c.timeout) := by
  induction during using List.reverseRecOn generalizing b with
  | nil =>
    rw [List.append_nil] at done
    exact entered_open entered done
  | append_singleton during call ih =>
    rw [← List.append_assoc] at done
    obtain ⟨earlier, known, moved⟩ := Setup.reached_snoc done
    have resting := ih (fun now asked => early now (by simp [asked])) known
    cases moved with
    | trips untilTime tripped rest => exact absurd tripped (not_trips_of_opened resting)
    | fails failed kept => exact resting
    | closes succeeded probing enough =>
      rw [resting] at probing
      cases probing
    | probes succeeded probing few => exact resting
    | clears succeeded atWork => exact resting
    | retries now untilTime asked restingHere due =>
      obtain rfl := CircuitState.opened.inj (resting.symm.trans restingHere)
      subst asked
      exact absurd due (not_le_of_gt (early now (by simp)))
    | idles noFailure noSuccess notDue => exact resting

theorem canProceed_opened {b : WsCircuitBreaker} {untilTime : Instant}
    (resting : b.state = .opened untilTime) (now : Instant) :
    (now < untilTime → (b.canProceed now).1 = false) ∧
      (untilTime ≤ now →
        (b.canProceed now).1 = true ∧ (b.canProceed now).2.state = .halfOpen) := by
  simp only [WsCircuitBreaker.canProceed, resting]
  constructor
  · intro early
    rw [if_neg (not_le_of_gt early)]
  · intro due
    rw [if_pos due]
    exact ⟨rfl, rfl⟩

/-- A refusal and a positive time until the retry are the same thing. -/
theorem canProceed_eq_false_iff (b : WsCircuitBreaker) (now : Instant) :
    ((b.canProceed now).1 = false ↔ ∃ wait, b.timeUntilRetry now = some wait ∧ 0 < wait) ∧
      ∀ wait, b.timeUntilRetry now = some wait → 0 < wait →
        (b.canProceed (now + wait)).1 = true := by
  cases known : b.state with
  | closed => simp [WsCircuitBreaker.canProceed, WsCircuitBreaker.timeUntilRetry, known]
  | halfOpen => simp [WsCircuitBreaker.canProceed, WsCircuitBreaker.timeUntilRetry, known]
  | opened untilTime =>
    have wait_eq : ∀ wait, b.timeUntilRetry now = some wait ↔
        now ≤ untilTime ∧ untilTime - now = wait := by
      intro wait
      simp [WsCircuitBreaker.timeUntilRetry, known]
    constructor
    · constructor
      · intro refused
        have early : now < untilTime := by
          by_contra due
          have granted := ((canProceed_opened known now).2 (le_of_not_gt due)).1
          rw [granted] at refused
          cases refused
        exact ⟨untilTime - now, (wait_eq _).mpr ⟨le_of_lt early, rfl⟩, Nat.sub_pos_of_lt early⟩
      · rintro ⟨wait, told, positive⟩
        obtain ⟨-, rfl⟩ := (wait_eq wait).mp told
        exact (canProceed_opened known now).1 (Nat.lt_of_sub_pos positive)
    · intro wait told positive
      obtain ⟨early, rfl⟩ := (wait_eq wait).mp told
      have due : untilTime ≤ now + (untilTime - now) := le_of_eq (Nat.add_sub_of_le early).symm
      exact ((canProceed_opened known _).2 due).1

theorem opens_spec {c : Setup} {before during : List Call} {call : Call} {b : WsCircuitBreaker}
    (entered : c.Enters CircuitState.IsClosed before)
    (stays : c.Stays CircuitState.IsClosed before during)
    (done : c.reached (before ++ during ++ [call]) = some b) :
    (b.state ≠ .closed ↔ call.isFailure = true ∧ streak (during ++ [call]) = c.f) ∧
      (b.state ≠ .closed → b.state = .opened (call.now + c.timeout)) := by
  obtain ⟨earlier, known, moved⟩ := Setup.reached_snoc done
  have closed : earlier.state = .closed := stays.last known
  have sound := Setup.sound known
  have counted := failures_eq_streak entered stays known
  have trips : Trips earlier call ↔ call.isFailure = true ∧ streak (during ++ [call]) = c.f := by
    rw [sound.trips_iff closed, counted, streak_snoc]
    constructor
    · rintro ⟨failed, complete⟩
      have notSuccess := Call.isSuccess_of_isFailure failed
      simp [failed, notSuccess, complete]
    · rintro ⟨failed, complete⟩
      have notSuccess := Call.isSuccess_of_isFailure failed
      simp only [failed, notSuccess, Bool.false_eq_true, if_false, if_true] at complete
      exact ⟨failed, complete⟩
  rw [← trips]
  cases moved with
  | trips untilTime tripped rest =>
    refine ⟨⟨fun _ => tripped, fun _ => nofun⟩, fun _ => ?_⟩
    rw [rest, sound.timeout]
  | fails failed kept => exact ⟨⟨fun left => absurd closed left, fun t => absurd t kept⟩,
      fun left => absurd closed left⟩
  | closes succeeded probing enough =>
    rw [closed] at probing
    cases probing
  | probes succeeded probing few =>
    rw [closed] at probing
    cases probing
  | clears succeeded atWork =>
    refine ⟨⟨fun left => absurd closed left, fun tripped => ?_⟩, fun left => absurd closed left⟩
    rw [Call.isSuccess_of_isFailure tripped.isFailure] at succeeded
    cases succeeded
  | retries now untilTime asked resting due =>
    rw [closed] at resting
    cases resting
  | idles noFailure noSuccess notDue =>
    refine ⟨⟨fun left => absurd closed left, fun tripped => ?_⟩, fun left => absurd closed left⟩
    rw [tripped.isFailure] at noFailure
    cases noFailure

theorem probes_spec {c : Setup} {before during : List Call} {call : Call} {b : WsCircuitBreaker}
    (entered : c.Enters CircuitState.IsHalfOpen before)
    (stays : c.Stays CircuitState.IsHalfOpen before during)
    (done : c.reached (before ++ during ++ [call]) = some b) :
    (call.isFailure = true → b.state = .opened (call.now + c.timeout)) ∧
      (call.isSuccess = true → (during ++ [call]).countP Call.isSuccess = c.s →
        b.state = .closed ∧ b.failures = 0) ∧
      (call.isFailure = false →
        ¬ (call.isSuccess = true ∧ (during ++ [call]).countP Call.isSuccess = c.s) →
        b.state = .halfOpen) := by
  obtain ⟨earlier, known, moved⟩ := Setup.reached_snoc done
  have probing : earlier.state = .halfOpen := stays.last known
  have sound := Setup.sound known
  have counted := successes_eq_count entered stays known
  have bound := (sound.halfOpen probing).2
  rw [List.countP_append, List.countP_singleton, ← counted]
  cases moved with
  | trips untilTime tripped rest =>
    have failed := tripped.isFailure
    have notSuccess := Call.isSuccess_of_isFailure failed
    refine ⟨fun _ => ?_, fun succeeded => ?_, fun noFailure => ?_⟩
    · rw [rest, sound.timeout]
    · rw [notSuccess] at succeeded
      cases succeeded
    · rw [failed] at noFailure
      cases noFailure
  | fails failed kept => exact absurd (trips_of_halfOpen failed probing) kept
  | closes succeeded probing enough =>
    rw [UInt32.le_iff_toNat_le, sound.successThreshold, sound.successes_succ probing] at enough
    rw [if_pos succeeded]
    refine ⟨fun failed => ?_, fun _ _ => ⟨rfl, rfl⟩, fun _ incomplete => ?_⟩
    · rw [Call.isSuccess_of_isFailure failed] at succeeded
      cases succeeded
    · exact absurd ⟨succeeded, by omega⟩ incomplete
  | probes succeeded probing few =>
    rw [UInt32.le_iff_toNat_le, sound.successThreshold, sound.successes_succ probing] at few
    rw [if_pos succeeded]
    refine ⟨fun failed => ?_, fun _ complete => ?_, fun _ _ => probing⟩
    · rw [Call.isSuccess_of_isFailure failed] at succeeded
      cases succeeded
    · omega
  | clears succeeded atWork =>
    rw [atWork] at probing
    cases probing
  | retries now untilTime asked resting due =>
    rw [resting] at probing
    cases probing
  | idles noFailure noSuccess notDue =>
    refine ⟨fun failed => ?_, fun succeeded => ?_, fun _ _ => probing⟩
    · rw [failed] at noFailure
      cases noFailure
    · obtain ⟨untilTime, resting⟩ := noSuccess succeeded
      rw [resting] at probing
      cases probing

/-- Along any calls, the breaker meets its specification exactly if each failure
that opens the circuit comes early enough for its retry time to be representable. -/
theorem meetsSpecification_iff (c : Setup) (calls : List Call) :
    MeetsSpecification c calls ↔
      ∀ before call b, before ++ [call] <+: calls → c.reached before = some b →
        Trips b call → call.now + c.timeout ≤ c.horizon := by
  constructor
  · intro meets before call b within known tripped
    obtain ⟨next, done⟩ := meets.returns _ within
    unfold Setup.reached at done known
    rw [run_snoc, known, Option.bind_some] at done
    have fits := after_isSome.mp (Option.isSome_of_eq_some done) tripped
    rw [(Setup.sound known).timeout] at fits
    exact fits
  · intro representable
    have returns : ∀ before, before <+: calls → ∃ b, c.reached before = some b := by
      intro before
      induction before using List.reverseRecOn with
      | nil =>
        intro _
        exact ⟨_, rfl⟩
      | append_singleton before call ih =>
        intro within
        obtain ⟨b, known⟩ := ih ((List.prefix_append _ _).trans within)
        have fits : Trips b call → call.now + b.timeout ≤ c.horizon := by
          rw [(Setup.sound known).timeout]
          exact representable before call b within known
        obtain ⟨next, done⟩ := Option.isSome_iff_exists.mp (after_isSome.mpr fits)
        refine ⟨next, ?_⟩
        unfold Setup.reached at known ⊢
        rw [run_snoc, known]
        exact done
    exact {
      returns := returns
      opens := fun before during call b _ entered stays done => opens_spec entered stays done
      rests := fun before opening during b _ entered early done now =>
        canProceed_opened (stays_open entered early done) now
      probes := fun before during call b _ entered stays done => probes_spec entered stays done
      closed := fun before b _ known => (Setup.sound known).closed
      halfOpen := fun before b _ known => (Setup.sound known).halfOpen
      refuses := fun before b _ _ now => canProceed_eq_false_iff b now }

/-- A breaker that is meant to stay open for good, on a platform that counts
seconds in 64 bits with a sign. -/
def foreverOpen : Setup where
  horizon := (2 ^ 63 - 1) * 1000000000 + 999999999
  failureThreshold := 1
  successThreshold := 1
  timeout := ServerTypes.maxDuration

/-- Its first failure panics in the addition instead of opening the circuit. -/
theorem first_failure_panics :
    foreverOpen.reached [.recordFailure 0] = none ∧
      ¬ MeetsSpecification foreverOpen [.recordFailure 0] := by
  have panics : foreverOpen.reached [.recordFailure 0] = none := by decide
  refine ⟨panics, fun meets => ?_⟩
  obtain ⟨b, done⟩ := meets.returns [.recordFailure 0] List.prefix_rfl
  rw [panics] at done
  cases done

end CircuitBreaker
