import SharedWs.FlatOutline
import SharedWs.FloatDelays

/-!
# The schedule of the reconnect attempts

Both loops wait what the strategy says: a wait lasts the delay of the last `next_delay`, and the
strategy is reset once for each connection that comes up, before it is asked again. Under the
exponential backoff the waits of a run are therefore capped, climb while no connection comes up and
reach the cap after so many of them.
-/
namespace ReconnectSchedule

open InteractionPrograms InteractionMonitors InteractionProgress WsFrames WsTypes ManagedOps
open ManagedLoop HookedLoop LoopOutline ManagedBlocks ReconnectCourse ReconnectStrategies
open BackoffDelays FlatOutline FloatDelays
open ReconnectStrategies.ExponentialBackoffReconnect

variable {E : Endpoint}

section Thinning
variable {α : Type} {whole part : List (Option α)}

/-- The second list is the first one without some of its delays; it has every mark `none`. -/
inductive Thins : List (Option α) → List (Option α) → Prop
  | nil : Thins [] []
  | keep {whole part : List (Option α)} (thins : Thins whole part) (entry : Option α) :
      Thins (whole ++ [entry]) (part ++ [entry])
  | drop {whole part : List (Option α)} (thins : Thins whole part) (delay : α) :
      Thins (whole ++ [some delay]) part

theorem Thins.mem (thins : Thins whole part) {entry : Option α} (listed : entry ∈ part) :
    entry ∈ whole := by
  induction thins with
  | nil => exact listed
  | keep thins last ih =>
    rcases List.mem_append.mp listed with listed | listed
    · exact List.mem_append_left _ (ih listed)
    · exact List.mem_append_right _ listed
  | drop thins delay ih => exact List.mem_append_left _ (ih listed)

theorem Thins.length_le (thins : Thins whole part) : part.length ≤ whole.length := by
  induction thins with
  | nil => exact le_rfl
  | keep thins last ih => simpa using ih
  | drop thins delay ih => exact ih.trans (by simp)

theorem Thins.unmarked (thins : Thins whole part) (none_left : none ∉ part) : none ∉ whole := by
  induction thins with
  | nil => exact none_left
  | keep thins last ih =>
    obtain ⟨early, late⟩ := not_or.mp fun either => none_left (List.mem_append.mpr either)
    exact fun listed => (List.mem_append.mp listed).elim (ih early) late
  | drop thins delay ih =>
    intro listed
    rcases List.mem_append.mp listed with listed | listed
    · exact ih none_left listed
    · simp at listed

theorem Thins.split (thins : Thins whole part) {front back : List (Option α)}
    (cut : part = front ++ back) :
    ∃ wholeFront wholeBack, whole = wholeFront ++ wholeBack ∧ Thins wholeFront front ∧
      Thins wholeBack back := by
  induction thins generalizing back with
  | nil =>
    obtain ⟨rfl, rfl⟩ := List.append_eq_nil_iff.mp cut.symm
    exact ⟨[], [], rfl, .nil, .nil⟩
  | @keep whole part thins last ih =>
    rcases List.eq_nil_or_concat back with rfl | ⟨back, final, rfl⟩
    · rw [List.append_nil] at cut
      exact ⟨whole ++ [last], [], by simp, cut ▸ thins.keep last, .nil⟩
    · rw [List.concat_eq_append, ← List.append_assoc] at cut
      obtain ⟨rest, same⟩ := List.append_inj' cut rfl
      obtain rfl := List.singleton_inj.mp same
      obtain ⟨wholeFront, wholeBack, rfl, left, right⟩ := ih rest
      refine ⟨wholeFront, wholeBack ++ [last], by simp, left, ?_⟩
      rw [List.concat_eq_append]
      exact right.keep last
  | drop thins delay ih =>
    obtain ⟨wholeFront, wholeBack, rfl, left, right⟩ := ih cut
    exact ⟨wholeFront, wholeBack ++ [some delay], by simp, left, right.drop delay⟩

/-- A delay that was kept, with those left out around it. -/
theorem Thins.around {delay : α} {rest : List (Option α)}
    (thins : Thins whole (some delay :: rest)) :
    ∃ early late, whole = early ++ some delay :: late ∧ none ∉ early ∧
      ∃ between tail, late = between ++ tail ∧ none ∉ between ∧ Thins tail rest := by
  obtain ⟨head, tail, rfl, first, others⟩ :=
    thins.split (show some delay :: rest = [some delay] ++ rest from rfl)
  obtain ⟨early, between, rfl⟩ := List.append_of_mem (first.mem List.mem_cons_self)
  have unmarked := first.unmarked (by simp)
  refine ⟨early, between ++ tail, by simp, ?_, between, tail, rfl, ?_, others⟩
  · exact fun listed => unmarked (List.mem_append_left _ listed)
  · exact fun listed => unmarked (List.mem_append_right _ (List.mem_cons_of_mem _ listed))

end Thinning

section Transfer
variable {whole part : List (Option Duration)}

theorem Thins.climbs {max : Duration} (thins : Thins whole part) (climbs : Climbs max whole) :
    Climbs max part := by
  refine ⟨fun delay listed => climbs.within delay (thins.mem listed), ?_⟩
  intro before first between later rest cut unreset
  obtain ⟨front, back, rfl, -, right⟩ := thins.split cut
  obtain ⟨early, _, rfl, -, gap, tail, rfl, gapUnmarked, others⟩ := right.around
  obtain ⟨mid, last, rfl, middle, final⟩ := others.split rfl
  obtain ⟨lead, late, rfl, leadUnmarked, -⟩ := final.around
  have midUnmarked := middle.unmarked unreset
  refine climbs.climbs (front ++ early) first (gap ++ mid ++ lead) later late (by simp) ?_
  simp [gapUnmarked, midUnmarked, leadUnmarked]

/-- Fewer delays lie between, so the bound of the whole list is the better one. -/
theorem Thins.nearsCap {s : ExponentialBackoffReconnect} (thins : Thins whole part)
    (nears : NearsCap s whole) {before row rest : List (Option Duration)} {later : Duration}
    (cut : part = before ++ (row ++ some later :: rest)) (unreset : none ∉ row) :
    min (s.max : ℚ) ((6 / 5) ^ row.length * s.base) ≤ later := by
  obtain ⟨front, back, rfl, -, right⟩ := thins.split cut
  obtain ⟨mid, last, rfl, middle, final⟩ := right.split rfl
  obtain ⟨lead, late, rfl, leadUnmarked, -⟩ := final.around
  have midUnmarked := middle.unmarked unreset
  have reached := nears.anywhere front (mid ++ lead) later late (by simp)
    (by simp [midUnmarked, leadUnmarked])
  have longer : row.length ≤ (mid ++ lead).length := by
    rw [List.length_append]
    exact middle.length_le.trans (Nat.le_add_right _ _)
  have power : (6 / 5 : ℚ) ^ row.length * s.base ≤ (6 / 5) ^ (mid ++ lead).length * s.base :=
    mul_le_mul_of_nonneg_right (pow_le_pow_right₀ (by norm_num) longer) (by positivity)
  exact (min_le_min_left _ power).trans reached

end Transfer

/-- A connection has come up and the strategy is not reset yet. -/
def dueAfter (due : Bool) : ManagedEvent E → Bool
  | ⟨(_, .connect _ _), ⟨_, .ok _⟩⟩ => true
  | ⟨(_, .reconnect .reset), _⟩ => false
  | _ => due

/-- The reset comes before the next use of the strategy and before the next attempt. -/
def InTurn (due : Bool) : Op E → Prop
  | .connect _ _ | .waitSelect _ | .reconnect .nextDelay => due = false
  | .reconnect .reset => due = true
  | _ => True

def resets : ManagedMonitor E Bool where
  step := dueAfter
  rely := fun _ _ => True
  safe := fun due e => InTurn due e.op.2

def Clear (due : Bool) : Prop := due = false

theorem keeps_clear : Keeps (resets : ManagedMonitor E Bool) Onward fun _ => Clear := by
  rintro l _ op time val onward rfl -
  cases op with
  | connect => exact onward.elim
  | reconnect call =>
    cases call with
    | reset => exact onward.elim
    | shouldRetry => exact ⟨trivial, rfl⟩
    | nextDelay => exact ⟨rfl, rfl⟩
  | waitSelect => exact ⟨rfl, rfl⟩
  | _ => exact ⟨trivial, rfl⟩

section Blocks
variable {l : Locals E} {m : Bool}

theorem clear_ask (op : Op E) (onward : Onward op) (clear : Clear m) :
    resets.ensures (fun _ _ => Clear) (ask op) l m :=
  keeps_clear.ensures (quiet_ask onward) clear

theorem greeting_resets (up : m = true) : resets.ensures (fun _ _ => Clear) greeting l m := by
  refine ensures_ask_then resets (.reconnect .reset) fun _ _ _ => ⟨up, ?_⟩
  refine resets.ensures_seq (clear_ask (.storeStatus _) trivial rfl) fun _ l m clear => ?_
  refine resets.ensures_seq (clear_ask (.handler .resetState) trivial clear) fun _ l m clear => ?_
  refine resets.ensures_seq (clear_ask (.handler .onOpen) trivial clear) fun _ l m clear => ?_
  rw [Monitor.ensures_bind, Monitor.ensures_get]
  refine resets.ensures_seq (clear_ask (.handler (.onConnectionOpened l.isReconnect)) trivial clear)
    fun message l m clear => ?_
  cases message with
  | none => exact clear
  | some message =>
    exact resets.ensures_seq (clear_ask (.handler (.handleMessage message)) trivial clear)
      fun _ _ _ clear => clear

end Blocks

theorem resets_flat (url : String) :
    Flat (resets : ManagedMonitor E Bool) url Clear (fun due => due = true) Clear where
  prepare := keeps_clear.mono onward_of_preparing
  attempt := by
    intro l m time result clear _
    refine ⟨clear, ?_⟩
    cases result with
    | ok _ => rfl
    | error error => exact clear
  report := by
    rintro l _ op time val health rfl -
    cases op with
    | monitor | ping | startPingSleep | resetPingSleep => exact ⟨trivial, rfl⟩
    | _ => exact health.elim
  greet := fun _ _ => greeting_resets
  onward := keeps_clear
  again := fun _ => id

def strategyCall : ManagedEvent E → Option ReconnectCall
  | ⟨(_, .reconnect call), _⟩ => some call
  | _ => none

/-- What the strategy answers, as `answersF64` lists it. -/
def strategyAnswer : ManagedEvent E → Option (Option Duration)
  | ⟨(_, .reconnect .nextDelay), ⟨_, delay⟩⟩ => some (some delay)
  | ⟨(_, .reconnect .reset), _⟩ => some none
  | _ => none

/-- A wait before the next attempt, or the mark of a connection that came up. -/
def scheduled : ManagedEvent E → Option (Option Duration)
  | ⟨(_, .waitSelect delay), _⟩ => some (some delay)
  | ⟨(_, .connect _ _), ⟨_, .ok _⟩⟩ => some none
  | _ => none

def strategyCalls (t : List (ManagedEvent E)) : List ReconnectCall := t.filterMap strategyCall

def strategyAnswers (t : List (ManagedEvent E)) : List (Option Duration) :=
  t.filterMap strategyAnswer

def schedule (t : List (ManagedEvent E)) : List (Option Duration) := t.filterMap scheduled

/-- The mark of a connection that the strategy does not know of yet. -/
def owed (due : Bool) : List (Option Duration) := if due then [none] else []

/-- The schedule thins the answers. While a positive delay is agreed on, it is the last answer and
not in the schedule yet. -/
structure Follows (m : Course E) (due : Bool) (answers waits : List (Option Duration)) : Prop where
  thins : Thins (answers ++ owed due) waits
  pending : ∀ delay, Agreed delay m → delay ≠ 0 →
    ∃ earlier, answers = earlier ++ [some delay] ∧ Thins earlier waits

section Steps
variable {m : Course E} {due : Bool} {answers waits : List (Option Duration)} {delay : Duration}

/-- Only `next_delay` brings a positive delay. -/
theorem agreed_before {e : ManagedEvent E} (permitted : Permitted m e.op.2)
    (other : e.op.2 ≠ .reconnect .nextDelay) (agreed : Agreed delay (m.after e))
    (positive : delay ≠ 0) : Agreed delay m := by
  have moves := moves_of_permitted permitted
  generalize m.after e = m' at moves agreed
  cases moves with
  | connect => simp [Agreed] at agreed
  | judge l code message data time action =>
    cases action <;> simp [Agreed, judged] at agreed
  | classify leaving l cause time action =>
    cases action with
    | immediateReconnect => exact absurd (by simpa [Agreed, classified] using agreed) positive.symm
    | abort => simp [Agreed, classified] at agreed
    | backoffReconnect => simp [Agreed, classified] at agreed
  | ask l time retry => cases retry <;> simp [Agreed] at agreed
  | delay l time d => exact absurd rfl other
  | tell d l cause time message =>
    have same : d = some delay := by simpa [Agreed] using agreed
    exact Or.inl (congrArg Course.settled same)
  | wait => simp [Agreed] at agreed
  | idle => exact agreed

/-- A call that neither list records. -/
theorem Follows.unseen (follows : Follows m due answers waits) {e : ManagedEvent E}
    (permitted : Permitted m e.op.2) (other : e.op.2 ≠ .reconnect .nextDelay) :
    Follows (m.after e) due answers waits :=
  ⟨follows.thins, fun delay agreed positive =>
    follows.pending delay (agreed_before permitted other agreed positive) positive⟩

theorem not_agreed_attempted : ¬ Agreed delay (.attempted : Course E) := by simp [Agreed]

theorem Follows.step (follows : Follows m due answers waits) {e : ManagedEvent E}
    (permitted : Permitted m e.op.2) (turn : InTurn due e.op.2) :
    Follows (m.after e) (dueAfter due e) (answers ++ (strategyAnswer e).toList)
      (waits ++ (scheduled e).toList) := by
  obtain ⟨⟨l, op⟩, time, val⟩ := e
  cases op with
  | connect url buffers =>
    obtain rfl : due = false := turn
    refine ⟨?_, fun _ agreed => absurd agreed not_agreed_attempted⟩
    have thins := follows.thins
    cases val with
    | error error => simpa [strategyAnswer, scheduled, dueAfter] using thins
    | ok _ => simpa [strategyAnswer, scheduled, dueAfter, owed] using thins.keep none
  | waitSelect d =>
    obtain rfl : due = false := turn
    obtain ⟨rfl, positive⟩ := permitted.fits
    obtain ⟨earlier, rfl, thins⟩ := follows.pending d (Or.inr rfl) positive
    refine ⟨?_, fun _ agreed => ?_⟩
    · simpa [strategyAnswer, scheduled, dueAfter, owed] using thins.keep (some d)
    · simp [Agreed, Course.after] at agreed
  | reconnect call =>
    cases call with
    | shouldRetry =>
      have kept := follows.unseen (e := ⟨(l, .reconnect .shouldRetry), ⟨time, val⟩⟩) permitted
        (by rintro ⟨⟩)
      simpa [strategyAnswer, scheduled, dueAfter] using kept
    | nextDelay =>
      obtain rfl : due = false := turn
      refine ⟨?_, fun delay agreed _ => ?_⟩
      · simpa [strategyAnswer, scheduled, dueAfter, owed] using follows.thins.drop val
      · have same : val = delay := by simpa [Agreed, Course.after] using agreed
        subst same
        refine ⟨answers, rfl, ?_⟩
        simpa [scheduled, owed] using follows.thins
    | reset =>
      obtain rfl : due = true := turn
      obtain rfl : m = .attempted := permitted.fits
      refine ⟨?_, fun _ agreed => absurd agreed not_agreed_attempted⟩
      simpa [strategyAnswer, scheduled, dueAfter, owed] using follows.thins
  | _ =>
    have kept := follows.unseen (e := ⟨(l, _), ⟨time, val⟩⟩) permitted (by rintro ⟨⟩)
    simpa [strategyAnswer, scheduled, dueAfter] using kept

end Steps

section Runs
variable {url : String} {kind : LoopKind} {t : List (ManagedEvent E)} {q : Task E}

/-- The induction is on the calls of the run; the two monitors say what each of them may be. -/
theorem follows_run (course_safe : course.Along course.safe .fresh t)
    (resets_safe : resets.Along resets.safe false t) :
    Follows (courseOf t) (resets.run false t) (strategyAnswers t) (schedule t) := by
  induction t using List.reverseRecOn with
  | nil => exact ⟨.nil, fun _ agreed => by simp [Agreed, courseOf] at agreed⟩
  | append_singleton t e ih =>
    obtain ⟨early, permitted, -⟩ := course.along_append.mp course_safe
    obtain ⟨earlier, turn, -⟩ := resets.along_append.mp resets_safe
    have step := (ih early earlier).step permitted turn
    rw [courseOf_snoc, strategyAnswers, schedule, resets.run_append, filterMap_snoc,
      filterMap_snoc]
    exact step

theorem schedule_thins (run : Run (managedLoop url kind) t q) :
    ∃ due, Thins (strategyAnswers t ++ owed due) (schedule t) := by
  have relied : resets.Along resets.rely false t := resets.along_iff.mpr fun _ _ _ _ => trivial
  have turns := (resets_flat url).safe_run run rfl relied
  rw [managedLoop_eq] at run
  exact ⟨_, (follows_run (course_run run).1 turns).thins⟩

/-- One more reset at the end. -/
theorem answersF64_reset {s : ExponentialBackoffReconnect} {calls : List ReconnectCall}
    {delays : List (Option Duration)} (answered : answersF64 s calls = some delays) :
    answersF64 s (calls ++ [.reset]) = some (delays ++ [none]) := by
  induction calls generalizing s delays with
  | nil =>
    obtain rfl := Option.some.inj answered
    rfl
  | cons call calls ih =>
    cases call with
    | shouldRetry => exact ih answered
    | reset =>
      obtain ⟨tail, rest, rfl⟩ : ∃ tail, answersF64 s.reset calls = some tail ∧
          none :: tail = delays := by
        simpa [answersF64, Option.bind_eq_some_iff] using answered
      simp [answersF64, ih rest]
    | nextDelay =>
      obtain ⟨delay, next, step, tail, rest, rfl⟩ : ∃ delay next,
          nextDelayF64 s = some (delay, next) ∧ ∃ tail, answersF64 next calls = some tail ∧
            some delay :: tail = delays := by
        simpa [answersF64, Option.bind_eq_some_iff] using answered
      simp [answersF64, step, ih rest]

/-- The answers with the reset that is still due are those of a sequence of calls. -/
theorem answered_owed {s : ExponentialBackoffReconnect}
    (guided : answersF64 s (strategyCalls t) = some (strategyAnswers t)) (due : Bool) :
    ∃ calls, answersF64 s calls = some (strategyAnswers t ++ owed due) := by
  cases due with
  | false => exact ⟨_, by simpa [owed] using guided⟩
  | true => exact ⟨_, answersF64_reset guided⟩

end Runs

/-- The waits are within the cap and climb while no connection comes up, and once `n` of them have
passed with `(6 / 5) ^ n` times the base at the cap, the next one is the cap. -/
structure Paced (base max : Duration) (factor : ℚ) (waits : List (Option Duration)) : Prop
    extends Climbs max waits where
  capped : 2 ≤ base → 3 / 2 ≤ factor → ∀ before row later rest,
    waits = before ++ (row ++ some later :: rest) → none ∉ row →
      (max : ℚ) ≤ (6 / 5) ^ row.length * base → later = max

/-- The reconnect attempts of every run follow the backoff: with the answers of the exponential
backoff, computed in `f64`, the waits of either loop are paced between any two connections. -/
theorem reconnects_paced (url : String) (kind : LoopKind) {t : List (ManagedEvent E)} {q : Task E}
    (run : Run (managedLoop url kind) t q) (base max : Duration) (factor : Option ℚ)
    (le : base ≤ max) (fine : max < 2 ^ 23 * nanosPerSec)
    (guided : answersF64 (new base max factor) (strategyCalls t) = some (strategyAnswers t)) :
    Paced base max (new base max factor).factor (schedule t) := by
  obtain ⟨due, thins⟩ := schedule_thins run
  obtain ⟨calls, answered⟩ := answered_owed guided due
  have precise : Precise (new base max factor) := ⟨capped_new factor le, fine⟩
  obtain ⟨delays, same, climbs⟩ := answersF64_climb precise calls
  rw [answered] at same
  obtain rfl := Option.some.inj same
  have waits := thins.climbs climbs.toClimbs
  refine ⟨waits, ?_⟩
  intro two half before row later rest cut unreset long
  have brisk : Brisk (new base max factor) := ⟨precise, half, two, le_rfl⟩
  have reached := thins.nearsCap (answersF64_reach brisk calls answered) cut unreset
  have full : (max : ℚ) ≤ later := (min_eq_left long).symm.le.trans reached
  have within : later ≤ max := waits.within later (by simp [cut])
  exact le_antisymm within (by exact_mod_cast full)

/-- Every `connect` is refused; the delays are those from ten nanoseconds to twelve. -/
def refusedTwice : Nat → (op : Op bareEndpoint) → op.Ans
  | 5, .reconnect .nextDelay => (10 : Nat)
  | _, .reconnect .nextDelay => (12 : Nat)
  | _, .connect _ _ => .error (.timeout "connect")
  | _, op => bareAnswer op

theorem refused_paced :
    Paced 10 12 2 (schedule (trial (managedLoop "ws://peer" .plain) refusedTwice 18).1) ∧
      schedule (trial (managedLoop "ws://peer" .plain) refusedTwice 18).1 =
        [some 10, some 12] := by
  refine ⟨?_, rfl⟩
  exact reconnects_paced "ws://peer" .plain (trial_run _ refusedTwice 18) 10 12 (some 2) (by decide)
    (by decide) (by decide +kernel)

end ReconnectSchedule
