import Mathlib.Algebra.Order.Floor.Ring
import Mathlib.Data.Rat.Floor
import Mathlib.Tactic.Linarith
import SharedWs.ReconnectStrategies

/-!
# The delays of the exponential backoff

`ExponentialBackoffReconnect` hands out its current delay and only caps the next one. When the
first delay is within the cap, every delay is and the delays climb until the next reset. When it
is not, the very first delay exceeds the cap and the second one is shorter.
-/
namespace BackoffDelays

open WsTypes ManagedOps ReconnectStrategies
open ReconnectStrategies.ExponentialBackoffReconnect

theorem fromSecs_mono {a b : Rat} (le : a ≤ b) : fromSecs a ≤ fromSecs b := by
  have scaled : a * 1000000000 ≤ b * 1000000000 := by linarith
  exact Int.toNat_le_toNat (BinaryRounding.nearestEven_mono scaled)

theorem fromSecs_asSecs (d : Duration) : fromSecs (asSecs d) = d := by
  have whole : asSecs d * 1000000000 = ((d : Int) : Rat) := by
    rw [asSecs]
    push_cast
    linarith
  rw [fromSecs, whole, BinaryRounding.nearestEven_intCast]
  rfl

/-- The delays stay within the cap and the factor enlarges. -/
structure Capped (s : ExponentialBackoffReconnect) : Prop where
  base : s.base ≤ s.max
  current : s.current ≤ s.max
  factor : 1 < s.factor

theorem capped_new {base max : Duration} (factor : Option Rat) (le : base ≤ max) :
    Capped (new base max factor) := by
  refine ⟨le, le, ?_⟩
  cases factor with
  | none => norm_num [new]
  | some factor =>
    by_cases large : factor > 1
    · simp [new, large]
    · norm_num [new, large]

theorem capped_reset {s : ExponentialBackoffReconnect} (capped : Capped s) : Capped s.reset :=
  ⟨capped.base, capped.base, capped.factor⟩

/-- The next delay is not shorter and not above the cap. -/
theorem current_le_next {s : ExponentialBackoffReconnect} (capped : Capped s) :
    s.current ≤ s.nextDelay.2.current ∧ s.nextDelay.2.current ≤ s.max := by
  have positive : 0 ≤ asSecs s.current := by
    rw [asSecs]
    positivity
  have room : asSecs s.current ≤ asSecs s.max := by
    have cast : (s.current : Rat) ≤ (s.max : Rat) := by exact_mod_cast capped.current
    rw [asSecs, asSecs]
    linarith
  have larger : asSecs s.current ≤ asSecs s.current * s.factor := by
    nlinarith [capped.factor]
  constructor
  · have climbs := fromSecs_mono (le_min larger room)
    rwa [fromSecs_asSecs] at climbs
  · have stays := fromSecs_mono (min_le_right (asSecs s.current * s.factor) (asSecs s.max))
    rwa [fromSecs_asSecs] at stays

theorem capped_nextDelay {s : ExponentialBackoffReconnect} (capped : Capped s) :
    Capped s.nextDelay.2 :=
  ⟨capped.base, (current_le_next capped).2, capped.factor⟩

/-- The answers of a sequence of calls: each delay, and `none` for each reset. -/
def answers (s : ExponentialBackoffReconnect) : List ReconnectCall → List (Option Duration)
  | [] => []
  | .nextDelay :: calls => some s.nextDelay.1 :: answers s.nextDelay.2 calls
  | .reset :: calls => none :: answers s.reset calls
  | .shouldRetry :: calls => answers s calls

/-- Every delay is within the cap, and a delay is not above a later one when no reset lies between
them. -/
structure Climbs (max : Duration) (delays : List (Option Duration)) : Prop where
  within : ∀ delay, some delay ∈ delays → delay ≤ max
  climbs : ∀ before first between later rest,
    delays = before ++ some first :: (between ++ some later :: rest) → none ∉ between →
      first ≤ later

/-- Until the first reset no delay is below the current one. -/
theorem current_le {s : ExponentialBackoffReconnect} (capped : Capped s)
    {calls : List ReconnectCall} {between rest : List (Option Duration)} {later : Duration}
    (split : answers s calls = between ++ some later :: rest) (unreset : none ∉ between) :
    s.current ≤ later := by
  induction calls generalizing s between with
  | nil => simp [answers] at split
  | cons call calls ih =>
    cases call with
    | shouldRetry => exact ih capped split unreset
    | reset =>
      cases between with
      | nil => simp [answers] at split
      | cons first between =>
        obtain ⟨rfl, -⟩ := List.cons_eq_cons.mp split
        exact absurd List.mem_cons_self unreset
    | nextDelay =>
      cases between with
      | nil =>
        obtain ⟨same, -⟩ := List.cons_eq_cons.mp split
        exact (Option.some.inj same).le
      | cons first between =>
        obtain ⟨-, tail⟩ := List.cons_eq_cons.mp split
        have ahead := ih (capped_nextDelay capped) tail fun reset =>
          unreset (List.mem_cons_of_mem first reset)
        exact (current_le_next capped).1.trans ahead

/-- The answers of one more call in front. -/
theorem Climbs.cons {max : Duration} {delays : List (Option Duration)} (climbs : Climbs max delays)
    {answer : Option Duration} (within : ∀ delay, answer = some delay → delay ≤ max)
    (below : ∀ first between later rest, answer = some first →
      delays = between ++ some later :: rest → none ∉ between → first ≤ later) :
    Climbs max (answer :: delays) := by
  constructor
  · intro delay member
    rcases List.mem_cons.mp member with same | member
    · exact within delay same.symm
    · exact climbs.within delay member
  · intro before first between later rest split unreset
    cases before with
    | nil =>
      obtain ⟨same, tail⟩ := List.cons_eq_cons.mp split
      exact below first between later rest same tail unreset
    | cons earlier before =>
      obtain ⟨-, tail⟩ := List.cons_eq_cons.mp split
      exact climbs.climbs before first between later rest tail unreset

theorem climbs_answers {s : ExponentialBackoffReconnect} (capped : Capped s)
    (calls : List ReconnectCall) : Climbs s.max (answers s calls) := by
  induction calls generalizing s with
  | nil => exact ⟨by simp [answers], by simp [answers]⟩
  | cons call calls ih =>
    cases call with
    | shouldRetry => exact ih capped
    | reset => exact (ih (capped_reset capped)).cons nofun nofun
    | nextDelay =>
      apply (ih (capped_nextDelay capped)).cons
      · intro delay same
        obtain rfl := Option.some.inj same
        exact capped.current
      · intro first between later rest same split unreset
        obtain rfl := Option.some.inj same
        exact (current_le_next capped).1.trans
          (current_le (capped_nextDelay capped) split unreset)

-- The products 1.5 and 4.5 are ties, and both go to the even number of nanoseconds.
example : answers (new 1 3000000000 (some (3 / 2))) (List.replicate 5 .nextDelay) =
    [some 1, some 2, some 3, some 4, some 6] := by decide +kernel

/-- A base above the cap, with a factor of two: the first delay is the base, the second the cap. -/
theorem base_above_cap :
    answers (new 2000000000 1000000000 (some 2)) [.nextDelay, .nextDelay] =
        [some 2000000000, some 1000000000] ∧
      ¬ Climbs 1000000000 (answers (new 2000000000 1000000000 (some 2))
        [.nextDelay, .nextDelay]) := by
  have delays : answers (new 2000000000 1000000000 (some 2)) [.nextDelay, .nextDelay] =
      [some 2000000000, some 1000000000] := by
    decide +kernel
  refine ⟨delays, fun climbs => ?_⟩
  have within := climbs.within 2000000000 (by rw [delays]; exact List.mem_cons_self)
  exact absurd within (by decide)

/-- The backoff is capped and climbs exactly when its base is within the cap, for every
sequence of calls. -/
theorem backoff_climbs_iff (base max : Duration) (factor : Option Rat) :
    (∀ calls, Climbs max (answers (new base max factor) calls)) ↔ base ≤ max := by
  constructor
  · intro climbs
    exact (climbs [.nextDelay]).within base List.mem_cons_self
  · intro le calls
    exact climbs_answers (capped_new factor le) calls

end BackoffDelays
