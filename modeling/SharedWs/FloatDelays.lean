import SharedWs.BackoffDelays
import SharedWs.BinaryRounding

/-!
# Delays in floating point

`ExponentialBackoffReconnect::next_delay` computes the next delay in `f64` seconds and converts it
back with `Duration::from_secs_f64`, which panics on a value that does not fit. The conversions of
the standard library are modelled with the rounding of `BinaryRounding`. Below `2 ^ 23` seconds
they are inverse to each other, so the backoff is capped and climbs as the exact one does; from
there on the spacing of `f64` exceeds a nanosecond.
-/
namespace FloatDelays

open BinaryRounding WsTypes ManagedOps ReconnectStrategies BackoffDelays
open ReconnectStrategies.ExponentialBackoffReconnect

/-- The non-negative numbers of `f64`, up to the largest one. -/
def binary64 : Format := ⟨53, -1074, by decide⟩

/-- The result of an operation of `f64`: infinite when its rounding is too large. -/
def f64 (exact : ℚ) : WithTop ℚ :=
  if binary64.round exact < 2 ^ 1024 then (binary64.round exact : ℚ) else ⊤

def nanosPerSec : ℕ := 1000000000

/-- `as_secs_f64`: the whole seconds and the rest are converted apart and added. -/
def asSecsF64 (d : Duration) : ℚ :=
  binary64.round (binary64.round (d / nanosPerSec : ℕ) +
    binary64.round ((d % nanosPerSec : ℕ) / nanosPerSec))

def nearestNanos (secs : ℚ) : Duration := (nearestEven (secs * nanosPerSec)).toNat

/-- `from_secs_f64`: `none` is the panic on more than the seconds of a `u64`. -/
def fromSecsF64 : WithTop ℚ → Option Duration
  | ⊤ => none
  | (secs : ℚ) => if secs < 2 ^ 64 then some (nearestNanos secs) else none

def nextDelayF64 (s : ExponentialBackoffReconnect) :
    Option (Duration × ExponentialBackoffReconnect) := do
  let next := min (f64 (asSecsF64 s.current * s.factor)) (asSecsF64 s.max)
  let current ← fromSecsF64 next
  pure (s.current, { s with current })

theorem nearestNanos_mono {a b : ℚ} (le : a ≤ b) : nearestNanos a ≤ nearestNanos b := by
  have scaled : a * nanosPerSec ≤ b * nanosPerSec := mul_le_mul_of_nonneg_right le (by positivity)
  exact Int.toNat_le_toNat (nearestEven_mono scaled)

/-- The durations whose seconds have nanosecond precision in `f64`. -/
def Fine (d : Duration) : Prop := d < 2 ^ 23 * nanosPerSec

theorem Fine.of_le {d e : Duration} (fine : Fine e) (le : d ≤ e) : Fine d := lt_of_le_of_lt le fine

theorem asSecsF64_nonneg (d : Duration) : 0 ≤ asSecsF64 d := by
  have whole : 0 ≤ binary64.round (d / nanosPerSec : ℕ) := Format.round_nonneg (by positivity)
  have rest : 0 ≤ binary64.round ((d % nanosPerSec : ℕ) / nanosPerSec) :=
    Format.round_nonneg (by positivity)
  exact Format.round_nonneg (add_nonneg whole rest)

section Parts
variable {d : Duration}

theorem fine_secs (fine : Fine d) : d / nanosPerSec < 2 ^ 23 :=
  Nat.div_lt_of_lt_mul (by rw [Nat.mul_comm]; exact fine)

/-- The whole seconds are exact. -/
theorem round_secs (fine : Fine d) :
    binary64.round (d / nanosPerSec : ℕ) = (d / nanosPerSec : ℕ) :=
  Format.round_representable
    (Format.representable_natCast ((fine_secs fine).trans (by decide)) (by decide))

theorem rest_bounds (d : Duration) : (0 : ℚ) ≤ (d % nanosPerSec : ℕ) / nanosPerSec ∧
    ((d % nanosPerSec : ℕ) / nanosPerSec : ℚ) ≤ 1 := by
  have below : ((d % nanosPerSec : ℕ) : ℚ) ≤ nanosPerSec := by
    exact_mod_cast (Nat.mod_lt d (by decide : 0 < nanosPerSec)).le
  exact ⟨by positivity, div_le_one_of_le₀ below (by positivity)⟩

theorem rest_error (d : Duration) :
    |binary64.round ((d % nanosPerSec : ℕ) / nanosPerSec) - (d % nanosPerSec : ℕ) / nanosPerSec| ≤
      2 ^ (-54 : ℤ) := by
  obtain ⟨nonneg, below⟩ := rest_bounds d
  have error := Format.round_error_of_le (f := binary64) 0 nonneg (by simpa using below)
    (by decide)
  norm_num [binary64] at error ⊢
  exact error

theorem secs_add_rest (d : Duration) :
    ((d / nanosPerSec : ℕ) : ℚ) + (d % nanosPerSec : ℕ) / nanosPerSec = d / nanosPerSec := by
  have parts : ((nanosPerSec * (d / nanosPerSec) + d % nanosPerSec : ℕ) : ℚ) = d := by
    exact_mod_cast Nat.div_add_mod d nanosPerSec
  have some_nanos : (nanosPerSec : ℚ) ≠ 0 := by norm_num [nanosPerSec]
  push_cast at parts
  field_simp
  linarith

theorem round_rest_le_one (d : Duration) :
    binary64.round ((d % nanosPerSec : ℕ) / nanosPerSec) ≤ 1 := by
  obtain ⟨nonneg, below⟩ := rest_bounds d
  have one : binary64.Representable (1 : ℕ) :=
    Format.representable_natCast (by decide) (by decide)
  rw [Nat.cast_one] at one
  exact Format.round_le nonneg below one

/-- The sum before its rounding. -/
theorem sum_bounds (fine : Fine d) :
    0 ≤ binary64.round (d / nanosPerSec : ℕ) +
        binary64.round ((d % nanosPerSec : ℕ) / nanosPerSec) ∧
      binary64.round (d / nanosPerSec : ℕ) +
        binary64.round ((d % nanosPerSec : ℕ) / nanosPerSec) ≤ 2 ^ (23 : ℤ) := by
  have whole : ((d / nanosPerSec : ℕ) : ℚ) + 1 ≤ 2 ^ 23 := by exact_mod_cast fine_secs fine
  have rest := round_rest_le_one d
  have nonneg := Format.round_nonneg (f := binary64) (rest_bounds d).1
  rw [round_secs fine]
  constructor
  · positivity
  · calc _ ≤ ((d / nanosPerSec : ℕ) : ℚ) + 1 := by linarith
      _ ≤ 2 ^ 23 := whole
      _ = 2 ^ (23 : ℤ) := by norm_num

theorem asSecsF64_le (fine : Fine d) : asSecsF64 d ≤ 2 ^ 23 := by
  obtain ⟨nonneg, le⟩ := sum_bounds fine
  have power : binary64.Representable (2 ^ (23 : ℤ)) := Format.representable_pow (by decide)
  have rounded := Format.round_le nonneg le power
  exact_mod_cast rounded

theorem asSecsF64_error (fine : Fine d) :
    |asSecsF64 d - d / nanosPerSec| ≤ 2 ^ (-31 : ℤ) + 2 ^ (-54 : ℤ) := by
  obtain ⟨nonneg, le⟩ := sum_bounds fine
  have sum := Format.round_error_of_le (f := binary64) 23 nonneg le (by decide)
  have rest := rest_error d
  have parts := secs_add_rest d
  change |asSecsF64 d - _| ≤ _ at sum
  rw [round_secs fine] at sum
  norm_num [binary64] at sum rest ⊢
  rw [abs_le] at sum rest ⊢
  constructor
  · linarith
  · linarith

/-- The spacing below `2 ^ 23` seconds is less than a nanosecond. -/
theorem nearestNanos_asSecsF64 (fine : Fine d) : nearestNanos (asSecsF64 d) = d := by
  have error := asSecsF64_error fine
  have near : |asSecsF64 d * nanosPerSec - (d : ℤ)| < 1 / 2 := by
    have some_nanos : (nanosPerSec : ℚ) ≠ 0 := by norm_num [nanosPerSec]
    have scaled : asSecsF64 d * nanosPerSec - (d : ℤ) =
        (asSecsF64 d - d / nanosPerSec) * nanosPerSec := by
      push_cast
      field_simp
    rw [scaled, abs_mul]
    norm_num [nanosPerSec] at error ⊢
    linarith
  rw [nearestNanos, nearestEven_eq near]
  rfl

end Parts

/-- A conversion that can be inverted keeps the order. -/
theorem asSecsF64_mono {d e : Duration} (le : d ≤ e) (fine : Fine e) :
    asSecsF64 d ≤ asSecsF64 e := by
  by_contra less
  have back := nearestNanos_mono (not_le.mp less).le
  rw [nearestNanos_asSecsF64 fine, nearestNanos_asSecsF64 (fine.of_le le)] at back
  obtain rfl := le_antisymm le back
  exact less le_rfl

/-- A capped backoff whose delays have nanosecond precision. -/
structure Precise (s : ExponentialBackoffReconnect) : Prop extends Capped s where
  fine : Fine s.max

theorem precise_reset {s : ExponentialBackoffReconnect} (precise : Precise s) : Precise s.reset :=
  ⟨capped_reset precise.toCapped, precise.fine⟩

/-- The product in `f64`, before the cap. -/
def scaled (s : ExponentialBackoffReconnect) : ℚ := binary64.round (asSecsF64 s.current * s.factor)

/-- The next delay is the cap or the product, whichever is less; an infinite product is capped. -/
theorem nextDelayF64_eq {s : ExponentialBackoffReconnect} (fine : Fine s.max) :
    ∃ secs : ℚ, nextDelayF64 s = some (s.current, { s with current := nearestNanos secs }) ∧
      (secs = asSecsF64 s.max ∨ secs = scaled s ∧ secs ≤ asSecsF64 s.max) := by
  have fits : ∀ secs, secs ≤ asSecsF64 s.max → secs < 2 ^ 64 := by
    intro secs le
    calc secs ≤ 2 ^ 23 := le.trans (asSecsF64_le fine)
      _ < 2 ^ 64 := by norm_num
  by_cases below : scaled s ≤ asSecsF64 s.max
  · have finite : scaled s < 2 ^ 1024 := by
      calc scaled s < 2 ^ 64 := fits _ below
        _ < 2 ^ 1024 := pow_lt_pow_right₀ (by norm_num) (by norm_num)
    have product : f64 (asSecsF64 s.current * s.factor) = scaled s := if_pos finite
    have next : min (f64 (asSecsF64 s.current * s.factor)) (asSecsF64 s.max) =
        (scaled s : WithTop ℚ) := by
      rw [product]
      exact min_eq_left (WithTop.coe_le_coe.mpr below)
    refine ⟨scaled s, ?_, .inr ⟨rfl, below⟩⟩
    rw [nextDelayF64, next]
    simp [fromSecsF64, fits _ below]
  · have next : min (f64 (asSecsF64 s.current * s.factor)) (asSecsF64 s.max) =
        (asSecsF64 s.max : WithTop ℚ) := by
      rw [f64]
      split
      · exact min_eq_right (WithTop.coe_le_coe.mpr (not_le.mp below).le)
      · exact min_eq_right le_top
    refine ⟨asSecsF64 s.max, ?_, .inl rfl⟩
    rw [nextDelayF64, next]
    simp [fromSecsF64, fits _ le_rfl]

/-- Rounding does not bring the product below the current delay. -/
theorem current_le_scaled {s : ExponentialBackoffReconnect} (larger : 1 < s.factor) :
    asSecsF64 s.current ≤ scaled s := by
  have nonneg := asSecsF64_nonneg s.current
  have product : asSecsF64 s.current ≤ asSecsF64 s.current * s.factor :=
    le_mul_of_one_le_right nonneg larger.le
  have whole : 0 ≤ binary64.round (s.current / nanosPerSec : ℕ) :=
    Format.round_nonneg (by positivity)
  have rest : 0 ≤ binary64.round ((s.current % nanosPerSec : ℕ) / nanosPerSec) :=
    Format.round_nonneg (by positivity)
  exact Format.le_round nonneg product (Format.representable_round (add_nonneg whole rest))

theorem nextDelayF64_climbs {s : ExponentialBackoffReconnect} (precise : Precise s) :
    ∃ next, nextDelayF64 s = some (s.current, { s with current := next }) ∧
      s.current ≤ next ∧ next ≤ s.max := by
  obtain ⟨secs, same, cases⟩ := nextDelayF64_eq precise.fine
  have room := asSecsF64_mono precise.current precise.fine
  have between : asSecsF64 s.current ≤ secs ∧ secs ≤ asSecsF64 s.max := by
    rcases cases with rfl | ⟨rfl, below⟩
    · exact ⟨room, le_rfl⟩
    · exact ⟨current_le_scaled precise.factor, below⟩
  refine ⟨nearestNanos secs, same, ?_, ?_⟩
  · have climbs := nearestNanos_mono between.1
    rwa [nearestNanos_asSecsF64 (precise.fine.of_le precise.current)] at climbs
  · have stays := nearestNanos_mono between.2
    rwa [nearestNanos_asSecsF64 precise.fine] at stays

/-- The answers of a sequence of calls as `BackoffDelays.answers` lists them; `none` is a panic. -/
def answersF64 (s : ExponentialBackoffReconnect) :
    List ReconnectCall → Option (List (Option Duration))
  | [] => some []
  | .nextDelay :: calls => do
    let (delay, s) ← nextDelayF64 s
    let rest ← answersF64 s calls
    pure (some delay :: rest)
  | .reset :: calls => do
    let rest ← answersF64 s.reset calls
    pure (none :: rest)
  | .shouldRetry :: calls => answersF64 s calls

/-- The answers climb from the current delay on. -/
structure ClimbsFrom (s : ExponentialBackoffReconnect) (delays : List (Option Duration)) : Prop
    extends Climbs s.max delays where
  start : ∀ between later rest,
    delays = between ++ some later :: rest → none ∉ between → s.current ≤ later

theorem climbsFrom_nil (s : ExponentialBackoffReconnect) : ClimbsFrom s [] :=
  ⟨⟨by simp, by simp⟩, by simp⟩

theorem ClimbsFrom.reset {s : ExponentialBackoffReconnect} {delays : List (Option Duration)}
    (climbs : ClimbsFrom s.reset delays) : ClimbsFrom s (none :: delays) := by
  refine ⟨climbs.toClimbs.cons nofun nofun, ?_⟩
  intro between later rest split unreset
  cases between with
  | nil => cases split
  | cons first between =>
    obtain ⟨rfl, -⟩ := List.cons_eq_cons.mp split
    exact absurd List.mem_cons_self unreset

theorem ClimbsFrom.next {s : ExponentialBackoffReconnect} {next : Duration}
    {delays : List (Option Duration)} (climbs : ClimbsFrom { s with current := next } delays)
    (within : s.current ≤ s.max) (le : s.current ≤ next) :
    ClimbsFrom s (some s.current :: delays) := by
  have above : ∀ between later rest, delays = between ++ some later :: rest → none ∉ between →
      s.current ≤ later := fun between later rest split unreset =>
    le.trans (climbs.start between later rest split unreset)
  refine ⟨climbs.toClimbs.cons ?_ ?_, ?_⟩
  · intro delay same
    obtain rfl := Option.some.inj same
    exact within
  · intro first between later rest same split unreset
    obtain rfl := Option.some.inj same
    exact above between later rest split unreset
  · intro between later rest split unreset
    cases between with
    | nil =>
      obtain ⟨same, -⟩ := List.cons_eq_cons.mp split
      exact (Option.some.inj same).le
    | cons first between =>
      obtain ⟨-, tail⟩ := List.cons_eq_cons.mp split
      exact above between later rest tail fun reset =>
        unreset (List.mem_cons_of_mem first reset)

/-- The induction is on the calls; what carries it is that the backoff stays precise. -/
theorem answersF64_climb {s : ExponentialBackoffReconnect} (precise : Precise s)
    (calls : List ReconnectCall) :
    ∃ delays, answersF64 s calls = some delays ∧ ClimbsFrom s delays := by
  induction calls generalizing s with
  | nil => exact ⟨[], rfl, climbsFrom_nil s⟩
  | cons call calls ih =>
    cases call with
    | shouldRetry => exact ih precise
    | reset =>
      obtain ⟨delays, same, climbs⟩ := ih (precise_reset precise)
      exact ⟨none :: delays, by simp [answersF64, same], climbs.reset⟩
    | nextDelay =>
      obtain ⟨next, step, le, within⟩ := nextDelayF64_climbs precise
      have ahead : Precise { s with current := next } :=
        ⟨⟨precise.base, within, precise.factor⟩, precise.fine⟩
      obtain ⟨delays, same, climbs⟩ := ih ahead
      exact ⟨some s.current :: delays, by simp [answersF64, step, same],
        climbs.next precise.current le⟩

/-- In floating point the backoff does not panic, is capped and climbs, for every sequence of
calls, when its base is within the cap and the cap within `2 ^ 23` seconds. -/
theorem float_backoff_climbs (base max : Duration) (factor : Option ℚ) (le : base ≤ max)
    (fine : max < 2 ^ 23 * nanosPerSec) (calls : List ReconnectCall) :
    ∃ delays, answersF64 (new base max factor) calls = some delays ∧ Climbs max delays := by
  obtain ⟨delays, same, climbs⟩ := answersF64_climb ⟨capped_new factor le, fine⟩ calls
  exact ⟨delays, same, climbs.toClimbs⟩

theorem minute_backoff_climbs :
    ∃ delays, answersF64 (new 1000000000 60000000000 (some 2))
        [.nextDelay, .nextDelay, .reset, .nextDelay] = some delays ∧ Climbs 60000000000 delays :=
  float_backoff_climbs _ _ _ (by decide) (by decide) _

-- the largest duration cannot be converted back: it is rounded to `2 ^ 64` seconds
example : fromSecsF64 (asSecsF64 (2 ^ 64 * nanosPerSec - 1)) = none := by decide +kernel

/-- A coarse bound on the error, for what is not tiny. -/
theorem round_ge {x : ℚ} (sizable : x = 0 ∨ 1 / 2 ^ 40 ≤ x) :
    x * (999 / 1000) ≤ binary64.round x := by
  rcases sizable with rfl | sizable
  · simp
  have full : (2 : ℚ) ^ (binary64.minExponent + binary64.precision - 1) ≤ x := by
    calc (2 : ℚ) ^ (binary64.minExponent + binary64.precision - 1) ≤ 2 ^ (-40 : ℤ) :=
          zpow_le_zpow_right₀ (by norm_num) (by decide)
      _ = 1 / 2 ^ 40 := by norm_num
      _ ≤ x := sizable
  have error := (abs_le.mp (Format.round_error_relative full)).1
  have small : x / 2 ^ binary64.precision ≤ x / 1000 :=
    div_le_div_of_nonneg_left (le_trans (by positivity) sizable) (by norm_num)
      (by norm_num [binary64])
  linarith

theorem rest_ge (d : Duration) : ((d % nanosPerSec : ℕ) / nanosPerSec : ℚ) * (999 / 1000) ≤
    binary64.round ((d % nanosPerSec : ℕ) / nanosPerSec) := by
  apply round_ge
  rcases Nat.eq_zero_or_pos (d % nanosPerSec) with none | some
  · left
    rw [none]
    simp
  · right
    have one : (1 : ℚ) ≤ (d % nanosPerSec : ℕ) := by exact_mod_cast some
    calc (1 / 2 ^ 40 : ℚ) ≤ 1 / nanosPerSec := by norm_num [nanosPerSec]
      _ ≤ _ := div_le_div_of_nonneg_right one (by positivity)

theorem asSecsF64_ge {d : Duration} (fine : Fine d) (some_nanos : 0 < d) :
    (d / nanosPerSec : ℚ) * (999 / 1000) ^ 2 ≤ asSecsF64 d := by
  have parts := secs_add_rest d
  have rest := rest_ge d
  have whole : (0 : ℚ) ≤ (d / nanosPerSec : ℕ) := by positivity
  have sum : (d / nanosPerSec : ℚ) * (999 / 1000) ≤ binary64.round (d / nanosPerSec : ℕ) +
      binary64.round ((d % nanosPerSec : ℕ) / nanosPerSec) := by
    rw [round_secs fine]
    linarith
  have one : (1 / nanosPerSec : ℚ) ≤ d / nanosPerSec := by
    have counted : (1 : ℚ) ≤ d := by exact_mod_cast some_nanos
    exact div_le_div_of_nonneg_right counted (by positivity)
  have rounded := round_ge (.inr (le_trans (by norm_num [nanosPerSec] at one ⊢; linarith) sum))
  change _ ≤ asSecsF64 d at rounded
  calc (d / nanosPerSec : ℚ) * (999 / 1000) ^ 2 =
        d / nanosPerSec * (999 / 1000) * (999 / 1000) := by ring
    _ ≤ asSecsF64 d := (mul_le_mul_of_nonneg_right sum (by norm_num)).trans rounded

/-- A precise backoff that grows by one half at least, from two nanoseconds on. -/
structure Brisk (s : ExponentialBackoffReconnect) : Prop extends Precise s where
  factor_ge : 3 / 2 ≤ s.factor
  base_ge : 2 ≤ s.base
  grown : s.base ≤ s.current

theorem scaled_ge {s : ExponentialBackoffReconnect} (brisk : Brisk s) :
    (s.current : ℚ) * (29 / 20) ≤ scaled s * nanosPerSec := by
  have two : 2 ≤ s.current := brisk.base_ge.trans brisk.grown
  have counted : (2 : ℚ) ≤ s.current := by exact_mod_cast two
  have secs := asSecsF64_ge (brisk.fine.of_le brisk.current) (lt_of_lt_of_le (by decide) two)
  have product : (s.current / nanosPerSec : ℚ) * (999 / 1000) ^ 2 * (3 / 2) ≤
      asSecsF64 s.current * s.factor :=
    mul_le_mul secs brisk.factor_ge (by norm_num) (asSecsF64_nonneg s.current)
  norm_num [nanosPerSec] at product
  have rounded := round_ge (x := asSecsF64 s.current * s.factor) (.inr (by norm_num; linarith))
  change _ ≤ scaled s at rounded
  norm_num [nanosPerSec]
  linarith

theorem sub_half_le_nearestNanos (secs : ℚ) :
    secs * nanosPerSec - 1 / 2 ≤ (nearestNanos secs : ℚ) := by
  have error := (abs_le.mp (nearestEven_error (secs * nanosPerSec))).1
  have counted : (nearestEven (secs * nanosPerSec) : ℚ) ≤ (nearestNanos secs : ℤ) := by
    exact_mod_cast Int.self_le_toNat _
  push_cast at counted
  linarith

/-- One delay is the cap or a fifth longer than the one before. -/
theorem next_grows {s : ExponentialBackoffReconnect} (brisk : Brisk s) :
    ∃ next, nextDelayF64 s = some (s.current, { s with current := next }) ∧
      s.current ≤ next ∧ next ≤ s.max ∧
      min (s.max : ℚ) (6 / 5 * s.current) ≤ next := by
  obtain ⟨secs, same, cases⟩ := nextDelayF64_eq brisk.fine
  obtain ⟨next, step, climbs, within⟩ := nextDelayF64_climbs brisk.toPrecise
  have current : nearestNanos secs = next := by
    rw [same] at step
    simpa using step
  refine ⟨next, step, climbs, within, ?_⟩
  rcases cases with rfl | ⟨rfl, -⟩
  · rw [nearestNanos_asSecsF64 brisk.fine] at current
    rw [← current]
    exact min_le_left _ _
  · have two : (2 : ℚ) ≤ s.current := by exact_mod_cast brisk.base_ge.trans brisk.grown
    have product := scaled_ge brisk
    have rounded := sub_half_le_nearestNanos (scaled s)
    rw [current] at rounded
    exact (min_le_right _ _).trans (by linarith)

/-- What the delays reach after a number of delays without a reset, from the current one and from
the base. -/
structure NearsCap (s : ExponentialBackoffReconnect) (delays : List (Option Duration)) : Prop where
  start : ∀ (row : List (Option Duration)) (later : Duration) rest,
    delays = row ++ some later :: rest → none ∉ row →
      min (s.max : ℚ) ((6 / 5) ^ row.length * s.current) ≤ later
  anywhere : ∀ before (row : List (Option Duration)) (later : Duration) rest,
    delays = before ++ (row ++ some later :: rest) → none ∉ row →
      min (s.max : ℚ) ((6 / 5) ^ row.length * s.base) ≤ later

theorem nearsCap_nil (s : ExponentialBackoffReconnect) : NearsCap s [] :=
  ⟨by simp, by simp⟩

/-- It is enough to look at the rows from the front and at those after the first answer. -/
theorem NearsCap.cons {s s' : ExponentialBackoffReconnect} {answer : Option Duration}
    {delays : List (Option Duration)} (reaches : NearsCap s' delays) (max : s'.max = s.max)
    (base : s'.base = s.base) (grown : s.base ≤ s.current)
    (start : ∀ (row : List (Option Duration)) (later : Duration) rest,
      answer :: delays = row ++ some later :: rest → none ∉ row →
        min (s.max : ℚ) ((6 / 5) ^ row.length * s.current) ≤ later) :
    NearsCap s (answer :: delays) := by
  refine ⟨start, ?_⟩
  intro before row later rest split unreset
  cases before with
  | nil =>
    have counted : (s.base : ℚ) ≤ s.current := by exact_mod_cast grown
    have scaled : (6 / 5 : ℚ) ^ row.length * s.base ≤ (6 / 5) ^ row.length * s.current :=
      mul_le_mul_of_nonneg_left counted (by positivity)
    exact (min_le_min_left _ scaled).trans (start row later rest split unreset)
  | cons first before =>
    obtain ⟨-, tail⟩ := List.cons_eq_cons.mp split
    rw [← max, ← base]
    exact reaches.anywhere before row later rest tail unreset

/-- A fifth more, and the power of one row more. -/
theorem min_step {cap now next later : ℚ} (n : ℕ) (grows : min cap (6 / 5 * now) ≤ next)
    (reached : min cap ((6 / 5) ^ n * next) ≤ later) (nonneg : 0 ≤ next) :
    min cap ((6 / 5) ^ (n + 1) * now) ≤ later := by
  have power : (1 : ℚ) ≤ (6 / 5) ^ n := one_le_pow₀ (by norm_num)
  rcases min_le_iff.mp grows with capped | grown
  · have full : cap ≤ (6 / 5) ^ n * next := capped.trans (le_mul_of_one_le_left nonneg power)
    rw [min_eq_left full] at reached
    exact (min_le_left _ _).trans reached
  · have scaled : (6 / 5 : ℚ) ^ (n + 1) * now ≤ (6 / 5) ^ n * next := by
      calc (6 / 5 : ℚ) ^ (n + 1) * now = (6 / 5) ^ n * (6 / 5 * now) := by ring
        _ ≤ (6 / 5) ^ n * next := mul_le_mul_of_nonneg_left grown (by positivity)
    exact (min_le_min_left _ scaled).trans reached

theorem answersF64_reach {s : ExponentialBackoffReconnect} (brisk : Brisk s)
    (calls : List ReconnectCall) {delays : List (Option Duration)}
    (answered : answersF64 s calls = some delays) : NearsCap s delays := by
  induction calls generalizing s delays with
  | nil =>
    obtain rfl := Option.some.inj answered
    exact nearsCap_nil s
  | cons call calls ih =>
    cases call with
    | shouldRetry => exact ih brisk answered
    | reset =>
      obtain ⟨tail, rest, rfl⟩ : ∃ tail, answersF64 s.reset calls = some tail ∧
          none :: tail = delays := by
        simpa [answersF64, Option.bind_eq_some_iff] using answered
      have back : Brisk s.reset :=
        ⟨precise_reset brisk.toPrecise, brisk.factor_ge, brisk.base_ge, le_rfl⟩
      refine (ih back rest).cons rfl rfl brisk.grown ?_
      intro row later rest split unreset
      cases row with
      | nil => cases split
      | cons first row =>
        obtain ⟨rfl, -⟩ := List.cons_eq_cons.mp split
        exact absurd List.mem_cons_self unreset
    | nextDelay =>
      obtain ⟨next, step, climbs, within, grows⟩ := next_grows brisk
      obtain ⟨tail, rest, rfl⟩ : ∃ tail, answersF64 { s with current := next } calls = some tail ∧
          some s.current :: tail = delays := by
        simpa [answersF64, step, Option.bind_eq_some_iff] using answered
      have ahead : Brisk { s with current := next } :=
        ⟨⟨⟨brisk.base, within, brisk.factor⟩, brisk.fine⟩, brisk.factor_ge, brisk.base_ge,
          brisk.grown.trans climbs⟩
      have reaches := ih ahead rest
      refine reaches.cons rfl rfl brisk.grown ?_
      intro row later rest split unreset
      cases row with
      | nil =>
        obtain ⟨same, -⟩ := List.cons_eq_cons.mp split
        obtain rfl := Option.some.inj same
        simp
      | cons first row =>
        obtain ⟨-, tail⟩ := List.cons_eq_cons.mp split
        have reached := reaches.start row later rest tail fun reset =>
          unreset (List.mem_cons_of_mem first reset)
        exact min_step row.length grows reached (by positivity)

/-- With a factor of one and a half or more and a base of two nanoseconds or more, the delay after
`n` delays without a reset is the cap as soon as `(6 / 5) ^ n` times the base is. -/
theorem float_backoff_reaches_cap (base max : Duration) (factor : ℚ) (le : base ≤ max)
    (fine : max < 2 ^ 23 * nanosPerSec) (two : 2 ≤ base) (half : 3 / 2 ≤ factor)
    (calls : List ReconnectCall) {before row rest : List (Option Duration)} {later : Duration}
    (answered : answersF64 (new base max (some factor)) calls =
      some (before ++ (row ++ some later :: rest)))
    (unreset : none ∉ row) (long : (max : ℚ) ≤ (6 / 5) ^ row.length * base) : later = max := by
  have larger : 1 < factor := lt_of_lt_of_le (by norm_num) half
  have brisk : Brisk (new base max (some factor)) :=
    ⟨⟨capped_new (some factor) le, fine⟩, by simpa [new, larger] using half, two, le_rfl⟩
  have reached := (answersF64_reach brisk calls answered).anywhere before row later rest rfl unreset
  have full : (max : ℚ) ≤ later := (min_eq_left long).symm.le.trans reached
  obtain ⟨delays, same, climbs⟩ := answersF64_climb brisk.toPrecise calls
  rw [answered] at same
  obtain rfl := Option.some.inj same
  have within : later ≤ max := climbs.within later (by simp)
  exact le_antisymm within (by exact_mod_cast full)

theorem two_delays_reach_cap :
    ∃ delay : Duration, answersF64 (new 10 12 (some 2)) [.nextDelay, .nextDelay] =
      some [some 10, some delay] ∧ delay = 12 := by
  have answered : answersF64 (new 10 12 (some 2)) [.nextDelay, .nextDelay] =
      some ([] ++ ([some 10] ++ some 12 :: [])) := by
    decide +kernel
  exact ⟨12, answered, float_backoff_reaches_cap 10 12 2 (by decide) (by decide) (by decide)
    (by norm_num) [.nextDelay, .nextDelay] answered (by decide) (by norm_num)⟩

/-- `jitter_delay` with the factor that was drawn from `0.5..=1.0`: the product is cut to whole
nanoseconds, and to those of a `u64`. -/
def jitterDelay (base : Duration) (jitter : ℚ) : Duration :=
  if base = 0 then base
  else min ⌊binary64.round (binary64.round base * jitter)⌋.toNat (2 ^ 64 - 1)

/-- Jitter shortens a delay to one half at most and never lengthens it, below `2 ^ 53`
nanoseconds. -/
theorem jitter_within (base : Duration) (jitter : ℚ) (half : 1 / 2 ≤ jitter) (one : jitter ≤ 1)
    (short : base < 2 ^ 53) :
    base / 2 ≤ jitterDelay base jitter ∧ jitterDelay base jitter ≤ base := by
  have nonneg : (0 : ℚ) ≤ base := by positivity
  have whole : binary64.Representable (base : ℕ) :=
    Format.representable_natCast short (by decide)
  have halved : binary64.Representable (base * (1 / 2)) :=
    ⟨base, -1, by decide, short, by norm_num [zpow_neg_one]⟩
  unfold jitterDelay
  rw [Format.round_representable whole]
  have below : binary64.round (base * jitter) ≤ base :=
    Format.round_le (mul_nonneg nonneg (by linarith)) (mul_le_of_le_one_right nonneg one) whole
  have above : (base : ℚ) * (1 / 2) ≤ binary64.round (base * jitter) :=
    Format.le_round (by positivity) (mul_le_mul_of_nonneg_left half nonneg) halved
  split
  · rename_i zero
    subst zero
    decide
  constructor
  · apply le_min
    · have floor : ((base / 2 : ℕ) : ℤ) ≤ ⌊binary64.round (base * jitter)⌋ := by
        rw [Int.le_floor, Int.cast_natCast]
        have cut : ((2 * (base / 2) : ℕ) : ℚ) ≤ base := by exact_mod_cast Nat.mul_div_le base 2
        rw [Nat.cast_mul, Nat.cast_ofNat] at cut
        linarith
      exact Int.toNat_le_toNat floor
    · calc base / 2 ≤ base := Nat.div_le_self base 2
        _ ≤ 2 ^ 64 - 1 := le_trans short.le (by decide)
  · have floor : ⌊binary64.round (base * jitter)⌋ ≤ (base : ℤ) := by
      have cut := Int.floor_mono below
      rwa [Int.floor_natCast] at cut
    exact (min_le_left _ _).trans (Int.toNat_le_toNat floor)

theorem second_jittered :
    1000000000 / 2 ≤ jitterDelay 1000000000 (3 / 4) ∧
      jitterDelay 1000000000 (3 / 4) ≤ 1000000000 :=
  jitter_within _ _ (by norm_num) (by norm_num) (by decide)

-- a longer delay is rounded first, and can come out longer
example : jitterDelay (2 ^ 53 + 3) 1 = 2 ^ 53 + 4 := by decide +kernel

end FloatDelays
