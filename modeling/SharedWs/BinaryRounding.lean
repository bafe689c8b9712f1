import Mathlib.Data.Int.Log
import Mathlib.Data.Rat.Floor
import Mathlib.Tactic.FieldSimp
import Mathlib.Tactic.Linarith
import Mathlib.Tactic.Positivity

/-!
# Rounding to a binary format

The numbers of a binary floating-point format with a given precision are the multiples of a power
of two whose exponent grows with the size of the number and does not fall below a least one. A
non-negative rational is rounded to the nearest of them, and to the one with an even multiple when
two are equally near. Rounding is monotone, does not move the numbers of the format, and errs by at
most half of the spacing. The largest finite number of a format is left to its user.
-/
namespace BinaryRounding

/-- The integer nearest to `x`, and the even one of two. -/
def nearestEven (x : ℚ) : ℤ :=
  if x - ⌊x⌋ < 1 / 2 then ⌊x⌋
  else if 1 / 2 < x - ⌊x⌋ then ⌊x⌋ + 1
  else if ⌊x⌋ % 2 = 0 then ⌊x⌋ else ⌊x⌋ + 1

theorem nearestEven_error (x : ℚ) : |(nearestEven x : ℚ) - x| ≤ 1 / 2 := by
  have low := Int.floor_le x
  have high := Int.lt_floor_add_one x
  unfold nearestEven
  rw [abs_le]
  split_ifs <;> push_cast <;> constructor <;> linarith

@[simp] theorem nearestEven_intCast (n : ℤ) : nearestEven (n : ℚ) = n := by
  simp [nearestEven]

/-- An integer nearer than one half is the nearest. -/
theorem nearestEven_eq {x : ℚ} {n : ℤ} (near : |x - n| < 1 / 2) : nearestEven x = n := by
  have error := nearestEven_error x
  have apart : |(nearestEven x : ℚ) - n| < 1 := by
    calc |(nearestEven x : ℚ) - n| ≤ |(nearestEven x : ℚ) - x| + |x - n| := abs_sub_le _ _ _
      _ < 1 := by linarith
  rw [← Int.cast_sub, ← Int.cast_abs] at apart
  have small : |nearestEven x - n| < 1 := by exact_mod_cast apart
  have same := Int.abs_lt_one_iff.mp small
  omega

theorem nearestEven_mono {x y : ℚ} (le : x ≤ y) : nearestEven x ≤ nearestEven y := by
  have floors := Int.floor_mono le
  rcases floors.lt_or_eq with less | same
  · have below : nearestEven x ≤ ⌊x⌋ + 1 := by
      unfold nearestEven
      split_ifs <;> omega
    have above : ⌊y⌋ ≤ nearestEven y := by
      unfold nearestEven
      split_ifs <;> omega
    omega
  · unfold nearestEven
    rw [← same]
    split_ifs <;> first | omega | linarith

theorem nearestEven_le {x : ℚ} {n : ℤ} (le : x ≤ n) : nearestEven x ≤ n := by
  have mono := nearestEven_mono le
  rwa [nearestEven_intCast] at mono

theorem le_nearestEven {x : ℚ} {n : ℤ} (le : (n : ℚ) ≤ x) : n ≤ nearestEven x := by
  have mono := nearestEven_mono le
  rwa [nearestEven_intCast] at mono

/-- A number of the format has at most `precision` binary digits, the last of them at
`minExponent` or above. -/
structure Format where
  precision : ℕ
  minExponent : ℤ
  positive : 0 < precision

namespace Format
variable (f : Format)

/-- The exponent of the last digit of the numbers of the size of `x`. -/
def lastDigit (x : ℚ) : ℤ := max (Int.log 2 x - (f.precision - 1)) f.minExponent

def round (x : ℚ) : ℚ := nearestEven (x / 2 ^ f.lastDigit x) * 2 ^ f.lastDigit x

/-- The non-negative numbers of the format. -/
def Representable (v : ℚ) : Prop :=
  ∃ (digits : ℕ) (exponent : ℤ), f.minExponent ≤ exponent ∧ digits < 2 ^ f.precision ∧
    v = digits * 2 ^ exponent

variable {f} {x y v : ℚ}

theorem spacing_pos (f : Format) (x : ℚ) : (0 : ℚ) < 2 ^ f.lastDigit x :=
  zpow_pos (by norm_num) _

theorem lastDigit_mono (pos : 0 < x) (le : x ≤ y) : f.lastDigit x ≤ f.lastDigit y := by
  have logs := Int.log_mono_right pos le (b := 2)
  unfold lastDigit
  omega

/-- A multiple of the spacing at `x` is not passed by rounding `x`. -/
theorem round_le_multiple {n : ℤ} (le : x ≤ n * 2 ^ f.lastDigit x) :
    f.round x ≤ n * 2 ^ f.lastDigit x := by
  have spacing := spacing_pos f x
  have scaled : x / 2 ^ f.lastDigit x ≤ n := (div_le_iff₀ spacing).mpr le
  have rounded : (nearestEven (x / 2 ^ f.lastDigit x) : ℚ) ≤ n := by
    exact_mod_cast nearestEven_le scaled
  exact mul_le_mul_of_nonneg_right rounded spacing.le

theorem multiple_le_round {n : ℤ} (le : n * 2 ^ f.lastDigit x ≤ x) :
    n * 2 ^ f.lastDigit x ≤ f.round x := by
  have spacing := spacing_pos f x
  have scaled : (n : ℚ) ≤ x / 2 ^ f.lastDigit x := (le_div_iff₀ spacing).mpr le
  have rounded : (n : ℚ) ≤ nearestEven (x / 2 ^ f.lastDigit x) := by
    exact_mod_cast le_nearestEven scaled
  exact mul_le_mul_of_nonneg_right rounded spacing.le

/-- A larger power of two is a multiple of a smaller one. -/
theorem pow_eq_multiple {low high : ℤ} (le : low ≤ high) :
    (2 : ℚ) ^ high = ((2 ^ (high - low).toNat : ℤ) : ℚ) * 2 ^ low := by
  have split : (2 : ℚ) ^ high = 2 ^ (((high - low).toNat : ℤ) + low) := by
    congr 1
    omega
  rw [split, zpow_add₀ (by norm_num : (2 : ℚ) ≠ 0), zpow_natCast]
  push_cast
  rfl

/-- Between two sizes lies a power of two that neither of them passes. -/
theorem round_mono (pos : 0 < x) (le : x ≤ y) : f.round x ≤ f.round y := by
  have larger : 0 < y := pos.trans_le le
  have digits := lastDigit_mono (f := f) pos le
  rcases digits.lt_or_eq with less | same
  · have size : f.lastDigit y = Int.log 2 y - (f.precision - 1) := by
      have least : f.minExponent ≤ f.lastDigit x := le_max_right _ _
      unfold lastDigit at less least ⊢
      omega
    have smaller : Int.log 2 x + 1 ≤ Int.log 2 y := by
      have own : Int.log 2 x - (f.precision - 1) ≤ f.lastDigit x := le_max_left _ _
      omega
    have some_digit := f.positive
    have below : x ≤ 2 ^ Int.log 2 y := by
      calc x ≤ 2 ^ (Int.log 2 x + 1) := (Int.lt_zpow_succ_log_self (by norm_num) x).le
        _ ≤ 2 ^ Int.log 2 y := zpow_le_zpow_right₀ (by norm_num) smaller
    have above : (2 : ℚ) ^ Int.log 2 y ≤ y := Int.zpow_log_le_self (by norm_num) larger
    calc f.round x ≤ 2 ^ Int.log 2 y := by
          rw [pow_eq_multiple (show f.lastDigit x ≤ Int.log 2 y by omega)] at below ⊢
          exact round_le_multiple below
      _ ≤ f.round y := by
          rw [pow_eq_multiple (show f.lastDigit y ≤ Int.log 2 y by omega)] at above ⊢
          exact multiple_le_round above
  · unfold round
    rw [← same]
    have spacing := spacing_pos f x
    have scaled : x / 2 ^ f.lastDigit x ≤ y / 2 ^ f.lastDigit x :=
      div_le_div_of_nonneg_right le spacing.le
    have rounded : (nearestEven (x / 2 ^ f.lastDigit x) : ℚ) ≤
        nearestEven (y / 2 ^ f.lastDigit x) := by
      exact_mod_cast nearestEven_mono scaled
    exact mul_le_mul_of_nonneg_right rounded spacing.le

@[simp] theorem round_zero : f.round 0 = 0 := by
  simp [round, nearestEven]

theorem round_nonneg (nonneg : 0 ≤ x) : 0 ≤ f.round x := by
  have zero : ((0 : ℤ) : ℚ) * 2 ^ f.lastDigit x ≤ x := by simpa using nonneg
  simpa using multiple_le_round zero

/-- The numbers of the format stay. -/
theorem round_representable (representable : f.Representable v) : f.round v = v := by
  obtain ⟨digits, exponent, least, few, rfl⟩ := representable
  rcases Nat.eq_zero_or_pos digits with rfl | some_digit
  · simp
  have pos : (0 : ℚ) < digits * 2 ^ exponent := by
    have counted : (0 : ℚ) < digits := by exact_mod_cast some_digit
    exact mul_pos counted (zpow_pos (by norm_num) _)
  have short : (digits : ℚ) * 2 ^ exponent < 2 ^ ((f.precision : ℤ) + exponent) := by
    rw [zpow_add₀ (by norm_num : (2 : ℚ) ≠ 0), zpow_natCast]
    have counted : (digits : ℚ) < 2 ^ f.precision := by exact_mod_cast few
    exact mul_lt_mul_of_pos_right counted (zpow_pos (by norm_num) _)
  have size := (Int.lt_zpow_iff_log_lt (by norm_num : 1 < 2) pos).mp (by exact_mod_cast short)
  have fine : f.lastDigit (digits * 2 ^ exponent) ≤ exponent := by
    unfold lastDigit
    omega
  -- The number is a multiple of the spacing around it.
  have multiple : (digits : ℚ) * 2 ^ exponent =
      ((digits * 2 ^ (exponent - f.lastDigit (digits * 2 ^ exponent)).toNat : ℤ) : ℚ) *
        2 ^ f.lastDigit (digits * 2 ^ exponent) := by
    have split := pow_eq_multiple fine
    push_cast at split ⊢
    rw [mul_assoc, ← split]
  apply le_antisymm
  · calc f.round (digits * 2 ^ exponent) ≤ _ := round_le_multiple multiple.le
      _ = digits * 2 ^ exponent := multiple.symm
  · calc (digits : ℚ) * 2 ^ exponent = _ := multiple
      _ ≤ f.round (digits * 2 ^ exponent) := multiple_le_round multiple.ge

theorem representable_zero : f.Representable 0 :=
  ⟨0, f.minExponent, le_rfl, by positivity, by simp⟩

theorem representable_pow {exponent : ℤ} (least : f.minExponent ≤ exponent) :
    f.Representable (2 ^ exponent) :=
  ⟨1, exponent, least, Nat.one_lt_two_pow f.positive.ne', by simp⟩

theorem representable_natCast {n : ℕ} (few : n < 2 ^ f.precision) (least : f.minExponent ≤ 0) :
    f.Representable n :=
  ⟨n, 0, least, few, by simp⟩

/-- Rounding gives a number of the format. When it reaches the next power of two, the multiple has
one digit too many and is written with the next exponent. -/
theorem representable_round (nonneg : 0 ≤ x) : f.Representable (f.round x) := by
  rcases nonneg.eq_or_lt with rfl | pos
  · rw [round_zero]
    exact representable_zero
  have spacing := spacing_pos f x
  have least : f.minExponent ≤ f.lastDigit x := le_max_right _ _
  have scaled : 0 ≤ x / 2 ^ f.lastDigit x := div_nonneg nonneg spacing.le
  obtain ⟨digits, counted⟩ : ∃ digits : ℕ, nearestEven (x / 2 ^ f.lastDigit x) = digits := by
    refine Int.eq_ofNat_of_zero_le (le_nearestEven ?_)
    simpa using scaled
  have few : digits ≤ 2 ^ f.precision := by
    have short : x ≤ ((2 ^ f.precision : ℤ) : ℚ) * 2 ^ f.lastDigit x := by
      have own : Int.log 2 x + 1 ≤ f.precision + f.lastDigit x := by
        unfold lastDigit
        omega
      calc x ≤ 2 ^ (Int.log 2 x + 1) := (Int.lt_zpow_succ_log_self (by norm_num) x).le
        _ ≤ 2 ^ ((f.precision : ℤ) + f.lastDigit x) := zpow_le_zpow_right₀ (by norm_num) own
        _ = _ := by
          rw [zpow_add₀ (by norm_num : (2 : ℚ) ≠ 0), zpow_natCast]
          push_cast
          rfl
    have rounded := nearestEven_le ((div_le_iff₀ spacing).mpr short)
    rw [counted] at rounded
    exact_mod_cast rounded
  rcases few.lt_or_eq with fewer | full
  · exact ⟨digits, f.lastDigit x, least, fewer, by rw [round, counted]; rfl⟩
  · have next : f.round x = 2 ^ ((f.precision : ℤ) + f.lastDigit x) := by
      rw [round, counted, full, zpow_add₀ (by norm_num : (2 : ℚ) ≠ 0), zpow_natCast]
      push_cast
      rfl
    rw [next]
    exact representable_pow (by omega)

theorem round_le (nonneg : 0 ≤ x) (le : x ≤ v) (representable : f.Representable v) :
    f.round x ≤ v := by
  rcases nonneg.eq_or_lt with rfl | pos
  · rwa [round_zero]
  · calc f.round x ≤ f.round v := round_mono pos le
      _ = v := round_representable representable

theorem le_round (nonneg : 0 ≤ v) (le : v ≤ x) (representable : f.Representable v) :
    v ≤ f.round x := by
  rcases nonneg.eq_or_lt with rfl | pos
  · exact round_nonneg le
  · calc v = f.round v := (round_representable representable).symm
      _ ≤ f.round x := round_mono pos le

/-- Half of the spacing is the largest error. -/
theorem round_error (x : ℚ) : |f.round x - x| ≤ 2 ^ f.lastDigit x / 2 := by
  have spacing := spacing_pos f x
  have apart : f.round x - x =
      (nearestEven (x / 2 ^ f.lastDigit x) - x / 2 ^ f.lastDigit x) * 2 ^ f.lastDigit x := by
    rw [round]
    field_simp
  rw [apart, abs_mul, abs_of_pos spacing]
  have error := nearestEven_error (x / 2 ^ f.lastDigit x)
  calc _ ≤ 1 / 2 * 2 ^ f.lastDigit x := mul_le_mul_of_nonneg_right error spacing.le
    _ = 2 ^ f.lastDigit x / 2 := by ring

/-- The error of the numbers up to a power of two. -/
theorem round_error_of_le (exponent : ℤ) (nonneg : 0 ≤ x) (le : x ≤ 2 ^ exponent)
    (least : f.minExponent ≤ exponent - f.precision) :
    |f.round x - x| ≤ 2 ^ (exponent - f.precision) / 2 := by
  have room : (0 : ℚ) < 2 ^ (exponent - f.precision) := zpow_pos (by norm_num) _
  rcases nonneg.eq_or_lt with rfl | pos
  · simpa using (half_pos room).le
  rcases le.eq_or_lt with rfl | less
  · rw [round_representable (representable_pow (by omega)), sub_self, abs_zero]
    exact (half_pos room).le
  have size := (Int.lt_zpow_iff_log_lt (by norm_num : 1 < 2) pos).mp (by exact_mod_cast less)
  have fine : f.lastDigit x ≤ exponent - f.precision := by
    unfold lastDigit
    omega
  have spacing : (2 : ℚ) ^ f.lastDigit x ≤ 2 ^ (exponent - f.precision) :=
    zpow_le_zpow_right₀ (by norm_num) fine
  have error := round_error (f := f) x
  linarith

/-- The error of the numbers that have all of their digits. -/
theorem round_error_relative (full : 2 ^ (f.minExponent + f.precision - 1) ≤ x) :
    |f.round x - x| ≤ x / 2 ^ f.precision := by
  have pos : 0 < x := lt_of_lt_of_le (zpow_pos (by norm_num) _) full
  have size := (Int.zpow_le_iff_le_log (by norm_num : 1 < 2) pos).mp (by exact_mod_cast full)
  have digits : f.lastDigit x = Int.log 2 x - f.precision + 1 := by
    unfold lastDigit
    omega
  have below : (2 : ℚ) ^ Int.log 2 x ≤ x := Int.zpow_log_le_self (by norm_num) pos
  have error := round_error (f := f) x
  rw [digits, zpow_add₀ (by norm_num : (2 : ℚ) ≠ 0), zpow_sub₀ (by norm_num : (2 : ℚ) ≠ 0),
    zpow_natCast, zpow_one, mul_div_assoc, div_self (by norm_num), mul_one] at error
  exact error.trans (div_le_div_of_nonneg_right below (by positivity))

end Format

end BinaryRounding
