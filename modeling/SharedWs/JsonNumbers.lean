import Mathlib.Data.List.TakeWhile
import Mathlib.Tactic.IntervalCases
import SharedWs.JsonText

/-!
# Numbers of JSON kept as they are written

A number format that loses nothing: a number is its lexeme. Machine integers are
written in decimal and read back from lexemes made of digits only.
-/
namespace JsonNumbers

open JsonText

abbrev Lexeme := { l : List Char // isNumber l = true }

def ofLexeme (l : List Char) : Option Lexeme :=
  if valid : isNumber l = true then some ⟨l, valid⟩ else none

theorem readsBack : ReadsBack ofLexeme (fun n : Lexeme => n.val) where
  number n := n.property
  same n := by
    simp [ofLexeme, n.property]

/-- A decimal text of more than one digit does not begin with a zero. -/
theorem toDigits_head {n : Nat} (positive : 0 < n) :
    ∃ c rest, Nat.toDigits 10 n = c :: rest ∧ c ≠ '0' := by
  induction n using Nat.strongRecOn with
  | ind n ih =>
    by_cases small : n < 10
    · refine ⟨n.digitChar, [], Nat.toDigits_of_lt_base small, ?_⟩
      interval_cases n <;> decide
    · obtain ⟨c, rest, digits, nonzero⟩ := ih (n / 10) (by omega) (by omega)
      refine ⟨c, rest ++ [(n % 10).digitChar], ?_, nonzero⟩
      rw [Nat.toDigits_of_base_le (by omega) (by omega), digits, List.cons_append]

theorem isNumber_digits {c : Char} {rest : List Char} (nonzero : c ≠ '0')
    (digits : ∀ d ∈ c :: rest, d.isDigit = true) : isNumber (c :: rest) = true := by
  have first : c.isDigit = true := digits c List.mem_cons_self
  have unsignedHead : c ≠ '-' := by
    rintro rfl
    simp at first
  have all : (c :: rest).takeWhile Char.isDigit = c :: rest := List.takeWhile_eq_self_iff.mpr digits
  have none : (c :: rest).dropWhile Char.isDigit = [] := List.dropWhile_eq_nil_iff.mpr digits
  simp [isNumber, unsigned, fraction, exponent, unsignedHead, nonzero, all, none]

theorem isNumber_toDigits (n : Nat) : isNumber (Nat.toDigits 10 n) = true := by
  by_cases zero : n = 0
  · subst zero
    decide
  · obtain ⟨c, rest, digits, nonzero⟩ := toDigits_head (Nat.pos_of_ne_zero zero)
    have all : ∀ d ∈ c :: rest, d.isDigit = true := by
      intro d member
      exact Nat.isDigit_of_mem_toDigits (by omega) (by omega) (digits ▸ member)
    rw [digits]
    exact isNumber_digits nonzero all

def ofU64 (n : UInt64) : Lexeme := ⟨Nat.toDigits 10 n.toNat, isNumber_toDigits n.toNat⟩

def asU64 (n : Lexeme) : Option UInt64 :=
  if n.val.all Char.isDigit then
    let value := Nat.ofDigitChars 10 n.val 0
    if value < UInt64.size then some (.ofNat value) else none
  else none

theorem asU64_ofU64 (n : UInt64) : asU64 (ofU64 n) = some n := by
  have digits : (Nat.toDigits 10 n.toNat).all Char.isDigit = true := by
    rw [List.all_eq_true]
    intro c member
    exact Nat.isDigit_of_mem_toDigits (by omega) (by omega) member
  have small : n.toNat < UInt64.size := n.toNat_lt_size
  simp [asU64, ofU64, digits, Nat.ofDigitChars_ten_toDigits, small]

end JsonNumbers
