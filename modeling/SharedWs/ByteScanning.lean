import Mathlib.Data.List.TakeWhile

/-!
# Scanning bytes by index

Loops over a byte slice that read it by index, as an imperative scanner does. A read beyond the
slice is a fault, and so is a loop that does not end within the turns it is given. A position is
tied to the bytes from it on, `data.drop i`; a skipping loop leaves what `dropWhile` leaves.
-/
namespace ByteScanning

inductive Fault where
  | outOfRange
  | outOfTurns
  deriving DecidableEq

/-- `data[i]`. -/
def byteAt (data : List UInt8) (i : Nat) : Except Fault UInt8 :=
  match data[i]? with
  | some byte => .ok byte
  | none => .error .outOfRange

/-- `&data[start..stop]`. -/
def sliceOf (data : List UInt8) (start stop : Nat) : Except Fault (List UInt8) :=
  if start ≤ stop ∧ stop ≤ data.length then .ok ((data.drop start).take (stop - start))
  else .error .outOfRange

/-- `while i < data.len() && pred(data[i]) { i += 1 }`. -/
def skipWhile (data : List UInt8) (pred : UInt8 → Bool) : Nat → Nat → Except Fault Nat
  | 0, _ => .error .outOfTurns
  | turns + 1, i =>
    if i < data.length then do
      let byte ← byteAt data i
      if pred byte then skipWhile data pred turns (i + 1) else return i
    else return i

theorem byteAt_of_drop {data rest : List UInt8} {i : Nat} {byte : UInt8}
    (here : data.drop i = byte :: rest) : byteAt data i = .ok byte := by
  have read : data[i]? = some byte := by
    rw [← List.head?_drop, here, List.head?_cons]
  rw [byteAt, read]

theorem lt_of_drop {data rest : List UInt8} {i : Nat} {byte : UInt8}
    (here : data.drop i = byte :: rest) : i < data.length := by
  have size := congrArg List.length here
  simp only [List.length_drop, List.length_cons] at size
  omega

theorem drop_succ_of_drop {data rest : List UInt8} {i : Nat} {byte : UInt8}
    (here : data.drop i = byte :: rest) : data.drop (i + 1) = rest := by
  rw [← List.drop_drop, here, List.drop_one, List.tail_cons]

/-- What a skipping loop from `i` has done when it ends at `stop`: it went over `run`, all of which
satisfies the test, and the byte at `stop`, if there is one, does not. -/
structure Skipped (data : List UInt8) (pred : UInt8 → Bool) (i stop : Nat) (run : List UInt8) :
    Prop where
  forward : i ≤ stop
  inside : stop ≤ data.length
  split : data.drop i = run ++ data.drop stop
  all : run.all pred = true
  stops : ∀ byte, (data.drop stop).head? = some byte → pred byte = false

theorem Skipped.length {data run : List UInt8} {pred : UInt8 → Bool} {i stop : Nat}
    (skipped : Skipped data pred i stop run) : run.length = stop - i := by
  have forward := skipped.forward
  have inside := skipped.inside
  have size := congrArg List.length skipped.split
  rw [List.length_append, List.length_drop, List.length_drop] at size
  omega

/-- The bytes the loop went over are a slice. -/
theorem Skipped.slice {data run : List UInt8} {pred : UInt8 → Bool} {i stop : Nat}
    (skipped : Skipped data pred i stop run) : sliceOf data i stop = .ok run := by
  rw [sliceOf, if_pos ⟨skipped.forward, skipped.inside⟩, skipped.split, ← skipped.length,
    List.take_left]

theorem Skipped.here {data : List UInt8} {pred : UInt8 → Bool} {i : Nat} (inside : i ≤ data.length)
    (stops : ∀ byte, (data.drop i).head? = some byte → pred byte = false) :
    Skipped data pred i i [] where
  forward := Nat.le_refl i
  inside := inside
  split := rfl
  all := rfl
  stops := stops

/-- The loop may begin one byte earlier when that byte satisfies the test. -/
theorem Skipped.cons {data run rest : List UInt8} {pred : UInt8 → Bool} {i stop : Nat}
    {byte : UInt8} (here : data.drop i = byte :: rest) (passes : pred byte = true)
    (skipped : Skipped data pred (i + 1) stop run) : Skipped data pred i stop (byte :: run) where
  forward := Nat.le_of_succ_le skipped.forward
  inside := skipped.inside
  split := by
    rw [here, List.cons_append, ← skipped.split, drop_succ_of_drop here]
  all := by
    rw [List.all_cons, passes, skipped.all]
    rfl
  stops := skipped.stops

/-- With enough turns the loop ends. -/
theorem skipWhile_spec {data : List UInt8} (pred : UInt8 → Bool) (turns : Nat) {i : Nat}
    (inside : i ≤ data.length) (enough : data.length - i < turns) :
    ∃ stop run, skipWhile data pred turns i = .ok stop ∧ Skipped data pred i stop run := by
  induction turns generalizing i with
  | zero => omega
  | succ turns ih =>
    rw [skipWhile]
    cases here : data.drop i with
    | nil =>
      have past : data.length ≤ i := List.drop_eq_nil_iff.mp here
      rw [if_neg (by omega)]
      exact ⟨i, [], rfl, .here inside (by simp [here])⟩
    | cons byte rest =>
      have within := lt_of_drop here
      rw [if_pos within, byteAt_of_drop here]
      change ∃ stop run, (if pred byte then skipWhile data pred turns (i + 1) else .ok i) = _ ∧ _
      by_cases passes : pred byte = true
      · rw [if_pos passes]
        obtain ⟨stop, run, ended, skipped⟩ := ih within (by omega)
        exact ⟨stop, byte :: run, ended, skipped.cons here passes⟩
      · rw [if_neg passes]
        refine ⟨i, [], rfl, .here inside ?_⟩
        intro first head
        obtain rfl : byte = first := by simpa [here] using head
        exact Bool.eq_false_iff.mpr passes

/-- `haystack.windows(size)`. -/
def windows (size : Nat) (haystack : List UInt8) : List (List UInt8) :=
  (List.range (haystack.length + 1 - size)).map fun start => (haystack.drop start).take size

/-- Every occurrence is a window. -/
theorem mem_windows_iff {needle haystack : List UInt8} :
    needle ∈ windows needle.length haystack ↔ needle <:+: haystack := by
  constructor
  · intro member
    obtain ⟨start, -, same⟩ := List.mem_map.mp member
    have first : needle <+: haystack.drop start := same ▸ List.take_prefix _ _
    exact first.isInfix.trans (List.drop_suffix _ _).isInfix
  · rintro ⟨before, after, rfl⟩
    refine List.mem_map.mpr ⟨before.length, ?_, ?_⟩
    · simp only [List.mem_range, List.length_append]
      omega
    · simp [List.append_assoc]

def isAsciiDigit (byte : UInt8) : Bool :=
  decide (48 ≤ byte ∧ byte ≤ 57)

def digitValue (byte : UInt8) : Nat :=
  byte.toNat - 48

/-- The number that a text of digits denotes. -/
def decimalValue (digits : List UInt8) : Nat :=
  digits.foldl (fun value digit => 10 * value + digitValue digit) 0

/-- The loop of `u64::from_str`: each digit is added with a check for overflow. -/
def addDigits (value : Nat) : List UInt8 → Option Nat
  | [] => some value
  | digit :: digits =>
    if isAsciiDigit digit ∧ 10 * value + digitValue digit < UInt64.size then
      addDigits (10 * value + digitValue digit) digits
    else none

/-- `u64::from_str`: a leading plus sign is allowed, an empty number is not. -/
def parseU64 (text : List UInt8) : Option UInt64 :=
  let digits := if text.head? = some 43 then text.tail else text
  if digits = [] then none else (addDigits 0 digits).map UInt64.ofNat

theorem addDigits_eq_some {digits : List UInt8} {value n : Nat} (small : value < UInt64.size)
    (parsed : addDigits value digits = some n) :
    n = digits.foldl (fun value digit => 10 * value + digitValue digit) value ∧
      n < UInt64.size := by
  induction digits generalizing value with
  | nil =>
    obtain rfl : value = n := by simpa [addDigits] using parsed
    exact ⟨rfl, small⟩
  | cons digit digits ih =>
    rw [addDigits] at parsed
    by_cases fits : isAsciiDigit digit ∧ 10 * value + digitValue digit < UInt64.size
    · rw [if_pos fits] at parsed
      exact ih fits.2 parsed
    · simp [fits] at parsed

/-- A text of digits is parsed to the number it denotes. -/
theorem parseU64_digits {digits : List UInt8} (all : digits.all isAsciiDigit = true) {n : UInt64}
    (parsed : parseU64 digits = some n) : n.toNat = decimalValue digits := by
  have unsigned : digits.head? ≠ some 43 := by
    intro plus
    have member : 43 ∈ digits := List.mem_of_mem_head? plus
    exact absurd (List.all_eq_true.mp all 43 member) (by decide)
  by_cases empty : digits = []
  · simp [parseU64, empty] at parsed
  · simp only [parseU64, if_neg unsigned, if_neg empty] at parsed
    obtain ⟨m, added, rfl⟩ := Option.map_eq_some_iff.mp parsed
    obtain ⟨same, small⟩ := addDigits_eq_some (by decide) added
    rw [UInt64.toNat_ofNat', Nat.mod_eq_of_lt small, same]
    rfl

end ByteScanning
