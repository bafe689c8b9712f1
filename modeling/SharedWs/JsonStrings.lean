import Mathlib.Data.List.Basic
import Mathlib.Data.List.TakeDrop

/-!
# String literals of JSON

A scanner that reads the inside of a string literal up to its closing quote, one
character at a time, and the printer that escapes no more than it has to. A
character outside of the basic plane may come as two `\u` escapes; half of such
a pair alone is an error.
-/
namespace JsonStrings

def hexValue (c : Char) : Option Nat :=
  if '0' ≤ c ∧ c ≤ '9' then some (c.toNat - '0'.toNat)
  else if 'a' ≤ c ∧ c ≤ 'f' then some (c.toNat - 'a'.toNat + 10)
  else if 'A' ≤ c ∧ c ≤ 'F' then some (c.toNat - 'A'.toNat + 10)
  else none

def hexDigit (d : Nat) : Char :=
  if d < 10 then Char.ofNat ('0'.toNat + d) else Char.ofNat ('a'.toNat + (d - 10))

/-- The escapes of one letter. -/
def unescape (c : Char) : Option Char :=
  if c = '"' ∨ c = '\\' ∨ c = '/' then some c
  else if c = 'b' then some '\x08'
  else if c = 'f' then some '\x0c'
  else if c = 'n' then some '\n'
  else if c = 'r' then some '\r'
  else if c = 't' then some '\t'
  else none

/-- Where the scanner stands: between two characters, after a backslash, or in a
`\u` escape. `high` is the first half of a pair that waits for the second. -/
inductive Mode where
  | text (high : Option Nat)
  | escape (high : Option Nat)
  | hex (high : Option Nat) (missing value : Nat)

/-- What one character of the input makes the scanner do. -/
inductive Action where
  | closes
  | fails
  | goes (mode : Mode)
  | emits (c : Char)

/-- A complete `\u` escape. -/
def finish : Option Nat → Nat → Action
  | none, unit =>
    if 0xD800 ≤ unit ∧ unit < 0xDC00 then .goes (.text (some unit))
    else if 0xDC00 ≤ unit ∧ unit < 0xE000 then .fails
    else .emits (Char.ofNat unit)
  | some high, unit =>
    if 0xDC00 ≤ unit ∧ unit < 0xE000 then
      .emits (Char.ofNat (0x10000 + (high - 0xD800) * 0x400 + (unit - 0xDC00)))
    else .fails

def Mode.read : Mode → Char → Action
  | .text none, c =>
    if c = '"' then .closes
    else if c = '\\' then .goes (.escape none)
    else if c.toNat < 32 then .fails
    else .emits c
  | .text (some high), c => if c = '\\' then .goes (.escape (some high)) else .fails
  | .escape high, c =>
    if c = 'u' then .goes (.hex high 3 0)
    else match high, unescape c with
      | none, some d => .emits d
      | _, _ => .fails
  | .hex high missing value, c =>
    match hexValue c with
    | none => .fails
    | some digit =>
      match missing with
      | 0 => finish high (value * 16 + digit)
      | missing + 1 => .goes (.hex high missing (value * 16 + digit))

/-- The characters up to the closing quote, and what follows it. -/
def scan : Mode → List Char → Option (List Char × List Char)
  | _, [] => none
  | mode, c :: rest =>
    match mode.read c with
    | .closes => some ([], rest)
    | .fails => none
    | .goes next => scan next rest
    | .emits d => (scan (.text none) rest).map fun found => (d :: found.1, found.2)

/-- The printed form of one character. -/
def escapeChar (c : Char) : List Char :=
  if c = '"' then ['\\', '"']
  else if c = '\\' then ['\\', '\\']
  else if c = '\x08' then ['\\', 'b']
  else if c = '\x0c' then ['\\', 'f']
  else if c = '\n' then ['\\', 'n']
  else if c = '\r' then ['\\', 'r']
  else if c = '\t' then ['\\', 't']
  else if c.toNat < 32 then ['\\', 'u', '0', '0', hexDigit (c.toNat / 16), hexDigit (c.toNat % 16)]
  else [c]

def quote (s : List Char) : List Char := '"' :: (s.flatMap escapeChar ++ ['"'])

theorem hexValue_hexDigit : ∀ d < 16, hexValue (hexDigit d) = some d := by
  decide

/-- A printed character is read back, whatever comes after it. -/
theorem scan_escapeChar (c : Char) (rest : List Char) :
    scan (.text none) (escapeChar c ++ rest) =
      (scan (.text none) rest).map fun found => (c :: found.1, found.2) := by
  unfold escapeChar
  split_ifs with quotes slash back feed line carriage tab control
  · subst quotes; rfl
  · subst slash; rfl
  · subst back; rfl
  · subst feed; rfl
  · subst line; rfl
  · subst carriage; rfl
  · subst tab; rfl
  · have first := hexValue_hexDigit (c.toNat / 16) (by omega)
    have second := hexValue_hexDigit (c.toNat % 16) (by omega)
    have low : c.toNat / 16 * 16 + c.toNat % 16 = c.toNat := by omega
    have zero : hexValue '0' = some 0 := by decide
    have small : ¬ (0xD800 ≤ c.toNat) := by omega
    have small' : ¬ (0xDC00 ≤ c.toNat) := by omega
    simp [scan, Mode.read, zero, first, second, low, finish, small, small', Char.ofNat_toNat]
  · simp [scan, Mode.read, quotes, slash, control]

theorem scan_quoted (s rest : List Char) :
    scan (.text none) (s.flatMap escapeChar ++ '"' :: rest) = some (s, rest) := by
  induction s with
  | nil => rfl
  | cons c s ih =>
    rw [List.flatMap_cons, List.append_assoc, scan_escapeChar, ih]
    rfl

/-- Every character that is emitted has been paid for, and the quote as well. -/
theorem scan_shorter {mode : Mode} {input s rest : List Char}
    (found : scan mode input = some (s, rest)) : s.length + rest.length < input.length := by
  induction input generalizing mode s with
  | nil => cases found
  | cons c input ih =>
    unfold scan at found
    cases action : mode.read c with
    | closes =>
      simp only [action, Option.some.injEq, Prod.mk.injEq] at found
      obtain ⟨rfl, rfl⟩ := found
      simp
    | fails => simp [action] at found
    | goes next =>
      simp only [action] at found
      have shorter := ih found
      simp only [List.length_cons]
      omega
    | emits d =>
      simp only [action, Option.map_eq_some_iff, Prod.mk.injEq] at found
      obtain ⟨⟨s', rest'⟩, found, rfl, rfl⟩ := found
      have shorter : s'.length + rest'.length < input.length := ih found
      simp only [List.length_cons]
      omega

/-- Characters that need no escape. -/
def Bare (c : Char) : Prop := c ≠ '"' ∧ c ≠ '\\'

instance (c : Char) : Decidable (Bare c) := inferInstanceAs (Decidable (_ ∧ _))

theorem bare_of_all {l : List Char} (all : l.all (fun c => decide (Bare c)) = true) :
    ∀ c ∈ l, Bare c := by
  simpa using all

/-- Between quotes such characters stand for themselves, unless one of them is a
control character. -/
theorem scan_bare {s : List Char} (bare : ∀ c ∈ s, Bare c) :
    scan (.text none) (s ++ ['"']) = none ∨ scan (.text none) (s ++ ['"']) = some (s, []) := by
  induction s with
  | nil => exact Or.inr rfl
  | cons c s ih =>
    obtain ⟨notQuote, notSlash⟩ := bare c List.mem_cons_self
    have rest := ih fun d listed => bare d (List.mem_cons_of_mem c listed)
    by_cases control : c.toNat < 32
    · left
      simp [scan, Mode.read, notQuote, notSlash, control]
    · rcases rest with none_left | all
      · left
        simp [scan, Mode.read, notQuote, notSlash, control, none_left]
      · right
        simp [scan, Mode.read, notQuote, notSlash, control, all]

end JsonStrings
