import Mathlib.Algebra.Group.Nat.Defs
import SharedWs.ByteScanning
import SharedWs.WsTypes

/-!
# Matching JSON-RPC responses

`JsonRpcDelegatedEndpoint` of `testing.rs` first asks with a substring search whether a frame may
be a response, and then looks for the request id with a scanner of its own. The scanner is
modelled with its indices: a read beyond the data and a loop that does not end are faults, and
neither happens on any bytes.
-/
namespace JsonRpcIds

open ByteScanning WsTypes

/-- `b"\"id\""`. -/
def idToken : List UInt8 := [34, 105, 100, 34]

/-- `b"\"result\""`. -/
def resultToken : List UInt8 := [34, 114, 101, 115, 117, 108, 116, 34]

/-- `b"\"error\""`. -/
def errorToken : List UInt8 := [34, 101, 114, 114, 111, 114, 34]

example : idToken = "\"id\"".toUTF8.toList ∧ resultToken = "\"result\"".toUTF8.toList ∧
    errorToken = "\"error\"".toUTF8.toList := by
  decide +kernel

def colon : UInt8 := 58

def isWs (byte : UInt8) : Bool :=
  byte == 32 || byte == 10 || byte == 13 || byte == 9

def memmem (haystack needle : List UInt8) : Bool :=
  if needle = [] then true
  else if haystack.length < needle.length then false
  else (windows needle.length haystack).any (· == needle)

/-- `std::str::from_utf8(bytes).ok()?.parse().ok()`. -/
def parseText (bytes : List UInt8) : Option UInt64 :=
  if bytes.toByteArray.IsValidUTF8 then parseU64 bytes else none

/-- One turn at `i` of the loop of `parse_jsonrpc_id` finds the token there. -/
def tokenAt (data : List UInt8) (i : Nat) : Except Fault Bool := do
  let byte ← byteAt data i
  return byte == 34 && data[i + 1]? == some 105 && data[i + 2]? == some 100 &&
    data[i + 3]? == some 34

/-- The negation of `i >= data.len() || data[i] != b':'`. -/
def colonAt (data : List UInt8) (i : Nat) : Except Fault Bool :=
  if data.length ≤ i then return false
  else do
    let byte ← byteAt data i
    return byte == colon

/-- The end of a turn that has found a colon at `i`: the digits after it, which may be none. -/
def numberAfter (data : List UInt8) (i : Nat) : Except Fault (Option UInt64) := do
  let start ← skipWhile data isWs (data.length + 1) (i + 1)
  let i ← skipWhile data isAsciiDigit (data.length + 1) start
  if start = i then return none
  else return parseText (← sliceOf data start i)

/-- The loop of `parse_jsonrpc_id` from `i` on. -/
def scanFrom (data : List UInt8) : Nat → Nat → Except Fault (Option UInt64)
  | 0, _ => .error .outOfTurns
  | turns + 1, i =>
    if i + 4 < data.length then do
      if ← tokenAt data i then
        let i ← skipWhile data isWs (data.length + 1) (i + 4)
        if ← colonAt data i then numberAfter data i
        else scanFrom data turns i
      else scanFrom data turns (i + 1)
    else return none

def parseJsonrpcId (data : List UInt8) : Except Fault (Option UInt64) :=
  scanFrom data (data.length + 1) 0

structure WsRateLimitFeedback where
  retryAfter : Option Duration
  hint : Option String
  deriving DecidableEq

structure WsRequestMatch where
  requestId : UInt64
  result : Except String Unit
  rateLimitFeedback : Option WsRateLimitFeedback
  deriving DecidableEq

def maybeRequestResponse (data : List UInt8) : Bool :=
  memmem data idToken && (memmem data resultToken || memmem data errorToken)

def matchRequestResponse (data : List UInt8) : Except Fault (Option WsRequestMatch) := do
  match ← parseJsonrpcId data with
  | none => return none
  | some requestId =>
    if memmem data errorToken then return some ⟨requestId, .error "endpoint rejected", none⟩
    else if memmem data resultToken then return some ⟨requestId, .ok (), none⟩
    else return none

theorem memmem_iff {haystack needle : List UInt8} :
    memmem haystack needle = true ↔ needle <:+: haystack := by
  unfold memmem
  by_cases empty : needle = []
  · simp [empty]
  by_cases short : haystack.length < needle.length
  · have absent : ¬ needle <:+: haystack := fun inside => by
      have size := inside.length_le
      omega
    simp [empty, short, absent]
  · rw [if_neg empty, if_neg short, ← mem_windows_iff, List.any_eq_true]
    simp

/-- The data contains the token, blanks, a colon, blanks and a run of digits, which ends where the
digits do, with the value `n`. -/
def ContainsId (data : List UInt8) (n : Nat) : Prop :=
  ∃ before blanks gap digits after,
    data = before ++ (idToken ++ (blanks ++ colon :: (gap ++ (digits ++ after)))) ∧
    blanks.all isWs = true ∧ gap.all isWs = true ∧
    digits ≠ [] ∧ digits.all isAsciiDigit = true ∧
    (∀ byte, after.head? = some byte → isAsciiDigit byte = false) ∧ decimalValue digits = n

theorem ContainsId.token {data : List UInt8} {n : Nat} (found : ContainsId data n) :
    idToken <:+: data := by
  obtain ⟨before, blanks, gap, digits, after, split, -⟩ := found
  exact ⟨before, blanks ++ colon :: (gap ++ (digits ++ after)), by rw [split, List.append_assoc]⟩

/-- The token test reads within the data and finds the token. -/
theorem tokenAt_spec {data : List UInt8} {i : Nat} (inside : i + 4 < data.length) :
    ∃ found, tokenAt data i = .ok found ∧
      (found = true → data.drop i = idToken ++ data.drop (i + 4)) := by
  have first : data.drop i = data[i] :: data.drop (i + 1) := List.drop_eq_getElem_cons (by omega)
  have second : data.drop (i + 1) = data[i + 1] :: data.drop (i + 2) :=
    List.drop_eq_getElem_cons (by omega)
  have third : data.drop (i + 2) = data[i + 2] :: data.drop (i + 3) :=
    List.drop_eq_getElem_cons (by omega)
  have fourth : data.drop (i + 3) = data[i + 3] :: data.drop (i + 4) :=
    List.drop_eq_getElem_cons (by omega)
  refine ⟨_, by rw [tokenAt, byteAt_of_drop first]; rfl, ?_⟩
  intro found
  simp only [Bool.and_eq_true, beq_iff_eq, List.getElem?_eq_some_iff] at found
  obtain ⟨⟨⟨quote, _, letter⟩, _, letter'⟩, _, quote'⟩ := found
  rw [first, second, third, fourth, quote, letter, letter', quote']
  rfl

theorem colonAt_spec (data : List UInt8) (i : Nat) :
    ∃ found, colonAt data i = .ok found ∧
      (found = true → data.drop i = colon :: data.drop (i + 1)) := by
  rw [colonAt]
  by_cases past : data.length ≤ i
  · rw [if_pos past]
    exact ⟨false, rfl, nofun⟩
  · have here : data.drop i = data[i] :: data.drop (i + 1) := List.drop_eq_getElem_cons (by omega)
    rw [if_neg past, byteAt_of_drop here]
    refine ⟨_, rfl, ?_⟩
    intro found
    rw [here, eq_of_beq found]

/-- The digits after the colon at `i` are read without a fault, and they are those of an id in the
data when the token and blanks are before the colon. -/
theorem numberAfter_spec {data before blanks : List UInt8} {i : Nat}
    (blank : blanks.all isWs = true) (inside : i < data.length)
    (split : data = before ++ (idToken ++ (blanks ++ colon :: data.drop (i + 1)))) :
    ∃ parsed, numberAfter data i = .ok parsed ∧
      ∀ n, parsed = some n → ContainsId data n.toNat := by
  obtain ⟨start, gap, ended, skipped⟩ :=
    skipWhile_spec isWs (data.length + 1) inside (by omega)
  obtain ⟨stop, digits, ended', run⟩ :=
    skipWhile_spec isAsciiDigit (data.length + 1) skipped.inside (by omega)
  simp only [numberAfter, ended, ended', bind, Except.bind]
  by_cases none : start = stop
  · rw [if_pos none]
    exact ⟨Option.none, rfl, nofun⟩
  · rw [if_neg none, run.slice]
    refine ⟨parseText digits, rfl, ?_⟩
    intro n parsed
    have size := run.length
    have forward := run.forward
    have some_digits : digits ≠ [] := by
      rintro rfl
      simp only [List.length_nil] at size
      omega
    have value : parseU64 digits = some n := by
      simp only [parseText, Option.ite_none_right_eq_some] at parsed
      exact parsed.2
    refine ⟨before, blanks, gap, digits, data.drop stop, ?_, blank, skipped.all, some_digits,
      run.all, run.stops, (parseU64_digits run.all value).symm⟩
    rw [← run.split, ← skipped.split]
    exact split

/-- With enough turns the loop ends without a fault, and an id it finds is in the data. -/
theorem scanFrom_spec {data : List UInt8} {turns i : Nat} (enough : data.length - i < turns) :
    ∃ parsed, scanFrom data turns i = .ok parsed ∧
      ∀ n, parsed = some n → ContainsId data n.toNat := by
  induction turns generalizing i with
  | zero => omega
  | succ turns ih =>
    rw [scanFrom]
    by_cases inside : i + 4 < data.length
    · rw [if_pos inside]
      obtain ⟨found, tested, token⟩ := tokenAt_spec inside
      obtain ⟨next, blanks, ended, skipped⟩ :=
        skipWhile_spec isWs (data.length + 1) (Nat.le_of_lt inside) (by omega)
      obtain ⟨seen, looked, split⟩ := colonAt_spec data next
      have forward := skipped.forward
      simp only [tested, bind, Except.bind]
      cases found with
      | false => exact ih (by omega)
      | true =>
        simp only [ended, looked, ↓reduceIte]
        cases seen with
        | false => exact ih (by omega)
        | true =>
          apply numberAfter_spec skipped.all (lt_of_drop (split rfl))
          rw [← split rfl, ← skipped.split, ← token rfl]
          exact (List.take_append_drop i data).symm
    · rw [if_neg inside]
      exact ⟨none, rfl, nofun⟩

theorem parseJsonrpcId_spec (data : List UInt8) :
    ∃ parsed, parseJsonrpcId data = .ok parsed ∧
      ∀ n, parsed = some n → ContainsId data n.toNat :=
  scanFrom_spec (by omega)

/-- The precheck never hides a match. On any bytes the scanner ends without reading beyond
them. An id it returns is in the data: the token, blanks, a colon, blanks and a maximal run of
digits, whose value is the id. And when the matcher returns a match, the precheck is true. -/
theorem precheck_never_hides_match (data : List UInt8) :
    (∃ parsed, parseJsonrpcId data = .ok parsed ∧
      ∀ n, parsed = some n → ContainsId data n.toNat ∧ n.toNat < 2 ^ 64) ∧
    (∃ matched, matchRequestResponse data = .ok matched ∧
      (matched.isSome = true → maybeRequestResponse data = true)) := by
  obtain ⟨parsed, scanned, contains⟩ := parseJsonrpcId_spec data
  constructor
  · exact ⟨parsed, scanned, fun n found => ⟨contains n found, n.toNat_lt⟩⟩
  · simp only [matchRequestResponse, scanned, bind, Except.bind]
    cases parsed with
    | none => exact ⟨none, rfl, nofun⟩
    | some n =>
      have token : memmem data idToken = true := memmem_iff.mpr (contains n rfl).token
      by_cases error : memmem data errorToken = true
      · simp only [error, ↓reduceIte]
        exact ⟨_, rfl, fun _ => by simp [maybeRequestResponse, token, error]⟩
      by_cases result : memmem data resultToken = true
      · simp only [error, result, ↓reduceIte]
        exact ⟨_, rfl, fun _ => by simp [maybeRequestResponse, token, result]⟩
      · simp only [error, result]
        exact ⟨none, rfl, nofun⟩

example : parseJsonrpcId "[\"id\", \"id\" :\t42 ]".toUTF8.toList = .ok (some 42) := by
  decide +kernel

end JsonRpcIds
