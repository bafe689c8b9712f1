import Mathlib.Data.List.Induction

/-!
# Character boundaries of a text

A text is a byte string that is valid UTF-8. Its character boundaries are the byte positions
between two characters, with both ends of the text. A standard library answers the question by
looking at one byte: a position inside the text is a boundary unless its byte is a continuation
byte. The test is shown here to agree with the splits of the text, and slicing up to a boundary
to give the characters before it.
-/

namespace Utf8Boundaries

/-- The byte is not a continuation byte: read as a signed byte it is at least `-0x40`. -/
def isUtf8CharBoundary (byte : UInt8) : Bool :=
  decide (byte < 0x80) || decide (0xC0 ≤ byte)

/-- The test of a byte position, as the standard library makes it. -/
def isCharBoundary (s : String) (index : Nat) : Bool :=
  if index = 0 then true
  else if h : index < s.toByteArray.size then isUtf8CharBoundary (s.toByteArray[index])
  else decide (index = s.toByteArray.size)

/-- The slice of the first `stop` bytes. A position that is not a boundary makes the slice panic,
and bytes that are not UTF-8 would be no text; both are `none`. -/
def sliceTo (s : String) (stop : Nat) : Option String :=
  if isCharBoundary s stop then String.fromUTF8? (s.toByteArray.extract 0 stop) else none

/-- A byte below `0xF8` leads a character exactly when it is no continuation byte. -/
theorem boundary_iff_firstByte {byte : UInt8} (small : byte < 0xF8) :
    isUtf8CharBoundary byte = true ↔ byte.IsUTF8FirstByte := by
  have every : ∀ n : Fin 256, UInt8.ofNat n < 0xF8 →
      (isUtf8CharBoundary (UInt8.ofNat n) = true ↔ (UInt8.ofNat n).IsUTF8FirstByte) := by
    unfold UInt8.IsUTF8FirstByte
    decide +kernel
  have here := every ⟨byte.toNat, byte.toNat_lt⟩
  simp only [UInt8.ofNat_toNat] at here
  exact here small

theorem ofNat_lt {n : Nat} (h : n < 0xF8) : UInt8.ofNat n < 0xF8 := by
  rw [UInt8.lt_iff_toNat_lt]
  simp only [UInt8.toNat_ofNat', UInt8.reduceToNat]
  omega

/-- No byte of an encoded character reaches `0xF8`. -/
theorem encodeChar_lt {c : Char} {byte : UInt8} (h : byte ∈ String.utf8EncodeChar c) :
    byte < 0xF8 := by
  revert h
  fun_cases String.utf8EncodeChar c with
  | case1 v one =>
    intro h
    simp only [List.mem_singleton] at h
    subst h
    exact ofNat_lt (by omega)
  | case2 v _ two =>
    intro h
    simp only [List.mem_cons, List.not_mem_nil, or_false] at h
    rcases h with rfl | rfl
    all_goals exact ofNat_lt (by omega)
  | case3 v _ _ three =>
    intro h
    simp only [List.mem_cons, List.not_mem_nil, or_false] at h
    rcases h with rfl | rfl | rfl
    all_goals exact ofNat_lt (by omega)
  | case4 v _ _ four =>
    intro h
    simp only [List.mem_cons, List.not_mem_nil, or_false] at h
    rcases h with rfl | rfl | rfl | rfl
    all_goals exact ofNat_lt (by omega)

/-- No byte of a text reaches `0xF8`. -/
theorem text_byte_lt (s : String) {index : Nat} (h : index < s.toByteArray.size) :
    s.toByteArray[index] < 0xF8 := by
  obtain ⟨chars, rfl⟩ := s.exists_eq_ofList
  have member : (String.ofList chars).toByteArray[index] ∈ chars.flatMap String.utf8EncodeChar := by
    simp only [String.toByteArray_ofList, List.utf8Encode, List.getElem_toByteArray,
      List.getElem_mem]
  obtain ⟨c, -, inside⟩ := List.mem_flatMap.mp member
  exact encodeChar_lt inside

/-- The test of one byte finds the splits of the text. -/
theorem isCharBoundary_iff {s : String} {index : Nat} :
    isCharBoundary s index = true ↔
      ∃ before after, s = before ++ after ∧ before.utf8ByteSize = index := by
  have valid : String.Pos.Raw.IsValid s ⟨index⟩ ↔
      ∃ before after, s = before ++ after ∧ before.utf8ByteSize = index := by
    rw [String.Pos.Raw.isValid_iff_exists_append]
    simp only [String.Pos.Raw.ext_iff, String.byteIdx_rawEndPos, eq_comm]
  rw [← valid]
  unfold isCharBoundary
  by_cases zero : index = 0
  · subst zero
    simp
  rw [if_neg zero, String.Pos.Raw.isValid_iff_isUTF8FirstByte]
  simp only [String.Pos.Raw.ext_iff, String.Pos.Raw.lt_iff, String.byteIdx_rawEndPos,
    ← String.size_toByteArray, String.getUTF8Byte]
  by_cases inside : index < s.toByteArray.size
  · have differs : index ≠ s.toByteArray.size := by omega
    simp only [inside, differs, ↓reduceDIte, false_or, exists_true_left]
    exact boundary_iff_firstByte (text_byte_lt s inside)
  · simp only [inside, ↓reduceDIte, decide_eq_true_eq, IsEmpty.exists_iff, or_false]

/-- Slicing at a boundary gives the characters before it. -/
theorem sliceTo_append (before after : String) :
    sliceTo (before ++ after) before.utf8ByteSize = some before := by
  have boundary : isCharBoundary (before ++ after) before.utf8ByteSize = true :=
    isCharBoundary_iff.mpr ⟨before, after, rfl, rfl⟩
  have bytes : (before ++ after).toByteArray.extract 0 before.utf8ByteSize =
      before.toByteArray := by
    rw [String.toByteArray_append]
    exact ByteArray.extract_append_eq_left String.size_toByteArray.symm
  rw [sliceTo, if_pos boundary, bytes]
  simp only [String.fromUTF8?, Option.dite_none_right_eq_some]
  exact ⟨before.isValidUTF8, rfl⟩

/-- After a proper split the next boundary is at most four bytes further. -/
theorem next_boundary (before : String) {after : String} (more : after ≠ "") :
    ∃ c rest, before ++ after = before.push c ++ rest ∧
      (before.push c).utf8ByteSize ≤ before.utf8ByteSize + 4 := by
  obtain ⟨chars, rfl⟩ := after.exists_eq_ofList
  cases chars with
  | nil => exact absurd String.ofList_nil more
  | cons c chars =>
    have width := c.utf8Size_le_four
    refine ⟨c, String.ofList chars, ?_, ?_⟩
    · rw [String.ofList_cons, String.push_eq_append, String.append_assoc]
    · rw [String.utf8ByteSize_push]
      omega

end Utf8Boundaries
