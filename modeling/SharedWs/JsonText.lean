import Mathlib.Data.List.Basic
import Mathlib.Data.List.TakeWhile
import SharedWs.JsonStrings

/-!
# JSON documents

Documents as trees, their texts in a compact and in an indented layout, and a
parser. An object keeps its members in the order of the text, repeated keys
included. What a number is, how its lexeme is read and how it is printed is left
open: `ReadsBack` is all that is asked of the two.

The parser takes a number of steps as fuel, and `parse` gives it the length of
the text.
-/
namespace JsonText

open JsonStrings

inductive Json (Num : Type) where
  | null
  | bool (b : Bool)
  | number (n : Num)
  | string (s : String)
  | array (elements : List (Json Num))
  | object (members : List (String × Json Num))

variable {Num : Type}

/-- Induction over a document, with the parts of a container in its list. -/
@[elab_as_elim]
theorem Json.induct {P : Json Num → Prop} (null : P .null) (bool : ∀ b, P (.bool b))
    (number : ∀ n, P (.number n)) (string : ∀ s, P (.string s))
    (array : ∀ vs, (∀ v ∈ vs, P v) → P (.array vs))
    (object : ∀ members, (∀ m ∈ members, P m.2) → P (.object members)) (v : Json Num) : P v := by
  refine @Json.rec Num P (fun vs => ∀ v ∈ vs, P v) (fun members => ∀ m ∈ members, P m.2)
    (fun m => P m.2) null bool number string array object ?_ ?_ ?_ ?_ ?_ v
  · exact List.forall_mem_nil _
  · exact fun v vs first rest => List.forall_mem_cons.mpr ⟨first, rest⟩
  · exact List.forall_mem_nil _
  · exact fun m members first rest => List.forall_mem_cons.mpr ⟨first, rest⟩
  · exact fun key v holds => holds

def Json.isContainer : Json Num → Bool
  | .array _ | .object _ => true
  | _ => false

def Json.asString : Json Num → Option String
  | .string s => some s
  | _ => none

theorem asString_eq_some {v : Json Num} {s : String} (string : v.asString = some s) :
    v = .string s := by
  cases v <;> simp only [Json.asString, reduceCtorEq, Option.some.injEq] at string
  rw [string]

theorem asString_of_container {v : Json Num} (container : v.isContainer = true) :
    v.asString = none := by
  cases v <;> first | rfl | cases container

/-- Neither a container nor a string. -/
def Json.isScalar (v : Json Num) : Bool := !v.isContainer && v.asString.isNone

def numberChar (c : Char) : Bool :=
  c.isDigit || c == '-' || c == '+' || c == '.' || c == 'e' || c == 'E'

def someDigits (l : List Char) : Bool := !l.isEmpty && l.all Char.isDigit

def exponent : List Char → Bool
  | [] => true
  | mark :: rest =>
    (mark == 'e' || mark == 'E') &&
      match rest with
      | sign :: digits => if sign == '+' || sign == '-' then someDigits digits else someDigits rest
      | [] => false

def fraction : List Char → Bool
  | '.' :: rest => !(rest.takeWhile Char.isDigit).isEmpty && exponent (rest.dropWhile Char.isDigit)
  | rest => exponent rest

def unsigned : List Char → Bool
  | '0' :: rest => fraction rest
  | rest => !(rest.takeWhile Char.isDigit).isEmpty && fraction (rest.dropWhile Char.isDigit)

def isNumber : List Char → Bool
  | '-' :: rest => unsigned rest
  | rest => unsigned rest

/-- A way to read lexemes and a way to print numbers that fit each other. -/
structure ReadsBack (ofLexeme : List Char → Option Num) (toLexeme : Num → List Char) : Prop where
  number : ∀ n, isNumber (toLexeme n) = true
  same : ∀ n, ofLexeme (toLexeme n) = some n

def isBlank (c : Char) : Bool := c == ' ' || c == '\t' || c == '\n' || c == '\r'

def skipBlanks (input : List Char) : List Char := input.dropWhile isBlank

section Parser
variable (ofLexeme : List Char → Option Num)

/-- The longest run of characters that occur in numbers has to be one. -/
def parseNumber (input : List Char) : Option (Json Num × List Char) :=
  if isNumber (input.takeWhile numberChar) then
    (ofLexeme (input.takeWhile numberChar)).map fun n =>
      (.number n, input.dropWhile numberChar)
  else none

def parseScalar (input : List Char) : Option (Json Num × List Char) :=
  match input.dropPrefix? ['t', 'r', 'u', 'e'] with
  | some rest => some (.bool true, rest)
  | none =>
    match input.dropPrefix? ['f', 'a', 'l', 's', 'e'] with
    | some rest => some (.bool false, rest)
    | none =>
      match input.dropPrefix? ['n', 'u', 'l', 'l'] with
      | some rest => some (.null, rest)
      | none => parseNumber ofLexeme input

def parseKey (input : List Char) : Option (String × List Char) :=
  match skipBlanks input with
  | '"' :: rest =>
    match scan (.text none) rest with
    | some (key, rest) =>
      match skipBlanks rest with
      | ':' :: rest => some (.ofList key, rest)
      | _ => none
    | none => none
  | _ => none

mutual

def parseValue : Nat → List Char → Option (Json Num × List Char)
  | 0, _ => none
  | fuel + 1, input =>
    match skipBlanks input with
    | '"' :: rest =>
      (scan (.text none) rest).map fun found => (.string (.ofList found.1), found.2)
    | '[' :: rest =>
      match skipBlanks rest with
      | ']' :: rest => some (.array [], rest)
      | rest => (parseElements fuel rest).map fun found => (.array found.1, found.2)
    | '{' :: rest =>
      match skipBlanks rest with
      | '}' :: rest => some (.object [], rest)
      | rest => (parseMembers fuel rest).map fun found => (.object found.1, found.2)
    | rest => parseScalar ofLexeme rest

def parseElements : Nat → List Char → Option (List (Json Num) × List Char)
  | 0, _ => none
  | fuel + 1, input =>
    match parseValue fuel input with
    | none => none
    | some (v, rest) =>
      match skipBlanks rest with
      | ']' :: rest => some ([v], rest)
      | ',' :: rest => (parseElements fuel rest).map fun found => (v :: found.1, found.2)
      | _ => none

def parseMembers : Nat → List Char → Option (List (String × Json Num) × List Char)
  | 0, _ => none
  | fuel + 1, input =>
    match parseKey input with
    | none => none
    | some (key, rest) =>
      match parseValue fuel rest with
      | none => none
      | some (v, rest) =>
        match skipBlanks rest with
        | '}' :: rest => some ([(key, v)], rest)
        | ',' :: rest => (parseMembers fuel rest).map fun found => ((key, v) :: found.1, found.2)
        | _ => none

end

/-- A whole text: one value and blanks around it. -/
@[irreducible]
def parse (text : String) : Option (Json Num) :=
  match parseValue ofLexeme (text.length + 1) text.toList with
  | some (v, rest) => if skipBlanks rest = [] then some v else none
  | none => none

end Parser

/-- The line break in front of an item; `none` is the compact layout, and a
number the depth of the indentation. -/
def lineBreak : Option Nat → List Char
  | none => []
  | some depth => '\n' :: List.replicate (2 * depth) ' '

def colon : Option Nat → List Char
  | none => [':']
  | some _ => [':', ' ']

def deeper (layout : Option Nat) : Option Nat := layout.map (· + 1)

section Printer
variable (toLexeme : Num → List Char)

mutual

def render (layout : Option Nat) : Json Num → List Char
  | .null => ['n', 'u', 'l', 'l']
  | .bool true => ['t', 'r', 'u', 'e']
  | .bool false => ['f', 'a', 'l', 's', 'e']
  | .number n => toLexeme n
  | .string s => quote s.toList
  | .array [] => ['[', ']']
  | .array (v :: vs) =>
    '[' :: (lineBreak (deeper layout) ++ render (deeper layout) v ++ renderElements layout vs)
  | .object [] => ['{', '}']
  | .object ((key, v) :: members) =>
    '{' :: (lineBreak (deeper layout) ++ quote key.toList ++ colon layout ++
      render (deeper layout) v ++ renderMembers layout members)

/-- What follows an element, up to the end of the array. -/
def renderElements (layout : Option Nat) : List (Json Num) → List Char
  | [] => lineBreak layout ++ [']']
  | v :: vs =>
    ',' :: (lineBreak (deeper layout) ++ render (deeper layout) v ++ renderElements layout vs)

/-- What follows a member, up to the end of the object. -/
def renderMembers (layout : Option Nat) : List (String × Json Num) → List Char
  | [] => lineBreak layout ++ ['}']
  | (key, v) :: members =>
    ',' :: (lineBreak (deeper layout) ++ quote key.toList ++ colon layout ++
      render (deeper layout) v ++ renderMembers layout members)

end

def compact (v : Json Num) : String := .ofList (render toLexeme none v)

def pretty (v : Json Num) : String := .ofList (render toLexeme (some 0) v)

end Printer

theorem numberChar_of_digit {c : Char} (digit : c.isDigit = true) : numberChar c = true := by
  simp [numberChar, digit]

theorem numberChars_of_digits {l : List Char}
    (rest : ∀ c ∈ l.dropWhile Char.isDigit, numberChar c = true) :
    ∀ c ∈ l, numberChar c = true := by
  intro c listed
  rw [← List.takeWhile_append_dropWhile (p := Char.isDigit) (l := l), List.mem_append] at listed
  rcases listed with digit | later
  · exact numberChar_of_digit (List.mem_takeWhile_imp digit)
  · exact rest c later

theorem numberChars_of_someDigits {l : List Char} (digits : someDigits l = true) :
    ∀ c ∈ l, numberChar c = true := by
  simp only [someDigits, Bool.and_eq_true, List.all_eq_true] at digits
  exact fun c listed => numberChar_of_digit (digits.2 c listed)

theorem numberChars_of_exponent {l : List Char} (valid : exponent l = true) :
    ∀ c ∈ l, numberChar c = true := by
  match l with
  | [] => exact List.forall_mem_nil _
  | [mark] => simp [exponent] at valid
  | mark :: sign :: digits =>
    simp only [exponent, Bool.and_eq_true, Bool.or_eq_true, beq_iff_eq] at valid
    obtain ⟨marked, tail⟩ := valid
    have first : numberChar mark = true := by
      rcases marked with rfl | rfl <;> decide
    refine List.forall_mem_cons.mpr ⟨first, ?_⟩
    by_cases signed : sign = '+' ∨ sign = '-'
    · rw [if_pos signed] at tail
      have second : numberChar sign = true := by
        rcases signed with rfl | rfl <;> decide
      exact List.forall_mem_cons.mpr ⟨second, numberChars_of_someDigits tail⟩
    · rw [if_neg signed] at tail
      exact numberChars_of_someDigits tail

theorem numberChars_of_fraction {l : List Char} (valid : fraction l = true) :
    ∀ c ∈ l, numberChar c = true := by
  unfold fraction at valid
  split at valid
  · rw [Bool.and_eq_true] at valid
    refine List.forall_mem_cons.mpr ⟨by decide, ?_⟩
    exact numberChars_of_digits (numberChars_of_exponent valid.2)
  · exact numberChars_of_exponent valid

theorem numberChars_of_unsigned {l : List Char} (valid : unsigned l = true) :
    ∀ c ∈ l, numberChar c = true := by
  unfold unsigned at valid
  split at valid
  · exact List.forall_mem_cons.mpr ⟨by decide, numberChars_of_fraction valid⟩
  · rw [Bool.and_eq_true] at valid
    exact numberChars_of_digits (numberChars_of_fraction valid.2)

theorem numberChars_of_isNumber {l : List Char} (valid : isNumber l = true) :
    ∀ c ∈ l, numberChar c = true := by
  unfold isNumber at valid
  split at valid
  · exact List.forall_mem_cons.mpr ⟨by decide, numberChars_of_unsigned valid⟩
  · exact numberChars_of_unsigned valid

/-- A number begins with a sign or a digit. -/
theorem head_of_isNumber {l : List Char} (valid : isNumber l = true) :
    ∃ c rest, l = c :: rest ∧ (c = '-' ∨ c.isDigit = true) := by
  have digit : ∀ {l : List Char}, unsigned l = true →
      ∃ c rest, l = c :: rest ∧ c.isDigit = true := by
    intro l valid
    unfold unsigned at valid
    split at valid
    · exact ⟨'0', _, rfl, by decide⟩
    · rw [Bool.and_eq_true] at valid
      cases l with
      | nil => simp at valid
      | cons c rest =>
        refine ⟨c, rest, rfl, ?_⟩
        by_contra other
        simp [other] at valid
  unfold isNumber at valid
  split at valid
  · exact ⟨'-', _, rfl, Or.inl rfl⟩
  · obtain ⟨c, rest, rfl, isDigit⟩ := digit valid
    exact ⟨c, rest, rfl, Or.inr isDigit⟩

/-- What comes after a number so that it ends there. -/
def Delimits (rest : List Char) : Prop := ∀ c tail, rest = c :: tail → numberChar c = false

theorem delimits_cons {c : Char} (tail : List Char) (other : numberChar c = false) :
    Delimits (c :: tail) := by
  rintro _ _ ⟨⟩
  exact other

theorem delimits_lineBreak (layout : Option Nat) {c : Char} (tail : List Char)
    (other : numberChar c = false) : Delimits (lineBreak layout ++ c :: tail) := by
  cases layout with
  | none => exact delimits_cons tail other
  | some depth => exact delimits_cons _ (by decide)

theorem takeWhile_lexeme {l rest : List Char} (chars : ∀ c ∈ l, numberChar c = true)
    (delimits : Delimits rest) : (l ++ rest).takeWhile numberChar = l := by
  rw [List.takeWhile_append_of_pos chars]
  cases rest with
  | nil => simp
  | cons c tail => simp [delimits c tail rfl]

theorem dropWhile_lexeme {l rest : List Char} (chars : ∀ c ∈ l, numberChar c = true)
    (delimits : Delimits rest) : (l ++ rest).dropWhile numberChar = rest := by
  rw [List.dropWhile_append_of_pos chars]
  cases rest with
  | nil => simp
  | cons c tail => simp [delimits c tail rfl]

theorem skipBlanks_cons {c : Char} (rest : List Char) (solid : isBlank c = false) :
    skipBlanks (c :: rest) = c :: rest := by
  simp [skipBlanks, solid]

theorem skipBlanks_lineBreak (layout : Option Nat) (rest : List Char) :
    skipBlanks (lineBreak layout ++ rest) = skipBlanks rest := by
  cases layout with
  | none => rfl
  | some depth =>
    unfold skipBlanks lineBreak
    apply List.dropWhile_append_of_pos
    intro c listed
    rcases List.mem_cons.mp listed with rfl | space
    · decide
    · rw [List.eq_of_mem_replicate space]
      decide

section RoundTrip
variable {ofLexeme : List Char → Option Num} {toLexeme : Num → List Char}

theorem parseValue_blanks (fuel : Nat) {input input' : List Char}
    (same : skipBlanks input = skipBlanks input') :
    parseValue ofLexeme fuel input = parseValue ofLexeme fuel input' := by
  cases fuel with
  | zero => simp only [parseValue]
  | succ fuel => simp only [parseValue, same]

/-- A value that is neither quoted nor bracketed. -/
theorem parseValue_scalar (fuel : Nat) (c : Char) (rest : List Char) (solid : isBlank c = false)
    (quoted : c ≠ '"') (array : c ≠ '[') (object : c ≠ '\x7b') :
    parseValue ofLexeme (fuel + 1) (c :: rest) = parseScalar ofLexeme (c :: rest) := by
  rw [parseValue, skipBlanks_cons rest solid]
  split <;> simp_all

theorem parseNumber_lexeme (back : ReadsBack ofLexeme toLexeme) (n : Num) {rest : List Char}
    (delimits : Delimits rest) :
    parseNumber ofLexeme (toLexeme n ++ rest) = some (.number n, rest) := by
  have chars := numberChars_of_isNumber (back.number n)
  unfold parseNumber
  rw [takeWhile_lexeme chars delimits, dropWhile_lexeme chars delimits, if_pos (back.number n),
    back.same]
  rfl

/-- No character of one kind begins a value of another. -/
theorem number_head {c : Char} (head : c = '-' ∨ c.isDigit = true) :
    isBlank c = false ∧ c ≠ '"' ∧ c ≠ '[' ∧ c ≠ '\x7b' ∧ c ≠ 't' ∧ c ≠ 'f' ∧ c ≠ 'n' ∧
      c ≠ ']' ∧ c ≠ '\x7d' := by
  rcases head with rfl | digit
  · decide
  · have other : ∀ d : Char, d.isDigit = false → c ≠ d := by
      rintro d no rfl
      rw [digit] at no
      cases no
    refine ⟨?_, other _ rfl, other _ rfl, other _ rfl, other _ rfl, other _ rfl, other _ rfl,
      other _ rfl, other _ rfl⟩
    simp [isBlank, other ' ' rfl, other '\t' rfl, other '\n' rfl, other '\r' rfl]

theorem parseScalar_lexeme (back : ReadsBack ofLexeme toLexeme) (n : Num) {rest : List Char}
    (delimits : Delimits rest) :
    parseScalar ofLexeme (toLexeme n ++ rest) = some (.number n, rest) := by
  obtain ⟨c, tail, lexeme, head⟩ := head_of_isNumber (back.number n)
  obtain ⟨-, -, -, -, notT, notF, notN, -⟩ := number_head head
  have number := parseNumber_lexeme back n delimits
  rw [lexeme, List.cons_append] at number ⊢
  simp [parseScalar, List.dropPrefix?, notT, notF, notN, number]

theorem parseScalar_null (rest : List Char) :
    parseScalar ofLexeme ('n' :: 'u' :: 'l' :: 'l' :: rest) = some (.null, rest) := by
  simp [parseScalar, List.dropPrefix?]

theorem parseScalar_true (rest : List Char) :
    parseScalar ofLexeme ('t' :: 'r' :: 'u' :: 'e' :: rest) = some (.bool true, rest) := by
  simp [parseScalar, List.dropPrefix?]

theorem parseScalar_false (rest : List Char) :
    parseScalar ofLexeme ('f' :: 'a' :: 'l' :: 's' :: 'e' :: rest) = some (.bool false, rest) := by
  simp [parseScalar, List.dropPrefix?]

/-- The first character of a printed value. -/
theorem render_head (back : ReadsBack ofLexeme toLexeme) (layout : Option Nat) (v : Json Num) :
    ∃ c tail, render toLexeme layout v = c :: tail ∧ isBlank c = false ∧ c ≠ ']' := by
  match v with
  | .null => exact ⟨_, _, by rw [render], by decide, by decide⟩
  | .bool true => exact ⟨_, _, by rw [render], by decide, by decide⟩
  | .bool false => exact ⟨_, _, by rw [render], by decide, by decide⟩
  | .number n =>
    obtain ⟨c, tail, lexeme, head⟩ := head_of_isNumber (back.number n)
    obtain ⟨solid, -, -, -, -, -, -, notClose, -⟩ := number_head head
    exact ⟨c, tail, by rw [render, lexeme], solid, notClose⟩
  | .string s => exact ⟨_, _, by rw [render, quote], by decide, by decide⟩
  | .array [] => exact ⟨_, _, by rw [render], by decide, by decide⟩
  | .array (v :: vs) => exact ⟨_, _, by rw [render], by decide, by decide⟩
  | .object [] => exact ⟨_, _, by rw [render], by decide, by decide⟩
  | .object ((key, v) :: members) => exact ⟨_, _, by rw [render], by decide, by decide⟩

variable (ofLexeme toLexeme) in
/-- The value is read back from its text, whatever delimits it. -/
def RoundTrips (v : Json Num) : Prop :=
  ∀ layout fuel rest, (render toLexeme layout v).length < fuel → Delimits rest →
    parseValue ofLexeme fuel (render toLexeme layout v ++ rest) = some (v, rest)

theorem parseElements_blanks (fuel : Nat) {input input' : List Char}
    (same : skipBlanks input = skipBlanks input') :
    parseElements ofLexeme fuel input = parseElements ofLexeme fuel input' := by
  cases fuel with
  | zero => simp only [parseElements]
  | succ fuel => simp only [parseElements, parseValue_blanks fuel same]

theorem parseElements_render (layout : Option Nat) (vs : List (Json Num)) (v : Json Num)
    (each : ∀ w ∈ v :: vs, RoundTrips ofLexeme toLexeme w) {fuel : Nat}
    (enough :
      (render toLexeme (deeper layout) v ++ renderElements toLexeme layout vs).length < fuel)
    (rest : List Char) :
    parseElements ofLexeme fuel
      (render toLexeme (deeper layout) v ++ renderElements toLexeme layout vs ++ rest) =
      some (v :: vs, rest) := by
  induction vs generalizing v fuel with
  | nil =>
    cases fuel with
    | zero => exact absurd enough (Nat.not_lt_zero _)
    | succ fuel =>
      rw [renderElements, List.length_append, List.length_append] at enough
      rw [renderElements, List.append_assoc, List.append_assoc, List.singleton_append]
      have first := each v List.mem_cons_self (deeper layout) fuel
        (lineBreak layout ++ ']' :: rest) (by simp at enough; omega)
        (delimits_lineBreak layout rest (by decide))
      rw [parseElements, first]
      simp only [skipBlanks_lineBreak, skipBlanks_cons rest (show isBlank ']' = false by decide)]
  | cons w vs ih =>
    cases fuel with
    | zero => exact absurd enough (Nat.not_lt_zero _)
    | succ fuel =>
      rw [renderElements] at enough ⊢
      simp only [List.length_append, List.length_cons] at enough
      have first := each v List.mem_cons_self (deeper layout) fuel
        (',' :: (lineBreak (deeper layout) ++ render toLexeme (deeper layout) w ++
          renderElements toLexeme layout vs) ++ rest) (by omega)
        (delimits_cons _ (by decide))
      have others : parseElements ofLexeme fuel (render toLexeme (deeper layout) w ++
          renderElements toLexeme layout vs ++ rest) = some (w :: vs, rest) :=
        ih w (fun u listed => each u (List.mem_cons_of_mem v listed))
          (by rw [List.length_append]; omega)
      rw [List.append_assoc, parseElements, first]
      simp only [List.cons_append, skipBlanks_cons _ (show isBlank ',' = false by decide)]
      rw [List.append_assoc, List.append_assoc,
        parseElements_blanks fuel (skipBlanks_lineBreak (deeper layout) _), ← List.append_assoc,
        others]
      rfl

theorem parseKey_blanks {input input' : List Char} (same : skipBlanks input = skipBlanks input') :
    parseKey input = parseKey input' := by
  simp only [parseKey, same]

/-- A printed key is read back; what is left of the colon are blanks. -/
theorem parseKey_quote (layout : Option Nat) (key : String) (rest : List Char) :
    ∃ left, parseKey (quote key.toList ++ (colon layout ++ rest)) = some (key, left) ∧
      skipBlanks left = skipBlanks rest := by
  have scanned : ∀ after, scan (.text none) (key.toList.flatMap escapeChar ++ ['"'] ++ after) =
      some (key.toList, after) := by
    intro after
    rw [List.append_assoc]
    exact scan_quoted key.toList after
  have opened : skipBlanks (quote key.toList ++ (colon layout ++ rest)) =
      '"' :: (key.toList.flatMap escapeChar ++ ['"'] ++ (colon layout ++ rest)) :=
    skipBlanks_cons _ (by decide)
  unfold parseKey
  simp only [opened, scanned]
  cases layout with
  | none =>
    refine ⟨rest, ?_, rfl⟩
    simp [colon, skipBlanks_cons rest (show isBlank ':' = false by decide)]
  | some depth =>
    refine ⟨' ' :: rest, ?_, by simp [skipBlanks, isBlank]⟩
    simp [colon, skipBlanks_cons (' ' :: rest) (show isBlank ':' = false by decide)]

theorem parseMembers_blanks (fuel : Nat) {input input' : List Char}
    (same : skipBlanks input = skipBlanks input') :
    parseMembers ofLexeme fuel input = parseMembers ofLexeme fuel input' := by
  cases fuel with
  | zero => simp only [parseMembers]
  | succ fuel => simp only [parseMembers, parseKey_blanks same]

/-- The text of a member and of those behind it. -/
def membersText (toLexeme : Num → List Char) (layout : Option Nat) (key : String) (v : Json Num)
    (members : List (String × Json Num)) : List Char :=
  quote key.toList ++ (colon layout ++
    (render toLexeme (deeper layout) v ++ renderMembers toLexeme layout members))

theorem parseMembers_render (layout : Option Nat) (members : List (String × Json Num))
    (key : String) (v : Json Num)
    (each : ∀ m ∈ (key, v) :: members, RoundTrips ofLexeme toLexeme m.2) {fuel : Nat}
    (enough : (membersText toLexeme layout key v members).length < fuel) (rest : List Char) :
    parseMembers ofLexeme fuel (membersText toLexeme layout key v members ++ rest) =
      some ((key, v) :: members, rest) := by
  induction members generalizing key v fuel with
  | nil =>
    cases fuel with
    | zero => exact absurd enough (Nat.not_lt_zero _)
    | succ fuel =>
      simp only [membersText, renderMembers, List.length_append, List.length_cons] at enough
      have value := each (key, v) List.mem_cons_self (deeper layout) fuel
        (lineBreak layout ++ '\x7d' :: rest)
        (by change (render toLexeme (deeper layout) v).length < fuel; omega)
        (delimits_lineBreak layout rest (by decide))
      obtain ⟨left, keyed, same⟩ := parseKey_quote layout key
        (render toLexeme (deeper layout) v ++ (lineBreak layout ++ '\x7d' :: rest))
      simp only [membersText, renderMembers, List.append_assoc, List.singleton_append]
      simp only [parseMembers, keyed, parseValue_blanks fuel same, value, skipBlanks_lineBreak,
        skipBlanks_cons rest (show isBlank '\x7d' = false by decide)]
  | cons m members ih =>
    obtain ⟨key', v'⟩ := m
    cases fuel with
    | zero => exact absurd enough (Nat.not_lt_zero _)
    | succ fuel =>
      simp only [membersText, renderMembers, List.length_append, List.length_cons] at enough
      have others : parseMembers ofLexeme fuel
          (membersText toLexeme layout key' v' members ++ rest) =
          some ((key', v') :: members, rest) := by
        apply ih key' v' fun m listed => each m (List.mem_cons_of_mem _ listed)
        simp only [membersText, List.length_append]
        omega
      have value := each (key, v) List.mem_cons_self (deeper layout) fuel
        (',' :: (lineBreak (deeper layout) ++
          (membersText toLexeme layout key' v' members ++ rest)))
        (by change (render toLexeme (deeper layout) v).length < fuel; omega)
        (delimits_cons _ (by decide))
      obtain ⟨left, keyed, same⟩ := parseKey_quote layout key
        (render toLexeme (deeper layout) v ++ (',' :: (lineBreak (deeper layout) ++
          (membersText toLexeme layout key' v' members ++ rest))))
      have text : membersText toLexeme layout key v ((key', v') :: members) ++ rest =
          quote key.toList ++ (colon layout ++ (render toLexeme (deeper layout) v ++
            (',' :: (lineBreak (deeper layout) ++
              (membersText toLexeme layout key' v' members ++ rest))))) := by
        simp only [membersText, renderMembers, List.append_assoc, List.cons_append]
      rw [text]
      simp only [parseMembers, keyed, parseValue_blanks fuel same, value,
        skipBlanks_cons _ (show isBlank ',' = false by decide)]
      rw [parseMembers_blanks fuel (skipBlanks_lineBreak (deeper layout) _), others]
      rfl

theorem parseValue_array (fuel : Nat) {input rest : List Char} {vs : List (Json Num)} {c : Char}
    {tail : List Char} (inside : skipBlanks input = c :: tail) (notEmpty : c ≠ ']')
    (elements : parseElements ofLexeme fuel (c :: tail) = some (vs, rest)) :
    parseValue ofLexeme (fuel + 1) ('[' :: input) = some (.array vs, rest) := by
  rw [parseValue, skipBlanks_cons input (show isBlank '[' = false by decide)]
  simp only [inside]
  split
  · rename_i wrong
    exact absurd (List.cons.inj wrong).1 notEmpty
  · rw [elements]
    rfl

theorem parseValue_object (fuel : Nat) {input rest : List Char}
    {members : List (String × Json Num)} {c : Char} {tail : List Char}
    (inside : skipBlanks input = c :: tail) (notEmpty : c ≠ '\x7d')
    (found : parseMembers ofLexeme fuel (c :: tail) = some (members, rest)) :
    parseValue ofLexeme (fuel + 1) ('\x7b' :: input) = some (.object members, rest) := by
  rw [parseValue, skipBlanks_cons input (show isBlank '\x7b' = false by decide)]
  simp only [inside]
  split
  · rename_i wrong
    exact absurd (List.cons.inj wrong).1 notEmpty
  · rw [found]
    rfl

theorem roundTrips_succ {v : Json Num}
    (trips : ∀ layout fuel rest, (render toLexeme layout v).length < fuel + 1 → Delimits rest →
      parseValue ofLexeme (fuel + 1) (render toLexeme layout v ++ rest) = some (v, rest)) :
    RoundTrips ofLexeme toLexeme v := by
  rintro layout (_ | fuel) rest enough delimits
  · exact absurd enough (Nat.not_lt_zero _)
  · exact trips layout fuel rest enough delimits

/-- Printing in either layout and parsing gives the document back. -/
theorem roundTrips (back : ReadsBack ofLexeme toLexeme) (v : Json Num) :
    RoundTrips ofLexeme toLexeme v := by
  induction v using Json.induct with
  | null =>
    refine roundTrips_succ fun layout fuel rest _ _ => ?_
    rw [render]
    exact (parseValue_scalar fuel 'n' ('u' :: 'l' :: 'l' :: rest) (by decide) (by decide)
      (by decide) (by decide)).trans (parseScalar_null rest)
  | bool b =>
    refine roundTrips_succ fun layout fuel rest _ _ => ?_
    cases b with
    | true =>
      rw [render]
      exact (parseValue_scalar fuel 't' ('r' :: 'u' :: 'e' :: rest) (by decide) (by decide)
        (by decide) (by decide)).trans (parseScalar_true rest)
    | false =>
      rw [render]
      exact (parseValue_scalar fuel 'f' ('a' :: 'l' :: 's' :: 'e' :: rest) (by decide)
        (by decide) (by decide) (by decide)).trans (parseScalar_false rest)
  | number n =>
    refine roundTrips_succ fun layout fuel rest _ delimits => ?_
    obtain ⟨c, tail, lexeme, head⟩ := head_of_isNumber (back.number n)
    obtain ⟨solid, notQuote, notArray, notObject, -⟩ := number_head head
    have scalar := parseScalar_lexeme back n delimits
    rw [render]
    rw [lexeme, List.cons_append] at scalar ⊢
    rw [parseValue_scalar fuel c _ solid notQuote notArray notObject, scalar]
  | string s =>
    refine roundTrips_succ fun layout fuel rest _ _ => ?_
    have scanned : scan (.text none) (s.toList.flatMap escapeChar ++ ['"'] ++ rest) =
        some (s.toList, rest) := by
      rw [List.append_assoc]
      exact scan_quoted s.toList rest
    rw [render, quote, List.cons_append, parseValue,
      skipBlanks_cons _ (show isBlank '"' = false by decide)]
    simp only [scanned, Option.map_some, String.ofList_toList]
  | array vs each =>
    refine roundTrips_succ fun layout fuel rest enough _ => ?_
    cases vs with
    | nil =>
      rw [render, parseValue]
      rfl
    | cons v vs =>
      rw [render] at enough ⊢
      simp only [List.length_cons, List.length_append] at enough
      have elements := parseElements_render layout vs v each
        (show _ < fuel by rw [List.length_append]; omega) rest
      obtain ⟨c, tail, first, solid, notClose⟩ := render_head back (deeper layout) v
      rw [first, List.cons_append, List.cons_append] at elements
      rw [List.cons_append]
      refine parseValue_array fuel ?_ notClose elements
      rw [List.append_assoc, List.append_assoc, skipBlanks_lineBreak, first, List.cons_append,
        skipBlanks_cons _ solid, List.append_assoc]
  | object members each =>
    refine roundTrips_succ fun layout fuel rest enough _ => ?_
    match members with
    | [] =>
      rw [render, parseValue]
      rfl
    | (key, v) :: members =>
      have text : render toLexeme layout (.object ((key, v) :: members)) =
          '\x7b' :: (lineBreak (deeper layout) ++ membersText toLexeme layout key v members) := by
        rw [render]
        simp only [membersText, List.append_assoc]
      rw [text] at enough ⊢
      rw [List.length_cons, List.length_append] at enough
      have found := parseMembers_render layout members key v each
        (show _ < fuel by omega) rest
      rw [List.cons_append]
      refine parseValue_object fuel ?_ (by decide : '"' ≠ '\x7d') found
      rw [List.append_assoc, skipBlanks_lineBreak]
      exact skipBlanks_cons _ (by decide)

theorem parse_render (back : ReadsBack ofLexeme toLexeme) (layout : Option Nat) (v : Json Num) :
    parse ofLexeme (.ofList (render toLexeme layout v)) = some v := by
  have found := roundTrips back v layout ((render toLexeme layout v).length + 1) []
    (Nat.lt_succ_self _) nofun
  rw [List.append_nil] at found
  simp [parse, found, skipBlanks]

theorem parse_compact (back : ReadsBack ofLexeme toLexeme) (v : Json Num) :
    parse ofLexeme (compact toLexeme v) = some v := parse_render back none v

theorem parse_pretty (back : ReadsBack ofLexeme toLexeme) (v : Json Num) :
    parse ofLexeme (pretty toLexeme v) = some v := parse_render back (some 0) v

end RoundTrip

end JsonText
