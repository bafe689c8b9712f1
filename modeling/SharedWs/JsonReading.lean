import Mathlib.Data.List.TakeWhile
import SharedWs.JsonText

/-!
# What a parsed text was

The parser of `JsonText` read backwards. Each parser returns in a few ways only,
and what it returns is shorter than what it was given. It follows that the fuel
`parse` gives is never the reason for a failure, that the string in a text is
shorter than the text, and that the text of a scalar can be put between quotes
as it stands, if at all.
-/
namespace JsonReading

open JsonStrings JsonText

variable {Num : Type} {ofLexeme : List Char → Option Num}

/-- The first characters that decide how a value is read. -/
def Marks (input : List Char) : Prop :=
  ∃ c rest, input = c :: rest ∧ (c = '"' ∨ c = '[' ∨ c = '\x7b')

variable (ofLexeme) in
/-- The ways in which a value can be read. -/
inductive ReadsValue (fuel : Nat) (input : List Char) : Json Num → List Char → Prop
  | string {inside s rest : List Char} (opens : skipBlanks input = '"' :: inside)
      (scanned : scan (.text none) inside = some (s, rest)) :
      ReadsValue fuel input (.string (.ofList s)) rest
  | emptyArray {inside rest : List Char} (opens : skipBlanks input = '[' :: inside)
      (closes : skipBlanks inside = ']' :: rest) : ReadsValue fuel input (.array []) rest
  | array {inside rest : List Char} {vs : List (Json Num)}
      (opens : skipBlanks input = '[' :: inside)
      (more : ∀ after, skipBlanks inside ≠ ']' :: after)
      (elements : parseElements ofLexeme fuel (skipBlanks inside) = some (vs, rest)) :
      ReadsValue fuel input (.array vs) rest
  | emptyObject {inside rest : List Char} (opens : skipBlanks input = '\x7b' :: inside)
      (closes : skipBlanks inside = '\x7d' :: rest) : ReadsValue fuel input (.object []) rest
  | object {inside rest : List Char} {members : List (String × Json Num)}
      (opens : skipBlanks input = '\x7b' :: inside)
      (more : ∀ after, skipBlanks inside ≠ '\x7d' :: after)
      (found : parseMembers ofLexeme fuel (skipBlanks inside) = some (members, rest)) :
      ReadsValue fuel input (.object members) rest
  | scalar {v : Json Num} {rest : List Char} (unmarked : ¬ Marks (skipBlanks input))
      (scalar : parseScalar ofLexeme (skipBlanks input) = some (v, rest)) :
      ReadsValue fuel input v rest

theorem parseValue_iff {fuel : Nat} {input rest : List Char} {v : Json Num} :
    parseValue ofLexeme (fuel + 1) input = some (v, rest) ↔
      ReadsValue ofLexeme fuel input v rest := by
  constructor
  · intro found
    rw [parseValue] at found
    split at found
    case h_1 inside opens =>
      obtain ⟨⟨s, after⟩, scanned, same⟩ := Option.map_eq_some_iff.mp found
      obtain ⟨rfl, rfl⟩ := Prod.mk.inj same
      exact .string opens scanned
    case h_2 inside opens =>
      split at found
      case h_1 after closes =>
        obtain ⟨rfl, rfl⟩ := Prod.mk.inj (Option.some.inj found)
        exact .emptyArray opens closes
      case h_2 more =>
        obtain ⟨⟨vs, after⟩, elements, same⟩ := Option.map_eq_some_iff.mp found
        obtain ⟨rfl, rfl⟩ := Prod.mk.inj same
        exact .array opens more elements
    case h_3 inside opens =>
      split at found
      case h_1 after closes =>
        obtain ⟨rfl, rfl⟩ := Prod.mk.inj (Option.some.inj found)
        exact .emptyObject opens closes
      case h_2 more =>
        obtain ⟨⟨members, after⟩, members', same⟩ := Option.map_eq_some_iff.mp found
        obtain ⟨rfl, rfl⟩ := Prod.mk.inj same
        exact .object opens more members'
    case h_4 notQuote notArray notObject =>
      refine .scalar ?_ found
      rintro ⟨c, tail, same, rfl | rfl | rfl⟩
      · exact notQuote tail same
      · exact notArray tail same
      · exact notObject tail same
  · intro reads
    rw [parseValue]
    cases reads with
    | string opens scanned => simp [opens, scanned]
    | emptyArray opens closes => simp [opens, closes]
    | array opens more elements => simp [opens, elements]
    | emptyObject opens closes => simp [opens, closes]
    | object opens more found => simp [opens, found]
    | scalar unmarked scalar =>
      split
      · rename_i wrong
        exact absurd ⟨_, _, wrong, Or.inl rfl⟩ unmarked
      · rename_i wrong
        exact absurd ⟨_, _, wrong, Or.inr (Or.inl rfl)⟩ unmarked
      · rename_i wrong
        exact absurd ⟨_, _, wrong, Or.inr (Or.inr rfl)⟩ unmarked
      · exact scalar

variable (ofLexeme) in
inductive ReadsElements (fuel : Nat) (input : List Char) : List (Json Num) → List Char → Prop
  | last {v : Json Num} {after rest : List Char}
      (value : parseValue ofLexeme fuel input = some (v, after))
      (closes : skipBlanks after = ']' :: rest) : ReadsElements fuel input [v] rest
  | more {v : Json Num} {vs : List (Json Num)} {after next rest : List Char}
      (value : parseValue ofLexeme fuel input = some (v, after))
      (comma : skipBlanks after = ',' :: next)
      (others : parseElements ofLexeme fuel next = some (vs, rest)) :
      ReadsElements fuel input (v :: vs) rest

theorem parseElements_iff {fuel : Nat} {input rest : List Char} {vs : List (Json Num)} :
    parseElements ofLexeme (fuel + 1) input = some (vs, rest) ↔
      ReadsElements ofLexeme fuel input vs rest := by
  constructor
  · intro found
    rw [parseElements] at found
    split at found
    case h_1 => cases found
    case h_2 v after value =>
      split at found
      case h_1 closes =>
        obtain ⟨rfl, rfl⟩ := Prod.mk.inj (Option.some.inj found)
        exact .last value closes
      case h_2 comma =>
        obtain ⟨⟨vs, after⟩, others, same⟩ := Option.map_eq_some_iff.mp found
        obtain ⟨rfl, rfl⟩ := Prod.mk.inj same
        exact .more value comma others
      case h_3 => cases found
  · intro reads
    rw [parseElements]
    cases reads with
    | last value closes => simp [value, closes]
    | more value comma others => simp [value, comma, others]

variable (ofLexeme) in
inductive ReadsMembers (fuel : Nat) (input : List Char) :
    List (String × Json Num) → List Char → Prop
  | last {key : String} {v : Json Num} {inner after rest : List Char}
      (keyed : parseKey input = some (key, inner))
      (value : parseValue ofLexeme fuel inner = some (v, after))
      (closes : skipBlanks after = '\x7d' :: rest) : ReadsMembers fuel input [(key, v)] rest
  | more {key : String} {v : Json Num} {members : List (String × Json Num)}
      {inner after next rest : List Char} (keyed : parseKey input = some (key, inner))
      (value : parseValue ofLexeme fuel inner = some (v, after))
      (comma : skipBlanks after = ',' :: next)
      (others : parseMembers ofLexeme fuel next = some (members, rest)) :
      ReadsMembers fuel input ((key, v) :: members) rest

theorem parseMembers_iff {fuel : Nat} {input rest : List Char}
    {members : List (String × Json Num)} :
    parseMembers ofLexeme (fuel + 1) input = some (members, rest) ↔
      ReadsMembers ofLexeme fuel input members rest := by
  constructor
  · intro found
    rw [parseMembers] at found
    split at found
    case h_1 => cases found
    case h_2 key inner keyed =>
      split at found
      case h_1 => cases found
      case h_2 v after value =>
        split at found
        case h_1 closes =>
          obtain ⟨rfl, rfl⟩ := Prod.mk.inj (Option.some.inj found)
          exact .last keyed value closes
        case h_2 comma =>
          obtain ⟨⟨members, after⟩, others, same⟩ := Option.map_eq_some_iff.mp found
          obtain ⟨rfl, rfl⟩ := Prod.mk.inj same
          exact .more keyed value comma others
        case h_3 => cases found
  · intro reads
    rw [parseMembers]
    cases reads with
    | last keyed value closes => simp [keyed, value, closes]
    | more keyed value comma others => simp [keyed, value, comma, others]

theorem length_skipBlanks (input : List Char) : (skipBlanks input).length ≤ input.length :=
  (List.dropWhile_suffix isBlank).length_le

theorem length_of_skipBlanks {input rest : List Char} {c : Char}
    (found : skipBlanks input = c :: rest) : rest.length < input.length := by
  have shorter := length_skipBlanks input
  rw [found, List.length_cons] at shorter
  omega

theorem parseKey_shorter {input rest : List Char} {key : String}
    (found : parseKey input = some (key, rest)) : rest.length < input.length := by
  unfold parseKey at found
  split at found
  case h_2 => cases found
  case h_1 inside opens =>
    split at found
    case h_2 => cases found
    case h_1 s after scanned =>
      split at found
      case h_2 => cases found
      case h_1 next colon =>
        obtain ⟨-, rfl⟩ := Prod.mk.inj (Option.some.inj found)
        have first := length_of_skipBlanks opens
        have second := scan_shorter scanned
        have third := length_of_skipBlanks colon
        omega

theorem bare_of_numberChar {c : Char} (char : numberChar c = true) : Bare c := by
  constructor
  · rintro rfl
    exact absurd char (by decide)
  · rintro rfl
    exact absurd char (by decide)

theorem dropPrefix_used {input rest word : List Char} (found : input.dropPrefix? word = some rest) :
    input = word ++ rest := by
  obtain ⟨used, same, equal⟩ := List.dropPrefix?_eq_some_iff.mp found
  rw [same, eq_of_beq equal]

/-- What a scalar is made of: a part of the text without quotes and backslashes. -/
theorem parseScalar_used {input rest : List Char} {v : Json Num}
    (found : parseScalar ofLexeme input = some (v, rest)) :
    v.isScalar = true ∧ ∃ used, used ≠ [] ∧ input = used ++ rest ∧ ∀ c ∈ used, Bare c := by
  unfold parseScalar at found
  split at found
  case h_1 after word =>
    obtain ⟨rfl, rfl⟩ := Prod.mk.inj (Option.some.inj found)
    exact ⟨rfl, ['t', 'r', 'u', 'e'], nofun, dropPrefix_used word, bare_of_all rfl⟩
  split at found
  case h_1 after word =>
    obtain ⟨rfl, rfl⟩ := Prod.mk.inj (Option.some.inj found)
    exact ⟨rfl, ['f', 'a', 'l', 's', 'e'], nofun, dropPrefix_used word, bare_of_all rfl⟩
  split at found
  case h_1 after word =>
    obtain ⟨rfl, rfl⟩ := Prod.mk.inj (Option.some.inj found)
    exact ⟨rfl, ['n', 'u', 'l', 'l'], nofun, dropPrefix_used word, bare_of_all rfl⟩
  unfold parseNumber at found
  by_cases number : isNumber (input.takeWhile numberChar) = true
  · rw [if_pos number] at found
    obtain ⟨n, _, same⟩ := Option.map_eq_some_iff.mp found
    obtain ⟨rfl, rfl⟩ := Prod.mk.inj same
    refine ⟨rfl, input.takeWhile numberChar, ?_, List.takeWhile_append_dropWhile.symm, ?_⟩
    · intro empty
      rw [empty] at number
      cases number
    · exact fun c listed => bare_of_numberChar (List.mem_takeWhile_imp listed)
  · rw [if_neg number] at found
    cases found

theorem parseScalar_shorter {input rest : List Char} {v : Json Num}
    (found : parseScalar ofLexeme input = some (v, rest)) : rest.length < input.length := by
  obtain ⟨_, used, something, rfl, _⟩ := parseScalar_used found
  have positive := List.length_pos_iff.mpr something
  rw [List.length_append]
  omega

/-- A parser leaves less than it was given, and needs no more fuel than the
characters it used. -/
def Thrifty {α : Type} (parser : Nat → List Char → Option (α × List Char)) (n : Nat) : Prop :=
  ∀ input a rest, parser n input = some (a, rest) → rest.length < input.length ∧
    ∀ fuel, input.length < fuel + rest.length → parser fuel input = some (a, rest)

theorem succ_of_enough {fuel : Nat} {input rest : List Char} (shorter : rest.length < input.length)
    (enough : input.length < fuel + rest.length) : ∃ n, fuel = n + 1 :=
  ⟨fuel - 1, by omega⟩

theorem thrifty_value {n : Nat} (elements : Thrifty (parseElements ofLexeme) n)
    (members : Thrifty (parseMembers ofLexeme) n) : Thrifty (parseValue ofLexeme) (n + 1) := by
  intro input v rest found
  cases parseValue_iff.mp found with
  | string opens scanned =>
    have outer := length_of_skipBlanks opens
    have inner := scan_shorter scanned
    have shorter : rest.length < input.length := by omega
    refine ⟨shorter, fun fuel enough => ?_⟩
    obtain ⟨m, rfl⟩ := succ_of_enough shorter enough
    exact parseValue_iff.mpr (.string opens scanned)
  | emptyArray opens closes =>
    have outer := length_of_skipBlanks opens
    have inner := length_of_skipBlanks closes
    have shorter : rest.length < input.length := by omega
    refine ⟨shorter, fun fuel enough => ?_⟩
    obtain ⟨m, rfl⟩ := succ_of_enough shorter enough
    exact parseValue_iff.mpr (.emptyArray opens closes)
  | @array inside _ _ opens more all =>
    obtain ⟨inner, again⟩ := elements _ _ _ all
    have outer := length_of_skipBlanks opens
    have blanks := length_skipBlanks inside
    have shorter : rest.length < input.length := by omega
    refine ⟨shorter, fun fuel enough => ?_⟩
    obtain ⟨m, rfl⟩ := succ_of_enough shorter enough
    exact parseValue_iff.mpr (.array opens more (again m (by omega)))
  | emptyObject opens closes =>
    have outer := length_of_skipBlanks opens
    have inner := length_of_skipBlanks closes
    have shorter : rest.length < input.length := by omega
    refine ⟨shorter, fun fuel enough => ?_⟩
    obtain ⟨m, rfl⟩ := succ_of_enough shorter enough
    exact parseValue_iff.mpr (.emptyObject opens closes)
  | @object inside _ _ opens more all =>
    obtain ⟨inner, again⟩ := members _ _ _ all
    have outer := length_of_skipBlanks opens
    have blanks := length_skipBlanks inside
    have shorter : rest.length < input.length := by omega
    refine ⟨shorter, fun fuel enough => ?_⟩
    obtain ⟨m, rfl⟩ := succ_of_enough shorter enough
    exact parseValue_iff.mpr (.object opens more (again m (by omega)))
  | scalar unmarked scalar =>
    have inner := parseScalar_shorter scalar
    have blanks := length_skipBlanks input
    have shorter : rest.length < input.length := by omega
    refine ⟨shorter, fun fuel enough => ?_⟩
    obtain ⟨m, rfl⟩ := succ_of_enough shorter enough
    exact parseValue_iff.mpr (.scalar unmarked scalar)

theorem thrifty_elements {n : Nat} (values : Thrifty (parseValue ofLexeme) n)
    (elements : Thrifty (parseElements ofLexeme) n) :
    Thrifty (parseElements ofLexeme) (n + 1) := by
  intro input vs rest found
  cases parseElements_iff.mp found with
  | last value closes =>
    obtain ⟨first, again⟩ := values _ _ _ value
    have bracket := length_of_skipBlanks closes
    have shorter : rest.length < input.length := by omega
    refine ⟨shorter, fun fuel enough => ?_⟩
    obtain ⟨m, rfl⟩ := succ_of_enough shorter enough
    exact parseElements_iff.mpr (.last (again m (by omega)) closes)
  | more value comma others =>
    obtain ⟨first, again⟩ := values _ _ _ value
    obtain ⟨second, again'⟩ := elements _ _ _ others
    have separator := length_of_skipBlanks comma
    have shorter : rest.length < input.length := by omega
    refine ⟨shorter, fun fuel enough => ?_⟩
    obtain ⟨m, rfl⟩ := succ_of_enough shorter enough
    exact parseElements_iff.mpr (.more (again m (by omega)) comma (again' m (by omega)))

theorem thrifty_members {n : Nat} (values : Thrifty (parseValue ofLexeme) n)
    (members : Thrifty (parseMembers ofLexeme) n) : Thrifty (parseMembers ofLexeme) (n + 1) := by
  intro input ms rest found
  cases parseMembers_iff.mp found with
  | last keyed value closes =>
    obtain ⟨first, again⟩ := values _ _ _ value
    have key := parseKey_shorter keyed
    have bracket := length_of_skipBlanks closes
    have shorter : rest.length < input.length := by omega
    refine ⟨shorter, fun fuel enough => ?_⟩
    obtain ⟨m, rfl⟩ := succ_of_enough shorter enough
    exact parseMembers_iff.mpr (.last keyed (again m (by omega)) closes)
  | more keyed value comma others =>
    obtain ⟨first, again⟩ := values _ _ _ value
    obtain ⟨second, again'⟩ := members _ _ _ others
    have key := parseKey_shorter keyed
    have separator := length_of_skipBlanks comma
    have shorter : rest.length < input.length := by omega
    refine ⟨shorter, fun fuel enough => ?_⟩
    obtain ⟨m, rfl⟩ := succ_of_enough shorter enough
    exact parseMembers_iff.mpr (.more keyed (again m (by omega)) comma (again' m (by omega)))

theorem thrifty (n : Nat) : Thrifty (parseValue ofLexeme) n ∧ Thrifty (parseElements ofLexeme) n ∧
    Thrifty (parseMembers ofLexeme) n := by
  induction n with
  | zero =>
    refine ⟨?_, ?_, ?_⟩ <;> intro input a rest found
    · rw [parseValue] at found
      cases found
    · rw [parseElements] at found
      cases found
    · rw [parseMembers] at found
      cases found
  | succ n ih =>
    obtain ⟨values, elements, members⟩ := ih
    exact ⟨thrifty_value elements members, thrifty_elements values elements,
      thrifty_members values members⟩

/-- What is found with any amount of fuel is found with the fuel that `parse` gives. -/
theorem parse_enough {n : Nat} {text : String} {v : Json Num} {rest : List Char}
    (found : parseValue ofLexeme n text.toList = some (v, rest)) (blank : skipBlanks rest = []) :
    parse ofLexeme text = some v := by
  obtain ⟨_, again⟩ := (thrifty n).1 _ _ _ found
  have here := again (text.length + 1) (by rw [String.length_toList]; omega)
  simp [parse, here, blank]

theorem parse_iff {text : String} {v : Json Num} :
    parse ofLexeme text = some v ↔
      ∃ rest, ReadsValue ofLexeme text.length text.toList v rest ∧ skipBlanks rest = [] := by
  constructor
  · intro found
    unfold parse at found
    split at found
    case h_2 => cases found
    case h_1 w rest here =>
      by_cases blank : skipBlanks rest = []
      · rw [if_pos blank] at found
        obtain rfl := Option.some.inj found
        exact ⟨rest, parseValue_iff.mp here, blank⟩
      · rw [if_neg blank] at found
        cases found
  · rintro ⟨rest, reads, blank⟩
    exact parse_enough (parseValue_iff.mpr reads) blank

/-- A string literal is at least its two quotes longer than what it stands for. -/
theorem length_of_parse_string {text inner : String}
    (found : parse ofLexeme text = some (.string inner)) : inner.length + 2 ≤ text.length := by
  obtain ⟨rest, reads, -⟩ := parse_iff.mp found
  cases reads with
  | string opens scanned =>
    have outer := length_of_skipBlanks opens
    have inside := scan_shorter scanned
    rw [String.length_toList] at outer
    rw [String.length_ofList]
    omega
  | scalar unmarked scalar =>
    obtain ⟨wrong, -⟩ := parseScalar_used scalar
    cases wrong

theorem bare_of_blank {c : Char} (blank : isBlank c = true) : Bare c := by
  constructor
  · rintro rfl
    exact absurd blank (by decide)
  · rintro rfl
    exact absurd blank (by decide)

theorem bare_of_skipBlanks {input : List Char} (rest : ∀ c ∈ skipBlanks input, Bare c) :
    ∀ c ∈ input, Bare c := by
  intro c listed
  rw [← List.takeWhile_append_dropWhile (p := isBlank) (l := input), List.mem_append] at listed
  rcases listed with blank | later
  · exact bare_of_blank (List.mem_takeWhile_imp blank)
  · exact rest c later

/-- The text of a scalar has neither quotes nor backslashes. -/
theorem bare_of_parse_scalar {text : String} {v : Json Num}
    (found : parse ofLexeme text = some v) (scalar : v.isScalar = true) :
    ∀ c ∈ text.toList, Bare c := by
  obtain ⟨rest, reads, blank⟩ := parse_iff.mp found
  cases reads with
  | scalar unmarked read =>
    obtain ⟨-, used, -, split, bare⟩ := parseScalar_used read
    apply bare_of_skipBlanks
    rw [split]
    intro c listed
    rcases List.mem_append.mp listed with early | late
    · exact bare c early
    · refine bare_of_skipBlanks ?_ c late
      rw [blank]
      exact List.forall_mem_nil _
  | _ => cases scalar

/-- Put between quotes, such a text is no literal or the literal of itself. -/
theorem parse_quoted_bare {text : String} (bare : ∀ c ∈ text.toList, Bare c) :
    parse ofLexeme ("\"" ++ text ++ "\"") = none ∨
      parse ofLexeme ("\"" ++ text ++ "\"") = some (.string text) := by
  have list : ("\"" ++ text ++ "\"").toList = '"' :: (text.toList ++ ['"']) := by simp
  have opens : skipBlanks ("\"" ++ text ++ "\"").toList = '"' :: (text.toList ++ ['"']) := by
    rw [list]
    exact skipBlanks_cons _ (by decide)
  rcases scan_bare bare with none_left | all
  · left
    rw [Option.eq_none_iff_forall_not_mem]
    intro v found
    obtain ⟨rest, reads, -⟩ := parse_iff.mp found
    cases reads with
    | string opens' scanned =>
      obtain ⟨-, rfl⟩ := List.cons.inj (opens.symm.trans opens')
      rw [none_left] at scanned
      cases scanned
    | emptyArray opens' => cases opens.symm.trans opens'
    | array opens' => cases opens.symm.trans opens'
    | emptyObject opens' => cases opens.symm.trans opens'
    | object opens' => cases opens.symm.trans opens'
    | scalar unmarked => exact absurd ⟨_, _, opens, Or.inl rfl⟩ unmarked
  · right
    refine parse_iff.mpr ⟨[], ?_, rfl⟩
    have reads : ReadsValue ofLexeme ("\"" ++ text ++ "\"").length
        ("\"" ++ text ++ "\"").toList (.string (.ofList text.toList)) [] := .string opens all
    rwa [String.ofList_toList] at reads

end JsonReading
