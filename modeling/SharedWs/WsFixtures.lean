import Mathlib.Logic.Function.Basic
import SharedWs.JsonNumbers
import SharedWs.JsonObjects
import SharedWs.JsonReading
import SharedWs.WsTypes

/-!
# Websocket fixtures

`WsFixture::read` and `WsFixture::write` of `fixture.rs`. A file is printed by
one JSON library and read by another, and the text of a fixture is unwrapped on
both sides, by two different loops of at most four rounds.

The libraries are `Host`: they accept the same documents, and a printed number
is read back. A `sonic_rs` value is the document as it was written and `get`
takes the first member of a name; a `serde_json` value keeps its objects in a
sorted map, which is `canonical`. The depth up to which either of them nests
values is not modelled.
-/
namespace WsFixtures

open JsonText JsonObjects JsonReading WsFrames WsTypes

/-- What lies outside the crate: the texts of paths and of errors, and numbers. The one `ofLexeme`
reads numbers for both libraries, and neither has a limit on how deep it nests values: where the
two differ in that, the model does not see it. -/
structure Host (Num Path : Type) where
  display : Path → String
  ofLexeme : List Char → Option Num
  serdeLexeme : Num → List Char
  sonicLexeme : Num → List Char
  serdeBack : ReadsBack ofLexeme serdeLexeme
  sonicBack : ReadsBack ofLexeme sonicLexeme
  ofU64 : UInt64 → Num
  asU64 : Num → Option UInt64
  asU64_ofU64 : ∀ n, asU64 (ofU64 n) = some n
  serdeError : String → String
  sonicError : Bytes → String

variable {Num Path : Type}

section Libraries
variable (host : Host Num Path)

/-- `sonic_rs::from_str::<Value>`. -/
def sonicValue (text : String) : Option (Json Num) := parse host.ofLexeme text

/-- `sonic_rs::from_str::<String>`. -/
def sonicString (text : String) : Option String := (sonicValue host text).bind Json.asString

/-- `sonic_rs::from_slice::<Value>`, which wants UTF-8. -/
def sonicSlice (bytes : Bytes) : Except String (Json Num) :=
  match (String.fromUTF8? bytes).bind (sonicValue host) with
  | some root => .ok root
  | none => .error (host.sonicError bytes)

/-- `serde_json::from_str::<Value>`. -/
def serdeValue (text : String) : Except String (Json Num) :=
  match parse host.ofLexeme text with
  | some json => .ok (canonical json)
  | none => .error (host.serdeError text)

/-- `serde_json::to_vec_pretty`. -/
def toVecPretty (json : Json Num) : Bytes := (pretty host.serdeLexeme json).toUTF8

end Libraries

def get (root : Json Num) (key : String) : Option (Json Num) :=
  match root with
  | .object members => members.lookup key
  | _ => none

def asU64 (host : Host Num Path) : Json Num → Option UInt64
  | .number n => host.asU64 n
  | _ => none

/-- `root.get(key).and_then(as_str).unwrap_or(default)`. -/
def getStr (root : Json Num) (key default : String) : String :=
  ((get root key).bind Json.asString).getD default

/-- `root.get(key).and_then(as_u64).unwrap_or(0)`. -/
def getU64 (host : Host Num Path) (root : Json Num) (key : String) : UInt64 :=
  ((get root key).bind (asU64 host)).getD 0

/-- What a path names. A directory is there and cannot be read. -/
inductive Entry where
  | absent (error : String)
  | unreadable (error : String)
  | file (bytes : Bytes)

/-- `std::fs::read`. -/
def Entry.read : Entry → Except String Bytes
  | .absent error => .error error
  | .unreadable error => .error error
  | .file bytes => .ok bytes

/-- `Path::exists`. -/
def Entry.isThere : Entry → Bool
  | .absent _ => false
  | .unreadable _ => true
  | .file _ => true

abbrev FileSystem (Path : Type) := Path → Entry

/-- How `std::fs::write` ends; a failed write may leave anything behind. -/
inductive Storing where
  | stored
  | failed (error : String) (left : Entry)

section Loops
variable (host : Host Num Path)

/-- The loop of `decode_embedded_json_value`, with the rounds left. -/
def decodeRounds : Nat → String → String
  | 0, text => text
  | rounds + 1, text =>
    -- the end of the loop body: one level of escapes without its quotes
    let unescaped :=
      match sonicString host ("\"" ++ text ++ "\"") with
      | none => text
      | some decoded => if decoded = text then text else decodeRounds rounds decoded
    match sonicValue host text with
    | none => unescaped
    | some decoded =>
      if decoded.isContainer then text
      else
        match decoded.asString with
        | some inner => if inner = text then text else decodeRounds rounds inner
        | none => unescaped

def decodeEmbeddedJsonValue (value : Json Num) (path : Path) : Except WebSocketError String :=
  if value.isContainer then .ok (decodeRounds host 4 (compact host.sonicLexeme value))
  else
    match value.asString with
    | some text => .ok (decodeRounds host 4 text)
    | none => .error (.invalidState ("websocket fixture " ++ host.display path ++
        " text must be a JSON string, object, or array"))

/-- The loop of `decode_embedded_json_string`. -/
def peelRounds : Nat → String → String
  | 0, current => current
  | rounds + 1, current =>
    match serdeValue host current with
    | .ok (.string inner) => if inner = current then current else peelRounds rounds inner
    | .ok _ => current
    | .error _ => current

def decodeEmbeddedJsonString (raw : String) : String := peelRounds host 4 raw

def encodeEmbeddedJsonValue (raw : String) : Except String (Json Num) :=
  let normalized := decodeEmbeddedJsonString host raw
  match serdeValue host normalized with
  | .error err => .error err
  | .ok json => if json.isContainer then .ok json else .ok (.string normalized)

end Loops

structure WsFixture where
  source : String
  capturedAtMs : UInt64
  captureCommand : String
  exchangeEnv : String
  text : String
  deriving DecidableEq

namespace WsFixture
variable (host : Host Num Path)

def read (path : Path) (files : FileSystem Path) : Except WebSocketError WsFixture :=
  match (files path).read with
  | .error err => .error (.invalidState
      ("failed to read websocket fixture " ++ host.display path ++ ": " ++ err))
  | .ok bytes =>
    match sonicSlice host bytes with
    | .error err => .error (.parseFailed
        ("failed to parse websocket fixture " ++ host.display path ++ ": " ++ err))
    | .ok root =>
      match get root "text" with
      | none => .error (.invalidState
          ("websocket fixture " ++ host.display path ++ " missing text"))
      | some text => (decodeEmbeddedJsonValue host text path).map fun text =>
          { source := getStr root "source" "unknown"
            capturedAtMs := getU64 host root "captured_at_ms"
            captureCommand := getStr root "capture_command" ""
            exchangeEnv := getStr root "exchange_env" ""
            text := text }

/-- The object that is printed; `json!` sorts its keys, which stand sorted here. -/
def document (f : WsFixture) (text : Json Num) : Json Num :=
  .object [("capture_command", .string f.captureCommand),
    ("captured_at_ms", .number (host.ofU64 f.capturedAtMs)),
    ("exchange_env", .string f.exchangeEnv), ("source", .string f.source), ("text", text)]

def write [DecidableEq Path] (f : WsFixture) (path : Path) (storing : Storing)
    (files : FileSystem Path) : Except WebSocketError Unit × FileSystem Path :=
  match encodeEmbeddedJsonValue host f.text with
  | .error err => (.error (.invalidState err), files)
  | .ok text =>
    match storing with
    | .stored => (.ok (), Function.update files path
        (.file (toVecPretty host (document host f text))))
    | .failed err left => (.error (.invalidState
        ("failed to write websocket fixture " ++ host.display path ++ ": " ++ err)),
        Function.update files path left)

end WsFixture

section Reading
variable (host : Host Num Path)

theorem utf8_decoded (text : String) : String.fromUTF8? text.toUTF8 = some text := by
  simp only [String.fromUTF8?, Option.dite_none_right_eq_some]
  exact ⟨text.isValidUTF8, rfl⟩

theorem sonicSlice_printed (json : Json Num) :
    sonicSlice host (toVecPretty host json) = .ok json := by
  have parsed : sonicValue host (pretty host.serdeLexeme json) = some json :=
    parse_pretty host.serdeBack json
  rw [sonicSlice, toVecPretty, utf8_decoded, Option.bind_some, parsed]

theorem get_found (key : String) (v : Json Num) (rest : List (String × Json Num)) :
    get (.object ((key, v) :: rest)) key = some v := by
  simp [get]

theorem get_beyond {key other : String} (different : key ≠ other) (v : Json Num)
    (rest : List (String × Json Num)) :
    get (.object ((other, v) :: rest)) key = get (.object rest) key := by
  have missed : (key == other) = false := by simp [different]
  simp [get, List.lookup_cons, missed]

section Document
variable (f : WsFixture) (text : Json Num)

theorem document_captureCommand (default : String) :
    getStr (f.document host text) "capture_command" default = f.captureCommand := by
  rw [getStr, WsFixture.document, get_found]
  rfl

theorem document_capturedAtMs :
    getU64 host (f.document host text) "captured_at_ms" = f.capturedAtMs := by
  rw [getU64, WsFixture.document, get_beyond (by decide), get_found]
  simp [asU64, host.asU64_ofU64]

theorem document_exchangeEnv (default : String) :
    getStr (f.document host text) "exchange_env" default = f.exchangeEnv := by
  rw [getStr, WsFixture.document, get_beyond (by decide), get_beyond (by decide), get_found]
  rfl

theorem document_source (default : String) :
    getStr (f.document host text) "source" default = f.source := by
  rw [getStr, WsFixture.document, get_beyond (by decide), get_beyond (by decide),
    get_beyond (by decide), get_found]
  rfl

theorem document_text : get (f.document host text) "text" = some text := by
  rw [WsFixture.document, get_beyond (by decide), get_beyond (by decide),
    get_beyond (by decide), get_beyond (by decide), get_found]

/-- The metadata is read back as it is, whatever stands in the text. -/
theorem read_document {path : Path} {files : FileSystem Path}
    (stored : files path = .file (toVecPretty host (f.document host text))) :
    WsFixture.read host path files =
      (decodeEmbeddedJsonValue host text path).map fun text => { f with text := text } := by
  rw [WsFixture.read, stored, Entry.read]
  simp only [sonicSlice_printed, document_text, document_source, document_capturedAtMs,
    document_captureCommand, document_exchangeEnv]

end Document
end Reading

section Decoding
variable (host : Host Num Path)

theorem decodeRounds_container (rounds : Nat) {text : String} {v : Json Num}
    (parsed : parse host.ofLexeme text = some v) (container : v.isContainer = true) :
    decodeRounds host rounds text = text := by
  cases rounds with
  | zero => rfl
  | succ rounds => simp [decodeRounds, sonicValue, parsed, container]

/-- The text of a scalar has no escapes, so the attempt to undo them changes nothing. -/
theorem decodeRounds_scalar (rounds : Nat) {text : String} {v : Json Num}
    (parsed : parse host.ofLexeme text = some v) (scalar : v.isScalar = true) :
    decodeRounds host rounds text = text := by
  cases rounds with
  | zero => rfl
  | succ rounds =>
    have bare := bare_of_parse_scalar parsed scalar
    have loose : v.isContainer = false ∧ v.asString = none := by
      simpa [Json.isScalar] using scalar
    have quoted : sonicString host ("\"" ++ text ++ "\"") = none ∨
        sonicString host ("\"" ++ text ++ "\"") = some text := by
      rcases @parse_quoted_bare _ host.ofLexeme _ bare with failed | same
      · left
        simp [sonicString, sonicValue, failed]
      · right
        simp [sonicString, sonicValue, same, Json.asString]
    rcases quoted with failed | same
    · simp only [decodeRounds, sonicValue, parsed, loose, failed]
      simp
    · simp only [decodeRounds, sonicValue, parsed, loose, same]
      simp

theorem length_of_sonicString {text inner : String}
    (parsed : sonicString host text = some inner) : inner.length + 2 ≤ text.length := by
  obtain ⟨v, read, string⟩ := Option.bind_eq_some_iff.mp parsed
  obtain rfl := asString_eq_some string
  exact length_of_parse_string read

/-- A round either ends the loop or goes on with a text that is not longer: its
quotes were removed, or those that were put around it. -/
theorem decodeRounds_succ (rounds : Nat) (text : String) :
    decodeRounds host (rounds + 1) text = text ∨
      ∃ inner, inner.length ≤ text.length ∧
        decodeRounds host (rounds + 1) text = decodeRounds host rounds inner := by
  have unescapes : ∀ decoded, sonicString host ("\"" ++ text ++ "\"") = some decoded →
      decoded.length ≤ text.length := by
    intro decoded found
    have shorter := length_of_sonicString host found
    have quote : "\"".length = 1 := rfl
    simp only [String.length_append, quote] at shorter
    omega
  have unwraps : ∀ decoded inner, sonicValue host text = some decoded →
      decoded.asString = some inner → inner.length ≤ text.length := by
    intro decoded inner found string
    obtain rfl := asString_eq_some string
    have shorter := length_of_parse_string found
    omega
  have unescaped : ∀ {result : String},
      result = (match sonicString host ("\"" ++ text ++ "\"") with
        | none => text
        | some decoded => if decoded = text then text else decodeRounds host rounds decoded) →
      result = text ∨ ∃ inner, inner.length ≤ text.length ∧
        result = decodeRounds host rounds inner := by
    intro result same
    split at same
    · exact Or.inl same
    · next decoded found =>
      split at same
      · exact Or.inl same
      · exact Or.inr ⟨decoded, unescapes decoded found, same⟩
  rw [decodeRounds]
  split
  · exact unescaped rfl
  · next decoded parsed =>
    split
    · exact Or.inl rfl
    · split
      · next inner string =>
        split
        · exact Or.inl rfl
        · exact Or.inr ⟨inner, unwraps decoded inner parsed string, rfl⟩
      · exact unescaped rfl

theorem length_decodeRounds (rounds : Nat) (text : String) :
    (decodeRounds host rounds text).length ≤ text.length := by
  induction rounds generalizing text with
  | zero => exact Nat.le_refl _
  | succ rounds ih =>
    rcases decodeRounds_succ host rounds text with ended | ⟨inner, shorter, goes⟩
    · rw [ended]
    · rw [goes]
      exact (ih inner).trans shorter

theorem decode_container {value : Json Num} (container : value.isContainer = true)
    (path : Path) : decodeEmbeddedJsonValue host value path =
      .ok (compact host.sonicLexeme value) := by
  have parsed := parse_compact host.sonicBack value
  rw [decodeEmbeddedJsonValue, if_pos container, decodeRounds_container host 4 parsed container]

end Decoding

section Encoding

/-- The second text is what is left of the first without so many layers of string
encoding. -/
inductive Peels (ofLexeme : List Char → Option Num) : Nat → String → String → Prop
  | none (text : String) : Peels ofLexeme 0 text text
  | layer {layers : Nat} {text inner core : String}
      (string : parse ofLexeme text = some (.string inner))
      (inside : Peels ofLexeme layers inner core) : Peels ofLexeme (layers + 1) text core

variable (host : Host Num Path)

theorem serdeValue_parsed {text : String} {v : Json Num}
    (parsed : parse host.ofLexeme text = some v) : serdeValue host text = .ok (canonical v) := by
  rw [serdeValue, parsed]

theorem peelRounds_string (rounds : Nat) {text inner : String}
    (parsed : parse host.ofLexeme text = some (.string inner)) :
    peelRounds host (rounds + 1) text = peelRounds host rounds inner := by
  have shorter := length_of_parse_string parsed
  have changed : inner ≠ text := by
    rintro rfl
    omega
  simp [peelRounds, serdeValue_parsed host parsed, canonical, changed]

theorem peelRounds_plain (rounds : Nat) {text : String} {v : Json Num}
    (parsed : parse host.ofLexeme text = some v) (plain : v.asString = none) :
    peelRounds host rounds text = text := by
  cases rounds with
  | zero => rfl
  | succ rounds =>
    rw [peelRounds, serdeValue_parsed host parsed]
    cases v <;> first | rfl | cases plain

theorem peelRounds_refused (rounds : Nat) {text : String}
    (refused : parse host.ofLexeme text = none) : peelRounds host rounds text = text := by
  cases rounds with
  | zero => rfl
  | succ rounds => simp [peelRounds, serdeValue, refused]

/-- Every layer is removed when there are not more than rounds. -/
theorem peelRounds_of_peels {rounds layers : Nat} {text core : String} {v : Json Num}
    (few : layers ≤ rounds) (peeled : Peels host.ofLexeme layers text core)
    (parsed : parse host.ofLexeme core = some v) (plain : v.asString = none) :
    peelRounds host rounds text = core := by
  induction peeled generalizing rounds with
  | none text => exact peelRounds_plain host rounds parsed plain
  | layer string inside ih =>
    cases rounds with
    | zero => omega
    | succ rounds =>
      rw [peelRounds_string host rounds string]
      exact ih (by omega) parsed

theorem length_peelRounds (rounds : Nat) (text : String) :
    (peelRounds host rounds text).length ≤ text.length := by
  induction rounds generalizing text with
  | zero => exact Nat.le_refl _
  | succ rounds ih =>
    cases parsed : parse host.ofLexeme text with
    | none => rw [peelRounds_refused host (rounds + 1) parsed]
    | some v =>
      cases string : v.asString with
      | none => rw [peelRounds_plain host (rounds + 1) parsed string]
      | some inner =>
        obtain rfl := asString_eq_some string
        have shorter := length_of_parse_string parsed
        have rest := ih inner
        rw [peelRounds_string host rounds parsed]
        omega

/-- When nothing was removed, there was no layer to remove. -/
theorem peelRounds_whole {rounds : Nat} {text : String} {v : Json Num}
    (whole : text.length ≤ (peelRounds host (rounds + 1) text).length)
    (parsed : parse host.ofLexeme (peelRounds host (rounds + 1) text) = some v) :
    parse host.ofLexeme text = some v ∧ v.asString = none := by
  cases outer : parse host.ofLexeme text with
  | none =>
    rw [peelRounds_refused host (rounds + 1) outer, outer] at parsed
    cases parsed
  | some w =>
    cases string : w.asString with
    | none =>
      rw [peelRounds_plain host (rounds + 1) outer string, outer] at parsed
      cases parsed
      exact ⟨rfl, string⟩
    | some inner =>
      obtain rfl := asString_eq_some string
      have shorter := length_of_parse_string outer
      have rest := length_peelRounds host rounds inner
      rw [peelRounds_string host rounds outer] at whole
      omega

theorem encode_container {raw : String} {v : Json Num}
    (parsed : parse host.ofLexeme (decodeEmbeddedJsonString host raw) = some v)
    (container : v.isContainer = true) : encodeEmbeddedJsonValue host raw = .ok (canonical v) := by
  have kept : (canonical v).isContainer = true := (isContainer_canonical v).trans container
  simp [encodeEmbeddedJsonValue, serdeValue_parsed host parsed, kept]

theorem encode_plain {raw : String} {v : Json Num}
    (parsed : parse host.ofLexeme (decodeEmbeddedJsonString host raw) = some v)
    (plain : v.isContainer = false) :
    encodeEmbeddedJsonValue host raw = .ok (.string (decodeEmbeddedJsonString host raw)) := by
  have kept : (canonical v).isContainer = false := (isContainer_canonical v).trans plain
  simp [encodeEmbeddedJsonValue, serdeValue_parsed host parsed, kept]

theorem encode_refused {raw : String}
    (refused : parse host.ofLexeme (decodeEmbeddedJsonString host raw) = none) :
    encodeEmbeddedJsonValue host raw =
      .error (host.serdeError (decodeEmbeddedJsonString host raw)) := by
  simp [encodeEmbeddedJsonValue, serdeValue, refused]

end Encoding

section RoundTrip
variable [DecidableEq Path] (host : Host Num Path)

/-- Written to a path and read from there, a fixture comes back as the second one. -/
def ComesBack (path : Path) (files : FileSystem Path) (f f' : WsFixture) : Prop :=
  ∃ after, f.write host path .stored files = (.ok (), after) ∧
    WsFixture.read host path after = .ok f'

variable {host} {path : Path} {files : FileSystem Path} {f f' : WsFixture}

/-- A write that returns without an error has stored the document. -/
theorem write_eq_ok {storing : Storing} {after : FileSystem Path} :
    f.write host path storing files = (.ok (), after) ↔
      ∃ text, encodeEmbeddedJsonValue host f.text = .ok text ∧ storing = .stored ∧
        after = Function.update files path
          (.file (toVecPretty host (f.document host text))) := by
  cases encoded : encodeEmbeddedJsonValue host f.text with
  | error err => simp [WsFixture.write, encoded]
  | ok text =>
    cases storing with
    | stored => simp [WsFixture.write, encoded, eq_comm]
    | failed err left => simp [WsFixture.write, encoded]

theorem comesBack_iff {text : Json Num} (encoded : encodeEmbeddedJsonValue host f.text = .ok text) :
    ComesBack host path files f f' ↔
      ∃ decoded, decodeEmbeddedJsonValue host text path = .ok decoded ∧
        { f with text := decoded } = f' := by
  have read := read_document host f text
    (Function.update_self path (.file (toVecPretty host (f.document host text))) files)
  constructor
  · rintro ⟨after, written, found⟩
    obtain ⟨text', encoded', -, rfl⟩ := write_eq_ok.mp written
    cases encoded.symm.trans encoded'
    rw [read] at found
    cases decoded : decodeEmbeddedJsonValue host text path with
    | error err => simp [decoded, Except.map] at found
    | ok value => exact ⟨value, rfl, by simpa [decoded, Except.map] using found⟩
  · rintro ⟨decoded, same, rfl⟩
    refine ⟨_, write_eq_ok.mpr ⟨text, encoded, rfl, rfl⟩, ?_⟩
    rw [read, same]
    rfl

theorem comesBack_container {v : Json Num}
    (parsed : parse host.ofLexeme (decodeEmbeddedJsonString host f.text) = some v)
    (container : v.isContainer = true) :
    ComesBack host path files f f' ↔
      { f with text := compact host.sonicLexeme (canonical v) } = f' := by
  have kept : (canonical v).isContainer = true := (isContainer_canonical v).trans container
  rw [comesBack_iff (encode_container host parsed container), decode_container host kept]
  simp

theorem comesBack_plain {v : Json Num}
    (parsed : parse host.ofLexeme (decodeEmbeddedJsonString host f.text) = some v)
    (plain : v.isContainer = false) :
    ComesBack host path files f f' ↔
      { f with text := decodeRounds host 4 (decodeEmbeddedJsonString host f.text) } = f' := by
  rw [comesBack_iff (encode_plain host parsed plain)]
  simp [decodeEmbeddedJsonValue, Json.isContainer, Json.asString]

theorem not_comesBack_refused
    (refused : parse host.ofLexeme (decodeEmbeddedJsonString host f.text) = none) :
    ¬ ComesBack host path files f f' := by
  rintro ⟨after, written, -⟩
  obtain ⟨text, encoded, -, -⟩ := write_eq_ok.mp written
  cases (encode_refused host refused).symm.trans encoded

variable (host) in
/-- The texts of scalars, and the texts of objects and arrays as they are printed: in
one line, with the keys in order and each of them once. -/
def InNormalForm (text : String) : Prop :=
  ∃ v, parse host.ofLexeme text = some v ∧
    (v.isScalar = true ∨
      v.isContainer = true ∧ text = compact host.sonicLexeme (canonical v))

theorem comesBack_normal (normal : InNormalForm host f.text) : ComesBack host path files f f := by
  obtain ⟨v, parsed, scalar | ⟨container, printed⟩⟩ := normal
  · have loose : v.isContainer = false ∧ v.asString = none := by
      simpa [Json.isScalar] using scalar
    have whole : decodeEmbeddedJsonString host f.text = f.text :=
      peelRounds_plain host 4 parsed loose.2
    rw [comesBack_plain (whole.symm ▸ parsed) loose.1, whole,
      decodeRounds_scalar host 4 parsed scalar]
  · have whole : decodeEmbeddedJsonString host f.text = f.text :=
      peelRounds_plain host 4 parsed (asString_of_container container)
    rw [comesBack_container (whole.symm ▸ parsed) container, ← printed]

/-- A text that is JSON under its layers comes back in normal form, with its value. -/
theorem comesBack_peeled {core : String} {v : Json Num}
    (peeled : decodeEmbeddedJsonString host f.text = core)
    (parsed : parse host.ofLexeme core = some v) (plain : v.asString = none) :
    ∃ text v', ComesBack host path files f { f with text := text } ∧
      parse host.ofLexeme text = some v' ∧ Same v' v ∧ InNormalForm host text := by
  subst peeled
  by_cases container : v.isContainer = true
  · have kept : (canonical v).isContainer = true := (isContainer_canonical v).trans container
    have back := parse_compact host.sonicBack (canonical v)
    refine ⟨compact host.sonicLexeme (canonical v), canonical v,
      (comesBack_container parsed container).mpr rfl, back, same_canonical v, canonical v, back,
      Or.inr ⟨kept, ?_⟩⟩
    rw [canonical_idem]
  · have loose : v.isContainer = false := by simpa using container
    have scalar : v.isScalar = true := by simp [Json.isScalar, loose, plain]
    have same : Same v v := by
      simpa [canonical_of_not_container loose] using same_canonical v
    refine ⟨_, v, (comesBack_plain parsed loose).mpr rfl, ?_, same, v, ?_, Or.inl scalar⟩
    · rw [decodeRounds_scalar host 4 parsed scalar]
      exact parsed
    · rw [decodeRounds_scalar host 4 parsed scalar]
      exact parsed

variable (host) (path files f)

/-- A text that is JSON under at most four layers of string encoding. It comes back
with the same metadata and the same value, and from then on unchanged. -/
theorem fixture_round_trip {layers : Nat} {core : String} {v : Json Num} (few : layers ≤ 4)
    (peeled : Peels host.ofLexeme layers f.text core)
    (parsed : parse host.ofLexeme core = some v) (plain : v.asString = none) :
    ∃ text v', ComesBack host path files f { f with text := text } ∧
      parse host.ofLexeme text = some v' ∧ Same v' v ∧
      ∀ path' files',
        ComesBack host path' files' { f with text := text } { f with text := text } := by
  have core' : decodeEmbeddedJsonString host f.text = core :=
    peelRounds_of_peels host few peeled parsed plain
  obtain ⟨text, v', back, parsed', same, normal⟩ := comesBack_peeled core' parsed plain
  exact ⟨text, v', back, parsed', same, fun path' files' => comesBack_normal normal⟩

/-- Libraries that keep numbers as they are written, with paths as texts. -/
def plainHost : Host JsonNumbers.Lexeme String where
  display path := path
  ofLexeme := JsonNumbers.ofLexeme
  serdeLexeme n := n.val
  sonicLexeme n := n.val
  serdeBack := JsonNumbers.readsBack
  sonicBack := JsonNumbers.readsBack
  ofU64 := JsonNumbers.ofU64
  asU64 := JsonNumbers.asU64
  asU64_ofU64 := JsonNumbers.asU64_ofU64
  serdeError _ := "expected value at line 1 column 1"
  sonicError _ := "invalid JSON"

/-- An object with its keys out of order, encoded as a string. -/
def wrapped : WsFixture where
  source := "live_capture"
  capturedAtMs := 1
  captureCommand := "capture"
  exchangeEnv := "deribit_testnet"
  text := compact plainHost.sonicLexeme (.string (compact plainHost.sonicLexeme
    (.object [("method", .string "public/test"), ("id", .null)])))

theorem wrapped_round_trip :
    ∃ text v', ComesBack plainHost "object.json" (fun _ => .absent "not found") wrapped
        { wrapped with text := text } ∧
      parse plainHost.ofLexeme text = some v' ∧
      Same v' (.object [("method", .string "public/test"), ("id", .null)]) ∧
      ∀ path files, ComesBack plainHost path files { wrapped with text := text }
        { wrapped with text := text } :=
  fixture_round_trip plainHost "object.json" (fun _ => .absent "not found") wrapped
    (by decide : 1 ≤ 4) (.layer (parse_compact plainHost.sonicBack _) (.none _))
    (parse_compact plainHost.sonicBack _) rfl

/-- A fixture comes back unchanged exactly when its text is in normal form. -/
theorem comes_back_unchanged_iff :
    ComesBack host path files f f ↔ InNormalForm host f.text := by
  constructor
  · intro back
    cases parsed : parse host.ofLexeme (decodeEmbeddedJsonString host f.text) with
    | none => exact absurd back (not_comesBack_refused parsed)
    | some v =>
      by_cases container : v.isContainer = true
      · have printed : compact host.sonicLexeme (canonical v) = f.text :=
          congrArg WsFixture.text ((comesBack_container parsed container).mp back)
        have kept : (canonical v).isContainer = true :=
          (isContainer_canonical v).trans container
        refine ⟨canonical v, ?_, Or.inr ⟨kept, ?_⟩⟩
        · rw [← printed]
          exact parse_compact host.sonicBack (canonical v)
        · rw [canonical_idem, printed]
      · have loose : v.isContainer = false := by simpa using container
        have decoded : decodeRounds host 4 (decodeEmbeddedJsonString host f.text) = f.text :=
          congrArg WsFixture.text ((comesBack_plain parsed loose).mp back)
        -- a layer removed by the writer is never put back by the reader
        have length := length_decodeRounds host 4 (decodeEmbeddedJsonString host f.text)
        rw [decoded] at length
        obtain ⟨whole, plain⟩ := peelRounds_whole host length parsed
        exact ⟨v, whole, Or.inl (by simp [Json.isScalar, loose, plain])⟩
  · exact comesBack_normal

/-- A file whose text is a plain frame. -/
def plainFile : FileSystem String := fun _ => .file "\x7b\"text\":\"hello\"\x7d".toUTF8

def plainFixture : WsFixture where
  source := "unknown"
  capturedAtMs := 0
  captureCommand := ""
  exchangeEnv := ""
  text := "hello"

/-- It is read and cannot be written, however the system answers. -/
theorem plain_frame_unwritable :
    WsFixture.read plainHost "frame.json" plainFile = .ok plainFixture ∧
      ∀ storing, (plainFixture.write plainHost "frame.json" storing plainFile).1 =
        .error (.invalidState "expected value at line 1 column 1") := by
  constructor
  · decide +kernel
  · intro storing
    have refused : parse plainHost.ofLexeme
        (decodeEmbeddedJsonString plainHost plainFixture.text) = none := by
      have whole : parse plainHost.ofLexeme plainFixture.text = none := by decide +kernel
      rw [decodeEmbeddedJsonString, peelRounds_refused plainHost 4 whole]
      exact whole
    rw [WsFixture.write, encode_refused plainHost refused]
    rfl

end RoundTrip
end WsFixtures
