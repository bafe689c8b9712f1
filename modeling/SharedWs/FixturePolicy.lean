import SharedWs.WsFixtures

/-!
# The gate before a live websocket

`fixture_policy.rs`: which contracts must have fixtures, and the check that the
files are there and carry the provenance of a live capture. The same loop stands
in `ensure_live_ws_allowed`, over the registered contracts, and in
`validate_required_ws_contracts`, over those it is given.

The file system does not change while a check runs. A value of the environment
is `none` when the variable is unset or is not Unicode.
-/
namespace FixturePolicy

open JsonText WsTypes WsFixtures

variable {Num Path : Type}

abbrev Env := String → Option String

def sharedWsFixtureCaptureModeEnv : String := "SHARED_WS_FIXTURE_CAPTURE_MODE"

def sharedWsAllowLiveWithoutFixturesEnv : String := "SHARED_WS_ALLOW_LIVE_WITHOUT_FIXTURES"

structure WsFixtureRequirement (Path : Type) where
  contractId : String
  successPath : Path
  errorPath : Option Path

structure WsFixtureRegistry (Path : Type) where
  requirements : List (WsFixtureRequirement Path)

def registerRequiredWsContracts (requirements : List (WsFixtureRequirement Path))
    (guard : WsFixtureRegistry Path) : WsFixtureRegistry Path :=
  { guard with requirements := requirements }

/-- The property `White_Space` of Unicode, which `str::trim` goes by. -/
def isWhitespace (c : Char) : Bool :=
  (0x9 ≤ c.toNat && c.toNat ≤ 0xD) || c.toNat == 0x20 || c.toNat == 0x85 || c.toNat == 0xA0 ||
    c.toNat == 0x1680 || (0x2000 ≤ c.toNat && c.toNat ≤ 0x200A) || c.toNat == 0x2028 ||
    c.toNat == 0x2029 || c.toNat == 0x202F || c.toNat == 0x205F || c.toNat == 0x3000

def trim (s : String) : String :=
  .ofList ((s.toList.dropWhile isWhitespace).reverse.dropWhile isWhitespace).reverse

def envTruthy (env : Env) (name : String) : Bool :=
  match env name with
  | some raw => ["1", "true", "TRUE", "yes", "YES"].contains (trim raw)
  | none => false

def fixtureCaptureModeEnabled (env : Env) : Bool :=
  envTruthy env sharedWsFixtureCaptureModeEnv

def liveWithoutFixturesAllowed (env : Env) : Bool :=
  envTruthy env sharedWsAllowLiveWithoutFixturesEnv

section Gate
variable (host : Host Num Path)

def ensureLiveCaptureFixture (path : Path) (files : FileSystem Path) :
    Except WebSocketError Unit :=
  match (files path).read with
  | .error err => .error (.invalidState
      ("live websocket blocked: failed to read fixture " ++ host.display path ++ ": " ++ err))
  | .ok bytes =>
    match sonicSlice host bytes with
    | .error err => .error (.invalidState
        ("live websocket blocked: failed to parse fixture " ++ host.display path ++ ": " ++ err))
    | .ok root =>
      if getStr root "source" "" ≠ "live_capture" ∨ getU64 host root "captured_at_ms" = 0 ∨
          (trim (getStr root "capture_command" "")).isEmpty ∨
          (trim (getStr root "exchange_env" "")).isEmpty then
        .error (.invalidState ("live websocket blocked: fixture " ++ host.display path ++
          " is not compliant live-capture provenance"))
      else .ok ()

/-- The body of the loop over the requirements. -/
def checkRequirement (context : String) (files : FileSystem Path)
    (item : WsFixtureRequirement Path) : Except WebSocketError Unit :=
  let successExists := (files item.successPath).isThere
  let errorExists := (item.errorPath.map fun path => (files path).isThere).getD true
  if !(successExists && errorExists) then
    .error (.invalidState (context ++ ": missing fixture files for contract=" ++
      item.contractId ++ " success=" ++ host.display item.successPath ++ " error=" ++
      (item.errorPath.map host.display).getD "<not-required>"))
  else do
    ensureLiveCaptureFixture host item.successPath files
    match item.errorPath with
    | some errorPath => ensureLiveCaptureFixture host errorPath files
    | none => pure ()

def checkRequirements (context : String) (files : FileSystem Path) :
    List (WsFixtureRequirement Path) → Except WebSocketError Unit
  | [] => .ok ()
  | item :: rest => do
    checkRequirement host context files item
    checkRequirements context files rest

def ensureLiveWsAllowed (env : Env) (files : FileSystem Path) (guard : WsFixtureRegistry Path) :
    Except WebSocketError Unit :=
  if fixtureCaptureModeEnabled env || liveWithoutFixturesAllowed env then .ok ()
  else if guard.requirements.isEmpty then
    .error (.invalidState "live websocket blocked: no required fixture contracts registered")
  else checkRequirements host "live websocket blocked" files guard.requirements

def validateRequiredWsContracts (files : FileSystem Path)
    (requirements : List (WsFixtureRequirement Path)) : Except WebSocketError Unit :=
  if requirements.isEmpty then
    .error (.invalidState
      "required websocket fixture validation failed: no fixture contracts registered")
  else
    checkRequirements host "required websocket fixture validation failed" files requirements

end Gate

/-- Some character is not white space. -/
def NonBlank (s : String) : Prop := ∃ c ∈ s.toList, isWhitespace c = false

/-- The provenance that a document of a live capture carries. -/
structure LiveProvenance (host : Host Num Path) (root : Json Num) : Prop where
  source : get root "source" = some (.string "live_capture")
  capturedAtMs : ∃ n, (get root "captured_at_ms").bind (asU64 host) = some n ∧ n ≠ 0
  captureCommand : ∃ s, get root "capture_command" = some (.string s) ∧ NonBlank s
  exchangeEnv : ∃ s, get root "exchange_env" = some (.string s) ∧ NonBlank s

/-- A readable file that parses as JSON and carries that provenance. -/
def LiveCapture (host : Host Num Path) (entry : Entry) : Prop :=
  ∃ bytes root, entry = .file bytes ∧ sonicSlice host bytes = .ok root ∧ LiveProvenance host root

/-- Every file that a requirement names is a live capture. -/
structure Compliant (host : Host Num Path) (files : FileSystem Path)
    (item : WsFixtureRequirement Path) : Prop where
  success : LiveCapture host (files item.successPath)
  error : ∀ path, item.errorPath = some path → LiveCapture host (files path)

theorem trim_isEmpty (s : String) : (trim s).isEmpty = true ↔ ¬ NonBlank s := by
  have inner : (∀ c ∈ s.toList.dropWhile isWhitespace, isWhitespace c = true) ↔
      ∀ c ∈ s.toList, isWhitespace c = true := by
    constructor
    · intro blank c member
      rw [← @List.takeWhile_append_dropWhile _ isWhitespace s.toList] at member
      rcases List.mem_append.mp member with before | after
      · exact List.mem_takeWhile_imp before
      · exact blank c after
    · intro blank c member
      exact blank c ((List.dropWhile_sublist isWhitespace).subset member)
  have empty : (trim s).isEmpty = true ↔
      ∀ c ∈ s.toList.dropWhile isWhitespace, isWhitespace c = true := by
    simp [trim, String.isEmpty_iff, List.dropWhile_eq_nil_iff]
  rw [empty, inner]
  simp [NonBlank]

theorem not_nonBlank_empty : ¬ NonBlank "" := by
  rintro ⟨c, member, -⟩
  simp at member

section Fields
variable (root : Json Num) (key : String)

theorem getStr_eq_iff {s : String} (found : s ≠ "") :
    getStr root key "" = s ↔ get root key = some (.string s) := by
  constructor
  · intro same
    cases member : get root key with
    | none => simp [getStr, member, found.symm] at same
    | some v =>
      cases string : v.asString with
      | none => simp [getStr, member, string, found.symm] at same
      | some inner =>
        have : inner = s := by simpa [getStr, member, string] using same
        rw [asString_eq_some string, this]
  · intro member
    simp [getStr, member, Json.asString]

theorem nonBlank_getStr_iff :
    NonBlank (getStr root key "") ↔ ∃ s, get root key = some (.string s) ∧ NonBlank s := by
  constructor
  · intro blank
    have found : getStr root key "" ≠ "" := by
      intro empty
      rw [empty] at blank
      exact not_nonBlank_empty blank
    exact ⟨_, (getStr_eq_iff root key found).mp rfl, blank⟩
  · rintro ⟨s, member, blank⟩
    simpa [getStr, member, Json.asString] using blank

theorem getU64_ne_zero_iff (host : Host Num Path) :
    getU64 host root key ≠ 0 ↔ ∃ n, (get root key).bind (asU64 host) = some n ∧ n ≠ 0 := by
  rw [getU64]
  cases (get root key).bind (asU64 host) with
  | none => simp
  | some n => simp

end Fields

section Checks
variable (host : Host Num Path)

/-- The four conditions as the check makes them, on the fields with their defaults. -/
theorem liveProvenance_iff (root : Json Num) :
    LiveProvenance host root ↔
      getStr root "source" "" = "live_capture" ∧ getU64 host root "captured_at_ms" ≠ 0 ∧
        NonBlank (getStr root "capture_command" "") ∧
        NonBlank (getStr root "exchange_env" "") := by
  rw [getStr_eq_iff root "source" (by decide), getU64_ne_zero_iff, nonBlank_getStr_iff,
    nonBlank_getStr_iff]
  constructor
  · rintro ⟨source, capturedAtMs, captureCommand, exchangeEnv⟩
    exact ⟨source, capturedAtMs, captureCommand, exchangeEnv⟩
  · rintro ⟨source, capturedAtMs, captureCommand, exchangeEnv⟩
    exact ⟨source, capturedAtMs, captureCommand, exchangeEnv⟩

theorem ensureLiveCaptureFixture_eq_ok (path : Path) (files : FileSystem Path) :
    ensureLiveCaptureFixture host path files = .ok () ↔ LiveCapture host (files path) := by
  rw [ensureLiveCaptureFixture]
  cases entry : files path with
  | absent err => simp [Entry.read, LiveCapture]
  | unreadable err => simp [Entry.read, LiveCapture]
  | file bytes =>
    cases parsed : sonicSlice host bytes with
    | error err => simp [Entry.read, LiveCapture, parsed]
    | ok root =>
      have one : LiveCapture host (.file bytes) ↔ LiveProvenance host root := by
        constructor
        · rintro ⟨bytes', root', same, parsed', live⟩
          cases same
          cases parsed.symm.trans parsed'
          exact live
        · intro live
          exact ⟨bytes, root, rfl, parsed, live⟩
      rw [one, liveProvenance_iff]
      simp only [Entry.read, parsed, trim_isEmpty, ne_eq, ite_eq_right_iff, reduceCtorEq,
        imp_false, not_or, not_not]

theorem isThere_of_live {entry : Entry} (live : LiveCapture host entry) : entry.isThere = true := by
  obtain ⟨bytes, root, rfl, -⟩ := live
  rfl

/-- The test for missing files refuses nothing that the rest would let pass. -/
theorem exists_of_compliant {files : FileSystem Path} {item : WsFixtureRequirement Path}
    (compliant : Compliant host files item) :
    ((files item.successPath).isThere &&
      (item.errorPath.map fun path => (files path).isThere).getD true) = true := by
  have success := isThere_of_live host compliant.success
  cases error : item.errorPath with
  | none => simp [success]
  | some path => simp [success, isThere_of_live host (compliant.error path error)]

theorem bind_eq_ok {first rest : Except WebSocketError Unit} :
    (first >>= fun _ => rest) = .ok () ↔ first = .ok () ∧ rest = .ok () := by
  cases first <;> simp [bind, Except.bind]

theorem checkRequirement_eq_ok (context : String) (files : FileSystem Path)
    (item : WsFixtureRequirement Path) :
    checkRequirement host context files item = .ok () ↔ Compliant host files item := by
  by_cases there : ((files item.successPath).isThere &&
      (item.errorPath.map fun path => (files path).isThere).getD true) = true
  · simp only [checkRequirement, there, Bool.not_true, Bool.false_eq_true, if_false, bind_eq_ok,
      ensureLiveCaptureFixture_eq_ok]
    constructor
    · rintro ⟨success, error⟩
      refine ⟨success, ?_⟩
      intro path named
      simpa [named, ensureLiveCaptureFixture_eq_ok] using error
    · intro compliant
      refine ⟨compliant.success, ?_⟩
      cases named : item.errorPath with
      | none => rfl
      | some path =>
        have error := compliant.error path named
        exact (ensureLiveCaptureFixture_eq_ok host path files).mpr error
  · constructor
    · intro passed
      simp [checkRequirement, there] at passed
    · intro compliant
      exact absurd (exists_of_compliant host compliant) there

theorem checkRequirements_eq_ok (context : String) (files : FileSystem Path)
    (requirements : List (WsFixtureRequirement Path)) :
    checkRequirements host context files requirements = .ok () ↔
      ∀ item ∈ requirements, Compliant host files item := by
  induction requirements with
  | nil => simp [checkRequirements]
  | cons item rest ih =>
    rw [checkRequirements, List.forall_mem_cons, ← checkRequirement_eq_ok host context, ← ih]
    exact bind_eq_ok

end Checks

section Live
variable (host : Host Num Path) (files : FileSystem Path)

theorem validateRequiredWsContracts_eq_ok (requirements : List (WsFixtureRequirement Path)) :
    validateRequiredWsContracts host files requirements = .ok () ↔
      requirements ≠ [] ∧ ∀ item ∈ requirements, Compliant host files item := by
  cases requirements with
  | nil => simp [validateRequiredWsContracts]
  | cons item rest => simp [validateRequiredWsContracts, checkRequirements_eq_ok]

theorem ensureLiveWsAllowed_eq_ok (env : Env) (guard : WsFixtureRegistry Path) :
    ensureLiveWsAllowed host env files guard = .ok () ↔
      fixtureCaptureModeEnabled env = true ∨ liveWithoutFixturesAllowed env = true ∨
        guard.requirements ≠ [] ∧ ∀ item ∈ guard.requirements, Compliant host files item := by
  by_cases overridden : (fixtureCaptureModeEnabled env || liveWithoutFixturesAllowed env) = true
  · have either := Bool.or_eq_true_iff.mp overridden
    simp only [ensureLiveWsAllowed, overridden, if_true, true_iff]
    exact either.imp_right Or.inl
  · have neither : fixtureCaptureModeEnabled env = false ∧
        liveWithoutFixturesAllowed env = false := by simpa using overridden
    cases registered : guard.requirements with
    | nil => simp [ensureLiveWsAllowed, neither, registered]
    | cons item rest =>
      simp [ensureLiveWsAllowed, neither, registered, checkRequirements_eq_ok]

variable [DecidableEq Path]

/-- A written file passes by the four fields of the fixture alone. -/
theorem written_liveCapture_iff {f : WsFixture} {path : Path} {storing : Storing}
    {after : FileSystem Path} (written : f.write host path storing files = (.ok (), after)) :
    LiveCapture host (after path) ↔
      f.source = "live_capture" ∧ f.capturedAtMs ≠ 0 ∧ NonBlank f.captureCommand ∧
        NonBlank f.exchangeEnv := by
  obtain ⟨text, -, -, rfl⟩ := write_eq_ok.mp written
  have provenance := liveProvenance_iff host (f.document host text)
  rw [document_source, document_capturedAtMs, document_captureCommand,
    document_exchangeEnv] at provenance
  rw [← provenance, Function.update_self]
  constructor
  · rintro ⟨bytes, root, same, parsed, live⟩
    cases same
    cases (sonicSlice_printed host (f.document host text)).symm.trans parsed
    exact live
  · intro live
    exact ⟨_, _, rfl, sonicSlice_printed host _, live⟩

/-- The gate without its overrides: what it accepts, that the validation of the same
list accepts the same, and when a written fixture passes. -/
theorem live_gate (env : Env) (guard : WsFixtureRegistry Path)
    (requirements : List (WsFixtureRequirement Path))
    (capture : env sharedWsFixtureCaptureModeEnv = none)
    (allowed : env sharedWsAllowLiveWithoutFixturesEnv = none) :
    (ensureLiveWsAllowed host env files (registerRequiredWsContracts requirements guard) = .ok () ↔
      requirements ≠ [] ∧ ∀ item ∈ requirements, Compliant host files item) ∧
    (ensureLiveWsAllowed host env files (registerRequiredWsContracts requirements guard) = .ok () ↔
      validateRequiredWsContracts host files requirements = .ok ()) ∧
    ∀ (f : WsFixture) (path : Path) (storing : Storing) (before after : FileSystem Path),
      f.write host path storing before = (.ok (), after) →
        (ensureLiveCaptureFixture host path after = .ok () ↔
          f.source = "live_capture" ∧ f.capturedAtMs ≠ 0 ∧ NonBlank f.captureCommand ∧
            NonBlank f.exchangeEnv) := by
  have capturing : fixtureCaptureModeEnabled env = false := by
    simp [fixtureCaptureModeEnabled, envTruthy, capture]
  have allowing : liveWithoutFixturesAllowed env = false := by
    simp [liveWithoutFixturesAllowed, envTruthy, allowed]
  have gate := ensureLiveWsAllowed_eq_ok host files env
    (registerRequiredWsContracts requirements guard)
  simp only [capturing, allowing, Bool.false_eq_true, false_or] at gate
  refine ⟨gate, gate.trans (validateRequiredWsContracts_eq_ok host files requirements).symm, ?_⟩
  intro f path storing before after written
  rw [ensureLiveCaptureFixture_eq_ok]
  exact written_liveCapture_iff host before written

/-- A file system with one captured fixture in it. -/
def capturedFiles : FileSystem String :=
  (wrapped.write plainHost "success.json" .stored fun _ => .absent "not found").2

def capturedContract : WsFixtureRequirement String where
  contractId := "contract-a"
  successPath := "success.json"
  errorPath := none

theorem captured_contract_allowed :
    ensureLiveWsAllowed plainHost (fun _ => none) capturedFiles
      (registerRequiredWsContracts [capturedContract] ⟨[]⟩) = .ok () := by
  have stored : (wrapped.write plainHost "success.json" .stored
      fun _ => .absent "not found").1 = .ok () := by decide +kernel
  have captured : LiveCapture plainHost (capturedFiles "success.json") := by
    refine (written_liveCapture_iff plainHost _ (Prod.ext stored rfl)).mpr ⟨rfl, by decide, ?_, ?_⟩
    · exact ⟨'c', by decide, by decide⟩
    · exact ⟨'d', by decide, by decide⟩
  have gate := live_gate plainHost capturedFiles (fun _ => none) ⟨[]⟩ [capturedContract] rfl rfl
  refine gate.1.mpr ⟨by simp, ?_⟩
  intro item member
  obtain rfl := List.mem_singleton.mp member
  exact ⟨captured, by simp [capturedContract]⟩

end Live
end FixturePolicy
