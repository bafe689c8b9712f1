import SharedWs.DisconnectCauses
import SharedWs.FixturePolicy
import SharedWs.FlatOutline
import SharedWs.FrameConversion
import SharedWs.SpawnPreconditions

/-!
# The gate and the managed loops

`TungsteniteTransport::connect` asks the fixture policy before it dials. Both managed loops reach
the network through it only, so the gate holds for whole runs: whatever the environment, the
files and the registered contracts do between two attempts, a connection is used only if they
allowed it when it was dialled, and a loop that is kept out tells its endpoint why.
-/
namespace LiveGate

open InteractionPrograms InteractionMonitors WsFrames WsTypes WsFixtures ManagedOps
open ManagedLoop HookedLoop LoopOutline ManagedBlocks DisconnectCauses FixturePolicy FlatOutline
open FrameConversion SpawnPreconditions

/-- `build_ws_config`. -/
def buildWsConfig (buffers : WebSocketBufferConfig) : WebSocketConfig where
  maxMessageSize := some buffers.maxMessageBytes
  maxFrameSize := some buffers.maxFrameBytes
  writeBufferSize := buffers.writeBufferBytes
  maxWriteBufferSize := buffers.maxWriteBufferBytes

structure TungsteniteTransport (Connector : Type) where
  connector : Option Connector

/-- A call of `tungstenite_connect_tls`, or of `tungstenite_connect_with_config` if it has no
connector. -/
structure Dial (Connector : Type) where
  url : String
  config : WebSocketConfig
  disableNagle : Bool
  connector : Option Connector

/-- What an attempt meets. The error of a dial is its text. -/
structure Surroundings (Path Connector : Type) where
  env : Env
  files : FileSystem Path
  registry : WsFixtureRegistry Path
  answer : Dial Connector → Except String Unit

section Transport
variable {Num Path Connector : Type} (host : Host Num Path)

/-- `TungsteniteTransport::connect`: the dial that it made, and its result. -/
def TungsteniteTransport.connect (transport : TungsteniteTransport Connector)
    (around : Surroundings Path Connector) (url : String) (buffers : WebSocketBufferConfig) :
    Option (Dial Connector) × Except WebSocketError Unit :=
  match ensureLiveWsAllowed host around.env around.files around.registry with
  | .error err => (none, .error err)
  | .ok () =>
    let config := buildWsConfig buffers
    let dial : Dial Connector := match transport.connector with
      | some connector => ⟨url, config, false, some connector⟩
      | none => ⟨url, config, false, none⟩
    (some dial, (around.answer dial).mapError (Transport.mapWsError "connect"))

/-- What the gate asks for. -/
def Allowed (around : Surroundings Path Connector) : Prop :=
  fixtureCaptureModeEnabled around.env = true ∨ liveWithoutFixturesAllowed around.env = true ∨
    around.registry.requirements ≠ [] ∧
      ∀ item ∈ around.registry.requirements, Compliant host around.files item

variable (transport : TungsteniteTransport Connector) {around : Surroundings Path Connector}

theorem connect_allowed (allowed : Allowed host around) (url : String)
    (buffers : WebSocketBufferConfig) :
    transport.connect host around url buffers =
      (some ⟨url, buildWsConfig buffers, false, transport.connector⟩,
        (around.answer ⟨url, buildWsConfig buffers, false, transport.connector⟩).mapError
          (Transport.mapWsError "connect")) := by
  have open_ := (ensureLiveWsAllowed_eq_ok host around.files around.env around.registry).mpr allowed
  unfold TungsteniteTransport.connect
  rw [open_]
  cases transport.connector <;> rfl

theorem connect_refused (refused : ¬ Allowed host around) (url : String)
    (buffers : WebSocketBufferConfig) :
    ∃ err, ensureLiveWsAllowed host around.env around.files around.registry = .error err ∧
      transport.connect host around url buffers = (none, .error err) := by
  cases gate : ensureLiveWsAllowed host around.env around.files around.registry with
  | ok _ =>
    exact absurd ((ensureLiveWsAllowed_eq_ok host around.files _ _).mp gate) refused
  | error err =>
    refine ⟨err, rfl, ?_⟩
    unfold TungsteniteTransport.connect
    rw [gate]

theorem allowed_of_connected {url : String} {buffers : WebSocketBufferConfig}
    (connected : (transport.connect host around url buffers).2 = .ok ()) :
    Allowed host around := by
  by_contra refused
  obtain ⟨err, -, blocked⟩ := connect_refused host transport refused url buffers
  rw [blocked] at connected
  cases connected

/-- `tungstenite` panics unless the write buffer may grow. -/
theorem default_limits_valid : (buildWsConfig .default).Valid := by
  unfold WebSocketConfig.Valid
  decide

end Transport

section Attempts
variable {E : Endpoint} {Num Path Connector : Type}

/-- How many calls there were, and whether one of them was an attempt. -/
structure Attempts where
  calls : Nat
  begun : Bool

def Attempts.start : Attempts := ⟨0, false⟩

def Attempts.after (m : Attempts) (e : ManagedEvent E) : Attempts :=
  ⟨m.calls + 1, m.begun || decide (Connects e)⟩

/-- The answer of an attempt is that of the transport in these surroundings. -/
def Answers (host : Host Num Path) (transport : TungsteniteTransport Connector)
    (around : Surroundings Path Connector) : ManagedEvent E → Prop
  | ⟨(_, .connect url buffers), ⟨_, result⟩⟩ =>
      result = (transport.connect host around url buffers).2
  | _ => True

/-- Calls that wait for the connection, read from it or write to it. -/
def Touches : Op E → Prop
  | .write _ _ | .select | .selectWithPing => True
  | _ => False

/-- An attempt is made at the url of the loop under the default limits; a connection is touched
only after an attempt. -/
def Proper (url : String) (m : Attempts) : Op E → Prop
  | .connect target buffers => target = url ∧ buffers = .default
  | op => Touches op → m.begun = true

/-- The calls against a transport whose surroundings are `around k` at the `k`-th call. -/
def attempts (host : Host Num Path) (transport : TungsteniteTransport Connector)
    (around : Nat → Surroundings Path Connector) (url : String) : ManagedMonitor E Attempts where
  step := Attempts.after
  rely := fun m e => Answers host transport (around m.calls) e
  safe := fun m e => Proper url m e.op.2

variable {host : Host Num Path} {transport : TungsteniteTransport Connector}
variable {around : Nat → Surroundings Path Connector} {url : String}

theorem proper_preparing {op : Op E} (preparing : Preparing op) (m : Attempts) :
    Proper url m op := by
  cases op with
  | storeStatus | monitor | ping | startPingSleep | resetPingSleep => exact False.elim
  | _ => exact preparing.elim

theorem keeps_begun {allowed : Op E → Prop}
    (other : ∀ target buffers, ¬ allowed (.connect target buffers)) :
    Keeps (attempts host transport around url : ManagedMonitor E Attempts) allowed
      fun _ m => m.begun = true := by
  intro l m op time val permitted begun _
  refine ⟨?_, ?_⟩
  · cases op with
    | connect target buffers => exact absurd permitted (other target buffers)
    | _ => exact fun _ => begun
  · change (m.begun || _) = true
    rw [begun, Bool.true_or]

theorem attempts_flat : Flat (attempts host transport around url : ManagedMonitor E Attempts) url
    (fun _ => True) (fun m => m.begun = true) (fun m => m.begun = true) where
  prepare := fun l m op time val preparing _ _ => ⟨proper_preparing preparing m, trivial⟩
  attempt := by
    intro l m time result _ _
    refine ⟨⟨rfl, rfl⟩, ?_⟩
    have begun : (m.after (event l (.connect url .default) time result)).begun = true :=
      Bool.or_true _
    exact orElse_of begun (fun _ => begun) _ result
  report := keeps_begun fun _ _ => id
  greet := fun _ _ begun =>
    (keeps_begun fun _ _ => id).ensures quiet_greeting begun
  onward := keeps_begun fun _ _ => id
  again := fun _ _ => trivial

theorem attempts_calls (t : List (ManagedEvent E)) (m : Attempts) :
    ((attempts host transport around url).run m t).calls = m.calls + t.length := by
  induction t generalizing m with
  | nil => rfl
  | cons e t ih =>
    rw [Monitor.run_cons, ih, List.length_cons]
    exact Nat.add_right_comm _ _ _

theorem attempts_begun {t : List (ManagedEvent E)} {m : Attempts}
    (begun : ((attempts host transport around url).run m t).begun = true) :
    m.begun = true ∨ ∃ e ∈ t, Connects e := by
  induction t generalizing m with
  | nil => exact Or.inl begun
  | cons e t ih =>
    rw [Monitor.run_cons] at begun
    rcases ih begun with now | ⟨d, mem, connects⟩
    · rcases Bool.or_eq_true_iff.mp now with early | connects
      · exact Or.inl early
      · exact Or.inr ⟨e, List.mem_cons_self, of_decide_eq_true connects⟩
    · exact Or.inr ⟨d, List.mem_cons_of_mem e mem, connects⟩

theorem begun_of_touches {op : Op E} {m : Attempts} (touches : Touches op)
    (proper : Proper url m op) : m.begun = true := by
  cases op with
  | write | select | selectWithPing => exact proper touches
  | _ => exact touches.elim

theorem uses_of_touches {op : Op E} (touches : Touches op) : UsesConnection op := by
  cases op with
  | write | select | selectWithPing => trivial
  | _ => exact touches.elim

theorem connect_of_connects {e : ManagedEvent E} (connects : Connects e) :
    ∃ l target buffers time result, e = event l (.connect target buffers) time result := by
  obtain ⟨⟨l, op⟩, ⟨time, val⟩⟩ := e
  cases op with
  | connect target buffers => exact ⟨l, target, buffers, time, val, rfl⟩
  | _ => exact connects.elim

/-- The last attempt of a trace that has one. -/
theorem last_attempt {t : List (ManagedEvent E)} (begun : ∃ e ∈ t, Connects e) :
    ∃ first l target buffers time result rest,
      t = first ++ event l (.connect target buffers) time result :: rest ∧
        ∀ d ∈ rest, ¬ Connects d := by
  induction t using List.reverseRecOn with
  | nil =>
    obtain ⟨e, mem, -⟩ := begun
    exact absurd mem List.not_mem_nil
  | append_singleton t e ih =>
    by_cases now : Connects e
    · obtain ⟨l, target, buffers, time, result, rfl⟩ := connect_of_connects now
      exact ⟨t, l, target, buffers, time, result, [], rfl, by simp⟩
    · have early : ∃ e ∈ t, Connects e := by
        obtain ⟨d, mem, connects⟩ := begun
        rcases List.mem_append.mp mem with mem | mem
        · exact ⟨d, mem, connects⟩
        · rw [List.mem_singleton.mp mem] at connects
          exact absurd connects now
      obtain ⟨first, l, target, buffers, time, result, rest, rfl, alone⟩ := ih early
      refine ⟨first, l, target, buffers, time, result, rest ++ [e], by simp, ?_⟩
      intro d mem
      rcases List.mem_append.mp mem with mem | mem
      · exact alone d mem
      · rw [List.mem_singleton.mp mem]
        exact now

/-- A failed attempt stays the reason until the next one. -/
theorem blame_of_refused (first : List (ManagedEvent E)) (l : Locals E) (target : String)
    (buffers : WebSocketBufferConfig) (time : Instant) (err : WebSocketError)
    {rest : List (ManagedEvent E)} (alone : ∀ d ∈ rest, ¬ Connects d) :
    (blameOf (first ++ event l (.connect target buffers) time (.error err) :: rest)).cause =
      some (.internalError "connect" err.display) := by
  induction rest using List.reverseRecOn with
  | nil =>
    rw [blameOf, List.foldl_append]
    rfl
  | append_singleton rest e ih =>
    have kept := ih fun d mem => alone d (List.mem_append_left _ mem)
    rw [← List.cons_append, ← List.append_assoc, blameOf, List.foldl_append]
    exact blamed_after (l := l) (alone e (by simp)) kept

end Attempts

section Runs
variable {E : Endpoint} {Num Path Connector : Type}

/-- The gate over a run whose `k`-th call meets the surroundings `around k`. -/
structure Gated (host : Host Num Path) (transport : TungsteniteTransport Connector)
    (around : Nat → Surroundings Path Connector) (url : String) (t : List (ManagedEvent E)) :
    Prop where
  /-- Every dial is made while the gate is open, and with limits that the library accepts. -/
  dialled : ∀ before l target buffers time result after,
    t = before ++ event l (.connect target buffers) time result :: after → ∀ dial,
      (transport.connect host (around before.length) target buffers).1 = some dial →
        Allowed host (around before.length) ∧ dial.config.Valid ∧
          dial = ⟨url, buildWsConfig .default, false, transport.connector⟩
  /-- A connection that is touched was dialled by the last attempt. -/
  touched : ∀ before e after, t = before ++ e :: after → Touches e.op.2 →
    ∃ first l time rest, before = first ++ event l (.connect url .default) time (.ok ()) :: rest ∧
      (∀ d ∈ rest, ¬ Connects d) ∧ Allowed host (around first.length)
  /-- An attempt that the gate refuses is the cause that the endpoint is told. -/
  refused : ∀ first l target buffers time result rest l' cause time' action after,
    t = first ++ event l (.connect target buffers) time result :: rest ++
      event l' (.handler (.classifyDisconnect cause)) time' action :: after →
    (∀ d ∈ rest, ¬ Connects d) → ¬ Allowed host (around first.length) →
      ∃ err, ensureLiveWsAllowed host (around first.length).env (around first.length).files
          (around first.length).registry = .error err ∧
        cause = .internalError "connect" err.display

variable {host : Host Num Path} {transport : TungsteniteTransport Connector}
variable {around : Nat → Surroundings Path Connector} {url : String} {kind : LoopKind}
variable {t : List (ManagedEvent E)} {q : HookedLoop.Task E}

/-- The trace was recorded over the transport. -/
abbrev Through (host : Host Num Path) (transport : TungsteniteTransport Connector)
    (around : Nat → Surroundings Path Connector) (url : String) (t : List (ManagedEvent E)) :
    Prop :=
  (attempts host transport around url).Along (attempts host transport around url).rely .start t

theorem Through.answer (through : Through host transport around url t)
    {before after : List (ManagedEvent E)} {l : Locals E} {target : String}
    {buffers : WebSocketBufferConfig} {time : Instant} {result : Except WebSocketError Unit}
    (cut : t = before ++ event l (.connect target buffers) time result :: after) :
    result = (transport.connect host (around before.length) target buffers).2 := by
  have relied := (Monitor.along_iff _).mp through before _ after cut
  have calls : ((attempts host transport around url).run .start before).calls = before.length :=
    (attempts_calls before .start).trans (Nat.zero_add _)
  rw [← calls]
  exact relied

theorem gate_kept (run : Run (managedLoop url kind) t q)
    (through : Through host transport around url t) : Gated host transport around url t := by
  have proper := (Monitor.along_iff _).mp (attempts_flat.safe_run run trivial through)
  have permitted := permitted_run kind run
  constructor
  · intro before l target buffers time result after cut dial made
    obtain ⟨rfl, rfl⟩ := proper _ _ _ cut
    by_cases allowed : Allowed host (around before.length)
    · rw [connect_allowed host transport allowed] at made
      obtain rfl := Option.some.inj made
      exact ⟨allowed, default_limits_valid, rfl⟩
    · obtain ⟨err, -, refused⟩ := connect_refused host transport allowed target .default
      rw [refused] at made
      cases made
  · intro before e after cut touches
    have begun := begun_of_touches touches (proper _ _ _ cut)
    obtain ⟨first, l, target, buffers, time, result, rest, rfl, alone⟩ :=
      last_attempt ((attempts_begun begun).resolve_left nofun)
    have place : t = first ++ event l (.connect target buffers) time result ::
        (rest ++ e :: after) := by
      rw [cut, List.append_assoc, List.cons_append]
    obtain ⟨rfl, rfl⟩ := proper _ _ _ place
    cases result with
    | error err =>
      have clear := clear_of_uses (uses_of_touches touches) (permitted _ _ _ cut)
      rw [blame_of_refused first l target .default time err alone] at clear
      cases clear
    | ok _ =>
      exact ⟨first, l, time, rest, rfl, alone,
        allowed_of_connected host transport (through.answer place).symm⟩
  · intro first l target buffers time result rest l' cause time' action after cut alone refused
    have place : t = first ++ event l (.connect target buffers) time result ::
        (rest ++ event l' (.handler (.classifyDisconnect cause)) time' action :: after) := by
      rw [cut, List.append_assoc, List.cons_append]
    obtain ⟨err, gate, blocked⟩ := connect_refused host transport refused target buffers
    have answer := through.answer place
    rw [blocked] at answer
    subst answer
    have named := permitted _ _ _ cut
    change (blameOf _).cause = some cause at named
    rw [blame_of_refused first l target buffers time err alone] at named
    exact ⟨err, gate, (Option.some.inj named).symm⟩

end Runs

/-- No contract is registered; from the second attempt on the override is set. -/
def doorway (k : Nat) : Surroundings String Unit where
  env := fun name => if k ≠ 1 ∧ name = sharedWsAllowLiveWithoutFixturesEnv then some "1" else none
  files := fun _ => .absent "not found"
  registry := ⟨[]⟩
  answer := fun _ => .ok ()

def doorwayScript : Nat → (op : Op bareEndpoint) → op.Ans
  | 1, .connect _ _ =>
    .error (.invalidState "live websocket blocked: no required fixture contracts registered")
  | _, .handler (.classifyDisconnect _) => .immediateReconnect
  | _, op => bareAnswer op

def doorwayRun : List (ManagedEvent bareEndpoint) × HookedLoop.Task bareEndpoint :=
  trial (managedLoop "ws://peer" .plain) doorwayScript 17

theorem second_attempt_let_in :
    ¬ Allowed plainHost (doorway 1) ∧
      doorwayRun.1.getLast?.map (fun e => e.op.2) = some .select ∧
      Gated plainHost (⟨none⟩ : TungsteniteTransport Unit) doorway "ws://peer" doorwayRun.1 := by
  have through : Through plainHost (⟨none⟩ : TungsteniteTransport Unit) doorway "ws://peer"
      doorwayRun.1 := by
    repeat' apply And.intro
    all_goals trivial
  refine ⟨?_, rfl, gate_kept (trial_run _ doorwayScript 17) through⟩
  rintro (capture | allowed | ⟨registered, -⟩)
  · cases capture
  · cases allowed
  · exact registered rfl

end LiveGate
