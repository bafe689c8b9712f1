import SharedWs.ConnectionProtocol
import SharedWs.ServerSystem

/-!
# What a validated configuration promises

`spawn_with_faults` checks a configuration once and then passes its fields on:
to the broadcast channel at once, to the WebSocket layer and the tick timer in
every connection task. These primitives panic when a precondition fails. Which
of the preconditions follow from the checks, and what the others ask for, is
said here.
-/
namespace SpawnPreconditions

open BroadcastRing ConnectionProtocol ConnectionTask InteractionPrograms InteractionMonitors
open InteractionMonitors.Monitor ServerSystem ServerTypes

variable {Command : Type}

/-- A call that returns, or panics. -/
inductive Outcome (α : Type) where
  | returned (a : α)
  | panicked

/-- The largest `usize`, on a platform of 64 bits. -/
def usizeMax : Nat := 2 ^ 64 - 1

/-- `broadcast::channel`. -/
def broadcastChannel (capacity : Nat) : Outcome (RingBuffer Command) :=
  if 0 < capacity ∧ capacity ≤ usizeMax / 2 then .returned (channel capacity) else .panicked

/-- `spawn_managed_ws_server_task`, with the panic that its channel may raise.
The caller may be outside of any runtime. -/
def spawnManagedWsServerTask (runtime : Bool) (config : WsServerConfig)
    (retry : WsServerRetryPolicy) :
    Outcome (Except ManagedWsServerStartError (System Command)) :=
  match spawnWithFaults config retry runtime with
  | .error error => .returned (.error error)
  | .ok system =>
    -- the checks come before the channel is created
    match broadcastChannel config.retainedCommandsPerClient.toNat with
    | .panicked => .panicked
    | .returned ring =>
      .returned (.ok (system.updateShared fun shared => { shared with commands := ring }))

/-- The limits of the WebSocket layer that a `WsConnectConfig` sets. -/
structure WebSocketConfig where
  maxMessageSize : Option Nat
  maxFrameSize : Option Nat
  writeBufferSize : Nat
  maxWriteBufferSize : Nat

/-- `From<WsConnectConfig>`. -/
def intoWebSocketConfig (config : WsConnectConfig) : WebSocketConfig where
  maxMessageSize := config.maxMessageSize
  maxFrameSize := config.maxFrameSize
  writeBufferSize := config.writeBufferSize
  maxWriteBufferSize := config.maxWriteBufferSize

/-- What the context of a connection asserts of its limits. -/
def WebSocketConfig.Valid (config : WebSocketConfig) : Prop :=
  config.writeBufferSize < config.maxWriteBufferSize

/-- A call of a connection task whose primitive panics. -/
def Panics : ConnectionOp Command → Prop
  | .handshake _ websocket => ¬ (intoWebSocketConfig websocket).Valid
  | .firstTick interval => interval = 0
  | _ => False

/-- What a validated configuration should be enough for: every precondition
holds, spawning returns, and no call of any connection task panics. -/
structure CannotPanic (Command : Type) (config : WsServerConfig) : Prop where
  channel : 1 ≤ config.retainedCommandsPerClient.toNat ∧
    config.retainedCommandsPerClient.toNat ≤ usizeMax / 2
  tick : config.endpointTickInterval ≠ 0
  websocket : (intoWebSocketConfig config.websocket).Valid
  spawns : ∀ (runtime : Bool) (retry : WsServerRetryPolicy),
    (spawnManagedWsServerTask runtime config retry :
      Outcome (Except ManagedWsServerStartError (System Command))) ≠ .panicked
  serves : ∀ (ctx : WsServerConnectionContext) (t : List (ConnectionEvent Command))
    (q : ConnectionTask.Step Command (Head ⊕ Unit)),
    ConnectionRun config ctx t q → ∀ e ∈ t, ¬ Panics e.op

/-- Spawning panics in the channel or not at all. -/
theorem spawn_returns {config : WsServerConfig}
    (fits : 0 < config.retainedCommandsPerClient.toNat ∧
      config.retainedCommandsPerClient.toNat ≤ usizeMax / 2)
    (runtime : Bool) (retry : WsServerRetryPolicy) :
    (spawnManagedWsServerTask runtime config retry :
      Outcome (Except ManagedWsServerStartError (System Command))) ≠ .panicked := by
  unfold spawnManagedWsServerTask broadcastChannel
  rw [if_pos fits]
  cases (spawnWithFaults config retry runtime : Except _ (System Command)) with
  | error error => exact nofun
  | ok system => exact nofun

/-- A call that returns gives the server that the rest is about. -/
theorem spawn_returned {config : WsServerConfig} {retry : WsServerRetryPolicy} {runtime : Bool}
    {result : Except ManagedWsServerStartError (System Command)}
    (returned : spawnManagedWsServerTask runtime config retry = .returned result) :
    result = spawnWithFaults config retry runtime := by
  unfold spawnManagedWsServerTask broadcastChannel at returned
  cases spawned : (spawnWithFaults config retry runtime : Except _ (System Command)) with
  | error error =>
    rw [spawned] at returned
    exact (Outcome.returned.inj returned).symm
  | ok system =>
    rw [spawned] at returned
    by_cases fits : 0 < config.retainedCommandsPerClient.toNat ∧
        config.retainedCommandsPerClient.toNat ≤ usizeMax / 2
    · rw [if_pos fits] at returned
      obtain rfl := Outcome.returned.inj returned
      obtain rfl := spawned_start spawned
      rfl
    · rw [if_neg fits] at returned
      cases returned

/-- The calls that a connection task makes, with the limits it was given. -/
def Configured (config : WsServerConfig) : ConnectionOp Command → Prop
  | .handshake _ websocket => websocket = config.websocket
  | .firstTick interval => interval = config.endpointTickInterval
  | _ => True

theorem configured_ending (config : WsServerConfig) :
    AllowsEnding (@Configured Command config) :=
  ⟨fun _ => trivial, fun _ => trivial, trivial⟩

theorem configured_turns (config : WsServerConfig) (ctx : WsServerConnectionContext)
    (head : Head) :
    (runConnection config ctx head : ConnectionTask.Step Command (Head ⊕ Unit)).Obeys
      (Configured config) fun _ => True := by
  cases head with
  | accepted =>
    refine ⟨rfl, fun result => ?_⟩
    cases result with
    | completed =>
      refine ⟨trivial, fun _ => ⟨rfl, fun _ => ?_⟩⟩
      exact (obeys_handleEvent (configured_ending config) trivial).calls
    | rejected error => trivial
    | timedOut => trivial
  | serving =>
    refine ⟨trivial, fun arm => ?_⟩
    exact (obeys_arm (configured_ending config) arm fun _ _ => trivial).calls

/-- The limits reach the primitives unchanged, in every connection task. -/
theorem configured_run {config : WsServerConfig} {ctx : WsServerConnectionContext}
    {t : List (ConnectionEvent Command)} {q : ConnectionTask.Step Command (Head ⊕ Unit)}
    (run : ConnectionRun config ctx t q) : ∀ e ∈ t, Configured config e.op := by
  let watched : Monitor (connectionSignature Command) Unit :=
    ⟨fun _ _ => (), fun _ _ => True, fun _ e => Configured config e.op⟩
  have turns : ∀ head m, True →
      watched.wp (Owes (fun _ _ => True) fun _ _ => True) (runConnection config ctx head) m := by
    intro head m _
    refine watched.wp_mono ?_ (watched.wp_of_obeys (fun _ => True)
      (fun _ op answer permitted _ _ => ⟨permitted, trivial⟩) (configured_turns config ctx head)
      trivial)
    rintro (next | result) _ _ <;> trivial
  have relied : watched.Along watched.rely () t := watched.along_iff.mpr fun _ _ _ _ => trivial
  have safe := (watched.reaches_wp turns run trivial relied).1
  intro e member
  obtain ⟨before, after, cut⟩ := List.append_of_mem member
  exact watched.along_iff.mp safe before e after cut

/-- Of the preconditions, validation leaves two open: the upper bound of the
channel and the order of the two buffer sizes. -/
theorem cannotPanic_iff (Command : Type) {config : WsServerConfig}
    (valid : config.validate = .ok ()) :
    CannotPanic Command config ↔ config.retainedCommandsPerClient.toNat ≤ usizeMax / 2 ∧
      config.websocket.writeBufferSize < config.websocket.maxWriteBufferSize := by
  obtain ⟨-, -, -, tick, -, retained⟩ := WsServerConfig.validate_eq_ok.mp valid
  constructor
  · intro safe
    exact ⟨safe.channel.2, safe.websocket⟩
  · rintro ⟨fits, ordered⟩
    have positive : 0 < config.retainedCommandsPerClient.toNat :=
      UInt64.lt_iff_toNat_lt.mp (UInt64.pos_iff_ne_zero.mpr retained)
    refine ⟨⟨positive, fits⟩, tick, ordered, spawn_returns ⟨positive, fits⟩, ?_⟩
    intro ctx t q run e member panics
    have configured := configured_run run e member
    obtain ⟨op, answer⟩ := e
    cases op with
    | handshake timeout websocket =>
      obtain rfl : websocket = config.websocket := configured
      exact panics ordered
    | firstTick interval =>
      obtain rfl : interval = config.endpointTickInterval := configured
      exact tick panics
    | _ => exact panics

theorem default_cannot_panic :
    (WsServerConfig.new (.v4 0 80)).validate = .ok () ∧
      CannotPanic Nat (WsServerConfig.new (.v4 0 80)) :=
  ⟨rfl, (cannotPanic_iff Nat rfl).mpr ⟨by decide, by decide⟩⟩

/-- A budget that is meant to be no limit. -/
def unlimitedRetention : WsServerConfig :=
  { WsServerConfig.new (.v4 0 80) with retainedCommandsPerClient := .ofNat usizeMax }

/-- A write buffer as large as it may get. -/
def fullWriteBuffer : WsServerConfig :=
  { WsServerConfig.new (.v4 0 80) with
    websocket := { WsConnectConfig.default with writeBufferSize := 256 <<< 10 } }

/-- Both pass validation. The first panics in the spawning call, the second in
the first call of every connection task. -/
theorem validated_configs_panic :
    (unlimitedRetention.validate = .ok () ∧
      (spawnManagedWsServerTask true unlimitedRetention .default :
        Outcome (Except ManagedWsServerStartError (System Nat))) = .panicked) ∧
    (fullWriteBuffer.validate = .ok () ∧
      ∀ (ctx : WsServerConnectionContext) (e : ConnectionEvent Nat)
        (t : List (ConnectionEvent Nat)) (q : ConnectionTask.Step Nat (Head ⊕ Unit)),
        ConnectionRun fullWriteBuffer ctx (e :: t) q → Panics e.op) ∧
    ¬ CannotPanic Nat unlimitedRetention ∧ ¬ CannotPanic Nat fullWriteBuffer := by
  have spawned : (spawnManagedWsServerTask true unlimitedRetention .default :
      Outcome (Except ManagedWsServerStartError (System Nat))) = .panicked := rfl
  refine ⟨⟨rfl, spawned⟩, ⟨rfl, ?_⟩, ?_, ?_⟩
  · intro ctx e t q run
    have first : e.op = .handshake fullWriteBuffer.handshakeTimeout fullWriteBuffer.websocket := by
      cases run with
      | step fires rest =>
        cases fires with
        | head fires => cases fires; rfl
    rw [first]
    exact (by decide : ¬ (256 <<< 10 < 256 <<< 10))
  · intro safe
    exact safe.spawns true .default spawned
  · intro safe
    exact absurd safe.websocket (by decide : ¬ (256 <<< 10 < 256 <<< 10))

end SpawnPreconditions
