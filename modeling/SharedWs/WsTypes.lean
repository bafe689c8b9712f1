import SharedWs.WsFrames

/-!
# Types shared by the managed client loops

The enumerations of `core/types.rs` and `ws/managed.rs` that the loops read or
produce. `WsDisconnectCause` keeps the causes the loops construct; the two
others of the source (a failed handshake and a latency breach) are made nowhere
in them. Durations are whole nanoseconds.
-/
namespace WsTypes

open WsFrames

abbrev Duration := Nat

/-- A monotonic clock reading, in nanoseconds. -/
abbrev Instant := Nat

inductive WebSocketError where
  | connectionFailed (error : String)
  | authenticationFailed (message : String) (code : Option Int32)
  | subscriptionFailed (message channel : String)
  | transportError (context error : String)
  | parseFailed (error : String)
  | actorError (error : String)
  | timeout (context : String)
  | staleConnection (seconds : UInt64)
  | serverError (code : Option Int32) (message : String)
  | invalidState (error : String)
  | endpointSpecific (error : String)
  | outboundQueueFull
  | rateLimited (message : String) (retryAfter : Option Duration)
  deriving DecidableEq

/-- The `Debug` form of an optional code. -/
def debugCode : Option Int32 → String
  | none => "None"
  | some code => "Some(" ++ toString code.toInt ++ ")"

/-- The `Display` texts of the source. -/
def WebSocketError.display : WebSocketError → String
  | .connectionFailed error => "Connection failed: " ++ error
  | .authenticationFailed message _ => "Authentication failed: " ++ message
  | .subscriptionFailed message channel =>
      "Subscription failed: " ++ message ++ ", channel=" ++ channel
  | .transportError context error => "Transport error (" ++ context ++ "): " ++ error
  | .parseFailed error => "Parse failed: " ++ error
  | .actorError error => "Actor error: " ++ error
  | .timeout context => "Timeout: " ++ context
  | .staleConnection seconds =>
      "Stale connection: no data for " ++ toString seconds.toNat ++ "s"
  | .serverError code message =>
      "Server error: code=" ++ debugCode code ++ ", message=" ++ message
  | .invalidState error => "Invalid state: " ++ error
  | .endpointSpecific error => "Endpoint error: " ++ error
  | .outboundQueueFull => "Backpressure: outbound queue full"
  | .rateLimited message _ => "Rate limited: " ++ message

structure WebSocketBufferConfig where
  writeBufferBytes : Nat
  maxWriteBufferBytes : Nat
  maxMessageBytes : Nat
  maxFrameBytes : Nat
  deriving DecidableEq

/-- `WebSocketBufferConfig::default()`. -/
def WebSocketBufferConfig.default : WebSocketBufferConfig where
  writeBufferBytes := 128 <<< 10
  maxWriteBufferBytes := 256 <<< 10
  maxMessageBytes := 16 * 1024 * 1024
  maxFrameBytes := 16 * 1024 * 1024

inductive WsDisconnectCause where
  | staleData
  | pongTimeout
  | remoteClosed
  | readFailure (error : String)
  | endpointRequested (reason : String)
  | serverError (code : Option Int32) (message : String)
  | internalError (context error : String)
  deriving DecidableEq

inductive WsDisconnectAction where
  | immediateReconnect
  | backoffReconnect
  | abort
  deriving DecidableEq

inductive WsConnectionStatus where
  | connecting
  | connected
  | disconnected
  deriving DecidableEq

def wsStatusToU8 : WsConnectionStatus → UInt8
  | .connecting => 0
  | .connected => 1
  | .disconnected => 2

def wsStatusFromU8 (raw : UInt8) : WsConnectionStatus :=
  if raw = 0 then .connecting else if raw = 1 then .connected else .disconnected

/-- A reader of the shared byte sees the status that was stored. -/
@[simp] theorem wsStatusFromU8_toU8 (status : WsConnectionStatus) :
    wsStatusFromU8 (wsStatusToU8 status) = status := by
  cases status <;> decide

inductive WsMessageAction (Message : Type) where
  | continue
  | sessionAuthenticated
  | send (payload : Bytes)
  | process (message : Message)
  | reconnect (reason : String)
  | shutdown

inductive WsParseOutcome (Message Value : Type) where
  | serverError (code : Option Int32) (message : String) (data : Option Value)
  | message (action : WsMessageAction Message)

section DefaultParse
variable {Error Message Value : Type}
variable (parse : Bytes → Except Error (WsParseOutcome Message Value))

/-- The default `parse_text` of an endpoint handler. -/
def parseText (text : WsText) : Except Error (WsParseOutcome Message Value) := parse text.bytes

/-- The default `parse_frame` of an endpoint handler. -/
def parseFrame : WsFrame → Except Error (WsParseOutcome Message Value)
  | .text text => parseText parse text
  | frame =>
    match frameBytes frame with
    | none => .ok (.message .continue)
    | some bytes => parse bytes

/-- It passes the bytes of the frame to `parse`, whatever kind of frame it is. -/
theorem parseFrame_eq (frame : WsFrame) :
    parseFrame parse frame =
      ((frameBytes frame).map parse).getD (.ok (.message .continue)) := by
  cases frame <;> rfl

end DefaultParse

inductive WsSubscriptionAction (Subscription : Type) where
  | add (items : List Subscription)
  | remove (items : List Subscription)
  | replace (items : List Subscription)
  | clear
  deriving DecidableEq

inductive WsSessionMode where
  | publicSession
  | authGated
  deriving DecidableEq

inductive WsErrorAction where
  | continue
  | reconnect
  | fatal
  deriving DecidableEq

inductive WsPongResult where
  | notPong
  | pongReceived (rtt : Option Duration)
  | invalidPong
  | reply (frame : WsFrame)
  deriving DecidableEq

inductive ManagedWsCommand (Subscription : Type) where
  | send (payload : Bytes)
  | updateSubscriptions (action : WsSubscriptionAction Subscription)
  | forceReconnect (reason : String)
  | shutdown
  deriving DecidableEq

/-- `command_requires_auth`: exactly the commands that carry data for the peer. -/
def commandRequiresAuth {Subscription : Type} : ManagedWsCommand Subscription → Bool
  | .send _ | .updateSubscriptions _ => true
  | .forceReconnect _ | .shutdown => false

/-- The associated types of an endpoint: its messages, its errors with their
text, its subscription messages and the JSON value of its server errors. -/
structure Endpoint where
  Message : Type
  Error : Type
  errorText : Error → String
  Subscription : Type
  Value : Type

end WsTypes
