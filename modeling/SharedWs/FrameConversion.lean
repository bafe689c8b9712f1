import SharedWs.WsFrames
import SharedWs.WsTypes

/-!
# Frames and messages of the websocket library

The frames of `core/frame.rs` with the unchecked conversions the source makes, and the pair of
conversions to and from the messages of tungstenite, which exists in two copies: `client.rs` and
`transport/tungstenite.rs`. A text is here only its bytes, as in the source; an unchecked
conversion of bytes that are not valid UTF-8 is undefined and gives `none`.

Of tungstenite it is assumed that its texts and close reasons are valid UTF-8, which is the type
`Utf8Bytes`, and that a close code survives the way from `u16` and back.
-/
namespace FrameConversion

open WsFrames WsTypes

/-- `WsText`, as the source represents it. -/
structure RawText where
  bytes : Bytes
  deriving DecidableEq

/-- `WsFrame` over such texts. -/
inductive RawFrame where
  | text (payload : RawText)
  | binary (payload : Bytes)
  | ping (payload : Bytes)
  | pong (payload : Bytes)
  | close (frame : Option WsCloseFrame)
  deriving DecidableEq

namespace RawText

def fromStatic (s : String) : RawText :=
  ⟨s.toByteArray⟩

/-- The error says where the bytes stop being UTF-8; it is not looked at. -/
def tryFromBytes (bytes : Bytes) : Except Unit RawText :=
  if bytes.IsValidUTF8 then .ok ⟨bytes⟩ else .error ()

/-- Safety: the bytes must be valid UTF-8. -/
def fromBytesUnchecked (bytes : Bytes) : Option RawText :=
  if bytes.IsValidUTF8 then some ⟨bytes⟩ else none

/-- `from_utf8_unchecked` of the bytes. -/
def asStr (text : RawText) : Option String :=
  if valid : text.bytes.IsValidUTF8 then some ⟨text.bytes, valid⟩ else none

end RawText

def frameBytes : RawFrame → Option Bytes
  | .text text => some text.bytes
  | .binary bytes | .ping bytes | .pong bytes => some bytes
  | .close _ => none

def intoWsFrame (payload : Bytes) : Option RawFrame :=
  if payload.IsValidUTF8 then (RawText.fromBytesUnchecked payload).map .text
  else some (.binary payload)

/-- Bytes that tungstenite has validated. -/
structure Utf8Bytes where
  bytes : Bytes
  valid : bytes.IsValidUTF8

def Utf8Bytes.fromStatic (s : String) : Utf8Bytes :=
  ⟨s.toByteArray, s.isValidUTF8⟩

/-- Safety: the bytes must be valid UTF-8. -/
def Utf8Bytes.fromBytesUnchecked (bytes : Bytes) : Option Utf8Bytes :=
  if valid : bytes.IsValidUTF8 then some ⟨bytes, valid⟩ else none

/-- The close codes of tungstenite. -/
structure CloseCodes where
  Code : Type
  fromU16 : UInt16 → Code
  toU16 : Code → UInt16
  lossless : ∀ code, toU16 (fromU16 code) = code

structure TungCloseFrame (codes : CloseCodes) where
  code : codes.Code
  reason : Utf8Bytes

/-- A raw frame is never read from a stream; what it holds does not matter. -/
inductive TungsteniteMessage (codes : CloseCodes) where
  | text (text : Utf8Bytes)
  | binary (bytes : Bytes)
  | ping (bytes : Bytes)
  | pong (bytes : Bytes)
  | close (frame : Option (TungCloseFrame codes))
  | frame (raw : Bytes)

variable {codes : CloseCodes}

namespace Client

def mapWsError (context error : String) : WebSocketError :=
  .transportError context error

def closeToCore (frame : Option (TungCloseFrame codes)) : Option WsCloseFrame :=
  frame.map fun f => ⟨codes.toU16 f.code, f.reason.bytes⟩

def coreToClose (codes : CloseCodes) (frame : WsCloseFrame) : Option (TungCloseFrame codes) := do
  let reason ←
    if frame.reason.IsValidUTF8 then Utf8Bytes.fromBytesUnchecked frame.reason
    else some (Utf8Bytes.fromStatic "")
  return ⟨codes.fromU16 frame.code, reason⟩

def msgToFrame : TungsteniteMessage codes → Option (Except WebSocketError RawFrame)
  | .text text => (RawText.fromBytesUnchecked text.bytes).map fun text => .ok (.text text)
  | .binary bytes => some (.ok (.binary bytes))
  | .ping bytes => some (.ok (.ping bytes))
  | .pong bytes => some (.ok (.pong bytes))
  | .close frame => some (.ok (.close (closeToCore frame)))
  | .frame _ => some (.error (mapWsError "read" "unexpected raw frame"))

def frameToMsg (codes : CloseCodes) : RawFrame → Option (TungsteniteMessage codes)
  | .text text => (Utf8Bytes.fromBytesUnchecked text.bytes).map .text
  | .binary bytes => some (.binary bytes)
  | .ping bytes => some (.ping bytes)
  | .pong bytes => some (.pong bytes)
  | .close none => some (.close none)
  | .close (some frame) => (coreToClose codes frame).map fun frame => .close (some frame)

end Client

namespace Transport

def mapWsError (context error : String) : WebSocketError :=
  .transportError context error

def closeToCore (frame : Option (TungCloseFrame codes)) : Option WsCloseFrame :=
  frame.map fun f => ⟨codes.toU16 f.code, f.reason.bytes⟩

def coreToClose (codes : CloseCodes) (frame : WsCloseFrame) : Option (TungCloseFrame codes) := do
  let reason ←
    if frame.reason.IsValidUTF8 then Utf8Bytes.fromBytesUnchecked frame.reason
    else some (Utf8Bytes.fromStatic "")
  return ⟨codes.fromU16 frame.code, reason⟩

def msgToFrame : TungsteniteMessage codes → Option (Except WebSocketError RawFrame)
  | .text text => (RawText.fromBytesUnchecked text.bytes).map fun text => .ok (.text text)
  | .binary bytes => some (.ok (.binary bytes))
  | .ping bytes => some (.ok (.ping bytes))
  | .pong bytes => some (.ok (.pong bytes))
  | .close frame => some (.ok (.close (closeToCore frame)))
  | .frame _ => some (.error (mapWsError "read" "unexpected raw frame"))

def frameToMsg (codes : CloseCodes) : RawFrame → Option (TungsteniteMessage codes)
  | .text text => (Utf8Bytes.fromBytesUnchecked text.bytes).map .text
  | .binary bytes => some (.binary bytes)
  | .ping bytes => some (.ping bytes)
  | .pong bytes => some (.pong bytes)
  | .close none => some (.close none)
  | .close (some frame) => (coreToClose codes frame).map fun frame => .close (some frame)

end Transport

/-- A frame that carries the validity of its text, as the source represents it. -/
def raw : WsFrame → RawFrame
  | .text text => .text ⟨text.bytes⟩
  | .binary bytes => .binary bytes
  | .ping bytes => .ping bytes
  | .pong bytes => .pong bytes
  | .close frame => .close frame

/-- How a frame comes about: a text from bytes that were checked, from a literal, by
`into_ws_frame` or from a message of either copy; any other frame from any payload. -/
inductive Built (codes : CloseCodes) : RawFrame → Prop where
  | validated {bytes : Bytes} {text : RawText} (checked : RawText.tryFromBytes bytes = .ok text) :
    Built codes (.text text)
  | literal (s : String) : Built codes (.text (RawText.fromStatic s))
  | converted {bytes : Bytes} {frame : RawFrame} (made : intoWsFrame bytes = some frame) :
    Built codes frame
  | received {message : TungsteniteMessage codes} {frame : RawFrame}
    (made : Client.msgToFrame message = some (.ok frame)) : Built codes frame
  | receivedByTransport {message : TungsteniteMessage codes} {frame : RawFrame}
    (made : Transport.msgToFrame message = some (.ok frame)) : Built codes frame
  | binary (bytes : Bytes) : Built codes (.binary bytes)
  | ping (bytes : Bytes) : Built codes (.ping bytes)
  | pong (bytes : Bytes) : Built codes (.pong bytes)
  | close (frame : Option WsCloseFrame) : Built codes (.close frame)

theorem fromBytesUnchecked_valid (text : Utf8Bytes) :
    RawText.fromBytesUnchecked text.bytes = some ⟨text.bytes⟩ :=
  if_pos text.valid

/-- `into_ws_frame` is the same function on both representations. -/
theorem intoWsFrame_eq (bytes : Bytes) :
    intoWsFrame bytes = some (raw (WsFrames.intoWsFrame bytes)) := by
  rw [intoWsFrame, WsFrames.intoWsFrame]
  by_cases valid : bytes.IsValidUTF8
  · rw [if_pos valid, dif_pos valid, RawText.fromBytesUnchecked, if_pos valid]
    rfl
  · rw [if_neg valid, dif_neg valid]
    rfl

/-- Reading a message is always defined, and a frame it gives carries its validity. -/
theorem msgToFrame_spec (message : TungsteniteMessage codes) :
    (∃ frame, Client.msgToFrame message = some (.ok (raw frame))) ∨
      ∃ error, Client.msgToFrame message = some (.error error) := by
  cases message with
  | text text =>
    refine .inl ⟨.text ⟨text.bytes, text.valid⟩, ?_⟩
    rw [Client.msgToFrame, fromBytesUnchecked_valid]
    rfl
  | binary bytes => exact .inl ⟨.binary bytes, rfl⟩
  | ping bytes => exact .inl ⟨.ping bytes, rfl⟩
  | pong bytes => exact .inl ⟨.pong bytes, rfl⟩
  | close frame => exact .inl ⟨.close (Client.closeToCore frame), rfl⟩
  | frame bytes => exact .inr ⟨_, rfl⟩

theorem raw_of_received {message : TungsteniteMessage codes} {frame : RawFrame}
    (made : Client.msgToFrame message = some (.ok frame)) : ∃ certified, raw certified = frame := by
  rcases msgToFrame_spec message with ⟨certified, same⟩ | ⟨error, same⟩
  · rw [made] at same
    simp only [Option.some.injEq, Except.ok.injEq] at same
    exact ⟨certified, same.symm⟩
  · rw [made] at same
    simp at same

/-- Every way to build a frame establishes the validity of its text. -/
theorem raw_of_built {frame : RawFrame} (built : Built codes frame) :
    ∃ certified, raw certified = frame := by
  cases built with
  | @validated bytes text checked =>
    rw [RawText.tryFromBytes] at checked
    by_cases valid : bytes.IsValidUTF8
    · rw [if_pos valid] at checked
      obtain rfl := Except.ok.inj checked
      exact ⟨.text ⟨bytes, valid⟩, rfl⟩
    · simp [valid] at checked
  | literal s => exact ⟨.text ⟨s.toByteArray, s.isValidUTF8⟩, rfl⟩
  | @converted bytes frame made =>
    rw [intoWsFrame_eq] at made
    exact ⟨_, Option.some.inj made⟩
  | received made => exact raw_of_received made
  | @receivedByTransport message _ made =>
    have read : Client.msgToFrame message = some (.ok frame) := made
    exact raw_of_received read
  | binary bytes => exact ⟨.binary bytes, rfl⟩
  | ping bytes => exact ⟨.ping bytes, rfl⟩
  | pong bytes => exact ⟨.pong bytes, rfl⟩
  | close frame => exact ⟨.close frame, rfl⟩

/-- A close reason that is not valid UTF-8 is dropped. -/
def cleanedClose (frame : WsCloseFrame) : WsCloseFrame :=
  if frame.reason.IsValidUTF8 then frame else { frame with reason := ByteArray.empty }

/-- What becomes of a frame on its way through a message. -/
def cleaned : RawFrame → RawFrame
  | .close (some frame) => .close (some (cleanedClose frame))
  | frame => frame

theorem coreToClose_spec (codes : CloseCodes) (frame : WsCloseFrame) :
    ∃ sent, Client.coreToClose codes frame = some sent ∧
      Client.closeToCore (some sent) = some (cleanedClose frame) := by
  obtain ⟨code, reason⟩ := frame
  by_cases valid : reason.IsValidUTF8
  · refine ⟨⟨codes.fromU16 code, ⟨reason, valid⟩⟩, ?_, ?_⟩
    · simp [Client.coreToClose, Utf8Bytes.fromBytesUnchecked, valid]
    · simp [Client.closeToCore, cleanedClose, valid, codes.lossless]
  · refine ⟨⟨codes.fromU16 code, .fromStatic ""⟩, ?_, ?_⟩
    · simp [Client.coreToClose, valid]
    · simp [Client.closeToCore, cleanedClose, valid, codes.lossless, Utf8Bytes.fromStatic]

theorem round_trip (codes : CloseCodes) (frame : WsFrame) :
    ∃ message, Client.frameToMsg codes (raw frame) = some message ∧
      Client.msgToFrame message = some (.ok (cleaned (raw frame))) := by
  cases frame with
  | text text =>
    refine ⟨.text ⟨text.bytes, text.valid⟩, ?_, ?_⟩
    · simp [Client.frameToMsg, raw, Utf8Bytes.fromBytesUnchecked, text.valid]
    · rw [Client.msgToFrame, fromBytesUnchecked_valid]
      rfl
  | binary bytes => exact ⟨.binary bytes, rfl, rfl⟩
  | ping bytes => exact ⟨.ping bytes, rfl, rfl⟩
  | pong bytes => exact ⟨.pong bytes, rfl, rfl⟩
  | close frame =>
    cases frame with
    | none => exact ⟨.close none, rfl, rfl⟩
    | some frame =>
      obtain ⟨sent, made, back⟩ := coreToClose_spec codes frame
      refine ⟨.close (some sent), ?_, ?_⟩
      · simp [Client.frameToMsg, raw, made]
      · rw [Client.msgToFrame, back]
        rfl

/-- The two copies compute the same functions. -/
structure Agree (codes : CloseCodes) : Prop where
  closeToCore : ∀ frame : Option (TungCloseFrame codes),
    Client.closeToCore frame = Transport.closeToCore frame
  coreToClose : ∀ frame, Client.coreToClose codes frame = Transport.coreToClose codes frame
  msgToFrame : ∀ message : TungsteniteMessage codes,
    Client.msgToFrame message = Transport.msgToFrame message
  frameToMsg : ∀ frame, Client.frameToMsg codes frame = Transport.frameToMsg codes frame

theorem copies_agree (codes : CloseCodes) : Agree codes :=
  ⟨fun _ => rfl, fun _ => rfl, fun _ => rfl, fun _ => rfl⟩

/-- Conversion is lossless and safe. Bytes become a text exactly when they are valid UTF-8 and
are kept. Every text that is built is valid, so that no unchecked conversion is undefined: not
reading it as a string, not sending a frame, not receiving a message. A frame comes back from its
message unchanged, up to a close reason that is not valid UTF-8. The two copies agree. -/
theorem conversion_lossless (codes : CloseCodes) :
    (∀ bytes, ∃ frame, intoWsFrame bytes = some frame ∧ frameBytes frame = some bytes ∧
      frame = if bytes.IsValidUTF8 then .text ⟨bytes⟩ else .binary bytes) ∧
    (∀ frame, Built codes frame →
      (∀ text, frame = .text text →
        text.bytes.IsValidUTF8 ∧ ∃ s, text.asStr = some s ∧ s.toByteArray = text.bytes) ∧
      ∃ message, Client.frameToMsg codes frame = some message ∧
        Client.msgToFrame message = some (.ok (cleaned frame))) ∧
    (∀ message : TungsteniteMessage codes, (Client.msgToFrame message).isSome = true) ∧
    Agree codes := by
  refine ⟨?_, ?_, ?_, copies_agree codes⟩
  · intro bytes
    refine ⟨_, intoWsFrame_eq bytes, ?_⟩
    by_cases valid : bytes.IsValidUTF8
    · simp [WsFrames.intoWsFrame, valid, raw, frameBytes]
    · simp [WsFrames.intoWsFrame, valid, raw, frameBytes]
  · intro frame built
    obtain ⟨certified, rfl⟩ := raw_of_built built
    refine ⟨?_, round_trip codes certified⟩
    intro text same
    cases certified with
    | text payload =>
      obtain rfl := RawFrame.text.inj same
      exact ⟨payload.valid, ⟨payload.bytes, payload.valid⟩, dif_pos payload.valid, rfl⟩
    | _ => cases same
  · intro message
    rcases msgToFrame_spec message with ⟨frame, made⟩ | ⟨error, made⟩
    · rw [made]
      rfl
    · rw [made]
      rfl

/-- Codes that are their own numbers. -/
def plainCodes : CloseCodes where
  Code := UInt16
  fromU16 := id
  toU16 := id
  lossless _ := rfl

-- A close reason that is no text is lost on the way, and only it.
example : ((Client.frameToMsg plainCodes (.close (some ⟨1000, ⟨#[0xFF]⟩⟩))).bind
    Client.msgToFrame).map Except.toOption =
      some (some (.close (some ⟨1000, ByteArray.empty⟩))) := by
  decide +kernel

end FrameConversion
