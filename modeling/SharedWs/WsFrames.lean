import Mathlib.Data.Option.Basic

/-!
# Transport-neutral frames

The frame surface of `core/frame.rs`. A text payload carries the proof that its
bytes are valid UTF-8, so the unchecked conversions of the source have no
counterpart here: an invalid text frame cannot be built.
-/
namespace WsFrames

abbrev Bytes := ByteArray

instance : DecidableEq Bytes := ByteArray.instDecidableEq

/-- `WsText`: bytes with the validity that its constructors establish. -/
structure WsText where
  bytes : Bytes
  valid : bytes.IsValidUTF8
  deriving DecidableEq

structure WsCloseFrame where
  code : UInt16
  reason : Bytes
  deriving DecidableEq

inductive WsFrame where
  | text (payload : WsText)
  | binary (payload : Bytes)
  | ping (payload : Bytes)
  | pong (payload : Bytes)
  | close (frame : Option WsCloseFrame)
  deriving DecidableEq

def frameBytes : WsFrame → Option Bytes
  | .text text => some text.bytes
  | .binary bytes | .ping bytes | .pong bytes => some bytes
  | .close _ => none

/-- Text when the bytes are valid UTF-8, binary otherwise. -/
def intoWsFrame (payload : Bytes) : WsFrame :=
  if valid : payload.IsValidUTF8 then .text ⟨payload, valid⟩ else .binary payload

def intoWsMessage (payload : Bytes) : WsFrame := intoWsFrame payload

end WsFrames
