/-
# Messages on a stream

`encode_msg` and `decode_msg` in `crates/rgrok-proto/src/messages.rs`,
`read_msg_from_stream` and `write_msg_to_stream` in `transport.rs`.

The encoding is MessagePack, from a library; it is a parameter here.
-/

import Rgrok.Lib.Framing
import Rgrok.Proto.Messages

namespace Rgrok

/-- `encode_msg` and `decode_msg` for one message type. -/
structure MsgCodec (μ : Type*) where
  encode : μ → List UInt8
  decode : List UInt8 → Option μ

/-- The bytes that `write_msg_to_stream` writes. -/
def MsgCodec.writeMsgToStream {μ : Type*} (codec : MsgCodec μ) (msg : μ) : List UInt8 :=
  Framing.frame (codec.encode msg)

/-- `read_msg_from_stream` between its two `read_exact`s; `none` is the error
"message too large". -/
def checkLength (bytes : List UInt8) : Option Framing.Reader :=
  let len := UInt32.ofBeBytes bytes
  if 1048576 < len then none else some (.body len [])

end Rgrok
