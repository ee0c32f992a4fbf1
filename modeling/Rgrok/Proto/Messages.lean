/-
# Control messages and errors

`crates/rgrok-proto/src/messages.rs` and `crates/rgrok-proto/src/errors.rs`.

The two message enumerations of the control channel, the tunnel description
they carry, and the part of `TunnelError` the tunnel store returns, with the
texts its `Display` prints.
-/

import Mathlib.Data.Nat.Notation

namespace Rgrok

/-- `TunnelType`; `remote_port` is the port a TCP tunnel asks for, or gets. -/
inductive TunnelType
  | http
  | https
  | tcp (remotePort : Option UInt16)
deriving DecidableEq, Repr

/-- `BasicAuthConfig`. -/
structure BasicAuthConfig where
  username : String
  password : String
deriving DecidableEq, Repr

/-- `TunnelOptions`. -/
structure TunnelOptions where
  hostHeader : Option String
  inspect : Bool
  responseHeader : List (String × String)
deriving DecidableEq, Repr

/-- `ClientMsg`: what a client writes on the control stream. -/
inductive ClientMsg
  | auth (token version : String)
  | tunnelRequest (id : String) (tunnelType : TunnelType) (subdomain : Option String)
      (basicAuth : Option BasicAuthConfig) (options : TunnelOptions)
  | ping (seq : UInt64)
  | streamAck (correlationId : UInt32)
deriving DecidableEq, Repr

/-- `ServerMsg`: what the server writes on the control stream. -/
inductive ServerMsg
  | authOk (sessionId : String)
  | authErr (reason : String)
  | tunnelAck (id publicUrl : String) (tunnelType : TunnelType)
  | streamOpen (correlationId : UInt32) (tunnelId : String)
  | pong (seq : UInt64)
  | error (code : UInt32) (message : String)
deriving DecidableEq, Repr

/-- The errors of `TunnelError` that the tunnel store returns. -/
inductive TunnelError
  | subdomainTaken (subdomain : String)
  | noPortsAvailable (start stop : UInt16)
  | tcpPortTaken (port : UInt16)
  | tcpPortOutOfRange (port start stop : UInt16)
  | capacityExceeded (max : ℕ)
deriving DecidableEq, Repr

/-- `Display` of `TunnelError`. -/
def TunnelError.toString : TunnelError → String
  | .subdomainTaken subdomain => s!"subdomain '{subdomain}' is already in use"
  | .noPortsAvailable start stop => s!"no TCP ports available in range {start}-{stop}"
  | .tcpPortTaken port => s!"TCP port {port} is already in use"
  | .tcpPortOutOfRange port start stop =>
      s!"TCP port {port} is outside configured range {start}-{stop}"
  | .capacityExceeded max => s!"tunnel capacity exhausted (maximum {max})"

end Rgrok
