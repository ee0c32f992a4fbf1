/-
# The client's control session

`crates/rgrok-client/src/tunnel.rs`: `authenticate_and_register`,
`classify_auth_response`, `classify_registration_response` and what
`run_session` does with the messages of the server.
-/

import Rgrok.Proto.Messages

namespace Rgrok

/-- The part of `TunnelConfig` that goes into a `TunnelRequest`. -/
structure TunnelConfig where
  tunnelType : TunnelType
  subdomain : Option String
  basicAuth : Option BasicAuthConfig
  options : TunnelOptions
deriving DecidableEq

/-- The `TunnelRequest` with the id `req_id`. -/
def TunnelConfig.request (cfg : TunnelConfig) (id : String) : ClientMsg :=
  .tunnelRequest id cfg.tunnelType cfg.subdomain cfg.basicAuth cfg.options

/-- `TunnelRegistration`. -/
structure TunnelRegistration where
  publicUrl : String
  tunnelType : TunnelType
deriving DecidableEq

/-- `SessionFailure`, with the text of its error. -/
inductive SessionFailure
  | transient (error : String)
  | permanent (error : String)
deriving DecidableEq

/-- `classify_auth_response`. -/
def classifyAuthResponse : ServerMsg → Except SessionFailure String
  | .authOk sessionId => .ok sessionId
  | .authErr reason => .error (.permanent ("Authentication failed: " ++ reason))
  | _ => .error (.permanent "Unexpected server response during auth")

/-- `classify_registration_response`. -/
def classifyRegistrationResponse : ServerMsg → Except SessionFailure TunnelRegistration
  | .tunnelAck _ publicUrl tunnelType => .ok { publicUrl := publicUrl, tunnelType := tunnelType }
  | .error code message =>
      if 500 ≤ code || code == 409 || code == 429 then
        .error (.transient s!"Tunnel creation temporarily failed ({code}): {message}")
      else
        .error (.permanent s!"Tunnel creation failed ({code}): {message}")
  | _ => .error (.permanent "Unexpected server response during tunnel registration")

/-- Where the client of a connection stands: in `authenticate_and_register`
before and after the authentication, in `run_session`, or past either of them.
`other` is a connection that no client of this program has made. -/
inductive ClientPhase
  | other
  | authenticating (cfg : TunnelConfig)
  | registering (id : String) (cfg : TunnelConfig)
  | running (registration : TunnelRegistration)
  | failed (failure : SessionFailure)
  | disconnected
deriving DecidableEq

end Rgrok
