/-
# Server configuration

`crates/rgrok-server/src/config.rs`.

The settings the modelled parts of the server read, the shipped defaults and
what `validate` asks of a configuration.
-/

import Mathlib.Data.Nat.Notation
import Rgrok.Proto.Authority

namespace Rgrok

/-- The part of `ServerConfig` the control plane and the proxy read.
`tcpPortRange` is half open. -/
structure ServerConfig where
  domain : String
  publicIp : Option String
  tcpPortRange : UInt16 × UInt16
  maxTunnels : ℕ
  tunnelIdleTimeoutSecs : ℕ
  maxRequestBodyBytes : ℕ
  maxResponseBodyBytes : ℕ
deriving DecidableEq

/-- `AuthConfig`. -/
structure AuthConfig where
  secret : String
  tokens : List String
  revokedJtis : List String
deriving DecidableEq

/-- The part of `CloudflareConfig` that decides about DNS records. -/
structure CloudflareConfig where
  apiToken : String
  zoneId : String
  perTunnelDns : Bool
deriving DecidableEq

/-- `InspectConfig`. -/
structure InspectConfig where
  uiPort : UInt16
  uiBind : String
  bufferSize : ℕ
  uiAuthToken : Option String
deriving DecidableEq

/-- `Config`. -/
structure Config where
  server : ServerConfig
  auth : AuthConfig
  cloudflare : CloudflareConfig
  inspect : InspectConfig
deriving DecidableEq

/-- `Config::default`. -/
def Config.default : Config where
  server :=
    { domain := "tunnel.example.com"
      publicIp := none
      tcpPortRange := (10000, 20000)
      maxTunnels := 100
      tunnelIdleTimeoutSecs := 300
      maxRequestBodyBytes := 16 * 1024 * 1024
      maxResponseBodyBytes := 16 * 1024 * 1024 }
  auth :=
    { secret := "aaaaaaaaaaaaaaaaaaaaaaaaaaaaaaaa"
      tokens := []
      revokedJtis := [] }
  cloudflare :=
    { apiToken := ""
      zoneId := ""
      perTunnelDns := false }
  inspect :=
    { uiPort := 0
      uiBind := "127.0.0.1"
      bufferSize := 100
      uiAuthToken := none }

/-! ### `validate` -/

/-- `is_loopback_bind`. -/
def isLoopbackBind (bind : String) : Bool :=
  let bind := Text.trim bind
  (parseIpAddr bind).any IpAddr.isLoopback || isLoopbackAuthority bind

/-- `is_placeholder_secret`. -/
def isPlaceholderSecret (secret : String) : Bool :=
  let normalized := Text.toAsciiLowercase (Text.trim secret)
  ["changeme", "change_me", "change-me", "change-this-to", "generate_with", "replace_with",
    "your-secret", "your_secret", "<your", "placeholder", "example.com"].any
    fun marker => Text.contains marker normalized

/-- The part of `validate` about `cloudflare`. -/
def Config.validateCloudflare (config : Config) : Except String Unit :=
  if !config.cloudflare.perTunnelDns then
    .ok ()
  else if config.cloudflare.apiToken.isEmpty || config.cloudflare.zoneId.isEmpty then
    .error "cloudflare.api_token and cloudflare.zone_id are required when per_tunnel_dns is enabled"
  else
    match config.server.publicIp with
    | none => .error "server.public_ip is required when cloudflare.per_tunnel_dns is enabled"
    | some publicIp =>
        if (parseIpv4Addr publicIp).isNone then
          .error "server.public_ip must be a valid IPv4 address"
        else
          .ok ()

/-- The part of `validate` about `inspect`. -/
def Config.validateInspect (config : Config) : Except String Unit :=
  if config.inspect.uiPort == 0 || isLoopbackBind config.inspect.uiBind then
    .ok ()
  else
    match (config.inspect.uiAuthToken.map Text.trim).filter fun token => !token.isEmpty with
    | none =>
        .error "inspect.ui_auth_token must be configured when inspect.ui_bind is non-loopback"
    | some token =>
        if isPlaceholderSecret token then
          .error ("inspect.ui_auth_token must not be a placeholder when inspect.ui_bind is " ++
            "non-loopback")
        else
          .ok ()

/-- `Config::validate`.  Lengths are in bytes, as `str::len` counts them. -/
def Config.validate (config : Config) : Except String Unit :=
  if config.auth.secret.utf8ByteSize < 32 then
    .error "auth.secret must be at least 32 characters"
  else if isPlaceholderSecret config.auth.secret then
    .error ("auth.secret must not be a placeholder; replace it with a randomly generated secret " ++
      "(for example, `openssl rand -hex 32`)")
  else if config.server.domain.isEmpty then
    .error "server.domain must be set"
  else if config.server.tcpPortRange.1 ≥ config.server.tcpPortRange.2 then
    .error "server.tcp_port_range start must be less than end"
  else if config.server.tunnelIdleTimeoutSecs = 0 then
    .error "server.tunnel_idle_timeout_secs must be greater than zero"
  else
    match config.validateCloudflare with
    | .error e => .error e
    | .ok () =>
        if config.server.maxRequestBodyBytes = 0 then
          .error "server.max_request_body_bytes must be greater than zero"
        else if config.server.maxResponseBodyBytes = 0 then
          .error "server.max_response_body_bytes must be greater than zero"
        else
          config.validateInspect

/-- `tunnel_idle_timeout_secs` as a `Duration`, in nanoseconds. -/
def Config.idleTimeout (config : Config) : ℕ :=
  config.server.tunnelIdleTimeoutSecs * 10 ^ 9

/-- The ports `start..end` of `tcp_port_range`, in increasing order. -/
def Config.tcpPorts (config : Config) : List UInt16 :=
  (List.range' config.server.tcpPortRange.1.toNat
    (config.server.tcpPortRange.2.toNat - config.server.tcpPortRange.1.toNat)).map UInt16.ofNat

/-- `(start..end).contains(&port)`. -/
def Config.inTcpPortRange (config : Config) (port : UInt16) : Bool :=
  config.server.tcpPortRange.1 ≤ port && port < config.server.tcpPortRange.2

theorem Config.inTcpPortRange_of_mem_tcpPorts {config : Config} {port : UInt16}
    (h : port ∈ config.tcpPorts) : config.inTcpPortRange port = true := by
  obtain ⟨n, hn, rfl⟩ := List.mem_map.1 h
  rw [List.mem_range'_1] at hn
  have hlt : n < 2 ^ 16 := by
    have := config.server.tcpPortRange.2.toNat_lt
    omega
  have hto : (UInt16.ofNat n).toNat = n := by
    rw [UInt16.toNat_ofNat', Nat.mod_eq_of_lt hlt]
  simp only [inTcpPortRange, Bool.and_eq_true, decide_eq_true_eq, UInt16.le_iff_toNat_le,
    UInt16.lt_iff_toNat_lt, hto]
  omega

end Rgrok
