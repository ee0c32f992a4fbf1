/-
# The tunnel store

`crates/rgrok-server/src/tunnel_manager.rs`, the parts of `ServerState` that
decide which names and ports are taken.

Three maps share one capacity: published HTTP tunnels by subdomain, published
TCP tunnels by port, and reservations held while a tunnel is set up or torn
down.  The `reservations` mutex is held through every function below, so each
one is a single critical section: a function from the state to the state, with
the error the source returns when it changes nothing.

An `Arc<TunnelSession>` is a `TunnelSession` with the identity `Arc::ptr_eq`
compares in `arc`; the fields that change behind the `Arc` live in `cells`,
indexed by that identity.  A reservation stores the owner string the source
stores; `arc` beside it records which request or session the entry was made
for, and no function reads it.
-/

import Mathlib.Logic.Function.Basic
import Rgrok.Lib.Assoc
import Rgrok.Proto.Inspect
import Rgrok.Proto.Messages
import Rgrok.Server.Config

namespace Rgrok

/-- `ReservationKey`. -/
inductive ReservationKey
  | http (subdomain : String)
  | tcp (port : UInt16)
deriving DecidableEq

/-- An entry of `reservations`: the owner id, and on whose behalf it was made. -/
structure Reservation where
  owner : String
  arc : ℕ
deriving DecidableEq

/-- `TunnelSession`, the fields that never change.  `conn` is the control
connection whose `control_tx` and `stream_state` the session holds. -/
structure TunnelSession where
  arc : ℕ
  conn : ℕ
  id : String
  tunnelType : TunnelType
  subdomain : String
  basicAuthUsername : Option String
  basicAuthHash : Option String
  options : TunnelOptions
  dnsRecordId : Option String
deriving DecidableEq

/-- `make_test_session`: a session of connection 0 with no options. -/
def makeTestSession (subdomain id : String) (arc : ℕ) : TunnelSession where
  arc := arc
  conn := 0
  id := id
  tunnelType := .http
  subdomain := subdomain
  basicAuthUsername := none
  basicAuthHash := none
  options := { hostHeader := none, inspect := false, responseHeader := [] }
  dnsRecordId := none

/-- The cancellation state behind an `Arc<TunnelSession>`.  `listenerStopped`
is whether the mutex still holds the receiver, `stopSignal` whether its sender
has fired. -/
structure SessionCell where
  cancel : Bool
  idleCancel : Bool
  listenerStopped : Bool
  stopSignal : Bool
deriving DecidableEq

/-- A session's tokens as `handle_control_msg` creates them. -/
def SessionCell.new : SessionCell :=
  { cancel := false, idleCancel := false, listenerStopped := false, stopSignal := false }

/-- `ServerState`; the two gauges are the ones of `Metrics` it maintains. -/
structure ServerState where
  config : Config
  tunnels : AList fun _ : String => TunnelSession
  tcpTunnels : AList fun _ : UInt16 => TunnelSession
  reservations : AList fun _ : ReservationKey => Reservation
  captures : AList fun _ : String => List CapturedRequest
  cells : ℕ → SessionCell
  activeTunnels : ℤ
  tcpReservationsRetained : ℤ

namespace ServerState

/-- `ServerState::new`. -/
def new (config : Config) : ServerState where
  config := config
  tunnels := ∅
  tcpTunnels := ∅
  reservations := ∅
  captures := ∅
  cells := fun _ => .new
  activeTunnels := 0
  tcpReservationsRetained := 0

/-- `self.tunnels.len() + self.tcp_tunnels.len() + reservations.len()`. -/
def occupied (s : ServerState) : ℕ :=
  s.tunnels.size + s.tcpTunnels.size + s.reservations.size

/-- `at_capacity`. -/
def atCapacity (s : ServerState) : Bool :=
  s.config.server.maxTunnels ≤ s.occupied

/-- Whether a reservation of `key` stands under the owner id `owner`. -/
def ownsReservation (s : ServerState) (key : ReservationKey) (owner : String) : Bool :=
  (s.reservations.lookup key).any fun current => current.owner == owner

/-- Cancel tokens or move the stop receiver of one session. -/
def updateCell (s : ServerState) (arc : ℕ) (f : SessionCell → SessionCell) : ServerState :=
  { s with cells := Function.update s.cells arc (f (s.cells arc)) }

/-- `register_tunnel`.  The `Entry::Occupied` arm repeats the `contains_key`
test under the same lock. -/
def registerTunnel (s : ServerState) (session : TunnelSession) : Except TunnelError ServerState :=
  let key := ReservationKey.http session.subdomain
  let owns := s.ownsReservation key session.id
  if (s.reservations.lookup key).isSome && !owns then
    .error (.subdomainTaken session.subdomain)
  else if (s.tunnels.lookup session.subdomain).isSome then
    .error (.subdomainTaken session.subdomain)
  else if !owns && s.atCapacity then
    .error (.capacityExceeded s.config.server.maxTunnels)
  else
    .ok { s with
      tunnels := s.tunnels.insert session.subdomain session
      reservations := if owns then s.reservations.erase key else s.reservations
      captures := s.captures.insert session.subdomain []
      activeTunnels := s.activeTunnels + 1 }

/-- `reserve_http_tunnel`, on behalf of the request `arc`. -/
def reserveHttpTunnel (s : ServerState) (subdomain owner : String) (arc : ℕ) :
    Except TunnelError ServerState :=
  if (s.tunnels.lookup subdomain).isSome || (s.reservations.lookup (.http subdomain)).isSome then
    .error (.subdomainTaken subdomain)
  else if s.atCapacity then
    .error (.capacityExceeded s.config.server.maxTunnels)
  else
    .ok { s with reservations := s.reservations.insert (.http subdomain) ⟨owner, arc⟩ }

/-- The common body of the two release functions: drop the reservation of `key`
if `owner` holds it. -/
def releaseReservation (s : ServerState) (key : ReservationKey) (owner : String) : ServerState :=
  if s.ownsReservation key owner then { s with reservations := s.reservations.erase key } else s

/-- `release_http_tunnel`. -/
def releaseHttpTunnel (s : ServerState) (subdomain owner : String) : ServerState :=
  s.releaseReservation (.http subdomain) owner

/-- `release_tcp_port_reservation`. -/
def releaseTcpPortReservation (s : ServerState) (port : UInt16) (owner : String) : ServerState :=
  s.releaseReservation (.tcp port) owner

/-- `remove_tunnel_if_owner`; without an owner any session is removed. -/
def removeTunnelIfOwner (s : ServerState) (subdomain : String) (owner : Option TunnelSession) :
    Option (TunnelSession × ServerState) :=
  match s.tunnels.lookup subdomain with
  | none => none
  | some current =>
      if owner.all fun session => current.arc == session.arc then
        some (current, { s with
          tunnels := s.tunnels.erase subdomain
          captures := s.captures.erase subdomain
          cells := (s.updateCell current.arc fun cell => { cell with idleCancel := true }).cells
          activeTunnels := s.activeTunnels - 1 })
      else
        none

/-- `unregister_tunnel_if_owner`. -/
def unregisterTunnelIfOwner (s : ServerState) (subdomain : String) (session : TunnelSession) :
    Option (TunnelSession × ServerState) :=
  s.removeTunnelIfOwner subdomain (some session)

/-- The port a `reserve_tcp_port` call tries to reserve. -/
def chooseTcpPort (s : ServerState) : Option UInt16 → Except TunnelError UInt16
  | some port =>
      if s.config.inTcpPortRange port then .ok port
      else
        .error (.tcpPortOutOfRange port s.config.server.tcpPortRange.1
          s.config.server.tcpPortRange.2)
  | none =>
      match s.config.tcpPorts.find? fun port =>
          !(s.tcpTunnels.lookup port).isSome && !(s.reservations.lookup (.tcp port)).isSome with
      | some port => .ok port
      | none =>
          .error (.noPortsAvailable s.config.server.tcpPortRange.1 s.config.server.tcpPortRange.2)

/-- `reserve_tcp_port`, on behalf of the request `arc`. -/
def reserveTcpPort (s : ServerState) (requested : Option UInt16) (owner : String) (arc : ℕ) :
    Except TunnelError (UInt16 × ServerState) :=
  match s.chooseTcpPort requested with
  | .error e => .error e
  | .ok port =>
      if (s.tcpTunnels.lookup port).isSome || (s.reservations.lookup (.tcp port)).isSome then
        .error (.tcpPortTaken port)
      else if s.atCapacity then
        .error (.capacityExceeded s.config.server.maxTunnels)
      else
        .ok (port, { s with reservations := s.reservations.insert (.tcp port) ⟨owner, arc⟩ })

/-- `try_register_tcp_tunnel`. -/
def tryRegisterTcpTunnel (s : ServerState) (port : UInt16) (session : TunnelSession) :
    Except TunnelError ServerState :=
  let key := ReservationKey.tcp port
  let owns := s.ownsReservation key session.id
  if !s.config.inTcpPortRange port then
    .error (.tcpPortOutOfRange port s.config.server.tcpPortRange.1 s.config.server.tcpPortRange.2)
  else if (s.reservations.lookup key).isSome && !owns then
    .error (.tcpPortTaken port)
  else if (s.tcpTunnels.lookup port).isSome then
    .error (.tcpPortTaken port)
  else if !owns && s.atCapacity then
    .error (.capacityExceeded s.config.server.maxTunnels)
  else
    .ok { s with
      tcpTunnels := s.tcpTunnels.insert port session
      reservations := if owns then s.reservations.erase key else s.reservations
      activeTunnels := s.activeTunnels + 1 }

/-- `remove_tcp_tunnel_if_owner`: the port goes back to being reserved, under
the id of the session that leaves it. -/
def removeTcpTunnelIfOwner (s : ServerState) (port : UInt16) (session : TunnelSession) :
    Option (TunnelSession × ServerState) :=
  match s.tcpTunnels.lookup port with
  | none => none
  | some current =>
      if current.arc == session.arc then
        some (current, { s with
          tcpTunnels := s.tcpTunnels.erase port
          reservations := s.reservations.insert (.tcp port) ⟨current.id, current.arc⟩
          cells := (s.updateCell current.arc fun cell =>
            { cell with cancel := true, idleCancel := true }).cells
          activeTunnels := s.activeTunnels - 1 })
      else
        none

/-- `create_dns_record`; `createRecord` is `CloudflareClient::create_record`,
given the record's name and address. -/
def createDnsRecord (s : ServerState) (subdomain : String)
    (createRecord : String → String → Except String String) : Except String (Option String) :=
  if s.config.cloudflare.perTunnelDns then
    match s.config.server.publicIp with
    | none =>
        .error "server.public_ip is required when cloudflare.per_tunnel_dns is enabled"
    | some publicIp =>
        let name := subdomain ++ "." ++ s.config.server.domain
        match createRecord name publicIp with
        | .ok recordId => .ok (some recordId)
        | .error error => .error s!"failed to create DNS record for {name}: {error}"
  else
    .ok none

/-- The record id `delete_dns_record` passes on to the DNS client, if any. -/
def deletedDnsRecord (s : ServerState) (session : TunnelSession) : Option String :=
  if s.config.cloudflare.perTunnelDns then session.dnsRecordId else none

end ServerState

end Rgrok
