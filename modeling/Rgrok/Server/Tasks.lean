/-
# The tasks of the server and where each one stands

`crates/rgrok-server/src/control.rs` and `tunnel_manager.rs`.

Four kinds of task change the tunnel store: one `handle_client` task per
control connection, one listener task per TCP tunnel, the reaper loop, and the
tasks that `shutdown_tcp_tunnel_if_owner` leaves behind when a listener does
not stop in time.  A phase is the place in the source where a task may be
suspended, with the local variables it still needs; between two phases a task
makes at most one access to state it shares with the others.

Where a later step relies on what an earlier one established (only a TCP tunnel
has a port, and it has no DNS record), the phase carries the fact.
-/

import Mathlib.Logic.Function.Basic
import Rgrok.Server.TunnelManager

namespace Rgrok

/-- `TunnelType::Tcp { .. }`. -/
def TunnelType.isTcp : TunnelType → Bool
  | .tcp _ => true
  | .http | .https => false

/-- What `handle_control_msg` knows of a request before it reserves anything.
`arc` is the identity the session will have. -/
structure Setup where
  arc : ℕ
  id : String
  tunnelType : TunnelType
  subdomain : String
  basicAuth : Option BasicAuthConfig
  options : TunnelOptions

/-- The local variables after the reservation: a TCP tunnel, and no other, has a
port. -/
structure ReservedSetup extends Setup where
  tcpPort : Option UInt16
  basicAuthHash : Option String
  kind : tcpPort.isSome = tunnelType.isTcp

/-- What the request reserved: a port for a TCP tunnel, else the subdomain. -/
def ReservedSetup.key (u : ReservedSetup) : ReservationKey :=
  match u.tcpPort with
  | some port => .tcp port
  | none => .http u.subdomain

theorem ReservedSetup.key_of_tcpPort_eq_none {u : ReservedSetup} (h : u.tcpPort = none) :
    u.key = .http u.subdomain := by
  rw [key, h]

theorem ReservedSetup.key_of_tcpPort_eq_some {u : ReservedSetup} {port : UInt16}
    (h : u.tcpPort = some port) : u.key = .tcp port := by
  rw [key, h]

/-- The local variables once the session can be built.  No DNS record is made
for a TCP tunnel. -/
structure PreparedSetup extends ReservedSetup where
  dnsRecordId : Option String
  noTcpRecord : tcpPort ≠ none → dnsRecordId = none

/-- The session `handle_control_msg` builds, for the connection `c`. -/
def PreparedSetup.session (u : PreparedSetup) (c : ℕ) : TunnelSession where
  arc := u.arc
  conn := c
  id := u.id
  tunnelType := u.tunnelType
  subdomain := u.subdomain
  basicAuthUsername := u.basicAuth.map BasicAuthConfig.username
  basicAuthHash := u.basicAuthHash
  options := u.options
  dnsRecordId := u.dnsRecordId

/-- Where `handle_control_msg` stands.  `release` is the failure of a step before
registration, `releaseFailed` a failed `register_tunnel`, whose DNS record is
deleted after the error reply. -/
inductive Handling
  | reserve (u : Setup)
  | hash (u : ReservedSetup)
  | createDns (u : ReservedSetup) (http : u.tcpPort = none)
  | newSession (u : PreparedSetup)
  | register (session : TunnelSession)
  | bind (session : TunnelSession) (port : UInt16) (noRecord : session.dnsRecordId = none)
  | registerTcp (session : TunnelSession) (port : UInt16) (noRecord : session.dnsRecordId = none)
  | release (key : ReservationKey) (owner : String) (arc : ℕ) (msg : ServerMsg)
  | releaseFailed (session : TunnelSession) (msg : ServerMsg)
  | reply (msg : ServerMsg) (failed : Option TunnelSession)
  | deleteDns (session : TunnelSession)

/-- The request or session `handle_control_msg` is working on. -/
def Handling.arc : Handling → Option ℕ
  | .reserve u => some u.arc
  | .hash u | .createDns u _ => some u.arc
  | .newSession u => some u.arc
  | .register session | .bind session _ _ | .registerTcp session _ _ | .releaseFailed session _
  | .deleteDns session => some session.arc
  | .release _ _ arc _ => some arc
  | .reply _ failed => failed.map TunnelSession.arc

/-- Where `shutdown_tcp_tunnel_if_owner` stands, after it removed the tunnel. -/
inductive Shutdown
  | take (port : UInt16) (removed : TunnelSession)
  | wait (port : UInt16) (removed : TunnelSession)
  | release (port : UInt16) (removed : TunnelSession)

/-- The port being freed. -/
def Shutdown.port : Shutdown → UInt16
  | .take port _ | .wait port _ | .release port _ => port

/-- The session that was removed. -/
def Shutdown.removed : Shutdown → TunnelSession
  | .take _ removed | .wait _ removed | .release _ removed => removed

/-- Where the cleanup at the end of `handle_client` stands. -/
inductive Cleanup
  | http
  | httpDns (removed : TunnelSession)
  | tcp
  | tcpShutdown (sd : Shutdown)
  | tcpDns (removed : TunnelSession)

/-- Where `handle_client` stands.  `authed` is after the revocation check and
before `AuthOk` is written; `select` is inside the `select!`. -/
inductive ControlPhase
  | vacant
  | authed
  | loopTop
  | select
  | handling (h : Handling)
  | cleanup (k : Cleanup)
  | done

/-- Where a TCP listener task stands: in its accept loop, after
`serve_tcp_tunnel_on_listener` returned and dropped the socket, after the stop
signal, between removing the tunnel and releasing the port, or before the DNS
deletion. -/
inductive ListenerPhase
  | absent
  | running (port : UInt16) (session : TunnelSession)
  | stopped (port : UInt16) (session : TunnelSession)
  | signalled (port : UInt16) (session : TunnelSession)
  | release (port : UInt16) (removed : TunnelSession)
  | deleteDns (removed : TunnelSession)
  | done

/-- Where the reaper loop stands: candidates are collected one entry at a time
and closed afterwards, first HTTP then TCP.  `now` is the instant of the tick. -/
inductive ReaperPhase
  | sleeping
  | collectHttp (now : ℕ) (candidates : List (String × TunnelSession))
  | closeHttp (now : ℕ) (candidates : List (String × TunnelSession))
  | notifyHttp (now : ℕ) (removed : TunnelSession) (rest : List (String × TunnelSession))
  | dnsHttp (now : ℕ) (removed : TunnelSession) (rest : List (String × TunnelSession))
  | collectTcp (now : ℕ) (candidates : List (UInt16 × TunnelSession))
  | closeTcp (candidates : List (UInt16 × TunnelSession))
  | shutdown (sd : Shutdown) (rest : List (UInt16 × TunnelSession))
  | notifyTcp (removed : TunnelSession) (rest : List (UInt16 × TunnelSession))
  | dnsTcp (removed : TunnelSession) (rest : List (UInt16 × TunnelSession))
  | stopped

/-- Where a task spawned after the five-second timeout stands. -/
inductive ReleasePhase
  | idle
  | wait (port : UInt16) (owner : String) (arc : ℕ)
  | dec
  | done

/-- A task that works on the tunnel store. -/
inductive Task
  | control (conn : ℕ)
  | listener (arc : ℕ)
  | reaper
  | release (index : ℕ)
deriving DecidableEq

/-- Who is running `shutdown_tcp_tunnel_if_owner`. -/
inductive Caller
  | cleanup (conn : ℕ)
  | reaper
deriving DecidableEq

def Caller.task : Caller → Task
  | .cleanup c => .control c
  | .reaper => .reaper

/-- The phase of every task. -/
structure Tasks where
  control : ℕ → ControlPhase
  listener : ℕ → ListenerPhase
  reaper : ReaperPhase
  release : ℕ → ReleasePhase

/-! ### Moving one task -/

namespace Tasks

def setControl (t : Tasks) (c : ℕ) (ph : ControlPhase) : Tasks :=
  { t with control := Function.update t.control c ph }

def setListener (t : Tasks) (r : ℕ) (ph : ListenerPhase) : Tasks :=
  { t with listener := Function.update t.listener r ph }

def setReaper (t : Tasks) (ph : ReaperPhase) : Tasks :=
  { t with reaper := ph }

def setRelease (t : Tasks) (i : ℕ) (ph : ReleasePhase) : Tasks :=
  { t with release := Function.update t.release i ph }

/-- How far the caller's `shutdown_tcp_tunnel_if_owner` has come. -/
def shutdown (t : Tasks) : Caller → Option Shutdown
  | .cleanup c =>
      match t.control c with
      | .cleanup (.tcpShutdown sd) => some sd
      | _ => none
  | .reaper =>
      match t.reaper with
      | .shutdown sd _ => some sd
      | _ => none

/-- Move the caller on inside `shutdown_tcp_tunnel_if_owner`. -/
def setShutdown (t : Tasks) (sd : Shutdown) : Caller → Tasks
  | .cleanup c => t.setControl c (.cleanup (.tcpShutdown sd))
  | .reaper =>
      t.setReaper (match t.reaper with
        | .shutdown _ rest => .shutdown sd rest
        | ph => ph)

/-- `shutdown_tcp_tunnel_if_owner` returns `Some(removed)` to its caller. -/
def endShutdown (t : Tasks) (removed : TunnelSession) : Caller → Tasks
  | .cleanup c => t.setControl c (.cleanup (.tcpDns removed))
  | .reaper =>
      t.setReaper (match t.reaper with
        | .shutdown _ rest => .notifyTcp removed rest
        | ph => ph)

variable (t : Tasks) (c r i : ℕ)

@[simp] theorem control_setControl_self (ph : ControlPhase) : (t.setControl c ph).control c = ph :=
  Function.update_self ..

theorem control_setControl (ph : ControlPhase) (c' : ℕ) :
    (t.setControl c ph).control c' = if c' = c then ph else t.control c' :=
  Function.update_apply ..

@[simp] theorem listener_setControl (ph : ControlPhase) :
    (t.setControl c ph).listener = t.listener := rfl

@[simp] theorem reaper_setControl (ph : ControlPhase) : (t.setControl c ph).reaper = t.reaper := rfl

@[simp] theorem release_setControl (ph : ControlPhase) :
    (t.setControl c ph).release = t.release := rfl

@[simp] theorem control_setListener (ph : ListenerPhase) :
    (t.setListener r ph).control = t.control := rfl

theorem listener_setListener (ph : ListenerPhase) (r' : ℕ) :
    (t.setListener r ph).listener r' = if r' = r then ph else t.listener r' :=
  Function.update_apply ..

@[simp] theorem reaper_setListener (ph : ListenerPhase) :
    (t.setListener r ph).reaper = t.reaper := rfl

@[simp] theorem release_setListener (ph : ListenerPhase) :
    (t.setListener r ph).release = t.release := rfl

@[simp] theorem control_setReaper (ph : ReaperPhase) : (t.setReaper ph).control = t.control := rfl

@[simp] theorem listener_setReaper (ph : ReaperPhase) :
    (t.setReaper ph).listener = t.listener := rfl

@[simp] theorem reaper_setReaper (ph : ReaperPhase) : (t.setReaper ph).reaper = ph := rfl

@[simp] theorem release_setReaper (ph : ReaperPhase) : (t.setReaper ph).release = t.release := rfl

@[simp] theorem control_setRelease (ph : ReleasePhase) :
    (t.setRelease i ph).control = t.control := rfl

@[simp] theorem listener_setRelease (ph : ReleasePhase) :
    (t.setRelease i ph).listener = t.listener := rfl

@[simp] theorem reaper_setRelease (ph : ReleasePhase) :
    (t.setRelease i ph).reaper = t.reaper := rfl

theorem release_setRelease (ph : ReleasePhase) (i' : ℕ) :
    (t.setRelease i ph).release i' = if i' = i then ph else t.release i' :=
  Function.update_apply ..

end Tasks
end Rgrok
