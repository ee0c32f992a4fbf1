/-
# Taking a tunnel down again

The cleanup at the end of `handle_client` (`control.rs`),
`shutdown_tcp_tunnel_if_owner` and `reap_idle_tunnels` (`tunnel_manager.rs`),
the TCP listener task (`control.rs`, `serve_tcp_tunnel_on_listener` in
`proxy.rs`), and the release tasks left behind by a slow listener.

Three of these can remove the same tunnel; whichever finds it in the map is
returned the session and has to do the rest.
-/

import Rgrok.Server.Lifecycle

namespace Rgrok
namespace Lifecycle

/-! ### Cleanup of a connection -/

/-- One iteration of the loop over `registered_subdomains`. -/
def cleanupHttp (l : Lifecycle) (c : ℕ) : Option Lifecycle :=
  match l.tasks.control c with
  | .cleanup .http =>
      match (l.registered c).subdomains with
      | [] => some (l.setControl c (.cleanup .tcp))
      | (subdomain, session) :: rest =>
          let registered := Function.update l.registered c
            { l.registered c with subdomains := rest }
          match l.state.unregisterTunnelIfOwner subdomain session with
          | some (removed, state) =>
              some { ({ l with state := state }.setControl c (.cleanup (.httpDns removed))) with
                registered := registered
                removed := removed.arc :: l.removed }
          | none => some { l with registered := registered }
  | _ => none

/-- `delete_dns_record` for a removed HTTP tunnel. -/
def cleanupHttpDns (l : Lifecycle) (c : ℕ) : Option Lifecycle :=
  match l.tasks.control c with
  | .cleanup (.httpDns removed) =>
      some ((l.deleteDnsRecord removed).setControl c (.cleanup .http))
  | _ => none

/-- One iteration of the loop over `registered_tcp_ports`; after the last one
`handle_client` returns and drops its receiver. -/
def cleanupTcp (l : Lifecycle) (c : ℕ) : Option Lifecycle :=
  match l.tasks.control c with
  | .cleanup .tcp =>
      match (l.registered c).tcpPorts with
      | [] => some (l.setControl c .done)
      | (port, session) :: rest =>
          let registered := Function.update l.registered c { l.registered c with tcpPorts := rest }
          match l.state.removeTcpTunnelIfOwner port session with
          | some (removed, state) =>
              some { ({ l with state := state }.setControl c
                  (.cleanup (.tcpShutdown (.take port removed)))) with
                registered := registered
                removed := removed.arc :: l.removed }
          | none => some { l with registered := registered }
  | _ => none

/-- `delete_dns_record` for a removed TCP tunnel. -/
def cleanupTcpDns (l : Lifecycle) (c : ℕ) : Option Lifecycle :=
  match l.tasks.control c with
  | .cleanup (.tcpDns removed) =>
      some ((l.deleteDnsRecord removed).setControl c (.cleanup .tcp))
  | _ => none

/-! ### `shutdown_tcp_tunnel_if_owner` -/

/-- `removed.listener_stopped.lock().await.take()`. -/
def shutdownTake (l : Lifecycle) (caller : Caller) : Option Lifecycle :=
  match l.tasks.shutdown caller with
  | some (.take port removed) =>
      if (l.state.cells removed.arc).listenerStopped then
        some { l with
          state := l.state.updateCell removed.arc fun cell => { cell with listenerStopped := false }
          tasks := l.tasks.setShutdown (.wait port removed) caller }
      else
        some { l with tasks := l.tasks.setShutdown (.release port removed) caller }
  | _ => none

/-- The listener's stop signal arrives within the five seconds. -/
def shutdownStopped (l : Lifecycle) (caller : Caller) : Option Lifecycle :=
  match l.tasks.shutdown caller with
  | some (.wait port removed) =>
      if (l.state.cells removed.arc).stopSignal then
        some { l with tasks := l.tasks.setShutdown (.release port removed) caller }
      else
        none
  | _ => none

/-- The five seconds pass first: count the retained reservation and leave its
release to a new task. -/
def shutdownTimeout (l : Lifecycle) (caller : Caller) : Option Lifecycle :=
  match l.tasks.shutdown caller with
  | some (.wait port removed) =>
      if (l.state.cells removed.arc).stopSignal then
        none
      else
        some { l with
          state := { l.state with
            tcpReservationsRetained := l.state.tcpReservationsRetained + 1 }
          tasks := (l.tasks.endShutdown removed caller).setRelease l.nextRelease
            (.wait port removed.id removed.arc)
          nextRelease := l.nextRelease + 1 }
  | _ => none

/-- Release the port and return the removed session. -/
def shutdownRelease (l : Lifecycle) (caller : Caller) : Option Lifecycle :=
  match l.tasks.shutdown caller with
  | some (.release port removed) =>
      some { l with
        state := l.state.releaseTcpPortReservation port removed.id
        tasks := l.tasks.endShutdown removed caller }
  | _ => none

/-- A release task sees the stop signal and releases the port. -/
def releaseStopped (l : Lifecycle) (i : ℕ) : Option Lifecycle :=
  match l.tasks.release i with
  | .wait port owner arc =>
      if (l.state.cells arc).stopSignal then
        some ({ l with state := l.state.releaseTcpPortReservation port owner }.setRelease i .dec)
      else
        none
  | _ => none

/-- A release task takes the reservation off the gauge and ends. -/
def releaseDec (l : Lifecycle) (i : ℕ) : Option Lifecycle :=
  match l.tasks.release i with
  | .dec =>
      some ({ l with
        state := { l.state with
          tcpReservationsRetained := l.state.tcpReservationsRetained - 1 } }.setRelease i .done)
  | _ => none

/-! ### The TCP listener task -/

/-- `serve_tcp_tunnel_on_listener` returns, which drops the socket. -/
def stopListening (l : Lifecycle) (r : ℕ) : Option Lifecycle :=
  match l.tasks.listener r with
  | .running port session =>
      some { l.setListener r (.stopped port session) with
        sockets := l.sockets.erase (port, session.arc) }
  | _ => none

/-- `listener_stopped_tx.send(())`. -/
def signalStopped (l : Lifecycle) (r : ℕ) : Option Lifecycle :=
  match l.tasks.listener r with
  | .stopped port session =>
      some ({ l with
        state := l.state.updateCell session.arc fun cell =>
          { cell with stopSignal := true } }.setListener r (.signalled port session))
  | _ => none

/-- The listener task removes its own tunnel, if nobody did before. -/
def listenerRemove (l : Lifecycle) (r : ℕ) : Option Lifecycle :=
  match l.tasks.listener r with
  | .signalled port session =>
      match l.state.removeTcpTunnelIfOwner port session with
      | some (removed, state) =>
          some { ({ l with state := state }.setListener r (.release port removed)) with
            removed := removed.arc :: l.removed }
      | none => some (l.setListener r .done)
  | _ => none

/-- The listener task releases the port of the tunnel it removed. -/
def listenerRelease (l : Lifecycle) (r : ℕ) : Option Lifecycle :=
  match l.tasks.listener r with
  | .release port removed =>
      some ({ l with
        state := l.state.releaseTcpPortReservation port removed.id }.setListener r
          (.deleteDns removed))
  | _ => none

/-- `delete_dns_record` in the listener task. -/
def listenerDns (l : Lifecycle) (r : ℕ) : Option Lifecycle :=
  match l.tasks.listener r with
  | .deleteDns removed => some ((l.deleteDnsRecord removed).setListener r .done)
  | _ => none

/-! ### `reap_idle_tunnels` -/

/-- The interval ticks at `now`. -/
def reapTick (l : Lifecycle) (now : ℕ) : Option Lifecycle :=
  match l.tasks.reaper with
  | .sleeping => some (l.setReaper (.collectHttp now []))
  | _ => none

/-- The server is cancelled while the reaper waits for its interval. -/
def reapStop (l : Lifecycle) : Option Lifecycle :=
  match l.tasks.reaper with
  | .sleeping => some (l.setReaper .stopped)
  | _ => none

/-- The iteration over `tunnels` finds the tunnel at `subdomain` idle. -/
def reapFoundHttp (l : Lifecycle) (subdomain : String) : Option Lifecycle :=
  match l.tasks.reaper with
  | .collectHttp now candidates =>
      (l.state.tunnels.lookup subdomain).map fun session =>
        l.setReaper (.collectHttp now (candidates ++ [(subdomain, session)]))
  | _ => none

/-- All HTTP candidates are collected. -/
def reapHttpCollected (l : Lifecycle) : Option Lifecycle :=
  match l.tasks.reaper with
  | .collectHttp now candidates => some (l.setReaper (.closeHttp now candidates))
  | _ => none

/-- One iteration over the HTTP candidates. -/
def reapHttp (l : Lifecycle) : Option Lifecycle :=
  match l.tasks.reaper with
  | .closeHttp now [] => some (l.setReaper (.collectTcp now []))
  | .closeHttp now ((subdomain, session) :: rest) =>
      match l.state.unregisterTunnelIfOwner subdomain session with
      | some (removed, state) =>
          some { ({ l with state := state }.setReaper (.notifyHttp now removed rest)) with
            removed := removed.arc :: l.removed }
      | none => some (l.setReaper (.closeHttp now rest))
  | _ => none

/-- The `try_send` of the idle notice is over, for an HTTP or a TCP tunnel. -/
def reapNotified (l : Lifecycle) : Option Lifecycle :=
  match l.tasks.reaper with
  | .notifyHttp now removed rest => some (l.setReaper (.dnsHttp now removed rest))
  | .notifyTcp removed rest => some (l.setReaper (.dnsTcp removed rest))
  | _ => none

/-- `delete_dns_record` for a tunnel the reaper removed. -/
def reapDns (l : Lifecycle) : Option Lifecycle :=
  match l.tasks.reaper with
  | .dnsHttp now removed rest =>
      some ((l.deleteDnsRecord removed).setReaper (.closeHttp now rest))
  | .dnsTcp removed rest => some ((l.deleteDnsRecord removed).setReaper (.closeTcp rest))
  | _ => none

/-- The iteration over `tcp_tunnels` finds the tunnel at `port` idle. -/
def reapFoundTcp (l : Lifecycle) (port : UInt16) : Option Lifecycle :=
  match l.tasks.reaper with
  | .collectTcp now candidates =>
      (l.state.tcpTunnels.lookup port).map fun session =>
        l.setReaper (.collectTcp now (candidates ++ [(port, session)]))
  | _ => none

/-- All TCP candidates are collected. -/
def reapTcpCollected (l : Lifecycle) : Option Lifecycle :=
  match l.tasks.reaper with
  | .collectTcp _ candidates => some (l.setReaper (.closeTcp candidates))
  | _ => none

/-- One iteration over the TCP candidates. -/
def reapTcp (l : Lifecycle) : Option Lifecycle :=
  match l.tasks.reaper with
  | .closeTcp [] => some (l.setReaper .sleeping)
  | .closeTcp ((port, session) :: rest) =>
      match l.state.removeTcpTunnelIfOwner port session with
      | some (removed, state) =>
          some { ({ l with state := state }.setReaper (.shutdown (.take port removed) rest)) with
            removed := removed.arc :: l.removed }
      | none => some (l.setReaper (.closeTcp rest))
  | _ => none

end Lifecycle
end Rgrok
