/-
# Every interleaving of the tasks

One action per step of `Lifecycle.lean` and `Teardown.lean`.  The machine takes
any enabled step of any task next, so its runs are the interleavings of any
number of connections, listeners and release tasks with the reaper.

What only depends on state outside the tunnel store (whether the token is
revoked, the control queue full, a tunnel idle) is left open here: the causes
in the actions say why a step was taken, and the files that model that state
restrict when it can be.
-/

import Rgrok.Lib.Machine
import Rgrok.Server.Teardown

namespace Rgrok
namespace Lifecycle

/-- Why the control loop ends. -/
inductive BreakCause
  | readFailed
  | writeFailed
  | cancelled
  | revoked
deriving DecidableEq

/-- Why the control loop starts over: a queued message was written, or the
revocation epoch changed and the token is still good. -/
inductive ContinueCause
  | sent
  | epochChanged
deriving DecidableEq

/-- Why `serve_tcp_tunnel_on_listener` returns. -/
inductive StopCause
  | acceptFailed
  | serverCancelled
  | tunnelCancelled
  | idleCancelled
deriving DecidableEq

/-- A step of some task. -/
inductive Action
  | accept (c : ℕ)
  | enterLoop (c : ℕ)
  | enterSelect (c : ℕ)
  | continueLoop (c : ℕ) (cause : ContinueCause)
  | breakLoop (c : ℕ) (cause : BreakCause)
  | handleControlMsg (c : ℕ) (msg : ClientMsg) (draw : SubdomainDraw)
  | reserve (c : ℕ)
  | hashBasicAuth (c : ℕ) (hashPassword : String → Except String String)
  | createDns (c : ℕ) (createRecord : String → String → Except String String)
  | newSession (c : ℕ)
  | register (c : ℕ)
  | bind (c : ℕ) (bound : Except String Unit)
  | registerTcp (c : ℕ)
  | releaseSetup (c : ℕ)
  | replied (c : ℕ)
  | deleteFailedDns (c : ℕ)
  | cleanupHttp (c : ℕ)
  | cleanupHttpDns (c : ℕ)
  | cleanupTcp (c : ℕ)
  | cleanupTcpDns (c : ℕ)
  | shutdownTake (caller : Caller)
  | shutdownStopped (caller : Caller)
  | shutdownTimeout (caller : Caller)
  | shutdownRelease (caller : Caller)
  | releaseStopped (i : ℕ)
  | releaseDec (i : ℕ)
  | stopListening (r : ℕ) (cause : StopCause)
  | signalStopped (r : ℕ)
  | listenerRemove (r : ℕ)
  | listenerRelease (r : ℕ)
  | listenerDns (r : ℕ)
  | reapTick (now : ℕ)
  | reapStop
  | reapFoundHttp (subdomain : String)
  | reapHttpCollected
  | reapHttp
  | reapNotified
  | reapDns
  | reapFoundTcp (port : UInt16)
  | reapTcpCollected
  | reapTcp

/-- The task that takes the step. -/
def Action.task : Action → Task
  | .accept c | .enterLoop c | .enterSelect c | .continueLoop c _ | .breakLoop c _
  | .handleControlMsg c _ _ | .reserve c | .hashBasicAuth c _ | .createDns c _ | .newSession c
  | .register c | .bind c _ | .registerTcp c | .releaseSetup c | .replied c | .deleteFailedDns c
  | .cleanupHttp c | .cleanupHttpDns c | .cleanupTcp c | .cleanupTcpDns c => .control c
  | .shutdownTake caller | .shutdownStopped caller | .shutdownTimeout caller
  | .shutdownRelease caller => caller.task
  | .releaseStopped i | .releaseDec i => .release i
  | .stopListening r _ | .signalStopped r | .listenerRemove r | .listenerRelease r
  | .listenerDns r => .listener r
  | .reapTick _ | .reapStop | .reapFoundHttp _ | .reapHttpCollected | .reapHttp | .reapNotified
  | .reapDns | .reapFoundTcp _ | .reapTcpCollected | .reapTcp => .reaper

/-- The step function of all tasks together. -/
def step (l : Lifecycle) : Action → Option Lifecycle
  | .accept c => l.accept c
  | .enterLoop c => l.enterLoop c
  | .enterSelect c => l.enterSelect c
  | .continueLoop c _ => l.continueLoop c
  | .breakLoop c _ => l.breakLoop c
  | .handleControlMsg c msg draw => l.handleControlMsg c msg draw
  | .reserve c => l.reserve c
  | .hashBasicAuth c hashPassword => l.hashBasicAuth c hashPassword
  | .createDns c createRecord => l.createDns c createRecord
  | .newSession c => l.newSession c
  | .register c => l.register c
  | .bind c bound => l.bind c bound
  | .registerTcp c => l.registerTcp c
  | .releaseSetup c => l.releaseSetup c
  | .replied c => l.replied c
  | .deleteFailedDns c => l.deleteFailedDns c
  | .cleanupHttp c => l.cleanupHttp c
  | .cleanupHttpDns c => l.cleanupHttpDns c
  | .cleanupTcp c => l.cleanupTcp c
  | .cleanupTcpDns c => l.cleanupTcpDns c
  | .shutdownTake caller => l.shutdownTake caller
  | .shutdownStopped caller => l.shutdownStopped caller
  | .shutdownTimeout caller => l.shutdownTimeout caller
  | .shutdownRelease caller => l.shutdownRelease caller
  | .releaseStopped i => l.releaseStopped i
  | .releaseDec i => l.releaseDec i
  | .stopListening r _ => l.stopListening r
  | .signalStopped r => l.signalStopped r
  | .listenerRemove r => l.listenerRemove r
  | .listenerRelease r => l.listenerRelease r
  | .listenerDns r => l.listenerDns r
  | .reapTick now => l.reapTick now
  | .reapStop => l.reapStop
  | .reapFoundHttp subdomain => l.reapFoundHttp subdomain
  | .reapHttpCollected => l.reapHttpCollected
  | .reapHttp => l.reapHttp
  | .reapNotified => l.reapNotified
  | .reapDns => l.reapDns
  | .reapFoundTcp port => l.reapFoundTcp port
  | .reapTcpCollected => l.reapTcpCollected
  | .reapTcp => l.reapTcp

/-- All interleavings of a server with this configuration. -/
def machine (config : Config) : Machine Lifecycle Action where
  init l := l = new config
  step := step

/-! ### On whose behalf a step is taken -/

/-- The session a task works for: the request being set up, the session whose
turn it is in a cleanup or reaper loop, or the one being taken down. -/
def onBehalf (l : Lifecycle) : Task → Option ℕ
  | .control c =>
      match l.tasks.control c with
      | .handling h => h.arc
      | .cleanup .http => (l.registered c).subdomains.head?.map fun entry => entry.2.arc
      | .cleanup .tcp => (l.registered c).tcpPorts.head?.map fun entry => entry.2.arc
      | .cleanup (.httpDns removed) | .cleanup (.tcpDns removed) => some removed.arc
      | .cleanup (.tcpShutdown sd) => some sd.removed.arc
      | _ => none
  | .listener r =>
      match l.tasks.listener r with
      | .running _ session | .stopped _ session | .signalled _ session => some session.arc
      | .release _ removed | .deleteDns removed => some removed.arc
      | _ => none
  | .reaper =>
      match l.tasks.reaper with
      | .closeHttp _ ((_, session) :: _) => some session.arc
      | .closeTcp ((_, session) :: _) => some session.arc
      | .notifyHttp _ removed _ | .dnsHttp _ removed _ | .notifyTcp removed _
      | .dnsTcp removed _ => some removed.arc
      | .shutdown sd _ => some sd.removed.arc
      | _ => none
  | .release i =>
      match l.tasks.release i with
      | .wait _ _ arc => some arc
      | _ => none

end Lifecycle
end Rgrok
