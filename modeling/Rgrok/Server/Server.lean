/-
# The server with its public traffic

The tunnel lifecycle together with what the files before left open: the control
channel of every connection (`control_tx` and `control_rx` in `control.rs`), the
requests and connections that public visitors make (`proxy_http_request` and
`serve_tcp_tunnel_on_listener` in `proxy.rs`) and the replays of captured
requests (`replay_http_request`), the activity of every tunnel (`touch`,
`stream_started`, `stream_finished`, `is_idle` in `tunnel_manager.rs`), and the
clock.

A step of the lifecycle or of the stream correlation is taken only when the
rest of the server lets it (`allows`, `allowsStream`), and has an effect on the
rest.  `lastPublic` and `lastHttpEnd` record when a tunnel last saw the start or
end of a request or connection, and the end of an HTTP request; no step reads
them.  Instants are in nanoseconds.
-/

import Rgrok.Lib.Channel
import Rgrok.Server.Correlation
import Rgrok.Server.Interleaving

namespace Rgrok

/-- Who sends on a control channel and may have to wait. -/
inductive Sender
  | control
  | request (r : ℕ)
deriving DecidableEq

/-- A control channel. -/
abbrev ControlChannel : Type :=
  Channel Sender ServerMsg

/-- `mpsc::channel::<ServerMsg>(64)`. -/
def controlCapacity : ℕ :=
  64

/-- Where a public request or connection stands.

An HTTP request has found its tunnel, or has been let in and is proxied, or is
the replay of one.  A TCP connection was accepted, then touched the tunnel, was
counted, is proxied, has ended, was taken off the count. -/
inductive PublicPhase
  | idle
  | found (session : TunnelSession)
  | http (session : TunnelSession)
  | replay (session : TunnelSession)
  | accepted (session : TunnelSession)
  | spawned (session : TunnelSession)
  | counted (session : TunnelSession)
  | tcp (session : TunnelSession)
  | closing (session : TunnelSession)
  | uncounted (session : TunnelSession)
  | ended
deriving DecidableEq

/-- The tunnel of the request or connection. -/
def PublicPhase.session : PublicPhase → Option TunnelSession
  | .found session | .http session | .replay session | .accepted session | .spawned session
  | .counted session | .tcp session | .closing session | .uncounted session => some session
  | .idle | .ended => none

/-- The tunnel that a stream may be requested from. -/
def PublicPhase.proxied : PublicPhase → Option TunnelSession
  | .http session | .replay session | .tcp session => some session
  | .idle | .found _ | .accepted _ | .spawned _ | .counted _ | .closing _ | .uncounted _
  | .ended => none

/-- `last_activity` and `active_streams`. -/
structure Activity where
  lastActivity : ℕ
  activeStreams : ℕ

/-- The server. -/
structure Server where
  life : Lifecycle
  cancelled : Bool
  clock : ℕ
  channels : ℕ → ControlChannel
  streams : Correlation
  requests : ℕ → PublicPhase
  activity : ℕ → Activity
  loaded : Option ℕ
  lastPublic : ℕ → Option ℕ
  lastHttpEnd : ℕ → Option ℕ

namespace Server

/-- The server at its start. -/
def new (config : Config) : Server where
  life := .new config
  cancelled := false
  clock := 0
  channels := fun _ => .empty
  streams := .new
  requests := fun _ => .idle
  activity := fun _ => { lastActivity := 0, activeStreams := 0 }
  loaded := none
  lastPublic := fun _ => none
  lastHttpEnd := fun _ => none

def setRequest (s : Server) (r : ℕ) (ph : PublicPhase) : Server :=
  { s with requests := Function.update s.requests r ph }

def setChannel (s : Server) (c : ℕ) (ch : ControlChannel) : Server :=
  { s with channels := Function.update s.channels c ch }

def setActivity (s : Server) (arc : ℕ) (activity : Activity) : Server :=
  { s with activity := Function.update s.activity arc activity }

/-- The start or end of a request or connection of the tunnel `arc`. -/
def recordPublic (s : Server) (arc : ℕ) : Server :=
  { s with lastPublic := Function.update s.lastPublic arc (some s.clock) }

/-- `touch`. -/
def touch (s : Server) (arc : ℕ) : Server :=
  s.setActivity arc { s.activity arc with lastActivity := s.clock }

/-- `active_streams.fetch_add(1)`. -/
def countStream (s : Server) (arc : ℕ) : Server :=
  s.setActivity arc
    { s.activity arc with activeStreams := (s.activity arc).activeStreams + 1 }

/-- `active_streams.fetch_sub(1)`. -/
def uncountStream (s : Server) (arc : ℕ) : Server :=
  s.setActivity arc
    { s.activity arc with activeStreams := (s.activity arc).activeStreams - 1 }

/-- Whether the receiver of the control channel is gone. -/
def closed (s : Server) (c : ℕ) : Bool :=
  match s.life.tasks.control c with
  | .done => true
  | _ => false

/-- Whether the control task is inside its `select!`. -/
def selecting (s : Server) (c : ℕ) : Bool :=
  match s.life.tasks.control c with
  | .select => true
  | _ => false

/-! ### Steps of the lifecycle -/

/-- The rest of `is_idle`, after it found no active streams. -/
def isIdle (s : Server) (session : TunnelSession) (now : ℕ) : Bool :=
  s.loaded == some session.arc &&
    decide (s.life.state.config.idleTimeout ≤ now - (s.activity session.arc).lastActivity)

/-- When the rest of the server lets a step of the lifecycle happen. -/
def allows (s : Server) : Lifecycle.Action → Bool
  | .continueLoop c .sent => !(s.channels c).queue.isEmpty
  | .breakLoop c .readFailed => s.selecting c
  | .breakLoop c .writeFailed => s.selecting c && !(s.channels c).queue.isEmpty
  | .breakLoop c .cancelled => s.selecting c && s.cancelled
  | .replied c => (s.channels c).granted.contains .control
  | .stopListening _ .serverCancelled => s.cancelled
  | .stopListening r .tunnelCancelled => (s.life.state.cells r).cancel
  | .stopListening r .idleCancelled => (s.life.state.cells r).idleCancel
  | .reapTick now => now == s.clock
  | .reapStop => s.cancelled
  | .reapFoundHttp subdomain =>
      match s.life.tasks.reaper, s.life.state.tunnels.lookup subdomain with
      | .collectHttp now _, some session => s.isIdle session now
      | _, _ => false
  | .reapFoundTcp port =>
      match s.life.tasks.reaper, s.life.state.tcpTunnels.lookup port with
      | .collectTcp now _, some session => s.isIdle session now
      | _, _ => false
  | _ => true

/-- The notice the reaper sends. -/
def idleNotice : ServerMsg :=
  .error 408 "tunnel closed after idle timeout"

/-- `try_send` of the idle notice. -/
def notify (s : Server) (removed : TunnelSession) : ℕ → ControlChannel :=
  if s.closed removed.conn then s.channels
  else
    Function.update s.channels removed.conn
      ((s.channels removed.conn).trySend controlCapacity idleNotice)

/-- The control channels after a step of the lifecycle. -/
def channelsAfter (s : Server) : Lifecycle.Action → ℕ → ControlChannel
  | .enterLoop c => Function.update s.channels c .empty
  | .continueLoop c .sent | .breakLoop c .writeFailed =>
      Function.update s.channels c (s.channels c).recv
  | .replied c =>
      match s.life.tasks.control c with
      | .handling (.reply msg _) =>
          Function.update s.channels c ((s.channels c).push .control msg)
      | _ => s.channels
  | .reapNotified =>
      match s.life.tasks.reaper with
      | .notifyHttp _ removed _ | .notifyTcp removed _ => s.notify removed
      | _ => s.channels
  | _ => s.channels

/-- The activity records after a step of the lifecycle: a new session starts
with the current instant and no streams. -/
def activityAfter (s : Server) : Lifecycle.Action → ℕ → Activity
  | .newSession c =>
      match s.life.tasks.control c with
      | .handling (.newSession u) =>
          Function.update s.activity u.arc { lastActivity := s.clock, activeStreams := 0 }
      | _ => s.activity
  | _ => s.activity

/-- What `is_idle` has found out, after a step of the lifecycle. -/
def loadedAfter (s : Server) : Lifecycle.Action → Option ℕ
  | .reapFoundHttp _ | .reapFoundTcp _ => none
  | _ => s.loaded

/-- A step of the lifecycle. -/
def task (s : Server) (a : Lifecycle.Action) : Option Server :=
  if s.allows a then
    (s.life.step a).map fun life =>
      { s with
        life := life
        channels := s.channelsAfter a
        activity := s.activityAfter a
        loaded := s.loadedAfter a }
  else
    none

/-- `is_idle` reads `active_streams` of a tunnel, for the reaper, and finds no
streams. -/
def loadStreams (s : Server) (arc : ℕ) : Option Server :=
  match s.life.tasks.reaper with
  | .collectHttp _ _ | .collectTcp _ _ =>
      if (s.activity arc).activeStreams = 0 then some { s with loaded := some arc } else none
  | _ => none

/-! ### Sending on a control channel -/

/-- `handle_control_msg` gets to a `send`: it has a permit, or waits for one. -/
def pollReply (s : Server) (c : ℕ) : Option Server :=
  match s.life.tasks.control c with
  | .handling (.reply _ _) =>
      let ch := s.channels c
      if .control ∈ ch.granted ∨ .control ∈ ch.waiting then
        none
      else
        some (s.setChannel c (ch.acquire controlCapacity .control))
  | _ => none

/-- `request_proxy_stream` gets to the `send`. -/
def pollOpen (s : Server) (r : ℕ) : Option Server :=
  match s.streams.request r with
  | .sending t =>
      let ch := s.channels t.session.conn
      if s.closed t.session.conn ∨ .request r ∈ ch.granted ∨ .request r ∈ ch.waiting then
        none
      else
        some (s.setChannel t.session.conn (ch.acquire controlCapacity (.request r)))
  | _ => none

/-- When a step of the stream correlation can happen: a stream is requested by a
proxied request, and a `StreamOpen` is queued with a permit. -/
def allowsStream (s : Server) : Correlation.Action → Bool
  | .draw r session => (s.requests r).proxied == some session
  | .send r =>
      match s.streams.request r with
      | .sending t =>
          !s.closed t.session.conn && (s.channels t.session.conn).granted.contains (.request r)
      | _ => false
  | .sendFailed r =>
      match s.streams.request r with
      | .sending t => s.closed t.session.conn
      | _ => false
  | _ => true

/-- The control channels after a step of the stream correlation. -/
def channelsAfterStream (s : Server) : Correlation.Action → ℕ → ControlChannel
  | .send r =>
      match s.streams.request r with
      | .sending t =>
          Function.update s.channels t.session.conn
            ((s.channels t.session.conn).push (.request r) t.streamOpen)
      | _ => s.channels
  | .abandon r =>
      match s.streams.request r with
      | .sending t =>
          Function.update s.channels t.session.conn
            ((s.channels t.session.conn).cancel (.request r))
      | _ => s.channels
  | _ => s.channels

/-- A step of the stream correlation. -/
def stream (s : Server) (a : Correlation.Action) : Option Server :=
  if s.allowsStream a then
    (s.streams.step a).map fun streams =>
      { s with streams := streams, channels := s.channelsAfterStream a }
  else
    none

/-- Whether a request has no `request_proxy_stream` running. -/
def settled (s : Server) (r : ℕ) : Bool :=
  match s.streams.request r with
  | .idle | .done _ _ => true
  | _ => false

/-! ### `proxy_http_request` -/

/-- `state.tunnels.get(&subdomain)`, by a request or for a replay. -/
def lookup (s : Server) (r : ℕ) (subdomain : String) : Option Server :=
  match s.requests r with
  | .idle =>
      (s.life.state.tunnels.lookup subdomain).map fun session => s.setRequest r (.found session)
  | _ => none

/-- The visitor is not authorized. -/
def reject (s : Server) (r : ℕ) : Option Server :=
  match s.requests r with
  | .found _ => some (s.setRequest r .ended)
  | _ => none

/-- The visitor is let in, and the request touches the tunnel. -/
def startHttp (s : Server) (r : ℕ) : Option Server :=
  match s.requests r with
  | .found session =>
      some (((s.setRequest r (.http session)).touch session.arc).recordPublic session.arc)
  | _ => none

/-- The request is answered, fails, or is dropped with its visitor. -/
def endHttp (s : Server) (r : ℕ) : Option Server :=
  match s.requests r with
  | .http session =>
      if s.settled r then
        some { (s.setRequest r .ended).recordPublic session.arc with
          lastHttpEnd := Function.update s.lastHttpEnd session.arc (some s.clock) }
      else
        none
  | _ => none

/-! ### `replay_http_request` -/

/-- The captured request is sent again; the tunnel is not touched. -/
def startReplay (s : Server) (r : ℕ) : Option Server :=
  match s.requests r with
  | .found session => some (s.setRequest r (.replay session))
  | _ => none

/-- The replay is answered, or fails. -/
def endReplay (s : Server) (r : ℕ) : Option Server :=
  match s.requests r with
  | .replay _ => if s.settled r then some (s.setRequest r .ended) else none
  | _ => none

/-! ### `serve_tcp_tunnel_on_listener` -/

/-- The listener of the tunnel `arc` accepts a connection. -/
def acceptTcp (s : Server) (r arc : ℕ) : Option Server :=
  match s.requests r, s.life.tasks.listener arc with
  | .idle, .running _ session =>
      some ((s.setRequest r (.accepted session)).recordPublic session.arc)
  | _, _ => none

/-- `tunnel.touch()` before the connection's task is spawned. -/
def touchTcp (s : Server) (r : ℕ) : Option Server :=
  match s.requests r with
  | .accepted session => some ((s.setRequest r (.spawned session)).touch session.arc)
  | _ => none

/-- `stream_started` counts the connection. -/
def startStream (s : Server) (r : ℕ) : Option Server :=
  match s.requests r with
  | .spawned session => some ((s.setRequest r (.counted session)).countStream session.arc)
  | _ => none

/-- `stream_started` touches the tunnel. -/
def startTouch (s : Server) (r : ℕ) : Option Server :=
  match s.requests r with
  | .counted session => some ((s.setRequest r (.tcp session)).touch session.arc)
  | _ => none

/-- The connection ends, or the tunnel is cancelled. -/
def endTcp (s : Server) (r : ℕ) : Option Server :=
  match s.requests r with
  | .tcp session =>
      if s.settled r then
        some ((s.setRequest r (.closing session)).recordPublic session.arc)
      else
        none
  | _ => none

/-- `stream_finished` takes the connection off the count. -/
def finishStream (s : Server) (r : ℕ) : Option Server :=
  match s.requests r with
  | .closing session => some ((s.setRequest r (.uncounted session)).uncountStream session.arc)
  | _ => none

/-- `stream_finished` touches the tunnel. -/
def finishTouch (s : Server) (r : ℕ) : Option Server :=
  match s.requests r with
  | .uncounted session => some ((s.setRequest r .ended).touch session.arc)
  | _ => none

/-! ### The machine -/

/-- A step of the server, of a visitor or of the clock. -/
inductive Action
  | task (a : Lifecycle.Action)
  | stream (a : Correlation.Action)
  | tick (d : ℕ)
  | cancel
  | loadStreams (arc : ℕ)
  | pollReply (c : ℕ)
  | pollOpen (r : ℕ)
  | lookup (r : ℕ) (subdomain : String)
  | reject (r : ℕ)
  | startHttp (r : ℕ)
  | endHttp (r : ℕ)
  | startReplay (r : ℕ)
  | endReplay (r : ℕ)
  | acceptTcp (r arc : ℕ)
  | touchTcp (r : ℕ)
  | startStream (r : ℕ)
  | startTouch (r : ℕ)
  | endTcp (r : ℕ)
  | finishStream (r : ℕ)
  | finishTouch (r : ℕ)

def step (s : Server) : Action → Option Server
  | .task a => s.task a
  | .stream a => s.stream a
  | .tick d => some { s with clock := s.clock + d }
  | .cancel => some { s with cancelled := true }
  | .loadStreams arc => s.loadStreams arc
  | .pollReply c => s.pollReply c
  | .pollOpen r => s.pollOpen r
  | .lookup r subdomain => s.lookup r subdomain
  | .reject r => s.reject r
  | .startHttp r => s.startHttp r
  | .endHttp r => s.endHttp r
  | .startReplay r => s.startReplay r
  | .endReplay r => s.endReplay r
  | .acceptTcp r arc => s.acceptTcp r arc
  | .touchTcp r => s.touchTcp r
  | .startStream r => s.startStream r
  | .startTouch r => s.startTouch r
  | .endTcp r => s.endTcp r
  | .finishStream r => s.finishStream r
  | .finishTouch r => s.finishTouch r

/-- All interleavings of the server's tasks with public visitors and time. -/
def machine (config : Config) : Machine Server Action where
  init s := s = new config
  step := step

end Server
end Rgrok
