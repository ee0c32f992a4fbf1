/-
# Clients, server and the messages between them

The server of `Server.lean` with the clients of `rgrok-client/src/tunnel.rs` at
the other end of some of its connections.  What a client has written and the
server not read is in the connection's `inbox`, what the server has written and
the client not read on its `wire`; messages are read whole and in order.  A
connection whose client is `other` is somebody else's, who may send anything.

Four more record what happened, and no step of a party depends on them: `asked`
is the message `handle_control_msg` was last called with, `answers` lists the
messages it queued, each with the one it answers, `request` is the
`TunnelRequest` of a client and `first` the first message it read after it.
-/

import Rgrok.Client.Tunnel
import Rgrok.Server.ServerSteps

namespace Rgrok

/-- The server, its clients and the messages in flight. -/
structure World where
  server : Server
  client : ℕ → ClientPhase
  inbox : ℕ → List ClientMsg
  wire : ℕ → List ServerMsg
  asked : ℕ → Option ClientMsg
  request : ℕ → Option ClientMsg
  first : ℕ → Option ServerMsg
  answers : ℕ → List (Option ClientMsg × ServerMsg)

namespace World

/-- The server at its start, and no client yet. -/
def new (config : Config) : World where
  server := .new config
  client := fun _ => .other
  inbox := fun _ => []
  wire := fun _ => []
  asked := fun _ => none
  request := fun _ => none
  first := fun _ => none
  answers := fun _ => []

def setClient (w : World) (c : ℕ) (ph : ClientPhase) : World :=
  { w with client := Function.update w.client c ph }

def setInbox (w : World) (c : ℕ) (msgs : List ClientMsg) : World :=
  { w with inbox := Function.update w.inbox c msgs }

def setWire (w : World) (c : ℕ) (msgs : List ServerMsg) : World :=
  { w with wire := Function.update w.wire c msgs }

/-! ### Steps of the server -/

/-- The message in the write path of a revoked session. -/
def revokedNotice : ServerMsg :=
  .error 401 "token has been revoked"

/-- The server accepts an `Auth` and handles a message only when it is there to
be read. -/
def allows (w : World) : Server.Action → Bool
  | .task (.accept c) =>
      match w.client c, w.inbox c with
      | .other, _ => true
      | _, .auth _ _ :: _ => true
      | _, _ => false
  | .task (.handleControlMsg c msg _) =>
      match w.client c with
      | .other => true
      | _ => (w.inbox c).head? == some msg
  | _ => true

/-- What is left to read after a step of the server. -/
def inboxAfter (w : World) : Server.Action → ℕ → List ClientMsg
  | .task (.accept c) | .task (.handleControlMsg c _ _) =>
      Function.update w.inbox c (w.inbox c).tail
  | _ => w.inbox

/-- What is on the wires after a step of the server; `sessionId` is the uuid in
the `AuthOk`. -/
def wireAfter (w : World) (sessionId : ℕ → String) : Server.Action → ℕ → List ServerMsg
  | .task (.enterLoop c) => Function.update w.wire c (w.wire c ++ [.authOk (sessionId c)])
  | .task (.continueLoop c .sent) =>
      Function.update w.wire c (w.wire c ++ (w.server.channels c).queue.head?.toList)
  | .task (.breakLoop c .revoked) => Function.update w.wire c (w.wire c ++ [revokedNotice])
  | _ => w.wire

def askedAfter (w : World) : Server.Action → ℕ → Option ClientMsg
  | .task (.handleControlMsg c msg _) => Function.update w.asked c (some msg)
  | _ => w.asked

/-- `handle_control_msg` has queued its answer. -/
def answersAfter (w : World) : Server.Action → ℕ → List (Option ClientMsg × ServerMsg)
  | .task (.replied c) =>
      match w.server.life.tasks.control c with
      | .handling (.reply msg _) =>
          Function.update w.answers c (w.answers c ++ [(w.asked c, msg)])
      | _ => w.answers
  | _ => w.answers

/-- A step of the server. -/
def serve (w : World) (sessionId : ℕ → String) (a : Server.Action) : Option World :=
  if w.allows a then
    (w.server.step a).map fun server =>
      { w with
        server := server
        inbox := w.inboxAfter a
        wire := w.wireAfter sessionId a
        asked := w.askedAfter a
        answers := w.answersAfter a }
  else
    none

/-- The server does not accept the `Auth`. -/
def reject (w : World) (c : ℕ) (reason : String) : Option World :=
  match w.server.life.tasks.control c, w.client c, w.inbox c with
  | .vacant, .authenticating _, .auth _ _ :: inbox =>
      some ((w.setInbox c inbox).setWire c (w.wire c ++ [.authErr reason]))
  | _, _, _ => none

/-! ### Steps of a client -/

/-- A client connects and writes its `Auth`. -/
def connect (w : World) (c : ℕ) (cfg : TunnelConfig) (token version : String) : Option World :=
  match w.client c, w.server.life.tasks.control c with
  | .other, .vacant =>
      some ((w.setClient c (.authenticating cfg)).setInbox c [.auth token version])
  | _, _ => none

/-- The client reads the answer to its `Auth` and, if it is good, writes its
`TunnelRequest`. -/
def readAuthResponse (w : World) (c : ℕ) (id : String) : Option World :=
  match w.client c, w.wire c with
  | .authenticating cfg, msg :: wire =>
      match classifyAuthResponse msg with
      | .ok _ =>
          let w := ((w.setClient c (.registering id cfg)).setWire c wire).setInbox c
            (w.inbox c ++ [cfg.request id])
          some { w with request := Function.update w.request c (some (cfg.request id)) }
      | .error failure => some ((w.setClient c (.failed failure)).setWire c wire)
  | _, _ => none

/-- The client reads the answer to its `TunnelRequest`. -/
def readRegistrationResponse (w : World) (c : ℕ) : Option World :=
  match w.client c, w.wire c with
  | .registering _ _, msg :: wire =>
      let ph :=
        match classifyRegistrationResponse msg with
        | .ok registration => .running registration
        | .error failure => .failed failure
      some { (w.setClient c ph).setWire c wire with
        first := Function.update w.first c (some msg) }
  | _, _ => none

/-- A handshake that takes too long. -/
def timeOut (w : World) (c : ℕ) : Option World :=
  match w.client c with
  | .authenticating _ =>
      some (w.setClient c (.failed (.transient "Timed out awaiting authentication response")))
  | .registering _ _ =>
      some (w.setClient c (.failed (.transient "Timed out awaiting tunnel registration response")))
  | _ => none

/-- `run_session` reads a message: it opens a stream, or logs the message, and
goes on. -/
def readServerMsg (w : World) (c : ℕ) : Option World :=
  match w.client c, w.wire c with
  | .running _, _ :: wire => some (w.setWire c wire)
  | _, _ => none

/-- The heartbeat. -/
def ping (w : World) (c : ℕ) (seq : UInt64) : Option World :=
  match w.client c with
  | .running _ => some (w.setInbox c (w.inbox c ++ [.ping seq]))
  | _ => none

/-- The client is stopped, or finds its connection gone. -/
def disconnect (w : World) (c : ℕ) : Option World :=
  match w.client c with
  | .authenticating _ | .registering _ _ | .running _ => some (w.setClient c .disconnected)
  | _ => none

/-! ### The machine -/

/-- A step of the server or of a client. -/
inductive Action
  | server (a : Server.Action)
  | reject (c : ℕ) (reason : String)
  | connect (c : ℕ) (cfg : TunnelConfig) (token version : String)
  | readAuthResponse (c : ℕ) (id : String)
  | readRegistrationResponse (c : ℕ)
  | timeOut (c : ℕ)
  | readServerMsg (c : ℕ)
  | ping (c : ℕ) (seq : UInt64)
  | disconnect (c : ℕ)

def step (sessionId : ℕ → String) (w : World) : Action → Option World
  | .server a => w.serve sessionId a
  | .reject c reason => w.reject c reason
  | .connect c cfg token version => w.connect c cfg token version
  | .readAuthResponse c id => w.readAuthResponse c id
  | .readRegistrationResponse c => w.readRegistrationResponse c
  | .timeOut c => w.timeOut c
  | .readServerMsg c => w.readServerMsg c
  | .ping c seq => w.ping c seq
  | .disconnect c => w.disconnect c

/-- All interleavings of the server with any number of clients. -/
def machine (config : Config) (sessionId : ℕ → String) : Machine World Action where
  init w := w = new config
  step := step sessionId

end World
end Rgrok
