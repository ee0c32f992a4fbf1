/-
# The life of a tunnel, step by step

`handle_client` and `handle_control_msg` in `crates/rgrok-server/src/control.rs`,
`shutdown_tcp_tunnel_if_owner` and `reap_idle_tunnels` in `tunnel_manager.rs`,
and the end of `serve_tcp_tunnel_on_listener` in `proxy.rs`.

A `Lifecycle` is the tunnel store with the phase of every task that works on
it.  Each function below is one step of one task: it is `none` when the task is
not at that place, and otherwise makes the task's next access to shared state
and moves it on.  What the code outside the repository answers (bcrypt, the
Cloudflare API, `bind`) and which candidate the reaper looks at next are
arguments.

`sockets` lists the listener sockets that are bound, each with the session it
was bound for.  `published`, `removed`, `dnsCreated` and `dnsDeleted` record
the history: sessions that entered the store, sessions that one of the removal
functions returned, and the DNS record ids obtained and passed on for deletion.
No step reads these four.
-/

import Rgrok.Proto.Subdomain
import Rgrok.Server.Tasks

namespace Rgrok

/-- `registered_subdomains` and `registered_tcp_ports` of a `handle_client`
task; during cleanup, what the two loops have still to go through. -/
structure Registered where
  subdomains : List (String × TunnelSession)
  tcpPorts : List (UInt16 × TunnelSession)

/-- The store, the tasks that change it, and the history of what they did. -/
structure Lifecycle where
  state : ServerState
  tasks : Tasks
  registered : ℕ → Registered
  sockets : List (UInt16 × ℕ)
  nextArc : ℕ
  nextRelease : ℕ
  published : List ℕ
  removed : List ℕ
  dnsCreated : List (ℕ × String)
  dnsDeleted : List (ℕ × String)

namespace Lifecycle

/-- The server before the first connection. -/
def new (config : Config) : Lifecycle where
  state := .new config
  tasks :=
    { control := fun _ => .vacant
      listener := fun _ => .absent
      reaper := .sleeping
      release := fun _ => .idle }
  registered := fun _ => { subdomains := [], tcpPorts := [] }
  sockets := []
  nextArc := 0
  nextRelease := 0
  published := []
  removed := []
  dnsCreated := []
  dnsDeleted := []

def setControl (l : Lifecycle) (c : ℕ) (ph : ControlPhase) : Lifecycle :=
  { l with tasks := l.tasks.setControl c ph }

def setListener (l : Lifecycle) (r : ℕ) (ph : ListenerPhase) : Lifecycle :=
  { l with tasks := l.tasks.setListener r ph }

def setReaper (l : Lifecycle) (ph : ReaperPhase) : Lifecycle :=
  { l with tasks := l.tasks.setReaper ph }

def setRelease (l : Lifecycle) (i : ℕ) (ph : ReleasePhase) : Lifecycle :=
  { l with tasks := l.tasks.setRelease i ph }

/-- `delete_dns_record`: hand the session's record id, if any, to the client. -/
def deleteDnsRecord (l : Lifecycle) (session : TunnelSession) : Lifecycle :=
  match l.state.deletedDnsRecord session with
  | some recordId => { l with dnsDeleted := (session.arc, recordId) :: l.dnsDeleted }
  | none => l

/-! ### `handle_client`: from authentication to the loop -/

/-- The token passed the revocation check. -/
def accept (l : Lifecycle) (c : ℕ) : Option Lifecycle :=
  match l.tasks.control c with
  | .vacant => some (l.setControl c .authed)
  | _ => none

/-- `AuthOk` is written, the control channel set up and the two cleanup lists
start empty. -/
def enterLoop (l : Lifecycle) (c : ℕ) : Option Lifecycle :=
  match l.tasks.control c with
  | .authed =>
      some { l.setControl c .loopTop with
        registered := Function.update l.registered c { subdomains := [], tcpPorts := [] } }
  | _ => none

/-- The check at the top of the loop found the token good. -/
def enterSelect (l : Lifecycle) (c : ℕ) : Option Lifecycle :=
  match l.tasks.control c with
  | .loopTop => some (l.setControl c .select)
  | _ => none

/-- A `select!` branch other than reading completed, and the loop goes on. -/
def continueLoop (l : Lifecycle) (c : ℕ) : Option Lifecycle :=
  match l.tasks.control c with
  | .select => some (l.setControl c .loopTop)
  | _ => none

/-- The loop is left for the cleanup. -/
def breakLoop (l : Lifecycle) (c : ℕ) : Option Lifecycle :=
  match l.tasks.control c with
  | .loopTop | .select => some (l.setControl c (.cleanup .http))
  | _ => none

/-! ### `handle_control_msg` -/

/-- The state in which a request with the chosen name goes on to reserve. -/
def startSetup (l : Lifecycle) (c : ℕ) (id : String) (tunnelType : TunnelType)
    (subdomain : String) (basicAuth : Option BasicAuthConfig) (options : TunnelOptions) :
    Lifecycle :=
  { l.setControl c (.handling (.reserve
      { arc := l.nextArc
        id := id
        tunnelType := tunnelType
        subdomain := subdomain
        basicAuth := basicAuth
        options := options })) with
    nextArc := l.nextArc + 1 }

/-- The read branch delivers `msg`: `handle_control_msg` up to its first access
to shared state. -/
def handleControlMsg (l : Lifecycle) (c : ℕ) (msg : ClientMsg) (draw : SubdomainDraw) :
    Option Lifecycle :=
  match l.tasks.control c with
  | .select =>
      match msg with
      | .tunnelRequest id tunnelType subdomain basicAuth options =>
          match subdomain with
          | some s =>
              match validateSubdomain s with
              | .error e => some (l.setControl c (.handling (.reply (.error 400 e) none)))
              | .ok () => some (l.startSetup c id tunnelType s basicAuth options)
          | none => some (l.startSetup c id tunnelType (generateSubdomain draw) basicAuth options)
      | .ping seq => some (l.setControl c (.handling (.reply (.pong seq) none)))
      | .streamAck _ | .auth _ _ => some (l.setControl c .loopTop)
  | _ => none

/-- The error code of a failed `reserve_tcp_port`. -/
def reserveTcpCode : TunnelError → UInt32
  | .tcpPortOutOfRange .. => 400
  | .tcpPortTaken _ => 409
  | .noPortsAvailable .. => 503
  | .capacityExceeded _ => 503
  | .subdomainTaken _ => 500

/-- The error code of a failed `reserve_http_tunnel`. -/
def reserveHttpCode : TunnelError → UInt32
  | .capacityExceeded _ => 503
  | .subdomainTaken _ => 409
  | _ => 500

/-- Reserve the subdomain of an HTTP or HTTPS tunnel. -/
def reserveName (l : Lifecycle) (c : ℕ) (u : Setup) (h : u.tunnelType.isTcp = false) : Lifecycle :=
  match l.state.reserveHttpTunnel u.subdomain u.id u.arc with
  | .ok state =>
      { l with state := state }.setControl c (.handling (.hash
        { u with tcpPort := none, basicAuthHash := none, kind := h.symm }))
  | .error e =>
      l.setControl c (.handling (.reply (.error (reserveHttpCode e) e.toString) none))

/-- Reserve the port of a TCP tunnel. -/
def reservePort (l : Lifecycle) (c : ℕ) (u : Setup) (remotePort : Option UInt16)
    (h : u.tunnelType.isTcp = true) : Lifecycle :=
  match l.state.reserveTcpPort remotePort u.id u.arc with
  | .ok (port, state) =>
      { l with state := state }.setControl c (.handling (.hash
        { u with tcpPort := some port, basicAuthHash := none, kind := h.symm }))
  | .error e =>
      l.setControl c (.handling (.reply (.error (reserveTcpCode e) e.toString) none))

/-- Reserve the name or the port. -/
def reserve (l : Lifecycle) (c : ℕ) : Option Lifecycle :=
  match l.tasks.control c with
  | .handling (.reserve u) =>
      match h : u.tunnelType with
      | .tcp remotePort => some (l.reservePort c u remotePort (by rw [h]; rfl))
      | .http => some (l.reserveName c u (by rw [h]; rfl))
      | .https => some (l.reserveName c u (by rw [h]; rfl))
  | _ => none

theorem tcpPort_eq_none {u : ReservedSetup} (h : u.tunnelType.isTcp = false) : u.tcpPort = none := by
  have hkind := u.kind
  rw [h] at hkind
  simpa using hkind

/-- Where a setup goes once the password is hashed: only HTTP and HTTPS tunnels
get a DNS record. -/
def afterHash (u : ReservedSetup) : Handling :=
  match h : u.tunnelType with
  | .http => .createDns u (tcpPort_eq_none (by rw [h]; rfl))
  | .https => .createDns u (tcpPort_eq_none (by rw [h]; rfl))
  | .tcp _ => .newSession { u with dnsRecordId := none, noTcpRecord := fun _ => rfl }

/-- Hash the basic-auth password, if there is one.  `hashPassword` is
`hash_basic_auth_password`. -/
def hashBasicAuth (l : Lifecycle) (c : ℕ) (hashPassword : String → Except String String) :
    Option Lifecycle :=
  match l.tasks.control c with
  | .handling (.hash u) =>
      match u.basicAuth with
      | none => some (l.setControl c (.handling (afterHash u)))
      | some ba =>
          match hashPassword ba.password with
          | .ok hash =>
              some (l.setControl c (.handling (afterHash { u with basicAuthHash := some hash })))
          | .error e =>
              some (l.setControl c (.handling (.release u.key u.id u.arc
                (.error 500 ("Failed to hash password: " ++ e)))))
  | _ => none

/-- Create the DNS record of an HTTP tunnel. -/
def createDns (l : Lifecycle) (c : ℕ) (createRecord : String → String → Except String String) :
    Option Lifecycle :=
  match l.tasks.control c with
  | .handling (.createDns u http) =>
      match l.state.createDnsRecord u.subdomain createRecord with
      | .ok recordId =>
          some { l.setControl c (.handling (.newSession
              { u with dnsRecordId := recordId, noTcpRecord := fun h => absurd http h })) with
            dnsCreated := (recordId.map fun id => (u.arc, id)).toList ++ l.dnsCreated }
      | .error e =>
          some (l.setControl c (.handling (.release (.http u.subdomain) u.id u.arc (.error 503 e))))
  | _ => none

/-- `Arc::new(TunnelSession { .. })`. -/
def newSession (l : Lifecycle) (c : ℕ) : Option Lifecycle :=
  match l.tasks.control c with
  | .handling (.newSession u) =>
      let l := { l with state := l.state.updateCell u.arc fun _ => .new }
      match h : u.tcpPort with
      | none => some (l.setControl c (.handling (.register (u.session c))))
      | some port =>
          some (l.setControl c (.handling (.bind (u.session c) port
            (u.noTcpRecord (by rw [h]; exact Option.some_ne_none port)))))
  | _ => none

/-- The URL in the `TunnelAck`. -/
def publicUrl (config : Config) (subdomain : String) : Option UInt16 → String
  | none => "https://" ++ subdomain ++ "." ++ config.server.domain
  | some port => "tcp://" ++ config.server.domain ++ ":" ++ toString port

/-- The `TunnelAck` for a session published under its name or at `port`. -/
def tunnelAck (config : Config) (session : TunnelSession) (port : Option UInt16) : ServerMsg :=
  .tunnelAck session.id (publicUrl config session.subdomain port)
    (match session.tunnelType with
      | .tcp _ => .tcp port
      | other => other)

/-- Publish an HTTP tunnel and put it on the cleanup list. -/
def register (l : Lifecycle) (c : ℕ) : Option Lifecycle :=
  match l.tasks.control c with
  | .handling (.register session) =>
      match l.state.registerTunnel session with
      | .ok state =>
          let registered := l.registered c
          some { ({ l with state := state }.setControl c
              (.handling (.reply (tunnelAck l.state.config session none) none))) with
            registered := Function.update l.registered c
              { registered with
                subdomains := registered.subdomains ++ [(session.subdomain, session)] }
            published := session.arc :: l.published }
      | .error e =>
          some (l.setControl c (.handling (.releaseFailed session (.error 409 e.toString))))
  | _ => none

/-- Bind the listener; `bound` is what `TcpListener::bind` answers.  On success
the stop receiver is stored in the session. -/
def bind (l : Lifecycle) (c : ℕ) (bound : Except String Unit) : Option Lifecycle :=
  match l.tasks.control c with
  | .handling (.bind session port noRecord) =>
      match bound with
      | .ok () =>
          some { ({ l with
              state := l.state.updateCell session.arc fun cell =>
                { cell with listenerStopped := true } }.setControl c
              (.handling (.registerTcp session port noRecord))) with
            sockets := (port, session.arc) :: l.sockets }
      | .error e =>
          some (l.setControl c (.handling (.release (.tcp port) session.id session.arc
            (.error 500 ("failed to bind TCP port " ++ toString port ++ ": " ++ e)))))
  | _ => none

/-- Publish a TCP tunnel, put it on the cleanup list and spawn its listener
task; on an error the socket is dropped. -/
def registerTcp (l : Lifecycle) (c : ℕ) : Option Lifecycle :=
  match l.tasks.control c with
  | .handling (.registerTcp session port _) =>
      match l.state.tryRegisterTcpTunnel port session with
      | .ok state =>
          let registered := l.registered c
          some { (({ l with state := state }.setControl c
              (.handling (.reply (tunnelAck l.state.config session (some port)) none))).setListener
                session.arc (.running port session)) with
            registered := Function.update l.registered c
              { registered with tcpPorts := registered.tcpPorts ++ [(port, session)] }
            published := session.arc :: l.published }
      | .error e =>
          some { l.setControl c (.handling (.release (.tcp port) session.id session.arc
              (.error 409 e.toString))) with
            sockets := l.sockets.erase (port, session.arc) }
  | _ => none

/-- Release the reservation of a setup that failed. -/
def releaseSetup (l : Lifecycle) (c : ℕ) : Option Lifecycle :=
  match l.tasks.control c with
  | .handling (.release key owner _ msg) =>
      some ({ l with state := l.state.releaseReservation key owner }.setControl c
        (.handling (.reply msg none)))
  | .handling (.releaseFailed session msg) =>
      some ({ l with state := l.state.releaseHttpTunnel session.subdomain session.id }.setControl c
        (.handling (.reply msg (some session))))
  | _ => none

/-- The reply was queued: back to the loop, or to the DNS deletion of a failed
registration. -/
def replied (l : Lifecycle) (c : ℕ) : Option Lifecycle :=
  match l.tasks.control c with
  | .handling (.reply _ none) => some (l.setControl c .loopTop)
  | .handling (.reply _ (some session)) => some (l.setControl c (.handling (.deleteDns session)))
  | _ => none

/-- Delete the DNS record of a tunnel that was not registered. -/
def deleteFailedDns (l : Lifecycle) (c : ℕ) : Option Lifecycle :=
  match l.tasks.control c with
  | .handling (.deleteDns session) => some ((l.deleteDnsRecord session).setControl c .loopTop)
  | _ => none

end Lifecycle
end Rgrok
