/-
# The moves of the lifecycle

A `View` is the tunnel store seen as slots and the tasks seen as duties.
`Move v t who v'` says that the task `t`, working for the session `who`, takes
the view from `v` to `v'`; every step of the server is one of these moves
(`Refinement.lean`), and the invariants are proved for the moves.

Where a move touches a slot that is not free, `who` is the session the slot is
used on behalf of.
-/

import Rgrok.Server.Duty

namespace Rgrok

/-- The names of the tunnels a connection has still to go through in its
cleanup, with the session it registered there. -/
def Registered.entries (reg : Registered) : List (ReservationKey × ℕ) :=
  reg.subdomains.map (fun entry => (.http entry.1, entry.2.arc)) ++
    reg.tcpPorts.map fun entry => (.tcp entry.1, entry.2.arc)

def ControlPhase.remaining (reg : Registered) : ControlPhase → List (ReservationKey × ℕ)
  | .vacant | .authed | .done => []
  | .cleanup .tcp | .cleanup (.tcpShutdown _) | .cleanup (.tcpDns _) =>
      reg.tcpPorts.map fun entry => (.tcp entry.1, entry.2.arc)
  | _ => reg.entries

/-- Slots, duties and the history. -/
@[ext]
structure View where
  slot : ReservationKey → Option Slot
  duty : Task → Duty
  remaining : ℕ → List (ReservationKey × ℕ)
  dnsEnabled : Bool
  receiver : ℕ → Bool
  stopSignal : ℕ → Bool
  retained : ℤ
  sockets : List (UInt16 × ℕ)
  nextArc : ℕ
  nextRelease : ℕ
  published : List ℕ
  removed : List ℕ
  dnsCreated : List (ℕ × String)
  dnsDeleted : List (ℕ × String)

namespace Lifecycle

def remaining (l : Lifecycle) (c : ℕ) : List (ReservationKey × ℕ) :=
  (l.tasks.control c).remaining (l.registered c)

def view (l : Lifecycle) : View where
  slot := l.state.slot
  duty := l.tasks.duty
  remaining := l.remaining
  dnsEnabled := l.state.config.cloudflare.perTunnelDns
  receiver r := (l.state.cells r).listenerStopped
  stopSignal r := (l.state.cells r).stopSignal
  retained := l.state.tcpReservationsRetained
  sockets := l.sockets
  nextArc := l.nextArc
  nextRelease := l.nextRelease
  published := l.published
  removed := l.removed
  dnsCreated := l.dnsCreated
  dnsDeleted := l.dnsDeleted

end Lifecycle

namespace View

/-- The task exists: listener tasks are spawned when their session is published,
release tasks one after the other. -/
def Started (v : View) : Task → Prop
  | .control _ | .reaper => True
  | .listener r => r ∈ v.published
  | .release i => i < v.nextRelease

/-- One step of a task, seen in slots and duties. -/
inductive Move (v : View) (t : Task) (who : Option ℕ) : View → Prop
  /-- Nothing visible changes. -/
  | stay : Move v t who v
  /-- A cleanup loop passes an entry that is no longer published. -/
  | pass (remaining : ℕ → List (ReservationKey × ℕ))
      (h : ∀ c x, x ∈ v.remaining c → x ∈ remaining c ∨
        ∀ session, v.slot x.1 = some (.live session) → session.arc ≠ x.2) :
      Move v t who { v with remaining := remaining }
  /-- A request is accepted and gets an identity. -/
  | start (hd : v.duty t = .idle) (ht : v.Started t) :
      Move v t who { v with
        duty := Function.update v.duty t
          (.ofCharge { arc := v.nextArc, recordId := none, stage := .setup })
        nextArc := v.nextArc + 1 }
  | reserve (key : ReservationKey) (r : Reservation)
      (hd : v.duty t = .ofCharge { arc := r.arc, recordId := none, stage := .setup })
      (hfree : v.slot key = none) :
      Move v t who { v with
        slot := Function.update v.slot key (some (.reserved r))
        duty := Function.update v.duty t (.ofSetup (key, r) none) }
  | createDns (hold : ReservationKey × Reservation) (recordId : String)
      (hd : v.duty t = .ofSetup hold none) (henabled : v.dnsEnabled = true) :
      Move v t who { v with
        duty := Function.update v.duty t (.ofSetup hold (some recordId))
        dnsCreated := (hold.2.arc, recordId) :: v.dnsCreated }
  | newSession (hold : ReservationKey × Reservation) (recordId : Option String)
      (hd : v.duty t = .ofSetup hold recordId) :
      Move v t who { v with
        receiver := Function.update v.receiver hold.2.arc false
        stopSignal := Function.update v.stopSignal hold.2.arc false }
  /-- The reservation becomes a published HTTP tunnel. -/
  | publish (subdomain : String) (session : TunnelSession)
      (remaining : ℕ → List (ReservationKey × ℕ))
      (hd : v.duty t = .ofSetup (session.holding (.http subdomain)) session.dnsRecordId)
      (hrem : ∀ c x, x ∈ v.remaining c → x ∈ remaining c)
      (hmem : ∃ c, (.http subdomain, session.arc) ∈ remaining c)
      (hwho : who = some session.arc) :
      Move v t who { v with
        slot := Function.update v.slot (.http subdomain) (some (.live session))
        duty := Function.update v.duty t .idle
        remaining := remaining
        published := session.arc :: v.published }
  | bind (port : UInt16) (r : Reservation) (recordId : Option String)
      (hd : v.duty t = .ofSetup (.tcp port, r) recordId) :
      Move v t who { v with
        duty := Function.update v.duty t
          { Duty.ofSetup (.tcp port, r) recordId with socket := some (port, r.arc) }
        sockets := (port, r.arc) :: v.sockets
        receiver := Function.update v.receiver r.arc true }
  | unbind (port : UInt16) (r : Reservation) (recordId : Option String)
      (hd : v.duty t =
        { Duty.ofSetup (.tcp port, r) recordId with socket := some (port, r.arc) }) :
      Move v t who { v with
        duty := Function.update v.duty t (.ofSetup (.tcp port, r) recordId)
        sockets := v.sockets.erase (port, r.arc) }
  /-- The reservation becomes a published TCP tunnel, the socket goes to its
  listener task. -/
  | publishTcp (port : UInt16) (session : TunnelSession)
      (remaining : ℕ → List (ReservationKey × ℕ))
      (hd : v.duty t = { Duty.ofSetup (session.holding (.tcp port)) session.dnsRecordId with
        socket := some (port, session.arc) })
      (hrem : ∀ c x, x ∈ v.remaining c → x ∈ remaining c)
      (hmem : ∃ c, (.tcp port, session.arc) ∈ remaining c)
      (hwho : who = some session.arc) :
      Move v t who { v with
        slot := Function.update v.slot (.tcp port) (some (.live session))
        duty := Function.update (Function.update v.duty t .idle) (.listener session.arc)
          { Duty.idle with socket := some (port, session.arc) }
        remaining := remaining
        published := session.arc :: v.published }
  /-- A failed setup releases its reservation. -/
  | releaseSetup (hold : ReservationKey × Reservation) (recordId : Option String) (d : Duty)
      (hd : v.duty t = .ofSetup hold recordId)
      (hd' : d = .ofCharge { arc := hold.2.arc, recordId := recordId, stage := .setup } ∨
        d = .idle ∧ recordId = none)
      (hwho : who = some hold.2.arc) :
      Move v t who { v with
        slot := Function.update v.slot hold.1 none
        duty := Function.update v.duty t d }
  /-- The session is dealt with, its DNS record deleted. -/
  | settle (charge : Charge) (hd : v.duty t = .ofCharge charge) :
      Move v t who { v with
        duty := Function.update v.duty t .idle
        dnsDeleted := (charge.recordId.map fun id => (charge.arc, id)).toList ++ v.dnsDeleted }
  | removeHttp (subdomain : String) (removed : TunnelSession)
      (remaining : ℕ → List (ReservationKey × ℕ))
      (hlive : v.slot (.http subdomain) = some (.live removed))
      (hd : v.duty t = .idle) (ht : v.Started t)
      (hrem : ∀ c x, x ∈ v.remaining c → x ∈ remaining c ∨ x.1 = .http subdomain)
      (hwho : who = some removed.arc) :
      Move v t who { v with
        slot := Function.update v.slot (.http subdomain) none
        duty := Function.update v.duty t (.ofCharge (removed.charge .closing))
        remaining := remaining
        removed := removed.arc :: v.removed }
  /-- A TCP tunnel is removed and its port goes back to being reserved; the
  listener's own removal comes after its stop signal. -/
  | removeTcp (port : UInt16) (removed : TunnelSession) (news : News)
      (remaining : ℕ → List (ReservationKey × ℕ))
      (hlive : v.slot (.tcp port) = some (.live removed))
      (hd : (v.duty t = .idle ∧ news = .receiver removed.arc) ∨
        (v.duty t = .ofNews (.signalled removed.arc) ∧ news = .signalled removed.arc))
      (ht : v.Started t)
      (hrem : ∀ c x, x ∈ v.remaining c → x ∈ remaining c ∨ x.1 = .tcp port)
      (hwho : who = some removed.arc) :
      Move v t who { v with
        slot := Function.update v.slot (.tcp port)
          (some (.reserved { owner := removed.id, arc := removed.arc }))
        duty := Function.update v.duty t (.ofRemoved removed port (some news))
        remaining := remaining
        removed := removed.arc :: v.removed }
  | take (port : UInt16) (removed : TunnelSession)
      (hd : v.duty t = .ofRemoved removed port (some (.receiver removed.arc))) :
      Move v t who { v with
        duty := Function.update v.duty t (.ofRemoved removed port none)
        receiver := Function.update v.receiver removed.arc false }
  | learn (port : UInt16) (removed : TunnelSession)
      (hd : v.duty t = .ofRemoved removed port none)
      (hstop : v.stopSignal removed.arc = true) :
      Move v t who { v with
        duty := Function.update v.duty t
          (.ofRemoved removed port (some (.signalled removed.arc))) }
  /-- The port is left to a new release task. -/
  | retain (port : UInt16) (removed : TunnelSession)
      (hd : v.duty t = .ofRemoved removed port none) :
      Move v t who { v with
        duty := Function.update (Function.update v.duty t (.ofCharge (removed.charge .closing)))
          (.release v.nextRelease)
          { Duty.idle with hold := some (removed.holding (.tcp port)), counted := true }
        nextRelease := v.nextRelease + 1
        retained := v.retained + 1 }
  | releaseRemoved (port : UInt16) (removed : TunnelSession)
      (hd : v.duty t = .ofRemoved removed port (some (.signalled removed.arc)))
      (hwho : who = some removed.arc) :
      Move v t who { v with
        slot := Function.update v.slot (.tcp port) none
        duty := Function.update v.duty t (.ofCharge (removed.charge .closing)) }
  | releaseRetained (port : UInt16) (r : Reservation)
      (hd : v.duty t = { Duty.idle with hold := some (.tcp port, r), counted := true })
      (hstop : v.stopSignal r.arc = true) (hwho : who = some r.arc) :
      Move v t who { v with
        slot := Function.update v.slot (.tcp port) none
        duty := Function.update v.duty t { Duty.idle with counted := true } }
  | uncount (hd : v.duty t = { Duty.idle with counted := true }) :
      Move v t who { v with
        duty := Function.update v.duty t .idle
        retained := v.retained - 1 }
  | stopListening (port : UInt16) (arc : ℕ)
      (hd : v.duty t = { Duty.idle with socket := some (port, arc) }) :
      Move v t who { v with
        duty := Function.update v.duty t (.ofNews (.dropped arc))
        sockets := v.sockets.erase (port, arc) }
  | signal (arc : ℕ) (hd : v.duty t = .ofNews (.dropped arc)) :
      Move v t who { v with
        duty := Function.update v.duty t (.ofNews (.signalled arc))
        stopSignal := Function.update v.stopSignal arc true }
  | forget (arc : ℕ) (hd : v.duty t = .ofNews (.signalled arc)) :
      Move v t who { v with duty := Function.update v.duty t .idle }

end View
end Rgrok
