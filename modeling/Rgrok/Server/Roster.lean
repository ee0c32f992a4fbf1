/-
# Which connection serves which tunnels

A `Roster` is what the steps of the lifecycle do to control tasks and their
cleanup lists, published sessions, listener tasks and the reaper.
`Roster.Move v a v'` says what the action `a` can do to it; every step of the
lifecycle is one of these moves (`Lifecycle.step_roster`), and what later files
need to know about the lifecycle they prove for the moves.
-/

import Rgrok.Server.Guarantees

namespace Rgrok

/-! ### Phases -/

/-- The session that `handle_control_msg` has built. -/
def Handling.session : Handling → Option TunnelSession
  | .register session | .bind session _ _ | .registerTcp session _ _ | .releaseFailed session _
  | .deleteDns session => some session
  | .reply _ failed => failed
  | .reserve _ | .hash _ | .createDns _ _ | .newSession _ | .release _ _ _ _ => none

/-- `handle_control_msg` has not yet come to its answer. -/
def Handling.working : Handling → Bool
  | .reply _ _ | .deleteDns _ => false
  | .reserve _ | .hash _ | .createDns _ _ | .newSession _ | .register _ | .bind _ _ _
  | .registerTcp _ _ _ | .release _ _ _ _ | .releaseFailed _ _ => true

/-- The answer of a failed setup is an `Error`. -/
def Handling.Fails : Handling → Prop
  | .release _ _ _ msg | .releaseFailed _ msg | .reply msg _ => ∃ code text, msg = .error code text
  | .reserve _ | .hash _ | .createDns _ _ | .newSession _ | .register _ | .bind _ _ _
  | .registerTcp _ _ _ | .deleteDns _ => True

/-- The control loop is over. -/
def ControlPhase.closing : ControlPhase → Bool
  | .cleanup _ | .done => true
  | .vacant | .authed | .loopTop | .select | .handling _ => false

/-- The control loop has not begun. -/
def ControlPhase.fresh : ControlPhase → Bool
  | .vacant | .authed => true
  | .loopTop | .select | .handling _ | .cleanup _ | .done => false

/-- What the cleanup of a connection goes through. -/
def Registered.pairs (reg : Registered) : List (ReservationKey × TunnelSession) :=
  reg.subdomains.map (fun entry => (.http entry.1, entry.2)) ++
    reg.tcpPorts.map fun entry => (.tcp entry.1, entry.2)

/-- The session of a listener task. -/
def ListenerPhase.session : ListenerPhase → Option TunnelSession
  | .running _ session | .stopped _ session | .signalled _ session => some session
  | .release _ removed | .deleteDns removed => some removed
  | .absent | .done => none

/-- The tunnels the reaper has found idle and not yet looked at again. -/
def ReaperPhase.candidates : ReaperPhase → List TunnelSession
  | .collectHttp _ candidates | .closeHttp _ candidates | .notifyHttp _ _ candidates
  | .dnsHttp _ _ candidates => candidates.map Prod.snd
  | .collectTcp _ candidates | .closeTcp candidates | .shutdown _ candidates
  | .notifyTcp _ candidates | .dnsTcp _ candidates => candidates.map Prod.snd
  | .sleeping | .stopped => []

/-- The tunnel the reaper is closing. -/
def ReaperPhase.removed : ReaperPhase → Option TunnelSession
  | .notifyHttp _ removed _ | .dnsHttp _ removed _ | .notifyTcp removed _ | .dnsTcp removed _ =>
      some removed
  | .shutdown sd _ => some sd.removed
  | .sleeping | .collectHttp _ _ | .closeHttp _ _ | .collectTcp _ _ | .closeTcp _ | .stopped =>
      none

/-- The instant of the tick, while it is needed. -/
def ReaperPhase.now : ReaperPhase → Option ℕ
  | .collectHttp now _ | .closeHttp now _ | .notifyHttp now _ _ | .dnsHttp now _ _
  | .collectTcp now _ => some now
  | .sleeping | .closeTcp _ | .shutdown _ _ | .notifyTcp _ _ | .dnsTcp _ _ | .stopped => none

/-- Whether `cancel` or `idle_cancel` is cancelled. -/
def SessionCell.stopping (cell : SessionCell) : Bool :=
  cell.cancel || cell.idleCancel

/-! ### Steps of one task -/

/-- A step of the control task `c` that publishes nothing. -/
inductive ControlStep (c : ℕ) : Lifecycle.Action → ControlPhase → ControlPhase → Prop
  | accept : ControlStep c (.accept c) .vacant .authed
  | enterSelect : ControlStep c (.enterSelect c) .loopTop .select
  | continueLoop (cause : Lifecycle.ContinueCause) :
      ControlStep c (.continueLoop c cause) .select .loopTop
  | breakLoop (cause : Lifecycle.BreakCause) (ph : ControlPhase)
      (hph : ph = .loopTop ∨ ph = .select) :
      ControlStep c (.breakLoop c cause) ph (.cleanup .http)
  | request (id : String) (tunnelType : TunnelType) (subdomain : Option String)
      (basicAuth : Option BasicAuthConfig) (options : TunnelOptions) (draw : SubdomainDraw)
      (h : Handling) (hfails : h.Fails) (hsession : h.session = none) :
      ControlStep c
        (.handleControlMsg c (.tunnelRequest id tunnelType subdomain basicAuth options) draw)
        .select (.handling h)
  | ping (seq : UInt64) (draw : SubdomainDraw) :
      ControlStep c (.handleControlMsg c (.ping seq) draw) .select
        (.handling (.reply (.pong seq) none))
  | ignore (msg : ClientMsg) (draw : SubdomainDraw) :
      ControlStep c (.handleControlMsg c msg draw) .select .loopTop
  | setup (a : Lifecycle.Action) (h h' : Handling) (hreplied : a ≠ .replied c)
      (hworking : h.working = true) (hnext : h'.working = true ∨ ∃ msg failed, h' = .reply msg failed)
      (hfails : h.Fails → h'.Fails)
      (hsession : ∀ s, h'.session = some s → h.session = some s ∨ s.conn = c) :
      ControlStep c a (.handling h) (.handling h')
  | replied (msg : ServerMsg) : ControlStep c (.replied c) (.handling (.reply msg none)) .loopTop
  | repliedFailed (msg : ServerMsg) (session : TunnelSession) :
      ControlStep c (.replied c) (.handling (.reply msg (some session)))
        (.handling (.deleteDns session))
  | deleteFailedDns (session : TunnelSession) :
      ControlStep c (.deleteFailedDns c) (.handling (.deleteDns session)) .loopTop
  | cleanup (a : Lifecycle.Action) (k : Cleanup) (ph : ControlPhase) (hph : ph.closing = true) :
      ControlStep c a (.cleanup k) ph

/-- A step of a listener task that removes nothing. -/
inductive ListenerStep (r : ℕ) : Lifecycle.Action → ListenerPhase → ListenerPhase → Prop
  | stop (cause : Lifecycle.StopCause) (port : UInt16) (session : TunnelSession) :
      ListenerStep r (.stopListening r cause) (.running port session) (.stopped port session)
  | signal (port : UInt16) (session : TunnelSession) :
      ListenerStep r (.signalStopped r) (.stopped port session) (.signalled port session)
  | gone (port : UInt16) (session : TunnelSession) :
      ListenerStep r (.listenerRemove r) (.signalled port session) .done
  | release (port : UInt16) (removed : TunnelSession) :
      ListenerStep r (.listenerRelease r) (.release port removed) (.deleteDns removed)
  | deleteDns (removed : TunnelSession) :
      ListenerStep r (.listenerDns r) (.deleteDns removed) .done

/-! ### The roster -/

/-- Control tasks, cleanup lists, published sessions, listeners, the reaper. -/
@[ext]
structure Roster where
  control : ℕ → ControlPhase
  registered : ℕ → Registered
  live : ReservationKey → Option TunnelSession
  listener : ℕ → ListenerPhase
  reaper : ReaperPhase
  published : List ℕ
  removed : List ℕ

/-- What the step `a` does to the roster. -/
inductive Roster.Move (v : Roster) (a : Lifecycle.Action) : Roster → Prop
  | stay : Move v a v
  | control (c : ℕ) (ph : ControlPhase) (hstep : ControlStep c a (v.control c) ph) :
      Move v a { v with control := Function.update v.control c ph }
  | enterLoop (c : ℕ) (ha : a = .enterLoop c) (hph : v.control c = .authed) :
      Move v a { v with
        control := Function.update v.control c .loopTop
        registered := Function.update v.registered c { subdomains := [], tcpPorts := [] } }
  /-- A new session is published and the answer is a `TunnelAck`. -/
  | publish (c : ℕ) (h : Handling) (key : ReservationKey) (session : TunnelSession)
      (msg : ServerMsg) (reg : Registered) (listener : ℕ → ListenerPhase)
      (hreplied : a ≠ .replied c) (hph : v.control c = .handling h) (hworking : h.working = true)
      (hsession : h.session = some session)
      (hfree : v.live key = none) (hnew : session.arc ∉ v.published)
      (hmsg : ∃ url tunnelType, msg = .tunnelAck session.id url tunnelType)
      (hreg : ∀ x, x ∈ reg.pairs ↔ x ∈ (v.registered c).pairs ∨ x = (key, session))
      (hlistener : ∀ r, listener r = v.listener r ∨
        ∃ port, key = .tcp port ∧ listener r = .running port session) :
      Move v a { v with
        control := Function.update v.control c (.handling (.reply msg none))
        registered := Function.update v.registered c reg
        live := Function.update v.live key (some session)
        listener := listener
        published := session.arc :: v.published }
  /-- A cleanup loop passes an entry that is no longer published. -/
  | pass (c : ℕ) (k : Cleanup) (reg : Registered) (hph : v.control c = .cleanup k)
      (hreg : ∀ x ∈ reg.pairs, x ∈ (v.registered c).pairs) :
      Move v a { v with registered := Function.update v.registered c reg }
  | cleanup (c : ℕ) (k : Cleanup) (ph : ControlPhase) (reg : Registered) (key : ReservationKey)
      (session removed : TunnelSession) (hph : v.control c = .cleanup k)
      (hph' : ph.closing = true) (hreg : ∀ x ∈ reg.pairs, x ∈ (v.registered c).pairs)
      (hsession : (key, session) ∈ (v.registered c).pairs) (hlive : v.live key = some removed)
      (harc : removed.arc = session.arc) :
      Move v a { v with
        control := Function.update v.control c ph
        registered := Function.update v.registered c reg
        live := Function.update v.live key none
        removed := removed.arc :: v.removed }
  | listener (r : ℕ) (ph : ListenerPhase) (hstep : ListenerStep r a (v.listener r) ph) :
      Move v a { v with listener := Function.update v.listener r ph }
  | listenerRemove (r : ℕ) (port : UInt16) (session removed : TunnelSession)
      (ha : a = .listenerRemove r) (hph : v.listener r = .signalled port session)
      (hlive : v.live (.tcp port) = some removed) (harc : removed.arc = session.arc) :
      Move v a { v with
        listener := Function.update v.listener r (.release port removed)
        live := Function.update v.live (.tcp port) none
        removed := removed.arc :: v.removed }
  | reaper (ph : ReaperPhase)
      (hcandidates : ∀ s ∈ ph.candidates, s ∈ v.reaper.candidates ∨
        (∃ subdomain, a = .reapFoundHttp subdomain ∧ v.live (.http subdomain) = some s) ∨
        ∃ port, a = .reapFoundTcp port ∧ v.live (.tcp port) = some s)
      (hremoved : ∀ s, ph.removed = some s → v.reaper.removed = some s)
      (hnow : ∀ n, ph.now = some n → v.reaper.now = some n ∨ a = .reapTick n) :
      Move v a { v with reaper := ph }
  | reap (key : ReservationKey) (session removed : TunnelSession) (ph : ReaperPhase)
      (ha : a = .reapHttp ∨ a = .reapTcp) (hsession : session ∈ v.reaper.candidates)
      (hlive : v.live key = some removed) (harc : removed.arc = session.arc)
      (hcandidates : ∀ s ∈ ph.candidates, s ∈ v.reaper.candidates)
      (hremoved : ph.removed = some removed)
      (hnow : ∀ n, ph.now = some n → v.reaper.now = some n) :
      Move v a { v with
        reaper := ph
        live := Function.update v.live key none
        removed := removed.arc :: v.removed }

theorem Roster.Move.of_eq {v v₁ v' : Roster} {a : Lifecycle.Action} (m : v.Move a v₁)
    (h : v' = v₁) : v.Move a v' :=
  h ▸ m

namespace Lifecycle

/-- The roster of a lifecycle. -/
def roster (l : Lifecycle) : Roster where
  control := l.tasks.control
  registered := l.registered
  live := l.state.published
  listener := l.tasks.listener
  reaper := l.tasks.reaper
  published := l.published
  removed := l.removed

end Lifecycle

namespace ServerState

variable {s s' : ServerState} {key : ReservationKey} {session removed : TunnelSession}
  {port : UInt16} {subdomain : String} {o : Option Slot}

/-- The published sessions are those of the live slots. -/
theorem published_eq (s : ServerState) :
    s.published = (fun slot : Option Slot => slot.bind Slot.session) ∘ s.slot := by
  funext key
  rw [Function.comp_apply, slot]
  cases s.published key with
  | some session => rfl
  | none => cases s.reservations.lookup key <;> rfl

theorem published_of_slot (h : s'.slot = Function.update s.slot key o) :
    s'.published = Function.update s.published key (o.bind Slot.session) := by
  rw [published_eq, published_eq, h, Function.comp_update]

/-- Changing a cell does not cancel a token, unless the change does. -/
theorem stopping_updateCell {arc r : ℕ} {f : SessionCell → SessionCell}
    (hf : ∀ cell, (f cell).stopping = true → cell.stopping = true)
    (h : ((s.updateCell arc f).cells r).stopping = true) : (s.cells r).stopping = true := by
  by_cases hr : r = arc
  · subst hr
    simp only [updateCell, Function.update_self] at h
    exact hf _ h
  · simpa only [updateCell, Function.update_of_ne hr] using h

end ServerState

end Rgrok
