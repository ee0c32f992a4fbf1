/-
# What is in whose hands

The abstract side of the tunnel lifecycle.  A name or port is a *slot*: free,
reserved on behalf of a request, or live with a published session.  A task's
*duty* is everything it has still to see through: the reservation it will
release or consume, the session it answers for and the DNS record that goes
with it, the listener socket it owns, and what it knows about the listener of
the session it takes down.

`Lifecycle.view` reads slots and duties off the store and the phases.  The
steps of the server change a `View` in the few ways listed in `Moves.lean`.
-/

import Mathlib.Logic.Function.Basic
import Rgrok.Lib.Passage
import Rgrok.Server.Interleaving
import Rgrok.Server.StoreInvariant

namespace Rgrok

/-! ### Slots -/

/-- What a name or port is used for. -/
inductive Slot
  | reserved (reservation : Reservation)
  | live (session : TunnelSession)

/-- The request or session the slot is used on behalf of. -/
def Slot.arc : Slot → ℕ
  | .reserved reservation => reservation.arc
  | .live session => session.arc

/-- The published session, if any. -/
def Slot.session : Slot → Option TunnelSession
  | .reserved _ => none
  | .live session => some session

namespace ServerState

/-- The published session of a name or port. -/
def published (s : ServerState) : ReservationKey → Option TunnelSession
  | .http subdomain => s.tunnels.lookup subdomain
  | .tcp port => s.tcpTunnels.lookup port

/-- The slot of a name or port; a published session hides a reservation. -/
def slot (s : ServerState) (key : ReservationKey) : Option Slot :=
  match s.published key with
  | some session => some (.live session)
  | none => (s.reservations.lookup key).map Slot.reserved

variable {s : ServerState} {key : ReservationKey} {session : TunnelSession} {r : Reservation}

theorem slot_eq_live : s.slot key = some (.live session) ↔ s.published key = some session := by
  unfold slot
  cases s.published key with
  | some t => simp
  | none => simp

theorem slot_of_published_eq_none (h : s.published key = none) :
    s.slot key = (s.reservations.lookup key).map Slot.reserved := by
  rw [slot, h]

theorem published_of_slot_reserved (h : s.slot key = some (.reserved r)) :
    s.published key = none ∧ s.reservations.lookup key = some r := by
  unfold slot at h
  cases hp : s.published key with
  | some t => simp [hp] at h
  | none => simpa [hp] using h

theorem slot_eq_none :
    s.slot key = none ↔ s.published key = none ∧ s.reservations.lookup key = none := by
  unfold slot
  cases s.published key with
  | some t => simp
  | none => simp

/-- Under the store invariant no reservation is hidden. -/
theorem Valid.reservation_of_published (h : s.Valid) (hp : s.published key = some session) :
    s.reservations.lookup key = none := by
  cases key with
  | http subdomain => exact h.http_disjoint subdomain session hp
  | tcp port => exact h.tcp_disjoint port session hp

theorem Valid.slot_of_reservation (h : s.Valid) (hr : s.reservations.lookup key = some r) :
    s.slot key = some (.reserved r) := by
  cases hp : s.published key with
  | some session =>
      rw [h.reservation_of_published hp] at hr
      cases hr
  | none => rw [slot_of_published_eq_none hp, hr, Option.map_some]

/-! ### What the operations do to the slots -/

variable {s' : ServerState} {o : Option Slot} {owner subdomain : String} {port : UInt16} {arc : ℕ}
  {removed : TunnelSession}

theorem slot_congr (hp : s'.published key = s.published key)
    (hr : s'.reservations.lookup key = s.reservations.lookup key) : s'.slot key = s.slot key := by
  rw [slot, slot, hp, hr]

/-- An operation that changes the slot of one key. -/
theorem slot_eq_update (hkey : s'.slot key = o)
    (hother : ∀ k, k ≠ key → s'.published k = s.published k ∧
      s'.reservations.lookup k = s.reservations.lookup k) :
    s'.slot = Function.update s.slot key o := by
  funext k
  by_cases hk : k = key
  · rw [hk, Function.update_self, hkey]
  · rw [Function.update_of_ne hk]
    exact slot_congr (hother k hk).1 (hother k hk).2

theorem slot_insert_reservation (h : s.published key = none) :
    { s with reservations := s.reservations.insert key r }.slot =
      Function.update s.slot key (some (.reserved r)) := by
  refine slot_eq_update ?_ fun k hk => ⟨by cases k <;> rfl, AList.lookup_insert_ne hk⟩
  rw [slot_of_published_eq_none]
  · rw [AList.lookup_insert, Option.map_some]
  · rw [← h]
    cases key <;> rfl

theorem slot_erase_reservation (h : s.published key = none) :
    { s with reservations := s.reservations.erase key }.slot =
      Function.update s.slot key none := by
  refine slot_eq_update ?_ fun k hk => ⟨by cases k <;> rfl, AList.lookup_erase_ne hk⟩
  rw [slot_of_published_eq_none]
  · rw [AList.lookup_erase, Option.map_none]
  · rw [← h]
    cases key <;> rfl

theorem slot_reserveHttpTunnel (h : s.reserveHttpTunnel subdomain owner arc = .ok s') :
    s.slot (.http subdomain) = none ∧
      s'.slot = Function.update s.slot (.http subdomain) (some (.reserved ⟨owner, arc⟩)) := by
  obtain ⟨hfree, hres, -, rfl⟩ := reserveHttpTunnel_eq_ok h
  exact ⟨slot_eq_none.2 ⟨hfree, hres⟩, slot_insert_reservation hfree⟩

theorem slot_reserveTcpPort {requested : Option UInt16}
    (h : s.reserveTcpPort requested owner arc = .ok (port, s')) :
    s.slot (.tcp port) = none ∧
      s'.slot = Function.update s.slot (.tcp port) (some (.reserved ⟨owner, arc⟩)) := by
  obtain ⟨-, hfree, hres, -, rfl⟩ := reserveTcpPort_eq_ok h
  exact ⟨slot_eq_none.2 ⟨hfree, hres⟩, slot_insert_reservation hfree⟩

/-- The holder of a reservation that releases it frees the slot. -/
theorem releaseReservation_of_slot (h : s.slot key = some (.reserved r)) :
    s.releaseReservation key r.owner = { s with reservations := s.reservations.erase key } ∧
      { s with reservations := s.reservations.erase key }.slot =
        Function.update s.slot key none := by
  obtain ⟨hfree, hres⟩ := published_of_slot_reserved h
  have howns : s.ownsReservation key r.owner = true := ownsReservation_eq_true.2 ⟨r, hres, rfl⟩
  exact ⟨by rw [releaseReservation, if_pos howns], slot_erase_reservation hfree⟩

theorem slot_registerTunnel (h : s.registerTunnel session = .ok s') :
    s'.slot = Function.update s.slot (.http session.subdomain) (some (.live session)) := by
  obtain ⟨-, reservations, hres, rfl⟩ := registerTunnel_eq_ok h
  refine slot_eq_update (slot_eq_live.2 (AList.lookup_insert _)) fun k hk => ⟨?_, ?_⟩
  · cases k with
    | http name => exact AList.lookup_insert_ne (by simpa using hk)
    | tcp port => rfl
  · rw [hres.lookup, if_neg hk]

theorem slot_tryRegisterTcpTunnel (h : s.tryRegisterTcpTunnel port session = .ok s') :
    s'.slot = Function.update s.slot (.tcp port) (some (.live session)) := by
  obtain ⟨-, -, reservations, hres, rfl⟩ := tryRegisterTcpTunnel_eq_ok h
  refine slot_eq_update (slot_eq_live.2 (AList.lookup_insert _)) fun k hk => ⟨?_, ?_⟩
  · cases k with
    | http name => rfl
    | tcp p => exact AList.lookup_insert_ne (by simpa using hk)
  · rw [hres.lookup, if_neg hk]

theorem slot_unregisterTunnelIfOwner (hv : s.Valid)
    (h : s.unregisterTunnelIfOwner subdomain session = some (removed, s')) :
    s.slot (.http subdomain) = some (.live removed) ∧
      s'.slot = Function.update s.slot (.http subdomain) none := by
  obtain ⟨hlive, -, rfl⟩ := unregisterTunnelIfOwner_eq_some h
  refine ⟨slot_eq_live.2 hlive, slot_eq_update (slot_eq_none.2 ⟨AList.lookup_erase _ _, ?_⟩)
    fun k hk => ⟨?_, rfl⟩⟩
  · exact hv.http_disjoint subdomain removed hlive
  · cases k with
    | http name => exact AList.lookup_erase_ne (by simpa using hk)
    | tcp p => rfl

theorem slot_removeTcpTunnelIfOwner
    (h : s.removeTcpTunnelIfOwner port session = some (removed, s')) :
    s.slot (.tcp port) = some (.live removed) ∧
      s'.slot = Function.update s.slot (.tcp port)
        (some (.reserved { owner := removed.id, arc := removed.arc })) := by
  obtain ⟨hlive, -, rfl⟩ := removeTcpTunnelIfOwner_eq_some h
  refine ⟨slot_eq_live.2 hlive, slot_eq_update ?_ fun k hk => ⟨?_, AList.lookup_insert_ne hk⟩⟩
  · refine (slot_of_published_eq_none ?_).trans ?_
    · exact AList.lookup_erase port s.tcpTunnels
    · rw [AList.lookup_insert, Option.map_some]
  · cases k with
    | http name => rfl
    | tcp p => exact AList.lookup_erase_ne (by simpa using hk)

end ServerState

/-! ### Duties -/

/-- A session somebody answers for, with its DNS record. -/
structure Charge where
  arc : ℕ
  recordId : Option String
  stage : Stage
deriving DecidableEq

/-- What a task knows about the listener of a session: its stop receiver is
still in the session, its socket is dropped, or its stop signal has fired. -/
inductive News
  | receiver (arc : ℕ)
  | dropped (arc : ℕ)
  | signalled (arc : ℕ)
deriving DecidableEq

/-- What a task has still to see through.  `counted` is whether it is counted in
`tcp_reservations_retained`. -/
@[ext]
structure Duty where
  hold : Option (ReservationKey × Reservation)
  charge : Option Charge
  socket : Option (UInt16 × ℕ)
  news : Option News
  counted : Bool
deriving DecidableEq

/-- Nothing to see through. -/
def Duty.idle : Duty :=
  { hold := none, charge := none, socket := none, news := none, counted := false }

def TunnelSession.charge (session : TunnelSession) (stage : Stage) : Charge :=
  { arc := session.arc, recordId := session.dnsRecordId, stage := stage }

/-- The reservation of `key` on behalf of a session. -/
def TunnelSession.holding (session : TunnelSession) (key : ReservationKey) :
    ReservationKey × Reservation :=
  (key, { owner := session.id, arc := session.arc })

def ReservedSetup.holding (u : ReservedSetup) : ReservationKey × Reservation :=
  (u.key, { owner := u.id, arc := u.arc })

/-- A setup that holds a reservation. -/
def Duty.ofSetup (hold : ReservationKey × Reservation) (recordId : Option String) : Duty :=
  { Duty.idle with
    hold := some hold
    charge := some { arc := hold.2.arc, recordId := recordId, stage := .setup } }

/-- Nothing but a session and its DNS record to see through. -/
def Duty.ofCharge (charge : Charge) : Duty :=
  { Duty.idle with charge := some charge }

/-- A removed TCP tunnel whose port is still reserved. -/
def Duty.ofRemoved (removed : TunnelSession) (port : UInt16) (news : Option News) : Duty :=
  { Duty.idle with
    hold := some (removed.holding (.tcp port))
    charge := some (removed.charge .closing)
    news := news }

/-- Nothing but news of a listener. -/
def Duty.ofNews (news : News) : Duty :=
  { Duty.idle with news := some news }

def Handling.duty : Handling → Duty
  | .reserve u => .ofCharge { arc := u.arc, recordId := none, stage := .setup }
  | .hash u => .ofSetup u.holding none
  | .createDns u _ => .ofSetup u.holding none
  | .newSession u => .ofSetup u.holding u.dnsRecordId
  | .register session => .ofSetup (session.holding (.http session.subdomain)) session.dnsRecordId
  | .bind session port _ => .ofSetup (session.holding (.tcp port)) session.dnsRecordId
  | .registerTcp session port _ =>
      { Duty.ofSetup (session.holding (.tcp port)) session.dnsRecordId with
        socket := some (port, session.arc) }
  | .release key owner arc _ => .ofSetup (key, { owner := owner, arc := arc }) none
  | .releaseFailed session _ =>
      .ofSetup (session.holding (.http session.subdomain)) session.dnsRecordId
  | .reply _ none => .idle
  | .reply _ (some session) => .ofCharge (session.charge .setup)
  | .deleteDns session => .ofCharge (session.charge .setup)

def Shutdown.duty : Shutdown → Duty
  | .take port removed => .ofRemoved removed port (some (.receiver removed.arc))
  | .wait port removed => .ofRemoved removed port none
  | .release port removed => .ofRemoved removed port (some (.signalled removed.arc))

def ControlPhase.duty : ControlPhase → Duty
  | .handling h => h.duty
  | .cleanup (.httpDns removed) | .cleanup (.tcpDns removed) => .ofCharge (removed.charge .closing)
  | .cleanup (.tcpShutdown sd) => sd.duty
  | _ => .idle

def ListenerPhase.duty : ListenerPhase → Duty
  | .absent | .done => .idle
  | .running port session => { Duty.idle with socket := some (port, session.arc) }
  | .stopped _ session => .ofNews (.dropped session.arc)
  | .signalled _ session => .ofNews (.signalled session.arc)
  | .release port removed => .ofRemoved removed port (some (.signalled removed.arc))
  | .deleteDns removed => .ofCharge (removed.charge .closing)

def ReaperPhase.duty : ReaperPhase → Duty
  | .notifyHttp _ removed _ | .dnsHttp _ removed _ | .notifyTcp removed _ | .dnsTcp removed _ =>
      .ofCharge (removed.charge .closing)
  | .shutdown sd _ => sd.duty
  | _ => .idle

def ReleasePhase.duty : ReleasePhase → Duty
  | .wait port owner arc =>
      { Duty.idle with hold := some (.tcp port, { owner := owner, arc := arc }), counted := true }
  | .dec => { Duty.idle with counted := true }
  | .idle | .done => .idle

namespace Tasks

def duty (t : Tasks) : Task → Duty
  | .control c => (t.control c).duty
  | .listener r => (t.listener r).duty
  | .reaper => t.reaper.duty
  | .release i => (t.release i).duty

variable (t : Tasks) (c r i : ℕ)

/-- Moving a task changes its duty and no other's. -/
theorem duty_setControl (ph : ControlPhase) :
    (t.setControl c ph).duty = Function.update t.duty (.control c) ph.duty := by
  funext task
  cases task with
  | control c' => by_cases h : c' = c <;> simp [duty, control_setControl, h]
  | listener r => simp [duty]
  | reaper => simp [duty]
  | release i => simp [duty]

theorem duty_setListener (ph : ListenerPhase) :
    (t.setListener r ph).duty = Function.update t.duty (.listener r) ph.duty := by
  funext task
  cases task with
  | control c => simp [duty]
  | listener r' => by_cases h : r' = r <;> simp [duty, listener_setListener, h]
  | reaper => simp [duty]
  | release i => simp [duty]

theorem duty_setReaper (ph : ReaperPhase) :
    (t.setReaper ph).duty = Function.update t.duty .reaper ph.duty := by
  funext task
  cases task <;> simp [duty]

theorem duty_setRelease (ph : ReleasePhase) :
    (t.setRelease i ph).duty = Function.update t.duty (.release i) ph.duty := by
  funext task
  cases task with
  | control c => simp [duty]
  | listener r => simp [duty]
  | reaper => simp [duty]
  | release i' => by_cases h : i' = i <;> simp [duty, release_setRelease, h]

end Tasks
end Rgrok
