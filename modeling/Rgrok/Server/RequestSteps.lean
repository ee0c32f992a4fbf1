/-
# The steps of one request

`handle_control_msg` in `crates/rgrok-server/src/control.rs`.

Each step that the function takes for a `TunnelRequest` leaves everything alone
that does not belong to the request (`Lifecycle.Spares`), or publishes its tunnel
and comes to the `TunnelAck` (`Lifecycle.Publishes`).  Which of the two it is,
and where the step leads, is `Lifecycle.request_step`.
-/

import Rgrok.Server.ControlQueue
import Rgrok.Server.Requests

namespace Rgrok

/-- The session was built for the request `u` of the connection `c`. -/
structure TunnelSession.Serves (session : TunnelSession) (c : ℕ) (u : Setup) : Prop where
  arc : session.arc = u.arc
  conn : session.conn = c
  id : session.id = u.id
  tunnelType : session.tunnelType = u.tunnelType
  subdomain : session.subdomain = u.subdomain

/-- `handle_control_msg` of the connection `c` works on the request `u`, or clears
up after it. -/
def Handling.Serves (c : ℕ) (u : Setup) : Handling → Prop
  | .reserve v => v = u
  | .hash v | .createDns v _ => v.toSetup = u
  | .newSession v => v.toSetup = u
  | .register session => session.Serves c u ∧ u.tunnelType.isTcp = false
  | .bind session _ _ | .registerTcp session _ _ => session.Serves c u ∧ u.tunnelType.isTcp = true
  | .release _ _ arc _ => arc = u.arc
  | .releaseFailed session _ | .deleteDns session => session.arc = u.arc
  | .reply _ failed => ∀ session, failed = some session → session.arc = u.arc

/-- The URL and the type of the acknowledgement are those of the name or port. -/
def Acknowledges (config : Config) (session : TunnelSession) (msg : ServerMsg) :
    ReservationKey → Prop
  | .http name =>
      name = session.subdomain ∧ session.tunnelType.isTcp = false ∧
        msg = .tunnelAck session.id ("https://" ++ name ++ "." ++ config.server.domain)
          session.tunnelType
  | .tcp port =>
      session.tunnelType.isTcp = true ∧
        msg = .tunnelAck session.id ("tcp://" ++ config.server.domain ++ ":" ++ toString port)
          (.tcp (some port))

namespace Lifecycle

variable {l l' : Lifecycle} {a : Action} {c : ℕ} {u : Setup} {who : Option ℕ}

/-- A step leaves the tunnels with their captures and gauge and the cleanup lists
alone, and changes no reservation, socket or DNS record but those of `who`. -/
structure Spares (l : Lifecycle) (who : Option ℕ) (l' : Lifecycle) : Prop where
  tunnels : l'.state.tunnels = l.state.tunnels
  tcpTunnels : l'.state.tcpTunnels = l.state.tcpTunnels
  captures : l'.state.captures = l.state.captures
  activeTunnels : l'.state.activeTunnels = l.state.activeTunnels
  registered : l'.registered = l.registered
  published : l'.published = l.published
  reservations : ∀ key r, who ≠ some r.arc →
    (l'.state.reservations.lookup key = some r ↔ l.state.reservations.lookup key = some r)
  sockets : ∀ x : UInt16 × ℕ, who ≠ some x.2 → (x ∈ l'.sockets ↔ x ∈ l.sockets)
  dnsCreated : ∀ x : ℕ × String, who ≠ some x.1 → (x ∈ l'.dnsCreated ↔ x ∈ l.dnsCreated)
  dnsDeleted : ∀ x : ℕ × String, who ≠ some x.1 → (x ∈ l'.dnsDeleted ↔ x ∈ l.dnsDeleted)

/-- A step turns the reservation of a name or port into a published tunnel with
an empty capture queue, and puts it on the cleanup list of the connection. -/
structure Publishes (l : Lifecycle) (c : ℕ) (key : ReservationKey) (session : TunnelSession)
    (l' : Lifecycle) : Prop where
  free : l.state.published key = none
  reserved : l.state.reservations.lookup key = some { owner := session.id, arc := session.arc }
  tunnels : l'.state.published = Function.update l.state.published key (some session)
  reservations : l'.state.reservations = l.state.reservations.erase key
  captures : l'.state.captures = match key with
    | .http name => l.state.captures.insert name []
    | .tcp _ => l.state.captures
  activeTunnels : l'.state.activeTunnels = l.state.activeTunnels + 1
  registered : ∀ x, x ∈ (l'.registered c).pairs ↔ x ∈ (l.registered c).pairs ∨ x = (key, session)
  published : l'.published = session.arc :: l.published
  sockets : l'.sockets = l.sockets
  bound : ∀ port, key = .tcp port → (port, session.arc) ∈ l'.sockets
  dnsCreated : l'.dnsCreated = l.dnsCreated
  dnsDeleted : l'.dnsDeleted = l.dnsDeleted

/-! ### Steps that leave the rest alone -/

namespace Spares

/-- Nothing changes but the phase of a task and the mutable part of a session. -/
theorem of_state (htunnels : l'.state.tunnels = l.state.tunnels)
    (htcp : l'.state.tcpTunnels = l.state.tcpTunnels)
    (hcaptures : l'.state.captures = l.state.captures)
    (hactive : l'.state.activeTunnels = l.state.activeTunnels)
    (hreservations : l'.state.reservations = l.state.reservations)
    (hregistered : l'.registered = l.registered) (hpublished : l'.published = l.published)
    (hsockets : l'.sockets = l.sockets) (hcreated : l'.dnsCreated = l.dnsCreated)
    (hdeleted : l'.dnsDeleted = l.dnsDeleted) : l.Spares who l' where
  tunnels := htunnels
  tcpTunnels := htcp
  captures := hcaptures
  activeTunnels := hactive
  registered := hregistered
  published := hpublished
  reservations key r _ := by rw [hreservations]
  sockets x _ := by rw [hsockets]
  dnsCreated x _ := by rw [hcreated]
  dnsDeleted x _ := by rw [hdeleted]

theorem refl (l : Lifecycle) (who : Option ℕ) : l.Spares who l :=
  of_state rfl rfl rfl rfl rfl rfl rfl rfl rfl rfl

theorem setControl (ph : ControlPhase) : l.Spares who (l.setControl c ph) :=
  of_state rfl rfl rfl rfl rfl rfl rfl rfl rfl rfl

/-- A reservation is added under a free key. -/
theorem reserve {key : ReservationKey} {r : Reservation} (ph : ControlPhase)
    (hfree : l.state.reservations.lookup key = none) :
    l.Spares (some r.arc) ({ l with state :=
      { l.state with reservations := l.state.reservations.insert key r } }.setControl c ph) := by
  refine { refl l _ with reservations := fun k r' hne => ?_ }
  simp only [Lifecycle.setControl, AList.lookup_insert_ite]
  split_ifs with hk
  · subst hk
    rw [hfree]
    refine ⟨fun he => absurd ?_ hne, fun he => by cases he⟩
    rw [Option.some.inj he]
  · exact Iff.rfl

/-- The reservation that stands under a key is released. -/
theorem release {key : ReservationKey} {r : Reservation} (ph : ControlPhase)
    (hs : l.state.slot key = some (.reserved r)) :
    l.Spares (some r.arc)
      ({ l with state := l.state.releaseReservation key r.owner }.setControl c ph) := by
  rw [(ServerState.releaseReservation_of_slot hs).1]
  refine { refl l _ with reservations := fun k r' hne => ?_ }
  simp only [Lifecycle.setControl, AList.lookup_erase_ite]
  split_ifs with hk
  · subst hk
    rw [(ServerState.published_of_slot_reserved hs).2]
    refine ⟨fun he => (by cases he), fun he => absurd ?_ hne⟩
    rw [Option.some.inj he]
  · exact Iff.rfl

/-- A DNS record is passed on for deletion. -/
theorem deleteDns (session : TunnelSession) (ph : ControlPhase) :
    l.Spares (some session.arc) ((l.deleteDnsRecord session).setControl c ph) := by
  rw [deleteDnsRecord]
  split
  · rename_i recordId _
    refine { refl l _ with dnsDeleted := fun x hne => ?_ }
    refine ⟨fun hx => (List.mem_cons.1 hx).resolve_left ?_, List.mem_cons_of_mem _⟩
    rintro rfl
    exact hne rfl
  · exact setControl ph

end Spares

/-- A step that `handle_control_msg` takes for the request `u` on the way to its
answer. -/
inductive RequestStep (l : Lifecycle) (c : ℕ) (u : Setup) (l' : Lifecycle) : Prop
  | spares (h : Handling) (hspares : l.Spares (some u.arc) l')
      (hph : l'.tasks.control c = .handling h) (hserves : h.Serves c u) (hfails : h.Fails)
      (hdue : h.answering = true)
  | publishes (key : ReservationKey) (session : TunnelSession) (msg : ServerMsg)
      (hpub : l.Publishes c key session l') (hserves : session.Serves c u)
      (hmsg : Acknowledges l.state.config session msg key)
      (hph : l'.tasks.control c = .handling (.reply msg none))

/-- The step only moves the task on. -/
theorem RequestStep.setControl {h : Handling} (hserves : h.Serves c u) (hfails : h.Fails)
    (hdue : h.answering = true) : l.RequestStep c u (l.setControl c (.handling h)) :=
  .spares h (.setControl _) (Tasks.control_setControl_self ..) hserves hfails hdue

/-! ### On the way to the session -/

variable {h : Handling}

theorem reserveName_request {tcp : u.tunnelType.isTcp = false} :
    l.RequestStep c u (l.reserveName c u tcp) := by
  rw [reserveName]
  split
  · rename_i state hstate
    obtain ⟨-, hfree, -, rfl⟩ := ServerState.reserveHttpTunnel_eq_ok hstate
    exact .spares _ (.reserve (r := ⟨u.id, u.arc⟩) _ hfree) (Tasks.control_setControl_self ..) rfl
      trivial rfl
  · exact .setControl (fun session hs => by cases hs) ⟨_, _, rfl⟩ rfl

theorem reservePort_request {remotePort : Option UInt16} {tcp : u.tunnelType.isTcp = true} :
    l.RequestStep c u (l.reservePort c u remotePort tcp) := by
  rw [reservePort]
  split
  · rename_i port state hstate
    obtain ⟨-, -, hfree, -, rfl⟩ := ServerState.reserveTcpPort_eq_ok hstate
    exact .spares _ (.reserve (r := ⟨u.id, u.arc⟩) _ hfree) (Tasks.control_setControl_self ..) rfl
      trivial rfl
  · exact .setControl (fun session hs => by cases hs) ⟨_, _, rfl⟩ rfl

theorem reserve_request (hph : l.tasks.control c = .handling h) (hserves : h.Serves c u)
    (hs : l.reserve c = some l') : l.RequestStep c u l' := by
  unfold Lifecycle.reserve at hs
  split at hs
  · rename_i v hv
    obtain rfl := ControlPhase.handling.inj (hph.symm.trans hv)
    obtain rfl : v = u := hserves
    split at hs <;> obtain rfl := Option.some.inj hs
    · exact reservePort_request
    · exact reserveName_request
    · exact reserveName_request
  · cases hs

theorem serves_afterHash {v : ReservedSetup} (hv : v.toSetup = u) :
    (afterHash v).Serves c u ∧ (afterHash v).Fails ∧ (afterHash v).answering = true := by
  rw [afterHash]
  split <;> exact ⟨hv, trivial, rfl⟩

theorem hashBasicAuth_request (hph : l.tasks.control c = .handling h) (hserves : h.Serves c u)
    {hashPassword : String → Except String String} (hs : l.hashBasicAuth c hashPassword = some l') :
    l.RequestStep c u l' := by
  unfold hashBasicAuth at hs
  split at hs
  · rename_i v hv
    obtain rfl := ControlPhase.handling.inj (hph.symm.trans hv)
    have hu : v.toSetup = u := hserves
    split at hs
    · obtain rfl := Option.some.inj hs
      obtain ⟨hnext, hfails, hdue⟩ := serves_afterHash (c := c) hu
      exact .setControl hnext hfails hdue
    · split at hs
      · rename_i hash _
        obtain rfl := Option.some.inj hs
        obtain ⟨hnext, hfails, hdue⟩ :=
          serves_afterHash (c := c) (v := { v with basicAuthHash := some hash }) hu
        exact .setControl hnext hfails hdue
      · obtain rfl := Option.some.inj hs
        exact .setControl (congrArg Setup.arc hu) ⟨_, _, rfl⟩ rfl
  · cases hs

theorem createDns_request (hph : l.tasks.control c = .handling h) (hserves : h.Serves c u)
    {createRecord : String → String → Except String String}
    (hs : l.createDns c createRecord = some l') : l.RequestStep c u l' := by
  unfold Lifecycle.createDns at hs
  split at hs
  · rename_i v http hv
    obtain rfl := ControlPhase.handling.inj (hph.symm.trans hv)
    obtain rfl : v.toSetup = u := hserves
    split at hs
    · rename_i recordId _
      obtain rfl := Option.some.inj hs
      refine .spares _ { Spares.refl l _ with dnsCreated := fun x hne => ?_ }
        (Tasks.control_setControl_self ..) rfl trivial rfl
      refine ⟨fun hx => (List.mem_append.1 hx).resolve_left fun hnew => hne ?_,
        List.mem_append_right _⟩
      obtain ⟨id, -, rfl⟩ := Option.map_eq_some_iff.1 (Option.mem_toList.1 hnew)
      rfl
    · obtain rfl := Option.some.inj hs
      exact .setControl rfl ⟨_, _, rfl⟩ rfl
  · cases hs

/-- A setup has a port exactly if the request is for a TCP tunnel. -/
theorem isTcp_of_tcpPort {v : ReservedSetup} {port : Option UInt16} (h : v.tcpPort = port) :
    v.tunnelType.isTcp = port.isSome := by
  rw [← v.kind, h]

theorem newSession_request (hph : l.tasks.control c = .handling h) (hserves : h.Serves c u)
    (hs : l.newSession c = some l') : l.RequestStep c u l' := by
  unfold Lifecycle.newSession at hs
  split at hs
  · rename_i v hv
    obtain rfl := ControlPhase.handling.inj (hph.symm.trans hv)
    obtain rfl : v.toSetup = u := hserves
    have hsession : (v.session c).Serves c v.toSetup := ⟨rfl, rfl, rfl, rfl, rfl⟩
    dsimp only at hs
    split at hs
    · rename_i hport
      obtain rfl := Option.some.inj hs
      exact .spares _ (.of_state rfl rfl rfl rfl rfl rfl rfl rfl rfl rfl)
        (Tasks.control_setControl_self ..) ⟨hsession, isTcp_of_tcpPort hport⟩ trivial rfl
    · rename_i port hport
      obtain rfl := Option.some.inj hs
      exact .spares _ (.of_state rfl rfl rfl rfl rfl rfl rfl rfl rfl rfl)
        (Tasks.control_setControl_self ..) ⟨hsession, isTcp_of_tcpPort hport⟩ trivial rfl
  · cases hs

/-! ### Publishing, and giving up -/

/-- The reservation of a setup stands under its own name and owner. -/
theorem slot_of_handling (hi : l.view.Inv) (hph : l.tasks.control c = .handling h)
    {key : ReservationKey} {r : Reservation} (hd : h.duty.hold = some (key, r)) :
    l.state.slot key = some (.reserved r) :=
  hi.hold.slot_eq (t := .control c) (by rw [duty_control hph]; exact hd)

/-- Publishing under a reserved key consumes the reservation. -/
theorem reservations_of_consumes {s : ServerState} {key : ReservationKey} {r : Reservation}
    {reservations : AList fun _ : ReservationKey => Reservation}
    (hs : s.reservations.lookup key = some r)
    (h : s.ConsumesReservation key r.owner reservations) :
    reservations = s.reservations.erase key := by
  rcases h with ⟨-, -, -, h⟩ | ⟨hnone, -, -⟩
  · exact h
  · rw [hs] at hnone
    cases hnone

theorem register_request (hi : l.view.Inv) (hph : l.tasks.control c = .handling h)
    (hserves : h.Serves c u) (hs : l.register c = some l') : l.RequestStep c u l' := by
  unfold register at hs
  split at hs
  · rename_i session hv
    obtain rfl := ControlPhase.handling.inj (hph.symm.trans hv)
    obtain ⟨hsession, hhttp⟩ := hserves
    split at hs
    · rename_i state hstate
      obtain rfl := Option.some.inj hs
      have hslot := slot_of_handling hi hph rfl
      obtain ⟨hfree, hres⟩ := ServerState.published_of_slot_reserved hslot
      have htunnels : state.published =
          Function.update l.state.published (.http session.subdomain) (some session) :=
        ServerState.published_of_slot (ServerState.slot_registerTunnel hstate)
      obtain ⟨-, reservations, hconsumes, rfl⟩ := ServerState.registerTunnel_eq_ok hstate
      have hnot : session.tunnelType.isTcp = false := hsession.tunnelType ▸ hhttp
      refine .publishes (.http session.subdomain) session _
        { free := hfree
          reserved := hres
          tunnels := htunnels
          reservations := reservations_of_consumes hres hconsumes
          captures := rfl
          activeTunnels := rfl
          registered := fun x => ?_
          published := rfl
          sockets := rfl
          bound := fun port he => by cases he
          dnsCreated := rfl
          dnsDeleted := rfl } hsession ⟨rfl, hnot, ?_⟩ (Tasks.control_setControl_self ..)
      · simp only [Function.update_self, Registered.pairs, List.map_append, List.mem_append,
          List.map_cons, List.map_nil, List.mem_singleton]
        tauto
      · rw [tunnelAck]
        split
        · rename_i ht
          rw [ht] at hnot
          cases hnot
        · rfl
    · obtain rfl := Option.some.inj hs
      exact .setControl hsession.arc ⟨_, _, rfl⟩ rfl
  · cases hs

theorem bind_request (hph : l.tasks.control c = .handling h) (hserves : h.Serves c u)
    {bound : Except String Unit} (hs : l.bind c bound = some l') : l.RequestStep c u l' := by
  unfold bind at hs
  split at hs
  · rename_i session port noRecord hv
    obtain rfl := ControlPhase.handling.inj (hph.symm.trans hv)
    obtain ⟨hsession, htcp⟩ := hserves
    split at hs
    · obtain rfl := Option.some.inj hs
      refine .spares _ { Spares.refl l _ with sockets := fun x hne => ?_ }
        (Tasks.control_setControl_self ..) ⟨hsession, htcp⟩ trivial rfl
      refine ⟨fun hx => (List.mem_cons.1 hx).resolve_left ?_, List.mem_cons_of_mem _⟩
      rintro rfl
      exact hne (congrArg some hsession.arc.symm)
    · obtain rfl := Option.some.inj hs
      exact .setControl hsession.arc ⟨_, _, rfl⟩ rfl
  · cases hs

theorem registerTcp_request (hi : l.view.Inv) (hph : l.tasks.control c = .handling h)
    (hserves : h.Serves c u) (hs : l.registerTcp c = some l') : l.RequestStep c u l' := by
  unfold registerTcp at hs
  split at hs
  · rename_i session port noRecord hv
    obtain rfl := ControlPhase.handling.inj (hph.symm.trans hv)
    obtain ⟨hsession, htcp⟩ := hserves
    split at hs
    · rename_i state hstate
      obtain rfl := Option.some.inj hs
      have hslot := slot_of_handling hi hph rfl
      obtain ⟨hfree, hres⟩ := ServerState.published_of_slot_reserved hslot
      have htunnels : state.published =
          Function.update l.state.published (.tcp port) (some session) :=
        ServerState.published_of_slot (ServerState.slot_tryRegisterTcpTunnel hstate)
      obtain ⟨-, -, reservations, hconsumes, rfl⟩ := ServerState.tryRegisterTcpTunnel_eq_ok hstate
      have hbound : (port, session.arc) ∈ l.sockets :=
        (hi.sockets.bound.mem_iff _).2 ⟨.control c, by
          rw [Function.comp_apply, duty_control hph]
          rfl⟩
      have hyes : session.tunnelType.isTcp = true := hsession.tunnelType ▸ htcp
      refine .publishes (.tcp port) session _
        { free := hfree
          reserved := hres
          tunnels := htunnels
          reservations := reservations_of_consumes hres hconsumes
          captures := rfl
          activeTunnels := rfl
          registered := fun x => ?_
          published := rfl
          sockets := rfl
          bound := fun port' he => ReservationKey.tcp.inj he ▸ hbound
          dnsCreated := rfl
          dnsDeleted := rfl } hsession ⟨hyes, ?_⟩ (Tasks.control_setControl_self ..)
      · simp only [Function.update_self, Registered.pairs, List.map_append, List.mem_append,
          List.map_cons, List.map_nil, List.mem_singleton]
        tauto
      · rw [tunnelAck]
        split
        · rfl
        · rename_i ht
          cases htype : session.tunnelType with
          | tcp remotePort => exact absurd htype (ht remotePort)
          | http | https =>
              rw [htype] at hyes
              cases hyes
    · obtain rfl := Option.some.inj hs
      refine .spares _ { Spares.refl l _ with sockets := fun x hne => ?_ }
        (Tasks.control_setControl_self ..) hsession.arc ⟨_, _, rfl⟩ rfl
      refine List.mem_erase_of_ne ?_
      rintro rfl
      exact hne (congrArg some hsession.arc.symm)
  · cases hs

theorem releaseSetup_request (hi : l.view.Inv) (hph : l.tasks.control c = .handling h)
    (hserves : h.Serves c u) (hfails : h.Fails) (hs : l.releaseSetup c = some l') :
    l.RequestStep c u l' := by
  unfold releaseSetup at hs
  split at hs
  · rename_i key owner arc msg hv
    obtain rfl := ControlPhase.handling.inj (hph.symm.trans hv)
    obtain rfl := Option.some.inj hs
    obtain rfl : arc = u.arc := hserves
    exact .spares _ (.release (r := ⟨owner, u.arc⟩) _ (slot_of_handling hi hph rfl))
      (Tasks.control_setControl_self ..) (fun session he => by cases he) hfails rfl
  · rename_i session msg hv
    obtain rfl := ControlPhase.handling.inj (hph.symm.trans hv)
    obtain rfl := Option.some.inj hs
    have harc : session.arc = u.arc := hserves
    refine .spares _ ?_ (Tasks.control_setControl_self ..) (fun session' he => ?_) hfails rfl
    · rw [← harc]
      exact .release (r := ⟨session.id, session.arc⟩) _ (slot_of_handling hi hph rfl)
    · rw [← Option.some.inj he]
      exact harc
  · cases hs

/-- **What a step for a request does**, up to its answer: it spares the rest of
the server, or publishes the tunnel. -/
theorem request_step (hi : l.view.Inv) (hs : l.step a = some l') (ha : a.task = .control c)
    (hph : l.tasks.control c = .handling h) (hserves : h.Serves c u) (hfails : h.Fails)
    (hworking : h.working = true) : l.RequestStep c u l' := by
  cases a with
  | reserve c' =>
      obtain rfl := Task.control.inj ha
      exact reserve_request hph hserves hs
  | hashBasicAuth c' hashPassword =>
      obtain rfl := Task.control.inj ha
      exact hashBasicAuth_request hph hserves hs
  | createDns c' createRecord =>
      obtain rfl := Task.control.inj ha
      exact createDns_request hph hserves hs
  | newSession c' =>
      obtain rfl := Task.control.inj ha
      exact newSession_request hph hserves hs
  | register c' =>
      obtain rfl := Task.control.inj ha
      exact register_request hi hph hserves hs
  | bind c' bound =>
      obtain rfl := Task.control.inj ha
      exact bind_request hph hserves hs
  | registerTcp c' =>
      obtain rfl := Task.control.inj ha
      exact registerTcp_request hi hph hserves hs
  | releaseSetup c' =>
      obtain rfl := Task.control.inj ha
      exact releaseSetup_request hi hph hserves hfails hs
  | accept c' | enterLoop c' | enterSelect c' | continueLoop c' | breakLoop c'
  | handleControlMsg c' msg draw | cleanupHttp c' | cleanupHttpDns c' | cleanupTcp c'
  | cleanupTcpDns c' =>
      obtain rfl := Task.control.inj ha
      simp only [step, accept, enterLoop, enterSelect, continueLoop, breakLoop, handleControlMsg,
        cleanupHttp, cleanupHttpDns, cleanupTcp, cleanupTcpDns, hph, reduceCtorEq] at hs
  | replied c' =>
      obtain rfl := Task.control.inj ha
      simp only [step, replied] at hs
      split at hs
      case h_3 => cases hs
      all_goals
        rename_i hv
        obtain rfl := ControlPhase.handling.inj (hph.symm.trans hv)
        cases hworking
  | deleteFailedDns c' =>
      obtain rfl := Task.control.inj ha
      simp only [step, deleteFailedDns] at hs
      split at hs
      · rename_i hv
        obtain rfl := ControlPhase.handling.inj (hph.symm.trans hv)
        cases hworking
      · cases hs
  | shutdownTake caller | shutdownStopped caller | shutdownTimeout caller
  | shutdownRelease caller =>
      cases caller with
      | reaper => cases ha
      | cleanup c' =>
          obtain rfl := Task.control.inj ha
          simp only [step, shutdownTake, shutdownStopped, shutdownTimeout, shutdownRelease,
            Tasks.shutdown, hph, reduceCtorEq] at hs
  | releaseStopped | releaseDec | stopListening | signalStopped | listenerRemove
  | listenerRelease | listenerDns | reapTick | reapStop | reapFoundHttp | reapHttpCollected
  | reapHttp | reapNotified | reapDns | reapFoundTcp | reapTcpCollected | reapTcp => cases ha

end Lifecycle
end Rgrok
