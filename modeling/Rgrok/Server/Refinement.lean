/-
# Every step of the server is a move

For each step function of `Lifecycle.lean` and `Teardown.lean`: if the store is
valid and the invariants of the moves hold, the step is a move of the view and
leaves the store valid.  `Lifecycle.step_simulated` collects them, and with it
every reachable state satisfies the invariants (`Lifecycle.Reachable.inv`).
-/

import Rgrok.Server.Sockets

namespace Rgrok
namespace View

theorem Move.of_eq {v v₁ v' : View} {t : Task} {who : Option ℕ} (m : v.Move t who v₁)
    (h : v' = v₁) : v.Move t who v' :=
  h ▸ m

end View

namespace Lifecycle

open View

variable {l l' : Lifecycle} {c r i : ℕ} {t : Task} {ph old : ControlPhase}

/-- The step of `t` from `l` to `l'` is a move, and the store stays valid. -/
structure Simulated (l : Lifecycle) (t : Task) (l' : Lifecycle) : Prop where
  valid : l'.state.Valid
  move : l.view.Move t (l.onBehalf t) l'.view

theorem Simulated.stay (hv : l.state.Valid) (hstate : l'.state = l.state)
    (hview : l'.view = l.view) : l.Simulated t l' where
  valid := hstate ▸ hv
  move := hview ▸ .stay

/-! ### What moving a control task does to the view -/

theorem remaining_setControl (l : Lifecycle) (c : ℕ) (ph : ControlPhase) :
    (l.setControl c ph).remaining =
      Function.update l.remaining c (ph.remaining (l.registered c)) := by
  funext c'
  by_cases h : c' = c
  · subst h
    simp [remaining, setControl]
  · simp [remaining, setControl, Tasks.control_setControl, h]

theorem remaining_setControl_of_eq (hph : l.tasks.control c = old)
    (hr : ph.remaining (l.registered c) = old.remaining (l.registered c)) :
    (l.setControl c ph).remaining = l.remaining := by
  rw [remaining_setControl, hr, ← hph]
  exact Function.update_eq_self c l.remaining

/-- A control task moves on with the same cleanup list. -/
theorem view_setControl (hph : l.tasks.control c = old)
    (hr : ph.remaining (l.registered c) = old.remaining (l.registered c)) :
    (l.setControl c ph).view =
      { l.view with duty := Function.update l.view.duty (.control c) ph.duty } :=
  View.ext rfl (Tasks.duty_setControl ..) (remaining_setControl_of_eq hph hr) rfl rfl rfl rfl rfl
    rfl rfl rfl rfl rfl rfl

theorem duty_control (hph : l.tasks.control c = old) : l.view.duty (.control c) = old.duty := by
  rw [← hph]
  rfl

/-- A control task moves on and nothing visible changes. -/
theorem Simulated.stay_control (hv : l.state.Valid) (hph : l.tasks.control c = old)
    (hd : ph.duty = old.duty)
    (hr : ph.remaining (l.registered c) = old.remaining (l.registered c)) :
    l.Simulated (.control c) (l.setControl c ph) := by
  refine .stay hv rfl ?_
  rw [view_setControl hph hr, hd, ← duty_control hph, Function.update_eq_self]

/-- Changing a cell in another field. -/
theorem cell_updateCell (s : ServerState) (arc : ℕ) (f : SessionCell → SessionCell)
    (g : SessionCell → Bool) (hg : ∀ cell, g (f cell) = g cell) :
    (fun r => g ((s.updateCell arc f).cells r)) = fun r => g (s.cells r) := by
  refine (Function.comp_update g s.cells arc (f (s.cells arc))).trans ?_
  rw [hg]
  exact Function.update_eq_self arc (g ∘ s.cells)

/-! ### `handle_client` up to the loop -/

theorem accept_simulated (hv : l.state.Valid) (h : l.accept c = some l') :
    l.Simulated (.control c) l' := by
  unfold accept at h
  split at h
  · rename_i hph
    cases h
    exact .stay_control hv hph rfl rfl
  · cases h

theorem enterLoop_simulated (hv : l.state.Valid) (h : l.enterLoop c = some l') :
    l.Simulated (.control c) l' := by
  unfold enterLoop at h
  split at h
  · rename_i hph
    cases h
    refine .stay hv rfl (View.ext rfl ?_ ?_ rfl rfl rfl rfl rfl rfl rfl rfl rfl rfl rfl)
    · have hd : ControlPhase.loopTop.duty = l.tasks.duty (.control c) := (duty_control hph).symm
      refine (Tasks.duty_setControl ..).trans ?_
      rw [hd]
      exact Function.update_eq_self ..
    · funext c'
      by_cases he : c' = c
      · subst he
        simp [view, remaining, hph, setControl, ControlPhase.remaining, Registered.entries]
      · simp [view, remaining, setControl, Tasks.control_setControl, he]
  · cases h

theorem enterSelect_simulated (hv : l.state.Valid) (h : l.enterSelect c = some l') :
    l.Simulated (.control c) l' := by
  unfold enterSelect at h
  split at h
  · rename_i hph
    cases h
    exact .stay_control hv hph rfl rfl
  · cases h

theorem continueLoop_simulated (hv : l.state.Valid) (h : l.continueLoop c = some l') :
    l.Simulated (.control c) l' := by
  unfold continueLoop at h
  split at h
  · rename_i hph
    cases h
    exact .stay_control hv hph rfl rfl
  · cases h

theorem breakLoop_simulated (hv : l.state.Valid) (h : l.breakLoop c = some l') :
    l.Simulated (.control c) l' := by
  unfold breakLoop at h
  split at h
  · rename_i hph
    cases h
    exact .stay_control hv hph rfl rfl
  · rename_i hph
    cases h
    exact .stay_control hv hph rfl rfl
  · cases h

/-! ### `handle_control_msg` -/

/-- A request gets an identity, and its task the duty to see it through. -/
theorem view_startSetup (hph : l.tasks.control c = .select) (id : String) (tunnelType : TunnelType)
    (subdomain : String) (basicAuth : Option BasicAuthConfig) (options : TunnelOptions) :
    (l.startSetup c id tunnelType subdomain basicAuth options).view = { l.view with
      duty := Function.update l.view.duty (.control c)
        (.ofCharge { arc := l.nextArc, recordId := none, stage := .setup })
      nextArc := l.nextArc + 1 } :=
  View.ext rfl (Tasks.duty_setControl ..) (remaining_setControl_of_eq hph rfl) rfl rfl rfl rfl rfl
    rfl rfl rfl rfl rfl rfl

theorem startSetup_simulated (hv : l.state.Valid) (hph : l.tasks.control c = .select) (id : String)
    (tunnelType : TunnelType) (subdomain : String) (basicAuth : Option BasicAuthConfig)
    (options : TunnelOptions) :
    l.Simulated (.control c) (l.startSetup c id tunnelType subdomain basicAuth options) :=
  ⟨hv, (Move.start (duty_control hph) trivial).of_eq (view_startSetup hph ..)⟩

theorem handleControlMsg_simulated (hv : l.state.Valid) {msg : ClientMsg} {draw : SubdomainDraw}
    (h : l.handleControlMsg c msg draw = some l') : l.Simulated (.control c) l' := by
  unfold handleControlMsg at h
  split at h
  · rename_i hph
    split at h
    · split at h
      · split at h
        · cases h
          exact .stay_control hv hph rfl rfl
        · cases h
          exact startSetup_simulated hv hph ..
      · cases h
        exact startSetup_simulated hv hph ..
    · cases h
      exact .stay_control hv hph rfl rfl
    · cases h
      exact .stay_control hv hph rfl rfl
    · cases h
      exact .stay_control hv hph rfl rfl
  · cases h

theorem onBehalf_handling {h : Handling} (hph : l.tasks.control c = .handling h) :
    l.onBehalf (.control c) = h.arc := by
  simp only [onBehalf, hph]

theorem reserveName_simulated (hv : l.state.Valid) {u : Setup}
    (hph : l.tasks.control c = .handling (.reserve u)) (hu : u.tunnelType.isTcp = false) :
    l.Simulated (.control c) (l.reserveName c u hu) := by
  unfold reserveName
  split
  · rename_i state hstate
    obtain ⟨hfree, hslot⟩ := ServerState.slot_reserveHttpTunnel hstate
    refine ⟨hv.reserveHttpTunnel hstate,
      (Move.reserve (.http u.subdomain) ⟨u.id, u.arc⟩ (duty_control hph) hfree).of_eq ?_⟩
    obtain ⟨-, -, -, rfl⟩ := ServerState.reserveHttpTunnel_eq_ok hstate
    exact View.ext hslot (Tasks.duty_setControl ..) (remaining_setControl_of_eq hph rfl) rfl rfl rfl
      rfl rfl rfl rfl rfl rfl rfl rfl
  · refine ⟨hv, (Move.settle _ (duty_control hph)).of_eq ?_⟩
    exact view_setControl hph rfl

theorem reservePort_simulated (hv : l.state.Valid) {u : Setup}
    (hph : l.tasks.control c = .handling (.reserve u)) (remotePort : Option UInt16)
    (hu : u.tunnelType.isTcp = true) :
    l.Simulated (.control c) (l.reservePort c u remotePort hu) := by
  unfold reservePort
  split
  · rename_i port state hstate
    obtain ⟨hfree, hslot⟩ := ServerState.slot_reserveTcpPort hstate
    refine ⟨hv.reserveTcpPort hstate,
      (Move.reserve (.tcp port) ⟨u.id, u.arc⟩ (duty_control hph) hfree).of_eq ?_⟩
    obtain ⟨-, -, -, -, rfl⟩ := ServerState.reserveTcpPort_eq_ok hstate
    exact View.ext hslot (Tasks.duty_setControl ..) (remaining_setControl_of_eq hph rfl) rfl rfl rfl
      rfl rfl rfl rfl rfl rfl rfl rfl
  · refine ⟨hv, (Move.settle _ (duty_control hph)).of_eq ?_⟩
    exact view_setControl hph rfl

theorem reserve_simulated (hv : l.state.Valid) (h : l.reserve c = some l') :
    l.Simulated (.control c) l' := by
  unfold reserve at h
  split at h
  · rename_i u hph
    split at h <;> cases h
    · exact reservePort_simulated hv hph _ _
    · exact reserveName_simulated hv hph _
    · exact reserveName_simulated hv hph _
  · cases h

theorem duty_afterHash (u : ReservedSetup) :
    (ControlPhase.handling (afterHash u)).duty = .ofSetup u.holding none := by
  unfold afterHash
  split <;> rfl

theorem remaining_afterHash (u : ReservedSetup) (reg : Registered) :
    (ControlPhase.handling (afterHash u)).remaining reg = reg.entries :=
  rfl

theorem hashBasicAuth_simulated (hv : l.state.Valid) {hashPassword : String → Except String String}
    (h : l.hashBasicAuth c hashPassword = some l') : l.Simulated (.control c) l' := by
  unfold hashBasicAuth at h
  split at h
  · rename_i u hph
    split at h
    · cases h
      exact .stay_control hv hph (duty_afterHash u) rfl
    · split at h
      · cases h
        exact .stay_control hv hph (duty_afterHash _) rfl
      · cases h
        exact .stay_control hv hph rfl rfl
  · cases h

/-- A record id is returned only where DNS records are enabled. -/
theorem perTunnelDns_of_createDnsRecord {s : ServerState} {subdomain recordId : String}
    {createRecord : String → String → Except String String}
    (h : s.createDnsRecord subdomain createRecord = .ok (some recordId)) :
    s.config.cloudflare.perTunnelDns = true := by
  unfold ServerState.createDnsRecord at h
  split at h
  · assumption
  · cases h

theorem createDns_simulated (hv : l.state.Valid)
    {createRecord : String → String → Except String String}
    (h : l.createDns c createRecord = some l') : l.Simulated (.control c) l' := by
  unfold createDns at h
  split at h
  · rename_i u http hph
    split at h
    · rename_i recordId hrecord
      cases h
      cases recordId with
      | none => exact .stay_control hv hph rfl rfl
      | some id =>
          refine ⟨hv, (Move.createDns u.holding id (duty_control hph)
            (perTunnelDns_of_createDnsRecord hrecord)).of_eq ?_⟩
          exact View.ext rfl (Tasks.duty_setControl ..) (remaining_setControl_of_eq hph rfl) rfl rfl
            rfl rfl rfl rfl rfl rfl rfl rfl rfl
    · cases h
      refine .stay_control hv hph ?_ rfl
      exact congrArg (fun key => Duty.ofSetup (key, ⟨u.id, u.arc⟩) none)
        (ReservedSetup.key_of_tcpPort_eq_none http).symm
  · cases h

theorem newSession_simulated (hv : l.state.Valid) (h : l.newSession c = some l') :
    l.Simulated (.control c) l' := by
  unfold newSession at h
  split at h
  · rename_i u hph
    -- the new session holds and answers for what the setup did
    have sim : ∀ hd : Handling, hd.duty = .ofSetup u.holding u.dnsRecordId →
        l.Simulated (.control c) ({ l with
          state := l.state.updateCell u.arc fun _ => .new }.setControl c (.handling hd)) := by
      intro hd hduty
      refine ⟨hv.congr rfl rfl rfl rfl rfl rfl,
        (Move.newSession u.holding u.dnsRecordId (duty_control hph)).of_eq ?_⟩
      refine View.ext rfl ?_ (remaining_setControl_of_eq hph rfl) rfl ?_ ?_ rfl rfl rfl rfl rfl rfl
        rfl rfl
      · refine (Tasks.duty_setControl ..).trans ?_
        have : (ControlPhase.handling hd).duty = l.tasks.duty (.control c) :=
          hduty.trans (duty_control hph).symm
        rw [this]
        exact Function.update_eq_self ..
      · exact Function.comp_update SessionCell.listenerStopped l.state.cells u.arc .new
      · exact Function.comp_update SessionCell.stopSignal l.state.cells u.arc .new
    dsimp only at h
    split at h
    · rename_i hport
      cases h
      refine sim _ ?_
      rw [ReservedSetup.holding, ReservedSetup.key_of_tcpPort_eq_none hport]
      rfl
    · rename_i port hport
      cases h
      refine sim _ ?_
      rw [ReservedSetup.holding, ReservedSetup.key_of_tcpPort_eq_some hport]
      rfl
  · cases h

/-- Publishing adds to the cleanup list of one connection. -/
theorem remaining_publish {reg : Registered} (hph : l.tasks.control c = old)
    (hold : old.remaining (l.registered c) = (l.registered c).entries)
    (hreg : ∀ x ∈ (l.registered c).entries, x ∈ reg.entries) (c' : ℕ) (x : ReservationKey × ℕ)
    (hx : x ∈ l.view.remaining c') : x ∈ Function.update l.remaining c reg.entries c' := by
  by_cases he : c' = c
  · subst he
    rw [Function.update_self]
    refine hreg x ?_
    rw [← hold, ← hph]
    exact hx
  · rw [Function.update_of_ne he]
    exact hx

/-- The cleanup lists after a control task got a new phase and a new list. -/
theorem remaining_set (ph : ControlPhase) (reg : Registered)
    (ht : l'.tasks.control = Function.update l.tasks.control c ph)
    (hreg : l'.registered = Function.update l.registered c reg) :
    l'.remaining = Function.update l.remaining c (ph.remaining reg) := by
  funext c'
  by_cases he : c' = c
  · subst he
    simp [remaining, ht, hreg]
  · simp [remaining, ht, hreg, he]

theorem mem_entries_subdomain {reg : Registered} (entry : String × TunnelSession) :
    (.http entry.1, entry.2.arc) ∈
      Registered.entries { reg with subdomains := reg.subdomains ++ [entry] } := by
  simp [Registered.entries]

theorem mem_entries_tcpPort {reg : Registered} (entry : UInt16 × TunnelSession) :
    (.tcp entry.1, entry.2.arc) ∈
      Registered.entries { reg with tcpPorts := reg.tcpPorts ++ [entry] } := by
  simp [Registered.entries]

theorem register_simulated (hv : l.state.Valid) (h : l.register c = some l') :
    l.Simulated (.control c) l' := by
  unfold register at h
  split at h
  · rename_i session hph
    split at h
    · rename_i state hstate
      cases h
      refine ⟨hv.registerTunnel hstate, (Move.publish session.subdomain session
        (Function.update l.remaining c (Registered.entries { l.registered c with
          subdomains := (l.registered c).subdomains ++ [(session.subdomain, session)] }))
        (duty_control hph) (remaining_publish hph rfl fun x hx => ?_)
        ⟨c, by rw [Function.update_self]; exact mem_entries_subdomain _⟩
        (onBehalf_handling hph)).of_eq ?_⟩
      · simp only [Registered.entries, List.map_append, List.mem_append] at hx ⊢
        tauto
      · have hslot := ServerState.slot_registerTunnel hstate
        obtain ⟨-, reservations, -, rfl⟩ := ServerState.registerTunnel_eq_ok hstate
        exact View.ext hslot (Tasks.duty_setControl ..)
          (remaining_set (.handling (.reply _ none)) _ rfl rfl) rfl rfl rfl rfl rfl rfl rfl rfl rfl
          rfl rfl
    · cases h
      exact .stay_control hv hph rfl rfl
  · cases h

theorem bind_simulated (hv : l.state.Valid) {bound : Except String Unit}
    (h : l.bind c bound = some l') : l.Simulated (.control c) l' := by
  unfold bind at h
  split at h
  · rename_i session port noRecord hph
    split at h
    · cases h
      refine ⟨hv.congr rfl rfl rfl rfl rfl rfl, (Move.bind port ⟨session.id, session.arc⟩
        session.dnsRecordId (duty_control hph)).of_eq ?_⟩
      refine View.ext rfl (Tasks.duty_setControl ..) (remaining_setControl_of_eq hph rfl) rfl ?_ ?_
        rfl rfl rfl rfl rfl rfl rfl rfl
      · exact Function.comp_update SessionCell.listenerStopped l.state.cells session.arc _
      · exact cell_updateCell l.state session.arc (fun cell => { cell with listenerStopped := true })
          SessionCell.stopSignal fun _ => rfl
    · cases h
      refine .stay_control hv hph ?_ rfl
      exact congrArg (Duty.ofSetup (session.holding (.tcp port))) noRecord.symm
  · cases h

theorem registerTcp_simulated (hv : l.state.Valid) (h : l.registerTcp c = some l') :
    l.Simulated (.control c) l' := by
  unfold registerTcp at h
  split at h
  · rename_i session port noRecord hph
    split at h
    · rename_i state hstate
      cases h
      refine ⟨hv.tryRegisterTcpTunnel hstate, (Move.publishTcp port session
        (Function.update l.remaining c (Registered.entries { l.registered c with
          tcpPorts := (l.registered c).tcpPorts ++ [(port, session)] }))
        (duty_control hph) (remaining_publish hph rfl fun x hx => ?_)
        ⟨c, by rw [Function.update_self]; exact mem_entries_tcpPort _⟩
        (onBehalf_handling hph)).of_eq ?_⟩
      · simp only [Registered.entries, List.map_append, List.mem_append] at hx ⊢
        tauto
      · have hslot := ServerState.slot_tryRegisterTcpTunnel hstate
        obtain ⟨-, -, reservations, -, rfl⟩ := ServerState.tryRegisterTcpTunnel_eq_ok hstate
        refine View.ext hslot ?_ (remaining_set (.handling (.reply _ none)) _ rfl rfl) rfl rfl rfl
          rfl rfl rfl rfl rfl rfl rfl rfl
        refine (Tasks.duty_setListener ..).trans ?_
        exact congrArg (fun duty => Function.update duty (.listener session.arc) _)
          (Tasks.duty_setControl ..)
    · cases h
      refine ⟨hv, (Move.unbind port ⟨session.id, session.arc⟩ session.dnsRecordId
        (duty_control hph)).of_eq ?_⟩
      refine View.ext rfl ?_ (remaining_setControl_of_eq hph rfl) rfl rfl rfl rfl rfl rfl rfl rfl rfl
        rfl rfl
      refine (Tasks.duty_setControl ..).trans ?_
      rw [noRecord]
      rfl
  · cases h

theorem releaseSetup_simulated (hv : l.state.Valid) (hi : l.view.Inv)
    (h : l.releaseSetup c = some l') : l.Simulated (.control c) l' := by
  unfold releaseSetup at h
  split at h
  · rename_i key owner arc msg hph
    cases h
    have hd := duty_control hph
    obtain ⟨heq, hslot⟩ := ServerState.releaseReservation_of_slot (s := l.state)
      (hi.hold.slot_eq (t := .control c) (by rw [hd]; rfl))
    refine ⟨hv.releaseReservation key owner, (Move.releaseSetup (key, ⟨owner, arc⟩) none .idle hd
      (Or.inr ⟨rfl, rfl⟩) (onBehalf_handling hph)).of_eq ?_⟩
    rw [heq]
    exact View.ext hslot (Tasks.duty_setControl ..) (remaining_setControl_of_eq hph rfl) rfl rfl rfl
      rfl rfl rfl rfl rfl rfl rfl rfl
  · rename_i session msg hph
    cases h
    have hd := duty_control hph
    obtain ⟨heq, hslot⟩ := ServerState.releaseReservation_of_slot (s := l.state)
      (hi.hold.slot_eq (t := .control c) (by rw [hd]; rfl))
    refine ⟨hv.releaseReservation (.http session.subdomain) session.id, (Move.releaseSetup
      (session.holding (.http session.subdomain)) session.dnsRecordId _ hd (Or.inl rfl)
      (onBehalf_handling hph)).of_eq ?_⟩
    rw [ServerState.releaseHttpTunnel, heq]
    exact View.ext hslot (Tasks.duty_setControl ..) (remaining_setControl_of_eq hph rfl) rfl rfl rfl
      rfl rfl rfl rfl rfl rfl rfl rfl
  · cases h

theorem replied_simulated (hv : l.state.Valid) (h : l.replied c = some l') :
    l.Simulated (.control c) l' := by
  unfold replied at h
  split at h
  · rename_i hph
    cases h
    exact .stay_control hv hph rfl rfl
  · rename_i hph
    cases h
    exact .stay_control hv hph rfl rfl
  · cases h

/-! ### DNS records -/

/-- What `delete_dns_record` passes on is what the session has: records exist
only where they are enabled. -/
theorem deletedDnsRecord_eq (hi : l.view.Inv) {session : TunnelSession} {stage : Stage}
    (hd : l.view.duty t = .ofCharge (session.charge stage)) :
    l.state.deletedDnsRecord session = session.dnsRecordId := by
  unfold ServerState.deletedDnsRecord
  split
  · rfl
  · rename_i hdisabled
    cases hid : session.dnsRecordId with
    | none => rfl
    | some id =>
        have hrecord : (l.view.duty t).record = some (session.arc, id) := by
          rw [hd]
          simp [Duty.record, Duty.ofCharge, TunnelSession.charge, hid]
        exact absurd (hi.records.enabled _ (hi.records.mem_of_task hrecord).1) hdisabled

theorem deleteDnsRecord_eq (hi : l.view.Inv) {session : TunnelSession} {stage : Stage}
    (hd : l.view.duty t = .ofCharge (session.charge stage)) :
    l.deleteDnsRecord session = { l with
      dnsDeleted := (session.dnsRecordId.map fun id => (session.arc, id)).toList ++ l.dnsDeleted } := by
  unfold deleteDnsRecord
  rw [deletedDnsRecord_eq hi hd]
  cases session.dnsRecordId <;> rfl

/-- A control task deletes the DNS record of its session and goes on. -/
theorem settle_control (hv : l.state.Valid) (hi : l.view.Inv) {session : TunnelSession}
    {stage : Stage} (hph : l.tasks.control c = old)
    (hold : old.duty = .ofCharge (session.charge stage)) (hd : ph.duty = .idle)
    (hr : ph.remaining (l.registered c) = old.remaining (l.registered c)) :
    l.Simulated (.control c) ((l.deleteDnsRecord session).setControl c ph) := by
  have hduty : l.view.duty (.control c) = .ofCharge (session.charge stage) :=
    (duty_control hph).trans hold
  rw [deleteDnsRecord_eq hi hduty]
  refine ⟨hv, (Move.settle _ hduty).of_eq ?_⟩
  refine View.ext rfl ?_ (remaining_setControl_of_eq hph hr) rfl rfl rfl rfl rfl rfl rfl rfl rfl rfl
    rfl
  rw [← hd]
  exact Tasks.duty_setControl ..

theorem deleteFailedDns_simulated (hv : l.state.Valid) (hi : l.view.Inv)
    (h : l.deleteFailedDns c = some l') : l.Simulated (.control c) l' := by
  unfold deleteFailedDns at h
  split at h
  · rename_i session hph
    cases h
    exact settle_control hv hi hph rfl rfl rfl
  · cases h

/-! ### The cleanup of a connection -/

theorem cleanupHttpDns_simulated (hv : l.state.Valid) (hi : l.view.Inv)
    (h : l.cleanupHttpDns c = some l') : l.Simulated (.control c) l' := by
  unfold cleanupHttpDns at h
  split at h
  · rename_i removed hph
    cases h
    exact settle_control hv hi hph rfl rfl rfl
  · cases h

theorem cleanupTcpDns_simulated (hv : l.state.Valid) (hi : l.view.Inv)
    (h : l.cleanupTcpDns c = some l') : l.Simulated (.control c) l' := by
  unfold cleanupTcpDns at h
  split at h
  · rename_i removed hph
    cases h
    exact settle_control hv hi hph rfl rfl rfl
  · cases h

/-- A removal that failed: the slot is not the session's. -/
theorem not_live_of_unregister {s : ServerState} {subdomain : String} {session : TunnelSession}
    (h : s.unregisterTunnelIfOwner subdomain session = none) (current : TunnelSession)
    (hlive : s.slot (.http subdomain) = some (.live current)) : current.arc ≠ session.arc := by
  have hlookup : s.tunnels.lookup subdomain = some current := ServerState.slot_eq_live.1 hlive
  intro he
  simp [ServerState.unregisterTunnelIfOwner, ServerState.removeTunnelIfOwner, hlookup, he] at h

theorem not_live_of_removeTcp {s : ServerState} {port : UInt16} {session : TunnelSession}
    (h : s.removeTcpTunnelIfOwner port session = none) (current : TunnelSession)
    (hlive : s.slot (.tcp port) = some (.live current)) : current.arc ≠ session.arc := by
  have hlookup : s.tcpTunnels.lookup port = some current := ServerState.slot_eq_live.1 hlive
  intro he
  simp [ServerState.removeTcpTunnelIfOwner, hlookup, he] at h

/-- A cleanup loop takes its first entry off the list. -/
theorem remaining_pop {reg : Registered} {x : ReservationKey × ℕ} (hph : l.tasks.control c = old)
    (hpop : ∀ y ∈ old.remaining (l.registered c), y ∈ old.remaining reg ∨ y = x) (c' : ℕ)
    (y : ReservationKey × ℕ) (hy : y ∈ l.view.remaining c') :
    y ∈ Function.update l.remaining c (old.remaining reg) c' ∨ y = x := by
  by_cases he : c' = c
  · subst he
    rw [Function.update_self]
    refine hpop y ?_
    rw [← hph]
    exact hy
  · rw [Function.update_of_ne he]
    exact Or.inl hy

theorem cleanupHttp_simulated (hv : l.state.Valid) (h : l.cleanupHttp c = some l') :
    l.Simulated (.control c) l' := by
  unfold cleanupHttp at h
  split at h
  · rename_i hph
    split at h
    · rename_i hnil
      cases h
      exact .stay_control hv hph rfl (by simp [ControlPhase.remaining, Registered.entries, hnil])
    · rename_i subdomain session rest hcons
      have hpop : ∀ y ∈ (ControlPhase.cleanup .http).remaining (l.registered c),
          y ∈ (ControlPhase.cleanup .http).remaining { l.registered c with subdomains := rest } ∨
            y = (.http subdomain, session.arc) := by
        intro y hy
        simp only [ControlPhase.remaining, Registered.entries, hcons, List.map_cons,
          List.cons_append, List.mem_cons] at hy ⊢
        tauto
      have hwho : l.onBehalf (.control c) = some session.arc := by
        simp [onBehalf, hph, hcons]
      dsimp only at h
      split at h
      · rename_i removed state hremoved
        cases h
        obtain ⟨hlive, hslot⟩ := ServerState.slot_unregisterTunnelIfOwner hv hremoved
        obtain ⟨-, harc, hstate⟩ := ServerState.unregisterTunnelIfOwner_eq_some hremoved
        refine ⟨hv.unregisterTunnelIfOwner hremoved, (Move.removeHttp subdomain removed
          (Function.update l.remaining c ((ControlPhase.cleanup .http).remaining
            { l.registered c with subdomains := rest })) hlive (duty_control hph) trivial
          (fun c' y hy => ?_) (by rw [hwho, harc])).of_eq ?_⟩
        · exact (remaining_pop hph hpop c' y hy).imp_right fun he => congrArg Prod.fst he
        · subst hstate
          refine View.ext hslot (Tasks.duty_setControl ..)
            (remaining_set (.cleanup (.httpDns removed)) _ rfl rfl) rfl ?_ ?_ rfl rfl rfl rfl rfl rfl
            rfl rfl
          · exact cell_updateCell l.state removed.arc (fun cell => { cell with idleCancel := true })
              SessionCell.listenerStopped fun _ => rfl
          · exact cell_updateCell l.state removed.arc (fun cell => { cell with idleCancel := true })
              SessionCell.stopSignal fun _ => rfl
      · rename_i hnone
        cases h
        refine ⟨hv, (Move.pass (Function.update l.remaining c ((ControlPhase.cleanup .http).remaining
          { l.registered c with subdomains := rest })) fun c' y hy => ?_).of_eq ?_⟩
        · refine (remaining_pop hph hpop c' y hy).imp_right ?_
          rintro rfl
          exact not_live_of_unregister hnone
        · refine View.ext rfl rfl ?_ rfl rfl rfl rfl rfl rfl rfl rfl rfl rfl rfl
          exact remaining_set (.cleanup .http) _ (by rw [← hph, Function.update_eq_self]) rfl
  · cases h

theorem cleanupTcp_simulated (hv : l.state.Valid) (h : l.cleanupTcp c = some l') :
    l.Simulated (.control c) l' := by
  unfold cleanupTcp at h
  split at h
  · rename_i hph
    split at h
    · rename_i hnil
      cases h
      exact .stay_control hv hph rfl (by simp [ControlPhase.remaining, hnil])
    · rename_i port session rest hcons
      have hpop : ∀ y ∈ (ControlPhase.cleanup .tcp).remaining (l.registered c),
          y ∈ (ControlPhase.cleanup .tcp).remaining { l.registered c with tcpPorts := rest } ∨
            y = (.tcp port, session.arc) := by
        intro y hy
        simp only [ControlPhase.remaining, hcons, List.map_cons, List.mem_cons] at hy ⊢
        tauto
      have hwho : l.onBehalf (.control c) = some session.arc := by
        simp [onBehalf, hph, hcons]
      dsimp only at h
      split at h
      · rename_i removed state hremoved
        cases h
        obtain ⟨hlive, hslot⟩ := ServerState.slot_removeTcpTunnelIfOwner hremoved
        obtain ⟨-, harc, hstate⟩ := ServerState.removeTcpTunnelIfOwner_eq_some hremoved
        refine ⟨hv.removeTcpTunnelIfOwner hremoved, (Move.removeTcp port removed
          (.receiver removed.arc) (Function.update l.remaining c ((ControlPhase.cleanup .tcp).remaining
            { l.registered c with tcpPorts := rest })) hlive (Or.inl ⟨duty_control hph, rfl⟩) trivial
          (fun c' y hy => ?_) (by rw [hwho, harc])).of_eq ?_⟩
        · exact (remaining_pop hph hpop c' y hy).imp_right fun he => congrArg Prod.fst he
        · subst hstate
          refine View.ext hslot (Tasks.duty_setControl ..)
            (remaining_set (.cleanup (.tcpShutdown (.take port removed))) _ rfl rfl) rfl ?_ ?_ rfl rfl
            rfl rfl rfl rfl rfl rfl
          · exact cell_updateCell l.state removed.arc (fun cell =>
              { cell with cancel := true, idleCancel := true }) SessionCell.listenerStopped fun _ => rfl
          · exact cell_updateCell l.state removed.arc (fun cell =>
              { cell with cancel := true, idleCancel := true }) SessionCell.stopSignal fun _ => rfl
      · rename_i hnone
        cases h
        refine ⟨hv, (Move.pass (Function.update l.remaining c ((ControlPhase.cleanup .tcp).remaining
          { l.registered c with tcpPorts := rest })) fun c' y hy => ?_).of_eq ?_⟩
        · refine (remaining_pop hph hpop c' y hy).imp_right ?_
          rintro rfl
          exact not_live_of_removeTcp hnone
        · refine View.ext rfl rfl ?_ rfl rfl rfl rfl rfl rfl rfl rfl rfl rfl rfl
          exact remaining_set (.cleanup .tcp) _ (by rw [← hph, Function.update_eq_self]) rfl
  · cases h

/-! ### `shutdown_tcp_tunnel_if_owner` -/

section Shutdown

variable {caller : Caller} {sd sd' : Shutdown} {removed : TunnelSession}

theorem duty_shutdown (h : l.tasks.shutdown caller = some sd) :
    l.view.duty caller.task = sd.duty := by
  cases caller with
  | cleanup c =>
      simp only [Tasks.shutdown] at h
      split at h
      · rename_i hph
        obtain rfl := Option.some.inj h
        exact duty_control hph
      · cases h
  | reaper =>
      simp only [Tasks.shutdown] at h
      split at h
      · rename_i hph
        obtain rfl := Option.some.inj h
        exact congrArg ReaperPhase.duty hph
      · cases h

theorem onBehalf_shutdown (h : l.tasks.shutdown caller = some sd) :
    l.onBehalf caller.task = some sd.removed.arc := by
  cases caller with
  | cleanup c =>
      simp only [Tasks.shutdown] at h
      split at h
      · rename_i hph
        obtain rfl := Option.some.inj h
        simp only [Caller.task, onBehalf, hph]
      · cases h
  | reaper =>
      simp only [Tasks.shutdown] at h
      split at h
      · rename_i hph
        obtain rfl := Option.some.inj h
        simp only [Caller.task, onBehalf, hph]
      · cases h

/-- The caller goes on inside `shutdown_tcp_tunnel_if_owner`. -/
theorem tasks_setShutdown (sd' : Shutdown) (h : l.tasks.shutdown caller = some sd) :
    (l.tasks.setShutdown sd' caller).duty =
        Function.update l.tasks.duty caller.task sd'.duty ∧
      { l with tasks := l.tasks.setShutdown sd' caller }.remaining = l.remaining := by
  cases caller with
  | cleanup c =>
      simp only [Tasks.shutdown] at h
      split at h
      · rename_i hph
        exact ⟨Tasks.duty_setControl .., remaining_setControl_of_eq hph rfl⟩
      · cases h
  | reaper =>
      simp only [Tasks.shutdown] at h
      split at h
      · rename_i hph
        simp only [Tasks.setShutdown, hph]
        exact ⟨Tasks.duty_setReaper .., rfl⟩
      · cases h

/-- `shutdown_tcp_tunnel_if_owner` returns to its caller. -/
theorem tasks_endShutdown (removed : TunnelSession) (h : l.tasks.shutdown caller = some sd) :
    (l.tasks.endShutdown removed caller).duty =
        Function.update l.tasks.duty caller.task (.ofCharge (removed.charge .closing)) ∧
      { l with tasks := l.tasks.endShutdown removed caller }.remaining = l.remaining := by
  cases caller with
  | cleanup c =>
      simp only [Tasks.shutdown] at h
      split at h
      · rename_i hph
        exact ⟨Tasks.duty_setControl .., remaining_setControl_of_eq hph rfl⟩
      · cases h
  | reaper =>
      simp only [Tasks.shutdown] at h
      split at h
      · rename_i hph
        simp only [Tasks.endShutdown, hph]
        exact ⟨Tasks.duty_setReaper .., rfl⟩
      · cases h

theorem shutdownTake_simulated (hv : l.state.Valid) (hi : l.view.Inv)
    (h : l.shutdownTake caller = some l') : l.Simulated caller.task l' := by
  unfold shutdownTake at h
  split at h
  · rename_i port removed hsd
    have hd := duty_shutdown hsd
    split at h
    · cases h
      obtain ⟨hduty, hrem⟩ := tasks_setShutdown (.wait port removed) hsd
      refine ⟨hv.congr rfl rfl rfl rfl rfl rfl, (Move.take port removed hd).of_eq ?_⟩
      exact View.ext rfl hduty hrem rfl
        (Function.comp_update SessionCell.listenerStopped l.state.cells removed.arc _)
        (cell_updateCell l.state removed.arc (fun cell => { cell with listenerStopped := false })
          SessionCell.stopSignal fun _ => rfl) rfl rfl rfl rfl rfl rfl rfl rfl
    · rename_i hnone
      exact absurd (hi.signals.receiver _ _ (by rw [hd]; rfl)).1 hnone
  · cases h

theorem shutdownStopped_simulated (hv : l.state.Valid) (h : l.shutdownStopped caller = some l') :
    l.Simulated caller.task l' := by
  unfold shutdownStopped at h
  split at h
  · rename_i port removed hsd
    split at h
    · rename_i hstop
      cases h
      obtain ⟨hduty, hrem⟩ := tasks_setShutdown (.release port removed) hsd
      refine ⟨hv, (Move.learn port removed (duty_shutdown hsd) hstop).of_eq ?_⟩
      exact View.ext rfl hduty hrem rfl rfl rfl rfl rfl rfl rfl rfl rfl rfl rfl
    · cases h
  · cases h

theorem shutdownTimeout_simulated (hv : l.state.Valid) (h : l.shutdownTimeout caller = some l') :
    l.Simulated caller.task l' := by
  unfold shutdownTimeout at h
  split at h
  · rename_i port removed hsd
    split at h
    · cases h
    · cases h
      obtain ⟨hduty, hrem⟩ := tasks_endShutdown removed hsd
      refine ⟨hv.congr rfl rfl rfl rfl rfl rfl, (Move.retain port removed (duty_shutdown hsd)).of_eq ?_⟩
      refine View.ext rfl ?_ hrem rfl rfl rfl rfl rfl rfl rfl rfl rfl rfl rfl
      refine (Tasks.duty_setRelease ..).trans ?_
      rw [hduty]
      rfl
  · cases h

theorem shutdownRelease_simulated (hv : l.state.Valid) (hi : l.view.Inv)
    (h : l.shutdownRelease caller = some l') : l.Simulated caller.task l' := by
  unfold shutdownRelease at h
  split at h
  · rename_i port removed hsd
    cases h
    have hd := duty_shutdown hsd
    obtain ⟨hduty, hrem⟩ := tasks_endShutdown removed hsd
    obtain ⟨heq, hslot⟩ := ServerState.releaseReservation_of_slot (s := l.state)
      (hi.hold.slot_eq (t := caller.task) (by rw [hd]; rfl))
    refine ⟨hv.releaseReservation (.tcp port) removed.id,
      (Move.releaseRemoved port removed hd (onBehalf_shutdown hsd)).of_eq ?_⟩
    rw [ServerState.releaseTcpPortReservation, heq]
    exact View.ext hslot hduty hrem rfl rfl rfl rfl rfl rfl rfl rfl rfl rfl rfl
  · cases h

end Shutdown

/-! ### Release tasks -/

theorem releaseStopped_simulated (hv : l.state.Valid) (hi : l.view.Inv)
    (h : l.releaseStopped i = some l') : l.Simulated (.release i) l' := by
  unfold releaseStopped at h
  split at h
  · rename_i port owner arc hph
    split at h
    · rename_i hstop
      cases h
      have hd : l.view.duty (.release i) = (ReleasePhase.wait port owner arc).duty :=
        congrArg ReleasePhase.duty hph
      obtain ⟨heq, hslot⟩ := ServerState.releaseReservation_of_slot (s := l.state)
        (hi.hold.slot_eq (t := .release i) (by rw [hd]; rfl))
      refine ⟨hv.releaseReservation (.tcp port) owner,
        (Move.releaseRetained port ⟨owner, arc⟩ hd hstop (by simp only [onBehalf, hph])).of_eq ?_⟩
      rw [ServerState.releaseTcpPortReservation, heq]
      exact View.ext hslot (Tasks.duty_setRelease ..) rfl rfl rfl rfl rfl rfl rfl rfl rfl rfl rfl rfl
    · cases h
  · cases h

theorem releaseDec_simulated (hv : l.state.Valid) (h : l.releaseDec i = some l') :
    l.Simulated (.release i) l' := by
  unfold releaseDec at h
  split at h
  · rename_i hph
    cases h
    refine ⟨hv.congr rfl rfl rfl rfl rfl rfl, (Move.uncount (congrArg ReleasePhase.duty hph)).of_eq ?_⟩
    exact View.ext rfl (Tasks.duty_setRelease ..) rfl rfl rfl rfl rfl rfl rfl rfl rfl rfl rfl rfl
  · cases h

/-! ### The TCP listener task -/

section Listener

variable {lph : ListenerPhase}

theorem duty_listener (hph : l.tasks.listener r = lph) : l.view.duty (.listener r) = lph.duty :=
  congrArg ListenerPhase.duty hph

theorem stopListening_simulated (hv : l.state.Valid) (h : l.stopListening r = some l') :
    l.Simulated (.listener r) l' := by
  unfold stopListening at h
  split at h
  · rename_i port session hph
    cases h
    refine ⟨hv, (Move.stopListening port session.arc (duty_listener hph)).of_eq ?_⟩
    exact View.ext rfl (Tasks.duty_setListener ..) rfl rfl rfl rfl rfl rfl rfl rfl rfl rfl rfl rfl
  · cases h

theorem signalStopped_simulated (hv : l.state.Valid) (h : l.signalStopped r = some l') :
    l.Simulated (.listener r) l' := by
  unfold signalStopped at h
  split at h
  · rename_i port session hph
    cases h
    refine ⟨hv.congr rfl rfl rfl rfl rfl rfl,
      (Move.signal session.arc (duty_listener hph)).of_eq ?_⟩
    exact View.ext rfl (Tasks.duty_setListener ..) rfl rfl
      (cell_updateCell l.state session.arc (fun cell => { cell with stopSignal := true })
        SessionCell.listenerStopped fun _ => rfl)
      (Function.comp_update SessionCell.stopSignal l.state.cells session.arc _) rfl rfl rfl rfl rfl
      rfl rfl rfl
  · cases h

theorem listenerRemove_simulated (hv : l.state.Valid) (hi : l.view.Inv)
    (h : l.listenerRemove r = some l') : l.Simulated (.listener r) l' := by
  unfold listenerRemove at h
  split at h
  · rename_i port session hph
    have hd := duty_listener hph
    split at h
    · rename_i removed state hremoved
      cases h
      obtain ⟨hlive, hslot⟩ := ServerState.slot_removeTcpTunnelIfOwner hremoved
      obtain ⟨-, harc, hstate⟩ := ServerState.removeTcpTunnelIfOwner_eq_some hremoved
      refine ⟨hv.removeTcpTunnelIfOwner hremoved, (Move.removeTcp port removed
        (.signalled removed.arc) l.remaining hlive (Or.inr ⟨by rw [hd, harc]; rfl, rfl⟩) ?_
        (fun _ _ hx => Or.inl hx) (by simp only [onBehalf, hph, harc])).of_eq ?_⟩
      · exact hi.start (.listener r) (by rw [hd]; simp [ListenerPhase.duty, Duty.ofNews, Duty.idle])
      · subst hstate
        refine View.ext hslot (Tasks.duty_setListener ..) rfl rfl ?_ ?_ rfl rfl rfl rfl rfl rfl rfl rfl
        · exact cell_updateCell l.state removed.arc (fun cell =>
            { cell with cancel := true, idleCancel := true }) SessionCell.listenerStopped fun _ => rfl
        · exact cell_updateCell l.state removed.arc (fun cell =>
            { cell with cancel := true, idleCancel := true }) SessionCell.stopSignal fun _ => rfl
    · cases h
      refine ⟨hv, (Move.forget session.arc hd).of_eq ?_⟩
      exact View.ext rfl (Tasks.duty_setListener ..) rfl rfl rfl rfl rfl rfl rfl rfl rfl rfl rfl rfl
  · cases h

theorem listenerRelease_simulated (hv : l.state.Valid) (hi : l.view.Inv)
    (h : l.listenerRelease r = some l') : l.Simulated (.listener r) l' := by
  unfold listenerRelease at h
  split at h
  · rename_i port removed hph
    cases h
    have hd := duty_listener hph
    obtain ⟨heq, hslot⟩ := ServerState.releaseReservation_of_slot (s := l.state)
      (hi.hold.slot_eq (t := .listener r) (by rw [hd]; rfl))
    refine ⟨hv.releaseReservation (.tcp port) removed.id,
      (Move.releaseRemoved port removed hd (by simp only [onBehalf, hph])).of_eq ?_⟩
    rw [ServerState.releaseTcpPortReservation, heq]
    exact View.ext hslot (Tasks.duty_setListener ..) rfl rfl rfl rfl rfl rfl rfl rfl rfl rfl rfl rfl
  · cases h

theorem listenerDns_simulated (hv : l.state.Valid) (hi : l.view.Inv)
    (h : l.listenerDns r = some l') : l.Simulated (.listener r) l' := by
  unfold listenerDns at h
  split at h
  · rename_i removed hph
    cases h
    have hd : l.view.duty (.listener r) = .ofCharge (removed.charge .closing) := duty_listener hph
    rw [deleteDnsRecord_eq hi hd]
    refine ⟨hv, (Move.settle _ hd).of_eq ?_⟩
    exact View.ext rfl (Tasks.duty_setListener ..) rfl rfl rfl rfl rfl rfl rfl rfl rfl rfl rfl rfl
  · cases h

end Listener

/-! ### The reaper -/

section Reaper

variable {rph rph' : ReaperPhase}

theorem duty_reaper (hph : l.tasks.reaper = rph) : l.view.duty .reaper = rph.duty :=
  congrArg ReaperPhase.duty hph

theorem view_setReaper (l : Lifecycle) (rph : ReaperPhase) :
    (l.setReaper rph).view = { l.view with duty := Function.update l.view.duty .reaper rph.duty } :=
  View.ext rfl (Tasks.duty_setReaper ..) rfl rfl rfl rfl rfl rfl rfl rfl rfl rfl rfl rfl

theorem Simulated.stay_reaper (hv : l.state.Valid) (hph : l.tasks.reaper = rph)
    (hd : rph'.duty = rph.duty) : l.Simulated .reaper (l.setReaper rph') := by
  refine .stay hv rfl ?_
  rw [view_setReaper, hd, ← duty_reaper hph, Function.update_eq_self]

theorem reapTick_simulated (hv : l.state.Valid) {now : ℕ} (h : l.reapTick now = some l') :
    l.Simulated .reaper l' := by
  unfold reapTick at h
  split at h
  · rename_i hph
    cases h
    exact .stay_reaper hv hph rfl
  · cases h

theorem reapStop_simulated (hv : l.state.Valid) (h : l.reapStop = some l') :
    l.Simulated .reaper l' := by
  unfold reapStop at h
  split at h
  · rename_i hph
    cases h
    exact .stay_reaper hv hph rfl
  · cases h

theorem reapFoundHttp_simulated (hv : l.state.Valid) {subdomain : String}
    (h : l.reapFoundHttp subdomain = some l') : l.Simulated .reaper l' := by
  unfold reapFoundHttp at h
  split at h
  · rename_i hph
    obtain ⟨session, -, rfl⟩ := Option.map_eq_some_iff.1 h
    exact .stay_reaper hv hph rfl
  · cases h

theorem reapHttpCollected_simulated (hv : l.state.Valid) (h : l.reapHttpCollected = some l') :
    l.Simulated .reaper l' := by
  unfold reapHttpCollected at h
  split at h
  · rename_i hph
    cases h
    exact .stay_reaper hv hph rfl
  · cases h

theorem reapFoundTcp_simulated (hv : l.state.Valid) {port : UInt16}
    (h : l.reapFoundTcp port = some l') : l.Simulated .reaper l' := by
  unfold reapFoundTcp at h
  split at h
  · rename_i hph
    obtain ⟨session, -, rfl⟩ := Option.map_eq_some_iff.1 h
    exact .stay_reaper hv hph rfl
  · cases h

theorem reapTcpCollected_simulated (hv : l.state.Valid) (h : l.reapTcpCollected = some l') :
    l.Simulated .reaper l' := by
  unfold reapTcpCollected at h
  split at h
  · rename_i hph
    cases h
    exact .stay_reaper hv hph rfl
  · cases h

theorem reapNotified_simulated (hv : l.state.Valid) (h : l.reapNotified = some l') :
    l.Simulated .reaper l' := by
  unfold reapNotified at h
  split at h
  · rename_i hph
    cases h
    exact .stay_reaper hv hph rfl
  · rename_i hph
    cases h
    exact .stay_reaper hv hph rfl
  · cases h

/-- The reaper deletes the DNS record of the tunnel it closed and goes on. -/
theorem settle_reaper (hv : l.state.Valid) (hi : l.view.Inv) {session : TunnelSession}
    (hph : l.tasks.reaper = rph) (hold : rph.duty = .ofCharge (session.charge .closing))
    (hd : rph'.duty = .idle) : l.Simulated .reaper ((l.deleteDnsRecord session).setReaper rph') := by
  have hduty : l.view.duty .reaper = .ofCharge (session.charge .closing) :=
    (duty_reaper hph).trans hold
  rw [deleteDnsRecord_eq hi hduty]
  refine ⟨hv, (Move.settle _ hduty).of_eq ?_⟩
  rw [view_setReaper, hd]
  rfl

theorem reapDns_simulated (hv : l.state.Valid) (hi : l.view.Inv) (h : l.reapDns = some l') :
    l.Simulated .reaper l' := by
  unfold reapDns at h
  split at h
  · rename_i hph
    cases h
    exact settle_reaper hv hi hph rfl rfl
  · rename_i hph
    cases h
    exact settle_reaper hv hi hph rfl rfl
  · cases h

theorem reapHttp_simulated (hv : l.state.Valid) (h : l.reapHttp = some l') :
    l.Simulated .reaper l' := by
  unfold reapHttp at h
  split at h
  · rename_i hph
    cases h
    exact .stay_reaper hv hph rfl
  · rename_i now subdomain session rest hph
    split at h
    · rename_i removed state hremoved
      cases h
      obtain ⟨hlive, hslot⟩ := ServerState.slot_unregisterTunnelIfOwner hv hremoved
      obtain ⟨-, harc, hstate⟩ := ServerState.unregisterTunnelIfOwner_eq_some hremoved
      refine ⟨hv.unregisterTunnelIfOwner hremoved, (Move.removeHttp subdomain removed l.remaining
        hlive (duty_reaper hph) trivial (fun _ _ hx => Or.inl hx)
        (by simp only [onBehalf, hph, harc])).of_eq ?_⟩
      subst hstate
      refine View.ext hslot (Tasks.duty_setReaper ..) rfl rfl ?_ ?_ rfl rfl rfl rfl rfl rfl rfl rfl
      · exact cell_updateCell l.state removed.arc (fun cell => { cell with idleCancel := true })
          SessionCell.listenerStopped fun _ => rfl
      · exact cell_updateCell l.state removed.arc (fun cell => { cell with idleCancel := true })
          SessionCell.stopSignal fun _ => rfl
    · cases h
      exact .stay_reaper hv hph rfl
  · cases h

theorem reapTcp_simulated (hv : l.state.Valid) (h : l.reapTcp = some l') :
    l.Simulated .reaper l' := by
  unfold reapTcp at h
  split at h
  · rename_i hph
    cases h
    exact .stay_reaper hv hph rfl
  · rename_i port session rest hph
    split at h
    · rename_i removed state hremoved
      cases h
      obtain ⟨hlive, hslot⟩ := ServerState.slot_removeTcpTunnelIfOwner hremoved
      obtain ⟨-, harc, hstate⟩ := ServerState.removeTcpTunnelIfOwner_eq_some hremoved
      refine ⟨hv.removeTcpTunnelIfOwner hremoved, (Move.removeTcp port removed
        (.receiver removed.arc) l.remaining hlive (Or.inl ⟨duty_reaper hph, rfl⟩) trivial
        (fun _ _ hx => Or.inl hx) (by simp only [onBehalf, hph, harc])).of_eq ?_⟩
      subst hstate
      refine View.ext hslot (Tasks.duty_setReaper ..) rfl rfl ?_ ?_ rfl rfl rfl rfl rfl rfl rfl rfl
      · exact cell_updateCell l.state removed.arc (fun cell =>
          { cell with cancel := true, idleCancel := true }) SessionCell.listenerStopped fun _ => rfl
      · exact cell_updateCell l.state removed.arc (fun cell =>
          { cell with cancel := true, idleCancel := true }) SessionCell.stopSignal fun _ => rfl
    · cases h
      exact .stay_reaper hv hph rfl
  · cases h

end Reaper

/-! ### All steps, all runs -/

/-- **Every step of every task is a move.** -/
theorem step_simulated (hv : l.state.Valid) (hi : l.view.Inv) {a : Action}
    (h : l.step a = some l') : l.Simulated a.task l' := by
  cases a with
  | accept c => exact accept_simulated hv h
  | enterLoop c => exact enterLoop_simulated hv h
  | enterSelect c => exact enterSelect_simulated hv h
  | continueLoop c cause => exact continueLoop_simulated hv h
  | breakLoop c cause => exact breakLoop_simulated hv h
  | handleControlMsg c msg draw => exact handleControlMsg_simulated hv h
  | reserve c => exact reserve_simulated hv h
  | hashBasicAuth c hashPassword => exact hashBasicAuth_simulated hv h
  | createDns c createRecord => exact createDns_simulated hv h
  | newSession c => exact newSession_simulated hv h
  | register c => exact register_simulated hv h
  | bind c bound => exact bind_simulated hv h
  | registerTcp c => exact registerTcp_simulated hv h
  | releaseSetup c => exact releaseSetup_simulated hv hi h
  | replied c => exact replied_simulated hv h
  | deleteFailedDns c => exact deleteFailedDns_simulated hv hi h
  | cleanupHttp c => exact cleanupHttp_simulated hv h
  | cleanupHttpDns c => exact cleanupHttpDns_simulated hv hi h
  | cleanupTcp c => exact cleanupTcp_simulated hv h
  | cleanupTcpDns c => exact cleanupTcpDns_simulated hv hi h
  | shutdownTake caller => exact shutdownTake_simulated hv hi h
  | shutdownStopped caller => exact shutdownStopped_simulated hv h
  | shutdownTimeout caller => exact shutdownTimeout_simulated hv h
  | shutdownRelease caller => exact shutdownRelease_simulated hv hi h
  | releaseStopped i => exact releaseStopped_simulated hv hi h
  | releaseDec i => exact releaseDec_simulated hv h
  | stopListening r cause => exact stopListening_simulated hv h
  | signalStopped r => exact signalStopped_simulated hv h
  | listenerRemove r => exact listenerRemove_simulated hv hi h
  | listenerRelease r => exact listenerRelease_simulated hv hi h
  | listenerDns r => exact listenerDns_simulated hv hi h
  | reapTick now => exact reapTick_simulated hv h
  | reapStop => exact reapStop_simulated hv h
  | reapFoundHttp subdomain => exact reapFoundHttp_simulated hv h
  | reapHttpCollected => exact reapHttpCollected_simulated hv h
  | reapHttp => exact reapHttp_simulated hv h
  | reapNotified => exact reapNotified_simulated hv h
  | reapDns => exact reapDns_simulated hv hi h
  | reapFoundTcp port => exact reapFoundTcp_simulated hv h
  | reapTcpCollected => exact reapTcpCollected_simulated hv h
  | reapTcp => exact reapTcp_simulated hv h

end Lifecycle
end Rgrok
