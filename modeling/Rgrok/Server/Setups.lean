/-
# From the request to the session

What `handle_control_msg` carries from one step to the next: a `TunnelRequest`
becomes a `Setup` with an identity of its own, a reservation, a password hash
and a DNS record are added to it, and a session is built from it
(`Lifecycle.SetupStep`).  A step of one task leaves the other control tasks
where they are (`Lifecycle.control_frame`).
-/

import Rgrok.Server.StoreSteps

namespace Rgrok

/-- `handle_control_msg` is between the request and the registration of an HTTP
tunnel. -/
def ControlPhase.setting : ControlPhase → Bool
  | .handling (.reserve _) | .handling (.hash _) | .handling (.createDns _ _)
  | .handling (.newSession _) | .handling (.register _) => true
  | _ => false

namespace Lifecycle

variable {l l' : Lifecycle} {a : Action} {c c' r : ℕ}

/-! ### Other tasks -/

theorem control_setControl_of_ne (hne : c ≠ c') (ph : ControlPhase) :
    (l.setControl c' ph).tasks.control c = l.tasks.control c := by
  rw [setControl, Tasks.control_setControl, if_neg hne]

theorem tasks_deleteDnsRecord (session : TunnelSession) :
    (l.deleteDnsRecord session).tasks = l.tasks := by
  rw [deleteDnsRecord]
  split <;> rfl

theorem control_setShutdown (sd : Shutdown) (caller : Caller) (hne : caller.task ≠ .control c) :
    (l.tasks.setShutdown sd caller).control c = l.tasks.control c := by
  cases caller with
  | cleanup c' =>
      have hne' : c ≠ c' := fun h => hne (h ▸ rfl)
      rw [Tasks.setShutdown, Tasks.control_setControl, if_neg hne']
  | reaper => rfl

theorem control_endShutdown (removed : TunnelSession) (caller : Caller)
    (hne : caller.task ≠ .control c) :
    (l.tasks.endShutdown removed caller).control c = l.tasks.control c := by
  cases caller with
  | cleanup c' =>
      have hne' : c ≠ c' := fun h => hne (h ▸ rfl)
      rw [Tasks.endShutdown, Tasks.control_setControl, if_neg hne']
  | reaper => rfl

/-- A step leaves every control task but its own where it is. -/
theorem control_frame (h : l.step a = some l') (ha : a.task ≠ .control c) :
    l'.tasks.control c = l.tasks.control c := by
  cases a with
  | accept c' | enterLoop c' | enterSelect c' | continueLoop c' | breakLoop c'
  | handleControlMsg c' msg draw | reserve c' | hashBasicAuth c' hashPassword
  | createDns c' createRecord | newSession c' | register c' | bind c' bound | registerTcp c'
  | releaseSetup c' | replied c' | deleteFailedDns c' | cleanupHttp c' | cleanupHttpDns c'
  | cleanupTcp c' | cleanupTcpDns c' =>
      have hne : c ≠ c' := fun he => ha (he ▸ rfl)
      simp only [step, accept, enterLoop, enterSelect, continueLoop, breakLoop, handleControlMsg,
        startSetup, reserve, reserveName, reservePort, hashBasicAuth, createDns, newSession,
        register, bind, registerTcp, releaseSetup, replied, deleteFailedDns, cleanupHttp,
        cleanupHttpDns, cleanupTcp, cleanupTcpDns] at h
      repeat' split at h
      all_goals first
        | (cases h; done)
        | (obtain rfl := Option.some.inj h
           simp only [setControl, setListener, tasks_deleteDnsRecord, Tasks.control_setListener,
             Tasks.control_setControl, hne, if_false])
  | shutdownTake caller | shutdownStopped caller | shutdownTimeout caller
  | shutdownRelease caller =>
      simp only [step, shutdownTake, shutdownStopped, shutdownTimeout, shutdownRelease] at h
      repeat' split at h
      all_goals first
        | (cases h; done)
        | (obtain rfl := Option.some.inj h
           simp only [Tasks.control_setRelease, control_setShutdown _ caller ha,
             control_endShutdown _ caller ha])
  | reapFoundHttp subdomain | reapFoundTcp port =>
      simp only [step, reapFoundHttp, reapFoundTcp] at h
      split at h
      · obtain ⟨session, -, rfl⟩ := Option.map_eq_some_iff.1 h
        rfl
      · cases h
  | releaseStopped | releaseDec | stopListening | signalStopped | listenerRemove
  | listenerRelease | listenerDns | reapTick | reapStop | reapHttpCollected | reapHttp
  | reapNotified | reapDns | reapTcpCollected | reapTcp =>
      simp only [step, releaseStopped, releaseDec, stopListening, signalStopped, listenerRemove,
        listenerRelease, listenerDns, reapTick, reapStop, reapHttpCollected, reapHttp,
        reapNotified, reapDns, reapTcpCollected, reapTcp] at h
      repeat' split at h
      all_goals first
        | (cases h; done)
        | (obtain rfl := Option.some.inj h
           simp only [setListener, setReaper, setRelease, tasks_deleteDnsRecord,
             Tasks.control_setListener, Tasks.control_setReaper, Tasks.control_setRelease])

/-! ### One request on its way -/

/-- What a step makes of the phase of the control task `c`, as far as the setup
of an HTTP tunnel goes. -/
inductive SetupStep (l : Lifecycle) (a : Action) (c : ℕ) : ControlPhase → Prop
  | keep : SetupStep l a c (l.tasks.control c)
  | other (ph : ControlPhase) (hph : ph.setting = false) : SetupStep l a c ph
  | request (id : String) (tunnelType : TunnelType) (requested : Option String)
      (subdomain : String) (basicAuth : Option BasicAuthConfig) (options : TunnelOptions)
      (draw : SubdomainDraw)
      (ha : a = .handleControlMsg c (.tunnelRequest id tunnelType requested basicAuth options) draw)
      (hsubdomain : validateSubdomain subdomain = .ok () ∨ subdomain = generateSubdomain draw) :
      SetupStep l a c (.handling (.reserve
        { arc := l.nextArc
          id := id
          tunnelType := tunnelType
          subdomain := subdomain
          basicAuth := basicAuth
          options := options }))
  | reserve (u : Setup) (port : Option UInt16) (kind : port.isSome = u.tunnelType.isTcp)
      (hph : l.tasks.control c = .handling (.reserve u)) :
      SetupStep l a c (.handling (.hash
        { u with tcpPort := port, basicAuthHash := none, kind := kind }))
  | skipHash (u : ReservedSetup) (hph : l.tasks.control c = .handling (.hash u))
      (hnone : u.basicAuth = none) : SetupStep l a c (.handling (afterHash u))
  | hash (u : ReservedSetup) (ba : BasicAuthConfig) (hash : String)
      (hashPassword : String → Except String String) (ha : a = .hashBasicAuth c hashPassword)
      (hph : l.tasks.control c = .handling (.hash u)) (hba : u.basicAuth = some ba)
      (hhash : hashPassword ba.password = .ok hash) :
      SetupStep l a c (.handling (afterHash { u with basicAuthHash := some hash }))
  | createDns (u : ReservedSetup) (http : u.tcpPort = none) (u' : PreparedSetup)
      (hph : l.tasks.control c = .handling (.createDns u http)) (hu : u'.toReservedSetup = u) :
      SetupStep l a c (.handling (.newSession u'))
  | newSession (u : PreparedSetup) (hph : l.tasks.control c = .handling (.newSession u)) :
      SetupStep l a c (.handling (.register (u.session c)))

theorem SetupStep.of_eq {ph ph' : ControlPhase} (h : l.SetupStep a c ph) (he : ph' = ph) :
    l.SetupStep a c ph' :=
  he ▸ h

theorem handleControlMsg_setup {msg : ClientMsg} {draw : SubdomainDraw}
    (h : l.handleControlMsg c msg draw = some l') :
    l.SetupStep (.handleControlMsg c msg draw) c (l'.tasks.control c) := by
  unfold handleControlMsg at h
  split at h
  case h_2 => cases h
  split at h
  · rename_i id tunnelType subdomain basicAuth options
    split at h
    · rename_i s
      split at h
      · obtain rfl := Option.some.inj h
        exact .of_eq (.other _ rfl) (Tasks.control_setControl_self ..)
      · rename_i hvalid
        obtain rfl := Option.some.inj h
        exact .of_eq (.request id tunnelType _ s basicAuth options draw rfl (Or.inl hvalid))
          (Tasks.control_setControl_self ..)
    · obtain rfl := Option.some.inj h
      exact .of_eq (.request id tunnelType _ _ basicAuth options draw rfl (Or.inr rfl))
        (Tasks.control_setControl_self ..)
  · obtain rfl := Option.some.inj h
    exact .of_eq (.other _ rfl) (Tasks.control_setControl_self ..)
  · obtain rfl := Option.some.inj h
    exact .of_eq (.other _ rfl) (Tasks.control_setControl_self ..)
  · obtain rfl := Option.some.inj h
    exact .of_eq (.other _ rfl) (Tasks.control_setControl_self ..)

theorem reserve_setup (h : l.reserve c = some l') :
    l.SetupStep (.reserve c) c (l'.tasks.control c) := by
  have name (u : Setup) (hph : l.tasks.control c = .handling (.reserve u))
      (hu : u.tunnelType.isTcp = false) :
      l.SetupStep (.reserve c) c ((l.reserveName c u hu).tasks.control c) := by
    rw [reserveName]
    split
    · exact .of_eq (.reserve u none hu.symm hph) (Tasks.control_setControl_self ..)
    · exact .of_eq (.other _ rfl) (Tasks.control_setControl_self ..)
  have port (u : Setup) (remotePort : Option UInt16)
      (hph : l.tasks.control c = .handling (.reserve u)) (hu : u.tunnelType.isTcp = true) :
      l.SetupStep (.reserve c) c ((l.reservePort c u remotePort hu).tasks.control c) := by
    rw [reservePort]
    split
    · rename_i port state _
      exact .of_eq (.reserve u (some port) hu.symm hph) (Tasks.control_setControl_self ..)
    · exact .of_eq (.other _ rfl) (Tasks.control_setControl_self ..)
  unfold Lifecycle.reserve at h
  split at h
  · rename_i u hph
    split at h
    all_goals obtain rfl := Option.some.inj h
    · exact port u _ hph _
    · exact name u hph _
    · exact name u hph _
  · cases h

theorem hashBasicAuth_setup {hashPassword : String → Except String String}
    (h : l.hashBasicAuth c hashPassword = some l') :
    l.SetupStep (.hashBasicAuth c hashPassword) c (l'.tasks.control c) := by
  unfold hashBasicAuth at h
  split at h
  · rename_i u hph
    split at h
    · rename_i hnone
      obtain rfl := Option.some.inj h
      exact .of_eq (.skipHash u hph hnone) (Tasks.control_setControl_self ..)
    · rename_i ba hba
      split at h
      · rename_i hash hhash
        obtain rfl := Option.some.inj h
        exact .of_eq (.hash u ba hash hashPassword rfl hph hba hhash)
          (Tasks.control_setControl_self ..)
      · obtain rfl := Option.some.inj h
        exact .of_eq (.other _ rfl) (Tasks.control_setControl_self ..)
  · cases h

theorem createDns_setup {createRecord : String → String → Except String String}
    (h : l.createDns c createRecord = some l') :
    l.SetupStep (.createDns c createRecord) c (l'.tasks.control c) := by
  unfold Lifecycle.createDns at h
  split at h
  · rename_i u http hph
    split at h
    · obtain rfl := Option.some.inj h
      exact .of_eq (.createDns u http _ hph rfl) (Tasks.control_setControl_self ..)
    · obtain rfl := Option.some.inj h
      exact .of_eq (.other _ rfl) (Tasks.control_setControl_self ..)
  · cases h

theorem newSession_setup (h : l.newSession c = some l') :
    l.SetupStep (.newSession c) c (l'.tasks.control c) := by
  unfold Lifecycle.newSession at h
  split at h
  · rename_i u hph
    dsimp only at h
    split at h
    · obtain rfl := Option.some.inj h
      exact .of_eq (.newSession u hph) (Tasks.control_setControl_self ..)
    · obtain rfl := Option.some.inj h
      exact .of_eq (.other _ rfl) (Tasks.control_setControl_self ..)
  · cases h

/-- A step that neither sets anything up nor stays carries no setup. -/
theorem SetupStep.of_setControl {ph : ControlPhase} (h : l'.tasks = l.tasks.setControl c ph)
    (hph : ph.setting = false) : l.SetupStep a c (l'.tasks.control c) := by
  rw [h, Tasks.control_setControl_self]
  exact .other ph hph

theorem shutdown_setup {caller : Caller} (ha : caller.task = .control c)
    (h : (∃ sd, l'.tasks = l.tasks.setShutdown sd caller) ∨
      (∃ removed, l'.tasks = l.tasks.endShutdown removed caller) ∨
      ∃ removed i ph, l'.tasks = (l.tasks.endShutdown removed caller).setRelease i ph) :
    l.SetupStep a c (l'.tasks.control c) := by
  cases caller with
  | reaper => cases ha
  | cleanup c' =>
      obtain rfl := Task.control.inj ha
      rcases h with ⟨sd, h⟩ | ⟨removed, h⟩ | ⟨removed, i, ph, h⟩
      · exact .of_setControl h rfl
      · exact .of_setControl h rfl
      · rw [h, Tasks.control_setRelease, Tasks.endShutdown, Tasks.control_setControl_self]
        exact .other _ rfl

theorem step_setup (h : l.step a = some l') (c : ℕ) : l.SetupStep a c (l'.tasks.control c) := by
  by_cases ha : a.task = .control c
  case neg => exact .of_eq .keep (control_frame h ha)
  cases a with
  | handleControlMsg c' msg draw =>
      obtain rfl := Task.control.inj ha
      exact handleControlMsg_setup h
  | reserve c' =>
      obtain rfl := Task.control.inj ha
      exact reserve_setup h
  | hashBasicAuth c' hashPassword =>
      obtain rfl := Task.control.inj ha
      exact hashBasicAuth_setup h
  | createDns c' createRecord =>
      obtain rfl := Task.control.inj ha
      exact createDns_setup h
  | newSession c' =>
      obtain rfl := Task.control.inj ha
      exact newSession_setup h
  | accept c' | enterLoop c' | enterSelect c' | continueLoop c' | breakLoop c' | register c'
  | bind c' bound | registerTcp c' | releaseSetup c' | replied c' | deleteFailedDns c'
  | cleanupHttp c' | cleanupHttpDns c' | cleanupTcp c' | cleanupTcpDns c' =>
      obtain rfl := Task.control.inj ha
      simp only [step, accept, enterLoop, enterSelect, continueLoop, breakLoop, register, bind,
        registerTcp, releaseSetup, replied, deleteFailedDns, cleanupHttp, cleanupHttpDns,
        cleanupTcp, cleanupTcpDns] at h
      repeat' split at h
      all_goals first
        | (cases h; done)
        | (obtain rfl := Option.some.inj h
           first
             | exact .keep
             | (simp only [setControl, setListener, tasks_deleteDnsRecord,
                  Tasks.control_setListener, Tasks.control_setControl_self]
                exact .other _ rfl))
  | shutdownTake caller | shutdownStopped caller | shutdownTimeout caller
  | shutdownRelease caller =>
      refine shutdown_setup ha ?_
      simp only [step, shutdownTake, shutdownStopped, shutdownTimeout, shutdownRelease] at h
      repeat' split at h
      all_goals first
        | (cases h; done)
        | (obtain rfl := Option.some.inj h
           first
             | exact Or.inl ⟨_, rfl⟩
             | exact Or.inr (Or.inl ⟨_, rfl⟩)
             | exact Or.inr (Or.inr ⟨_, _, _, rfl⟩))
  | releaseStopped | releaseDec | stopListening | signalStopped | listenerRemove
  | listenerRelease | listenerDns | reapTick | reapStop | reapFoundHttp | reapHttpCollected
  | reapHttp | reapNotified | reapDns | reapFoundTcp | reapTcpCollected | reapTcp => cases ha

end Lifecycle
end Rgrok
