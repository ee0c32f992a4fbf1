/-
# What an acknowledgement says

`handle_control_msg` in `crates/rgrok-server/src/control.rs`.

`Acknowledgement` is the `TunnelAck` for a request, with the endpoint that it is
for.  From the reading of the request on, every phase of the connection holds the
port that `reserve_tcp_port` gave (`Handling.Granted`), so that the answer is an
`Error` or the acknowledgement of a name that is valid, or of a port that the
request may have (`Lifecycle.acknowledgement_of_acks`).
-/

import Rgrok.Server.Progress
import Rgrok.Server.RequestSteps

namespace Rgrok

/-- `reserve_tcp_port` gives a request of this type the port: it is in the range,
and it is the one that was asked for. -/
structure PortGranted (config : Config) (tunnelType : TunnelType) (port : UInt16) : Prop where
  range : config.inTcpPortRange port = true
  requested : ∀ p, tunnelType = .tcp (some p) → port = p

/-- The port that the setup works with, and that the answer names, was granted. -/
def Handling.Granted (config : Config) (tunnelType : TunnelType) : Handling → Prop
  | .reserve v => v.tunnelType = tunnelType
  | .hash v | .createDns v _ => ∀ port, v.tcpPort = some port → PortGranted config tunnelType port
  | .newSession v => ∀ port, v.tcpPort = some port → PortGranted config tunnelType port
  | .bind _ port _ | .registerTcp _ port _ => PortGranted config tunnelType port
  | .release _ _ _ msg | .releaseFailed _ msg | .reply msg _ =>
      ∀ id url port, msg = .tunnelAck id url (.tcp (some port)) → PortGranted config tunnelType port
  | .register _ | .deleteDns _ => True

/-- **The acknowledgement** of a request with this name: of the name, or of a port. -/
inductive Acknowledgement (config : Config) (id : String) (tunnelType : TunnelType)
    (name : String) : ServerMsg → ReservationKey → Prop
  | http (h : tunnelType.isTcp = false) : Acknowledgement config id tunnelType name
      (.tunnelAck id ("https://" ++ name ++ "." ++ config.server.domain) tunnelType) (.http name)
  | tcp (port : UInt16) (h : tunnelType.isTcp = true)
      (hport : PortGranted config tunnelType port) : Acknowledgement config id tunnelType name
      (.tunnelAck id ("tcp://" ++ config.server.domain ++ ":" ++ toString port) (.tcp (some port)))
      (.tcp port)

theorem ServerState.chooseTcpPort_granted {s : ServerState} {requested : Option UInt16}
    {port : UInt16} (h : s.chooseTcpPort requested = .ok port) :
    PortGranted s.config (.tcp requested) port := by
  refine ⟨inTcpPortRange_of_chooseTcpPort h, ?_⟩
  intro p hp
  obtain rfl := TunnelType.tcp.inj hp
  simp only [chooseTcpPort] at h
  split at h
  · exact (Except.ok.inj h).symm
  · cases h

namespace Lifecycle

variable {config : Config} {l l' : Lifecycle} {a : Action} {as : List Action} {c : ℕ}
  {u : Setup} {h h' : Handling}

/-! ### The port of a setup -/

theorem handling_setControl (h : Handling)
    (hph : (l.setControl c (.handling h)).tasks.control c = .handling h') : h = h' := by
  rw [setControl, Tasks.control_setControl_self] at hph
  exact ControlPhase.handling.inj hph

variable {tunnelType : TunnelType}

/-- An `Error` names no port. -/
theorem granted_error {code : UInt32} {text : String} {failed : Option TunnelSession} :
    (Handling.reply (.error code text) failed).Granted config tunnelType := by
  intro id url port hmsg
  cases hmsg

theorem granted_reservePort {remotePort : Option UInt16} (htype : u.tunnelType = .tcp remotePort)
    {tcp : u.tunnelType.isTcp = true}
    (hph : (l.reservePort c u remotePort tcp).tasks.control c = .handling h') :
    h'.Granted l.state.config u.tunnelType := by
  rw [reservePort] at hph
  split at hph
  · rename_i port state hstate
    obtain rfl := handling_setControl _ hph
    intro port' hport
    obtain rfl := Option.some.inj hport
    rw [ServerState.reserveTcpPort] at hstate
    split at hstate
    · cases hstate
    · rename_i hchoose
      split_ifs at hstate
      obtain ⟨rfl, -⟩ := Prod.mk.inj (Except.ok.inj hstate)
      rw [htype]
      exact ServerState.chooseTcpPort_granted hchoose
  · obtain rfl := handling_setControl _ hph
    exact granted_error

theorem granted_reserveName {tcp : u.tunnelType.isTcp = false}
    (hph : (l.reserveName c u tcp).tasks.control c = .handling h') :
    h'.Granted l.state.config u.tunnelType := by
  rw [reserveName] at hph
  split at hph
  · obtain rfl := handling_setControl _ hph
    intro port hport
    cases hport
  · obtain rfl := handling_setControl _ hph
    exact granted_error

theorem granted_reserve (hph : l.tasks.control c = .handling h)
    (hg : h.Granted l.state.config tunnelType) (hs : l.reserve c = some l')
    (hph' : l'.tasks.control c = .handling h') : h'.Granted l.state.config tunnelType := by
  unfold Lifecycle.reserve at hs
  split at hs
  · rename_i v hv
    obtain rfl := ControlPhase.handling.inj (hph.symm.trans hv)
    obtain rfl : v.tunnelType = tunnelType := hg
    split at hs <;> obtain rfl := Option.some.inj hs
    · rename_i htype
      exact granted_reservePort htype hph'
    · exact granted_reserveName hph'
    · exact granted_reserveName hph'
  · cases hs

theorem granted_afterHash {v : ReservedSetup} (hg : (Handling.hash v).Granted config tunnelType) :
    (afterHash v).Granted config tunnelType := by
  unfold afterHash
  split <;> exact hg

theorem granted_hashBasicAuth {hashPassword : String → Except String String}
    (hph : l.tasks.control c = .handling h) (hg : h.Granted l.state.config tunnelType)
    (hs : l.hashBasicAuth c hashPassword = some l')
    (hph' : l'.tasks.control c = .handling h') : h'.Granted l.state.config tunnelType := by
  unfold Lifecycle.hashBasicAuth at hs
  split at hs
  · rename_i v hv
    obtain rfl := ControlPhase.handling.inj (hph.symm.trans hv)
    split at hs
    · obtain rfl := Option.some.inj hs
      obtain rfl := handling_setControl _ hph'
      exact granted_afterHash hg
    · split at hs
      · rename_i hash _
        obtain rfl := Option.some.inj hs
        obtain rfl := handling_setControl _ hph'
        exact granted_afterHash (v := { v with basicAuthHash := some hash }) hg
      · obtain rfl := Option.some.inj hs
        obtain rfl := handling_setControl _ hph'
        intro id url port hmsg
        cases hmsg
  · cases hs

theorem granted_createDns {createRecord : String → String → Except String String}
    (hph : l.tasks.control c = .handling h) (hg : h.Granted l.state.config tunnelType)
    (hs : l.createDns c createRecord = some l')
    (hph' : l'.tasks.control c = .handling h') : h'.Granted l.state.config tunnelType := by
  unfold Lifecycle.createDns at hs
  split at hs
  · rename_i v http hv
    obtain rfl := ControlPhase.handling.inj (hph.symm.trans hv)
    split at hs
    · obtain rfl := Option.some.inj hs
      obtain rfl := handling_setControl (l := l) _ hph'
      exact hg
    · obtain rfl := Option.some.inj hs
      obtain rfl := handling_setControl _ hph'
      intro id url port hmsg
      cases hmsg
  · cases hs

theorem granted_newSession (hph : l.tasks.control c = .handling h)
    (hg : h.Granted l.state.config tunnelType) (hs : l.newSession c = some l')
    (hph' : l'.tasks.control c = .handling h') : h'.Granted l.state.config tunnelType := by
  unfold Lifecycle.newSession at hs
  split at hs
  · rename_i v hv
    obtain rfl := ControlPhase.handling.inj (hph.symm.trans hv)
    dsimp only at hs
    split at hs
    · obtain rfl := Option.some.inj hs
      obtain rfl := handling_setControl _ hph'
      exact trivial
    · rename_i port hport
      obtain rfl := Option.some.inj hs
      obtain rfl := handling_setControl _ hph'
      exact hg port hport
  · cases hs

theorem granted_bind {bound : Except String Unit} (hph : l.tasks.control c = .handling h)
    (hg : h.Granted l.state.config tunnelType) (hs : l.bind c bound = some l')
    (hph' : l'.tasks.control c = .handling h') : h'.Granted l.state.config tunnelType := by
  unfold Lifecycle.bind at hs
  split at hs
  · rename_i session port noRecord hv
    obtain rfl := ControlPhase.handling.inj (hph.symm.trans hv)
    split at hs
    · obtain rfl := Option.some.inj hs
      obtain rfl := handling_setControl (l := { l with state := _ }) _ hph'
      exact hg
    · obtain rfl := Option.some.inj hs
      obtain rfl := handling_setControl _ hph'
      intro id url port hmsg
      cases hmsg
  · cases hs

/-- The port in an acknowledgement is the one it was made for. -/
theorem port_of_tunnelAck {session : TunnelSession} {port : Option UInt16} {id url : String}
    {p : UInt16} (h : tunnelAck config session port = .tunnelAck id url (.tcp (some p))) :
    port = some p := by
  obtain ⟨-, -, htype⟩ := ServerMsg.tunnelAck.inj h
  split at htype
  · exact TunnelType.tcp.inj htype
  · rename_i hother
    exact absurd htype (hother (some p))

theorem granted_register (hs : l.register c = some l')
    (hph' : l'.tasks.control c = .handling h') : h'.Granted l.state.config tunnelType := by
  unfold Lifecycle.register at hs
  split at hs
  · split at hs
    · obtain rfl := Option.some.inj hs
      obtain rfl := handling_setControl (l := { l with state := _ }) _ hph'
      intro id url port hmsg
      cases port_of_tunnelAck hmsg
    · obtain rfl := Option.some.inj hs
      obtain rfl := handling_setControl _ hph'
      intro id url port hmsg
      cases hmsg
  · cases hs

theorem granted_registerTcp (hph : l.tasks.control c = .handling h)
    (hg : h.Granted l.state.config tunnelType) (hs : l.registerTcp c = some l')
    (hph' : l'.tasks.control c = .handling h') : h'.Granted l.state.config tunnelType := by
  unfold Lifecycle.registerTcp at hs
  split at hs
  · rename_i session port noRecord hv
    obtain rfl := ControlPhase.handling.inj (hph.symm.trans hv)
    split at hs
    · obtain rfl := Option.some.inj hs
      obtain rfl := handling_setControl (l := { l with state := _ }) _ hph'
      intro id url port' hmsg
      obtain rfl := Option.some.inj (port_of_tunnelAck hmsg)
      exact hg
    · obtain rfl := Option.some.inj hs
      obtain rfl := handling_setControl (l := l) _ hph'
      intro id url port' hmsg
      cases hmsg
  · cases hs

theorem granted_releaseSetup (hph : l.tasks.control c = .handling h)
    (hg : h.Granted l.state.config tunnelType) (hs : l.releaseSetup c = some l')
    (hph' : l'.tasks.control c = .handling h') : h'.Granted l.state.config tunnelType := by
  unfold Lifecycle.releaseSetup at hs
  split at hs
  · rename_i hv
    obtain rfl := ControlPhase.handling.inj (hph.symm.trans hv)
    obtain rfl := Option.some.inj hs
    obtain rfl := handling_setControl _ hph'
    exact hg
  · rename_i hv
    obtain rfl := ControlPhase.handling.inj (hph.symm.trans hv)
    obtain rfl := Option.some.inj hs
    obtain rfl := handling_setControl _ hph'
    exact hg
  · cases hs

/-- **A step for the request** keeps what is granted. -/
theorem granted_own (hs : l.step a = some l') (ha : a.task = .control c)
    (hph : l.tasks.control c = .handling h) (hg : h.Granted l.state.config tunnelType)
    (hph' : l'.tasks.control c = .handling h') : h'.Granted l.state.config tunnelType := by
  cases a with
  | reserve c' =>
      obtain rfl := Task.control.inj ha
      exact granted_reserve hph hg hs hph'
  | hashBasicAuth c' hashPassword =>
      obtain rfl := Task.control.inj ha
      exact granted_hashBasicAuth hph hg hs hph'
  | createDns c' createRecord =>
      obtain rfl := Task.control.inj ha
      exact granted_createDns hph hg hs hph'
  | newSession c' =>
      obtain rfl := Task.control.inj ha
      exact granted_newSession hph hg hs hph'
  | register c' =>
      obtain rfl := Task.control.inj ha
      exact granted_register hs hph'
  | bind c' bound =>
      obtain rfl := Task.control.inj ha
      exact granted_bind hph hg hs hph'
  | registerTcp c' =>
      obtain rfl := Task.control.inj ha
      exact granted_registerTcp hph hg hs hph'
  | releaseSetup c' =>
      obtain rfl := Task.control.inj ha
      exact granted_releaseSetup hph hg hs hph'
  | replied c' =>
      obtain rfl := Task.control.inj ha
      simp only [step, replied] at hs
      split at hs
      · obtain rfl := Option.some.inj hs
        rw [setControl, Tasks.control_setControl_self] at hph'
        cases hph'
      · obtain rfl := Option.some.inj hs
        obtain rfl := handling_setControl _ hph'
        exact trivial
      · cases hs
  | deleteFailedDns c' =>
      obtain rfl := Task.control.inj ha
      simp only [step, deleteFailedDns] at hs
      split at hs
      · obtain rfl := Option.some.inj hs
        rw [setControl, Tasks.control_setControl_self] at hph'
        cases hph'
      · cases hs
  | accept c' | enterLoop c' | enterSelect c' | continueLoop c' | breakLoop c'
  | handleControlMsg c' msg draw | cleanupHttp c' | cleanupHttpDns c' | cleanupTcp c'
  | cleanupTcpDns c' =>
      obtain rfl := Task.control.inj ha
      simp only [step, accept, enterLoop, enterSelect, continueLoop, breakLoop, handleControlMsg,
        cleanupHttp, cleanupHttpDns, cleanupTcp, cleanupTcpDns, hph, reduceCtorEq] at hs
  | shutdownTake caller | shutdownStopped caller | shutdownTimeout caller
  | shutdownRelease caller =>
      cases caller with
      | reaper => cases ha
      | cleanup c' =>
          obtain rfl := Task.control.inj ha
          simp only [step, shutdownTake, shutdownStopped, shutdownTimeout, shutdownRelease,
            Tasks.shutdown, hph, reduceCtorEq] at hs
  | releaseStopped | releaseDec | stopListening | signalStopped | listenerRemove
  | listenerRelease | listenerDns | reapTick | reapStop | reapFoundHttp | reapHttpCollected
  | reapHttp | reapNotified | reapDns | reapFoundTcp | reapTcpCollected | reapTcp => cases ha

/-! ### From the request to the answer -/

/-- The connection works on the request `u`, or has its acknowledgement ready. -/
inductive Answering (config : Config) (c : ℕ) (u : Setup) : ControlPhase → Prop
  | working (h : Handling) (hserves : h.Serves c u) (hfails : h.Fails)
      (hdue : h.answering = true) (hg : h.Granted config u.tunnelType) :
      Answering config c u (.handling h)
  | acked (msg : ServerMsg) (key : ReservationKey)
      (hack : Acknowledgement config u.id u.tunnelType u.subdomain msg key) :
      Answering config c u (.handling (.reply msg none))

/-- A published tunnel is acknowledged under what it was granted. -/
theorem acknowledgement_of_acknowledges {session : TunnelSession} {msg : ServerMsg}
    {key : ReservationKey} (hserves : session.Serves c u)
    (hmsg : Acknowledges config session msg key)
    (hg : (Handling.reply msg none).Granted config u.tunnelType) :
    Acknowledgement config u.id u.tunnelType u.subdomain msg key := by
  cases key with
  | http name =>
      obtain ⟨rfl, htype, rfl⟩ := hmsg
      rw [hserves.id, hserves.tunnelType, hserves.subdomain]
      exact .http (hserves.tunnelType ▸ htype)
  | tcp port =>
      obtain ⟨htype, rfl⟩ := hmsg
      rw [hserves.id]
      exact .tcp port (hserves.tunnelType ▸ htype) (hg _ _ port rfl)

/-- A step of the connection, before the answer is sent. -/
theorem Answering.own (hi : l.view.Inv) (hs : l.step a = some l') (ha : a.task = .control c)
    (hne : a ≠ .replied c) (h : Answering l.state.config c u (l.tasks.control c)) :
    Answering l.state.config c u (l'.tasks.control c) := by
  generalize hph : l.tasks.control c = ph at h
  cases h with
  | acked msg key => exact absurd (replied_of_own hs ha hph) hne
  | working h hserves hfails hdue hg =>
      by_cases hworking : h.working = true
      · cases request_step hi hs ha hph hserves hfails hworking with
        | spares h' _ hph' hserves' hfails' hdue' =>
            rw [hph']
            exact .working h' hserves' hfails' hdue' (granted_own hs ha hph hg hph')
        | publishes key session msg _ hsession hmsg hph' =>
            rw [hph']
            exact .acked msg key
              (acknowledgement_of_acknowledges hsession hmsg (granted_own hs ha hph hg hph'))
      · cases h with
        | reply msg failed => exact absurd (replied_of_own hs ha hph) hne
        | deleteDns => cases hdue
        | _ => exact absurd rfl hworking

theorem config_of_reachable (r : (machine config).Reachable l) : l.state.config = config := by
  refine r.invariant (I := fun l => l.state.config = config) ?_ fun l a l' _ hi _ hs => ?_
  · rintro l rfl
    rfl
  · rw [(step_store hs).config]
    exact hi

/-- **Until the answer is sent**, with the steps of all other tasks between. -/
theorem Answering.path (r : (machine config).Reachable l)
    (h : Answering config c u (l.tasks.control c))
    (path : (machine config).Path (fun _ a => a ≠ .replied c) l as l') :
    Answering config c u (l'.tasks.control c) := by
  induction path with
  | nil => exact h
  | @cons l l₁ _ a as hne hs path ih =>
      refine ih (r.step trivial hs) ?_
      have hstep : l.step a = some l₁ := hs
      by_cases ha : a.task = .control c
      · have hconfig := config_of_reachable r
        rw [← hconfig] at h ⊢
        exact h.own (inv_of_reachable r).2 hstep ha hne
      · rw [control_frame hstep ha]
        exact h

/-- An answer that is not sent stays what it is. -/
theorem reply_path {msg : ServerMsg} {failed : Option TunnelSession}
    (hph : l.tasks.control c = .handling (.reply msg failed))
    (path : (machine config).Path (fun _ a => a ≠ .replied c) l as l') :
    l'.tasks.control c = .handling (.reply msg failed) := by
  induction path with
  | nil => exact hph
  | @cons l l₁ _ a as hne hs path ih =>
      have hstep : l.step a = some l₁ := hs
      by_cases ha : a.task = .control c
      · exact absurd (replied_of_own hstep ha hph) hne
      · exact ih (by rw [control_frame hstep ha, hph])

/-- **The server acknowledges the request**: a connection reads it and comes to
answer with this `TunnelAck`. -/
def Acks (config : Config) (request : ClientMsg) (ack : ServerMsg) : Prop :=
  ∃ l c draw as l', (machine config).Reachable l ∧
    (machine config).Path (fun _ a => a ≠ .replied c) l (.handleControlMsg c request draw :: as) l' ∧
    l'.tasks.control c = .handling (.reply ack none) ∧
    ∃ id publicUrl tunnelType, ack = .tunnelAck id publicUrl tunnelType

/-- The name a request is set up with: the one it asks for, or one that is
generated. -/
def SetUpName (subdomain : Option String) (name : String) : Prop :=
  subdomain = some name ∨ subdomain = none ∧ ∃ draw, name = generateSubdomain draw

/-- **What is acknowledged** is the name, which is valid, or a port that was granted. -/
theorem acknowledgement_of_acks {id : String} {tunnelType : TunnelType}
    {subdomain : Option String} {basicAuth : Option BasicAuthConfig} {options : TunnelOptions}
    {ack : ServerMsg}
    (h : Acks config (.tunnelRequest id tunnelType subdomain basicAuth options) ack) :
    ∃ name key, SetUpName subdomain name ∧ validateSubdomain name = .ok () ∧
      Acknowledgement config id tunnelType name ack key := by
  obtain ⟨l, c, draw, as, l', r, path, hack, id', publicUrl, tunnelType', rfl⟩ := h
  cases path with
  | @cons _ l₁ _ _ _ hne hread path =>
      have hs : l.handleControlMsg c (.tunnelRequest id tunnelType subdomain basicAuth options)
        draw = some l₁ := hread
      have r₁ := r.step trivial hread
      -- the request is set up under the name that was asked for, or one that is generated
      have setUp (name : String) (hname : SetUpName subdomain name)
          (hvalid : validateSubdomain name = .ok ())
          (hl : l₁ = l.startSetup c id tunnelType name basicAuth options) :
          ∃ name key, SetUpName subdomain name ∧ validateSubdomain name = .ok () ∧
            Acknowledgement config id tunnelType name (.tunnelAck id' publicUrl tunnelType') key := by
        have hfirst : Answering config c
            { arc := l.nextArc
              id := id
              tunnelType := tunnelType
              subdomain := name
              basicAuth := basicAuth
              options := options } (l₁.tasks.control c) := by
          rw [hl]
          refine (congrArg (Answering config c _) (Tasks.control_setControl_self ..)).mpr ?_
          exact .working _ rfl trivial rfl rfl
        have hend := hfirst.path r₁ path
        rw [hack] at hend
        cases hend with
        | working h hserves hfails =>
            obtain ⟨code, text, hmsg⟩ := hfails
            cases hmsg
        | acked msg key hack => exact ⟨name, key, hname, hvalid, hack⟩
      unfold handleControlMsg at hs
      split at hs
      · cases subdomain with
        | none =>
            exact setUp _ (Or.inr ⟨rfl, draw, rfl⟩) (validateSubdomain_generateSubdomain draw)
              (Option.some.inj hs).symm
        | some name =>
            dsimp only at hs
            split at hs
            · rename_i text _
              obtain rfl := Option.some.inj hs
              have hkept := reply_path (Tasks.control_setControl_self ..) path
              rw [hack] at hkept
              cases hkept
            · rename_i hvalid
              exact setUp name (Or.inl rfl) hvalid (Option.some.inj hs).symm
      · cases hs

end Lifecycle
end Rgrok
