/-
# Which requests are refused for good

`handle_control_msg` answers an `Error` with code 400, 409, 500 or 503, and
`classify_registration_response` takes all of them but the first for transient.
The code 400 stands for a name or a port that `validate_subdomain` or
`reserve_tcp_port` refuses whatever the state of the server is
(`ClientMsg.Ungrantable`), so a client that ends because its request was refused
could never have had its tunnel (`refused_for_good`).

`Handling.Refuses` follows the code of the answer through the phases of
`handle_control_msg`, and `World.Reasoned` from there to the client.
-/

import Rgrok.Server.Acknowledgement
import Rgrok.World.Handshake

namespace Rgrok

/-- No server with this configuration grants the request: its name is not valid,
or it asks for a port outside the range. -/
def ClientMsg.Ungrantable (config : Config) : ClientMsg → Prop
  | .tunnelRequest _ tunnelType subdomain _ _ =>
      (∃ name e, subdomain = some name ∧ validateSubdomain name = .error e) ∨
        ∃ port, tunnelType = .tcp (some port) ∧ config.inTcpPortRange port = false
  | .ping _ | .streamAck _ | .auth _ _ => False

/-- An `Error` that is permanent has a reason in the request. -/
def Reason (config : Config) (request : Option ClientMsg) (msg : ServerMsg) : Prop :=
  ∀ code text error, msg = .error code text →
    classifyRegistrationResponse msg = .error (.permanent error) →
      ∃ r, request = some r ∧ r.Ungrantable config

/-- The answer that is due has its reason in the request. -/
def Handling.Refuses (config : Config) (request : Option ClientMsg) : Handling → Prop
  | .reserve u => ∃ id subdomain basicAuth options,
      request = some (.tunnelRequest id u.tunnelType subdomain basicAuth options)
  | .release _ _ _ msg | .releaseFailed _ msg | .reply msg _ => Reason config request msg
  | .hash _ | .createDns _ _ | .newSession _ | .register _ | .bind _ _ _ | .registerTcp _ _ _
  | .deleteDns _ => True

/-- The client tries again after an error with this code. -/
def isTransientCode (code : UInt32) : Bool :=
  500 ≤ code || code == 409 || code == 429

namespace Lifecycle

variable {config : Config} {request : Option ClientMsg} {l l' : Lifecycle} {a : Action} {c : ℕ}
  {h h' : Handling} {u : Setup}

/-! ### The codes -/

theorem reason_of_transient {code : UInt32} (hcode : isTransientCode code = true)
    (text : String) : Reason config request (.error code text) := by
  intro code' text' error hmsg hpermanent
  rw [isTransientCode] at hcode
  rw [classifyRegistrationResponse, if_pos hcode] at hpermanent
  cases hpermanent

theorem reason_of_ack {id url : String} {tunnelType : TunnelType} :
    Reason config request (.tunnelAck id url tunnelType) := by
  intro code text error hmsg
  cases hmsg

theorem reserveHttpCode_transient (e : TunnelError) :
    isTransientCode (reserveHttpCode e) = true := by
  cases e <;> rfl

/-- `reserve_tcp_port` refuses a port for good only when it is outside the range. -/
theorem reserveTcpCode_transient {s : ServerState} {requested : Option UInt16} {owner : String}
    {arc : ℕ} {e : TunnelError} (h : s.reserveTcpPort requested owner arc = .error e) :
    isTransientCode (reserveTcpCode e) = true ∨
      ∃ port, requested = some port ∧ s.config.inTcpPortRange port = false := by
  rw [ServerState.reserveTcpPort] at h
  split at h
  · rename_i e' hchoose
    obtain rfl := Except.error.inj h
    cases requested with
    | none =>
        simp only [ServerState.chooseTcpPort] at hchoose
        split at hchoose
        · cases hchoose
        · obtain rfl := Except.error.inj hchoose
          exact Or.inl rfl
    | some port =>
        simp only [ServerState.chooseTcpPort] at hchoose
        split_ifs at hchoose with hrange
        exact Or.inr ⟨port, rfl, Bool.eq_false_iff.2 hrange⟩
  · split_ifs at h
    · obtain rfl := Except.error.inj h
      exact Or.inl rfl
    · obtain rfl := Except.error.inj h
      exact Or.inl rfl

/-! ### The steps of `handle_control_msg` -/

theorem refuses_reserve (hph : l.tasks.control c = .handling h)
    (hr : h.Refuses l.state.config request) (hs : l.reserve c = some l')
    (hph' : l'.tasks.control c = .handling h') : h'.Refuses l.state.config request := by
  unfold Lifecycle.reserve at hs
  split at hs
  · rename_i v hv
    obtain rfl := ControlPhase.handling.inj (hph.symm.trans hv)
    obtain ⟨id, subdomain, basicAuth, options, hrequest⟩ := hr
    have name (tcp : v.tunnelType.isTcp = false) (hl : l.reserveName c v tcp = l') :
        h'.Refuses l.state.config request := by
      subst hl
      rw [reserveName] at hph'
      split at hph'
      · obtain rfl := handling_setControl _ hph'
        exact trivial
      · obtain rfl := handling_setControl _ hph'
        exact reason_of_transient (reserveHttpCode_transient _) _
    split at hs
    · rename_i remotePort htype
      obtain rfl := Option.some.inj hs
      rw [reservePort] at hph'
      split at hph'
      · obtain rfl := handling_setControl _ hph'
        exact trivial
      · rename_i e he
        obtain rfl := handling_setControl _ hph'
        rcases reserveTcpCode_transient he with htransient | ⟨port, rfl, hrange⟩
        · exact reason_of_transient htransient _
        · intro code text error _ _
          exact ⟨_, hrequest, Or.inr ⟨port, htype, hrange⟩⟩
    · exact name _ (Option.some.inj hs)
    · exact name _ (Option.some.inj hs)
  · cases hs

theorem refuses_afterHash (v : ReservedSetup) : (afterHash v).Refuses config request := by
  unfold afterHash
  split <;> exact trivial

theorem refuses_hashBasicAuth {hashPassword : String → Except String String}
    (hs : l.hashBasicAuth c hashPassword = some l')
    (hph' : l'.tasks.control c = .handling h') : h'.Refuses config request := by
  unfold Lifecycle.hashBasicAuth at hs
  split at hs
  · split at hs
    · obtain rfl := Option.some.inj hs
      obtain rfl := handling_setControl _ hph'
      exact refuses_afterHash _
    · split at hs
      · obtain rfl := Option.some.inj hs
        obtain rfl := handling_setControl _ hph'
        exact refuses_afterHash _
      · obtain rfl := Option.some.inj hs
        obtain rfl := handling_setControl _ hph'
        exact reason_of_transient rfl _
  · cases hs

theorem refuses_createDns {createRecord : String → String → Except String String}
    (hs : l.createDns c createRecord = some l')
    (hph' : l'.tasks.control c = .handling h') : h'.Refuses config request := by
  unfold Lifecycle.createDns at hs
  split at hs
  · split at hs
    · obtain rfl := Option.some.inj hs
      obtain rfl := handling_setControl _ hph'
      exact trivial
    · obtain rfl := Option.some.inj hs
      obtain rfl := handling_setControl _ hph'
      exact reason_of_transient rfl _
  · cases hs

theorem refuses_newSession (hs : l.newSession c = some l')
    (hph' : l'.tasks.control c = .handling h') : h'.Refuses config request := by
  unfold Lifecycle.newSession at hs
  split at hs
  · split at hs <;> obtain rfl := Option.some.inj hs
    · obtain rfl := handling_setControl _ hph'
      exact trivial
    · obtain rfl := handling_setControl _ hph'
      exact trivial
  · cases hs

theorem reason_tunnelAck (session : TunnelSession) (port : Option UInt16) :
    Reason config request (tunnelAck l.state.config session port) :=
  reason_of_ack

theorem refuses_register (hs : l.register c = some l')
    (hph' : l'.tasks.control c = .handling h') : h'.Refuses config request := by
  unfold Lifecycle.register at hs
  split at hs
  · split at hs <;> obtain rfl := Option.some.inj hs
    · obtain rfl := handling_setControl (l := { l with state := _ }) _ hph'
      exact reason_tunnelAck _ _
    · obtain rfl := handling_setControl _ hph'
      exact reason_of_transient rfl _
  · cases hs

theorem refuses_bind {bound : Except String Unit} (hs : l.bind c bound = some l')
    (hph' : l'.tasks.control c = .handling h') : h'.Refuses config request := by
  unfold Lifecycle.bind at hs
  split at hs
  · split at hs <;> obtain rfl := Option.some.inj hs
    · obtain rfl := handling_setControl (l := { l with state := _ }) _ hph'
      exact trivial
    · obtain rfl := handling_setControl _ hph'
      exact reason_of_transient rfl _
  · cases hs

theorem refuses_registerTcp (hs : l.registerTcp c = some l')
    (hph' : l'.tasks.control c = .handling h') : h'.Refuses config request := by
  unfold Lifecycle.registerTcp at hs
  split at hs
  · split at hs <;> obtain rfl := Option.some.inj hs
    · obtain rfl := handling_setControl (l := { l with state := _ }) _ hph'
      exact reason_tunnelAck _ _
    · obtain rfl := handling_setControl _ hph'
      exact reason_of_transient rfl _
  · cases hs

theorem refuses_releaseSetup (hph : l.tasks.control c = .handling h)
    (hr : h.Refuses config request) (hs : l.releaseSetup c = some l')
    (hph' : l'.tasks.control c = .handling h') : h'.Refuses config request := by
  unfold Lifecycle.releaseSetup at hs
  split at hs
  · rename_i hv
    obtain rfl := ControlPhase.handling.inj (hph.symm.trans hv)
    obtain rfl := Option.some.inj hs
    obtain rfl := handling_setControl _ hph'
    exact hr
  · rename_i hv
    obtain rfl := ControlPhase.handling.inj (hph.symm.trans hv)
    obtain rfl := Option.some.inj hs
    obtain rfl := handling_setControl _ hph'
    exact hr
  · cases hs

/-- **A step of `handle_control_msg`** keeps the reason. -/
theorem refuses_own (hs : l.step a = some l') (ha : a.task = .control c)
    (hph : l.tasks.control c = .handling h) (hr : h.Refuses l.state.config request)
    (hph' : l'.tasks.control c = .handling h') : h'.Refuses l.state.config request := by
  cases a with
  | reserve c' =>
      obtain rfl := Task.control.inj ha
      exact refuses_reserve hph hr hs hph'
  | hashBasicAuth c' hashPassword =>
      obtain rfl := Task.control.inj ha
      exact refuses_hashBasicAuth hs hph'
  | createDns c' createRecord =>
      obtain rfl := Task.control.inj ha
      exact refuses_createDns hs hph'
  | newSession c' =>
      obtain rfl := Task.control.inj ha
      exact refuses_newSession hs hph'
  | register c' =>
      obtain rfl := Task.control.inj ha
      exact refuses_register hs hph'
  | bind c' bound =>
      obtain rfl := Task.control.inj ha
      exact refuses_bind hs hph'
  | registerTcp c' =>
      obtain rfl := Task.control.inj ha
      exact refuses_registerTcp hs hph'
  | releaseSetup c' =>
      obtain rfl := Task.control.inj ha
      exact refuses_releaseSetup hph hr hs hph'
  | replied c' =>
      obtain rfl := Task.control.inj ha
      simp only [step, replied] at hs
      split at hs
      · obtain rfl := Option.some.inj hs
        rw [setControl, Tasks.control_setControl_self] at hph'
        cases hph'
      · obtain rfl := Option.some.inj hs
        obtain rfl := handling_setControl _ hph'
        exact trivial
      · cases hs
  | deleteFailedDns c' =>
      obtain rfl := Task.control.inj ha
      simp only [step, deleteFailedDns] at hs
      split at hs
      · obtain rfl := Option.some.inj hs
        rw [setControl, Tasks.control_setControl_self] at hph'
        cases hph'
      · cases hs
  | accept c' | enterLoop c' | enterSelect c' | continueLoop c' | breakLoop c'
  | handleControlMsg c' msg draw | cleanupHttp c' | cleanupHttpDns c' | cleanupTcp c'
  | cleanupTcpDns c' =>
      obtain rfl := Task.control.inj ha
      simp only [step, accept, enterLoop, enterSelect, continueLoop, breakLoop, handleControlMsg,
        cleanupHttp, cleanupHttpDns, cleanupTcp, cleanupTcpDns, hph, reduceCtorEq] at hs
  | shutdownTake caller | shutdownStopped caller | shutdownTimeout caller
  | shutdownRelease caller =>
      cases caller with
      | reaper => cases ha
      | cleanup c' =>
          obtain rfl := Task.control.inj ha
          simp only [step, shutdownTake, shutdownStopped, shutdownTimeout, shutdownRelease,
            Tasks.shutdown, hph, reduceCtorEq] at hs
  | releaseStopped | releaseDec | stopListening | signalStopped | listenerRemove
  | listenerRelease | listenerDns | reapTick | reapStop | reapFoundHttp | reapHttpCollected
  | reapHttp | reapNotified | reapDns | reapFoundTcp | reapTcpCollected | reapTcp => cases ha

/-- A message that is read is the request that its answer is for. -/
theorem refuses_read {msg : ClientMsg} {draw : SubdomainDraw}
    (hs : l.handleControlMsg c msg draw = some l')
    (hph' : l'.tasks.control c = .handling h') : h'.Refuses config (some msg) := by
  have start (id : String) (tunnelType : TunnelType) (subdomain : Option String) (name : String)
      (basicAuth : Option BasicAuthConfig) (options : TunnelOptions)
      (hl : l.startSetup c id tunnelType name basicAuth options = l') :
      h'.Refuses config (some (.tunnelRequest id tunnelType subdomain basicAuth options)) := by
    subst hl
    rw [startSetup] at hph'
    obtain rfl := handling_setControl _ hph'
    exact ⟨id, subdomain, basicAuth, options, rfl⟩
  unfold handleControlMsg at hs
  split at hs
  · split at hs
    · split at hs
      · split at hs
        · rename_i name _ e he
          obtain rfl := Option.some.inj hs
          obtain rfl := handling_setControl _ hph'
          exact fun code text error _ _ => ⟨_, rfl, Or.inl ⟨name, e, rfl, he⟩⟩
        · exact start _ _ _ _ _ _ (Option.some.inj hs)
      · exact start _ _ _ _ _ _ (Option.some.inj hs)
    · obtain rfl := Option.some.inj hs
      obtain rfl := handling_setControl _ hph'
      intro code text error hmsg
      cases hmsg
    · obtain rfl := Option.some.inj hs
      rw [setControl, Tasks.control_setControl_self] at hph'
      cases hph'
    · obtain rfl := Option.some.inj hs
      rw [setControl, Tasks.control_setControl_self] at hph'
      cases hph'
  · cases hs

/-- `handle_control_msg` begins with the reading of a message. -/
theorem handling_begins (hi : l.Inv) (hs : l.step a = some l')
    (hph' : l'.tasks.control c = .handling h') :
    (∃ h, l.tasks.control c = .handling h) ∨ ∃ msg draw, a = .handleControlMsg c msg draw := by
  cases (step_rostered hi hs).move.conn c with
  | stay hcontrol => exact Or.inl ⟨h', hcontrol.symm.trans hph'⟩
  | control hstep =>
      change ControlStep c a (l.tasks.control c) (l'.tasks.control c) at hstep
      rw [hph'] at hstep
      generalize hph : l.tasks.control c = ph at hstep
      cases hstep with
      | request => exact Or.inr ⟨_, _, rfl⟩
      | ping => exact Or.inr ⟨_, _, rfl⟩
      | setup => exact Or.inl ⟨_, rfl⟩
      | repliedFailed => exact Or.inl ⟨_, rfl⟩
      | cleanup _ _ _ hclosing => cases hclosing
  | enterLoop _ _ hnew => cases (hph'.symm.trans hnew : _ = ControlPhase.loopTop)
  | publish h _ _ _ _ hold => exact Or.inl ⟨h, hold⟩
  | closing _ hnew =>
      change (l'.tasks.control c).closing = true at hnew
      rw [hph'] at hnew
      cases hnew

end Lifecycle

/-! ### From the request to the client -/

namespace World

variable {config : Config} {sessionId : ℕ → String} {w w' : World} {a : Action} {c : ℕ}
  {msg : ServerMsg}

/-- The answer that is due to a connection, and those it was given, have their
reasons in the requests. -/
structure Reasoned (config : Config) (w : World) (c : ℕ) : Prop where
  handling : ∀ h, w.server.life.tasks.control c = .handling h → h.Refuses config (w.asked c)
  answers : ∀ x ∈ w.answers c, Reason config x.1 x.2

/-- Only the reading of a message changes what was asked, and only an answer the
answers. -/
theorem after_of_silent {b : Lifecycle.Action}
    (hread : ∀ msg draw, b ≠ .handleControlMsg c msg draw) (hreplied : b ≠ .replied c) :
    w.askedAfter (.task b) c = w.asked c ∧ w.answersAfter (.task b) c = w.answers c := by
  cases b with
  | handleControlMsg c' msg draw =>
      have hc : c ≠ c' := fun he => hread msg draw (he ▸ rfl)
      exact ⟨Function.update_of_ne hc _ _, rfl⟩
  | replied c' =>
      have hc : c ≠ c' := fun he => hreplied (he ▸ rfl)
      refine ⟨rfl, ?_⟩
      generalize hanswers : w.answersAfter (.task (.replied c')) = answers
      rw [answersAfter] at hanswers
      split at hanswers <;> subst hanswers
      · exact Function.update_of_ne hc _ _
      · rfl
  | _ => exact ⟨rfl, rfl⟩

theorem Reasoned.serve {s' : Server} {b : Server.Action} (h : w.Reasoned config c)
    (hconfig : w.server.life.state.config = config) (hi : w.server.life.Inv)
    (hstep : w.server.Step b s') : (w.after sessionId b s').Reasoned config c := by
  rcases hstep.own_or_frame c with ⟨b', rfl, htask, hlife⟩ | ⟨hcontrol, -, -, -, hother⟩
  · by_cases hread : ∃ msg draw, b' = .handleControlMsg c msg draw
    · obtain ⟨msg, draw, rfl⟩ := hread
      refine ⟨fun h' hph' => ?_, h.answers⟩
      have hasked : (w.after sessionId (.task (.handleControlMsg c msg draw)) s').asked c =
          some msg :=
        Function.update_self ..
      rw [hasked]
      exact Lifecycle.refuses_read hlife hph'
    · have hworks (h' : Handling) (hph' : s'.life.tasks.control c = .handling h') :
          h'.Refuses config (w.asked c) := by
        rcases Lifecycle.handling_begins hi hlife hph' with ⟨h₀, hph⟩ | hbegins
        · subst hconfig
          exact Lifecycle.refuses_own hlife htask hph (h.handling h₀ hph) hph'
        · exact absurd hbegins hread
      by_cases hreplied : b' = .replied c
      · subst hreplied
        refine ⟨hworks, fun x hx => ?_⟩
        change x ∈ w.answersAfter (.task (.replied c)) c at hx
        generalize hanswers : w.answersAfter (.task (.replied c)) = answers at hx
        rw [answersAfter] at hanswers
        split at hanswers <;> subst hanswers
        · rename_i msg failed hph
          rw [Function.update_self] at hx
          rcases List.mem_append.1 hx with hold | hnew
          · exact h.answers x hold
          · obtain rfl := List.mem_singleton.1 hnew
            exact h.handling _ hph
        · exact h.answers x hx
      · obtain ⟨hasked, hanswers⟩ := after_of_silent (w := w)
          (fun msg draw he => hread ⟨msg, draw, he⟩) hreplied
        refine ⟨fun h' hph' => ?_, fun x hx => h.answers x (hanswers ▸ hx)⟩
        change h'.Refuses config (w.askedAfter (.task b') c)
        rw [hasked]
        exact hworks h' hph'
  · obtain ⟨-, -, hasked, hanswers⟩ := after_of_other w sessionId hother
    refine ⟨fun h' hph' => ?_, fun x hx => h.answers x (hanswers ▸ hx)⟩
    change h'.Refuses config (w.askedAfter b c)
    rw [hasked]
    exact h.handling h' (hcontrol.symm.trans hph')

/-- A client changes neither record. -/
theorem client_records (hs : w.step sessionId a = some w') (hnot : ∀ b, a ≠ .server b) :
    w'.asked = w.asked ∧ w'.answers = w.answers := by
  cases a with
  | server b => exact absurd rfl (hnot b)
  | reject c reason | connect c cfg token version | readRegistrationResponse c | timeOut c
  | readServerMsg c | ping c seq | disconnect c =>
      simp only [step, reject, connect, readRegistrationResponse, timeOut, readServerMsg, ping,
        disconnect] at hs
      split at hs <;> cases hs <;> exact ⟨rfl, rfl⟩
  | readAuthResponse c id =>
      simp only [step, readAuthResponse] at hs
      split at hs
      · split at hs <;> cases hs <;> exact ⟨rfl, rfl⟩
      · cases hs

theorem reasoned_of_reachable (r : (machine config sessionId).Reachable w) (c : ℕ) :
    w.Reasoned config c := by
  refine r.invariant (I := fun w => w.Reasoned config c) ?_ fun w a w' r h _ hs => ?_
  · rintro w rfl
    exact ⟨fun h hph => (by cases hph), fun x hx => (by cases hx)⟩
  · rcases step_server hs with ⟨b, rfl, hserve⟩ | ⟨hnot, hserver⟩
    · obtain ⟨-, s', hstep, rfl⟩ := serve_eq_some hserve
      exact h.serve (config_of_reachable r)
        (Lifecycle.inv_of_reachable (Server.life_reachable (server_reachable r)))
        (Server.step_cases hstep)
    · obtain ⟨hasked, hanswers⟩ := client_records hs hnot
      exact ⟨by rw [hserver, hasked]; exact h.handling, by rw [hanswers]; exact h.answers⟩

/-- **A client that ends on the answer to its request** had asked for something
that no server with this configuration grants. -/
theorem refused_for_good (r : (machine config sessionId).ReachedBy Undisturbed w) (c : ℕ)
    {error : String} (hfirst : w.first c = some msg)
    (hpermanent : classifyRegistrationResponse msg = .error (.permanent error)) :
    ∃ (id : String) (cfg : TunnelConfig), w.request c = some (cfg.request id) ∧
      (cfg.request id).Ungrantable config := by
  have hsettled := (handshake_of_reached r c).settled msg hfirst
  obtain ⟨id, cfg, hrequest⟩ := hsettled.request
  rcases hsettled.outcome with ⟨⟨code, text, hmsg⟩, -⟩ | ⟨id', publicUrl, tunnelType, rfl⟩
  · obtain ⟨request, hrequest', hungrantable⟩ :=
      (reasoned_of_reachable r.reachable c).answers _ (List.mem_of_head? hsettled.answers)
        code text error hmsg hpermanent
    obtain rfl := Option.some.inj (hrequest.symm.trans hrequest')
    exact ⟨id, cfg, hrequest, hungrantable⟩
  · cases hpermanent

/-- A client asks for the name "-". -/
def refusedRun : List Action :=
  .connect 0
      { tunnelType := .http
        subdomain := some "-"
        basicAuth := none
        options := Lifecycle.plainOptions } "token" "1" ::
    ([.task (.accept 0), .task (.enterLoop 0)].map .server ++ .readAuthResponse 0 "id" ::
      ([.task (.enterSelect 0), .task (.handleControlMsg 0
        (.tunnelRequest "id" .http (some "-") none Lifecycle.plainOptions) Lifecycle.firstDraw)].map
          .server ++ settleRun))

theorem refusedRun_isSome :
    ((machine .default fun _ => "s").run (new .default) refusedRun).isSome = true := by
  decide

def refused : World :=
  ((machine .default fun _ => "s").run (new .default) refusedRun).get refusedRun_isSome

theorem refused_reached : (machine .default fun _ => "s").ReachedBy Undisturbed refused := by
  refine Machine.ReachedBy.run (.init rfl) (fun a ha t c => ?_)
    (Option.some_get refusedRun_isSome).symm
  simp only [refusedRun, settleRun, List.map_cons, List.map_nil, List.cons_append,
    List.nil_append, List.mem_cons, List.not_mem_nil, or_false] at ha
  refine ⟨?_, fun he => by simp [he] at ha⟩
  rintro (⟨r, ticket, he, -⟩ | ⟨removed, he, -⟩) <;> simp [he] at ha

theorem refused_for_good_refused : ∃ (id : String) (cfg : TunnelConfig),
    refused.request 0 = some (cfg.request id) ∧ (cfg.request id).Ungrantable .default := by
  have hfirst : refused.first 0 = some (.error 400 "subdomain must be at least 3 characters") := by
    decide
  have hpermanent : classifyRegistrationResponse
      (.error 400 "subdomain must be at least 3 characters") = .error (.permanent
        "Tunnel creation failed (400): subdomain must be at least 3 characters") := by
    rfl
  exact refused_for_good refused_reached 0 hfirst hpermanent

end World
end Rgrok
