/-
# What client and server agree is registered

A client that is in `run_session` takes its tunnel for registered.  The server
takes a published tunnel away in the cleanup of its connection, when the reaper
finds it idle and when its listener returns; only the first closes the
connection, and the client reads the reaper's notice as one message among
others.  So the two agree in the runs whose steps `Keeps` the tunnels of clients
that are still there (`registration_agreed`); `deserted` is a run in which the
reaper does not.

`Conn.Honest` follows the acknowledgements on their way to the client,
`World.Kept` the cleanup lists of the server.
-/

import Rgrok.World.Handshake

namespace Rgrok

/-- The client is in `authenticate_and_register` or in `run_session`. -/
def ClientPhase.attached : ClientPhase → Bool
  | .authenticating _ | .registering _ _ | .running _ => true
  | .other | .failed _ | .disconnected => false

namespace Conn

variable {config : Config} {c : ℕ} {k k' : Conn} {e : Event} {registration : TunnelRegistration}
  {msg : ServerMsg}

/-- The client has the registration, or it is on the way to it. -/
def Promised (k : Conn) (registration : TunnelRegistration) : Prop :=
  k.client = .running registration ∨
    ∃ msg, classifyRegistrationResponse msg = .ok registration ∧
      (msg ∈ k.wire ∨ msg ∈ k.queue ∨ ∃ failed, k.control = .handling (.reply msg failed))

/-- A tunnel on the cleanup list has the URL and the type of the registration. -/
def Backs (config : Config) (k : Conn) (registration : TunnelRegistration) : Prop :=
  ∃ x ∈ k.pairs, Acknowledges config x.2
    (.tunnelAck x.2.id registration.publicUrl registration.tunnelType) x.1

/-- Nothing is promised before the loop, and in it only what is registered. -/
structure Honest (config : Config) (k : Conn) : Prop where
  fresh : k.control.fresh = true → ∀ registration, ¬ k.Promised registration
  backed : k.control.closing = false → ∀ registration, k.Promised registration →
    k.Backs config registration

theorem classify_error {code : UInt32} {text : String} :
    classifyRegistrationResponse (.error code text) ≠ .ok registration := by
  simp only [classifyRegistrationResponse]
  split <;> simp

theorem classify_answer {h : Handling} {failed : Option TunnelSession} (hfails : h.Fails)
    (hreply : h = .reply msg failed) : classifyRegistrationResponse msg ≠ .ok registration := by
  subst hreply
  obtain ⟨code, text, rfl⟩ := hfails
  exact classify_error

/-- A `TunnelAck` acknowledges what the client makes of it. -/
theorem backs_of_acknowledges {key : ReservationKey} {session : TunnelSession}
    (hmsg : Acknowledges config session msg key)
    (hclassify : classifyRegistrationResponse msg = .ok registration) :
    Acknowledges config session
      (.tunnelAck session.id registration.publicUrl registration.tunnelType) key := by
  cases key with
  | http name =>
      obtain ⟨hname, htype, rfl⟩ := hmsg
      obtain rfl := Except.ok.inj hclassify
      exact ⟨hname, htype, rfl⟩
  | tcp port =>
      obtain ⟨htype, rfl⟩ := hmsg
      obtain rfl := Except.ok.inj hclassify
      exact ⟨htype, rfl⟩

/-- A message that is no `TunnelAck` promises nothing. -/
def Silent (msg : ServerMsg) : Prop :=
  ∀ registration, classifyRegistrationResponse msg ≠ .ok registration

theorem silent_of_fails {h : Handling} {failed : Option TunnelSession} (hfails : h.Fails)
    (hreply : h = .reply msg failed) : Silent msg := by
  subst hreply
  obtain ⟨code, text, rfl⟩ := hfails
  exact fun _ => classify_error

/-- What is promised after a move was promised before, when every message that
may promise something comes from where it stood before. -/
theorem Promised.of (h : k'.Promised registration)
    (hclient : ∀ registration, k'.client = .running registration →
      k.Promised registration)
    (hwire : ∀ msg ∈ k'.wire, Silent msg ∨ msg ∈ k.wire ∨ msg ∈ k.queue)
    (hqueue : ∀ msg ∈ k'.queue, Silent msg ∨ msg ∈ k.queue ∨
      ∃ failed, k.control = .handling (.reply msg failed))
    (hreply : ∀ msg failed, k'.control = .handling (.reply msg failed) → Silent msg ∨
      k.control = .handling (.reply msg failed)) : k.Promised registration := by
  rcases h with hrunning | ⟨msg, hmsg, hw | hq | ⟨failed, hr⟩⟩
  · exact hclient registration hrunning
  · rcases hwire msg hw with hsilent | hold | hold
    · exact absurd hmsg (hsilent registration)
    · exact Or.inr ⟨msg, hmsg, Or.inl hold⟩
    · exact Or.inr ⟨msg, hmsg, Or.inr (Or.inl hold)⟩
  · rcases hqueue msg hq with hsilent | hold | hold
    · exact absurd hmsg (hsilent registration)
    · exact Or.inr ⟨msg, hmsg, Or.inr (Or.inl hold)⟩
    · exact Or.inr ⟨msg, hmsg, Or.inr (Or.inr hold)⟩
  · rcases hreply msg failed hr with hsilent | hold
    · exact absurd hmsg (hsilent registration)
    · exact Or.inr ⟨msg, hmsg, Or.inr (Or.inr ⟨failed, hold⟩)⟩

/-- What a move promises was promised before, or is what it publishes. -/
theorem Move.promised (m : k.Move config c e k') (h : k'.Promised registration) :
    k.Promised registration ∨ k'.control.closing = true ∨
      k'.control.fresh = false ∧ k'.Backs config registration := by
  have running (registration : TunnelRegistration) (hclient : k.client = .running registration) :
      k.Promised registration :=
    Or.inl hclient
  have keepWire (msg : ServerMsg) (hw : msg ∈ k.wire) : Silent msg ∨ msg ∈ k.wire ∨ msg ∈ k.queue :=
    Or.inr (Or.inl hw)
  have keepQueue (msg : ServerMsg) (hq : msg ∈ k.queue) : Silent msg ∨ msg ∈ k.queue ∨
      ∃ failed, k.control = .handling (.reply msg failed) :=
    Or.inr (Or.inl hq)
  have keepReply (msg : ServerMsg) (failed : Option TunnelSession)
      (hr : k.control = .handling (.reply msg failed)) :
      Silent msg ∨ k.control = .handling (.reply msg failed) :=
    Or.inr hr
  have noReply {ph : ControlPhase} (hph : ∀ h, ph ≠ .handling h) (msg : ServerMsg)
      (failed : Option TunnelSession) (hr : ph = .handling (.reply msg failed)) :
      Silent msg ∨ k.control = .handling (.reply msg failed) :=
    absurd hr (hph _)
  have moreWire (new : ServerMsg) (hnew : Silent new) (msg : ServerMsg)
      (hw : msg ∈ k.wire ++ [new]) :
      Silent msg ∨ msg ∈ k.wire ∨ msg ∈ k.queue := by
    rcases List.mem_append.1 hw with hold | hnewest
    · exact Or.inr (Or.inl hold)
    · obtain rfl := List.mem_singleton.1 hnewest
      exact Or.inl hnew
  have lessWire {wire : List ServerMsg} {first : ServerMsg} (hwire : k.wire = first :: wire)
      (msg : ServerMsg) (hw : msg ∈ wire) : Silent msg ∨ msg ∈ k.wire ∨ msg ∈ k.queue :=
    Or.inr (Or.inl (hwire ▸ List.mem_cons_of_mem _ hw))
  cases m with
  | stay => exact Or.inl h
  | connect =>
      exact Or.inl (h.of (fun _ he => by cases he) keepWire keepQueue keepReply)
  | reject reason =>
      exact Or.inl (h.of running (moreWire _ fun _ he => by cases he) keepQueue keepReply)
  | accept =>
      exact Or.inl (h.of running keepWire keepQueue (noReply fun h he => by cases he))
  | enterLoop =>
      exact Or.inl (h.of running (moreWire _ fun _ he => by cases he)
        (fun msg hq => by cases hq) (noReply fun h he => by cases he))
  | turn ph _ hph =>
      refine Or.inl (h.of running keepWire keepQueue (noReply fun h he => ?_))
      rcases hph with rfl | rfl <;> cases he
  | sent msg queue _ hqueue =>
      refine Or.inl (h.of running (fun msg' hw => Or.inr ?_)
        (fun msg' hq => Or.inr (Or.inl (hqueue ▸ List.mem_cons_of_mem _ hq)))
        (noReply fun h he => by cases he))
      rcases List.mem_append.1 hw with hold | hnew
      · exact Or.inl hold
      · obtain rfl := List.mem_singleton.1 hnew
        exact Or.inr (hqueue ▸ List.mem_cons_self ..)
  | revoked => exact Or.inr (Or.inl rfl)
  | handle msg ph _ _ hreads =>
      refine Or.inl (h.of running keepWire keepQueue fun msg' failed hr => Or.inl ?_)
      cases hreads with
      | request _ _ _ _ _ u h₁ _ _ hfails =>
          exact silent_of_fails hfails (ControlPhase.handling.inj hr)
      | ping seq =>
          obtain ⟨rfl, -⟩ := Handling.reply.inj (ControlPhase.handling.inj hr)
          exact fun _ he => by cases he
      | ignore => cases hr
  | work h₁ h₂ _ _ _ hfails =>
      exact Or.inl (h.of running keepWire keepQueue fun msg failed hr =>
        Or.inl (silent_of_fails hfails (ControlPhase.handling.inj hr)))
  | publish h₁ key session msg pairs _ _ hmsg hpairs =>
      rcases h with hrunning | ⟨msg', hok, hw | hq | ⟨failed, hr⟩⟩
      · exact Or.inl (Or.inl hrunning)
      · exact Or.inl (Or.inr ⟨msg', hok, Or.inl hw⟩)
      · exact Or.inl (Or.inr ⟨msg', hok, Or.inr (Or.inl hq)⟩)
      · obtain ⟨rfl, -⟩ := Handling.reply.inj (ControlPhase.handling.inj hr)
        exact Or.inr (Or.inr ⟨rfl, (key, session), (hpairs _).2 (Or.inr rfl),
          backs_of_acknowledges hmsg hok⟩)
  | replied msg failed ph hcontrol hph =>
      refine Or.inl (h.of running keepWire (fun msg' hq => Or.inr ?_) fun msg' failed' hr => ?_)
      · rcases List.mem_append.1 hq with hold | hnew
        · exact Or.inl hold
        · obtain rfl := List.mem_singleton.1 hnew
          exact Or.inr ⟨failed, hcontrol⟩
      · rcases hph with rfl | ⟨session, rfl⟩
        · cases hr
        · cases ControlPhase.handling.inj hr
  | deleteDns =>
      exact Or.inl (h.of running keepWire keepQueue (noReply fun h he => by cases he))
  | close ph pairs queue _ hph => exact Or.inr (Or.inl hph)
  | push msg _ hmsg =>
      refine Or.inl (h.of running keepWire (fun msg' hq => ?_) keepReply)
      rcases List.mem_append.1 hq with hold | hnew
      · exact Or.inr (Or.inl hold)
      · obtain rfl := List.mem_singleton.1 hnew
        refine Or.inl fun registration he => ?_
        rcases hmsg with rfl | ⟨t, rfl⟩
        · exact classify_error he
        · cases he
  | authenticated _ _ _ _ _ _ hwire | unauthenticated _ _ _ _ _ hwire =>
      exact Or.inl (h.of (fun _ he => by cases he) (lessWire hwire) keepQueue keepReply)
  | registered id cfg registration msg wire _ hwire hmsg =>
      refine Or.inl (h.of (fun _ he => ?_) (lessWire hwire) keepQueue keepReply)
      obtain rfl := ClientPhase.running.inj he
      exact Or.inr ⟨msg, hmsg, Or.inl (hwire ▸ List.mem_cons_self ..)⟩
  | unregistered _ _ _ _ _ _ hwire =>
      exact Or.inl (h.of (fun _ he => by cases he) (lessWire hwire) keepQueue keepReply)
  | read _ _ _ _ hwire => exact Or.inl (h.of running (lessWire hwire) keepQueue keepReply)
  | ping => exact Or.inl (h.of running keepWire keepQueue keepReply)
  | timeOut | disconnect =>
      exact Or.inl (h.of (fun _ he => by cases he) keepWire keepQueue keepReply)

/-- In a loop that goes on, nothing is taken off the cleanup list. -/
theorem Move.pairs (m : k.Move config c e k') (hfresh : k.control.fresh = false)
    (hopen : k'.control.closing = false) {x : ReservationKey × TunnelSession} (hx : x ∈ k.pairs) :
    x ∈ k'.pairs := by
  cases m with
  | enterLoop _ hcontrol =>
      rw [hcontrol] at hfresh
      cases hfresh
  | publish _ key session msg pairs _ _ _ hpairs => exact (hpairs x).2 (Or.inl hx)
  | close ph _ _ _ hph =>
      rw [hph] at hopen
      cases hopen
  | _ => exact hx

/-- A loop that is over stays over, and one that has begun has begun. -/
theorem Move.phase (m : k.Move config c e k') :
    (k.control.closing = true → k'.control.closing = true) ∧
      (k.control.fresh = false → k'.control.fresh = false) := by
  have other (ph : ControlPhase) (hph : ph.closing = false) (hold : k.control = ph)
      (hclosing : k.control.closing = true) : False := by
    rw [hold, hph] at hclosing
    cases hclosing
  cases m with
  | accept hcontrol =>
      refine ⟨fun hclosing => (other _ rfl hcontrol hclosing).elim, fun hfresh => ?_⟩
      rw [hcontrol] at hfresh
      cases hfresh
  | enterLoop _ hcontrol | sent _ _ hcontrol | work _ _ hcontrol | publish _ _ _ _ _ hcontrol
  | deleteDns _ hcontrol =>
      exact ⟨fun hclosing => (other _ rfl hcontrol hclosing).elim, fun _ => rfl⟩
  | turn ph hcontrol hph =>
      refine ⟨fun hclosing => ?_, fun _ => ?_⟩
      · rcases hcontrol with hold | hold <;> exact (other _ rfl hold hclosing).elim
      · rcases hph with rfl | rfl <;> rfl
  | handle _ ph hcontrol _ hreads =>
      refine ⟨fun hclosing => (other _ rfl hcontrol hclosing).elim, fun _ => ?_⟩
      cases hreads <;> rfl
  | replied _ _ ph hcontrol hph =>
      refine ⟨fun hclosing => (other _ rfl hcontrol hclosing).elim, fun _ => ?_⟩
      rcases hph with rfl | ⟨_, rfl⟩ <;> rfl
  | revoked => exact ⟨fun _ => rfl, fun _ => rfl⟩
  | close ph _ _ _ hph => exact ⟨fun _ => hph, fun _ => ControlPhase.fresh_eq_false hph⟩
  | _ => exact ⟨id, id⟩

theorem Honest.move (h : k.Honest config) (m : k.Move config c e k') : k'.Honest config := by
  constructor
  · intro hfresh registration hpromised
    have hold : k.control.fresh = true := by
      by_contra hne
      rw [m.phase.2 (Bool.eq_false_iff.2 hne)] at hfresh
      cases hfresh
    rcases m.promised hpromised with hbefore | hclosing | ⟨hbegun, -⟩
    · exact h.fresh hold registration hbefore
    · rw [ControlPhase.fresh_eq_false hclosing] at hfresh
      cases hfresh
    · rw [hbegun] at hfresh
      cases hfresh
  · intro hopen registration hpromised
    have hbefore : k.control.closing = false := by
      by_contra hne
      rw [m.phase.1 (Bool.eq_true_of_not_eq_false hne)] at hopen
      cases hopen
    rcases m.promised hpromised with hold | hclosing | ⟨-, hbacks⟩
    · obtain ⟨x, hx, hack⟩ := h.backed hbefore registration hold
      refine ⟨x, m.pairs ?_ hopen hx, hack⟩
      by_contra hne
      exact h.fresh (Bool.eq_true_of_not_eq_false hne) registration hold
    · rw [hclosing] at hopen
      cases hopen
    · exact hbacks

/-- A client comes to a connection that the server has not accepted. -/
theorem Move.attached (m : k.Move config c e k') (h : k'.client.attached = true) :
    k.client.attached = true ∨ k.control = .vacant := by
  cases m with
  | connect _ _ _ _ hcontrol => exact Or.inr hcontrol
  | authenticated _ _ _ _ _ hclient | registered _ _ _ _ _ hclient =>
      rw [hclient]
      exact Or.inl rfl
  | unauthenticated | unregistered | timeOut | disconnect => cases h
  | _ => exact Or.inl h

end Conn

/-! ### The cleanup lists -/

namespace Roster

variable {v v' : Roster} {a : Lifecycle.Action} {c : ℕ}

/-- What comes on a cleanup list is published. -/
theorem Move.listed (m : v.Move a v') {x : ReservationKey × TunnelSession}
    (hx : x ∈ (v'.registered c).pairs) :
    x ∈ (v.registered c).pairs ∨ v'.live x.1 = some x.2 := by
  cases m with
  | stay | control | listener | listenerRemove | reaper | reap => exact Or.inl hx
  | enterLoop c' =>
      by_cases hc : c = c'
      · subst hc
        simp only [Function.update_self] at hx
        cases hx
      · simp only [Function.update_of_ne hc] at hx
        exact Or.inl hx
  | publish c' h key session msg reg listener _ _ _ _ _ _ _ hreg =>
      by_cases hc : c = c'
      · subst hc
        simp only [Function.update_self] at hx
        rcases (hreg x).1 hx with hold | rfl
        · exact Or.inl hold
        · exact Or.inr (Function.update_self ..)
      · simp only [Function.update_of_ne hc] at hx
        exact Or.inl hx
  | pass c' k reg _ hreg | cleanup c' k _ reg _ _ _ _ _ hreg =>
      by_cases hc : c = c'
      · subst hc
        simp only [Function.update_self] at hx
        exact Or.inl (hreg x hx)
      · simp only [Function.update_of_ne hc] at hx
        exact Or.inl hx

end Roster

namespace Lifecycle

variable {l l' : Lifecycle} {a : Action} {key : ReservationKey} {session : TunnelSession}

/-- The step takes a published session away, and its connection does not: the
reaper closes the tunnel, or its listener has returned. -/
inductive Evicts (l : Lifecycle) : Action → ReservationKey → TunnelSession → Prop
  | reapHttp (now : ℕ) (subdomain : String) (candidate session : TunnelSession)
      (rest : List (String × TunnelSession))
      (hreaper : l.tasks.reaper = .closeHttp now ((subdomain, candidate) :: rest))
      (hlive : l.state.published (.http subdomain) = some session)
      (harc : session.arc = candidate.arc) : Evicts l .reapHttp (.http subdomain) session
  | reapTcp (port : UInt16) (candidate session : TunnelSession)
      (rest : List (UInt16 × TunnelSession))
      (hreaper : l.tasks.reaper = .closeTcp ((port, candidate) :: rest))
      (hlive : l.state.published (.tcp port) = some session)
      (harc : session.arc = candidate.arc) : Evicts l .reapTcp (.tcp port) session
  | listenerRemove (r : ℕ) (port : UInt16) (own session : TunnelSession)
      (hlistener : l.tasks.listener r = .signalled port own)
      (hlive : l.state.published (.tcp port) = some session) (harc : session.arc = own.arc) :
      Evicts l (.listenerRemove r) (.tcp port) session

/-- A change of one slot takes away no other session than the one published there. -/
theorem published_of_free {s s' : ServerState} {freed : ReservationKey} {removed : TunnelSession}
    {o : Option Slot} (hold : s.slot freed = some (.live removed))
    (hslot : s'.slot = Function.update s.slot freed o)
    (hlive : s.published key = some session) :
    s'.published key = some session ∨ key = freed ∧ session = removed := by
  by_cases hkey : key = freed
  · subst hkey
    exact Or.inr ⟨rfl, Option.some.inj (hlive.symm.trans (ServerState.slot_eq_live.1 hold))⟩
  · refine Or.inl ((congrFun (ServerState.published_of_slot hslot) key).trans ?_)
    rw [Function.update_of_ne hkey]
    exact hlive

theorem evicts_of_reapHttp (hv : l.state.Valid) (h : l.reapHttp = some l')
    (hlive : l.state.published key = some session) :
    l'.state.published key = some session ∨ l.Evicts .reapHttp key session := by
  unfold reapHttp at h
  split at h
  · cases h
    exact Or.inl hlive
  · rename_i now subdomain candidate rest hph
    split at h
    · rename_i removed state hremoved
      cases h
      obtain ⟨hold, hslot⟩ := ServerState.slot_unregisterTunnelIfOwner hv hremoved
      obtain ⟨-, harc, -⟩ := ServerState.unregisterTunnelIfOwner_eq_some hremoved
      refine (published_of_free hold hslot hlive).imp_right ?_
      rintro ⟨rfl, rfl⟩
      exact .reapHttp now subdomain candidate session rest hph hlive harc
    · cases h
      exact Or.inl hlive
  · cases h

theorem evicts_of_reapTcp (h : l.reapTcp = some l') (hlive : l.state.published key = some session) :
    l'.state.published key = some session ∨ l.Evicts .reapTcp key session := by
  unfold reapTcp at h
  split at h
  · cases h
    exact Or.inl hlive
  · rename_i port candidate rest hph
    split at h
    · rename_i removed state hremoved
      cases h
      obtain ⟨hold, hslot⟩ := ServerState.slot_removeTcpTunnelIfOwner hremoved
      obtain ⟨-, harc, -⟩ := ServerState.removeTcpTunnelIfOwner_eq_some hremoved
      refine (published_of_free hold hslot hlive).imp_right ?_
      rintro ⟨rfl, rfl⟩
      exact .reapTcp port candidate session rest hph hlive harc
    · cases h
      exact Or.inl hlive
  · cases h

theorem evicts_of_listenerRemove {r : ℕ} (h : l.listenerRemove r = some l')
    (hlive : l.state.published key = some session) :
    l'.state.published key = some session ∨ l.Evicts (.listenerRemove r) key session := by
  unfold listenerRemove at h
  split at h
  · rename_i port own hph
    split at h
    · rename_i removed state hremoved
      cases h
      obtain ⟨hold, hslot⟩ := ServerState.slot_removeTcpTunnelIfOwner hremoved
      obtain ⟨-, harc, -⟩ := ServerState.removeTcpTunnelIfOwner_eq_some hremoved
      refine (published_of_free hold hslot hlive).imp_right ?_
      rintro ⟨rfl, rfl⟩
      exact .listenerRemove r port own session hph hlive harc
    · cases h
      exact Or.inl hlive
  · cases h

/-- **Who takes a published session away**: the cleanup of a connection that has
it on its list, the reaper, or the listener. -/
theorem published_of_step (hi : l.Inv) (h : l.step a = some l')
    (hlive : l.state.published key = some session) :
    l'.state.published key = some session ∨ l.Evicts a key session ∨
      ∃ c own, (l.tasks.control c).closing = true ∧ (key, own) ∈ (l.registered c).pairs ∧
        session.arc = own.arc := by
  have hmove := (step_rostered hi h).move
  generalize hv' : l'.roster = v' at hmove
  have hlive' : l'.state.published = v'.live := by rw [← hv']; rfl
  rw [hlive']
  cases hmove with
  | stay | control | enterLoop | pass | listener | reaper => exact Or.inl hlive
  | publish c h₁ new session₁ msg reg listener _ _ _ _ hfree =>
      refine Or.inl ?_
      by_cases hkey : key = new
      · subst hkey
        cases hlive.symm.trans hfree
      · exact (Function.update_of_ne hkey _ _).trans hlive
  | cleanup c k ph reg old own removed hph _ _ hown hremoved harc =>
      by_cases hkey : key = old
      · subst hkey
        obtain rfl := Option.some.inj (hlive.symm.trans hremoved)
        exact Or.inr (Or.inr ⟨c, own, by rw [show l.tasks.control c = _ from hph]; rfl, hown, harc⟩)
      · exact Or.inl ((Function.update_of_ne hkey _ _).trans hlive)
  | listenerRemove r _ _ _ ha =>
      subst ha
      exact (hlive' ▸ evicts_of_listenerRemove h hlive).imp_right Or.inl
  | reap _ _ _ _ ha =>
      rcases ha with rfl | rfl
      · exact (hlive' ▸ evicts_of_reapHttp hi.1 h hlive).imp_right Or.inl
      · exact (hlive' ▸ evicts_of_reapTcp h hlive).imp_right Or.inl

end Lifecycle

namespace World

variable {config : Config} {sessionId : ℕ → String} {w w' : World} {a : Action} {c : ℕ}

/-- The control connection is up on both sides: the client is there, and the
server neither shuts down nor has left the control loop. -/
def Connected (w : World) (c : ℕ) : Prop :=
  (w.client c).attached = true ∧ w.server.cancelled = false ∧
    (w.server.life.tasks.control c).closing = false

/-- The step takes no tunnel away from a connection that is up. -/
def Keeps (w : World) (a : Action) : Prop :=
  ∀ b key session, a = .server (.task b) → w.server.life.Evicts b key session →
    ¬ w.Connected session.conn

/-- What is on the cleanup list of a connection that is up is published. -/
def Kept (w : World) (c : ℕ) : Prop :=
  w.Connected c → ∀ x ∈ (w.server.life.registered c).pairs,
    w.server.life.state.published x.1 = some x.2

/-- A step of the server is one of the lifecycle or leaves the lifecycle alone,
and takes back no shutdown. -/
theorem server_step_cases {s s' : Server} {b : Server.Action} (h : s.step b = some s') :
    ((∃ b', b = .task b' ∧ s.life.step b' = some s'.life) ∨ s'.life = s.life) ∧
      (s.cancelled = true → s'.cancelled = true) := by
  cases Server.step_cases h with
  | task b' life _ hlife => exact ⟨Or.inl ⟨b', rfl, hlife⟩, id⟩
  | cancel => exact ⟨Or.inr rfl, fun _ => rfl⟩
  | _ => exact ⟨Or.inr rfl, id⟩

theorem Kept.step (r : (machine config sessionId).Reachable w) (h : w.Kept c) (hkeeps : w.Keeps a)
    (hs : w.step sessionId a = some w') : w'.Kept c := by
  rintro ⟨hattached, hcancelled, hopen⟩ x hx
  obtain ⟨e, m, -⟩ := step_moves r hs c
  have hbefore : (w.server.life.tasks.control c).closing = false := by
    by_contra hne
    have := m.phase.1 (Bool.eq_true_of_not_eq_false hne)
    rw [show (w'.conn c).control = w'.server.life.tasks.control c from rfl, hopen] at this
    cases this
  have hlife := Server.life_reachable (server_reachable r)
  have hi := Lifecycle.inv_of_reachable hlife
  have hroster := Lifecycle.roster_inv_of_reachable hlife
  have up (hwas : w.server.cancelled = false) (hold : x ∈ (w.server.life.registered c).pairs) :
      w.Connected c := by
    refine ⟨?_, hwas, hbefore⟩
    rcases m.attached hattached with hclient | hvacant
    · exact hclient
    · have hnil := hroster.fresh c
        (by rw [show w.server.life.roster.control c = _ from hvacant]; rfl)
      rw [show w.server.life.roster.registered c = w.server.life.registered c from rfl] at hnil
      rw [hnil] at hold
      cases hold
  rcases step_server hs with ⟨b, rfl, hserve⟩ | ⟨-, hserver⟩
  · obtain ⟨-, s', hstep, rfl⟩ := serve_eq_some hserve
    obtain ⟨hcase, hmono⟩ := server_step_cases hstep
    have hwas : w.server.cancelled = false := by
      by_contra hne
      have := hmono (Bool.eq_true_of_not_eq_false hne)
      rw [show s'.cancelled = false from hcancelled] at this
      cases this
    rcases hcase with ⟨b', rfl, hb⟩ | hsame
    · rcases (Lifecycle.step_rostered hi hb).move.listed hx with hold | hnew
      · have hconn : x.2.conn = c := hroster.conn c x hold
        rcases Lifecycle.published_of_step hi hb (h (up hwas hold) x hold) with
          hlive | hevicts | ⟨c', own, hclosing, hown, harc⟩
        · exact hlive
        · exact absurd (hconn ▸ up hwas hold) (hkeeps b' x.1 x.2 rfl hevicts)
        · have hsame := hroster.unique c c' x (x.1, own) hold hown harc
          have hc : x.2.conn = c' := hsame ▸ hroster.conn c' (x.1, own) hown
          rw [← hc, hconn, hbefore] at hclosing
          cases hclosing
      · exact hnew
    · have hx' : x ∈ (s'.life.registered c).pairs := hx
      rw [hsame] at hx'
      refine (congrArg (fun l : Lifecycle => l.state.published x.1) hsame).trans ?_
      exact h (up hwas hx') x hx'
  · rw [hserver] at hx hcancelled ⊢
    exact h (up hcancelled hx) x hx

theorem honest_of_reachable (r : (machine config sessionId).Reachable w) (c : ℕ) :
    (w.conn c).Honest config := by
  refine r.invariant (I := fun w => (w.conn c).Honest config) ?_ fun w a w' r h _ hs => ?_
  · rintro w rfl
    have hnot (registration : TunnelRegistration) :
        ¬ ((new config).conn c).Promised registration := by
      rintro (he | ⟨msg, -, hw | hq | ⟨failed, hr⟩⟩)
      · cases he
      · cases hw
      · cases hq
      · cases hr
    exact ⟨fun _ => hnot, fun _ registration hp => absurd hp (hnot registration)⟩
  · obtain ⟨e, m, -⟩ := step_moves r hs c
    rw [config_of_reachable r] at m
    exact h.move m

theorem kept_of_reached (r : (machine config sessionId).ReachedBy Keeps w) (c : ℕ) : w.Kept c := by
  refine r.invariant (I := fun w => w.Kept c) ?_ fun w a w' r h hkeeps hs =>
    h.step r.reachable hkeeps hs
  rintro w rfl - x hx
  cases hx

/-- **Client and server agree.**  In runs that take no tunnel away from a
connection that is up, a client in `run_session` has a tunnel: one is published,
for its connection, under the name or port whose URL the client was given,
unless the server shuts down or is closing the connection. -/
theorem registration_agreed (r : (machine config sessionId).ReachedBy Keeps w) (c : ℕ)
    {registration : TunnelRegistration} (hclient : w.client c = .running registration) :
    w.server.cancelled = true ∨ (w.server.life.tasks.control c).closing = true ∨
      ∃ key session, w.server.life.state.published key = some session ∧ session.conn = c ∧
        Acknowledges config session
          (.tunnelAck session.id registration.publicUrl registration.tunnelType) key := by
  by_cases hcancelled : w.server.cancelled = true
  · exact Or.inl hcancelled
  by_cases hclosing : (w.server.life.tasks.control c).closing = true
  · exact Or.inr (Or.inl hclosing)
  refine Or.inr (Or.inr ?_)
  have hopen := Bool.eq_false_iff.2 hclosing
  obtain ⟨x, hx, hack⟩ := (honest_of_reachable r.reachable c).backed hopen registration
    (Or.inl hclient)
  have hup : w.Connected c := by
    refine ⟨?_, Bool.eq_false_iff.2 hcancelled, hopen⟩
    rw [hclient]
    rfl
  have hroster := Lifecycle.roster_inv_of_reachable
    (Server.life_reachable (server_reachable r.reachable))
  exact ⟨x.1, x.2, kept_of_reached r c hup x hx, hroster.conn c x hx, hack⟩

theorem settled_kept : (machine .default fun _ => "s").ReachedBy Keeps settled := by
  refine Machine.ReachedBy.run (.init rfl) (fun a ha t b key session he hevicts => ?_)
    (Option.some_get settledRun_isSome).symm
  subst he
  simp only [publishRun, settleRun, Server.registerHttpRun, List.drop_succ_cons, List.drop_zero,
    List.map_cons, List.map_nil, List.cons_append, List.nil_append, List.mem_cons,
    List.not_mem_nil, or_false] at ha
  cases hevicts <;> simp at ha

theorem registration_agreed_settled : ∃ key session,
    settled.server.life.state.published key = some session ∧ session.conn = 0 ∧
      Acknowledges .default session (.tunnelAck session.id
        ("https://" ++ "web" ++ "." ++ Config.default.server.domain) .http) key := by
  have hclient : settled.client 0 = .running
      { publicUrl := "https://" ++ "web" ++ "." ++ Config.default.server.domain
        tunnelType := .http } := by
    decide
  rcases registration_agreed settled_kept 0 hclient with hcancelled | hclosing | hagreed
  · exact absurd hcancelled (by decide)
  · exact absurd hclosing (by decide)
  · exact hagreed

/-- The tunnel is idle for five minutes, the reaper closes it, and the client
reads the notice. -/
def idleRun : List Action :=
  ([.task (.enterSelect 0), .tick (300 * 10 ^ 9), .task (.reapTick (300 * 10 ^ 9)),
    .loadStreams 0, .task (.reapFoundHttp "web"), .task .reapHttpCollected, .task .reapHttp,
    .task .reapNotified, .task .reapDns, .task (.continueLoop 0 .sent)].map .server) ++
    [.readServerMsg 0]

theorem desertedRun_isSome : ((machine .default fun _ => "s").run (new .default)
    (publishRun ++ (settleRun ++ idleRun))).isSome = true := by
  decide +kernel

def deserted : World :=
  ((machine .default fun _ => "s").run (new .default)
    (publishRun ++ (settleRun ++ idleRun))).get desertedRun_isSome

theorem deserted_reachable : (machine .default fun _ => "s").Reachable deserted :=
  Machine.reachable_get (.init rfl) desertedRun_isSome

/-- Nothing is on its way, both sides keep the connection, and the client has no
tunnel. -/
theorem deserted_unregistered :
    deserted.client 0 = .running
        { publicUrl := "https://" ++ "web" ++ "." ++ Config.default.server.domain
          tunnelType := .http } ∧
      deserted.wire 0 = [] ∧ deserted.inbox 0 = [] ∧ (deserted.server.channels 0).queue = [] ∧
        deserted.Connected 0 ∧ deserted.server.life.state.tunnels.entries = [] ∧
          deserted.server.life.state.tcpTunnels.entries = [] := by
  refine ⟨?_, ?_, ?_, ?_, ⟨?_, ?_, ?_⟩, ?_, ?_⟩ <;> decide +kernel

end World
end Rgrok
