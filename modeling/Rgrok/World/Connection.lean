/-
# One connection and its two ends

A `Conn` is what a `World` holds about one connection.  `Conn.Move` lists all
that can happen to it, and `World.Moves` says that a step is one of these moves,
with what it means to the client (`World.Causes`).  Every step of the world is
one (`ConnectionSteps.lean`).
-/

import Rgrok.Server.RequestSteps
import Rgrok.World.World

namespace Rgrok

/-- What `handle_control_msg` makes of a message, up to its first access to
shared state. -/
inductive Reads (c : ℕ) : ClientMsg → ControlPhase → Prop
  | request (id : String) (tunnelType : TunnelType) (subdomain : Option String)
      (basicAuth : Option BasicAuthConfig) (options : TunnelOptions) (u : Setup) (h : Handling)
      (hid : u.id = id) (hserves : h.Serves c u) (hfails : h.Fails) (hdue : h.answering = true) :
      Reads c (.tunnelRequest id tunnelType subdomain basicAuth options) (.handling h)
  | ping (seq : UInt64) : Reads c (.ping seq) (.handling (.reply (.pong seq) none))
  | ignore (msg : ClientMsg) (hmsg : msg.answered = false) : Reads c msg .loopTop

namespace Lifecycle

variable {l l' : Lifecycle} {a : Action} {c : ℕ} {config : Config}

theorem handleControlMsg_reads {msg : ClientMsg} {draw : SubdomainDraw}
    (hs : l.handleControlMsg c msg draw = some l') :
    l.tasks.control c = .select ∧ l'.registered = l.registered ∧
      Reads c msg (l'.tasks.control c) := by
  unfold handleControlMsg at hs
  split at hs
  · rename_i hph
    refine ⟨hph, ?_⟩
    have start (id : String) (tunnelType : TunnelType) (subdomain : Option String) (name : String)
        (basicAuth : Option BasicAuthConfig) (options : TunnelOptions)
        (hl : l.startSetup c id tunnelType name basicAuth options = l') :
        l'.registered = l.registered ∧
          Reads c (.tunnelRequest id tunnelType subdomain basicAuth options)
            (l'.tasks.control c) := by
      refine ⟨by rw [← hl]; rfl, ?_⟩
      have hnew : l'.tasks.control c = .handling (.reserve
          { arc := l.nextArc
            id := id
            tunnelType := tunnelType
            subdomain := name
            basicAuth := basicAuth
            options := options }) := by
        rw [← hl]
        exact Tasks.control_setControl_self ..
      rw [hnew]
      exact .request id tunnelType subdomain basicAuth options _ _ rfl rfl trivial rfl
    split at hs
    · rename_i id tunnelType subdomain basicAuth options
      split at hs
      · rename_i name
        split at hs
        · rename_i e _
          obtain rfl := Option.some.inj hs
          refine ⟨rfl, ?_⟩
          rw [setControl, Tasks.control_setControl_self]
          exact .request id tunnelType (some name) basicAuth options
            { arc := l.nextArc
              id := id
              tunnelType := tunnelType
              subdomain := name
              basicAuth := basicAuth
              options := options } _ rfl (fun session he => by cases he) ⟨_, _, rfl⟩ rfl
        · exact start id tunnelType _ name basicAuth options (Option.some.inj hs)
      · exact start id tunnelType _ _ basicAuth options (Option.some.inj hs)
    · rename_i seq
      obtain rfl := Option.some.inj hs
      refine ⟨rfl, ?_⟩
      rw [setControl, Tasks.control_setControl_self]
      exact .ping seq
    · obtain rfl := Option.some.inj hs
      refine ⟨rfl, ?_⟩
      rw [setControl, Tasks.control_setControl_self]
      exact .ignore _ rfl
    · obtain rfl := Option.some.inj hs
      refine ⟨rfl, ?_⟩
      rw [setControl, Tasks.control_setControl_self]
      exact .ignore _ rfl
  · cases hs

/-- `handle_control_msg` is at work for a request, and its answer is to be an
`Error` until the tunnel is published. -/
def Served (l : Lifecycle) (c : ℕ) : Prop :=
  ∀ h, l.tasks.control c = .handling h → h.working = true → (∃ u, h.Serves c u) ∧ h.Fails

theorem Served.step (hi : l.Inv) (h : l.Served c) (hs : l.step a = some l') : l'.Served c := by
  intro h' hph' hworking'
  by_cases ha : a.task = .control c
  · by_cases hold : ∃ h₀, l.tasks.control c = .handling h₀ ∧ h₀.working = true
    · obtain ⟨h₀, hph, hworking⟩ := hold
      obtain ⟨⟨u, hserves⟩, hfails⟩ := h h₀ hph hworking
      cases request_step hi.2 hs ha hph hserves hfails hworking with
      | spares h₁ _ hph₁ hserves₁ hfails₁ =>
          obtain rfl := ControlPhase.handling.inj (hph₁.symm.trans hph')
          exact ⟨⟨u, hserves₁⟩, hfails₁⟩
      | publishes key session msg _ _ _ hph₁ =>
          obtain rfl := ControlPhase.handling.inj (hph₁.symm.trans hph')
          cases hworking'
    · cases (step_rostered hi hs).move.conn c with
      | stay hcontrol _ =>
          change l'.tasks.control c = l.tasks.control c at hcontrol
          exact absurd ⟨h', hcontrol ▸ hph', hworking'⟩ hold
      | control hstep _ =>
          change ControlStep c a (l.tasks.control c) (l'.tasks.control c) at hstep
          generalize hph : l.tasks.control c = ph at hstep
          generalize hnew : l'.tasks.control c = ph' at hstep
          cases hstep with
          | request id tunnelType subdomain basicAuth options draw h₁ =>
              obtain rfl := ControlPhase.handling.inj (hnew.symm.trans hph')
              have hread : l.handleControlMsg c
                  (.tunnelRequest id tunnelType subdomain basicAuth options) draw = some l' := hs
              obtain ⟨-, -, hreads⟩ := handleControlMsg_reads hread
              rw [hph'] at hreads
              cases hreads with
              | request _ _ _ _ _ u _ _ hserves hfails _ => exact ⟨⟨u, hserves⟩, hfails⟩
          | setup _ h₀ _ _ hworking => exact absurd ⟨h₀, hph, hworking⟩ hold
          | ping | repliedFailed =>
              obtain rfl := ControlPhase.handling.inj (hnew.symm.trans hph')
              cases hworking'
          | cleanup _ _ _ hclosing =>
              obtain rfl := hnew.symm.trans hph'
              cases hclosing
          | accept | enterSelect | continueLoop | breakLoop | ignore | replied
          | deleteFailedDns => cases hnew.symm.trans hph'
      | enterLoop _ _ hnew _ => cases (hnew : l'.tasks.control c = _).symm.trans hph'
      | publish h₀ _ _ _ _ hph hworking => exact absurd ⟨h₀, hph, hworking⟩ hold
      | closing _ hnew _ =>
          change (l'.tasks.control c).closing = true at hnew
          rw [hph'] at hnew
          cases hnew
  · rw [control_frame hs ha] at hph'
    exact h h' hph' hworking'

theorem served_of_reachable (r : (machine config).Reachable l) (c : ℕ) : l.Served c := by
  refine r.invariant (I := fun l => l.Served c) ?_ fun l a l' r h _ hs =>
    h.step (inv_of_reachable r) hs
  rintro l rfl h hph
  cases hph

end Lifecycle

/-- A connection: its client, its control task with the tunnels it has to clean
up and the messages queued for it, what is in flight, and what happened. -/
structure Conn where
  client : ClientPhase
  control : ControlPhase
  pairs : List (ReservationKey × TunnelSession)
  queue : List ServerMsg
  inbox : List ClientMsg
  wire : List ServerMsg
  asked : Option ClientMsg
  request : Option ClientMsg
  first : Option ServerMsg
  answers : List (Option ClientMsg × ServerMsg)

/-- The connection `c`. -/
def World.conn (w : World) (c : ℕ) : Conn where
  client := w.client c
  control := w.server.life.tasks.control c
  pairs := (w.server.life.registered c).pairs
  queue := (w.server.channels c).queue
  inbox := w.inbox c
  wire := w.wire c
  asked := w.asked c
  request := w.request c
  first := w.first c
  answers := w.answers c

namespace Conn

/-- What a move means to the client: somebody else than the control task queues
a message, the session is told that its token is revoked, or neither. -/
inductive Event
  | push
  | revoke
  | other

/-- All that can happen to the connection `c`. -/
inductive Move (config : Config) (c : ℕ) (k : Conn) : Event → Conn → Prop
  | stay : Move config c k .other k
  | connect (cfg : TunnelConfig) (token version : String) (hclient : k.client = .other)
      (hcontrol : k.control = .vacant) :
      Move config c k .other
        { k with client := .authenticating cfg, inbox := [.auth token version] }
  | reject (reason : String) (cfg : TunnelConfig) (token version : String)
      (inbox : List ClientMsg) (hcontrol : k.control = .vacant)
      (hclient : k.client = .authenticating cfg) (hinbox : k.inbox = .auth token version :: inbox) :
      Move config c k .other { k with inbox := inbox, wire := k.wire ++ [.authErr reason] }
  | accept (hcontrol : k.control = .vacant)
      (hinbox : k.client = .other ∨ ∃ token version inbox, k.inbox = .auth token version :: inbox) :
      Move config c k .other { k with control := .authed, inbox := k.inbox.tail }
  | enterLoop (sessionId : String) (hcontrol : k.control = .authed) :
      Move config c k .other { k with
        control := .loopTop
        pairs := []
        queue := []
        wire := k.wire ++ [.authOk sessionId] }
  /-- The loop goes round. -/
  | turn (ph : ControlPhase) (hcontrol : k.control = .loopTop ∨ k.control = .select)
      (hph : ph = .loopTop ∨ ph = .select) : Move config c k .other { k with control := ph }
  | sent (msg : ServerMsg) (queue : List ServerMsg) (hcontrol : k.control = .select)
      (hqueue : k.queue = msg :: queue) :
      Move config c k .other
        { k with control := .loopTop, queue := queue, wire := k.wire ++ [msg] }
  | revoked (hcontrol : k.control = .loopTop ∨ k.control = .select) :
      Move config c k .revoke { k with
        control := .cleanup .http
        wire := k.wire ++ [World.revokedNotice] }
  | handle (msg : ClientMsg) (ph : ControlPhase) (hcontrol : k.control = .select)
      (hinbox : k.client = .other ∨ k.inbox.head? = some msg) (hph : Reads c msg ph) :
      Move config c k .other { k with control := ph, inbox := k.inbox.tail, asked := some msg }
  /-- `handle_control_msg` goes on. -/
  | work (h h' : Handling) (hcontrol : k.control = .handling h) (hworking : h.working = true)
      (hdue : h'.answering = true) (hfails : h'.Fails) :
      Move config c k .other { k with control := .handling h' }
  | publish (h : Handling) (key : ReservationKey) (session : TunnelSession) (msg : ServerMsg)
      (pairs : List (ReservationKey × TunnelSession)) (hcontrol : k.control = .handling h)
      (hworking : h.working = true) (hmsg : Acknowledges config session msg key)
      (hpairs : ∀ x, x ∈ pairs ↔ x ∈ k.pairs ∨ x = (key, session)) :
      Move config c k .other
        { k with control := .handling (.reply msg none), pairs := pairs }
  | replied (msg : ServerMsg) (failed : Option TunnelSession) (ph : ControlPhase)
      (hcontrol : k.control = .handling (.reply msg failed))
      (hph : ph = .loopTop ∨ ∃ session, ph = .handling (.deleteDns session)) :
      Move config c k .other { k with
        control := ph
        queue := k.queue ++ [msg]
        answers := k.answers ++ [(k.asked, msg)] }
  | deleteDns (session : TunnelSession) (hcontrol : k.control = .handling (.deleteDns session)) :
      Move config c k .other { k with control := .loopTop }
  /-- The loop ends, or has ended. -/
  | close (ph : ControlPhase) (pairs : List (ReservationKey × TunnelSession))
      (queue : List ServerMsg)
      (hcontrol : k.control.closing = true ∨ k.control = .loopTop ∨ k.control = .select)
      (hph : ph.closing = true) (hpairs : ∀ x ∈ pairs, x ∈ k.pairs) :
      Move config c k .other { k with control := ph, pairs := pairs, queue := queue }
  /-- A request or the reaper queues a message for a session of the connection. -/
  | push (msg : ServerMsg) (hpairs : k.pairs ≠ [])
      (hmsg : msg = Server.idleNotice ∨ ∃ t : Ticket, msg = t.streamOpen) :
      Move config c k .push { k with queue := k.queue ++ [msg] }
  | authenticated (cfg : TunnelConfig) (id sessionId : String) (msg : ServerMsg)
      (wire : List ServerMsg) (hclient : k.client = .authenticating cfg)
      (hwire : k.wire = msg :: wire) (hmsg : classifyAuthResponse msg = .ok sessionId) :
      Move config c k .other { k with
        client := .registering id cfg
        wire := wire
        inbox := k.inbox ++ [cfg.request id]
        request := some (cfg.request id) }
  | unauthenticated (cfg : TunnelConfig) (failure : SessionFailure) (msg : ServerMsg)
      (wire : List ServerMsg) (hclient : k.client = .authenticating cfg)
      (hwire : k.wire = msg :: wire) (hmsg : classifyAuthResponse msg = .error failure) :
      Move config c k .other { k with client := .failed failure, wire := wire }
  | registered (id : String) (cfg : TunnelConfig) (registration : TunnelRegistration)
      (msg : ServerMsg) (wire : List ServerMsg) (hclient : k.client = .registering id cfg)
      (hwire : k.wire = msg :: wire)
      (hmsg : classifyRegistrationResponse msg = .ok registration) :
      Move config c k .other
        { k with client := .running registration, wire := wire, first := some msg }
  | unregistered (id : String) (cfg : TunnelConfig) (failure : SessionFailure)
      (msg : ServerMsg) (wire : List ServerMsg) (hclient : k.client = .registering id cfg)
      (hwire : k.wire = msg :: wire)
      (hmsg : classifyRegistrationResponse msg = .error failure) :
      Move config c k .other
        { k with client := .failed failure, wire := wire, first := some msg }
  | timeOut (error : String) (hclient : (∃ cfg, k.client = .authenticating cfg) ∨
        ∃ id cfg, k.client = .registering id cfg) :
      Move config c k .other { k with client := .failed (.transient error) }
  | read (registration : TunnelRegistration) (msg : ServerMsg) (wire : List ServerMsg)
      (hclient : k.client = .running registration) (hwire : k.wire = msg :: wire) :
      Move config c k .other { k with wire := wire }
  | ping (registration : TunnelRegistration) (seq : UInt64)
      (hclient : k.client = .running registration) :
      Move config c k .other { k with inbox := k.inbox ++ [.ping seq] }
  | disconnect (hclient : (∃ cfg, k.client = .authenticating cfg) ∨
        (∃ id cfg, k.client = .registering id cfg) ∨
          ∃ registration, k.client = .running registration) :
      Move config c k .other { k with client := .disconnected }

theorem Move.of_eq {config : Config} {c : ℕ} {k k₁ k' : Conn} {e : Event}
    (m : k.Move config c e k₁) (h : k' = k₁) : k.Move config c e k' :=
  h ▸ m

end Conn

namespace World

/-- A step in which a request or the reaper comes to queue a message for the
connection `c`. -/
def Pushes (w : World) (c : ℕ) (a : Action) : Prop :=
  (∃ r t, a = .server (.stream (.send r)) ∧ w.server.streams.request r = .sending t ∧
      t.session.conn = c) ∨
    ∃ removed, a = .server (.task .reapNotified) ∧
      w.server.life.tasks.reaper.removed = some removed ∧ removed.conn = c

/-- The step is what the event says. -/
def Causes (w : World) (c : ℕ) (a : Action) : Conn.Event → Prop
  | .push => w.Pushes c a
  | .revoke => a = .server (.task (.breakLoop c .revoked))
  | .other => True

/-- The step is a move of the connection. -/
def Moves (w : World) (c : ℕ) (a : Action) (w' : World) : Prop :=
  ∃ e, (w.conn c).Move w.server.life.state.config c e (w'.conn c) ∧ w.Causes c a e

theorem Moves.other {w w' : World} {c : ℕ} {a : Action} {k : Conn}
    (m : (w.conn c).Move w.server.life.state.config c .other k)
    (h : w'.conn c = k) : w.Moves c a w' :=
  ⟨.other, m.of_eq h, trivial⟩

end World
end Rgrok
