/-
# The registration handshake

`handle_control_msg` publishes a tunnel before it queues the `TunnelAck`, and
public requests and the idle reaper queue their messages in the same channel.
So the first message after a `TunnelRequest` is the answer to it only in runs
whose steps are `Undisturbed`: nothing is queued for a connection between the
publication and the acknowledgement, and no session is revoked before its client
has read the `AuthOk` and has an answer on its way.  `handshake_answered` is the
result; `overtaken` is a run with one visitor too early.

`Conn.Authenticating` and `Conn.Registering` say what is on the way between the
two ends in each phase of the control task, and each has one lemma about the
moves of a connection.
-/

import Rgrok.World.ConnectionSteps

namespace Rgrok

/-- The client is past `authenticate_and_register`. -/
def ClientPhase.past : ClientPhase → Bool
  | .running _ | .failed _ | .disconnected => true
  | .other | .authenticating _ | .registering _ _ => false

namespace Conn

variable {config : Config} {c : ℕ} {k k' : Conn} {e : Event} {cfg cfg' : TunnelConfig}
  {id id' : String} {request : ClientMsg} {msg : ServerMsg} {wire : List ServerMsg}

/-- The client waits for the answer to its request, and `handle_control_msg` has
yet to queue it. -/
def Awaiting (k : Conn) : Prop :=
  (∃ id cfg, k.client = .registering id cfg) ∧
    ∃ h, k.control = .handling h ∧ h.answering = true

/-- The client authenticates, or waits for the answer to its request and nothing
is on the wire. -/
def Unanswered (k : Conn) : Prop :=
  (∃ cfg, k.client = .authenticating cfg) ∨
    (∃ id cfg, k.client = .registering id cfg) ∧ k.wire = []

/-- The event does not come between a request and its answer. -/
def Spared (k : Conn) : Event → Prop
  | .push => ¬ k.Awaiting
  | .revoke => ¬ k.Unanswered
  | .other => True

/-! ### Where the two ends stand -/

/-- An answer: an `Error`, and no tunnel is registered, or a `TunnelAck`. -/
def Outcome (msg : ServerMsg) (pairs : List (ReservationKey × TunnelSession)) : Prop :=
  (∃ code text, msg = .error code text) ∧ pairs = [] ∨
    ∃ id publicUrl tunnelType, msg = .tunnelAck id publicUrl tunnelType

/-- The server has greeted the client, and done nothing else for it. -/
structure Welcomed (k : Conn) : Prop where
  inbox : k.inbox = []
  wire : ∃ sessionId, k.wire = [.authOk sessionId]
  queue : k.queue = []
  pairs : k.pairs = []

/-- A client that authenticates. -/
def Authenticating (k : Conn) : Prop :=
  match k.control with
  | .vacant => k.inbox.tail = [] ∧ k.wire = [] ∨ k.inbox = [] ∧ ∃ reason, k.wire = [.authErr reason]
  | .authed => k.inbox = [] ∧ k.wire = []
  | .loopTop | .select => k.Welcomed
  | .handling _ => False
  | .cleanup _ | .done => ∃ sessionId, k.wire = [.authOk sessionId]

/-- The request is on its way. -/
structure Sent (request : ClientMsg) (k : Conn) : Prop where
  inbox : k.inbox = [request]
  wire : k.wire = []
  queue : k.queue = []
  pairs : k.pairs = []
  answers : k.answers = []

/-- The request is being handled. -/
structure Handled (request : ClientMsg) (k : Conn) (h : Handling) : Prop where
  outcome : h.Fails ∧ k.pairs = [] ∨ ∃ msg, h = .reply msg none ∧ Outcome msg k.pairs
  asked : k.asked = some request
  inbox : k.inbox = []
  wire : k.wire = []
  queue : k.queue = []
  answers : k.answers = []

/-- The answer is the first message on its way to the client. -/
def Answered (request : ClientMsg) (k : Conn) (flight : List ServerMsg) : Prop :=
  k.inbox = [] ∧ ∃ msg rest, flight = msg :: rest ∧ k.answers = [(some request, msg)] ∧
    Outcome msg k.pairs

/-- A client that waits for the answer to its request. -/
def Registering (request : ClientMsg) (k : Conn) : Prop :=
  match k.control with
  | .vacant | .authed => False
  | .loopTop | .select => k.Sent request ∨ k.Answered request (k.wire ++ k.queue)
  | .handling h =>
      h.answering = true ∧ k.Handled request h ∨
        h.answering = false ∧ k.Answered request (k.wire ++ k.queue)
  | .cleanup _ | .done => k.wire = [] ∨ k.Answered request k.wire

theorem Outcome.shorten {pairs pairs' : List (ReservationKey × TunnelSession)}
    (h : Outcome msg pairs) (hpairs : ∀ x ∈ pairs', x ∈ pairs) : Outcome msg pairs' := by
  refine h.imp_left fun ⟨herror, hnil⟩ => ⟨herror, ?_⟩
  refine List.eq_nil_iff_forall_not_mem.2 fun x hx => ?_
  rw [hnil] at hpairs
  exact absurd (hpairs x hx) List.not_mem_nil

theorem authenticating_of_closing (h : k.control.closing = true) :
    k.Authenticating ↔ ∃ sessionId, k.wire = [.authOk sessionId] := by
  rw [Authenticating]
  generalize k.control = ph at h
  cases ph with
  | cleanup | done => exact Iff.rfl
  | _ => cases h

theorem registering_of_closing (h : k.control.closing = true) :
    k.Registering request ↔ k.wire = [] ∨ k.Answered request k.wire := by
  rw [Registering]
  generalize k.control = ph at h
  cases ph with
  | cleanup | done => exact Iff.rfl
  | _ => cases h

/-- In its loop, or past it. -/
theorem authenticating_of_loop (h : k.control = .loopTop ∨ k.control = .select) :
    k.Authenticating ↔ k.Welcomed := by
  rcases h with h | h <;> rw [Authenticating, h]

theorem registering_of_loop (h : k.control = .loopTop ∨ k.control = .select) :
    k.Registering request ↔ k.Sent request ∨ k.Answered request (k.wire ++ k.queue) := by
  rcases h with h | h <;> rw [Registering, h]

/-- While the client authenticates. -/
theorem Authenticating.move (h : k.Authenticating) (hclient : k.client = .authenticating cfg)
    (hspared : k.Spared e) (m : k.Move config c e k')
    (hclient' : k'.client = .authenticating cfg') : k'.Authenticating := by
  cases m with
  | stay => exact h
  | connect _ _ _ hother => cases hclient.symm.trans hother
  | reject reason _ _ _ inbox hcontrol _ hinbox =>
      rw [Authenticating, hcontrol] at h
      rcases h with ⟨htail, hwire⟩ | ⟨hnil, -⟩
      · rw [hinbox] at htail
        simp only [Authenticating, hcontrol, hwire, List.nil_append]
        exact Or.inr ⟨htail, reason, rfl⟩
      · cases hinbox.symm.trans hnil
  | accept hcontrol hinbox =>
      rw [Authenticating, hcontrol] at h
      rcases h with h | ⟨hnil, -⟩
      · exact h
      · rcases hinbox with hother | ⟨_, _, _, hinbox⟩
        · cases hclient.symm.trans hother
        · cases hinbox.symm.trans hnil
  | enterLoop sessionId hcontrol =>
      rw [Authenticating, hcontrol] at h
      refine (authenticating_of_loop (Or.inl rfl)).2 ⟨h.1, ⟨sessionId, ?_⟩, rfl, rfl⟩
      simp only [h.2, List.nil_append]
  | turn ph hcontrol hph =>
      have hwelcomed := (authenticating_of_loop hcontrol).1 h
      exact (authenticating_of_loop hph).2 ⟨hwelcomed.1, hwelcomed.2, hwelcomed.3, hwelcomed.4⟩
  | sent msg queue hcontrol hqueue =>
      have hwelcomed := (authenticating_of_loop (Or.inr hcontrol)).1 h
      cases hqueue.symm.trans hwelcomed.queue
  | revoked => exact absurd (Or.inl ⟨cfg, hclient⟩) hspared
  | handle msg ph hcontrol hinbox =>
      have hwelcomed := (authenticating_of_loop (Or.inr hcontrol)).1 h
      rcases hinbox with hother | hinbox
      · cases hclient.symm.trans hother
      · rw [hwelcomed.inbox] at hinbox
        cases hinbox
  | work _ _ hcontrol | publish _ _ _ _ _ hcontrol | replied _ _ _ hcontrol
  | deleteDns _ hcontrol =>
      rw [Authenticating, hcontrol] at h
      exact h.elim
  | close ph pairs queue hcontrol hph =>
      refine (authenticating_of_closing hph).2 ?_
      rcases hcontrol with hclosing | hloop
      · exact (authenticating_of_closing hclosing).1 h
      · exact ((authenticating_of_loop hloop).1 h).wire
  | push msg hpairs =>
      cases hph : k.control with
      | loopTop => exact absurd ((authenticating_of_loop (Or.inl hph)).1 h).pairs hpairs
      | select => exact absurd ((authenticating_of_loop (Or.inr hph)).1 h).pairs hpairs
      | vacant | authed | handling | cleanup | done =>
          rw [Authenticating, hph] at h
          exact h
  | authenticated | unauthenticated | timeOut | disconnect => cases hclient'
  | registered | unregistered => cases hclient'
  | read _ _ _ hother | ping _ _ hother => cases hclient.symm.trans hother

/-- The client reads its `AuthOk` and writes its request. -/
theorem Authenticating.registering (h : k.Authenticating) (hanswers : k.answers = [])
    {sessionId : String} (hwire : k.wire = msg :: wire)
    (hmsg : classifyAuthResponse msg = .ok sessionId) :
    Registering request { k with
      client := .registering id cfg
      wire := wire
      inbox := k.inbox ++ [request]
      request := some request } := by
  cases hph : k.control with
  | vacant =>
      rw [Authenticating, hph] at h
      rcases h with ⟨-, hnil⟩ | ⟨-, reason, hreason⟩
      · cases hwire.symm.trans hnil
      · rw [hwire] at hreason
        obtain rfl := (List.cons.inj hreason).1
        cases hmsg
  | authed =>
      rw [Authenticating, hph] at h
      cases hwire.symm.trans h.2
  | loopTop | select =>
      have hwelcomed := (authenticating_of_loop (by simp [hph])).1 h
      obtain ⟨sessionId', hok⟩ := hwelcomed.wire
      rw [hwire] at hok
      refine Or.inl ⟨?_, (List.cons.inj hok).2, hwelcomed.queue, hwelcomed.pairs, hanswers⟩
      simp only [hwelcomed.inbox, List.nil_append]
  | handling =>
      rw [Authenticating, hph] at h
      exact h.elim
  | cleanup | done =>
      rw [Authenticating, hph] at h
      obtain ⟨sessionId', hok⟩ := h
      rw [hwire] at hok
      exact Or.inl (List.cons.inj hok).2

/-- While the client waits for the answer. -/
theorem Registering.move (h : k.Registering (cfg.request id))
    (hclient : k.client = .registering id cfg) (hspared : k.Spared e) (m : k.Move config c e k')
    (hclient' : k'.client = .registering id' cfg') : k'.Registering (cfg.request id) := by
  cases m with
  | stay => exact h
  | connect _ _ _ hother | reject _ _ _ _ _ _ hother => cases hclient.symm.trans hother
  | accept hcontrol | enterLoop _ hcontrol =>
      rw [Registering, hcontrol] at h
      exact h.elim
  | turn ph hcontrol hph =>
      refine (registering_of_loop hph).2 ?_
      exact ((registering_of_loop hcontrol).1 h).imp_left fun hs => ⟨hs.1, hs.2, hs.3, hs.4, hs.5⟩
  | sent msg queue hcontrol hqueue =>
      refine (registering_of_loop (Or.inl rfl)).2 ?_
      rcases (registering_of_loop (Or.inr hcontrol)).1 h with hsent | hanswered
      · cases hqueue.symm.trans hsent.queue
      · refine Or.inr ?_
        rw [hqueue, ← List.singleton_append, ← List.append_assoc] at hanswered
        exact hanswered
  | revoked hcontrol =>
      have hwire : k.wire ≠ [] := fun hnil => hspared (Or.inr ⟨⟨id, cfg, hclient⟩, hnil⟩)
      refine (registering_of_closing rfl).2 (Or.inr ?_)
      rcases (registering_of_loop hcontrol).1 h with hsent | ⟨hinbox, msg, rest, hflight, hrest⟩
      · exact absurd hsent.wire hwire
      · obtain ⟨x, xs, hx⟩ := List.exists_cons_of_ne_nil hwire
        rw [hx, List.cons_append] at hflight
        obtain rfl := (List.cons.inj hflight).1
        exact ⟨hinbox, x, xs ++ [World.revokedNotice], by rw [hx]; rfl, hrest⟩
  | handle msg ph hcontrol hinbox hreads =>
      rcases (registering_of_loop (Or.inr hcontrol)).1 h with hsent | ⟨hnil, -⟩
      · rcases hinbox with hother | hinbox
        · cases hclient.symm.trans hother
        · rw [hsent.inbox] at hinbox
          obtain rfl := Option.some.inj hinbox
          rw [TunnelConfig.request] at hreads
          cases hreads with
          | request _ _ _ _ _ u h₁ _ _ hfails hdue =>
              refine Or.inl ⟨hdue, Or.inl ⟨hfails, hsent.pairs⟩, rfl, ?_, hsent.wire, hsent.queue,
                hsent.answers⟩
              simp only [hsent.inbox, List.tail_cons]
          | ignore _ hmsg => cases hmsg
      · rcases hinbox with hother | hinbox
        · cases hclient.symm.trans hother
        · rw [hnil] at hinbox
          cases hinbox
  | work h₁ h₂ hcontrol hworking hdue hfails =>
      rw [Registering, hcontrol] at h
      rcases h with ⟨-, hh⟩ | ⟨hnot, -⟩
      · refine Or.inl ⟨hdue, Or.inl ⟨hfails, ?_⟩, hh.asked, hh.inbox, hh.wire, hh.queue, hh.answers⟩
        rcases hh.outcome with ⟨-, hnil⟩ | ⟨msg, rfl, -⟩
        · exact hnil
        · cases hworking
      · rw [Handling.answering_of_working hworking] at hnot
        cases hnot
  | publish h₁ key session msg pairs hcontrol hworking hmsg hpairs =>
      rw [Registering, hcontrol] at h
      rcases h with ⟨-, hh⟩ | ⟨hnot, -⟩
      · refine Or.inl ⟨rfl, Or.inr ⟨msg, rfl, Or.inr ?_⟩, hh.asked, hh.inbox, hh.wire, hh.queue,
          hh.answers⟩
        cases key with
        | http name => exact ⟨_, _, _, hmsg.2.2⟩
        | tcp port => exact ⟨_, _, _, hmsg.2⟩
      · rw [Handling.answering_of_working hworking] at hnot
        cases hnot
  | replied msg failed ph hcontrol hph =>
      rw [Registering, hcontrol] at h
      rcases h with ⟨-, hh⟩ | ⟨hnot, -⟩
      · have hout : Outcome msg k.pairs := by
          rcases hh.outcome with ⟨herror, hnil⟩ | ⟨_, hreply, hout⟩
          · exact Or.inl ⟨herror, hnil⟩
          · obtain rfl := (Handling.reply.inj hreply).1
            exact hout
        have hanswered : Answered (cfg.request id)
            { k with
              control := ph
              queue := k.queue ++ [msg]
              answers := k.answers ++ [(k.asked, msg)] } (k.wire ++ (k.queue ++ [msg])) := by
          refine ⟨hh.inbox, msg, [], ?_, ?_, hout⟩
          · rw [hh.wire, hh.queue]
            rfl
          · simp only [hh.answers, hh.asked, List.nil_append]
        rcases hph with rfl | ⟨session, rfl⟩
        · exact Or.inr hanswered
        · exact Or.inr ⟨rfl, hanswered⟩
      · cases hnot
  | deleteDns session hcontrol =>
      rw [Registering, hcontrol] at h
      rcases h with ⟨hnot, -⟩ | ⟨-, hanswered⟩
      · cases hnot
      · exact Or.inr hanswered
  | close ph pairs queue hcontrol hph hpairs =>
      refine (registering_of_closing hph).2 ?_
      have keep (hold : k.wire = [] ∨ k.Answered (cfg.request id) k.wire) :
          k.wire = [] ∨ Answered (cfg.request id)
            { k with control := ph, pairs := pairs, queue := queue } k.wire := by
        refine hold.imp_right fun ⟨hinbox, msg, rest, hflight, hanswers, hout⟩ => ?_
        exact ⟨hinbox, msg, rest, hflight, hanswers, hout.shorten hpairs⟩
      refine keep ?_
      rcases hcontrol with hclosing | hloop
      · exact (registering_of_closing hclosing).1 h
      · rcases (registering_of_loop hloop).1 h with hsent | ⟨hinbox, msg, rest, hflight, hrest⟩
        · exact Or.inl hsent.wire
        · cases hwire : k.wire with
          | nil => exact Or.inl rfl
          | cons x xs =>
              rw [hwire, List.cons_append] at hflight
              obtain rfl := (List.cons.inj hflight).1
              exact Or.inr ⟨hinbox, x, xs, rfl, hrest⟩
  | push msg hpairs =>
      have hflight (h : k.Answered (cfg.request id) (k.wire ++ k.queue)) :
          Answered (cfg.request id) { k with queue := k.queue ++ [msg] }
            (k.wire ++ (k.queue ++ [msg])) := by
        obtain ⟨hinbox, first, rest, hflight, hrest⟩ := h
        refine ⟨hinbox, first, rest ++ [msg], ?_, hrest⟩
        rw [← List.append_assoc, hflight, List.cons_append]
      have hloop (hc : k.control = .loopTop ∨ k.control = .select) :
          Registering (cfg.request id) { k with queue := k.queue ++ [msg] } := by
        refine (registering_of_loop (k := { k with queue := k.queue ++ [msg] }) hc).2 (Or.inr ?_)
        rcases (registering_of_loop hc).1 h with hsent | hanswered
        · exact absurd hsent.pairs hpairs
        · exact hflight hanswered
      cases hph : k.control with
      | loopTop => exact hph ▸ hloop (Or.inl hph)
      | select => exact hph ▸ hloop (Or.inr hph)
      | handling h₁ =>
          rw [Registering, hph] at h
          rcases h with ⟨hdue, -⟩ | ⟨hnot, hanswered⟩
          · exact absurd ⟨⟨id, cfg, hclient⟩, h₁, hph, hdue⟩ hspared
          · exact Or.inr ⟨hnot, hflight hanswered⟩
      | vacant | authed | cleanup | done =>
          rw [Registering, hph] at h
          exact h
  | authenticated _ _ _ _ _ hother | unauthenticated _ _ _ _ hother =>
      cases hclient.symm.trans hother
  | registered | unregistered | timeOut | disconnect => cases hclient'
  | read _ _ _ hother | ping _ _ hother => cases hclient.symm.trans hother

/-- What a client that waits reads first is the answer to its request. -/
theorem Registering.settled (h : k.Registering request) (hwire : k.wire = msg :: wire) :
    k.answers = [(some request, msg)] ∧ Outcome msg k.pairs ∧ k.inbox = [] ∧
      ∀ h, k.control = .handling h → h.working = false := by
  have first (flight : List ServerMsg) (hanswered : k.Answered request flight)
      (hflight : ∃ rest, flight = msg :: rest) :
      k.answers = [(some request, msg)] ∧ Outcome msg k.pairs ∧ k.inbox = [] := by
    obtain ⟨hinbox, first, rest, rfl, hanswers, hout⟩ := hanswered
    obtain ⟨_, hflight⟩ := hflight
    obtain rfl := (List.cons.inj hflight).1
    exact ⟨hanswers, hout, hinbox⟩
  cases hph : k.control with
  | vacant | authed =>
      rw [Registering, hph] at h
      exact h.elim
  | loopTop | select =>
      rw [Registering, hph] at h
      rcases h with hsent | hanswered
      · cases hwire.symm.trans hsent.wire
      · obtain ⟨hanswers, hout, hinbox⟩ := first _ hanswered ⟨wire ++ k.queue, by rw [hwire]; rfl⟩
        exact ⟨hanswers, hout, hinbox, fun h he => by cases he⟩
  | handling h₁ =>
      rw [Registering, hph] at h
      rcases h with ⟨-, hh⟩ | ⟨hnot, hanswered⟩
      · cases hwire.symm.trans hh.wire
      · obtain ⟨hanswers, hout, hinbox⟩ := first _ hanswered ⟨wire ++ k.queue, by rw [hwire]; rfl⟩
        refine ⟨hanswers, hout, hinbox, fun h he => Bool.eq_false_iff.2 fun hworking => ?_⟩
        obtain rfl := ControlPhase.handling.inj he
        rw [Handling.answering_of_working hworking] at hnot
        cases hnot
  | cleanup | done =>
      rw [Registering, hph] at h
      rcases h with hnil | hanswered
      · cases hwire.symm.trans hnil
      · obtain ⟨hanswers, hout, hinbox⟩ := first _ hanswered ⟨wire, hwire⟩
        exact ⟨hanswers, hout, hinbox, fun h he => by cases he⟩

/-! ### After the answer -/

/-- The request was refused: the client has given up, no tunnel is registered and
none will be. -/
structure Refused (k : Conn) : Prop where
  client : ∃ failure, k.client = .failed failure
  pairs : k.pairs = []
  inbox : k.inbox = []
  control : ∀ h, k.control = .handling h → h.working = false

/-- The client has read `msg` as the answer to its request, and it is. -/
structure Settled (k : Conn) (msg : ServerMsg) : Prop where
  past : k.client.past = true
  request : ∃ (id : String) (cfg : TunnelConfig), k.request = some (cfg.request id)
  answers : k.answers.head? = some (k.request, msg)
  outcome : (∃ code text, msg = .error code text) ∧ k.Refused ∨
    ∃ id publicUrl tunnelType, msg = .tunnelAck id publicUrl tunnelType

/-- A refused client stays so. -/
theorem Refused.move (h : k.Refused) (m : k.Move config c e k') : k'.Refused := by
  obtain ⟨failure, hclient⟩ := h.client
  have hidle (h₁ : Handling) (hcontrol : k.control = .handling h₁) (hworking : h₁.working = true) :
      False := by
    rw [h.control h₁ hcontrol] at hworking
    cases hworking
  have hloop (ph : ControlPhase) (hph : ∀ h, ph ≠ .handling h) (h₁ : Handling)
      (he : ph = .handling h₁) : h₁.working = false :=
    absurd he (hph h₁)
  cases m with
  | stay => exact h
  | connect _ _ _ hother | reject _ _ _ _ _ _ hother | authenticated _ _ _ _ _ hother
  | unauthenticated _ _ _ _ hother | registered _ _ _ _ _ hother | unregistered _ _ _ _ _ hother
  | read _ _ _ hother | ping _ _ hother => cases hclient.symm.trans hother
  | timeOut _ hother =>
      rcases hother with ⟨_, hother⟩ | ⟨_, _, hother⟩ <;> cases hclient.symm.trans hother
  | disconnect hother =>
      rcases hother with ⟨_, hother⟩ | ⟨_, _, hother⟩ | ⟨_, hother⟩ <;>
        cases hclient.symm.trans hother
  | accept => exact ⟨h.client, h.pairs, by simp only [h.inbox, List.tail_nil], hloop _ (by simp)⟩
  | enterLoop => exact ⟨h.client, rfl, h.inbox, hloop _ (by simp)⟩
  | turn ph _ hph =>
      refine ⟨h.client, h.pairs, h.inbox, hloop ph fun h₁ he => ?_⟩
      rcases hph with rfl | rfl <;> cases he
  | sent | deleteDns => exact ⟨h.client, h.pairs, h.inbox, hloop _ (by simp)⟩
  | revoked => exact ⟨h.client, h.pairs, h.inbox, hloop _ (by simp)⟩
  | handle msg ph _ hinbox =>
      rcases hinbox with hother | hinbox
      · cases hclient.symm.trans hother
      · rw [h.inbox] at hinbox
        cases hinbox
  | work h₁ _ hcontrol hworking | publish h₁ _ _ _ _ hcontrol hworking =>
      exact (hidle h₁ hcontrol hworking).elim
  | replied msg failed ph _ hph =>
      refine ⟨h.client, h.pairs, h.inbox, fun h₁ he => ?_⟩
      rcases hph with rfl | ⟨session, rfl⟩
      · cases he
      · obtain rfl := ControlPhase.handling.inj he
        rfl
  | close ph pairs queue _ hph hpairs =>
      refine ⟨h.client, ?_, h.inbox, hloop ph fun h₁ he => ?_⟩
      · refine List.eq_nil_iff_forall_not_mem.2 fun x hx => ?_
        have := hpairs x hx
        rw [h.pairs] at this
        cases this
      · rw [he] at hph
        cases hph
  | push => exact ⟨h.client, h.pairs, h.inbox, h.control⟩

/-- What happened stays so. -/
theorem Move.past (hpast : k.client.past = true) (m : k.Move config c e k') :
    k'.client.past = true ∧ k'.request = k.request ∧ ∃ more, k'.answers = k.answers ++ more := by
  have hnot {ph : ClientPhase} (hother : k.client = ph) (hph : ph.past = false) : False := by
    rw [hother, hph] at hpast
    cases hpast
  cases m with
  | connect _ _ _ hother | authenticated _ _ _ _ _ hother | unauthenticated _ _ _ _ hother
  | registered _ _ _ _ _ hother | unregistered _ _ _ _ _ hother => exact (hnot hother rfl).elim
  | timeOut | disconnect => exact ⟨rfl, rfl, [], (List.append_nil _).symm⟩
  | replied => exact ⟨hpast, rfl, _, rfl⟩
  | _ => exact ⟨hpast, rfl, [], (List.append_nil _).symm⟩

theorem Settled.move (h : k.Settled msg) (m : k.Move config c e k') : k'.Settled msg := by
  obtain ⟨hpast, hrequest, more, hanswers⟩ := m.past h.past
  refine ⟨hpast, by rw [hrequest]; exact h.request, ?_, ?_⟩
  · rw [hanswers, hrequest, List.head?_append, h.answers]
    rfl
  · exact h.outcome.imp_left fun ⟨herror, hrefused⟩ => ⟨herror, hrefused.move m⟩

/-! ### The whole handshake -/

/-- The client has neither asked for anything nor been answered. -/
structure Untouched (k : Conn) : Prop where
  answers : k.answers = []
  request : k.request = none
  first : k.first = none

/-- Where the handshake of a connection stands. -/
structure Handshake (k : Conn) : Prop where
  other : k.client = .other → k.first = none ∧
    (k.control = .vacant → k.wire = [] ∧ k.answers = [] ∧ k.request = none)
  authenticating : ∀ cfg : TunnelConfig, k.client = .authenticating cfg →
    k.Untouched ∧ k.Authenticating
  registering : ∀ (id : String) (cfg : TunnelConfig), k.client = .registering id cfg →
    k.request = some (cfg.request id) ∧ k.first = none ∧ k.Registering (cfg.request id)
  settled : ∀ msg, k.first = some msg → k.Settled msg

/-- A move of the server writes neither for the client nor reads for it. -/
theorem Move.same (m : k.Move config c e k') (hclient : k'.client = k.client) :
    k'.first = k.first ∧ k'.request = k.request := by
  cases m with
  | authenticated _ _ _ _ _ hother | registered _ _ _ _ _ hother
  | unregistered _ _ _ _ _ hother => cases hclient.trans hother
  | _ => exact ⟨rfl, rfl⟩

/-- Before the server accepts a connection nothing happens there. -/
theorem Move.vacant (m : k.Move config c e k') (hclient : k.client = .other)
    (hvacant : k'.control = .vacant) :
    k.control = .vacant ∧ k'.wire = k.wire ∧ k'.answers = k.answers := by
  cases m with
  | stay | push => exact ⟨hvacant, rfl, rfl⟩
  | connect => exact ⟨hvacant, rfl, rfl⟩
  | turn _ _ hph => rcases hph with rfl | rfl <;> cases hvacant
  | handle _ _ _ _ hreads => cases hvacant; cases hreads
  | replied _ _ _ _ hph => rcases hph with rfl | ⟨_, rfl⟩ <;> cases hvacant
  | close _ _ _ _ hph => cases hvacant; cases hph
  | accept | enterLoop | sent | revoked | work | publish | deleteDns => cases hvacant
  | reject _ _ _ _ _ _ hother | authenticated _ _ _ _ _ hother | unauthenticated _ _ _ _ hother
  | registered _ _ _ _ _ hother | unregistered _ _ _ _ _ hother | read _ _ _ hother
  | ping _ _ hother => cases hclient.symm.trans hother
  | timeOut _ hother =>
      rcases hother with ⟨_, hother⟩ | ⟨_, _, hother⟩ <;> cases hclient.symm.trans hother
  | disconnect hother =>
      rcases hother with ⟨_, hother⟩ | ⟨_, _, hother⟩ | ⟨_, hother⟩ <;>
        cases hclient.symm.trans hother

/-- A client that authenticates has not been answered. -/
theorem Authenticating.answers (h : k.Authenticating) (m : k.Move config c e k') :
    k'.answers = k.answers := by
  cases m with
  | replied _ _ _ hcontrol =>
      rw [Authenticating, hcontrol] at h
      exact h.elim
  | _ => rfl

/-- The server moves, or the client reads or writes and stays where it is. -/
theorem Handshake.move_same (h : k.Handshake) (hspared : k.Spared e) (m : k.Move config c e k')
    (hclient : k'.client = k.client) : k'.Handshake := by
  obtain ⟨hfirst, hrequest⟩ := m.same hclient
  constructor
  · intro hother
    rw [hclient] at hother
    obtain ⟨hnone, hvacant⟩ := h.other hother
    refine ⟨hfirst.trans hnone, fun hcontrol => ?_⟩
    obtain ⟨hold, hwire, hanswers⟩ := m.vacant hother hcontrol
    rw [hwire, hanswers, hrequest]
    exact hvacant hold
  · intro cfg hauth
    have hold := hclient.symm.trans hauth
    obtain ⟨huntouched, hauthenticating⟩ := h.authenticating cfg hold
    refine ⟨⟨?_, ?_, ?_⟩, hauthenticating.move hold hspared m hauth⟩
    · rw [hauthenticating.answers m, huntouched.answers]
    · rw [hrequest, huntouched.request]
    · rw [hfirst, huntouched.first]
  · intro id cfg hreg
    have hold := hclient.symm.trans hreg
    obtain ⟨hreq, hnone, hregistering⟩ := h.registering id cfg hold
    exact ⟨hrequest.trans hreq, hfirst.trans hnone, hregistering.move hold hspared m hreg⟩
  · intro msg hmsg
    exact (h.settled msg (hfirst ▸ hmsg)).move m

/-- The client goes on past the handshake without an answer. -/
theorem Handshake.give_up (hclient : k'.client.past = true) (hfirst : k'.first = none) :
    k'.Handshake where
  other hother := by rw [hother] at hclient; cases hclient
  authenticating cfg hauth := by rw [hauth] at hclient; cases hclient
  registering id cfg hreg := by rw [hreg] at hclient; cases hclient
  settled msg hmsg := by cases hfirst.symm.trans hmsg

/-- The client goes on past the handshake with an answer. -/
theorem Handshake.settle (hsettled : k'.Settled msg) (hfirst : k'.first = some msg) :
    k'.Handshake where
  other hother := by have := hsettled.past; rw [hother] at this; cases this
  authenticating cfg hauth := by have := hsettled.past; rw [hauth] at this; cases this
  registering id cfg hreg := by have := hsettled.past; rw [hreg] at this; cases this
  settled msg' hmsg := by
    obtain rfl := Option.some.inj (hfirst.symm.trans hmsg)
    exact hsettled

/-- What a client reads before it has an answer. -/
theorem Handshake.first_eq_none (h : k.Handshake) (hpast : k.client.past = false) :
    k.first = none := by
  by_contra hne
  obtain ⟨msg, hmsg⟩ := Option.ne_none_iff_exists'.1 hne
  rw [(h.settled msg hmsg).past] at hpast
  cases hpast

/-- **Every move that spares the handshake keeps it.** -/
theorem Handshake.move (h : k.Handshake) (hspared : k.Spared e) (m : k.Move config c e k') :
    k'.Handshake := by
  by_cases hsame : k'.client = k.client
  · exact h.move_same hspared m hsame
  cases m with
  | connect cfg token version hother hcontrol =>
      obtain ⟨hnone, hvacant⟩ := h.other hother
      obtain ⟨hwire, hanswers, hrequest⟩ := hvacant hcontrol
      refine ⟨fun he => (by cases he), fun cfg' he => ⟨⟨hanswers, hrequest, hnone⟩, ?_⟩,
        fun id cfg' he => (by cases he), fun msg hmsg => (by cases hnone.symm.trans hmsg)⟩
      simp only [Authenticating, hcontrol]
      exact Or.inl ⟨rfl, hwire⟩
  | authenticated cfg id sessionId msg wire hclient hwire hmsg =>
      obtain ⟨huntouched, hauth⟩ := h.authenticating cfg hclient
      refine ⟨fun he => (by cases he), fun cfg' he => (by cases he), fun id' cfg' he => ?_,
        fun msg' hmsg' => (by cases huntouched.first.symm.trans hmsg')⟩
      obtain ⟨rfl, rfl⟩ := ClientPhase.registering.inj he
      exact ⟨rfl, huntouched.first, hauth.registering huntouched.answers hwire hmsg⟩
  | unauthenticated cfg failure msg wire hclient =>
      exact .give_up rfl (h.first_eq_none (by rw [hclient]; rfl))
  | timeOut error hclient =>
      refine .give_up rfl (h.first_eq_none ?_)
      rcases hclient with ⟨cfg, hclient⟩ | ⟨id, cfg, hclient⟩ <;> rw [hclient] <;> rfl
  | registered id cfg registration msg wire hclient hwire hmsg =>
      obtain ⟨hrequest, -, hregistering⟩ := h.registering id cfg hclient
      obtain ⟨hanswers, hout, -, -⟩ := hregistering.settled hwire
      refine .settle (show Settled _ msg from ⟨rfl, ⟨id, cfg, hrequest⟩, ?_, Or.inr ?_⟩) rfl
      · simp only [hanswers, hrequest, List.head?_cons]
      · rcases hout with ⟨⟨code, text, rfl⟩, -⟩ | hack
        · simp only [classifyRegistrationResponse] at hmsg
          split at hmsg <;> cases hmsg
        · exact hack
  | unregistered id cfg failure msg wire hclient hwire hmsg =>
      obtain ⟨hrequest, -, hregistering⟩ := h.registering id cfg hclient
      obtain ⟨hanswers, hout, hinbox, hcontrol⟩ := hregistering.settled hwire
      refine .settle (show Settled _ msg from ⟨rfl, ⟨id, cfg, hrequest⟩, ?_, ?_⟩) rfl
      · simp only [hanswers, hrequest, List.head?_cons]
      · exact hout.imp_left fun ⟨herror, hnil⟩ =>
          ⟨herror, ⟨failure, rfl⟩, hnil, hinbox, hcontrol⟩
  | disconnect hclient =>
      rcases Option.eq_none_or_eq_some k.first with hfirst | ⟨msg, hfirst⟩
      · exact .give_up rfl hfirst
      · have m : k.Move config c .other { k with client := .disconnected } := .disconnect hclient
        exact .settle ((h.settled msg hfirst).move m) hfirst
  | _ => exact absurd rfl hsame

end Conn

namespace World

variable {config : Config} {sessionId : ℕ → String} {w : World}

/-- The step disturbs no handshake: it queues nothing for a connection whose
client is about to be answered, and revokes no session whose client has no
answer on its way. -/
def Undisturbed (w : World) (a : Action) : Prop :=
  ∀ c, (w.Pushes c a → ¬ (w.conn c).Awaiting) ∧
    (a = .server (.task (.breakLoop c .revoked)) → ¬ (w.conn c).Unanswered)

theorem handshake_of_reached (r : (machine config sessionId).ReachedBy Undisturbed w) (c : ℕ) :
    (w.conn c).Handshake := by
  refine r.invariant (I := fun w => (w.conn c).Handshake) ?_ fun w a w' r h hspared hs => ?_
  · rintro w rfl
    exact ⟨fun _ => ⟨rfl, fun _ => ⟨rfl, rfl, rfl⟩⟩, fun _ he => (by cases he),
      fun _ _ he => (by cases he), fun _ he => (by cases he)⟩
  · obtain ⟨e, m, hcauses⟩ := step_moves r.reachable hs c
    refine h.move ?_ m
    cases e with
    | push => exact (hspared c).1 hcauses
    | revoke => exact (hspared c).2 hcauses
    | other => trivial

/-- **The registration handshake.**  In runs that nothing disturbs, the first
message that a client reads after its `TunnelRequest` is the answer of
`handle_control_msg` to this very request; it is a `TunnelAck` or an `Error`, and
with an `Error` no tunnel of the connection is registered. -/
theorem handshake_answered (r : (machine config sessionId).ReachedBy Undisturbed w) (c : ℕ)
    {msg : ServerMsg} (hfirst : w.first c = some msg) :
    (∃ (id : String) (cfg : TunnelConfig), w.request c = some (cfg.request id)) ∧
      (w.answers c).head? = some (w.request c, msg) ∧
      ((∃ code text, msg = .error code text) ∧ (w.server.life.registered c).pairs = [] ∨
        ∃ registration, classifyRegistrationResponse msg = .ok registration) := by
  have hsettled := (handshake_of_reached r c).settled msg hfirst
  refine ⟨hsettled.request, hsettled.answers, ?_⟩
  rcases hsettled.outcome with ⟨herror, hrefused⟩ | ⟨id, publicUrl, tunnelType, rfl⟩
  · exact Or.inl ⟨herror, hrefused.pairs⟩
  · exact Or.inr ⟨_, rfl⟩

/-- A client asks for the HTTP tunnel "web", and the server publishes it. -/
def publishRun : List Action :=
  .connect 0
      { tunnelType := .http
        subdomain := some "web"
        basicAuth := none
        options := Lifecycle.plainOptions } "token" "1" ::
    ([.task (.accept 0), .task (.enterLoop 0)].map .server ++ .readAuthResponse 0 "id" ::
      ((Server.registerHttpRun 0 "id" "web").drop 2).map .server)

/-- The acknowledgement is queued, the first message of the queue written, and
the client reads it. -/
def settleRun : List Action :=
  ([.pollReply 0, .task (.replied 0), .task (.enterSelect 0),
    .task (.continueLoop 0 .sent)].map .server) ++ [.readRegistrationResponse 0]

theorem settledRun_isSome :
    ((machine .default fun _ => "s").run (new .default)
      (publishRun ++ settleRun)).isSome = true := by
  decide

def settled : World :=
  ((machine .default fun _ => "s").run (new .default) (publishRun ++ settleRun)).get
    settledRun_isSome

theorem settled_reached : (machine .default fun _ => "s").ReachedBy Undisturbed settled := by
  refine Machine.ReachedBy.run (.init rfl) (fun a ha t c => ?_)
    (Option.some_get settledRun_isSome).symm
  simp only [publishRun, settleRun, Server.registerHttpRun, List.drop_succ_cons, List.drop_zero,
    List.map_cons, List.map_nil, List.cons_append, List.nil_append, List.mem_cons,
    List.not_mem_nil, or_false] at ha
  refine ⟨?_, fun he => by simp [he] at ha⟩
  rintro (⟨r, ticket, he, -⟩ | ⟨removed, he, -⟩) <;> simp [he] at ha

theorem handshake_answered_settled :
    (settled.answers 0).head? = some (settled.request 0,
      .tunnelAck "id" ("https://" ++ "web" ++ "." ++ Config.default.server.domain) .http) :=
  (handshake_answered settled_reached 0 (by decide)).2.1

theorem overtakenRun_isSome : ((machine .default fun _ => "s").run (new .default)
    (publishRun ++ ((Server.openRun (makeTestSession "web" "id" 0) 0).map .server ++
      settleRun))).isSome = true := by
  decide

/-- As `settled`, but a visitor's request comes between the publication and the
acknowledgement. -/
def overtaken : World :=
  ((machine .default fun _ => "s").run (new .default)
    (publishRun ++ ((Server.openRun (makeTestSession "web" "id" 0) 0).map .server ++
      settleRun))).get overtakenRun_isSome

theorem overtaken_reachable : (machine .default fun _ => "s").Reachable overtaken :=
  Machine.reachable_get (.init rfl) overtakenRun_isSome

/-- The client takes a tunnel that is registered for a permanent failure. -/
theorem overtaken_failed :
    overtaken.first 0 = some (.streamOpen 1 "id") ∧
      overtaken.client 0 =
        .failed (.permanent "Unexpected server response during tunnel registration") ∧
        (overtaken.server.life.state.published (.http "web")).isSome = true := by
  decide

end World
end Rgrok
