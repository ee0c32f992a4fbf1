/-
# Every step of the world is a move of every connection

One lemma for the steps of the server that a connection takes no part in, one for
those in which its task reads or writes, one for the others of its task, and one
for each step of a client, collected in `World.step_moves`.
-/

import Rgrok.Server.RequestOutcome
import Rgrok.World.Connection

namespace Rgrok
namespace World

variable {w w' : World} {a : Action} {c : ℕ} {config : Config} {sessionId : ℕ → String}

/-! ### Steps of the server -/

section Serve

variable {s' : Server} {b : Server.Action}

/-- The world after a step of its server. -/
def after (w : World) (sessionId : ℕ → String) (b : Server.Action) (s' : Server) : World :=
  { w with
    server := s'
    inbox := w.inboxAfter b
    wire := w.wireAfter sessionId b
    asked := w.askedAfter b
    answers := w.answersAfter b }

theorem serve_eq_some (h : w.serve sessionId b = some w') :
    w.allows b = true ∧ ∃ s', w.server.step b = some s' ∧ w' = w.after sessionId b s' := by
  rw [serve] at h
  split_ifs at h with hallows
  obtain ⟨s', hs', rfl⟩ := Option.map_eq_some_iff.1 h
  exact ⟨hallows, s', hs', rfl⟩

/-- Only its own steps change what a connection has in flight. -/
theorem after_of_other (w : World) (sessionId : ℕ → String)
    (hother : ∀ b', b = .task b' → b'.task ≠ .control c) :
    w.inboxAfter b c = w.inbox c ∧ w.wireAfter sessionId b c = w.wire c ∧
      w.askedAfter b c = w.asked c ∧ w.answersAfter b c = w.answers c := by
  cases b with
  | task b' =>
      have hne := hother b' rfl
      cases b' with
      | accept c' | enterLoop c' | handleControlMsg c' msg draw =>
          have hc : c ≠ c' := fun he => hne (he ▸ rfl)
          simp only [inboxAfter, wireAfter, askedAfter, answersAfter, Function.update_of_ne hc,
            and_self]
      | continueLoop c' cause | breakLoop c' cause =>
          have hc : c ≠ c' := fun he => hne (he ▸ rfl)
          cases cause <;> simp only [inboxAfter, wireAfter, askedAfter, answersAfter,
            Function.update_of_ne hc, and_self]
      | replied c' =>
          have hc : c ≠ c' := fun he => hne (he ▸ rfl)
          refine ⟨rfl, rfl, rfl, ?_⟩
          generalize hanswers : w.answersAfter (.task (.replied c')) = answers
          rw [answersAfter] at hanswers
          split at hanswers <;> subst hanswers
          · rw [Function.update_of_ne hc]
          · rfl
      | _ => exact ⟨rfl, rfl, rfl, rfl⟩
  | _ => exact ⟨rfl, rfl, rfl, rfl⟩

/-- The connection after a step of the server that is not its own. -/
theorem moves_of_frame (hr : w.server.life.roster.Inv) (hknown : w.server.Known)
    (hstep : w.server.Step b s')
    (hcontrol : s'.life.tasks.control c = w.server.life.tasks.control c)
    (hreg : s'.life.registered c = w.server.life.registered c)
    (hother : ∀ b', b = .task b' → b'.task ≠ .control c) :
    w.Moves c (.server b) (w.after sessionId b s') := by
  obtain ⟨hinbox, hwire, hasked, hanswers⟩ :=
    after_of_other w sessionId hother
  -- all but the queue stays
  have hconn : (w.after sessionId b s').conn c =
      { w.conn c with queue := (s'.channels c).queue } := by
    simp only [conn, after, hcontrol, hreg, hinbox, hwire, hasked, hanswers]
  have stay (hqueue : (s'.channels c).queue = (w.server.channels c).queue) :
      w.Moves c (.server b) (w.after sessionId b s') := by
    refine .other .stay (hconn.trans ?_)
    rw [hqueue]
    rfl
  -- what is queued is for a session of the connection
  have push (msg : ServerMsg) {session : TunnelSession} (hserves : session.conn = c)
      (hann : w.server.life.roster.Announced session)
      (hqueue : (s'.channels c).queue = (w.server.channels c).queue ++ [msg])
      (hmsg : msg = Server.idleNotice ∨ ∃ t : Ticket, msg = t.streamOpen)
      (hpushes : w.Pushes c (.server b)) : w.Moves c (.server b) (w.after sessionId b s') := by
    subst hserves
    rw [hqueue] at hconn
    rcases hann.2 with hclosing | ⟨key, hkey⟩
    · exact .other (.close _ _ _ (Or.inl hclosing) hclosing fun x hx => hx) hconn
    · exact ⟨.push, (Conn.Move.push msg (List.ne_nil_of_mem hkey) hmsg).of_eq hconn, hpushes⟩
  have hchannel := hstep.channel c
  generalize hch : s'.channels c = ch at hchannel hconn stay push
  cases hchannel with
  | stay => exact stay rfl
  | create => exact absurd rfl (hother _ rfl)
  | recv _ _ ha => rcases ha with rfl | rfl <;> exact absurd rfl (hother _ rfl)
  | answer => exact absurd rfl (hother _ rfl)
  | notice removed hremoved hserves =>
      by_cases hroom : (w.server.channels c).occupied < controlCapacity
      · rw [Channel.trySend, if_pos hroom] at push
        exact push _ hserves (hr.removed removed hremoved) rfl (Or.inl rfl)
          (Or.inr ⟨removed, rfl, hremoved, hserves⟩)
      · refine stay ?_
        rw [Channel.trySend, if_neg hroom]
  | pollReply | pollOpen => exact stay Channel.queue_acquire
  | send r t hreq hserves =>
      refine push _ hserves (hknown.streams r t ?_) rfl (Or.inr ⟨t, rfl⟩)
        (Or.inl ⟨r, t, rfl, hreq, hserves⟩)
      rw [hreq]
      rfl
  | abandon => exact stay Channel.queue_cancel

/-- The steps in which a control task reads, writes or queues an answer. -/
def speaks : Lifecycle.Action → Bool
  | .accept _ | .enterLoop _ | .continueLoop _ _ | .breakLoop _ _ | .handleControlMsg _ _ _
  | .replied _ => true
  | _ => false

/-- The connection after a step of its own task that does not speak. -/
theorem moves_of_silent {b : Lifecycle.Action} (hi : w.server.life.Inv)
    (hserved : w.server.life.Served c) (hstep : w.server.Step (.task b) s')
    (hlife : w.server.life.step b = some s'.life) (htask : b.task = .control c)
    (hsilent : speaks b = false) :
    w.Moves c (.server (.task b)) (w.after sessionId (.task b) s') := by
  have hqueue : s'.channels c = w.server.channels c := by
    have hchannel := hstep.channel c
    generalize s'.channels c = ch at hchannel
    cases hchannel with
    | stay => rfl
    | create | answer => cases hsilent
    | recv _ _ ha => rcases ha with ha | ha <;> cases ha <;> cases hsilent
    | notice => cases htask
  have hconn : (w.after sessionId (.task b) s').conn c =
      { w.conn c with
        control := s'.life.tasks.control c
        pairs := (s'.life.registered c).pairs } := by
    simp only [conn, after, hqueue]
    cases b <;> first | rfl | cases hsilent
  by_cases hold : ∃ h, w.server.life.tasks.control c = .handling h ∧ h.working = true
  · obtain ⟨h, hph, hworking⟩ := hold
    obtain ⟨⟨u, hserves⟩, hfails⟩ := hserved h hph hworking
    cases Lifecycle.request_step hi.2 hlife htask hph hserves hfails hworking with
    | spares h' hspares hph' _ hfails' hdue =>
        rw [hph', congrFun hspares.registered c] at hconn
        exact .other (.work h h' hph hworking hdue hfails') hconn
    | publishes key session msg hpub _ hmsg hph' =>
        rw [hph'] at hconn
        exact .other (.publish h key session msg _ hph hworking hmsg hpub.registered) hconn
  · cases (Lifecycle.step_rostered hi hlife).move.conn c with
    | stay hcontrol hreg =>
        change s'.life.tasks.control c = _ at hcontrol
        change s'.life.registered c = _ at hreg
        rw [hcontrol, hreg] at hconn
        exact .other .stay hconn
    | control hstep hreg =>
        change ControlStep c b (w.server.life.tasks.control c) (s'.life.tasks.control c) at hstep
        change s'.life.registered c = _ at hreg
        rw [hreg] at hconn
        generalize hph : w.server.life.tasks.control c = ph at hstep
        generalize hnew : s'.life.tasks.control c = ph' at hstep hconn
        cases hstep with
        | enterSelect => exact .other (.turn _ (Or.inl hph) (Or.inr rfl)) hconn
        | setup _ h _ _ hworking => exact absurd ⟨h, hph, hworking⟩ hold
        | deleteFailedDns session => exact .other (.deleteDns session hph) hconn
        | cleanup _ k _ hclosing =>
            refine .other (.close _ _ _ (Or.inl ?_) hclosing fun x hx => hx) hconn
            exact (congrArg ControlPhase.closing hph).trans rfl
        | accept | continueLoop | breakLoop | request | ping | ignore | replied
        | repliedFailed => cases hsilent
    | enterLoop ha => 
        subst ha
        cases hsilent
    | publish h _ _ _ _ hph hworking => exact absurd ⟨h, hph, hworking⟩ hold
    | closing hclosing hnew hreg => exact .other (.close _ _ _ (Or.inl hclosing) hnew hreg) hconn

/-- The queue stays in a step of the connection's own task that neither takes
from it nor sends on it. -/
theorem queue_of_own {b : Lifecycle.Action} (hstep : w.server.Step (.task b) s')
    (htask : b.task = .control c) (hsent : b ≠ .continueLoop c .sent) (hreplied : b ≠ .replied c)
    (hloop : b ≠ .enterLoop c) (hfailed : b ≠ .breakLoop c .writeFailed) :
    s'.channels c = w.server.channels c := by
  have hchannel := hstep.channel c
  generalize s'.channels c = ch at hchannel
  cases hchannel with
  | stay => rfl
  | create => exact absurd rfl hloop
  | answer => exact absurd rfl hreplied
  | recv _ _ ha =>
      rcases ha with ha | ha
      · exact absurd (Server.Action.task.inj ha) hsent
      · exact absurd (Server.Action.task.inj ha) hfailed
  | notice => cases htask

/-- The connection after a step of its own task that speaks. -/
theorem moves_of_speaks {b : Lifecycle.Action} (hallows : w.allows (.task b) = true)
    (hstep : w.server.Step (.task b) s') (hlife : w.server.life.step b = some s'.life)
    (htask : b.task = .control c) (hspeaks : speaks b = true) :
    w.Moves c (.server (.task b)) (w.after sessionId (.task b) s') := by
  cases b with
  | accept c' =>
      obtain rfl := Task.control.inj htask
      have hqueue := queue_of_own hstep rfl (by simp) (by simp) (by simp) (by simp)
      simp only [Lifecycle.step, Lifecycle.accept] at hlife
      split at hlife
      · rename_i hph
        have hnew := Option.some.inj hlife
        have hauth : w.client c' = .other ∨
            ∃ token version inbox, w.inbox c' = .auth token version :: inbox := by
          simp only [allows] at hallows
          split at hallows
          · rename_i hclient
            exact Or.inl hclient
          · rename_i token version inbox hinbox _
            exact Or.inr ⟨token, version, inbox, hinbox⟩
          · cases hallows
        refine .other (.accept hph hauth) ?_
        simp only [conn, after, hqueue, ← hnew, Lifecycle.setControl, Tasks.control_setControl_self,
          inboxAfter, wireAfter, askedAfter, answersAfter, Function.update_self]
      · cases hlife
  | enterLoop c' =>
      obtain rfl := Task.control.inj htask
      have hqueue : s'.channels c' = .empty := by
        cases hstep
        exact Function.update_self ..
      simp only [Lifecycle.step, Lifecycle.enterLoop] at hlife
      split at hlife
      · rename_i hph
        have hnew := Option.some.inj hlife
        refine .other (.enterLoop (sessionId c') hph) ?_
        simp only [conn, after, hqueue, ← hnew, Lifecycle.setControl, Tasks.control_setControl_self,
          inboxAfter, wireAfter, askedAfter, answersAfter, Function.update_self]
        rfl
      · cases hlife
  | continueLoop c' cause =>
      obtain rfl := Task.control.inj htask
      simp only [Lifecycle.step, Lifecycle.continueLoop] at hlife
      split at hlife
      · rename_i hph
        have hnew := Option.some.inj hlife
        cases cause with
        | sent =>
            have hqueue : (s'.channels c').queue = (w.server.channels c').queue.tail := by
              cases hstep
              simp only [Server.channelsAfter, Function.update_self, Channel.queue_recv]
            have hne : (w.server.channels c').queue ≠ [] := by
              cases hstep with
              | task _ _ hsent => simpa [Server.allows] using hsent
            obtain ⟨msg, rest, hmsg⟩ := List.exists_cons_of_ne_nil hne
            rw [hmsg, List.tail_cons] at hqueue
            refine .other (.sent msg rest hph hmsg) ?_
            simp only [conn, after, hqueue, ← hnew, Lifecycle.setControl,
              Tasks.control_setControl_self, inboxAfter, wireAfter, askedAfter, answersAfter,
              Function.update_self, hmsg, List.head?_cons, Option.toList_some]
        | epochChanged =>
            have hqueue := queue_of_own hstep rfl (by simp) (by simp) (by simp) (by simp)
            refine .other (.turn .loopTop (Or.inr hph) (Or.inl rfl)) ?_
            simp only [conn, after, hqueue, ← hnew, Lifecycle.setControl,
              Tasks.control_setControl_self, inboxAfter, wireAfter, askedAfter, answersAfter]
      · cases hlife
  | breakLoop c' cause =>
      obtain rfl := Task.control.inj htask
      have hleft : (w.server.life.tasks.control c' = .loopTop ∨
          w.server.life.tasks.control c' = .select) ∧
            w.server.life.setControl c' (.cleanup .http) = s'.life := by
        simp only [Lifecycle.step, Lifecycle.breakLoop] at hlife
        split at hlife
        · rename_i hph
          exact ⟨Or.inl hph, Option.some.inj hlife⟩
        · rename_i hph
          exact ⟨Or.inr hph, Option.some.inj hlife⟩
        · cases hlife
      obtain ⟨hph, hnew⟩ := hleft
      by_cases hrevoked : cause = .revoked
      · subst hrevoked
        have hqueue := queue_of_own hstep rfl (by simp) (by simp) (by simp) (by simp)
        refine ⟨.revoke, (Conn.Move.revoked hph).of_eq ?_, rfl⟩
        simp only [conn, after, hqueue, ← hnew, Lifecycle.setControl, Tasks.control_setControl_self,
          inboxAfter, wireAfter, askedAfter, answersAfter, Function.update_self]
      · refine .other (.close (.cleanup .http) _ (s'.channels c').queue (Or.inr hph) rfl
          fun x hx => hx) ?_
        simp only [conn, after, ← hnew, Lifecycle.setControl, Tasks.control_setControl_self]
        cases cause <;> first | rfl | exact absurd rfl hrevoked
  | handleControlMsg c' msg draw =>
      obtain rfl := Task.control.inj htask
      have hqueue := queue_of_own hstep rfl (by simp) (by simp) (by simp) (by simp)
      have hread : w.server.life.handleControlMsg c' msg draw = some s'.life := hlife
      obtain ⟨hph, hreg, hreads⟩ := Lifecycle.handleControlMsg_reads hread
      have hinbox : w.client c' = .other ∨ (w.inbox c').head? = some msg := by
        simp only [allows] at hallows
        split at hallows
        · rename_i hclient
          exact Or.inl hclient
        · exact Or.inr (beq_iff_eq.1 hallows)
      refine .other (.handle msg _ hph hinbox hreads) ?_
      simp only [conn, after, hqueue, hreg, inboxAfter, wireAfter, askedAfter, answersAfter,
        Function.update_self]
  | replied c' =>
      obtain rfl := Task.control.inj htask
      simp only [Lifecycle.step, Lifecycle.replied] at hlife
      have answer (msg : ServerMsg) (failed : Option TunnelSession) (ph : ControlPhase)
          (hph : w.server.life.tasks.control c' = .handling (.reply msg failed))
          (hnew : w.server.life.setControl c' ph = s'.life)
          (hnext : ph = .loopTop ∨ ∃ session, ph = .handling (.deleteDns session)) :
          w.Moves c' (.server (.task (.replied c')))
            (w.after sessionId (.task (.replied c')) s') := by
        have hqueue : (s'.channels c').queue = (w.server.channels c').queue ++ [msg] := by
          cases hstep
          simp only [Server.channelsAfter, hph, Function.update_self, Channel.push]
        refine .other (.replied msg failed ph hph hnext) ?_
        simp only [conn, after, hqueue, ← hnew, Lifecycle.setControl, Tasks.control_setControl_self,
          inboxAfter, wireAfter, askedAfter, answersAfter, hph, Function.update_self]
      split at hlife
      · rename_i msg hph
        exact answer msg none _ hph (Option.some.inj hlife) (Or.inl rfl)
      · rename_i msg session hph
        exact answer msg (some session) _ hph (Option.some.inj hlife) (Or.inr ⟨session, rfl⟩)
      · cases hlife
  | _ => cases hspeaks

/-- A step of the server is a move of every connection. -/
theorem serve_moves (hi : w.server.life.Inv) (hserved : w.server.life.Served c)
    (hr : w.server.life.roster.Inv) (hknown : w.server.Known)
    (h : w.serve sessionId b = some w') : w.Moves c (.server b) w' := by
  obtain ⟨hallows, s', hs, rfl⟩ := serve_eq_some h
  have hstep := Server.step_cases hs
  rcases hstep.own_or_frame c with ⟨b', rfl, htask, hlife⟩ | ⟨hcontrol, hreg, -, -, hother⟩
  · cases hspeaks : speaks b' with
    | true => exact moves_of_speaks hallows hstep hlife htask hspeaks
    | false => exact moves_of_silent hi hserved hstep hlife htask hspeaks
  · exact moves_of_frame hr hknown hstep hcontrol hreg hother
end Serve

/-! ### Steps of a client -/

/-- A step at another connection. -/
theorem moves_of_ne {a : Action} (h : w'.conn c = w.conn c) : w.Moves c a w' :=
  .other .stay h

theorem conn_setClient_of_ne {c' : ℕ} (hc : c ≠ c') (ph : ClientPhase) :
    (w.setClient c' ph).conn c = w.conn c := by
  simp only [conn, setClient, Function.update_of_ne hc]

theorem conn_setClient (ph : ClientPhase) :
    (w.setClient c ph).conn c = { w.conn c with client := ph } := by
  simp only [conn, setClient, Function.update_self]

theorem conn_setInbox_of_ne {c' : ℕ} (hc : c ≠ c') (msgs : List ClientMsg) :
    (w.setInbox c' msgs).conn c = w.conn c := by
  simp only [conn, setInbox, Function.update_of_ne hc]

theorem conn_setInbox (msgs : List ClientMsg) :
    (w.setInbox c msgs).conn c = { w.conn c with inbox := msgs } := by
  simp only [conn, setInbox, Function.update_self]

theorem conn_setWire_of_ne {c' : ℕ} (hc : c ≠ c') (msgs : List ServerMsg) :
    (w.setWire c' msgs).conn c = w.conn c := by
  simp only [conn, setWire, Function.update_of_ne hc]

theorem conn_setWire (msgs : List ServerMsg) :
    (w.setWire c msgs).conn c = { w.conn c with wire := msgs } := by
  simp only [conn, setWire, Function.update_self]

variable {a : Action} {c' : ℕ}

theorem reject_moves {reason : String} (h : w.reject c' reason = some w') : w.Moves c a w' := by
  rw [reject] at h
  split at h
  · rename_i cfg token version inbox hcontrol hclient hinbox
    obtain rfl := Option.some.inj h
    by_cases hc : c = c'
    · subst hc
      refine .other (.reject reason cfg token version inbox hcontrol hclient hinbox) ?_
      rw [conn_setWire, conn_setInbox]
      rfl
    · refine moves_of_ne ?_
      rw [conn_setWire_of_ne hc, conn_setInbox_of_ne hc]
  · cases h

theorem connect_moves {cfg : TunnelConfig} {token version : String}
    (h : w.connect c' cfg token version = some w') : w.Moves c a w' := by
  rw [connect] at h
  split at h
  · rename_i hclient hcontrol
    obtain rfl := Option.some.inj h
    by_cases hc : c = c'
    · subst hc
      refine .other (.connect cfg token version hclient hcontrol) ?_
      rw [conn_setInbox, conn_setClient]
    · refine moves_of_ne ?_
      rw [conn_setInbox_of_ne hc, conn_setClient_of_ne hc]
  · cases h

theorem readAuthResponse_moves {id : String} (h : w.readAuthResponse c' id = some w') :
    w.Moves c a w' := by
  rw [readAuthResponse] at h
  split at h
  · rename_i cfg msg wire hclient hwire
    split at h
    · rename_i session hmsg
      obtain rfl := Option.some.inj h
      by_cases hc : c = c'
      · subst hc
        refine .other (.authenticated cfg id session msg wire hclient hwire hmsg) ?_
        simp only [conn, setClient, setWire, setInbox, Function.update_self]
      · refine moves_of_ne ?_
        simp only [conn, setClient, setWire, setInbox, Function.update_of_ne hc]
    · rename_i failure hmsg
      obtain rfl := Option.some.inj h
      by_cases hc : c = c'
      · subst hc
        refine .other (.unauthenticated cfg failure msg wire hclient hwire hmsg) ?_
        rw [conn_setWire, conn_setClient]
      · refine moves_of_ne ?_
        rw [conn_setWire_of_ne hc, conn_setClient_of_ne hc]
  · cases h

theorem readRegistrationResponse_moves (h : w.readRegistrationResponse c' = some w') :
    w.Moves c a w' := by
  rw [readRegistrationResponse] at h
  split at h
  · rename_i id cfg msg wire hclient hwire
    obtain rfl := Option.some.inj h
    by_cases hc : c = c'
    · subst hc
      cases hmsg : classifyRegistrationResponse msg with
      | ok registration =>
          refine .other (.registered id cfg registration msg wire hclient hwire hmsg) ?_
          simp only [conn, setClient, setWire, Function.update_self]
      | error failure =>
          refine .other (.unregistered id cfg failure msg wire hclient hwire hmsg) ?_
          simp only [conn, setClient, setWire, Function.update_self]
    · refine moves_of_ne ?_
      simp only [conn, setClient, setWire, Function.update_of_ne hc]
  · cases h

theorem timeOut_moves (h : w.timeOut c' = some w') : w.Moves c a w' := by
  have move (error : String) (hclient : (∃ cfg, w.client c' = .authenticating cfg) ∨
      ∃ id cfg, w.client c' = .registering id cfg)
      (hw : w.setClient c' (.failed (.transient error)) = w') : w.Moves c a w' := by
    subst hw
    by_cases hc : c = c'
    · subst hc
      exact .other (.timeOut error hclient) (conn_setClient _)
    · exact moves_of_ne (conn_setClient_of_ne hc _)
  rw [timeOut] at h
  split at h
  · rename_i cfg hclient
    exact move _ (Or.inl ⟨cfg, hclient⟩) (Option.some.inj h)
  · rename_i id cfg hclient
    exact move _ (Or.inr ⟨id, cfg, hclient⟩) (Option.some.inj h)
  · cases h

theorem readServerMsg_moves (h : w.readServerMsg c' = some w') : w.Moves c a w' := by
  rw [readServerMsg] at h
  split at h
  · rename_i registration msg wire hclient hwire
    obtain rfl := Option.some.inj h
    by_cases hc : c = c'
    · subst hc
      exact .other (.read registration msg wire hclient hwire) (conn_setWire _)
    · exact moves_of_ne (conn_setWire_of_ne hc _)
  · cases h

theorem ping_moves {seq : UInt64} (h : w.ping c' seq = some w') : w.Moves c a w' := by
  rw [ping] at h
  split at h
  · rename_i registration hclient
    obtain rfl := Option.some.inj h
    by_cases hc : c = c'
    · subst hc
      exact .other (.ping registration seq hclient) (conn_setInbox _)
    · exact moves_of_ne (conn_setInbox_of_ne hc _)
  · cases h

theorem disconnect_moves (h : w.disconnect c' = some w') : w.Moves c a w' := by
  have move (hclient : (∃ cfg, w.client c' = .authenticating cfg) ∨
      (∃ id cfg, w.client c' = .registering id cfg) ∨
        ∃ registration, w.client c' = .running registration)
      (hw : w.setClient c' .disconnected = w') : w.Moves c a w' := by
    subst hw
    by_cases hc : c = c'
    · subst hc
      exact .other (.disconnect hclient) (conn_setClient _)
    · exact moves_of_ne (conn_setClient_of_ne hc _)
  rw [disconnect] at h
  split at h
  · rename_i cfg hclient
    exact move (Or.inl ⟨cfg, hclient⟩) (Option.some.inj h)
  · rename_i id cfg hclient
    exact move (Or.inr (Or.inl ⟨id, cfg, hclient⟩)) (Option.some.inj h)
  · rename_i registration hclient
    exact move (Or.inr (Or.inr ⟨registration, hclient⟩)) (Option.some.inj h)
  · cases h

/-! ### Every step -/

/-- The server moves by its own steps only. -/
theorem step_server (h : w.step sessionId a = some w') :
    (∃ b, a = .server b ∧ w.serve sessionId b = some w') ∨
      (∀ b, a ≠ .server b) ∧ w'.server = w.server := by
  cases a with
  | server b => exact Or.inl ⟨b, rfl, h⟩
  | reject c reason | connect c cfg token version | readRegistrationResponse c | timeOut c
  | readServerMsg c | ping c seq | disconnect c =>
      refine Or.inr ⟨by simp, ?_⟩
      simp only [step, reject, connect, readRegistrationResponse, timeOut, readServerMsg, ping,
        disconnect] at h
      split at h <;> cases h <;> rfl
  | readAuthResponse c id =>
      refine Or.inr ⟨by simp, ?_⟩
      simp only [step, readAuthResponse] at h
      split at h
      · split at h <;> cases h <;> rfl
      · cases h

/-- The server of a reachable world is reachable. -/
theorem server_reachable (r : (machine config sessionId).Reachable w) :
    (Server.machine config).Reachable w.server := by
  refine r.map World.server ?_ fun w a w' _ _ hs => ?_
  · rintro w rfl
    rfl
  · rcases step_server hs with ⟨b, -, hserve⟩ | ⟨-, hserver⟩
    · obtain ⟨-, s', hs', rfl⟩ := serve_eq_some hserve
      exact Or.inr ⟨b, hs'⟩
    · exact Or.inl hserver

theorem config_of_reachable (r : (machine config sessionId).Reachable w) :
    w.server.life.state.config = config :=
  Server.config_of_reachable (server_reachable r)

/-- **Every step is a move of every connection**, or leaves it alone. -/
theorem step_moves (r : (machine config sessionId).Reachable w)
    (h : w.step sessionId a = some w') (c : ℕ) : w.Moves c a w' := by
  cases a with
  | server b =>
      have hserver := server_reachable r
      exact serve_moves (Server.inv_of_reachable hserver)
        (Lifecycle.served_of_reachable (Server.life_reachable hserver) c)
        (Server.roster_inv_of_reachable hserver) (Server.known_of_reachable hserver) h
  | reject c' reason => exact reject_moves h
  | connect c' cfg token version => exact connect_moves h
  | readAuthResponse c' id => exact readAuthResponse_moves h
  | readRegistrationResponse c' => exact readRegistrationResponse_moves h
  | timeOut c' => exact timeOut_moves h
  | readServerMsg c' => exact readServerMsg_moves h
  | ping c' seq => exact ping_moves h
  | disconnect c' => exact disconnect_moves h

end World
end Rgrok
