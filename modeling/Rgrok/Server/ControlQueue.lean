/-
# The control task and its own queue

`handle_client` and `handle_control_msg` in `crates/rgrok-server/src/control.rs`.

The task that takes messages out of a control channel also sends on it, so it
must not have to wait there: nobody else would make room.  It does wait when
the queue is full once it comes to send an answer (`flooded_blocked`).  It does
not when every message that needs an answer is read while there is room, and
the other senders leave that room while the answer is due
(`control_task_never_blocks`).
-/

import Rgrok.Server.ServerSteps

namespace Rgrok

/-- Whether `handle_control_msg` sends an answer to the message. -/
def ClientMsg.answered : ClientMsg → Bool
  | .tunnelRequest _ _ _ _ _ | .ping _ => true
  | .auth _ _ | .streamAck _ => false

/-- Whether `handle_control_msg` has yet to send its answer. -/
def Handling.answering : Handling → Bool
  | .deleteDns _ => false
  | .reserve _ | .hash _ | .createDns _ _ | .newSession _ | .register _ | .bind _ _ _
  | .registerTcp _ _ _ | .release _ _ _ _ | .releaseFailed _ _ | .reply _ _ => true

theorem Handling.answering_of_working {h : Handling} (hw : h.working = true) :
    h.answering = true := by
  cases h <;> first | rfl | exact Bool.noConfusion hw

/-! ### What moves a control task -/

namespace Roster

variable {v v' : Roster} {a : Lifecycle.Action} {c : ℕ}

/-- Only sending the answer leads on from there. -/
theorem Move.control_of_reply (m : v.Move a v') {msg : ServerMsg} {failed : Option TunnelSession}
    (hph : v.control c = .handling (.reply msg failed)) (ha : a ≠ .replied c) :
    v'.control c = .handling (.reply msg failed) := by
  cases m.conn c with
  | stay hcontrol hreg => rw [hcontrol, hph]
  | control hstep hreg =>
      rw [hph] at hstep
      generalize v'.control c = ph at hstep
      cases hstep with
      | breakLoop _ _ hold => rcases hold with hold | hold <;> cases hold
      | setup _ _ _ _ hworking => exact Bool.noConfusion hworking
      | replied | repliedFailed => exact absurd rfl ha
  | enterLoop _ hold _ _ =>
      rw [hph] at hold
      cases hold
  | publish h _ _ _ _ hold hworking =>
      rw [hph] at hold
      obtain rfl := ControlPhase.handling.inj hold
      exact Bool.noConfusion hworking
  | closing hold _ _ =>
      rw [hph] at hold
      exact Bool.noConfusion hold

/-- An answer that is due was due before, or its message was read in this step. -/
theorem Move.answering (m : v.Move a v') {h' : Handling} (hph : v'.control c = .handling h')
    (ha : h'.answering = true) :
    (∃ h, v.control c = .handling h ∧ h.answering = true) ∨
      ∃ msg draw, a = .handleControlMsg c msg draw ∧ msg.answered = true := by
  cases m.conn c with
  | stay hcontrol hreg => exact Or.inl ⟨h', hcontrol ▸ hph, ha⟩
  | control hstep hreg =>
      rw [hph] at hstep
      generalize v.control c = ph at hstep
      cases hstep with
      | request => exact Or.inr ⟨_, _, rfl, rfl⟩
      | ping => exact Or.inr ⟨_, _, rfl, rfl⟩
      | setup _ h _ _ hworking => exact Or.inl ⟨h, rfl, Handling.answering_of_working hworking⟩
      | repliedFailed => exact Bool.noConfusion ha
      | cleanup _ _ _ hclosing => exact Bool.noConfusion hclosing
  | enterLoop _ _ hnew _ =>
      rw [hph] at hnew
      cases hnew
  | publish h _ _ _ _ hold hworking =>
      exact Or.inl ⟨h, hold, Handling.answering_of_working hworking⟩
  | closing _ hnew _ =>
      rw [hph] at hnew
      exact Bool.noConfusion hnew

end Roster

namespace Server

variable {s s' : Server} {a : Action} {c r : ℕ} {config : Config}

/-- The task of the control loop waits in `control_tx.send` on its own channel,
which is full. -/
def Blocked (s : Server) (c : ℕ) : Prop :=
  .control ∈ (s.channels c).waiting ∧ (s.channels c).occupied = controlCapacity

/-- `handle_control_msg` has an answer to send and no permit for it. -/
def Owing (s : Server) (c : ℕ) : Prop :=
  (∃ h, s.life.tasks.control c = .handling h ∧ h.answering = true) ∧
    .control ∉ (s.channels c).granted

/-- A message that needs an answer is read only while the queue has room, and
while an answer is due the other senders do not take the last place. -/
structure LeavesRoom (s : Server) (a : Action) : Prop where
  read : ∀ c msg draw, a = .task (.handleControlMsg c msg draw) → msg.answered = true →
    (s.channels c).occupied < controlCapacity
  streamOpen : ∀ r t, a = .pollOpen r → s.streams.request r = .sending t →
    s.Owing t.session.conn → (s.channels t.session.conn).occupied + 1 < controlCapacity
  notice : ∀ removed, a = .task .reapNotified → s.life.tasks.reaper.removed = some removed →
    s.Owing removed.conn → (s.channels removed.conn).occupied + 1 < controlCapacity

theorem LeavesRoom.of_other (hread : ∀ c msg draw, a ≠ .task (.handleControlMsg c msg draw))
    (hopen : ∀ r, a ≠ .pollOpen r) (hnotice : a ≠ .task .reapNotified) : s.LeavesRoom a where
  read c msg draw ha _ := absurd ha (hread c msg draw)
  streamOpen r _ ha _ _ := absurd ha (hopen r)
  notice _ ha _ _ := absurd ha hnotice

theorem LeavesRoom.of_read {msg : ClientMsg} {draw : SubdomainDraw}
    (hroom : (s.channels c).occupied < controlCapacity) :
    s.LeavesRoom (.task (.handleControlMsg c msg draw)) where
  read c' msg' draw' ha _ := by
    injection ha with ha
    injection ha with hc
    exact hc ▸ hroom
  streamOpen _ _ ha := by cases ha
  notice _ ha := by cases ha

/-- The control task does not wait; it has a permit only to send an answer, and
there is one left for the answer it has to send. -/
structure Roomy (s : Server) (c : ℕ) : Prop where
  waiting : .control ∉ (s.channels c).waiting
  granted : .control ∈ (s.channels c).granted →
    ∃ msg failed, s.life.tasks.control c = .handling (.reply msg failed)
  room : s.Owing c → (s.channels c).occupied < controlCapacity

/-! ### What a step does to the control task and its permit -/

theorem Step.control_of_reply (hi : s.life.Inv) (h : s.Step a s') {msg : ServerMsg}
    {failed : Option TunnelSession} (hph : s.life.tasks.control c = .handling (.reply msg failed))
    (ha : a ≠ .task (.replied c)) : s'.life.tasks.control c = .handling (.reply msg failed) := by
  rcases h.rostered hi with ⟨b, rfl, -, hrostered⟩ | ⟨-, hlife⟩
  · exact hrostered.move.control_of_reply hph fun hb => ha (congrArg Action.task hb)
  · rw [hlife]
    exact hph

theorem Step.answering (hi : s.life.Inv) (h : s.Step a s')
    (hdue : ∃ h, s'.life.tasks.control c = .handling h ∧ h.answering = true) :
    (∃ h, s.life.tasks.control c = .handling h ∧ h.answering = true) ∨
      ∃ msg draw, a = .task (.handleControlMsg c msg draw) ∧ msg.answered = true := by
  obtain ⟨h', hph, hdue⟩ := hdue
  rcases h.rostered hi with ⟨b, rfl, -, hrostered⟩ | ⟨-, hlife⟩
  · rcases hrostered.move.answering hph hdue with hold | ⟨msg, draw, rfl, hmsg⟩
    · exact Or.inl hold
    · exact Or.inr ⟨msg, draw, rfl, hmsg⟩
  · exact Or.inl ⟨h', hlife ▸ hph, hdue⟩

/-- Once the answer is sent, none is due. -/
theorem Step.not_answering (h : s.Step (.task (.replied c)) s') :
    ¬ ∃ h, s'.life.tasks.control c = .handling h ∧ h.answering = true := by
  rintro ⟨h', hph, hdue⟩
  rcases h.life with ⟨b, hb, -, hlife⟩ | ⟨hne, -⟩
  · obtain rfl := Action.task.inj hb
    simp only [Lifecycle.step, Lifecycle.replied] at hlife
    split at hlife
    case h_3 => cases hlife
    all_goals
      have hlife := Option.some.inj hlife
      rw [← hlife] at hph
      simp only [Lifecycle.setControl, Tasks.control_setControl_self] at hph
    · cases hph
    · obtain rfl := ControlPhase.handling.inj hph
      exact Bool.noConfusion hdue
  · exact hne _ rfl

namespace Roomy

theorem new (config : Config) (c : ℕ) : (Server.new config).Roomy c where
  waiting h := by cases h
  granted h := by cases h
  room h := by
    obtain ⟨⟨h, hph, -⟩, -⟩ := h
    cases hph

/-- **Every step that leaves room keeps room.** -/
theorem step (hi : s.life.Inv) (hch : (s.channels c).Inv controlCapacity) (hr : s.Roomy c)
    (hroom : s.LeavesRoom a) (h : s.Step a s') : s'.Roomy c := by
  have granted (ha : a ≠ .task (.replied c))
      (hg : Sender.control ∈ (s'.channels c).granted → .control ∈ (s.channels c).granted)
      (hs : Sender.control ∈ (s'.channels c).granted) :
      ∃ msg failed, s'.life.tasks.control c = .handling (.reply msg failed) := by
    obtain ⟨msg, failed, hph⟩ := hr.granted (hg hs)
    exact ⟨msg, failed, h.control_of_reply hi hph ha⟩
  -- an answer due after the step was due before it, unless its message was just read
  have owing (hg : Sender.control ∈ (s.channels c).granted → .control ∈ (s'.channels c).granted)
      (hread : ∀ msg draw, a ≠ .task (.handleControlMsg c msg draw)) (hs : s'.Owing c) :
      s.Owing c := by
    rcases h.answering hi hs.1 with hdue | ⟨msg, draw, hmsg, -⟩
    · exact ⟨hdue, fun hold => hs.2 (hg hold)⟩
    · exact absurd hmsg (hread msg draw)
  have hchannel := h.channel c
  generalize hnew : s'.channels c = ch at hchannel granted owing
  cases hchannel with
  | stay _ hreplied hsent =>
      refine ⟨by rw [hnew]; exact hr.waiting, ?_, fun hs => ?_⟩
      · rw [hnew]
        exact granted hreplied fun hg => hg
      · rw [hnew]
        rcases h.answering hi hs.1 with hdue | ⟨msg, draw, rfl, hmsg⟩
        · exact hr.room ⟨hdue, hnew ▸ hs.2⟩
        · exact hroom.read c msg draw rfl hmsg
  | create =>
      refine ⟨by rw [hnew]; exact List.not_mem_nil, fun hg => ?_, fun _ => ?_⟩
      · rw [hnew] at hg
        cases hg
      · rw [hnew]
        decide
  | recv _ hqueue ha =>
      have hg (hs : Sender.control ∈ (s.channels c).recv.granted) :
          Sender.control ∈ (s.channels c).granted :=
        (Channel.mem_granted_recv hs).resolve_right hr.waiting
      refine ⟨?_, ?_, fun hs => ?_⟩
      · rw [hnew]
        exact fun hw => hr.waiting (Channel.mem_waiting_recv hw)
      · rw [hnew]
        exact granted (by rcases ha with rfl | rfl <;> simp) hg
      · rw [hnew]
        have hroom := hr.room (owing ?_ (by rcases ha with rfl | rfl <;> simp) hs)
        · exact Nat.lt_of_le_of_lt (Channel.occupied_recv_le hqueue) hroom
        · exact Channel.mem_granted_recv_of_mem
  | answer msg failed hph hgranted =>
      refine ⟨by rw [hnew]; exact hr.waiting, fun hg => ?_, fun hs => ?_⟩
      · rw [hnew] at hg
        exact absurd hg hch.not_mem_granted_push
      · exact absurd hs.1 h.not_answering
  | notice removed hremoved hconn =>
      subst hconn
      refine ⟨?_, ?_, fun hs => ?_⟩
      · rw [hnew, Channel.waiting_trySend]
        exact hr.waiting
      · rw [hnew]
        exact granted (by simp) fun hg => by rwa [Channel.granted_trySend] at hg
      · rw [hnew]
        refine Nat.lt_of_le_of_lt Channel.occupied_trySend_le (hroom.notice removed rfl hremoved ?_)
        exact owing (fun hg => by rwa [Channel.granted_trySend]) (by simp) hs
  | pollReply msg failed hph hgranted hwaiting =>
      have hlt := hr.room ⟨⟨_, hph, rfl⟩, hgranted⟩
      rw [Channel.acquire_of_lt hlt] at hnew
      refine ⟨by rw [hnew]; exact hr.waiting, fun _ => ?_, fun hs => ?_⟩
      · exact ⟨msg, failed, h.control_of_reply hi hph (by simp)⟩
      · refine absurd ?_ hs.2
        rw [hnew]
        exact List.mem_append_right _ (List.mem_singleton.2 rfl)
  | pollOpen r t hreq hconn hgranted hwaiting =>
      subst hconn
      refine ⟨?_, ?_, fun hs => ?_⟩
      · rw [hnew]
        intro hw
        rcases Channel.mem_waiting_acquire hw with hold | hne
        · exact hr.waiting hold
        · cases hne
      · rw [hnew]
        refine granted (by simp) fun hg => ?_
        rcases Channel.mem_granted_acquire hg with hold | hne
        · exact hold
        · cases hne
      · rw [hnew]
        refine Nat.lt_of_le_of_lt Channel.occupied_acquire_le (hroom.streamOpen r t rfl hreq ?_)
        exact owing Channel.mem_granted_acquire_of_mem (by simp) hs
  | send r t hreq hconn hgranted =>
      refine ⟨by rw [hnew]; exact hr.waiting, ?_, fun hs => ?_⟩
      · rw [hnew]
        exact granted (by simp) List.mem_of_mem_erase
      · rw [hnew, Channel.occupied_push hgranted]
        exact hr.room (owing (fun hg => (List.mem_erase_of_ne (by simp)).2 hg) (by simp) hs)
  | abandon r t hreq hconn =>
      have hg (hs : Sender.control ∈ ((s.channels c).cancel (.request r)).granted) :
          Sender.control ∈ (s.channels c).granted :=
        (Channel.mem_granted_cancel hs).resolve_right hr.waiting
      refine ⟨?_, ?_, fun hs => ?_⟩
      · rw [hnew]
        exact fun hw => hr.waiting (Channel.mem_waiting_cancel hw)
      · rw [hnew]
        exact granted (by simp) hg
      · rw [hnew]
        refine Nat.lt_of_le_of_lt Channel.occupied_cancel_le (hr.room (owing ?_ (by simp) hs))
        exact Channel.mem_granted_cancel_of_mem (by simp)

end Roomy

theorem roomy_of_reached (h : (machine config).ReachedBy LeavesRoom s) (c : ℕ) : s.Roomy c := by
  refine h.invariant (I := fun s => s.Roomy c) ?_ fun s a s' r hr hroom hstep => ?_
  · rintro s rfl
    exact Roomy.new config c
  · exact hr.step (inv_of_reachable r.reachable) (channel_inv_of_reachable r.reachable c) hroom
      (step_cases hstep)

/-- **The control task never waits on itself**, whatever the requests and the
clients do, in a run that always leaves room for the answer that is due. -/
theorem control_task_never_blocks (h : (machine config).ReachedBy LeavesRoom s) (c : ℕ) :
    ¬ s.Blocked c :=
  fun hb => (roomy_of_reached h c).waiting hb.1

/-- One answer: the client pings a fresh connection. -/
def connectRun : List Action :=
  [.task (.accept 0), .task (.enterLoop 0), .task (.enterSelect 0)]

theorem connectRun_isSome :
    ((machine .default).run (new .default) connectRun).isSome = true := by
  decide

def connected : Server :=
  ((machine .default).run (new .default) connectRun).get connectRun_isSome

theorem connected_reached : (machine .default).ReachedBy LeavesRoom connected := by
  refine Machine.ReachedBy.run (.init rfl) (fun a ha t => ?_) (Option.some_get connectRun_isSome).symm
  simp only [connectRun, List.mem_cons, List.not_mem_nil, or_false] at ha
  rcases ha with rfl | rfl | rfl <;> exact .of_other (by simp) (by simp) (by simp)

theorem ping_isSome :
    (connected.step (.task (.handleControlMsg 0 (.ping 1) Lifecycle.firstDraw))).isSome = true := by
  decide

def pinged : Server :=
  (connected.step (.task (.handleControlMsg 0 (.ping 1) Lifecycle.firstDraw))).get ping_isSome

theorem pinged_reached : (machine .default).ReachedBy LeavesRoom pinged :=
  connected_reached.step (a := .task (.handleControlMsg 0 (.ping 1) Lifecycle.firstDraw))
    (.of_read (by decide)) (Option.some_get ping_isSome).symm

theorem poll_isSome : (pinged.step (.pollReply 0)).isSome = true := by
  decide

/-- The `Pong` has its permit. -/
def ponging : Server :=
  (pinged.step (.pollReply 0)).get poll_isSome

theorem ponging_reached : (machine .default).ReachedBy LeavesRoom ponging :=
  pinged_reached.step (a := .pollReply 0) (.of_other (by simp) (by simp) (by simp))
    (Option.some_get poll_isSome).symm

theorem control_task_never_blocks_ponging :
    ponging.life.tasks.control 0 = .handling (.reply (.pong 1) none) ∧
      Sender.control ∈ (ponging.channels 0).granted ∧ ¬ ponging.Blocked 0 :=
  ⟨rfl, by decide, control_task_never_blocks ponging_reached 0⟩

/-- A registered tunnel has 64 requests queued when its client's `Ping` is read. -/
def floodRun : List Action :=
  registerHttpRun 0 "id" "web" ++ ackRun 0 ++ (List.range 64).flatMap (openRun (makeTestSession "web" "id" 0)) ++
    [.task (.handleControlMsg 0 (.ping 1) Lifecycle.firstDraw), .pollReply 0]

theorem floodRun_isSome : ((machine .default).run (new .default) floodRun).isSome = true := by
  decide +kernel

def flooded : Server :=
  ((machine .default).run (new .default) floodRun).get floodRun_isSome

theorem flooded_reachable : (machine .default).Reachable flooded :=
  Machine.reachable_get (.init rfl) floodRun_isSome

/-- **The control task can wait on itself**: 64 `StreamOpen`s stand in the queue
when the `Pong` is to be sent. -/
theorem flooded_blocked :
    ¬ ∀ s, (machine .default).Reachable s → ∀ c, ¬ s.Blocked c := by
  intro h
  have hblocked : Sender.control ∈ (flooded.channels 0).waiting ∧
      (flooded.channels 0).occupied = controlCapacity := by decide +kernel
  exact h flooded flooded_reachable 0 hblocked

end Server
end Rgrok
