/-
# The answer of a control task

`handle_control_msg` in `crates/rgrok-server/src/control.rs`.

The task that has an answer to send asks for a permit of its control channel and
queues the answer with it.  While it does not wait for a place in the queue it
always has a next step (`Server.goesOn_of_handling`), and every step it takes
brings it closer to the end of the message (`Server.effort_own`).  Once it waits
in a full queue it waits for ever (`Server.Stuck.step`).
-/

import Rgrok.Server.ControlQueue
import Rgrok.Server.Progress

namespace Rgrok
namespace Server

variable {s s' : Server} {a : Action} {c : ℕ}

/-- `handle_control_msg` has come to its answer. -/
def replying (s : Server) (c : ℕ) : Bool :=
  match s.life.tasks.control c with
  | .handling (.reply _ _) => true
  | _ => false

theorem replying_eq_true : s.replying c = true ↔
    ∃ msg failed, s.life.tasks.control c = .handling (.reply msg failed) := by
  rw [replying]
  split
  · rename_i msg failed hph
    exact ⟨fun _ => ⟨msg, failed, hph⟩, fun _ => rfl⟩
  · rename_i hne
    refine ⟨fun h => absurd h Bool.false_ne_true, ?_⟩
    rintro ⟨msg, failed, hph⟩
    exact absurd hph (hne msg failed)

/-- `handle_control_msg` has come to its answer and not yet asked for a permit. -/
def unpolled (s : Server) (c : ℕ) : Bool :=
  s.replying c && !(s.channels c).granted.contains .control &&
    !(s.channels c).waiting.contains .control

theorem unpolled_eq_true : s.unpolled c = true ↔
    (∃ msg failed, s.life.tasks.control c = .handling (.reply msg failed)) ∧
      ¬ (Sender.control ∈ (s.channels c).granted ∨ Sender.control ∈ (s.channels c).waiting) := by
  rw [unpolled, Bool.and_eq_true, Bool.and_eq_true, replying_eq_true, Bool.not_eq_true',
    Bool.not_eq_true', ← Bool.not_eq_true, ← Bool.not_eq_true, List.contains_iff_mem,
    List.contains_iff_mem, not_or, and_assoc]

/-- The answer of a control task waits for a place in a queue that is full. -/
structure Stuck (s : Server) (c : ℕ) : Prop where
  reply : ∃ msg failed, s.life.tasks.control c = .handling (.reply msg failed)
  full : (s.channels c).queue.length = controlCapacity

/-- A queue that is full has no permits out. -/
theorem Stuck.granted (hs : s.Stuck c) (hch : (s.channels c).Inv controlCapacity) :
    (s.channels c).granted = [] := by
  have hle : (s.channels c).queue.length + (s.channels c).granted.length ≤ controlCapacity :=
    hch.le
  have hfull := hs.full
  exact List.eq_nil_of_length_eq_zero (by omega)

/-- A task that waits in its own full queue takes no step. -/
theorem Stuck.other (hs : s.Stuck c) (hch : (s.channels c).Inv controlCapacity)
    (h : s.Step a s') : ∀ b, a = .task b → b.task ≠ .control c := by
  rintro b rfl htask
  obtain ⟨msg, failed, hph⟩ := hs.reply
  rcases h.life with ⟨b', hb, hallows, hlife⟩ | ⟨hne, -⟩
  · obtain rfl := Action.task.inj hb
    obtain rfl := Lifecycle.replied_of_own hlife htask hph
    simp only [allows, hs.granted hch, List.contains_nil, Bool.false_eq_true] at hallows
  · exact hne b rfl

/-- **Nobody else makes room**: a full queue stays full while its own reader waits
for a place in it. -/
theorem Stuck.step (hs : s.Stuck c) (hch : (s.channels c).Inv controlCapacity)
    (h : s.Step a s') : s'.Stuck c := by
  obtain ⟨msg, failed, hph⟩ := hs.reply
  have hgranted := hs.granted hch
  have hother := hs.other hch h
  have hcontrol : s'.life.tasks.control c = s.life.tasks.control c := by
    rcases h.life with ⟨b, ha, -, hlife⟩ | ⟨-, hlife⟩
    · exact Lifecycle.control_frame hlife (hother b ha)
    · rw [hlife]
  refine ⟨⟨msg, failed, hcontrol.trans hph⟩, ?_⟩
  have hchannel := h.channel c
  generalize s'.channels c = ch at hchannel
  cases hchannel with
  | stay => exact hs.full
  | create => exact absurd rfl (hother _ rfl)
  | recv _ _ ha =>
      rcases ha with rfl | rfl
      · exact absurd rfl (hother _ rfl)
      · exact absurd rfl (hother _ rfl)
  | answer => exact absurd rfl (hother _ rfl)
  | notice =>
      have hnot : ¬ (s.channels c).occupied < controlCapacity := by
        have hfull := hs.full
        rw [Channel.occupied, hgranted, List.length_nil]
        omega
      rw [Channel.trySend, if_neg hnot]
      exact hs.full
  | pollReply | pollOpen =>
      rw [Channel.queue_acquire]
      exact hs.full
  | send r t hreq hconn hmem =>
      rw [hgranted] at hmem
      cases hmem
  | abandon =>
      rw [Channel.queue_cancel]
      exact hs.full

/-- Only its own steps change whether a control task has asked for its permit. -/
theorem unpolled_of_step (h : s.Step a s') (hother : ∀ b, a = .task b → b.task ≠ .control c)
    (hpoll : a ≠ .pollReply c) (hs : s'.unpolled c = true) : s.unpolled c = true := by
  have hcontrol : s'.life.tasks.control c = s.life.tasks.control c := by
    rcases h.life with ⟨b, ha, -, hlife⟩ | ⟨-, hlife⟩
    · exact Lifecycle.control_frame hlife (hother b ha)
    · rw [hlife]
  have hchannel := h.channel c
  rw [unpolled_eq_true, hcontrol] at hs
  rw [unpolled_eq_true]
  refine ⟨hs.1, fun hheld => hs.2 ?_⟩
  generalize s'.channels c = ch at hchannel
  cases hchannel with
  | stay => exact hheld
  | create => exact absurd rfl (hother _ rfl)
  | recv _ _ ha =>
      rcases ha with rfl | rfl
      · exact absurd rfl (hother _ rfl)
      · exact absurd rfl (hother _ rfl)
  | answer => exact absurd rfl (hother _ rfl)
  | notice => simpa only [Channel.granted_trySend, Channel.waiting_trySend] using hheld
  | pollReply => exact absurd rfl hpoll
  | pollOpen =>
      exact hheld.imp Channel.mem_granted_acquire_of_mem Channel.mem_waiting_acquire_of_mem
  | send r =>
      have hne : Sender.control ≠ .request r := by simp
      exact hheld.imp_left (List.mem_erase_of_ne hne).2
  | abandon r => exact Channel.mem_cancel_of_mem (by simp) hheld

/-- Asking for the permit is the end of not having asked. -/
theorem unpolled_pollReply (h : s.Step (.pollReply c) s') :
    s.unpolled c = true ∧ s'.unpolled c = false := by
  cases h with
  | pollReply _ msg failed hph hgranted hwaiting =>
      constructor
      · rw [unpolled_eq_true]
        exact ⟨⟨msg, failed, hph⟩, not_or.2 ⟨hgranted, hwaiting⟩⟩
      · by_contra hs
        have hs := unpolled_eq_true.1 (Bool.of_not_eq_false hs)
        refine hs.2 ?_
        simp only [setChannel, Function.update_self, Channel.acquire]
        split
        · exact Or.inl (List.mem_append_right _ (List.mem_singleton.2 rfl))
        · exact Or.inr (List.mem_append_right _ (List.mem_singleton.2 rfl))

/-! ### The steps of a connection -/

/-- A step of the control task `c`. -/
def Action.own (c : ℕ) : Action → Bool
  | .task b => decide (b.task = .control c)
  | .pollReply c' => c' == c
  | _ => false

theorem Action.own_task {b : Lifecycle.Action} :
    (Action.task b).own c = true ↔ b.task = .control c := by
  rw [own, decide_eq_true_iff]

/-- The steps left of a control task before its next `select!`, with those that
ask for a permit. -/
def effort (s : Server) (c : ℕ) : ℕ :=
  2 * s.life.stepsLeft c + if s.unpolled c then 1 else 0

/-- **Every step pays for itself**: a step of the control task, but entering its
`select!`, makes its effort smaller, and no other step makes it larger. -/
theorem effort_step (h : s.Step a s') (hne : a ≠ .task (.enterSelect c)) :
    (if a.own c then 1 else 0) + s'.effort c ≤ s.effort c := by
  have hle : (if s'.unpolled c then 1 else 0) ≤ 1 := by
    split <;> omega
  by_cases hpoll : a = .pollReply c
  · subst hpoll
    have hlife : s'.life = s.life := by
      rcases h.life with ⟨b, hb, -, -⟩ | ⟨-, hlife⟩
      · cases hb
      · exact hlife
    obtain ⟨hold, hnew⟩ := unpolled_pollReply h
    have hown : (Action.pollReply c).own c = true := beq_self_eq_true c
    rw [hown, effort, effort, hlife, hold, hnew]
    simp only [if_true, Bool.false_eq_true, if_false]
    omega
  by_cases hown : ∃ b, a = .task b ∧ b.task = .control c
  · obtain ⟨b, rfl, htask⟩ := hown
    rcases h.life with ⟨b', hb, -, hlife⟩ | ⟨hnot, -⟩
    · obtain rfl := Action.task.inj hb
      have hlt := Lifecycle.stepsLeft_control hlife htask fun he => hne (congrArg Action.task he)
      rw [Action.own_task.2 htask, effort, effort]
      simp only [if_true]
      omega
    · exact absurd rfl (hnot b)
  · have hother : ∀ b, a = .task b → b.task ≠ .control c :=
      fun b hb htask => hown ⟨b, hb, htask⟩
    have hsteps : s'.life.stepsLeft c = s.life.stepsLeft c := by
      rcases h.life with ⟨b, ha, -, hlife⟩ | ⟨-, hlife⟩
      · exact Lifecycle.stepsLeft_frame hlife (hother b ha)
      · rw [hlife]
    have hmono := unpolled_of_step h hother hpoll
    have hunpolled : (if s'.unpolled c then 1 else 0) ≤ if s.unpolled c then 1 else 0 := by
      by_cases hs : s'.unpolled c = true
      · rw [if_pos hs, if_pos (hmono hs)]
      · rw [if_neg hs]
        omega
    have hnot : a.own c = false := by
      by_contra ho
      cases a with
      | task b => exact hother b rfl (Action.own_task.1 (Bool.of_not_eq_false ho))
      | pollReply c' =>
          have hc : c' = c := by simpa [Action.own] using ho
          exact hpoll (congrArg Action.pollReply hc)
      | _ => exact ho rfl
    rw [hnot, effort, effort, hsteps]
    simp only [Bool.false_eq_true, if_false]
    omega

/-! ### The next step -/

theorem task_isSome {b : Lifecycle.Action} (hallows : s.allows b = true)
    (hlife : (s.life.step b).isSome = true) : (s.step (.task b)).isSome = true := by
  rw [step, task, if_pos hallows, Option.isSome_map]
  exact hlife

theorem allows_of_proceeds {b : Lifecycle.Action} (hb : b.proceeds = true) : s.allows b = true := by
  cases b <;> first | exact rfl | cases hb

/-- The answer gets its permit or asks for one, when it need not wait. -/
theorem reply_isSome (hch : (s.channels c).Inv controlCapacity) (hroom : ¬ s.Blocked c)
    {msg : ServerMsg} {failed : Option TunnelSession}
    (hph : s.life.tasks.control c = .handling (.reply msg failed)) :
    (s.step (.task (.replied c))).isSome = true ∨ (s.step (.pollReply c)).isSome = true := by
  by_cases hgranted : Sender.control ∈ (s.channels c).granted
  · refine Or.inl (task_isSome (List.contains_iff_mem.2 hgranted) ?_)
    simp only [Lifecycle.step, Lifecycle.replied, hph]
    cases failed <;> rfl
  · by_cases hwaiting : Sender.control ∈ (s.channels c).waiting
    · exact absurd ⟨hwaiting, hch.full (List.ne_nil_of_mem hwaiting)⟩ hroom
    · have hnot : ¬ (Sender.control ∈ (s.channels c).granted ∨
          Sender.control ∈ (s.channels c).waiting) := not_or.2 ⟨hgranted, hwaiting⟩
      refine Or.inr ?_
      simp only [step, pollReply, hph, hnot, if_false, Option.isSome_some]

/-- The connection can take its next step. -/
def GoesOn (s : Server) (c : ℕ) : Prop :=
  ∃ a, a.own c = true ∧ (s.step a).isSome = true

/-- **A next step**: `handle_control_msg` goes on, unless its answer waits for a
place in the full channel. -/
theorem goesOn_of_handling (hch : (s.channels c).Inv controlCapacity) (hroom : ¬ s.Blocked c)
    {h : Handling} (hph : s.life.tasks.control c = .handling h) : s.GoesOn c := by
  by_cases hreply : ∃ msg failed, h = .reply msg failed
  · obtain ⟨msg, failed, rfl⟩ := hreply
    rcases reply_isSome hch hroom hph with hnext | hnext
    · exact ⟨.task (.replied c), Action.own_task.2 rfl, hnext⟩
    · exact ⟨.pollReply c, beq_self_eq_true c, hnext⟩
  · obtain ⟨b, htask, hproceeds, hlife⟩ := Lifecycle.can_step_handling hph
      fun msg failed he => hreply ⟨msg, failed, he⟩
    exact ⟨.task b, Action.own_task.2 htask, task_isSome (allows_of_proceeds hproceeds) hlife⟩

end Server
end Rgrok
