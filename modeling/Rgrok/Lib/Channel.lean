/-
# Bounded channels with permits

A bounded multi-producer channel with a fair queue of senders.  A sender first
gets a permit, waiting behind the others when none is free, and then enqueues
its message.  Taking a message out frees a permit, which goes to the sender
that has waited longest.

`Channel.occupied` counts the permits in use.  `Channel.Inv` says that they
stay within the capacity, that senders wait only for a full channel, and that
no sender is there twice.
-/

import Mathlib.Data.List.Basic

/-- A channel: the messages in it, the senders with a permit, and the senders
that wait for one, in the order they came. -/
structure Channel (Sender Msg : Type*) where
  queue : List Msg
  granted : List Sender
  waiting : List Sender

namespace Channel

variable {Sender Msg : Type*}

/-- A new channel. -/
def empty : Channel Sender Msg :=
  { queue := [], granted := [], waiting := [] }

/-- The permits in use. -/
def occupied (ch : Channel Sender Msg) : ℕ :=
  ch.queue.length + ch.granted.length

/-- A sender takes a free permit or starts to wait. -/
def acquire (ch : Channel Sender Msg) (capacity : ℕ) (x : Sender) : Channel Sender Msg :=
  if ch.occupied < capacity then
    { ch with granted := ch.granted ++ [x] }
  else
    { ch with waiting := ch.waiting ++ [x] }

/-- A permit comes free. -/
def release (ch : Channel Sender Msg) : Channel Sender Msg :=
  match ch.waiting with
  | [] => ch
  | x :: waiting => { ch with granted := ch.granted ++ [x], waiting := waiting }

/-- Take the first message out. -/
def recv (ch : Channel Sender Msg) : Channel Sender Msg :=
  release { ch with queue := ch.queue.tail }

/-- Enqueue without waiting, if a permit is free. -/
def trySend (ch : Channel Sender Msg) (capacity : ℕ) (m : Msg) : Channel Sender Msg :=
  if ch.occupied < capacity then { ch with queue := ch.queue ++ [m] } else ch

section Senders

variable [DecidableEq Sender]

/-- A sender with a permit enqueues its message. -/
def push (ch : Channel Sender Msg) (x : Sender) (m : Msg) : Channel Sender Msg :=
  { ch with queue := ch.queue ++ [m], granted := ch.granted.erase x }

/-- A sender goes away, with or without a permit. -/
def cancel (ch : Channel Sender Msg) (x : Sender) : Channel Sender Msg :=
  if x ∈ ch.granted then
    release { ch with granted := ch.granted.erase x }
  else
    { ch with waiting := ch.waiting.erase x }

end Senders

variable {ch : Channel Sender Msg} {capacity : ℕ} {x y : Sender} {m : Msg}

theorem acquire_of_lt (h : ch.occupied < capacity) :
    ch.acquire capacity x = { ch with granted := ch.granted ++ [x] } :=
  if_pos h

@[simp] theorem queue_acquire : (ch.acquire capacity x).queue = ch.queue := by
  rw [acquire]
  split <;> rfl

theorem occupied_acquire_le : (ch.acquire capacity x).occupied ≤ ch.occupied + 1 := by
  rw [acquire]
  split
  · simp only [occupied, List.length_append, List.length_singleton]
    omega
  · simp only [occupied]
    omega

theorem mem_waiting_acquire (h : y ∈ (ch.acquire capacity x).waiting) : y ∈ ch.waiting ∨ y = x := by
  rw [acquire] at h
  split at h
  · exact Or.inl h
  · rcases List.mem_append.1 h with hold | hnew
    · exact Or.inl hold
    · exact Or.inr (List.mem_singleton.1 hnew)

theorem mem_granted_acquire (h : y ∈ (ch.acquire capacity x).granted) : y ∈ ch.granted ∨ y = x := by
  rw [acquire] at h
  split at h
  · rcases List.mem_append.1 h with hold | hnew
    · exact Or.inl hold
    · exact Or.inr (List.mem_singleton.1 hnew)
  · exact Or.inl h

theorem mem_granted_acquire_of_mem (h : y ∈ ch.granted) : y ∈ (ch.acquire capacity x).granted := by
  rw [acquire]
  split
  · exact List.mem_append_left _ h
  · exact h

theorem mem_waiting_acquire_of_mem (h : y ∈ ch.waiting) : y ∈ (ch.acquire capacity x).waiting := by
  rw [acquire]
  split
  · exact h
  · exact List.mem_append_left _ h

@[simp] theorem queue_release : ch.release.queue = ch.queue := by
  rw [release]
  split <;> rfl

theorem occupied_release_le : ch.release.occupied ≤ ch.occupied + 1 := by
  rw [release]
  split
  · omega
  · simp only [occupied, List.length_append, List.length_singleton]
    omega

theorem mem_waiting_release (h : y ∈ ch.release.waiting) : y ∈ ch.waiting := by
  rw [release] at h
  split at h
  · exact h
  · rename_i hw
    rw [hw]
    exact List.mem_cons_of_mem _ h

/-- A freed permit goes to a sender that was waiting. -/
theorem mem_granted_release (h : y ∈ ch.release.granted) : y ∈ ch.granted ∨ y ∈ ch.waiting := by
  rw [release] at h
  split at h
  · exact Or.inl h
  · rename_i z waiting hw
    rcases List.mem_append.1 h with hold | hnew
    · exact Or.inl hold
    · rw [hw, List.mem_singleton.1 hnew]
      exact Or.inr (List.mem_cons_self ..)

theorem mem_granted_release_of_mem (h : y ∈ ch.granted) : y ∈ ch.release.granted := by
  rw [release]
  split
  · exact h
  · exact List.mem_append_left _ h

/-- A sender that waits goes on waiting or is granted the freed permit. -/
theorem mem_release_of_mem (h : y ∈ ch.granted ∨ y ∈ ch.waiting) :
    y ∈ ch.release.granted ∨ y ∈ ch.release.waiting := by
  rcases h with h | h
  · exact Or.inl (mem_granted_release_of_mem h)
  · rw [release]
    split
    · exact Or.inr h
    · rename_i z waiting hw
      rw [hw] at h
      rcases List.mem_cons.1 h with rfl | h
      · exact Or.inl (List.mem_append_right _ (List.mem_singleton.2 rfl))
      · exact Or.inr h

@[simp] theorem queue_recv : ch.recv.queue = ch.queue.tail :=
  queue_release

theorem occupied_recv_le (h : ch.queue ≠ []) : ch.recv.occupied ≤ ch.occupied := by
  have hpos := List.length_pos_of_ne_nil h
  refine Nat.le_trans occupied_release_le ?_
  simp only [occupied, List.length_tail]
  omega

theorem mem_waiting_recv (h : y ∈ ch.recv.waiting) : y ∈ ch.waiting := by
  have hold : y ∈ ({ ch with queue := ch.queue.tail } : Channel Sender Msg).waiting :=
    mem_waiting_release h
  exact hold

theorem mem_granted_recv (h : y ∈ ch.recv.granted) : y ∈ ch.granted ∨ y ∈ ch.waiting := by
  have hold : y ∈ ({ ch with queue := ch.queue.tail } : Channel Sender Msg).granted ∨
      y ∈ ch.waiting :=
    mem_granted_release h
  exact hold

theorem mem_granted_recv_of_mem (h : y ∈ ch.granted) : y ∈ ch.recv.granted := by
  rw [recv]
  exact mem_granted_release_of_mem h

theorem occupied_trySend_le : (ch.trySend capacity m).occupied ≤ ch.occupied + 1 := by
  rw [trySend]
  split
  · simp only [occupied, List.length_append, List.length_singleton]
    omega
  · omega

@[simp] theorem waiting_trySend : (ch.trySend capacity m).waiting = ch.waiting := by
  rw [trySend]
  split <;> rfl

@[simp] theorem granted_trySend : (ch.trySend capacity m).granted = ch.granted := by
  rw [trySend]
  split <;> rfl

section Senders

variable [DecidableEq Sender]

theorem occupied_push (h : x ∈ ch.granted) : (ch.push x m).occupied = ch.occupied := by
  simp only [push, occupied, List.length_append, List.length_singleton,
    List.length_erase_of_mem h]
  have := List.length_pos_of_mem h
  omega

theorem occupied_cancel_le : (ch.cancel x).occupied ≤ ch.occupied := by
  rw [cancel]
  split
  · rename_i h
    refine Nat.le_trans occupied_release_le ?_
    simp only [occupied, List.length_erase_of_mem h]
    have := List.length_pos_of_mem h
    omega
  · simp only [occupied]
    omega

@[simp] theorem queue_cancel : (ch.cancel x).queue = ch.queue := by
  rw [cancel]
  split
  · exact queue_release
  · rfl

theorem mem_waiting_cancel (h : y ∈ (ch.cancel x).waiting) : y ∈ ch.waiting := by
  rw [cancel] at h
  split at h
  · have hold : y ∈ ch.waiting := by simpa only using mem_waiting_release h
    exact hold
  · exact List.mem_of_mem_erase h

theorem mem_granted_cancel (h : y ∈ (ch.cancel x).granted) : y ∈ ch.granted ∨ y ∈ ch.waiting := by
  rw [cancel] at h
  split at h
  · exact (mem_granted_release h).imp_left List.mem_of_mem_erase
  · exact Or.inl h

theorem mem_granted_cancel_of_mem (hne : y ≠ x) (h : y ∈ ch.granted) :
    y ∈ (ch.cancel x).granted := by
  rw [cancel]
  split
  · exact mem_granted_release_of_mem ((List.mem_erase_of_ne hne).2 h)
  · exact h

/-- Another sender that has come stays, when one goes away. -/
theorem mem_cancel_of_mem (hne : y ≠ x) (h : y ∈ ch.granted ∨ y ∈ ch.waiting) :
    y ∈ (ch.cancel x).granted ∨ y ∈ (ch.cancel x).waiting := by
  rw [cancel]
  split
  · exact mem_release_of_mem (h.imp_left (List.mem_erase_of_ne hne).2)
  · exact h.imp_right (List.mem_erase_of_ne hne).2

end Senders

/-- The permits stay within the capacity, senders wait only for a full channel,
and no sender is there twice. -/
structure Inv (ch : Channel Sender Msg) (capacity : ℕ) : Prop where
  le : ch.occupied ≤ capacity
  full : ch.waiting ≠ [] → ch.occupied = capacity
  nodup : (ch.granted ++ ch.waiting).Nodup

namespace Inv

theorem empty : Inv (empty : Channel Sender Msg) capacity where
  le := Nat.zero_le _
  full h := absurd rfl h
  nodup := List.nodup_nil

theorem acquire (h : ch.Inv capacity) (hg : x ∉ ch.granted) (hw : x ∉ ch.waiting) :
    (ch.acquire capacity x).Inv capacity := by
  have hnodup : (x :: (ch.granted ++ ch.waiting)).Nodup :=
    List.nodup_cons.2 ⟨by simp [hg, hw], h.nodup⟩
  rw [Channel.acquire]
  split
  · rename_i hlt
    refine ⟨?_, fun hne => absurd (h.full hne) (Nat.ne_of_lt hlt), ?_⟩
    · simp only [occupied, List.length_append, List.length_singleton] at hlt ⊢
      omega
    · refine (List.Perm.nodup_iff ?_).1 hnodup
      rw [List.append_assoc]
      exact List.perm_middle.symm
  · rename_i hfull
    refine ⟨h.le, fun _ => Nat.le_antisymm h.le (Nat.le_of_not_lt hfull), ?_⟩
    refine (List.Perm.nodup_iff ?_).1 hnodup
    rw [← List.append_assoc]
    exact (List.perm_append_singleton x _).symm

/-- A permit that is given back goes to a waiting sender, or comes free. -/
theorem release (h : ch.occupied + 1 ≤ capacity)
    (hfull : ch.waiting ≠ [] → ch.occupied + 1 = capacity)
    (hnodup : (ch.granted ++ ch.waiting).Nodup) : ch.release.Inv capacity := by
  rw [Channel.release]
  split
  · rename_i hw
    exact ⟨Nat.le_of_succ_le h, fun hne => absurd hw hne, hnodup⟩
  · rename_i y waiting hw
    have heq := hfull (by rw [hw]; exact List.cons_ne_nil _ _)
    simp only [occupied] at heq
    refine ⟨?_, fun _ => ?_, ?_⟩
    · simp only [occupied, List.length_append, List.length_singleton]
      omega
    · simp only [occupied, List.length_append, List.length_singleton]
      omega
    · rw [hw] at hnodup
      simpa only [List.append_assoc, List.singleton_append] using hnodup

theorem recv (h : ch.Inv capacity) (hq : ch.queue ≠ []) : ch.recv.Inv capacity := by
  have hpos := List.length_pos_of_ne_nil hq
  have hle := h.le
  have hfull := h.full
  simp only [occupied] at hle hfull
  refine release ?_ (fun hw => ?_) h.nodup
  · simp only [occupied, List.length_tail]
    omega
  · have := hfull hw
    simp only [occupied, List.length_tail]
    omega

theorem trySend (h : ch.Inv capacity) : (ch.trySend capacity m).Inv capacity := by
  rw [Channel.trySend]
  split
  · rename_i hlt
    refine ⟨?_, fun hw => absurd (h.full hw) (Nat.ne_of_lt hlt), h.nodup⟩
    simp only [occupied, List.length_append, List.length_singleton] at hlt ⊢
    omega
  · exact h

variable [DecidableEq Sender]

theorem push (h : ch.Inv capacity) (hx : x ∈ ch.granted) : (ch.push x m).Inv capacity where
  le := by rw [occupied_push hx]; exact h.le
  full hw := (occupied_push hx).trans (h.full hw)
  nodup := h.nodup.sublist (List.erase_sublist.append_right _)

/-- A sender that has sent has no permit left. -/
theorem not_mem_granted_push (h : ch.Inv capacity) : x ∉ (ch.push x m).granted :=
  fun hx => ((List.nodup_append.1 h.nodup).1.mem_erase_iff.1 hx).1 rfl

theorem cancel (h : ch.Inv capacity) : (ch.cancel x).Inv capacity := by
  rw [Channel.cancel]
  split
  · rename_i hx
    have hpos := List.length_pos_of_mem hx
    have hle := h.le
    have hfull := h.full
    simp only [occupied] at hle hfull
    refine release ?_ (fun hw => ?_) (h.nodup.sublist (List.erase_sublist.append_right _))
    · simp only [occupied, List.length_erase_of_mem hx]
      omega
    · have := hfull hw
      simp only [occupied, List.length_erase_of_mem hx]
      omega
  · refine ⟨h.le, fun hw => h.full fun hnil => hw ?_,
      h.nodup.sublist (List.erase_sublist.append_left _)⟩
    rw [hnil]
    rfl

end Inv
end Channel
