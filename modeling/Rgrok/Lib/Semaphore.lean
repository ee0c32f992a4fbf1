/-
# Fair semaphores

A channel that nothing is sent through is a fair semaphore: its capacity is the
number of permits, its senders are the tasks that want one.

`Channel.InOrder` says that permits are given out in the order the tasks came,
whoever goes away in between (`Channel.InOrder.sublist`).
-/

import Rgrok.Lib.Channel

namespace Channel

variable {Sender Msg : Type*} {ch : Channel Sender Msg} {capacity : ℕ} {x y : Sender}
  {arrived : List Sender}

/-- The senders with a permit came before those that wait, and these wait in the order they
came. -/
def InOrder (arrived : List Sender) (ch : Channel Sender Msg) : Prop :=
  ∃ early late, arrived = early ++ late ∧ (∀ y ∈ ch.granted, y ∈ early) ∧ ch.waiting.Sublist late

namespace InOrder

theorem empty : InOrder [] (empty : Channel Sender Msg) :=
  ⟨[], [], rfl, List.forall_mem_nil _, List.Sublist.refl _⟩

/-- The next one to come gets a permit if nobody waits, or is the last to wait. -/
theorem acquire (h : InOrder arrived ch) (hinv : ch.Inv capacity) :
    InOrder (arrived ++ [x]) (ch.acquire capacity x) := by
  obtain ⟨early, late, rfl, hgranted, hwaiting⟩ := h
  rw [Channel.acquire]
  split
  · rename_i hlt
    have hnobody : ch.waiting = [] := by
      by_contra hne
      exact absurd (hinv.full hne) (Nat.ne_of_lt hlt)
    refine ⟨early ++ late ++ [x], [], (List.append_nil _).symm, fun y hy => ?_, ?_⟩
    · rcases List.mem_append.1 hy with hy | hy
      · exact List.mem_append_left _ (List.mem_append_left _ (hgranted y hy))
      · exact List.mem_append_right _ hy
    · rw [show ({ ch with granted := ch.granted ++ [x] } : Channel Sender Msg).waiting = [] from
        hnobody]
  · exact ⟨early, late ++ [x], List.append_assoc .., hgranted, hwaiting.append_right [x]⟩

/-- A permit goes to the one that has waited longest. -/
theorem release (h : InOrder arrived ch) : InOrder arrived ch.release := by
  obtain ⟨early, late, rfl, hgranted, hwaiting⟩ := h
  rw [Channel.release]
  split
  · exact ⟨early, late, rfl, hgranted, hwaiting⟩
  · rename_i x waiting hw
    rw [hw] at hwaiting
    obtain ⟨skipped, rest, rfl, hx, hrest⟩ := List.cons_sublist_iff.1 hwaiting
    refine ⟨early ++ skipped, rest, (List.append_assoc ..).symm, fun y hy => ?_, hrest⟩
    rcases List.mem_append.1 hy with hy | hy
    · exact List.mem_append_left _ (hgranted y hy)
    · obtain rfl := List.mem_singleton.1 hy
      exact List.mem_append_right _ hx

/-- Whoever goes away leaves the others in order. -/
theorem cancel [DecidableEq Sender] (h : InOrder arrived ch) : InOrder arrived (ch.cancel x) := by
  obtain ⟨early, late, rfl, hgranted, hwaiting⟩ := h
  rw [Channel.cancel]
  split
  · exact release ⟨early, late, rfl, fun y hy => hgranted y (List.mem_of_mem_erase hy), hwaiting⟩
  · exact ⟨early, late, rfl, hgranted, List.erase_sublist.trans hwaiting⟩

/-- Who has a permit came before all who wait for one. -/
theorem sublist (h : InOrder arrived ch) (hx : x ∈ ch.granted) (hy : y ∈ ch.waiting) :
    [x, y].Sublist arrived := by
  obtain ⟨early, late, rfl, hgranted, hwaiting⟩ := h
  exact (List.singleton_sublist.2 (hgranted x hx)).append
    (List.singleton_sublist.2 (hwaiting.subset hy))

end InOrder

/-- The next one to come is there. -/
theorem mem_acquire :
    x ∈ (ch.acquire capacity x).granted ∨ x ∈ (ch.acquire capacity x).waiting := by
  rw [acquire]
  split
  · exact Or.inl (List.mem_append_right _ (List.mem_singleton.2 rfl))
  · exact Or.inr (List.mem_append_right _ (List.mem_singleton.2 rfl))

theorem waiting_release : ch.release.waiting = ch.waiting.tail := by
  rw [release]
  split
  · rename_i hw
    rw [hw]
    rfl
  · rename_i hw
    rw [hw]
    rfl

/-- Somebody holds a permit that others wait for. -/
theorem Inv.exists_granted (h : ch.Inv capacity) (hcapacity : 0 < capacity)
    (hqueue : ch.queue = []) (hy : y ∈ ch.waiting) : ∃ x, x ∈ ch.granted := by
  have hfull := h.full (List.ne_nil_of_mem hy)
  rw [occupied, hqueue, List.length_nil, Nat.zero_add] at hfull
  exact List.exists_mem_of_length_pos (hfull ▸ hcapacity)

section

variable [DecidableEq Sender]

/-- Who gives a permit back lets the first of those that wait go on. -/
theorem waiting_cancel_of_mem (h : x ∈ ch.granted) : (ch.cancel x).waiting = ch.waiting.tail := by
  rw [cancel, if_pos h]
  exact waiting_release

/-- Whoever goes away is not there any more. -/
theorem Inv.not_mem_cancel (h : ch.Inv capacity) :
    x ∉ (ch.cancel x).granted ∧ x ∉ (ch.cancel x).waiting := by
  obtain ⟨hgranted, hwaiting, hdisjoint⟩ := List.nodup_append.1 h.nodup
  by_cases hx : x ∈ ch.granted
  · have hnotWaiting : x ∉ ch.waiting := fun hw => hdisjoint x hx x hw rfl
    refine ⟨?_, fun hw => hnotWaiting (mem_waiting_cancel hw)⟩
    rw [Channel.cancel, if_pos hx]
    intro hrelease
    rcases mem_granted_release hrelease with hold | hnew
    · exact (hgranted.mem_erase_iff.1 hold).1 rfl
    · exact hnotWaiting hnew
  · rw [Channel.cancel, if_neg hx]
    exact ⟨hx, fun hw => (hwaiting.mem_erase_iff.1 hw).1 rfl⟩

end

end Channel
