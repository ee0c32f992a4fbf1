/-
# Ring buffers on lists

A queue of at most `n` items, where the oldest makes room for the newest.  What
it holds after any number of pushes are the last `n` items pushed
(`Ring.foldl_push`), for every `n` but zero: without room for one item the newest
stays all the same (`Ring.length_push_zero`).
-/

import Mathlib.Data.List.DropRight

namespace Ring

variable {α : Type*} {n : ℕ}

/-- A push, with room for `n` items. -/
def push (n : ℕ) (queue : List α) (a : α) : List α :=
  (if n ≤ queue.length then queue.tail else queue) ++ [a]

theorem length_rtake (l : List α) (n : ℕ) : (l.rtake n).length = min n l.length := by
  rw [List.rtake, List.length_drop]
  omega

/-- **A push into the last `n` items** gives the last `n`. -/
theorem push_rtake (hn : 0 < n) (l : List α) (a : α) :
    push n (l.rtake n) a = (l ++ [a]).rtake n := by
  obtain ⟨m, rfl⟩ := Nat.exists_eq_add_of_lt hn
  rw [Nat.zero_add, List.rtake_concat_succ, push, length_rtake]
  congr 1
  rw [List.rtake, List.rtake]
  split
  · rw [List.tail_drop]
    congr 1
    omega
  · rw [show l.length - (m + 1) = 0 by omega, show l.length - m = 0 by omega]

/-- **A ring buffer** holds what was pushed last. -/
theorem foldl_push (hn : 0 < n) (l : List α) : l.foldl (push n) [] = l.rtake n := by
  induction l using List.reverseRecOn with
  | nil => rw [List.foldl_nil, List.rtake_nil]
  | append_singleton l a ih =>
      rw [List.foldl_append, List.foldl_cons, List.foldl_nil, ih, push_rtake hn]

theorem length_push_zero (a : α) : (push 0 [] a).length = 1 :=
  rfl

theorem mem_of_mem_rtake {l : List α} {a : α} (h : a ∈ l.rtake n) : a ∈ l :=
  List.mem_of_mem_drop h

/-- Items of a ring buffer are changed where they are. -/
theorem map_rtake {β : Type*} (f : α → β) (l : List α) (n : ℕ) :
    (l.rtake n).map f = (l.map f).rtake n := by
  rw [List.rtake, List.rtake, List.map_drop, List.length_map]

end Ring
