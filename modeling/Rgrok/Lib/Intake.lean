/-
# A buffer in front of a stream

A `ByteStream` is what a peer sends: the pieces in which it arrives, none of
them empty, and what comes behind them.  A read takes some bytes off its front
(`ByteStream.read_spec`).  An `Intake` is a stream with the bytes that were read
from it and not yet taken, and `position` finds a pattern in them.
-/

import Mathlib.Data.List.Basic

variable {α : Type*}

/-! ### The first place of a pattern -/

/-- `windows(pattern.len()).position(|window| window == pattern)`. -/
def position [DecidableEq α] (pattern : List α) : List α → Option ℕ
  | [] => if pattern = [] then some 0 else none
  | a :: s =>
      if pattern.isPrefixOf (a :: s) then some 0 else (position pattern s).map (· + 1)

section position

variable [DecidableEq α] {pattern s t : List α} {n : ℕ}

/-- A pattern is found where it stands. -/
theorem position_spec (h : position pattern s = some n) :
    ∃ before after, s = before ++ pattern ++ after ∧ before.length = n := by
  induction s generalizing n with
  | nil =>
      rw [position, Option.ite_none_right_eq_some] at h
      obtain ⟨rfl, h⟩ := h
      exact ⟨[], [], rfl, Option.some.inj h⟩
  | cons a s ih =>
      rw [position] at h
      split at h
      · rename_i hbegins
        obtain ⟨after, hafter⟩ := List.isPrefixOf_iff_prefix.1 hbegins
        exact ⟨[], after, hafter.symm, Option.some.inj h⟩
      · obtain ⟨m, hm, rfl⟩ := Option.map_eq_some_iff.1 h
        obtain ⟨before, after, rfl, rfl⟩ := ih hm
        exact ⟨a :: before, after, rfl, rfl⟩

theorem position_eq_none : position pattern s = none ↔ ¬ pattern <:+: s := by
  induction s with
  | nil =>
      rw [position, List.infix_nil]
      split
      · rename_i hnil
        simp only [reduceCtorEq, hnil, not_true_eq_false]
      · rename_i hne
        simp only [hne, not_false_eq_true]
  | cons a s ih =>
      rw [position, List.infix_cons_iff, not_or, ← ih]
      split
      · rename_i hbegins
        simp only [reduceCtorEq, List.isPrefixOf_iff_prefix.1 hbegins, not_true_eq_false,
          false_and]
      · rename_i hbegins
        rw [Option.map_eq_none_iff, ← List.isPrefixOf_iff_prefix]
        exact ⟨fun h => ⟨hbegins, h⟩, fun h => h.2⟩

/-- What comes behind the first place does not move it. -/
theorem position_append (h : position pattern s = some n) :
    position pattern (s ++ t) = some n := by
  induction s generalizing n with
  | nil =>
      rw [position, Option.ite_none_right_eq_some] at h
      obtain ⟨rfl, h⟩ := h
      obtain rfl := Option.some.inj h
      cases t with
      | nil => rfl
      | cons b t => rfl
  | cons a s ih =>
      rw [position] at h
      rw [List.cons_append, position]
      split at h
      · rename_i hbegins
        have hlonger : pattern <+: a :: (s ++ t) :=
          (List.isPrefixOf_iff_prefix.1 hbegins).trans (List.prefix_append (a :: s) t)
        rw [if_pos (List.isPrefixOf_iff_prefix.2 hlonger)]
        exact h
      · rename_i hbegins
        obtain ⟨m, hm, rfl⟩ := Option.map_eq_some_iff.1 h
        have hshort : ¬ pattern <+: a :: (s ++ t) := by
          rintro hlonger
          obtain ⟨before, after, hs, -⟩ := position_spec hm
          have hlen : pattern.length ≤ (a :: s).length := by
            rw [hs]
            simp only [List.length_cons, List.length_append]
            omega
          refine hbegins (List.isPrefixOf_iff_prefix.2 ?_)
          exact List.prefix_of_prefix_length_le hlonger (List.prefix_append (a :: s) t) hlen
        rw [if_neg fun h => hshort (List.isPrefixOf_iff_prefix.1 h), ih hm, Option.map_some]

/-- A pattern that is nowhere before is found where it stands. -/
theorem position_first {before : List α} (hne : pattern ≠ [])
    (h : ¬ pattern <:+: before ++ pattern.dropLast) (after : List α) :
    position pattern (before ++ pattern ++ after) = some before.length := by
  refine position_append ?_
  cases hpos : position pattern (before ++ pattern) with
  | none => exact absurd ⟨before, [], by rw [List.append_nil]⟩ (position_eq_none.1 hpos)
  | some n =>
      obtain ⟨before', after', heq, rfl⟩ := position_spec hpos
      cases List.eq_nil_or_concat after' with
      | inl hnil =>
          rw [hnil, List.append_nil] at heq
          rw [(List.append_inj' heq rfl).1]
      | inr hmore =>
          obtain ⟨init, last, rfl⟩ := hmore
          refine absurd ⟨before', init, ?_⟩ h
          have hdrop := congrArg List.dropLast heq
          rw [List.concat_eq_append, ← List.append_assoc, List.dropLast_concat,
            List.dropLast_append_of_ne_nil hne] at hdrop
          exact hdrop.symm

/-- In a beginning of `t` the pattern is where it is in `t`, or nowhere. -/
theorem position_of_prefix (ht : position pattern t = some n) (hs : s <+: t) :
    (position pattern s = some n ∧ n + pattern.length ≤ s.length) ∨
      (position pattern s = none ∧ s.length < n + pattern.length) := by
  obtain ⟨rest, rfl⟩ := hs
  cases hpos : position pattern s with
  | none =>
      refine Or.inr ⟨rfl, ?_⟩
      by_contra hle
      have hle := Nat.le_of_not_lt hle
      obtain ⟨before, after, heq, rfl⟩ := position_spec ht
      have hbegins : before ++ pattern <+: s :=
        List.prefix_of_prefix_length_le ⟨after, heq.symm⟩ (List.prefix_append s rest)
          (by rw [List.length_append]; exact hle)
      obtain ⟨tail, hs⟩ := hbegins
      exact position_eq_none.1 hpos ⟨before, tail, hs⟩
  | some m =>
      obtain rfl := Option.some.inj ((position_append hpos).symm.trans ht)
      obtain ⟨before, after, rfl, rfl⟩ := position_spec hpos
      refine Or.inl ⟨rfl, ?_⟩
      simp only [List.length_append]
      omega

end position

/-! ### What is cut short -/

/-- `s` is the beginning of `t`, and not all of it. -/
def CutShort (s t : List α) : Prop :=
  s <+: t ∧ s ≠ t

namespace CutShort

variable {s t u : List α}

theorem length_lt (h : CutShort s t) : s.length < t.length := by
  obtain ⟨hbegins, hne⟩ := h
  have hle := hbegins.length_le
  by_contra hge
  exact hne (hbegins.eq_of_length (by omega))

/-- The cut is in the first part, or in the second. -/
theorem append (h : CutShort s (t ++ u)) :
    CutShort s t ∨ ∃ s', s = t ++ s' ∧ CutShort s' u := by
  obtain ⟨hbegins, hne⟩ := h
  rcases Nat.lt_or_ge s.length t.length with hlt | hge
  · refine Or.inl ⟨?_, fun heq => ?_⟩
    · exact List.prefix_of_prefix_length_le hbegins (List.prefix_append t u) (by omega)
    · rw [heq] at hlt
      omega
  · obtain ⟨s', rfl⟩ := List.prefix_of_prefix_length_le (List.prefix_append t u) hbegins hge
    refine Or.inr ⟨s', rfl, (List.prefix_append_right_inj t).1 hbegins, ?_⟩
    rintro rfl
    exact hne rfl

end CutShort

/-! ### Streams -/

/-- What comes when all pieces have arrived: nothing yet, the end of the
stream, or an error. -/
inductive Ending
  | silent
  | eof
  | error
deriving DecidableEq

/-- What a peer sends. -/
structure ByteStream (α : Type*) where
  arrivals : List (List α)
  ending : Ending
  nonempty : ∀ piece ∈ arrivals, piece ≠ []

/-- What a `read` gives. -/
inductive Reading (α : Type*)
  | waiting
  | ended
  | broken
  | read (piece : List α) (stream : ByteStream α)

namespace ByteStream

/-- All that will arrive. -/
def bytes (stream : ByteStream α) : List α :=
  stream.arrivals.flatten

/-- `read` of at most `max` bytes. -/
def read (max : ℕ) (stream : ByteStream α) : Reading α :=
  match h : stream.arrivals with
  | [] =>
      match stream.ending with
      | .silent => .waiting
      | .eof => .ended
      | .error => .broken
  | piece :: arrivals =>
      have later : ∀ piece' ∈ arrivals, piece' ≠ [] := fun piece' hmem =>
        stream.nonempty piece' (h ▸ List.mem_cons_of_mem _ hmem)
      if hle : piece.length ≤ max then
        .read piece ⟨arrivals, stream.ending, later⟩
      else
        .read (piece.take max)
          { arrivals := piece.drop max :: arrivals
            ending := stream.ending
            nonempty := List.forall_mem_cons.2 ⟨by
              rw [ne_eq, List.drop_eq_nil_iff]
              exact hle, later⟩ }

variable {stream stream' : ByteStream α} {m : ℕ} {piece : List α}

/-- **One read.**  A read takes some bytes, one at least and at most `m`, off
the stream. -/
theorem read_spec (hmax : 0 < m) (h : stream.read m = .read piece stream') :
    piece ≠ [] ∧ piece.length ≤ m ∧ stream.bytes = piece ++ stream'.bytes ∧
      stream'.ending = stream.ending := by
  unfold read at h
  split at h
  · split at h <;> cases h
  · rename_i first arrivals harr
    have hne : first ≠ [] := stream.nonempty first (by rw [harr]; exact List.mem_cons_self)
    have hbytes : stream.bytes = first ++ arrivals.flatten := by
      rw [bytes, harr, List.flatten_cons]
    split at h
    · rename_i hle
      obtain ⟨rfl, rfl⟩ := Reading.read.inj h
      exact ⟨hne, hle, hbytes, rfl⟩
    · rename_i hlt
      obtain ⟨rfl, rfl⟩ := Reading.read.inj h
      refine ⟨?_, List.length_take_le .., ?_, rfl⟩
      · rw [ne_eq, List.take_eq_nil_iff, not_or]
        exact ⟨by omega, hne⟩
      · rw [hbytes]
        simp only [bytes, List.flatten_cons, ← List.append_assoc, List.take_append_drop]

theorem length_read (hmax : 0 < m) (h : stream.read m = .read piece stream') :
    stream'.bytes.length < stream.bytes.length := by
  obtain ⟨hne, -, hbytes, -⟩ := read_spec hmax h
  have hpos := List.length_pos_iff.2 hne
  rw [hbytes, List.length_append]
  omega

/-- Nothing is read when nothing is left. -/
theorem bytes_eq_nil (stream : ByteStream α) (m : ℕ)
    (h : ∀ piece stream', stream.read m ≠ .read piece stream') :
    stream.bytes = [] := by
  cases harr : stream.arrivals with
  | nil => rw [bytes, harr, List.flatten_nil]
  | cons first arrivals =>
      exfalso
      unfold read at h
      split at h
      · rename_i hnil
        rw [hnil] at harr
        cases harr
      · split at h
        · exact h _ _ rfl
        · exact h _ _ rfl

theorem ending_of_waiting (h : stream.read m = .waiting) : stream.ending = .silent := by
  unfold read at h
  split at h
  · split at h
    · assumption
    · cases h
    · cases h
  · split at h <;> cases h

theorem ending_of_broken (h : stream.read m = .broken) : stream.ending = .error := by
  unfold read at h
  split at h
  · split at h
    · cases h
    · cases h
    · assumption
  · split at h <;> cases h

end ByteStream

/-- A stream, and what was read from it but not taken. -/
structure Intake (α : Type*) where
  buffered : List α
  stream : ByteStream α

namespace Intake

/-- All that is still to be taken. -/
def bytes (intake : Intake α) : List α :=
  intake.buffered ++ intake.stream.bytes

/-- Append what was read. -/
def extend (intake : Intake α) (piece : List α) (stream : ByteStream α) : Intake α where
  buffered := intake.buffered ++ piece
  stream := stream

/-- Take at most `n` bytes out of the buffer. -/
def take (n : ℕ) (intake : Intake α) : List α × Intake α :=
  (intake.buffered.take n, { intake with buffered := intake.buffered.drop n })

variable {intake : Intake α} {stream : ByteStream α} {piece : List α} {m : ℕ}

/-- Reading into the buffer keeps all there is. -/
theorem bytes_extend (hmax : 0 < m) (h : intake.stream.read m = .read piece stream) :
    (intake.extend piece stream).bytes = intake.bytes := by
  rw [bytes, bytes, (ByteStream.read_spec hmax h).2.2.1, extend, List.append_assoc]

theorem buffered_eq_bytes (intake : Intake α) (m : ℕ)
    (h : ∀ piece stream, intake.stream.read m ≠ .read piece stream) :
    intake.buffered = intake.bytes := by
  rw [bytes, ByteStream.bytes_eq_nil _ m h, List.append_nil]

/-- What is in the buffer is taken off the front. -/
theorem take_of_bytes {front rest : List α} (h : intake.bytes = front ++ rest)
    (hle : front.length ≤ intake.buffered.length) :
    (intake.take front.length).1 = front ∧ (intake.take front.length).2.bytes = rest := by
  rw [bytes] at h
  constructor
  · have htake := congrArg (List.take front.length) h
    rwa [List.take_append_of_le_length hle, List.take_left] at htake
  · have hdrop := congrArg (List.drop front.length) h
    rwa [List.drop_append_of_le_length hle, List.drop_left] at hdrop

end Intake
