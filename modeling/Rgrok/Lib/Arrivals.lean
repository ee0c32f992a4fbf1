/-
# A stream that arrives in pieces

The bytes of a stream as the pieces in which they arrive.  `Arrivals.readExact`
takes a number of bytes across as many pieces as it needs and leaves the rest
of the last one where it is; what it returns depends on the bytes only, not on
how they are cut (`Arrivals.readExact_eq`).
-/

import Mathlib.Data.List.Basic

namespace Arrivals

variable {α : Type*}

/-- Exactly `n` bytes; `none` when the stream ends before. -/
def readExact : ℕ → List (List α) → Option (List α × List (List α))
  | 0, [] => some ([], [])
  | _ + 1, [] => none
  | n, chunk :: arrivals =>
      if n ≤ chunk.length then
        some (chunk.take n, chunk.drop n :: arrivals)
      else
        (readExact (n - chunk.length) arrivals).map fun (bytes, rest) => (chunk ++ bytes, rest)

/-- The bytes at the front are the ones read, and the others stay. -/
theorem readExact_eq {arrivals : List (List α)} {bytes rest : List α}
    (h : arrivals.flatten = bytes ++ rest) :
    ∃ arrivals', readExact bytes.length arrivals = some (bytes, arrivals') ∧
      arrivals'.flatten = rest := by
  induction arrivals generalizing bytes with
  | nil =>
      obtain ⟨rfl, rfl⟩ := List.append_eq_nil_iff.1 h.symm
      exact ⟨[], rfl, rfl⟩
  | cons chunk arrivals ih =>
      rw [List.flatten_cons] at h
      rw [readExact]
      split
      · rename_i hle
        have hchunk : chunk.take bytes.length = bytes := by
          have htake := congrArg (List.take bytes.length) h
          rwa [List.take_append_of_le_length hle, List.take_left] at htake
        refine ⟨chunk.drop bytes.length :: arrivals, by rw [hchunk], ?_⟩
        have hdrop := congrArg (List.drop bytes.length) h
        rwa [List.drop_append_of_le_length hle, List.drop_left, ← List.flatten_cons] at hdrop
      · rename_i hlt
        obtain ⟨part, hpart⟩ : chunk <+: bytes :=
          List.prefix_of_prefix_length_le ⟨arrivals.flatten, h⟩ ⟨rest, rfl⟩ (by omega)
        rw [← hpart, List.append_assoc] at h
        obtain ⟨arrivals', hread, hrest⟩ := ih (List.append_cancel_left h)
        refine ⟨arrivals', ?_, hrest⟩
        have hlen : bytes.length - chunk.length = part.length := by
          rw [← hpart, List.length_append]
          omega
        rw [hlen, hread, Option.map_some]
        exact congrArg (fun bytes => some (bytes, arrivals')) hpart

end Arrivals
