/-
# Association lists as concurrent maps

A map that only one lock holder changes at a time is an association list with
distinct keys (`AList`).  This file adds the facts capacity arguments need and
Mathlib states only for the key list: how many entries `insert` and `erase`
leave, what they do to a sum over the entries (`AList.total`), and lookups after
both as a case distinction on the key, in the shape `Function.update` has.
-/

import Mathlib.Algebra.GroupWithZero.Nat
import Mathlib.Data.List.AList

namespace AList

variable {α : Type*} {β : α → Type*}

/-- The number of entries. -/
def size (s : AList β) : ℕ :=
  s.entries.length

@[simp] theorem size_empty : (∅ : AList β).size = 0 :=
  rfl

theorem size_eq_length_keys (s : AList β) : s.size = s.keys.length := by
  simp [size, keys, List.keys]

theorem eq_empty_of_forall_lookup [DecidableEq α] {s : AList β} (h : ∀ a, s.lookup a = none) :
    s = ∅ := by
  refine AList.ext (List.eq_nil_iff_forall_not_mem.2 fun x hx => ?_)
  have hmem : x.1 ∈ s := List.mem_keys_of_mem hx
  exact lookup_eq_none.1 (h x.1) hmem

section Decidable

variable [DecidableEq α]

theorem size_insert_of_lookup_eq_none {s : AList β} {a : α} {b : β a} (h : s.lookup a = none) :
    (s.insert a b).size = s.size + 1 := by
  rw [size, entries_insert_of_notMem (lookup_eq_none.1 h), List.length_cons, size]

theorem size_erase_of_lookup_eq_some {s : AList β} {a : α} {b : β a} (h : s.lookup a = some b) :
    (s.erase a).size + 1 = s.size := by
  have hmem : a ∈ s := lookup_isSome.1 (by rw [h]; rfl)
  rw [size_eq_length_keys, size_eq_length_keys, keys_erase,
    List.length_erase_of_mem (mem_keys.1 hmem)]
  have := List.length_pos_of_mem (mem_keys.1 hmem)
  omega

end Decidable

section Constant

variable [DecidableEq α] {γ : Type*} {s : AList fun _ : α => γ}

theorem lookup_insert_ite (a a' : α) (b : γ) :
    (s.insert a b).lookup a' = if a' = a then some b else s.lookup a' := by
  split_ifs with h
  · rw [h, lookup_insert]
  · rw [lookup_insert_ne h]

theorem lookup_erase_ite (a a' : α) :
    (s.erase a).lookup a' = if a' = a then none else s.lookup a' := by
  split_ifs with h
  · rw [h, lookup_erase]
  · rw [lookup_erase_ne h]

end Constant

/-! ### Sums over the entries -/

section Total

variable {γ : Type*} {f g : γ → ℕ}

/-- A quantity summed over all entries. -/
def total (f : γ → ℕ) (s : AList fun _ : α => γ) : ℕ :=
  (s.entries.map fun entry => f entry.2).sum

@[simp] theorem total_empty (f : γ → ℕ) : (∅ : AList fun _ : α => γ).total f = 0 :=
  rfl

/-- Entry by entry. -/
theorem total_le_total (h : ∀ b, f b ≤ g b) (s : AList fun _ : α => γ) : s.total f ≤ s.total g := by
  rw [total, total]
  induction s.entries with
  | nil => exact Nat.le_refl 0
  | cons entry entries ih =>
      rw [List.map_cons, List.map_cons, List.sum_cons, List.sum_cons]
      exact Nat.add_le_add (h entry.2) ih

variable [DecidableEq α] {s : AList fun _ : α => γ} {a : α} {b : γ}

theorem total_insert (f : γ → ℕ) (s : AList fun _ : α => γ) (a : α) (b : γ) :
    (s.insert a b).total f = f b + (s.erase a).total f := by
  rw [total, entries_insert, List.map_cons, List.sum_cons]
  rfl

theorem total_erase_of_lookup_eq_none (f : γ → ℕ) (h : s.lookup a = none) :
    (s.erase a).total f = s.total f := by
  have hentries : (s.erase a).entries = s.entries :=
    List.kerase_of_notMem_keys (List.dlookup_eq_none.1 h)
  rw [total, hentries, total]

theorem sum_kerase (f : γ → ℕ) {entries : List (Sigma fun _ : α => γ)}
    (h : entries.dlookup a = some b) :
    f b + ((entries.kerase a).map fun entry => f entry.2).sum =
      (entries.map fun entry => f entry.2).sum := by
  induction entries with
  | nil => cases h
  | cons entry entries ih =>
      obtain ⟨a', b'⟩ := entry
      by_cases ha : a = a'
      · subst ha
        rw [List.dlookup_cons_eq] at h
        have herase : List.kerase a (⟨a, b'⟩ :: entries) = entries := List.kerase_cons_eq rfl
        rw [herase, List.map_cons, List.sum_cons, Option.some.inj h]
      · rw [List.dlookup_cons_ne _ _ ha] at h
        have herase : List.kerase a (⟨a', b'⟩ :: entries) = ⟨a', b'⟩ :: List.kerase a entries :=
          List.kerase_cons_ne ha
        rw [herase, List.map_cons, List.sum_cons, List.map_cons, List.sum_cons, ← ih h]
        omega

/-- What the entry of `a` adds to the sum. -/
theorem total_erase (f : γ → ℕ) (h : s.lookup a = some b) :
    f b + (s.erase a).total f = s.total f :=
  sum_kerase f h

end Total

end AList
