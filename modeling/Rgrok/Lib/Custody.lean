/-
# Exclusive custody

Resources are in the hands of parties: `held p = some x` says that the party
`p` has the resource `x`, and a party has at most one.  `Exclusive held` says
that no resource is in two hands; `Custody S held` adds that the resources in
somebody's hands are exactly those of the set `S`.

The rules say what the moves of a protocol do to custody: a party acquires a
resource that nobody had (`Custody.acquire`), gives one up for good
(`Custody.release`), or passes it to another party (`Custody.transfer`).  A
move that changes neither set nor hands is `Custody.congr`.
-/

import Mathlib.Data.Set.Insert
import Mathlib.Logic.Function.Basic

variable {Party Resource : Type*}

/-- No resource is in two hands. -/
def Exclusive (held : Party → Option Resource) : Prop :=
  ∀ p q x, held p = some x → held q = some x → p = q

/-- The resources in somebody's hands are exactly those of `S`, each in one
pair of hands. -/
structure Custody (S : Set Resource) (held : Party → Option Resource) : Prop where
  exclusive : Exclusive held
  mem_iff : ∀ x, x ∈ S ↔ ∃ p, held p = some x

theorem update_eq_some [DecidableEq Party] {held : Party → Option Resource} {p q : Party}
    {o : Option Resource} {x : Resource} :
    Function.update held p o q = some x ↔ q = p ∧ o = some x ∨ q ≠ p ∧ held q = some x := by
  by_cases h : q = p
  · subst h
    simp
  · simp [h]

namespace Exclusive

variable [DecidableEq Party] {held : Party → Option Resource} {p q : Party} {x y : Resource}

/-- Giving a resource up keeps custody exclusive. -/
theorem update_none (h : Exclusive held) (p : Party) :
    Exclusive (Function.update held p none) := by
  intro a b z ha hb
  rcases eq_or_ne a p with rfl | hap
  · simp at ha
  rcases eq_or_ne b p with rfl | hbp
  · simp at hb
  rw [Function.update_of_ne hap] at ha
  rw [Function.update_of_ne hbp] at hb
  exact h a b z ha hb

/-- Taking a resource that nobody else has keeps custody exclusive. -/
theorem update_some (h : Exclusive held) (hx : ∀ q, q ≠ p → held q ≠ some x) :
    Exclusive (Function.update held p (some x)) := by
  intro a b z ha hb
  rcases eq_or_ne a p with rfl | hap
  · rcases eq_or_ne b a with rfl | hbp
    · rfl
    · rw [Function.update_self] at ha
      rw [Function.update_of_ne hbp] at hb
      exact absurd (ha ▸ hb) (hx b hbp)
  · rw [Function.update_of_ne hap] at ha
    rcases eq_or_ne b p with rfl | hbp
    · rw [Function.update_self] at hb
      exact absurd (hb ▸ ha) (hx a hap)
    · rw [Function.update_of_ne hbp] at hb
      exact h a b z ha hb

/-- Passing a resource on keeps custody exclusive. -/
theorem update_move (h : Exclusive held) (hp : held p = some x) :
    Exclusive (Function.update (Function.update held p none) q (some x)) := by
  refine (h.update_none p).update_some fun r _ hr => ?_
  rcases eq_or_ne r p with rfl | hrp
  · simp at hr
  · rw [Function.update_of_ne hrp] at hr
    exact hrp (h r p x hr hp)

end Exclusive

namespace Custody

variable [DecidableEq Party] {S : Set Resource} {held held' : Party → Option Resource}
  {p q : Party} {x y : Resource}

omit [DecidableEq Party] in
/-- No resources and empty hands. -/
theorem empty (hS : ∀ x, x ∉ S) (hheld : ∀ p, held p = none) : Custody S held where
  exclusive p q x hp := by
    rw [hheld] at hp
    cases hp
  mem_iff x := by simp [hS, hheld]

omit [DecidableEq Party] in
theorem mem (h : Custody S held) (hp : held p = some x) : x ∈ S :=
  (h.mem_iff x).2 ⟨p, hp⟩

omit [DecidableEq Party] in
/-- A move that leaves the resources and the hands as they were. -/
theorem congr {T : Set Resource} (h : Custody S held) (hS : ∀ x, x ∈ T ↔ x ∈ S)
    (hheld : ∀ p, held' p = held p) : Custody T held' := by
  obtain rfl : held' = held := funext hheld
  exact ⟨h.exclusive, fun x => (hS x).trans (h.mem_iff x)⟩

/-- **Acquire.**  A party with empty hands takes a resource outside `S`. -/
theorem acquire {T : Set Resource} (h : Custody S held) (hx : x ∉ S) (hp : held p = none)
    (hT : ∀ y, y ∈ T ↔ y = x ∨ y ∈ S) : Custody T (Function.update held p (some x)) := by
  refine ⟨h.exclusive.update_some fun q _ hq => hx (h.mem hq), fun y => ?_⟩
  rw [hT, h.mem_iff]
  constructor
  · rintro (rfl | ⟨q, hq⟩)
    · exact ⟨p, Function.update_self ..⟩
    · refine ⟨q, ?_⟩
      rwa [Function.update_of_ne]
      rintro rfl
      rw [hp] at hq
      cases hq
  · rintro ⟨q, hq⟩
    rcases eq_or_ne q p with rfl | hqp
    · rw [Function.update_self] at hq
      exact Or.inl (Option.some.inj hq).symm
    · rw [Function.update_of_ne hqp] at hq
      exact Or.inr ⟨q, hq⟩

/-- **Release.**  A party gives up what it has, and the resource is gone. -/
theorem release {T : Set Resource} (h : Custody S held) (hp : held p = some x)
    (hT : ∀ y, y ∈ T ↔ y ≠ x ∧ y ∈ S) : Custody T (Function.update held p none) := by
  refine ⟨h.exclusive.update_none p, fun y => ?_⟩
  rw [hT, h.mem_iff]
  constructor
  · rintro ⟨hy, q, hq⟩
    refine ⟨q, ?_⟩
    rwa [Function.update_of_ne]
    rintro rfl
    exact hy (Option.some.inj (hq.symm.trans hp))
  · rintro ⟨q, hq⟩
    rcases eq_or_ne q p with rfl | hqp
    · simp at hq
    · rw [Function.update_of_ne hqp] at hq
      refine ⟨?_, q, hq⟩
      rintro rfl
      exact hqp (h.exclusive q p y hq hp)

/-- **Transfer.**  A party passes what it has to one with empty hands. -/
theorem transfer (h : Custody S held) (hp : held p = some x) (hq : held q = none) :
    Custody S (Function.update (Function.update held p none) q (some x)) := by
  have hne : p ≠ q := by
    rintro rfl
    rw [hp] at hq
    cases hq
  refine (h.release (T := {y | y ≠ x ∧ y ∈ S}) hp fun y => Iff.rfl).acquire ?_ ?_ fun y => ?_
  · exact fun hx => hx.1 rfl
  · rw [Function.update_of_ne hne.symm, hq]
  · rcases eq_or_ne y x with rfl | hy
    · simp [h.mem hp]
    · simp [hy]

/-- A party passes on whatever it has, if it has anything. -/
theorem pass (h : Custody S held) (p : Party) (hq : held q = none) :
    Custody S (Function.update (Function.update held p none) q (held p)) := by
  cases hp : held p with
  | some x => exact h.transfer hp hq
  | none =>
      have hp' : Function.update held p none = held := by
        rw [← hp, Function.update_eq_self]
      rw [hp', ← hq, Function.update_eq_self]
      exact h

end Custody
