/-
# Passing through a register once

Things are numbered in the order they come up.  A party sets a thing up, puts
it in a place of the register, some party takes it out again and closes it;
or the setup is given up and the thing never enters.  `Passage.Step` lists
these moves.

`Passage.Inv` says that a thing is in one pair of hands or one place at a time
and passes through the register at most once; every move keeps it
(`Passage.Inv.step`).  A thing that is in nobody's hands and in no place is
over, and stays so (`Passage.Over.step`).  Only the party that sets a thing up can
put it in its place (`Passage.Sole.step`).
-/

import Mathlib.Data.List.Nodup
import Rgrok.Lib.Custody

/-- Whether a thing is on its way into the register or out of it. -/
inductive Stage
  | setup
  | closing
deriving DecidableEq

/-- Who has which thing, what is in which place, and what has entered and left
so far. -/
structure Passage (Party Place : Type*) where
  hand : Party → Option (ℕ × Stage)
  place : Place → Option ℕ
  next : ℕ
  entered : List ℕ
  left : List ℕ

namespace Passage

variable {Party Place : Type*}

/-- The moves. -/
inductive Step [DecidableEq Party] [DecidableEq Place] (p : Passage Party Place) :
    Passage Party Place → Prop
  | keep : Step p p
  | start (q : Party) :
      Step p { p with
        hand := Function.update p.hand q (some (p.next, .setup))
        next := p.next + 1 }
  | drop (q : Party) : Step p { p with hand := Function.update p.hand q none }
  | enter (q : Party) (a : Place) (x : ℕ) (hq : p.hand q = some (x, .setup))
      (ha : p.place a = none) :
      Step p { p with
        hand := Function.update p.hand q none
        place := Function.update p.place a (some x)
        entered := x :: p.entered }
  | leave (q : Party) (a : Place) (x : ℕ) (ha : p.place a = some x) :
      Step p { p with
        hand := Function.update p.hand q (some (x, .closing))
        place := Function.update p.place a none
        left := x :: p.left }

/-- Every thing is in one pair of hands or one place; what entered and has not
left is exactly what is in some place. -/
structure Inv (p : Passage Party Place) : Prop where
  hands : Exclusive (Option.map Prod.fst ∘ p.hand)
  places : Custody {x | x ∈ p.entered ∧ x ∉ p.left} p.place
  setup : ∀ q x, p.hand q = some (x, .setup) → x < p.next ∧ x ∉ p.entered
  closing : ∀ q x, p.hand q = some (x, .closing) → x ∈ p.left
  left_subset : p.left ⊆ p.entered
  entered_lt : ∀ x ∈ p.entered, x < p.next
  entered_nodup : p.entered.Nodup
  left_nodup : p.left.Nodup

namespace Inv

variable {p : Passage Party Place} {q : Party} {a : Place} {x : ℕ} {stage : Stage}

theorem lt_next (h : p.Inv) (hq : p.hand q = some (x, stage)) : x < p.next := by
  cases stage with
  | setup => exact (h.setup q x hq).1
  | closing => exact h.entered_lt x (h.left_subset (h.closing q x hq))

/-- What is in a place is in nobody's hands. -/
theorem hand_ne (h : p.Inv) (ha : p.place a = some x) (q : Party) (stage : Stage) :
    p.hand q ≠ some (x, stage) := by
  intro hq
  have hx : x ∈ p.entered ∧ x ∉ p.left := h.places.mem ha
  cases stage with
  | setup => exact (h.setup q x hq).2 hx.1
  | closing => exact hx.2 (h.closing q x hq)

theorem eq_of_hand (h : p.Inv) {q' : Party} {stage' : Stage} (hq : p.hand q = some (x, stage))
    (hq' : p.hand q' = some (x, stage')) : q = q' :=
  h.hands q q' x (by rw [Function.comp_apply, hq]; rfl) (by rw [Function.comp_apply, hq']; rfl)

variable [DecidableEq Party] [DecidableEq Place]

omit [DecidableEq Place] in
/-- A party lets go of what it has. -/
theorem drop (h : p.Inv) (q : Party) : Inv { p with hand := Function.update p.hand q none } := by
  have old : ∀ {q' y}, Function.update p.hand q none q' = some y → p.hand q' = some y := by
    intro q' y hy
    rcases update_eq_some.1 hy with ⟨-, hy⟩ | ⟨-, hy⟩
    · cases hy
    · exact hy
  refine { h with
    hands := ?_
    setup := fun q' y hy => h.setup q' y (old hy)
    closing := fun q' y hy => h.closing q' y (old hy) }
  rw [Function.comp_update]
  exact h.hands.update_none q

omit [DecidableEq Place] in
/-- A party with empty hands starts on a new thing. -/
theorem start (h : p.Inv) (q : Party) :
    Inv { p with
      hand := Function.update p.hand q (some (p.next, .setup))
      next := p.next + 1 } := by
  refine { h with hands := ?_, setup := ?_, closing := ?_, entered_lt := ?_ }
  · rw [Function.comp_update]
    refine h.hands.update_some fun q' _ hq' => ?_
    rw [Function.comp_apply, Option.map_eq_some_iff] at hq'
    obtain ⟨⟨y, stage⟩, hy, rfl⟩ := hq'
    exact absurd (h.lt_next hy) (lt_irrefl _)
  · intro q' y hy
    rcases update_eq_some.1 hy with ⟨-, hy⟩ | ⟨-, hy⟩
    · cases hy
      exact ⟨Nat.lt_succ_self _, fun hmem => absurd (h.entered_lt _ hmem) (lt_irrefl _)⟩
    · exact ⟨(h.setup q' y hy).1.trans (Nat.lt_succ_self _), (h.setup q' y hy).2⟩
  · intro q' y hy
    rcases update_eq_some.1 hy with ⟨-, hy⟩ | ⟨-, hy⟩
    · cases hy
    · exact h.closing q' y hy
  · exact fun y hy => (h.entered_lt y hy).trans (Nat.lt_succ_self _)

/-- **Entering.**  A party puts what it set up in a free place. -/
theorem enter (h : p.Inv) (hq : p.hand q = some (x, .setup)) (ha : p.place a = none) :
    Inv { p with
      hand := Function.update p.hand q none
      place := Function.update p.place a (some x)
      entered := x :: p.entered } := by
  obtain ⟨hlt, hnew⟩ := h.setup q x hq
  have hleft : x ∉ p.left := fun hx => hnew (h.left_subset hx)
  refine { h.drop q with
    places := ?_
    setup := ?_
    left_subset := fun y hy => List.mem_cons_of_mem _ (h.left_subset hy)
    entered_lt := ?_
    entered_nodup := List.nodup_cons.2 ⟨hnew, h.entered_nodup⟩ }
  · refine h.places.acquire (fun hx => hnew hx.1) ha fun y => ?_
    simp only [Set.mem_ofPred_eq, List.mem_cons]
    constructor
    · rintro ⟨rfl | hy, hyl⟩
      · exact Or.inl rfl
      · exact Or.inr ⟨hy, hyl⟩
    · rintro (rfl | ⟨hy, hyl⟩)
      · exact ⟨Or.inl rfl, hleft⟩
      · exact ⟨Or.inr hy, hyl⟩
  · intro q' y hy
    rcases update_eq_some.1 hy with ⟨-, hy⟩ | ⟨hne, hold⟩
    · cases hy
    · refine ⟨(h.setup q' y hold).1, fun hmem => ?_⟩
      rcases List.mem_cons.1 hmem with rfl | hmem
      · exact hne (h.eq_of_hand hold hq)
      · exact (h.setup q' y hold).2 hmem
  · intro y hy
    rcases List.mem_cons.1 hy with rfl | hy
    · exact hlt
    · exact h.entered_lt y hy

/-- **Leaving.**  A party with empty hands takes a thing out of its place. -/
theorem leave (h : p.Inv) (q : Party) (ha : p.place a = some x) :
    Inv { p with
      hand := Function.update p.hand q (some (x, .closing))
      place := Function.update p.place a none
      left := x :: p.left } := by
  obtain ⟨hmem, hnew⟩ : x ∈ p.entered ∧ x ∉ p.left := h.places.mem ha
  refine { h with
    hands := ?_
    places := ?_
    setup := ?_
    closing := ?_
    left_subset := ?_
    left_nodup := List.nodup_cons.2 ⟨hnew, h.left_nodup⟩ }
  · rw [Function.comp_update]
    refine h.hands.update_some fun q' _ hq' => ?_
    rw [Function.comp_apply, Option.map_eq_some_iff] at hq'
    obtain ⟨⟨y, stage⟩, hy, rfl⟩ := hq'
    exact h.hand_ne ha q' stage hy
  · refine h.places.release ha fun y => ?_
    simp only [Set.mem_ofPred_eq, List.mem_cons, not_or, ne_eq]
    tauto
  · intro q' y hy
    rcases update_eq_some.1 hy with ⟨-, hy⟩ | ⟨-, hy⟩
    · cases hy
    · exact h.setup q' y hy
  · intro q' y hy
    rcases update_eq_some.1 hy with ⟨-, hy⟩ | ⟨-, hy⟩
    · cases hy
      exact List.mem_cons_self ..
    · exact List.mem_cons_of_mem _ (h.closing q' y hy)
  · intro y hy
    rcases List.mem_cons.1 hy with rfl | hy
    · exact hmem
    · exact h.left_subset hy

/-- **Every move keeps the invariant.** -/
theorem step {p' : Passage Party Place} (h : p.Inv) (m : p.Step p') : p'.Inv := by
  cases m with
  | keep => exact h
  | start q => exact h.start q
  | drop q => exact h.drop q
  | enter q a x hq ha => exact h.enter hq ha
  | leave q a x ha => exact h.leave q ha

end Inv

/-- The thing came up and nobody and no place has it any more. -/
structure Over (p : Passage Party Place) (x : ℕ) : Prop where
  lt_next : x < p.next
  hand_ne : ∀ q stage, p.hand q ≠ some (x, stage)
  place_ne : ∀ a, p.place a ≠ some x

namespace Over

variable [DecidableEq Party] [DecidableEq Place] {p p' : Passage Party Place} {q : Party} {x : ℕ}

omit [DecidableEq Place] in
/-- What a party lets go of is over. -/
theorem of_drop (h : p.Inv) {stage : Stage} (hq : p.hand q = some (x, stage)) :
    Over { p with hand := Function.update p.hand q none } x where
  lt_next := h.lt_next hq
  hand_ne q' stage' hq' := by
    rcases update_eq_some.1 hq' with ⟨-, hq'⟩ | ⟨hne, hq'⟩
    · cases hq'
    · exact hne (h.eq_of_hand hq' hq)
  place_ne a ha := h.hand_ne ha q stage hq

/-- **What is over stays over.** -/
theorem step (h : p.Over x) (m : p.Step p') : p'.Over x := by
  cases m with
  | keep => exact h
  | start q =>
      refine ⟨h.lt_next.trans (Nat.lt_succ_self _), fun q' stage hq' => ?_, h.place_ne⟩
      rcases update_eq_some.1 hq' with ⟨-, hq'⟩ | ⟨-, hq'⟩
      · cases hq'
        exact absurd h.lt_next (lt_irrefl _)
      · exact h.hand_ne q' stage hq'
  | drop q =>
      refine ⟨h.lt_next, fun q' stage hq' => ?_, h.place_ne⟩
      rcases update_eq_some.1 hq' with ⟨-, hq'⟩ | ⟨-, hq'⟩
      · cases hq'
      · exact h.hand_ne q' stage hq'
  | enter q a y hq ha =>
      refine ⟨h.lt_next, fun q' stage hq' => ?_, fun a' ha' => ?_⟩
      · rcases update_eq_some.1 hq' with ⟨-, hq'⟩ | ⟨-, hq'⟩
        · cases hq'
        · exact h.hand_ne q' stage hq'
      · rcases update_eq_some.1 ha' with ⟨-, ha'⟩ | ⟨-, ha'⟩
        · cases ha'
          exact h.hand_ne q _ hq
        · exact h.place_ne a' ha'
  | leave q a y ha =>
      refine ⟨h.lt_next, fun q' stage hq' => ?_, fun a' ha' => ?_⟩
      · rcases update_eq_some.1 hq' with ⟨-, hq'⟩ | ⟨-, hq'⟩
        · cases hq'
          exact h.place_ne a ha
        · exact h.hand_ne q' stage hq'
      · rcases update_eq_some.1 ha' with ⟨-, ha'⟩ | ⟨-, ha'⟩
        · cases ha'
        · exact h.place_ne a' ha'

end Over

/-- The thing came up and never entered, and no other party than `q` has it. -/
structure Sole (p : Passage Party Place) (q : Party) (x : ℕ) : Prop where
  lt_next : x < p.next
  not_entered : x ∉ p.entered
  hand_ne : ∀ q', q' ≠ q → ∀ stage, p.hand q' ≠ some (x, stage)

namespace Sole

variable [DecidableEq Party] [DecidableEq Place] {p p' : Passage Party Place} {q : Party} {x : ℕ}

/-- **What is with one party stays with it**, until that party puts it in its
place and has it no more. -/
theorem step (h : p.Sole q x) (hi : p.Inv) (m : p.Step p') :
    p'.Sole q x ∨ x ∈ p'.entered ∧ p.hand q ≠ none ∧ p'.hand q = none := by
  cases m with
  | keep => exact Or.inl h
  | start q₁ =>
      refine Or.inl ⟨h.lt_next.trans (Nat.lt_succ_self _), h.not_entered, fun q' hne stage hq' => ?_⟩
      rcases update_eq_some.1 hq' with ⟨-, hq'⟩ | ⟨-, hq'⟩
      · cases hq'
        exact absurd h.lt_next (lt_irrefl _)
      · exact h.hand_ne q' hne stage hq'
  | drop q₁ =>
      refine Or.inl ⟨h.lt_next, h.not_entered, fun q' hne stage hq' => ?_⟩
      rcases update_eq_some.1 hq' with ⟨-, hq'⟩ | ⟨-, hq'⟩
      · cases hq'
      · exact h.hand_ne q' hne stage hq'
  | enter q₁ a y hq₁ ha =>
      by_cases hy : y = x
      · subst hy
        obtain rfl : q₁ = q := by
          by_contra hne
          exact h.hand_ne q₁ hne _ hq₁
        refine Or.inr ⟨List.mem_cons_self .., ?_, Function.update_self ..⟩
        rw [hq₁]
        exact Option.some_ne_none _
      · refine Or.inl ⟨h.lt_next, fun hx => ?_, fun q' hne stage hq' => ?_⟩
        · rcases List.mem_cons.1 hx with rfl | hx
          · exact hy rfl
          · exact h.not_entered hx
        · rcases update_eq_some.1 hq' with ⟨-, hq'⟩ | ⟨-, hq'⟩
          · cases hq'
          · exact h.hand_ne q' hne stage hq'
  | leave q₁ a y ha =>
      have hy : y ∈ p.entered := (hi.places.mem ha).1
      refine Or.inl ⟨h.lt_next, h.not_entered, fun q' hne stage hq' => ?_⟩
      rcases update_eq_some.1 hq' with ⟨-, hq'⟩ | ⟨-, hq'⟩
      · cases hq'
        exact h.not_entered hy
      · exact h.hand_ne q' hne stage hq'

end Sole
end Passage
