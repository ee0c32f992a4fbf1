/-
# Machines with labelled steps

A machine is a partial step function: `step s a = some s'` when the action `a`
is enabled in `s`.  Everything that may happen next to a task (a message that
arrives, a timer that fires, the scheduler's choice) is part of the action, so
a list of actions is one interleaving and `Machine.run` replays it.

`Machine.ReachedBy C` holds of the states reached by runs whose every step
meets the condition `C` on the state it is taken from; with the trivial
condition it is reachability.  `Machine.ReachedBy.invariant` is the induction
every safety proof goes through, and `Machine.ReachedBy.map` carries reached
states along a simulation that may stutter.  `Machine.Path` is a run from one
state to another, with what such a run may cost (`Machine.Path.countP_le`).
-/

import Mathlib.Data.Nat.Notation
import Mathlib.Logic.Basic
import Mathlib.Tactic.Basic

/-- A machine with states `σ` and actions `α`. -/
structure Machine (σ α : Type*) where
  init : σ → Prop
  step : σ → α → Option σ

namespace Machine

variable {σ τ α β : Type*}

/-- Replay a list of actions; `none` when one of them is not enabled. -/
def run (M : Machine σ α) (s : σ) : List α → Option σ
  | [] => some s
  | a :: as => (M.step s a).bind fun s' => M.run s' as

/-- The states reached from an initial one by steps that each meet `C` in the
state they are taken from. -/
inductive ReachedBy (M : Machine σ α) (C : σ → α → Prop) : σ → Prop
  | init {s : σ} (h : M.init s) : ReachedBy M C s
  | step {s s' : σ} {a : α} (r : ReachedBy M C s) (c : C s a) (h : M.step s a = some s') :
      ReachedBy M C s'

/-- The states reached by any run. -/
abbrev Reachable (M : Machine σ α) : σ → Prop :=
  M.ReachedBy fun _ _ => True

variable {M : Machine σ α} {C D : σ → α → Prop} {s s' : σ}

/-- **Invariants.**  What holds initially and is kept by every step that meets
the condition holds in every state reached. -/
theorem ReachedBy.invariant {I : σ → Prop} (h0 : ∀ s, M.init s → I s)
    (hstep : ∀ s a s', M.ReachedBy C s → I s → C s a → M.step s a = some s' → I s')
    (r : M.ReachedBy C s) : I s := by
  induction r with
  | init h => exact h0 _ h
  | step r c h ih => exact hstep _ _ _ r ih c h

/-- A weaker condition reaches at least as much. -/
theorem ReachedBy.mono (hCD : ∀ s a, C s a → D s a) (r : M.ReachedBy C s) :
    M.ReachedBy D s := by
  induction r with
  | init h => exact .init h
  | step _ c h ih => exact .step ih (hCD _ _ c) h

theorem ReachedBy.reachable (r : M.ReachedBy C s) : M.Reachable s :=
  r.mono fun _ _ _ => trivial

/-- A replayed run of actions that meet the condition in every state. -/
theorem ReachedBy.run {as : List α} (hs : M.ReachedBy C s) (hC : ∀ a ∈ as, ∀ t, C t a)
    (h : M.run s as = some s') : M.ReachedBy C s' := by
  induction as generalizing s with
  | nil =>
      obtain rfl := Option.some.inj h
      exact hs
  | cons a as ih =>
      obtain ⟨t, ht, hrun⟩ := Option.bind_eq_some_iff.1 h
      refine ih (hs.step (hC a (List.mem_cons_self ..) s) ht) (fun b hb => ?_) hrun
      exact hC b (List.mem_cons_of_mem a hb)

/-- A replayed run whose steps need no condition ends in a reachable state. -/
theorem reachable_of_run {as : List α} (hs : M.Reachable s) (h : M.run s as = some s') :
    M.Reachable s' :=
  hs.run (fun _ _ _ => trivial) h

/-- The last state of a run that goes through is reachable. -/
theorem reachable_get {as : List α} (hs : M.Reachable s) (h : (M.run s as).isSome = true) :
    M.Reachable ((M.run s as).get h) :=
  reachable_of_run hs (Option.some_get h).symm

/-- **Simulation.**  When every step of `M` is, through `f`, a step of `N` that
meets `D` or no step at all, the states `M` reaches map to states `N` reaches. -/
theorem ReachedBy.mapBy {N : Machine τ β} {D : τ → β → Prop} (f : σ → τ)
    (h0 : ∀ s, M.init s → N.init (f s))
    (hstep : ∀ s a s', M.ReachedBy C s → C s a → M.step s a = some s' →
      f s' = f s ∨ ∃ b, D (f s) b ∧ N.step (f s) b = some (f s'))
    (r : M.ReachedBy C s) : N.ReachedBy D (f s) := by
  induction r with
  | init h => exact .init (h0 _ h)
  | step r c h ih =>
      rcases hstep _ _ _ r c h with he | ⟨b, hD, hb⟩
      · rw [he]
        exact ih
      · exact ih.step hD hb

/-- Simulation by any steps of `N`. -/
theorem ReachedBy.map {N : Machine τ β} (f : σ → τ) (h0 : ∀ s, M.init s → N.init (f s))
    (hstep : ∀ s a s', M.ReachedBy C s → C s a → M.step s a = some s' →
      f s' = f s ∨ ∃ b, N.step (f s) b = some (f s'))
    (r : M.ReachedBy C s) : N.Reachable (f s) := by
  refine r.mapBy f h0 fun s a s' r c h => ?_
  exact (hstep s a s' r c h).imp_right fun ⟨b, hb⟩ => ⟨b, trivial, hb⟩

/-! ### From one state to another -/

/-- The actions lead from one state to another, each taken in a state that meets
the condition. -/
inductive Path (M : Machine σ α) (C : σ → α → Prop) : σ → List α → σ → Prop
  | nil (s : σ) : Path M C s [] s
  | cons {s t u : σ} {a : α} {as : List α} (c : C s a) (h : M.step s a = some t)
      (p : Path M C t as u) : Path M C s (a :: as) u

variable {as : List α}

/-- A path goes on from a reached state to another, when its condition implies
that of the run. -/
theorem Path.reachedBy (p : M.Path D s as s') (hDC : ∀ s a, D s a → C s a) (r : M.ReachedBy C s) :
    M.ReachedBy C s' := by
  induction p with
  | nil => exact r
  | cons c h p ih => exact ih (r.step (hDC _ _ c) h)

/-- A replayed run of actions that meet the condition in every state. -/
theorem Path.of_run (hC : ∀ a ∈ as, ∀ t, C t a) (h : M.run s as = some s') : M.Path C s as s' := by
  induction as generalizing s with
  | nil =>
      obtain rfl := Option.some.inj h
      exact .nil s
  | cons a as ih =>
      obtain ⟨t, ht, hrun⟩ := Option.bind_eq_some_iff.1 h
      refine .cons (hC a (List.mem_cons_self ..) s) ht (ih (fun b hb => ?_) hrun)
      exact hC b (List.mem_cons_of_mem a hb)

/-- **Budgets.**  When every step that counts lowers a budget and no step raises
it, the steps of a path that count and the budget at its end are within the
budget at its start. -/
theorem Path.countP_le (budget : σ → ℕ) (p : α → Bool)
    (hstep : ∀ s a s', M.Reachable s → D s a → M.step s a = some s' →
      (if p a then 1 else 0) + budget s' ≤ budget s)
    (r : M.Reachable s) (path : M.Path D s as s') : as.countP p + budget s' ≤ budget s := by
  induction path with
  | nil =>
      rw [List.countP_nil]
      omega
  | cons c h path ih =>
      have hfirst := hstep _ _ _ r c h
      have hrest := ih (r.step trivial h)
      rw [List.countP_cons]
      omega

/-- What every step of a path keeps holds at its end, and at each of its steps. -/
theorem Path.invariant {I : σ → Prop} {J : α → Prop}
    (hstep : ∀ s a s', I s → M.step s a = some s' → J a ∧ I s')
    (hI : I s) (p : M.Path D s as s') : (∀ a ∈ as, J a) ∧ I s' := by
  induction p with
  | nil => exact ⟨fun a ha => absurd ha List.not_mem_nil, hI⟩
  | cons c h p ih =>
      obtain ⟨hJ, hnext⟩ := hstep _ _ _ hI h
      obtain ⟨hrest, hend⟩ := ih hnext
      refine ⟨fun a ha => ?_, hend⟩
      rcases List.mem_cons.1 ha with rfl | ha
      · exact hJ
      · exact hrest a ha

end Machine
