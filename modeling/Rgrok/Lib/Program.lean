/-
# Programs that call the outside

A `Program` is a tree: it is done, or it makes a call and goes on with the answer.
Nothing is assumed about the answers, so that a property of every run holds whatever
the services, the disk and the clock do.  The log has the calls with their answers,
in order; `Program.exec` is the run against an outside that answers as it likes,
also with a view to what it was asked before.

`Program.Ensures` is the weakest precondition of a program, one rule for each way to
build it, and `Program.Ensures.exec` says that it speaks of every run;
`Program.Ensures.answer` is its rule for a program that runs next to others.  A `Routine`
keeps a state and may fail; the state survives the failure.  `Routine.Returns` speaks of the
runs that do not fail, `Routine.Keeps I` says that the invariant `I` of log and state is
kept, also by a routine that fails, and `Routine.Spends price n` that its calls cost `n` at
most.
-/

import Mathlib.Algebra.GroupWithZero.Nat
import Mathlib.Algebra.Order.Group.Nat
import Mathlib.Data.List.Basic

/-- A program with calls `Call` that ends in an `α`. -/
inductive Program {Call : Type} (Answer : Call → Type) (α : Type) : Type
  | done (a : α)
  | ask (c : Call) (next : Answer c → Program Answer α)

/-- Calls with their answers, in order. -/
abbrev CallLog {Call : Type} (Answer : Call → Type) : Type :=
  List ((c : Call) × Answer c)

/-- Somebody who answers every call, knowing what was called before. -/
abbrev Outside {Call : Type} (Answer : Call → Type) : Type :=
  CallLog Answer → (c : Call) → Answer c

namespace Program

variable {Call : Type} {Answer : Call → Type} {α β : Type}

def bind : Program Answer α → (α → Program Answer β) → Program Answer β
  | .done a, f => f a
  | .ask c next, f => .ask c fun answer => (next answer).bind f

instance : Monad (Program Answer) where
  pure := .done
  bind := Program.bind

/-- One call. -/
def call (c : Call) : Program Answer (Answer c) :=
  .ask c .done

/-- The log and the result of a run that starts with a log. -/
def exec (outside : Outside Answer) : Program Answer α → CallLog Answer → CallLog Answer × α
  | .done a, log => (log, a)
  | .ask c next, log => exec outside (next (outside log c)) (log ++ [⟨c, outside log c⟩])

/-- Whatever is answered, the log and the result are as `post` says. -/
def Ensures : Program Answer α → CallLog Answer → (CallLog Answer → α → Prop) → Prop
  | .done a, log, post => post log a
  | .ask c next, log, post => ∀ answer, (next answer).Ensures (log ++ [⟨c, answer⟩]) post

variable {p : Program Answer α} {f : α → Program Answer β} {log : CallLog Answer}
  {post : CallLog Answer → α → Prop} {goal : CallLog Answer → β → Prop}

@[simp]
theorem ensures_pure (a : α) : (pure a : Program Answer α).Ensures log post ↔ post log a :=
  Iff.rfl

@[simp]
theorem ensures_call (c : Call) {post : CallLog Answer → Answer c → Prop} :
    (call c).Ensures log post ↔ ∀ answer, post (log ++ [⟨c, answer⟩]) answer :=
  Iff.rfl

@[simp]
theorem ensures_bind :
    (p >>= f).Ensures log goal ↔ p.Ensures log fun log a => (f a).Ensures log goal := by
  change (p.bind f).Ensures log goal ↔ _
  induction p generalizing log with
  | done a => exact Iff.rfl
  | ask c next ih =>
      rw [bind, Ensures, Ensures]
      exact forall_congr' fun answer => ih answer

theorem Ensures.mono {weaker : CallLog Answer → α → Prop} (h : p.Ensures log post)
    (hpost : ∀ log a, post log a → weaker log a) : p.Ensures log weaker := by
  induction p generalizing log with
  | done a => exact hpost _ _ h
  | ask c next ih => exact fun answer => ih answer (h answer)

theorem Ensures.and {post' : CallLog Answer → α → Prop} (h : p.Ensures log post)
    (h' : p.Ensures log post') : p.Ensures log fun log a => post log a ∧ post' log a := by
  induction p generalizing log with
  | done a => exact ⟨h, h'⟩
  | ask c next ih => exact fun answer => ih answer (h answer) (h' answer)

theorem ensures_trivial (p : Program Answer α) (log : CallLog Answer)
    (h : ∀ log a, post log a) : p.Ensures log post := by
  induction p generalizing log with
  | done a => exact h _ _
  | ask c next ih => exact fun answer => ih answer _

/-- What was called before a program makes no difference to it. -/
theorem ensures_append (before : CallLog Answer) :
    p.Ensures (before ++ log) post ↔ p.Ensures log fun log a => post (before ++ log) a := by
  induction p generalizing log with
  | done a => exact Iff.rfl
  | ask c next ih =>
      rw [Ensures, Ensures]
      refine forall_congr' fun answer => ?_
      rw [List.append_assoc]
      exact ih answer

/-- The next call of a program that runs next to others is answered. -/
def answer (reply : (c : Call) → Answer c) :
    Program Answer α × CallLog Answer → Option (Program Answer α × CallLog Answer)
  | (.done _, _) => none
  | (.ask c next, log) => some (next (reply c), log ++ [⟨c, reply c⟩])

/-- **A program goes on ensuring** what it ensures, from one answer to the next. -/
theorem Ensures.answer {reply : (c : Call) → Answer c} {p' : Program Answer α}
    {log' : CallLog Answer} (h : p.Ensures log post)
    (hanswer : Program.answer reply (p, log) = some (p', log')) : p'.Ensures log' post := by
  cases p with
  | done a => cases hanswer
  | ask c next =>
      cases hanswer
      exact h (reply c)

/-- **Every run** does what the program ensures. -/
theorem Ensures.exec (h : p.Ensures log post) (outside : Outside Answer) :
    post (p.exec outside log).1 (p.exec outside log).2 := by
  induction p generalizing log with
  | done a => exact h
  | ask c next ih => exact ih _ (h _)

end Program

/-! ### Routines -/

/-- A program with a state `σ` that may fail with an `ε`. -/
abbrev Routine {Call : Type} (Answer : Call → Type) (σ ε : Type) (α : Type) : Type :=
  ExceptT ε (StateT σ (Program Answer)) α

namespace Routine

variable {Call : Type} {Answer : Call → Type} {σ ε α β : Type}

/-- One call. -/
def call (c : Call) : Routine Answer σ ε (Answer c) :=
  ExceptT.lift (StateT.lift (Program.call c))

/-- `?` on a result. -/
def ofResult : Except ε α → Routine Answer σ ε α
  | .ok a => pure a
  | .error e => throw e

/-- A routine whose failure is a value to go on with. -/
def outcome (t : Routine Answer σ ε α) : Routine Answer σ ε (Except ε α) :=
  ExceptT.lift t.run

/-- Whatever is answered, the log, the state and the result are as `post` says. -/
def Ensures (t : Routine Answer σ ε α) (log : CallLog Answer) (s : σ)
    (post : CallLog Answer → σ → Except ε α → Prop) : Prop :=
  (t.run.run s).Ensures log fun log r => post log r.2 r.1

variable {t : Routine Answer σ ε α} {f : α → Routine Answer σ ε β} {log : CallLog Answer} {s : σ}
  {post : CallLog Answer → σ → Except ε α → Prop} {goal : CallLog Answer → σ → Except ε β → Prop}

@[simp]
theorem ensures_pure (a : α) :
    (pure a : Routine Answer σ ε α).Ensures log s post ↔ post log s (.ok a) :=
  Iff.rfl

@[simp]
theorem ensures_throw (e : ε) :
    (throw e : Routine Answer σ ε α).Ensures log s post ↔ post log s (.error e) :=
  Iff.rfl

@[simp]
theorem ensures_get {post : CallLog Answer → σ → Except ε σ → Prop} :
    (get : Routine Answer σ ε σ).Ensures log s post ↔ post log s (.ok s) :=
  Iff.rfl

@[simp]
theorem ensures_set (s' : σ) {post : CallLog Answer → σ → Except ε PUnit → Prop} :
    (set s' : Routine Answer σ ε PUnit).Ensures log s post ↔ post log s' (.ok ⟨⟩) :=
  Iff.rfl

@[simp]
theorem ensures_modify (g : σ → σ) {post : CallLog Answer → σ → Except ε PUnit → Prop} :
    (modify g : Routine Answer σ ε PUnit).Ensures log s post ↔ post log (g s) (.ok ⟨⟩) :=
  Iff.rfl

@[simp]
theorem ensures_call (c : Call) {post : CallLog Answer → σ → Except ε (Answer c) → Prop} :
    (call c : Routine Answer σ ε (Answer c)).Ensures log s post ↔
      ∀ answer, post (log ++ [⟨c, answer⟩]) s (.ok answer) :=
  Iff.rfl

@[simp]
theorem ensures_ofResult (r : Except ε α) :
    (ofResult r : Routine Answer σ ε α).Ensures log s post ↔ post log s r := by
  cases r <;> rfl

@[simp]
theorem ensures_outcome {post : CallLog Answer → σ → Except ε (Except ε α) → Prop} :
    (outcome t).Ensures log s post ↔ t.Ensures log s fun log s r => post log s (.ok r) := by
  have hrun : (outcome t).run.run s =
      t.run.run s >>= fun r => pure ((Except.ok r.1 : Except ε (Except ε α)), r.2) := rfl
  rw [Ensures, hrun, Program.ensures_bind]
  rfl

theorem ensures_bind :
    (t >>= f).Ensures log s goal ↔
      t.Ensures log s fun log s r =>
        match r with
        | .ok a => (f a).Ensures log s goal
        | .error e => goal log s (.error e) := by
  rw [Ensures, ExceptT.run_bind, StateT.run_bind, Program.ensures_bind]
  refine iff_of_eq (congrArg _ (funext fun log => funext fun r => ?_))
  obtain ⟨r | r, s⟩ := r <;> rfl

theorem Ensures.mono {weaker : CallLog Answer → σ → Except ε α → Prop}
    (h : t.Ensures log s post) (hpost : ∀ log s r, post log s r → weaker log s r) :
    t.Ensures log s weaker :=
  Program.Ensures.mono h fun log r => hpost log r.2 r.1

theorem Ensures.and {post' : CallLog Answer → σ → Except ε α → Prop} (h : t.Ensures log s post)
    (h' : t.Ensures log s post') :
    t.Ensures log s fun log s r => post log s r ∧ post' log s r :=
  Program.Ensures.and h h'

/-- What was called before a routine makes no difference to it. -/
theorem ensures_append (before : CallLog Answer) :
    t.Ensures (before ++ log) s post ↔
      t.Ensures log s fun log s r => post (before ++ log) s r :=
  Program.ensures_append before

/-- What the last part of a routine ensures by itself. -/
theorem ensures_last (hf : ∀ a log s, (f a).Ensures log s goal)
    (herror : ∀ log s e, goal log s (.error e)) : (t >>= f).Ensures log s goal := by
  refine ensures_bind.2 (Program.ensures_trivial _ _ fun log r => ?_)
  obtain ⟨e | a, s⟩ := r
  · exact herror log s e
  · exact hf a log s

/-! ### Success -/

/-- If the routine succeeds, the log, the state and the result are as `post` says. -/
def Returns (t : Routine Answer σ ε α) (log : CallLog Answer) (s : σ)
    (post : CallLog Answer → σ → α → Prop) : Prop :=
  t.Ensures log s fun log s r => ∀ a, r = .ok a → post log s a

section Returns

variable {post : CallLog Answer → σ → α → Prop} {goal : CallLog Answer → σ → β → Prop}

theorem returns_pure {a : α} (h : post log s a) :
    (pure a : Routine Answer σ ε α).Returns log s post := by
  intro b hb
  obtain rfl := Except.ok.inj hb
  exact h

theorem returns_throw (e : ε) : (throw e : Routine Answer σ ε α).Returns log s post :=
  fun _ h => nomatch h

theorem returns_ofResult {r : Except ε α} (h : ∀ a, r = .ok a → post log s a) :
    (ofResult r : Routine Answer σ ε α).Returns log s post :=
  (ensures_ofResult r).2 h

/-- A failure that is a value is a success. -/
theorem returns_outcome {post : CallLog Answer → σ → Except ε α → Prop}
    (h : t.Ensures log s post) : (outcome t).Returns log s post := by
  refine ensures_outcome.2 (h.mono fun log s r hpost a ha => ?_)
  obtain rfl := Except.ok.inj ha
  exact hpost

theorem Returns.mono {weaker : CallLog Answer → σ → α → Prop} (h : t.Returns log s post)
    (hpost : ∀ log s a, post log s a → weaker log s a) : t.Returns log s weaker :=
  Ensures.mono h fun log s _ hr a ha => hpost log s a (hr a ha)

theorem Returns.bind (ht : t.Returns log s post)
    (hf : ∀ log s a, post log s a → (f a).Returns log s goal) : (t >>= f).Returns log s goal := by
  refine ensures_bind.2 (Ensures.mono ht fun log s r hr => ?_)
  cases r with
  | ok a => exact hf log s a (hr a rfl)
  | error e => exact fun _ h => nomatch h

theorem returns_call_bind {c : Call} {f : Answer c → Routine Answer σ ε β}
    (h : ∀ answer, (f answer).Returns (log ++ [⟨c, answer⟩]) s goal) :
    (call c >>= f).Returns log s goal :=
  ensures_bind.2 ((ensures_call c).2 h)

theorem returns_ofResult_bind {r : Except ε α} (h : ∀ a, r = .ok a → (f a).Returns log s goal) :
    (ofResult r >>= f).Returns log s goal := by
  refine ensures_bind.2 ((ensures_ofResult r).2 ?_)
  cases r with
  | ok a => exact h a rfl
  | error e => exact fun _ h => nomatch h

end Returns

/-! ### Invariants -/

/-- The invariant `I` is kept, also when the routine fails. -/
def Keeps (I : CallLog Answer → σ → Prop) (t : Routine Answer σ ε α) : Prop :=
  ∀ log s, I log s → t.Ensures log s fun log s _ => I log s

variable {I : CallLog Answer → σ → Prop}

theorem keeps_pure (a : α) : Keeps I (pure a : Routine Answer σ ε α) :=
  fun _ _ h => h

theorem keeps_throw (e : ε) : Keeps I (throw e : Routine Answer σ ε α) :=
  fun _ _ h => h

theorem keeps_ofResult (r : Except ε α) : Keeps I (ofResult r : Routine Answer σ ε α) :=
  fun _ _ h => (ensures_ofResult r).2 h

theorem keeps_call {c : Call} (h : ∀ log s answer, I log s → I (log ++ [⟨c, answer⟩]) s) :
    Keeps I (call c : Routine Answer σ ε (Answer c)) :=
  fun log s hI answer => h log s answer hI

theorem keeps_modify {g : σ → σ} (h : ∀ log s, I log s → I log (g s)) :
    Keeps I (modify g : Routine Answer σ ε PUnit) :=
  h

theorem Keeps.outcome (ht : Keeps I t) : Keeps I (outcome t) :=
  fun log s hI => ensures_outcome.2 (ht log s hI)

theorem Keeps.bind (ht : Keeps I t) (hf : ∀ a, Keeps I (f a)) : Keeps I (t >>= f) := by
  intro log s hI
  refine ensures_bind.2 ((ht log s hI).mono fun log s r hI => ?_)
  cases r with
  | ok a => exact hf a log s hI
  | error e => exact hI

/-! ### Costs -/

/-- What the calls of a log cost. -/
def cost (price : Call → ℕ) (log : CallLog Answer) : ℕ :=
  (log.map fun x => price x.1).sum

theorem cost_concat (price : Call → ℕ) (log : CallLog Answer) (c : Call) (answer : Answer c) :
    cost price (log ++ [⟨c, answer⟩]) = cost price log + price c := by
  rw [cost, List.map_append, List.sum_append]
  rfl

/-- The calls cost `n` at most, whatever is answered. -/
def Spends (price : Call → ℕ) (n : ℕ) (t : Routine Answer σ ε α) : Prop :=
  ∀ log s, t.Ensures log s fun log' _ _ => cost price log' ≤ cost price log + n

variable {price : Call → ℕ} {m n : ℕ}

theorem spends_pure (a : α) : Spends price 0 (pure a : Routine Answer σ ε α) :=
  fun _ _ => le_rfl

theorem spends_throw (e : ε) : Spends price 0 (throw e : Routine Answer σ ε α) :=
  fun _ _ => le_rfl

theorem spends_ofResult (r : Except ε α) :
    Spends price 0 (ofResult r : Routine Answer σ ε α) :=
  fun _ _ => (ensures_ofResult r).2 le_rfl

theorem spends_call (c : Call) :
    Spends price (price c) (call c : Routine Answer σ ε (Answer c)) := by
  intro log s answer
  exact (cost_concat price log c answer).le

/-- What never makes a log dearer costs nothing. -/
theorem Spends.of_keeps (h : ∀ k, Keeps (fun log _ => cost price log ≤ k) t) :
    Spends price 0 t :=
  fun log s => h (cost price log) log s le_rfl

theorem Spends.mono (h : Spends price m t) (hmn : m ≤ n) : Spends price n t :=
  fun log s => (h log s).mono fun _ _ _ hle => hle.trans (Nat.add_le_add_left hmn _)

theorem Spends.outcome (h : Spends price n t) : Spends price n (outcome t) :=
  fun log s => ensures_outcome.2 (h log s)

theorem Spends.bind (ht : Spends price m t) (hf : ∀ a, Spends price n (f a)) :
    Spends price (m + n) (t >>= f) := by
  intro log s
  refine ensures_bind.2 ((ht log s).mono fun log' s' r hle => ?_)
  cases r with
  | ok a => exact (hf a log' s').mono fun _ _ _ hle' => by omega
  | error e => exact hle.trans (by omega)

/-- A start that costs nothing. -/
theorem Spends.free (ht : Spends price 0 t) (hf : ∀ a, Spends price n (f a)) :
    Spends price n (t >>= f) :=
  (ht.bind hf).mono (Nat.zero_add n).le

/-- An end that costs nothing. -/
theorem Spends.last (ht : Spends price n t) (hf : ∀ a, Spends price 0 (f a)) :
    Spends price n (t >>= f) :=
  ht.bind hf

end Routine
