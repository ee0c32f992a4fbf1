/-
# The bounded verifier

`BasicAuthVerifier` in `crates/rgrok-server/src/auth.rs`, which the gates of all
tunnels share.

A call of `verify_header` waits for a permit of the semaphore, a second at
most, and moves it into a blocking task.  The future of a call may be dropped
at any await; a blocking task runs on even then, and keeps its permit until it
is done.  Instants are in milliseconds; `arrived` records the calls in the
order they came, and no step reads it.

However calls come, time out and go away, there are never more bcrypt
computations than permits, no permit is lost, permits are given out first come
first served, and what a call returns is what `verifyHeader` says
(`basic_auth_bounded`).
-/

import Mathlib.Logic.Function.Basic
import Rgrok.Lib.Machine
import Rgrok.Lib.Semaphore
import Rgrok.Server.Gate

namespace Rgrok

/-- `BASIC_AUTH_PERMIT_TIMEOUT`. -/
def basicAuthPermitTimeout : ℕ :=
  1000

/-- The arguments of `verify_header`. -/
structure HeaderCheck where
  headerValue : String
  expectedUsername : String
  hash : String
deriving DecidableEq

/-- Where a call of `verify_header` stands: not made; in `acquire_permit`; its
blocking task runs, and somebody awaits it or not; it has returned, with a
permit or without, after waiting for one; it is dropped, and no task runs. -/
inductive VerifyPhase
  | unborn
  | acquiring (check : HeaderCheck) (since : ℕ)
  | hashing (check : HeaderCheck) (waited : ℕ) (awaited : Bool)
  | returned (check : HeaderCheck) (permit : Bool) (waited : ℕ) (answer : Bool)
  | dropped
deriving DecidableEq

namespace VerifyPhase

/-- The call is in `acquire_permit`. -/
def Acquiring (ph : VerifyPhase) : Prop :=
  ∃ check since, ph = .acquiring check since

/-- The blocking task of the call runs. -/
def Hashing (ph : VerifyPhase) : Prop :=
  ∃ check waited awaited, ph = .hashing check waited awaited

/-- What a call that is under way checks, and for somebody. -/
def awaited : VerifyPhase → Option HeaderCheck
  | .acquiring check _ => some check
  | .hashing check _ true => some check
  | _ => none

theorem of_awaited {ph : VerifyPhase} {check : HeaderCheck} (h : ph.awaited = some check) :
    ph.Acquiring ∨ ph.Hashing := by
  cases ph with
  | acquiring check since => exact Or.inl ⟨check, since, rfl⟩
  | hashing check waited awaited => exact Or.inr ⟨check, waited, awaited, rfl⟩
  | unborn | returned | dropped => cases h

end VerifyPhase

/-- The semaphore, through which nothing is sent, and the calls. -/
structure BasicAuthVerifier (Call : Type*) where
  permits : Channel Call Unit
  call : Call → VerifyPhase
  now : ℕ
  arrived : List Call

namespace BasicAuthVerifier

variable {Call Digest : Type*}

/-- A call is made, starts its blocking task, times out or is dropped; its task
is done; time passes. -/
inductive Action (Call : Type*)
  | call (c : Call) (check : HeaderCheck)
  | start (c : Call)
  | timeout (c : Call)
  | drop (c : Call)
  | finish (c : Call)
  | tick

def new : BasicAuthVerifier Call where
  permits := .empty
  call := fun _ => .unborn
  now := 0
  arrived := []

/-- The permits of the semaphore. -/
def permitCount (maxConcurrent : ℕ) : ℕ :=
  max maxConcurrent 1

section

variable [DecidableEq Call]

def setCall (v : BasicAuthVerifier Call) (c : Call) (ph : VerifyPhase) : BasicAuthVerifier Call :=
  { v with call := Function.update v.call c ph }

/-- The call gives back its permit or its place in the queue. -/
def leave (v : BasicAuthVerifier Call) (c : Call) (ph : VerifyPhase) : BasicAuthVerifier Call :=
  { v.setCall c ph with permits := v.permits.cancel c }

/-- The call takes a free permit, or the last place in the queue. -/
def join (maxConcurrent : ℕ) (v : BasicAuthVerifier Call) (c : Call) (check : HeaderCheck) :
    BasicAuthVerifier Call :=
  { v.setCall c (.acquiring check v.now) with
    permits := v.permits.acquire (permitCount maxConcurrent) c
    arrived := v.arrived ++ [c] }

/-- `acquire_owned` is polled for the first time. -/
def enter (maxConcurrent : ℕ) (v : BasicAuthVerifier Call) (c : Call) (check : HeaderCheck) :
    Option (BasicAuthVerifier Call) :=
  match v.call c with
  | .unborn => some (v.join maxConcurrent c check)
  | _ => none

/-- A call with a permit spawns its task, even if its time is up. -/
def start (v : BasicAuthVerifier Call) (c : Call) : Option (BasicAuthVerifier Call) :=
  match v.call c with
  | .acquiring check since =>
      if c ∈ v.permits.granted then
        some (v.setCall c (.hashing check (v.now - since) true))
      else
        none
  | _ => none

/-- `acquire_permit` returns `None`. -/
def timeout (v : BasicAuthVerifier Call) (c : Call) : Option (BasicAuthVerifier Call) :=
  match v.call c with
  | .acquiring check since =>
      if c ∉ v.permits.granted ∧ since + basicAuthPermitTimeout ≤ v.now then
        some (v.leave c (.returned check false (v.now - since) false))
      else
        none
  | _ => none

/-- The future is dropped; a task that runs keeps its permit. -/
def drop (v : BasicAuthVerifier Call) (c : Call) : Option (BasicAuthVerifier Call) :=
  match v.call c with
  | .acquiring _ _ => some (v.leave c .dropped)
  | .hashing check waited true => some (v.setCall c (.hashing check waited false))
  | _ => none

/-- The blocking task drops its permit, and the call returns its result. -/
def finish (crates : AuthCrates Digest) (v : BasicAuthVerifier Call) (c : Call) :
    Option (BasicAuthVerifier Call) :=
  match v.call c with
  | .hashing check waited true =>
      some (v.leave c (.returned check true waited
        (crates.verifyCredentials check.headerValue check.expectedUsername check.hash)))
  | .hashing _ _ false => some (v.leave c .dropped)
  | _ => none

def step (crates : AuthCrates Digest) (maxConcurrent : ℕ) (v : BasicAuthVerifier Call) :
    Action Call → Option (BasicAuthVerifier Call)
  | .call c check => v.enter maxConcurrent c check
  | .start c => v.start c
  | .timeout c => v.timeout c
  | .drop c => v.drop c
  | .finish c => v.finish crates c
  | .tick => some { v with now := v.now + 1 }

/-- Every interleaving of the calls. -/
def machine (crates : AuthCrates Digest) (maxConcurrent : ℕ) :
    Machine (BasicAuthVerifier Call) (Action Call) where
  init v := v = new
  step := step crates maxConcurrent

end

/-! ### Permits are of calls under way -/

variable {crates : AuthCrates Digest} {maxConcurrent : ℕ} {v v' : BasicAuthVerifier Call}
  {a : Action Call} {c d : Call} {check : HeaderCheck} {ph : VerifyPhase}

/-- What has returned is what `verifyHeader` says, and without a permit only
after a second. -/
def Answered (crates : AuthCrates Digest) : VerifyPhase → Prop
  | .returned check permit waited answer =>
      answer = crates.verifyHeader permit check.headerValue check.expectedUsername check.hash ∧
        (permit = false → basicAuthPermitTimeout ≤ waited)
  | _ => True

/-- Who has a permit or waits for one is a call under way, and all of these are there. -/
structure Inv (crates : AuthCrates Digest) (maxConcurrent : ℕ) (v : BasicAuthVerifier Call) :
    Prop where
  permits : v.permits.Inv (permitCount maxConcurrent)
  queue : v.permits.queue = []
  order : v.permits.InOrder v.arrived
  granted : ∀ c ∈ v.permits.granted, (v.call c).Acquiring ∨ (v.call c).Hashing
  waiting : ∀ c ∈ v.permits.waiting, (v.call c).Acquiring
  acquiring : ∀ c, (v.call c).Acquiring → c ∈ v.permits.granted ∨ c ∈ v.permits.waiting
  hashing : ∀ c, (v.call c).Hashing → c ∈ v.permits.granted
  arrived : ∀ c ∈ v.arrived, v.call c ≠ .unborn
  distinct : v.arrived.Nodup
  answered : ∀ c, Answered crates (v.call c)

/-- Nothing is sent, so that permits are in use only where they were granted. -/
theorem occupied_eq (h : Inv crates maxConcurrent v) :
    v.permits.occupied = v.permits.granted.length := by
  rw [Channel.occupied, h.queue, List.length_nil, Nat.zero_add]

/-- There are no more tasks than permits. -/
theorem length_le_of_hashing (h : Inv crates maxConcurrent v) {calls : List Call}
    (hnodup : calls.Nodup) (hhashing : ∀ c ∈ calls, (v.call c).Hashing) :
    calls.length ≤ permitCount maxConcurrent := by
  have hsubset : calls ⊆ v.permits.granted := fun c hc => h.hashing c (hhashing c hc)
  exact (hnodup.subperm hsubset).length_le.trans (occupied_eq h ▸ h.permits.le)

section

variable [DecidableEq Call]

@[simp] theorem call_setCall_self : (v.setCall c ph).call c = ph :=
  Function.update_self ..

theorem call_setCall_of_ne (h : d ≠ c) : (v.setCall c ph).call d = v.call d :=
  Function.update_of_ne h ..

@[simp] theorem call_leave_self : (v.leave c ph).call c = ph :=
  Function.update_self ..

theorem call_leave_of_ne (h : d ≠ c) : (v.leave c ph).call d = v.call d :=
  Function.update_of_ne h ..

@[simp] theorem call_join_self :
    (v.join maxConcurrent c check).call c = .acquiring check v.now :=
  Function.update_self ..

theorem call_join_of_ne (h : d ≠ c) : (v.join maxConcurrent c check).call d = v.call d :=
  Function.update_of_ne h ..

theorem leave_setCall {ph' : VerifyPhase} : (v.setCall c ph').leave c ph = v.leave c ph := by
  simp only [leave, setCall, Function.update_idem]

/-- A call is over. -/
theorem Inv.leave (h : Inv crates maxConcurrent v) (hacquiring : ¬ ph.Acquiring)
    (hhashing : ¬ ph.Hashing) (hborn : ph ≠ .unborn) (hanswered : Answered crates ph) :
    Inv crates maxConcurrent (v.leave c ph) where
  permits := h.permits.cancel
  queue := Channel.queue_cancel.trans h.queue
  order := h.order.cancel
  granted d hd := by
    have hne : d ≠ c := fun he => h.permits.not_mem_cancel.1 (he ▸ hd)
    rw [call_leave_of_ne hne]
    rcases Channel.mem_granted_cancel hd with hold | hnew
    · exact h.granted d hold
    · exact Or.inl (h.waiting d hnew)
  waiting d hd := by
    have hne : d ≠ c := fun he => h.permits.not_mem_cancel.2 (he ▸ hd)
    rw [call_leave_of_ne hne]
    exact h.waiting d (Channel.mem_waiting_cancel hd)
  acquiring d hd := by
    have hne : d ≠ c := by
      rintro rfl
      rw [call_leave_self] at hd
      exact hacquiring hd
    rw [call_leave_of_ne hne] at hd
    exact Channel.mem_cancel_of_mem hne (h.acquiring d hd)
  hashing d hd := by
    have hne : d ≠ c := by
      rintro rfl
      rw [call_leave_self] at hd
      exact hhashing hd
    rw [call_leave_of_ne hne] at hd
    exact Channel.mem_granted_cancel_of_mem hne (h.hashing d hd)
  arrived := (Function.forall_update_iff v.call fun d ph => d ∈ v.arrived → ph ≠ .unborn).2
    ⟨fun _ => hborn, fun d _ => h.arrived d⟩
  distinct := h.distinct
  answered := (Function.forall_update_iff v.call fun _ => Answered crates).2
    ⟨hanswered, fun d _ => h.answered d⟩

/-- A call with a permit goes on to its task, or is not awaited any more. -/
theorem Inv.setHashing (h : Inv crates maxConcurrent v) (hc : c ∈ v.permits.granted)
    (waited : ℕ) (awaited : Bool) :
    Inv crates maxConcurrent (v.setCall c (.hashing check waited awaited)) where
  permits := h.permits
  queue := h.queue
  order := h.order
  granted := (Function.forall_update_iff v.call fun d ph =>
      d ∈ v.permits.granted → ph.Acquiring ∨ ph.Hashing).2
    ⟨fun _ => Or.inr ⟨check, waited, awaited, rfl⟩, fun d _ => h.granted d⟩
  waiting d hd := by
    have hne : d ≠ c := fun he => (List.nodup_append.1 h.permits.nodup).2.2 c hc d hd he.symm
    rw [call_setCall_of_ne hne]
    exact h.waiting d hd
  acquiring := (Function.forall_update_iff v.call fun d ph =>
      ph.Acquiring → d ∈ v.permits.granted ∨ d ∈ v.permits.waiting).2
    ⟨fun _ => Or.inl hc, fun d _ => h.acquiring d⟩
  hashing := (Function.forall_update_iff v.call fun d ph => ph.Hashing → d ∈ v.permits.granted).2
    ⟨fun _ => hc, fun d _ => h.hashing d⟩
  arrived := (Function.forall_update_iff v.call fun d ph => d ∈ v.arrived → ph ≠ .unborn).2
    ⟨fun _ => VerifyPhase.noConfusion, fun d _ => h.arrived d⟩
  distinct := h.distinct
  answered := (Function.forall_update_iff v.call fun _ => Answered crates).2
    ⟨trivial, fun d _ => h.answered d⟩

/-- A new call comes. -/
theorem Inv.join (h : Inv crates maxConcurrent v) (hunborn : v.call c = .unborn) :
    Inv crates maxConcurrent (v.join maxConcurrent c check) := by
  have hgranted : c ∉ v.permits.granted := fun hc => by
    rcases h.granted c hc with ⟨_, _, hcall⟩ | ⟨_, _, _, hcall⟩ <;>
    · rw [hunborn] at hcall
      cases hcall
  have hwaiting : c ∉ v.permits.waiting := fun hc => by
    obtain ⟨_, _, hcall⟩ := h.waiting c hc
    rw [hunborn] at hcall
    cases hcall
  constructor
  case permits => exact h.permits.acquire hgranted hwaiting
  case queue => exact Channel.queue_acquire.trans h.queue
  case order => exact h.order.acquire h.permits
  case granted =>
    intro d hd
    by_cases he : d = c
    · exact Or.inl ⟨check, v.now, he ▸ call_join_self⟩
    · rw [call_join_of_ne he]
      exact h.granted d ((Channel.mem_granted_acquire hd).resolve_right he)
  case waiting =>
    intro d hd
    by_cases he : d = c
    · exact ⟨check, v.now, he ▸ call_join_self⟩
    · rw [call_join_of_ne he]
      exact h.waiting d ((Channel.mem_waiting_acquire hd).resolve_right he)
  case acquiring =>
    intro d hd
    by_cases he : d = c
    · subst he
      exact Channel.mem_acquire
    · rw [call_join_of_ne he] at hd
      exact (h.acquiring d hd).imp Channel.mem_granted_acquire_of_mem
        Channel.mem_waiting_acquire_of_mem
  case hashing =>
    intro d hd
    by_cases he : d = c
    · subst he
      obtain ⟨_, _, _, hcall⟩ := hd
      rw [call_join_self] at hcall
      cases hcall
    · rw [call_join_of_ne he] at hd
      exact Channel.mem_granted_acquire_of_mem (h.hashing d hd)
  case arrived =>
    intro d hd
    by_cases he : d = c
    · subst he
      rw [call_join_self]
      exact VerifyPhase.noConfusion
    · rw [call_join_of_ne he]
      rcases List.mem_append.1 hd with hd | hd
      · exact h.arrived d hd
      · exact absurd (List.mem_singleton.1 hd) he
  case distinct =>
    refine List.nodup_append.2 ⟨h.distinct, List.nodup_singleton c, fun d hd e he => ?_⟩
    obtain rfl := List.mem_singleton.1 he
    rintro rfl
    exact h.arrived d hd hunborn
  case answered =>
    exact (Function.forall_update_iff v.call fun _ => Answered crates).2
      ⟨trivial, fun d _ => h.answered d⟩

theorem Inv.start (h : Inv crates maxConcurrent v) (hs : v.start c = some v') :
    Inv crates maxConcurrent v' := by
  unfold BasicAuthVerifier.start at hs
  split at hs
  · split at hs
    · rename_i hc
      obtain rfl := Option.some.inj hs
      exact h.setHashing hc _ _
    · cases hs
  · cases hs

theorem Inv.timeout (h : Inv crates maxConcurrent v) (hs : v.timeout c = some v') :
    Inv crates maxConcurrent v' := by
  unfold BasicAuthVerifier.timeout at hs
  split at hs
  · split at hs
    · rename_i hlate
      obtain rfl := Option.some.inj hs
      refine h.leave nofun nofun nofun ⟨rfl, fun _ => ?_⟩
      exact Nat.le_sub_of_add_le' hlate.2
    · cases hs
  · cases hs

theorem Inv.drop (h : Inv crates maxConcurrent v) (hs : v.drop c = some v') :
    Inv crates maxConcurrent v' := by
  unfold BasicAuthVerifier.drop at hs
  split at hs
  · obtain rfl := Option.some.inj hs
    exact h.leave nofun nofun nofun trivial
  · rename_i hcall
    obtain rfl := Option.some.inj hs
    exact h.setHashing (h.hashing c ⟨_, _, _, hcall⟩) _ _
  · cases hs

theorem Inv.finish (h : Inv crates maxConcurrent v) (hs : v.finish crates c = some v') :
    Inv crates maxConcurrent v' := by
  unfold BasicAuthVerifier.finish at hs
  split at hs
  · obtain rfl := Option.some.inj hs
    exact h.leave nofun nofun nofun ⟨rfl, nofun⟩
  · obtain rfl := Option.some.inj hs
    exact h.leave nofun nofun nofun trivial
  · cases hs

theorem Inv.step (h : Inv crates maxConcurrent v)
    (hs : v.step crates maxConcurrent a = some v') : Inv crates maxConcurrent v' := by
  cases a with
  | call c check =>
      simp only [BasicAuthVerifier.step, enter] at hs
      split at hs
      · rename_i hunborn
        obtain rfl := Option.some.inj hs
        exact h.join hunborn
      · cases hs
  | start c => exact h.start hs
  | timeout c => exact h.timeout hs
  | drop c => exact h.drop hs
  | finish c => exact h.finish hs
  | tick =>
      obtain rfl := Option.some.inj hs
      exact ⟨h.permits, h.queue, h.order, h.granted, h.waiting, h.acquiring, h.hashing, h.arrived,
        h.distinct, h.answered⟩

theorem inv_of_reachable (r : (machine crates maxConcurrent).Reachable v) :
    Inv crates maxConcurrent v := by
  refine r.invariant ?_ fun _ _ _ _ h _ hs => h.step hs
  rintro v rfl
  exact ⟨.empty, rfl, .empty, nofun, nofun, nofun, nofun, nofun, List.nodup_nil, fun _ => trivial⟩

/-! ### Every call is answered -/

/-- A blocking task starts or is done. -/
def Action.Runs : Action Call → Prop
  | .start _ | .finish _ => True
  | _ => False

/-- Blocking tasks start and are done, and nothing else happens. -/
def Runs (crates : AuthCrates Digest) (maxConcurrent : ℕ) (v v' : BasicAuthVerifier Call) : Prop :=
  ∃ as : List (Action Call), (∀ a ∈ as, a.Runs) ∧ (machine crates maxConcurrent).run v as = some v'

theorem Runs.refl : Runs crates maxConcurrent v v :=
  ⟨[], nofun, rfl⟩

theorem Runs.step {v'' : BasicAuthVerifier Call} (ha : a.Runs)
    (hs : v.step crates maxConcurrent a = some v') (h : Runs crates maxConcurrent v' v'') :
    Runs crates maxConcurrent v v'' := by
  obtain ⟨as, has, hrun⟩ := h
  refine ⟨a :: as, List.forall_mem_cons.2 ⟨ha, has⟩, ?_⟩
  rw [Machine.run]
  exact Option.bind_eq_some_iff.2 ⟨v', hs, hrun⟩

theorem Runs.trans {v'' : BasicAuthVerifier Call} (h : Runs crates maxConcurrent v v')
    (h' : Runs crates maxConcurrent v' v'') : Runs crates maxConcurrent v v'' := by
  obtain ⟨as, has, hrun⟩ := h
  induction as generalizing v with
  | nil =>
      obtain rfl := Option.some.inj hrun
      exact h'
  | cons a as ih =>
      obtain ⟨u, hu, hrun⟩ := Option.bind_eq_some_iff.1 hrun
      obtain ⟨ha, has⟩ := List.forall_mem_cons.1 has
      exact .step ha hu (ih has hrun)

theorem Runs.reachable (h : Runs crates maxConcurrent v v')
    (r : (machine crates maxConcurrent).Reachable v) :
    (machine crates maxConcurrent).Reachable v' := by
  obtain ⟨as, -, hrun⟩ := h
  exact Machine.reachable_of_run r hrun

/-- The task of a call with a permit starts. -/
theorem runs_start {since : ℕ} (hcall : v.call c = .acquiring check since)
    (hc : c ∈ v.permits.granted) :
    Runs crates maxConcurrent v (v.setCall c (.hashing check (v.now - since) true)) := by
  refine .step (a := .start c) trivial ?_ .refl
  simp only [step, start, hcall, if_pos hc]

variable (crates maxConcurrent) in
/-- A task is done and its call returns. -/
theorem runs_finish {waited : ℕ} (hcall : v.call c = .hashing check waited true) :
    Runs crates maxConcurrent v (v.leave c (.returned check true waited
      (crates.verifyCredentials check.headerValue check.expectedUsername check.hash))) := by
  refine .step (a := .finish c) trivial ?_ .refl
  simp only [step, finish, hcall]

variable (crates maxConcurrent) in
/-- A call with a permit returns. -/
theorem runs_granted (hc : c ∈ v.permits.granted) (hcheck : (v.call c).awaited = some check) :
    ∃ waited, Runs crates maxConcurrent v (v.leave c (.returned check true waited
      (crates.verifyCredentials check.headerValue check.expectedUsername check.hash))) := by
  cases hcall : v.call c with
  | acquiring check' since =>
      rw [hcall] at hcheck
      obtain rfl := Option.some.inj hcheck
      refine ⟨v.now - since, (runs_start hcall hc).trans ?_⟩
      have hfinish := runs_finish crates maxConcurrent
        (v := v.setCall c (.hashing check' (v.now - since) true)) call_setCall_self
      rwa [leave_setCall] at hfinish
  | hashing check' waited awaited =>
      rw [hcall] at hcheck
      cases awaited with
      | true =>
          obtain rfl := Option.some.inj hcheck
          exact ⟨waited, runs_finish crates maxConcurrent hcall⟩
      | false => cases hcheck
  | unborn | returned | dropped =>
      rw [hcall] at hcheck
      cases hcheck

/-- Whoever holds a permit gives it back. -/
theorem runs_leave (h : Inv crates maxConcurrent v) (hc : c ∈ v.permits.granted) :
    ∃ ph, Runs crates maxConcurrent v (v.leave c ph) := by
  rcases h.granted c hc with ⟨check, since, hcall⟩ | ⟨check, waited, awaited, hcall⟩
  · have hcheck : (v.call c).awaited = some check := by rw [hcall]; rfl
    obtain ⟨waited, hruns⟩ := runs_granted crates maxConcurrent hc hcheck
    exact ⟨_, hruns⟩
  · cases awaited with
    | true => exact ⟨_, runs_finish crates maxConcurrent hcall⟩
    | false =>
        refine ⟨.dropped, .step (a := .finish c) trivial ?_ .refl⟩
        simp only [step, finish, hcall]

theorem permitCount_pos : 0 < permitCount maxConcurrent :=
  Nat.lt_of_lt_of_le Nat.zero_lt_one (Nat.le_max_right ..)

/-- A call that is awaited returns as soon as the tasks before it are done. -/
theorem runs_answer (r : (machine crates maxConcurrent).Reachable v)
    (hcheck : (v.call c).awaited = some check) :
    ∃ v' waited, Runs crates maxConcurrent v v' ∧ v'.call c = .returned check true waited
      (crates.verifyHeader true check.headerValue check.expectedUsername check.hash) := by
  -- By induction on the number of calls that wait: whoever holds a permit lets one of them go on.
  induction hn : v.permits.waiting.length using Nat.strong_induction_on generalizing v with
  | _ n ih =>
      have h := inv_of_reachable r
      by_cases hc : c ∈ v.permits.granted
      · obtain ⟨waited, hruns⟩ := runs_granted crates maxConcurrent hc hcheck
        exact ⟨_, waited, hruns, call_leave_self⟩
      · have hwaiting : c ∈ v.permits.waiting := by
          rcases VerifyPhase.of_awaited hcheck with hcall | hcall
          · exact (h.acquiring c hcall).resolve_left hc
          · exact absurd (h.hashing c hcall) hc
        obtain ⟨d, hd⟩ := h.permits.exists_granted permitCount_pos h.queue hwaiting
        obtain ⟨ph, hruns⟩ := runs_leave h hd
        have hne : c ≠ d := fun he => hc (he ▸ hd)
        have hless : (v.leave d ph).permits.waiting.length < n := by
          show (v.permits.cancel d).waiting.length < n
          rw [Channel.waiting_cancel_of_mem hd, List.length_tail, hn]
          have := List.length_pos_of_mem hwaiting
          omega
        obtain ⟨v', waited, hruns', hcall⟩ := ih _ hless (hruns.reachable r)
          (by rw [call_leave_of_ne hne]; exact hcheck) rfl
        exact ⟨v', waited, hruns.trans hruns', hcall⟩

/-- **Verification is bounded and fair.**  In whatever order calls come, time out and are
dropped and their tasks end: there are never more tasks than permits; every permit in use is
of a call under way; a call waits only when all permits are in use, and those who hold them
came before it; a call returns what `verifyHeader` says, and without a permit after a second
at the earliest; and one that is awaited returns with a permit once the tasks before it are
done, if it does not time out. -/
theorem basic_auth_bounded (crates : AuthCrates Digest) (maxConcurrent : ℕ)
    (v : BasicAuthVerifier Call) (r : (machine crates maxConcurrent).Reachable v) :
    (∀ calls : List Call, calls.Nodup → (∀ c ∈ calls, (v.call c).Hashing) →
      calls.length ≤ permitCount maxConcurrent) ∧
    (∀ c ∈ v.permits.granted, (v.call c).Acquiring ∨ (v.call c).Hashing) ∧
    (∀ c ∈ v.permits.waiting, v.permits.granted.length = permitCount maxConcurrent ∧
      ∀ d ∈ v.permits.granted, [d, c].Sublist v.arrived) ∧
    (∀ c, Answered crates (v.call c)) ∧
    ∀ c check, (v.call c).awaited = some check →
      ∃ v' waited, Runs crates maxConcurrent v v' ∧ v'.call c = .returned check true waited
        (crates.verifyHeader true check.headerValue check.expectedUsername check.hash) := by
  have h := inv_of_reachable r
  refine ⟨fun calls => length_le_of_hashing h, h.granted, fun c hc => ⟨?_, fun d hd => ?_⟩,
    h.answered, fun c check hcheck => runs_answer r hcheck⟩
  · rw [← occupied_eq h]
    exact h.permits.full (List.ne_nil_of_mem hc)
  · exact h.order.sublist hd hc

end

/-- With one permit, a task runs and two calls wait, the first of which is dropped. -/
def crowdedRun : List (Action ℕ) :=
  [.call 0 ⟨"Basic dXNlcjphYmM=", "user", "abc"⟩, .call 1 ⟨"", "user", "abc"⟩, .start 0,
    .call 2 ⟨"Basic", "user", "abc"⟩, .drop 1, .tick]

theorem isSome_crowdedRun :
    ((machine Gate.abcCrates 0).run (new : BasicAuthVerifier ℕ) crowdedRun).isSome = true := by
  decide +kernel

theorem basic_auth_bounded_crowded :
    ((((machine Gate.abcCrates 0).run new crowdedRun).get isSome_crowdedRun).permits.granted.length
        = 1 ∧
      [0, 2].Sublist
        (((machine Gate.abcCrates 0).run new crowdedRun).get isSome_crowdedRun).arrived) := by
  obtain ⟨-, -, hwaiting, -⟩ := basic_auth_bounded Gate.abcCrates 0
    (((machine Gate.abcCrates 0).run new crowdedRun).get isSome_crowdedRun)
    (Machine.reachable_get (.init rfl) isSome_crowdedRun)
  obtain ⟨hlength, horder⟩ := hwaiting 2 (by decide +kernel)
  exact ⟨hlength, horder 0 (by decide +kernel)⟩

end BasicAuthVerifier
end Rgrok
