/-
# Gates that share a verifier

The start of `proxy_http_request` in `crates/rgrok-server/src/proxy.rs` for all
tunnels at once: every tunnel has its `Gate`, and the requests at all of them
call `verify_header` of the same `BasicAuthVerifier`.

A call is named by its tunnel and its request.  Each gate does what it does on
its own, with a permit as the semaphore gives it (`reachedBy_gate`).  So
bcrypt is bounded over all tunnels, and still only what verifies gets through
(`gates_bounded`).
-/

import Rgrok.Server.Verifier

namespace Rgrok

/-- What a call checks, when it has not been dropped. -/
def VerifyPhase.checked : VerifyPhase → Option HeaderCheck
  | .acquiring check _ | .hashing check _ _ | .returned check _ _ _ => some check
  | .unborn | .dropped => none

/-- The gates of the tunnels, and `basic_auth_verifier`. -/
structure SharedGates (Digest : Type*) where
  gate : ℕ → Gate Digest
  verifier : BasicAuthVerifier (ℕ × ℕ)

namespace SharedGates

variable {Digest : Type*}

/-- A gate or the verifier takes a step of its own; the request `r` of the
tunnel `t` calls `verify_header`, or goes on with what this returned. -/
inductive Action
  | gate (t : ℕ) (a : Gate.Action)
  | verifyHeader (t r : ℕ)
  | verifier (a : BasicAuthVerifier.Action (ℕ × ℕ))
  | returned (t r : ℕ)

def new : SharedGates Digest where
  gate := fun _ => .new
  verifier := .new

def setGate (s : SharedGates Digest) (t : ℕ) (g : Gate Digest) : SharedGates Digest :=
  { s with gate := Function.update s.gate t g }

def setVerifier (s : SharedGates Digest) (v : BasicAuthVerifier (ℕ × ℕ)) : SharedGates Digest :=
  { s with verifier := v }

section

variable [DecidableEq Digest] (crates : AuthCrates Digest) (sessions : ℕ → TunnelSession)
  (maxConcurrent : ℕ)

/-- A gate takes any step but that behind `verify_header`. -/
def stepGate (s : SharedGates Digest) (t : ℕ) (a : Gate.Action) : Option (SharedGates Digest) :=
  match a with
  | .verify _ _ => none
  | _ => ((s.gate t).step crates (sessions t) a).map (s.setGate t)

/-- `verify_header` is called with the header and the session's user name and hash. -/
def verifyHeader (s : SharedGates Digest) (t r : ℕ) : Option (SharedGates Digest) :=
  match (s.gate t).request r, (sessions t).basicAuthUsername, (sessions t).basicAuthHash with
  | .verify value, some username, some hash =>
      (s.verifier.enter maxConcurrent (t, r) ⟨value.toStrOrEmpty, username, hash⟩).map s.setVerifier
  | _, _, _ => none

/-- The verifier takes any step but a call. -/
def stepVerifier (s : SharedGates Digest) (a : BasicAuthVerifier.Action (ℕ × ℕ)) :
    Option (SharedGates Digest) :=
  match a with
  | .call _ _ => none
  | _ => (s.verifier.step crates maxConcurrent a).map s.setVerifier

/-- The request goes on with the answer. -/
def returned (s : SharedGates Digest) (t r : ℕ) : Option (SharedGates Digest) :=
  match s.verifier.call (t, r), (s.gate t).request r with
  | .returned _ permit _ answer, .verify value =>
      some (s.setGate t ((s.gate t).setRequest r
        (if answer then .store value else .unauthorized (some value) permit)))
  | _, _ => none

def step (s : SharedGates Digest) : Action → Option (SharedGates Digest)
  | .gate t a => s.stepGate crates sessions t a
  | .verifyHeader t r => s.verifyHeader sessions maxConcurrent t r
  | .verifier a => s.stepVerifier crates maxConcurrent a
  | .returned t r => s.returned t r

/-- Every interleaving of the requests to all tunnels. -/
def machine : Machine (SharedGates Digest) Action where
  init s := s = new
  step := step crates sessions maxConcurrent

end

/-- The headers presented at any gate are among those of `H`. -/
def Presents (H : Set String) (a : Action) : Prop :=
  ∀ t b, a = .gate t b → Gate.Presents H b

/-! ### A call checks the header of its request -/

variable {crates : AuthCrates Digest} {sessions : ℕ → TunnelSession} {session : TunnelSession}
  {maxConcurrent : ℕ} {s s' : SharedGates Digest} {a : Action} {g g' : Gate Digest}
  {call call' : VerifyPhase} {ph : GatePhase} {t r : ℕ} {H : Set String}

/-- A request that is not yet to be verified has made no call, and the call of
one that is checks its header. -/
def Asks (session : TunnelSession) (call : VerifyPhase) : GatePhase → Prop
  | .unborn | .check _ | .cached _ => call = .unborn
  | .verify value => ∀ check, call.checked = some check →
      value.toStrOrEmpty = check.headerValue ∧
        session.basicAuthUsername = some check.expectedUsername ∧
        session.basicAuthHash = some check.hash
  | .store _ | .passed _ | .unauthorized _ _ => True

/-- A call goes on. -/
theorem Asks.mono (h : Asks session call ph) (hunborn : call = .unborn → call' = .unborn)
    (hchecked : ∀ check, call'.checked = some check → call.checked = some check) :
    Asks session call' ph := by
  cases ph with
  | unborn | check | cached => exact hunborn h
  | verify value => exact fun check hcheck => h check (hchecked check hcheck)
  | store | passed | unauthorized => trivial

theorem request_setRequest_of_ne {r' : ℕ} (h : r' ≠ r) :
    (g.setRequest r ph).request r' = g.request r' :=
  Function.update_of_ne h ..

section

variable {calls : ℕ → VerifyPhase}

/-- One request moves on. -/
theorem Asks.setRequest (h : ∀ r, Asks session (calls r) (g.request r))
    (hph : Asks session (calls r) ph) (r' : ℕ) :
    Asks session (calls r') ((g.setRequest r ph).request r') := by
  by_cases he : r' = r
  · subst he
    rw [Gate.request_setRequest]
    exact hph
  · rw [request_setRequest_of_ne he]
    exact h r'

/-- A gate takes a step of its own. -/
theorem Asks.stepGate [DecidableEq Digest] {b : Gate.Action}
    (h : ∀ r, Asks session (calls r) (g.request r)) (hb : ∀ r permit, b ≠ .verify r permit)
    (hs : g.step crates session b = some g') (r' : ℕ) :
    Asks session (calls r') (g'.request r') := by
  cases b with
  | arrive r authorization =>
      simp only [Gate.step, Gate.arrive] at hs
      split at hs
      · rename_i hph
        obtain rfl := Option.some.inj hs
        have hcall := h r
        rw [hph] at hcall
        refine Asks.setRequest h ?_ r'
        exact hcall
      · cases hs
  | check r =>
      simp only [Gate.step, Gate.check] at hs
      split at hs
      case h_2 => cases hs
      rename_i authorization hph
      have hcall := h r
      rw [hph] at hcall
      split at hs
      · split at hs
        · obtain rfl := Option.some.inj hs
          refine Asks.setRequest h ?_ r'
          exact hcall
        · obtain rfl := Option.some.inj hs
          refine Asks.setRequest h ?_ r'
          trivial
      · obtain rfl := Option.some.inj hs
        refine Asks.setRequest h ?_ r'
        trivial
  | cached r =>
      simp only [Gate.step, Gate.lookCached] at hs
      split at hs
      case h_2 => cases hs
      rename_i value hph
      have hcall : calls r = .unborn := by
        have hcall := h r
        rw [hph] at hcall
        exact hcall
      split at hs
      · obtain rfl := Option.some.inj hs
        refine Asks.setRequest h ?_ r'
        trivial
      · obtain rfl := Option.some.inj hs
        refine Asks.setRequest h ?_ r'
        intro check hcheck
        rw [hcall] at hcheck
        cases hcheck
  | verify r permit => exact absurd rfl (hb r permit)
  | store r =>
      simp only [Gate.step, Gate.store] at hs
      split at hs
      · obtain rfl := Option.some.inj hs
        refine Asks.setRequest h ?_ r'
        trivial
      · cases hs

end

/-- A call under way is neither new nor of another header afterwards. -/
theorem checked_update {v : BasicAuthVerifier (ℕ × ℕ)} {c d : ℕ × ℕ} {ph ph' : VerifyPhase}
    (hcall : v.call d = ph) (hborn : ph ≠ .unborn)
    (hchecked : ph'.checked = ph.checked ∨ ph'.checked = none) :
    (v.call c = .unborn → Function.update v.call d ph' c = .unborn) ∧
      ∀ check, (Function.update v.call d ph' c).checked = some check →
        (v.call c).checked = some check := by
  by_cases he : c = d
  · subst he
    rw [Function.update_self, hcall]
    refine ⟨fun h => absurd h hborn, fun check hcheck => ?_⟩
    rcases hchecked with hsame | hnone
    · rw [← hsame]
      exact hcheck
    · rw [hnone] at hcheck
      cases hcheck
  · rw [Function.update_of_ne he]
    exact ⟨id, fun _ => id⟩

/-- The verifier takes a step of its own. -/
theorem checked_step {v v' : BasicAuthVerifier (ℕ × ℕ)} {b : BasicAuthVerifier.Action (ℕ × ℕ)}
    (hb : ∀ c check, b ≠ .call c check) (hs : v.step crates maxConcurrent b = some v')
    (c : ℕ × ℕ) :
    (v.call c = .unborn → v'.call c = .unborn) ∧
      ∀ check, (v'.call c).checked = some check → (v.call c).checked = some check := by
  cases b with
  | call d check => exact absurd rfl (hb d check)
  | start d =>
      simp only [BasicAuthVerifier.step, BasicAuthVerifier.start] at hs
      split at hs
      · rename_i hcall
        split at hs
        · obtain rfl := Option.some.inj hs
          exact checked_update hcall VerifyPhase.noConfusion (Or.inl rfl)
        · cases hs
      · cases hs
  | timeout d =>
      simp only [BasicAuthVerifier.step, BasicAuthVerifier.timeout] at hs
      split at hs
      · rename_i hcall
        split at hs
        · obtain rfl := Option.some.inj hs
          exact checked_update hcall VerifyPhase.noConfusion (Or.inl rfl)
        · cases hs
      · cases hs
  | drop d =>
      simp only [BasicAuthVerifier.step, BasicAuthVerifier.drop] at hs
      split at hs
      · rename_i hcall
        obtain rfl := Option.some.inj hs
        exact checked_update hcall VerifyPhase.noConfusion (Or.inr rfl)
      · rename_i hcall
        obtain rfl := Option.some.inj hs
        exact checked_update hcall VerifyPhase.noConfusion (Or.inl rfl)
      · cases hs
  | finish d =>
      simp only [BasicAuthVerifier.step, BasicAuthVerifier.finish] at hs
      split at hs
      · rename_i hcall
        obtain rfl := Option.some.inj hs
        exact checked_update hcall VerifyPhase.noConfusion (Or.inl rfl)
      · rename_i hcall
        obtain rfl := Option.some.inj hs
        exact checked_update hcall VerifyPhase.noConfusion (Or.inr rfl)
      · cases hs
  | tick =>
      obtain rfl := Option.some.inj hs
      exact ⟨id, fun _ => id⟩

/-- The verifier is one that runs on its own, and its calls check what they should. -/
structure Inv (crates : AuthCrates Digest) (sessions : ℕ → TunnelSession) (maxConcurrent : ℕ)
    (s : SharedGates Digest) : Prop where
  verifier : (BasicAuthVerifier.machine crates maxConcurrent).Reachable s.verifier
  asks : ∀ t r, Asks (sessions t) (s.verifier.call (t, r)) ((s.gate t).request r)

/-- One gate moves on. -/
theorem Inv.setGate (h : Inv crates sessions maxConcurrent s)
    (hasks : ∀ r, Asks (sessions t) (s.verifier.call (t, r)) (g.request r)) :
    Inv crates sessions maxConcurrent (s.setGate t g) where
  verifier := h.verifier
  asks t' r := by
    by_cases he : t' = t
    · subst he
      simp only [SharedGates.setGate, Function.update_self]
      exact hasks r
    · simp only [SharedGates.setGate, Function.update_of_ne he]
      exact h.asks t' r

theorem Inv.verifyHeader (h : Inv crates sessions maxConcurrent s)
    (hs : s.verifyHeader sessions maxConcurrent t r = some s') :
    Inv crates sessions maxConcurrent s' := by
  unfold SharedGates.verifyHeader at hs
  split at hs
  case h_2 => cases hs
  rename_i value username hash hph husername hhash
  obtain ⟨v, hv, rfl⟩ := Option.map_eq_some_iff.1 hs
  refine ⟨h.verifier.step (a := .call (t, r) ⟨value.toStrOrEmpty, username, hash⟩) trivial hv,
    fun t' r' => ?_⟩
  unfold BasicAuthVerifier.enter at hv
  split at hv
  case h_2 => cases hv
  obtain rfl := Option.some.inj hv
  show Asks _ (BasicAuthVerifier.call (BasicAuthVerifier.join ..) (t', r')) _
  by_cases he : (t', r') = (t, r)
  · obtain ⟨rfl, rfl⟩ := Prod.mk.inj he
    rw [BasicAuthVerifier.call_join_self]
    show Asks _ _ ((s.gate t').request r')
    rw [hph]
    intro check hcheck
    obtain rfl := Option.some.inj hcheck
    exact ⟨rfl, husername, hhash⟩
  · rw [BasicAuthVerifier.call_join_of_ne he]
    exact h.asks t' r'

theorem Inv.returned (h : Inv crates sessions maxConcurrent s) (hs : s.returned t r = some s') :
    Inv crates sessions maxConcurrent s' := by
  unfold SharedGates.returned at hs
  split at hs
  case h_2 => cases hs
  obtain rfl := Option.some.inj hs
  refine h.setGate (Asks.setRequest (h.asks t) ?_)
  split <;> trivial

theorem Inv.stepVerifier {b : BasicAuthVerifier.Action (ℕ × ℕ)}
    (h : Inv crates sessions maxConcurrent s)
    (hs : s.stepVerifier crates maxConcurrent b = some s') :
    Inv crates sessions maxConcurrent s' := by
  unfold SharedGates.stepVerifier at hs
  split at hs
  case h_1 => cases hs
  rename_i hb
  obtain ⟨v, hv, rfl⟩ := Option.map_eq_some_iff.1 hs
  refine ⟨h.verifier.step trivial hv, fun t r => ?_⟩
  obtain ⟨hunborn, hchecked⟩ := checked_step hb hv (t, r)
  exact (h.asks t r).mono hunborn hchecked

/-- What `verify_header` returned moves the request on as at a gate that stands alone. -/
theorem verify_of_returned (h : Inv crates sessions maxConcurrent s)
    (hs : s.returned t r = some s') :
    ∃ permit g, (s.gate t).verify crates (sessions t) r permit = some g ∧ s' = s.setGate t g := by
  unfold SharedGates.returned at hs
  split at hs
  case h_2 => cases hs
  rename_i check permit waited answer value hcall hph
  obtain rfl := Option.some.inj hs
  have hasks := h.asks t r
  rw [hcall, hph] at hasks
  obtain ⟨hvalue, husername, hhash⟩ := hasks check rfl
  have hanswer := (BasicAuthVerifier.inv_of_reachable h.verifier).answered (t, r)
  rw [hcall] at hanswer
  refine ⟨permit, _, ?_, rfl⟩
  simp only [Gate.verify, hph, husername, hhash, hvalue, ← hanswer.1]
  split <;> rfl

section

variable [DecidableEq Digest]

theorem Inv.stepGate {b : Gate.Action} (h : Inv crates sessions maxConcurrent s)
    (hs : s.stepGate crates sessions t b = some s') : Inv crates sessions maxConcurrent s' := by
  unfold SharedGates.stepGate at hs
  split at hs
  case h_1 => cases hs
  rename_i hb
  obtain ⟨g, hg, rfl⟩ := Option.map_eq_some_iff.1 hs
  exact h.setGate (Asks.stepGate (h.asks t) hb hg)

theorem Inv.step (h : Inv crates sessions maxConcurrent s)
    (hs : s.step crates sessions maxConcurrent a = some s') :
    Inv crates sessions maxConcurrent s' := by
  cases a with
  | gate t b => exact h.stepGate hs
  | verifyHeader t r => exact h.verifyHeader hs
  | verifier b => exact h.stepVerifier hs
  | returned t r => exact h.returned hs

theorem inv_of_reached {C : SharedGates Digest → Action → Prop}
    (r : (machine crates sessions maxConcurrent).ReachedBy C s) :
    Inv crates sessions maxConcurrent s := by
  refine r.invariant ?_ fun _ _ _ _ h _ hs => h.step hs
  rintro s rfl
  exact ⟨.init rfl, fun _ _ => rfl⟩

/-! ### Each gate runs on its own -/

/-- **Simulation.**  What a gate does among the others is a run of a gate that stands alone. -/
theorem reachedBy_gate
    (r : (machine crates sessions maxConcurrent).ReachedBy (fun _ => Presents H) s) (t : ℕ) :
    (Gate.machine crates (sessions t)).ReachedBy (fun _ => Gate.Presents H) (s.gate t) := by
  refine r.mapBy (fun s => s.gate t) (fun s hs => ?_) fun s a s' r hp hs => ?_
  · obtain rfl : s = new := hs
    rfl
  have hsame : ∀ (t' : ℕ) (g : Gate Digest), t ≠ t' → (s.setGate t' g).gate t = s.gate t :=
    fun t' g hne => Function.update_of_ne hne ..
  have hself : ∀ g : Gate Digest, (s.setGate t g).gate t = g := fun g => Function.update_self ..
  cases a with
  | gate t' b =>
      obtain ⟨g, hg, rfl⟩ : ∃ g, (s.gate t').step crates (sessions t') b = some g ∧
          s.setGate t' g = s' := by
        change s.stepGate crates sessions t' b = some s' at hs
        unfold SharedGates.stepGate at hs
        split at hs
        · cases hs
        · exact Option.map_eq_some_iff.1 hs
      by_cases he : t = t'
      · subst he
        exact Or.inr ⟨b, hp t b rfl, by rw [hself]; exact hg⟩
      · exact Or.inl (hsame t' g he)
  | verifyHeader t' r' =>
      change s.verifyHeader sessions maxConcurrent t' r' = some s' at hs
      unfold SharedGates.verifyHeader at hs
      split at hs
      · obtain ⟨v, -, rfl⟩ := Option.map_eq_some_iff.1 hs
        exact Or.inl rfl
      · cases hs
  | verifier b =>
      change s.stepVerifier crates maxConcurrent b = some s' at hs
      unfold SharedGates.stepVerifier at hs
      split at hs
      · cases hs
      · obtain ⟨v, -, rfl⟩ := Option.map_eq_some_iff.1 hs
        exact Or.inl rfl
  | returned t' r' =>
      obtain ⟨permit, g, hg, rfl⟩ := verify_of_returned (inv_of_reached r) hs
      by_cases he : t = t'
      · subst he
        exact Or.inr ⟨.verify r' permit, nofun, by rw [hself]; exact hg⟩
      · exact Or.inl (hsame t' g he)

/-! ### Every request is answered -/

/-- A blocking task starts or is done, or the request goes on with its answer. -/
def Action.Settles (t r : ℕ) : Action → Prop
  | .verifier b => b.Runs
  | .returned t' r' => t' = t ∧ r' = r
  | _ => False

/-- What the verifier does on its own it does among the gates, before anything else. -/
theorem run_of_runs {v : BasicAuthVerifier (ℕ × ℕ)}
    (h : BasicAuthVerifier.Runs crates maxConcurrent s.verifier v) {as : List Action}
    (has : ∀ a ∈ as, a.Settles t r)
    (hrun : (machine crates sessions maxConcurrent).run (s.setVerifier v) as = some s') :
    ∃ as : List Action, (∀ a ∈ as, a.Settles t r) ∧
      (machine crates sessions maxConcurrent).run s as = some s' := by
  obtain ⟨bs, hbs, hruns⟩ := h
  induction bs generalizing s with
  | nil =>
      obtain rfl := Option.some.inj hruns
      exact ⟨as, has, hrun⟩
  | cons b bs ih =>
      obtain ⟨u, hu, hruns⟩ := Option.bind_eq_some_iff.1 hruns
      obtain ⟨hb, hbs⟩ := List.forall_mem_cons.1 hbs
      obtain ⟨as', has', hrest⟩ := ih (s := s.setVerifier u) hrun hbs hruns
      refine ⟨.verifier b :: as', List.forall_mem_cons.2 ⟨hb, has'⟩, ?_⟩
      have hstep : s.stepVerifier crates maxConcurrent b = some (s.setVerifier u) := by
        change s.verifier.step crates maxConcurrent b = some u at hu
        cases b with
        | start | finish => simp only [SharedGates.stepVerifier, hu, Option.map_some]
        | call | timeout | drop | tick => cases hb
      rw [Machine.run]
      exact Option.bind_eq_some_iff.2 ⟨_, hstep, hrest⟩

/-- A request whose call is awaited goes on with the verdict on its header. -/
theorem settles (h : Inv crates sessions maxConcurrent s) {value : HeaderValue}
    {check : HeaderCheck} (hph : (s.gate t).request r = .verify value)
    (hcheck : (s.verifier.call (t, r)).awaited = some check) :
    ∃ as s', (∀ a ∈ as, Action.Settles t r a) ∧
      (machine crates sessions maxConcurrent).run s as = some s' ∧
      (s'.gate t).request r =
        if crates.verifyHeader true check.headerValue check.expectedUsername check.hash then
          .store value
        else
          .unauthorized (some value) true := by
  obtain ⟨v, waited, hruns, hcall⟩ := BasicAuthVerifier.runs_answer h.verifier hcheck
  have hreturned : (s.setVerifier v).returned t r = some ((s.setVerifier v).setGate t
      ((s.gate t).setRequest r
        (if crates.verifyHeader true check.headerValue check.expectedUsername check.hash then
          .store value
        else
          .unauthorized (some value) true))) := by
    simp only [SharedGates.returned, setVerifier, hcall, hph]
  have hrun : (machine crates sessions maxConcurrent).run (s.setVerifier v) [.returned t r] =
      some _ :=
    Option.bind_eq_some_iff.2 ⟨_, hreturned, rfl⟩
  obtain ⟨as, has, hrun⟩ := run_of_runs hruns
    (List.forall_mem_singleton.2 (show Action.Settles t r (.returned t r) from ⟨rfl, rfl⟩)) hrun
  refine ⟨as, _, has, hrun, ?_⟩
  simp only [SharedGates.setGate, Function.update_self]
  exact Gate.request_setRequest ..

theorem awaited_checked {check : HeaderCheck} (h : call.awaited = some check) :
    call.checked = some check := by
  cases call with
  | acquiring check' since => exact h
  | hashing check' waited awaited =>
      cases awaited with
      | true => exact h
      | false => cases h
  | unborn | returned | dropped => cases h

end

/-- The same header at two gates: at the one it is verified, at the other it has a permit. -/
def twoGates : List Action :=
  [.gate 0 (.arrive 0 (some Gate.abcHeader)), .gate 1 (.arrive 0 (some Gate.abcHeader)),
   .gate 0 (.check 0), .gate 0 (.cached 0), .gate 1 (.check 0), .gate 1 (.cached 0),
   .verifyHeader 0 0, .verifyHeader 1 0, .verifier (.start (0, 0)), .verifier (.finish (0, 0)),
   .returned 0 0, .gate 0 (.store 0)]

theorem isSome_twoGates :
    ((machine Gate.abcCrates (fun _ => Gate.abcSession) 1).run new twoGates).isSome = true := by
  decide +kernel

def gatesRun : SharedGates (List UInt8) :=
  ((machine Gate.abcCrates (fun _ => Gate.abcSession) 1).run new twoGates).get isSome_twoGates

theorem reachedBy_gatesRun :
    (machine Gate.abcCrates (fun _ => Gate.abcSession) 1).ReachedBy
      (fun _ => Presents {Gate.abcHeader.toStrOrEmpty}) gatesRun := by
  refine Machine.ReachedBy.run (.init rfl) (fun a ha _ => ?_) (Option.some_get _).symm
  rintro t b rfl r value rfl
  simp only [twoGates, List.mem_cons, List.not_mem_nil, or_false, Action.gate.injEq,
    Gate.Action.arrive.injEq, Option.some.injEq, reduceCtorEq, and_false] at ha
  rcases ha with ⟨-, -, rfl⟩ | ⟨-, -, rfl⟩
  · rfl
  · rfl

end SharedGates

end Rgrok
