/-
# The credentials of a tunnel

`handle_control_msg` in `crates/rgrok-server/src/control.rs` with the request
each session goes back to: `asked` is the `basic_auth` of the `TunnelRequest`
that was given an identity, and no step reads it.

A published session is guarded: it has the user name and a hash of the password
of its request, and neither when the request asked for none.
-/

import Rgrok.Server.BasicAuth
import Rgrok.Server.Guarantees
import Rgrok.Server.Setups

namespace Rgrok

/-- The lifecycle, and what was asked for each identity. -/
structure Registrations where
  life : Lifecycle
  asked : ℕ → Option BasicAuthConfig

namespace Registrations

variable {Digest : Type*}

/-- A step of the lifecycle; passwords are hashed with bcrypt under some salt. -/
inductive Action
  | task (a : Lifecycle.Action)
  | hashBasicAuth (c : ℕ) (salt : List UInt8)

/-- The server before the first connection. -/
def new (config : Config) : Registrations where
  life := .new config
  asked := fun _ => none

/-- A `TunnelRequest` is given the next identity. -/
def askedAfter (w : Registrations) : Lifecycle.Action → ℕ → Option BasicAuthConfig
  | .handleControlMsg _ (.tunnelRequest _ _ _ basicAuth _) _ =>
      Function.update w.asked w.life.nextArc basicAuth
  | _ => w.asked

/-- Hashing has its own step. -/
def allows : Lifecycle.Action → Bool
  | .hashBasicAuth _ _ => false
  | _ => true

def step (crates : AuthCrates Digest) (w : Registrations) : Action → Option Registrations
  | .task a =>
      if allows a then
        (w.life.step a).map fun life => { life := life, asked := w.askedAfter a }
      else
        none
  | .hashBasicAuth c salt =>
      (w.life.hashBasicAuth c (crates.hashBasicAuthPassword salt)).map fun life =>
        { w with life := life }

/-- Every run of the lifecycle. -/
def machine (crates : AuthCrates Digest) (config : Config) : Machine Registrations Action where
  init w := w = new config
  step := step crates

/-- The hash is one of the password that was asked for; without credentials
there is none. -/
def Hashed (crates : AuthCrates Digest) (basicAuth : Option BasicAuthConfig)
    (hash : Option String) : Prop :=
  match basicAuth with
  | none => hash = none
  | some ba => ∃ salt h, crates.hashBasicAuthPassword salt ba.password = .ok h ∧ hash = some h

/-- The session has the credentials of its request. -/
structure Guarded (crates : AuthCrates Digest) (asked : ℕ → Option BasicAuthConfig)
    (session : TunnelSession) : Prop where
  username : session.basicAuthUsername = (asked session.arc).map BasicAuthConfig.username
  hash : Hashed crates (asked session.arc) session.basicAuthHash

/-- What a setup on its way knows of its request. -/
def Carried (crates : AuthCrates Digest) (asked : ℕ → Option BasicAuthConfig) :
    ControlPhase → Prop
  | .handling (.reserve u) => asked u.arc = u.basicAuth
  | .handling (.hash u) => asked u.arc = u.basicAuth ∧ u.basicAuthHash = none
  | .handling (.createDns u _) =>
      asked u.arc = u.basicAuth ∧ Hashed crates u.basicAuth u.basicAuthHash
  | .handling (.newSession u) =>
      asked u.arc = u.basicAuth ∧ Hashed crates u.basicAuth u.basicAuthHash
  | .handling (.register session) => Guarded crates asked session
  | _ => True

/-- Every setup and every published HTTP session goes back to its request. -/
structure Inv (crates : AuthCrates Digest) (w : Registrations) : Prop where
  life : w.life.Inv
  carried : ∀ c, Carried crates w.asked (w.life.tasks.control c)
  tunnels : ∀ subdomain session, w.life.state.tunnels.lookup subdomain = some session →
    Guarded crates w.asked session

variable {crates : AuthCrates Digest} {w w' : Registrations} {a : Action} {l l' : Lifecycle}
  {asked asked' : ℕ → Option BasicAuthConfig} {session : TunnelSession} {c : ℕ}

theorem Guarded.congr (h : Guarded crates asked session)
    (heq : asked' session.arc = asked session.arc) : Guarded crates asked' session where
  username := by rw [heq]; exact h.username
  hash := by rw [heq]; exact h.hash

/-- A phase that carries no setup knows nothing. -/
theorem carried_of_setting {ph : ControlPhase} (h : ph.setting = false) :
    Carried crates asked ph := by
  cases ph with
  | handling hd =>
      cases hd with
      | reserve | hash | createDns | newSession | register => cases h
      | bind | registerTcp | release | releaseFailed | reply | deleteDns => trivial
  | vacant | authed | loopTop | select | cleanup | done => trivial

/-- A setup knows only of its own identity. -/
theorem Carried.congr {ph : ControlPhase} (h : Carried crates asked ph)
    (heq : ∀ arc, ph.duty.standing = some (arc, .setup) → asked' arc = asked arc) :
    Carried crates asked' ph := by
  cases ph with
  | handling hd =>
      cases hd with
      | reserve u => exact (heq u.arc rfl).trans h
      | hash u | createDns u | newSession u => exact ⟨(heq u.arc rfl).trans h.1, h.2⟩
      | register session => exact Guarded.congr h (heq session.arc rfl)
      | bind | registerTcp | release | releaseFailed | reply | deleteDns => trivial
  | vacant | authed | loopTop | select | cleanup | done => trivial

/-- Setups on their way have old identities. -/
theorem setup_lt (hi : l.Inv) {arc : ℕ}
    (h : (l.tasks.control c).duty.standing = some (arc, .setup)) : arc < l.nextArc :=
  (hi.2.arcs.setup (t := .control c) h).1

/-- Published sessions have old identities. -/
theorem published_lt (hi : l.Inv) {subdomain : String}
    (h : l.state.tunnels.lookup subdomain = some session) : session.arc < l.nextArc := by
  have hlive : l.view.slot (.http subdomain) = some (.live session) :=
    ServerState.slot_eq_live.2 h
  exact Passage.Inv.entered_lt hi.2.arcs session.arc (hi.2.arcs.live hlive).1

/-- A request has no setup yet under the identity it is given. -/
theorem askedAfter_of_lt {b : Lifecycle.Action} {arc : ℕ} (h : arc < w.life.nextArc) :
    w.askedAfter b arc = w.asked arc := by
  unfold askedAfter
  split
  · rw [Function.update_of_ne (Nat.ne_of_lt h)]
  · rfl

/-- After the hash, the setup carries one of its own password. -/
theorem carried_afterHash {u : ReservedSetup} (h : asked u.arc = u.basicAuth)
    (hhash : Hashed crates u.basicAuth u.basicAuthHash) :
    Carried crates asked (.handling (Lifecycle.afterHash u)) := by
  unfold Lifecycle.afterHash
  split
  · exact ⟨h, hhash⟩
  · exact ⟨h, hhash⟩
  · exact ⟨h, hhash⟩

/-- What a step carries on goes back to the same request. -/
theorem Inv.carried_step {b : Lifecycle.Action} (hi : Inv crates w) (hs : w.life.step b = some l')
    (hhash : ∀ c f, b = .hashBasicAuth c f → ∃ salt, f = crates.hashBasicAuthPassword salt)
    (c : ℕ) : Carried crates (w.askedAfter b) (l'.tasks.control c) := by
  have hold : Carried crates (w.askedAfter b) (w.life.tasks.control c) :=
    (hi.carried c).congr fun arc harc => askedAfter_of_lt (setup_lt hi.life harc)
  have hstep := Lifecycle.step_setup hs c
  generalize l'.tasks.control c = ph at hstep
  cases hstep with
  | keep => exact hold
  | other _ hph => exact carried_of_setting hph
  | request id tunnelType requested subdomain basicAuth options draw ha =>
      subst ha
      exact Function.update_self ..
  | reserve u port kind hph =>
      rw [hph] at hold
      exact ⟨hold, rfl⟩
  | skipHash u hph hnone =>
      rw [hph] at hold
      refine carried_afterHash hold.1 ?_
      rw [hnone]
      exact hold.2
  | hash u ba hash f ha hph hba hf =>
      rw [hph] at hold
      obtain ⟨salt, rfl⟩ := hhash c f ha
      refine carried_afterHash hold.1 (?_ : Hashed crates u.basicAuth (some hash))
      rw [hba]
      exact ⟨salt, hash, hf, rfl⟩
  | createDns u http u' hph hu =>
      subst hu
      rw [hph] at hold
      exact hold
  | newSession u hph =>
      rw [hph] at hold
      obtain ⟨hasked, hhashed⟩ := hold
      refine ⟨?_, ?_⟩
      · rw [PreparedSetup.session, hasked]
      · rw [PreparedSetup.session, hasked]
        exact hhashed

/-- A step keeps the published sessions guarded. -/
theorem Inv.tunnels_step {b : Lifecycle.Action} (hi : Inv crates w) (hs : w.life.step b = some l')
    {subdomain : String} (h : l'.state.tunnels.lookup subdomain = some session) :
    Guarded crates (w.askedAfter b) session := by
  have old (hlookup : w.life.state.tunnels.lookup subdomain = some session) :
      Guarded crates (w.askedAfter b) session :=
    (hi.tunnels subdomain session hlookup).congr
      (askedAfter_of_lt (published_lt hi.life hlookup))
  have hstep := Lifecycle.step_store hs
  generalize l'.state = s at hstep h
  cases hstep with
  | keep _ _ _ htunnels =>
      rw [htunnels] at h
      exact old h
  | publish c published _ hph _ _ htunnels =>
      rw [htunnels] at h
      by_cases hname : subdomain = published.subdomain
      · subst hname
        rw [AList.lookup_insert] at h
        obtain rfl := Option.some.inj h
        have hcarried := hi.carried c
        rw [hph] at hcarried
        exact hcarried
      · rw [AList.lookup_insert_ne hname] at h
        exact old h
  | remove _ name removed _ _ _ htunnels =>
      rw [htunnels] at h
      refine old ?_
      by_cases hname : subdomain = name
      · subst hname
        rw [AList.lookup_erase] at h
        cases h
      · rwa [AList.lookup_erase_ne hname] at h

theorem Inv.step (hi : Inv crates w) (hs : w.step crates a = some w') : Inv crates w' := by
  cases a with
  | task b =>
      simp only [Registrations.step] at hs
      split_ifs at hs with hallows
      obtain ⟨l', hl, rfl⟩ := Option.map_eq_some_iff.1 hs
      refine ⟨hi.life.step hl, fun c => ?_, fun subdomain session h => ?_⟩
      · refine hi.carried_step hl ?_ c
        rintro c' f rfl
        cases hallows
      · exact hi.tunnels_step hl h
  | hashBasicAuth c salt =>
      obtain ⟨l', hl, rfl⟩ := Option.map_eq_some_iff.1 hs
      have hl' : w.life.step (.hashBasicAuth c (crates.hashBasicAuthPassword salt)) = some l' := hl
      refine ⟨hi.life.step hl', fun c' => ?_, fun subdomain session h => ?_⟩
      · refine hi.carried_step hl' ?_ c'
        rintro c'' f he
        obtain ⟨-, rfl⟩ := Lifecycle.Action.hashBasicAuth.inj he
        exact ⟨salt, rfl⟩
      · exact hi.tunnels_step hl' h

/-- **Published sessions are guarded as they were asked to be.** -/
theorem inv_of_reachable {config : Config} (r : (machine crates config).Reachable w) :
    Inv crates w := by
  refine r.invariant ?_ fun w a w' _ hi _ hs => hi.step hs
  rintro w rfl
  refine ⟨Lifecycle.inv_of_reachable (.init rfl), fun c => trivial, fun subdomain session h => ?_⟩
  cases h

end Registrations
end Rgrok
