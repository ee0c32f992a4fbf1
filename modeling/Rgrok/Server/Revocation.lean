/-
# Revoked tokens and the connections that use them

`is_jti_revoked` and `reload_revoked_jtis` in
`crates/rgrok-server/src/tunnel_manager.rs`, and where `handle_client` in
`control.rs` looks at them: before `AuthOk`, at the top of its loop, and when
`revocation_epoch.changed()` wakes its `select!`.

A reload holds the write lock of the set from `startReload` to `unlock`, and
raises the epoch before it lets go; `is_jti_revoked` is one step, taken while no
reload is under way.  `seen` is the epoch a connection's receiver has seen, and
`woken` tells that `changed()` has completed and the set is yet to be looked at.
Whatever else the server does is a step of `Server.lean`.
-/

import Rgrok.Server.Admission
import Rgrok.Server.ControlQueue
import Rgrok.Server.Progress

namespace Rgrok

/-- Where `reload_revoked_jtis` stands: without the write lock, or with it,
before and after each of its three statements. -/
inductive ReloadPhase
  | idle
  | locked (jtis : List String)
  | cleared (jtis : List String)
  | extended
  | notified
deriving DecidableEq

/-- How far `handle_client` is with the first message of a connection. -/
inductive Entry
  | connected
  | checking (claims : TokenClaims)
  | turnedAway (reply : ServerMsg)
  | admitted (claims : TokenClaims)
deriving DecidableEq

/-- The server, its set of revoked ids, and what the connections know of it. -/
structure Revocation where
  server : Server
  revoked : List String
  epoch : ℕ
  reload : ReloadPhase
  entry : ℕ → Entry
  seen : ℕ → ℕ
  woken : ℕ → Bool

namespace Revocation

/-- The server at its start. -/
def new (config : Config) : Revocation where
  server := .new config
  revoked := config.auth.revokedJtis
  epoch := 0
  reload := .idle
  entry := fun _ => .connected
  seen := fun _ => 0
  woken := fun _ => false

def setEntry (s : Revocation) (c : ℕ) (e : Entry) : Revocation :=
  { s with entry := Function.update s.entry c e }

def setWoken (s : Revocation) (c : ℕ) (woken : Bool) : Revocation :=
  { s with woken := Function.update s.woken c woken }

/-! ### `is_jti_revoked` -/

/-- `is_jti_revoked`, once it has the read lock. -/
def isJtiRevoked (s : Revocation) (jti : String) : Bool :=
  s.revoked.contains jti

/-- Whether the read lock can be had. -/
def readable (s : Revocation) : Bool :=
  match s.reload with
  | .idle => true
  | _ => false

/-! ### `handle_client` -/

/-- The first message is read. -/
def readAuth (decode : DecodeToken) (s : Revocation) (c : ℕ) (msg : ClientMsg) (now : ℕ) :
    Option Revocation :=
  match s.entry c with
  | .connected =>
      match authenticate decode s.server.life.state.config now msg with
      | .ok claims => some (s.setEntry c (.checking claims))
      | .error reply => some (s.setEntry c (.turnedAway reply))
  | _ => none

/-- The blocklist is asked about a valid token. -/
def checkJti (s : Revocation) (c : ℕ) : Option Revocation :=
  match s.entry c with
  | .checking claims =>
      if !s.readable then none
      else if s.isJtiRevoked claims.jti then
        some (s.setEntry c (.turnedAway (.authErr "token has been revoked")))
      else
        (s.server.step (.task (.accept c))).map fun server =>
          { s.setEntry c (.admitted claims) with server := server }
  | _ => none

/-- The check at the top of the loop. -/
def checkTop (s : Revocation) (c : ℕ) : Option Revocation :=
  match s.entry c, s.server.life.tasks.control c with
  | .admitted claims, .loopTop =>
      if !s.readable then none
      else
        (s.server.step (.task
          (if s.isJtiRevoked claims.jti then .breakLoop c .revoked else .enterSelect c))).map
          fun server => { s with server := server }
  | _, _ => none

/-- `revocation_epoch.changed()` completes. -/
def changed (s : Revocation) (c : ℕ) : Option Revocation :=
  if s.server.selecting c && !s.woken c && s.seen c != s.epoch then
    some { s.setWoken c true with seen := Function.update s.seen c s.epoch }
  else
    none

/-- The check after `changed()`. -/
def checkChanged (s : Revocation) (c : ℕ) : Option Revocation :=
  match s.entry c with
  | .admitted claims =>
      if !(s.woken c && s.readable) then none
      else
        (s.server.step (.task
          (if s.isJtiRevoked claims.jti then .breakLoop c .revoked
            else .continueLoop c .epochChanged))).map
          fun server => { s.setWoken c false with server := server }
  | _ => none

/-! ### Everything else -/

/-- The steps of the server that the ones above stand for are not taken by
themselves, and a woken `select!` has no other branch left. -/
def allows (s : Revocation) : Server.Action → Bool
  | .task (.accept _) | .task (.enterSelect _) | .task (.continueLoop _ .epochChanged)
  | .task (.breakLoop _ .revoked) => false
  | .task (.handleControlMsg c _ _) | .task (.continueLoop c .sent)
  | .task (.breakLoop c _) => !s.woken c
  | _ => true

/-- `revocation_epoch.subscribe()`, between `AuthOk` and the loop. -/
def seenAfter (s : Revocation) : Server.Action → ℕ → ℕ
  | .task (.enterLoop c) => Function.update s.seen c s.epoch
  | _ => s.seen

/-- A step of the rest of the server. -/
def serve (s : Revocation) (a : Server.Action) : Option Revocation :=
  if s.allows a then
    (s.server.step a).map fun server => { s with server := server, seen := s.seenAfter a }
  else
    none

/-! ### `reload_revoked_jtis` -/

/-- The write lock is taken. -/
def startReload (s : Revocation) (jtis : List String) : Option Revocation :=
  match s.reload with
  | .idle => some { s with reload := .locked jtis }
  | _ => none

/-- `blocklist.clear()`, `blocklist.extend(..)`, `send_modify` and the end of
the function, which drops the lock. -/
def continueReload (s : Revocation) : Option Revocation :=
  match s.reload with
  | .idle => none
  | .locked jtis => some { s with revoked := [], reload := .cleared jtis }
  | .cleared jtis => some { s with revoked := jtis, reload := .extended }
  | .extended => some { s with epoch := s.epoch + 1, reload := .notified }
  | .notified => some { s with reload := .idle }

/-! ### The machine -/

/-- A step of a connection, of a reload, or of anything else. -/
inductive Action
  | readAuth (c : ℕ) (msg : ClientMsg) (now : ℕ)
  | checkJti (c : ℕ)
  | checkTop (c : ℕ)
  | changed (c : ℕ)
  | checkChanged (c : ℕ)
  | serve (a : Server.Action)
  | startReload (jtis : List String)
  | continueReload

def step (decode : DecodeToken) (s : Revocation) : Action → Option Revocation
  | .readAuth c msg now => readAuth decode s c msg now
  | .checkJti c => s.checkJti c
  | .checkTop c => s.checkTop c
  | .changed c => s.changed c
  | .checkChanged c => s.checkChanged c
  | .serve a => s.serve a
  | .startReload jtis => s.startReload jtis
  | .continueReload => s.continueReload

/-- All interleavings of the server with reloads of the blocklist. -/
def machine (decode : DecodeToken) (config : Config) : Machine Revocation Action where
  init s := s = new config
  step := step decode

variable {decode : DecodeToken} {config : Config} {s s' : Revocation} {a : Action} {c : ℕ}
  {claims : TokenClaims}

/-! ### What a step can do -/

/-- A step, with what it needs and leaves behind. -/
inductive Step (decode : DecodeToken) (s : Revocation) : Action → Revocation → Prop
  | refuse (c : ℕ) (msg : ClientMsg) (now : ℕ) (reply : ServerMsg)
      (hentry : s.entry c = .connected)
      (hauth : authenticate decode s.server.life.state.config now msg = .error reply) :
      Step decode s (.readAuth c msg now) (s.setEntry c (.turnedAway reply))
  | accept (c : ℕ) (msg : ClientMsg) (now : ℕ) (claims : TokenClaims)
      (hentry : s.entry c = .connected)
      (hauth : authenticate decode s.server.life.state.config now msg = .ok claims) :
      Step decode s (.readAuth c msg now) (s.setEntry c (.checking claims))
  | block (c : ℕ) (claims : TokenClaims) (hentry : s.entry c = .checking claims)
      (hreload : s.reload = .idle) (hjti : claims.jti ∈ s.revoked) :
      Step decode s (.checkJti c) (s.setEntry c (.turnedAway (.authErr "token has been revoked")))
  | admitted (c : ℕ) (claims : TokenClaims) (server : Server) (hentry : s.entry c = .checking claims)
      (hreload : s.reload = .idle) (hjti : claims.jti ∉ s.revoked)
      (hserver : s.server.step (.task (.accept c)) = some server) :
      Step decode s (.checkJti c) { s.setEntry c (.admitted claims) with server := server }
  | top (c : ℕ) (claims : TokenClaims) (b : Lifecycle.Action) (server : Server)
      (hentry : s.entry c = .admitted claims)
      (hph : s.server.life.tasks.control c = .loopTop) (hreload : s.reload = .idle)
      (hb : claims.jti ∈ s.revoked ∧ b = .breakLoop c .revoked ∨
        claims.jti ∉ s.revoked ∧ b = .enterSelect c)
      (hserver : s.server.step (.task b) = some server) :
      Step decode s (.checkTop c) { s with server := server }
  | changed (c : ℕ) (hselect : s.server.selecting c = true) (hwoken : s.woken c = false)
      (hseen : s.seen c ≠ s.epoch) :
      Step decode s (.changed c)
        { s.setWoken c true with seen := Function.update s.seen c s.epoch }
  | checkChanged (c : ℕ) (claims : TokenClaims) (b : Lifecycle.Action) (server : Server)
      (hentry : s.entry c = .admitted claims) (hwoken : s.woken c = true)
      (hreload : s.reload = .idle)
      (hb : claims.jti ∈ s.revoked ∧ b = .breakLoop c .revoked ∨
        claims.jti ∉ s.revoked ∧ b = .continueLoop c .epochChanged)
      (hserver : s.server.step (.task b) = some server) :
      Step decode s (.checkChanged c) { s.setWoken c false with server := server }
  | serve (b : Server.Action) (server : Server) (hallows : s.allows b = true)
      (hserver : s.server.step b = some server) :
      Step decode s (.serve b) { s with server := server, seen := s.seenAfter b }
  | lock (jtis : List String) (hreload : s.reload = .idle) :
      Step decode s (.startReload jtis) { s with reload := .locked jtis }
  | clear (jtis : List String) (hreload : s.reload = .locked jtis) :
      Step decode s .continueReload { s with revoked := [], reload := .cleared jtis }
  | extend (jtis : List String) (hreload : s.reload = .cleared jtis) :
      Step decode s .continueReload { s with revoked := jtis, reload := .extended }
  | notify (hreload : s.reload = .extended) :
      Step decode s .continueReload { s with epoch := s.epoch + 1, reload := .notified }
  | unlock (hreload : s.reload = .notified) :
      Step decode s .continueReload { s with reload := .idle }

theorem readable_eq_true : s.readable = true ↔ s.reload = .idle := by
  rw [readable]
  split
  · rename_i h
    exact ⟨fun _ => h, fun _ => rfl⟩
  · rename_i h
    exact ⟨fun hf => absurd hf Bool.false_ne_true, fun hr => absurd hr h⟩

theorem isJtiRevoked_eq_true {jti : String} : s.isJtiRevoked jti = true ↔ jti ∈ s.revoked :=
  List.contains_iff_mem

theorem readAuth_cases {msg : ClientMsg} {now : ℕ} (h : readAuth decode s c msg now = some s') :
    s.Step decode (.readAuth c msg now) s' := by
  rw [readAuth] at h
  split at h
  · rename_i hentry
    split at h
    · rename_i claims hauth
      obtain rfl := Option.some.inj h
      exact .accept c msg now claims hentry hauth
    · rename_i reply hauth
      obtain rfl := Option.some.inj h
      exact .refuse c msg now reply hentry hauth
  · cases h

theorem checkJti_cases (h : s.checkJti c = some s') : s.Step decode (.checkJti c) s' := by
  rw [checkJti] at h
  split at h
  · rename_i claims hentry
    split_ifs at h with hreadable hjti
    · obtain rfl := Option.some.inj h
      simp only [Bool.not_eq_true', Bool.not_eq_false] at hreadable
      exact .block c claims hentry (readable_eq_true.1 hreadable) (isJtiRevoked_eq_true.1 hjti)
    · obtain ⟨server, hserver, rfl⟩ := Option.map_eq_some_iff.1 h
      simp only [Bool.not_eq_true', Bool.not_eq_false] at hreadable
      exact .admitted c claims server hentry (readable_eq_true.1 hreadable)
        (fun hmem => hjti (isJtiRevoked_eq_true.2 hmem)) hserver
  · cases h

theorem checkTop_cases (h : s.checkTop c = some s') : s.Step decode (.checkTop c) s' := by
  rw [checkTop] at h
  split at h
  · rename_i claims hentry hph
    split_ifs at h with hreadable hjti
    all_goals
      obtain ⟨server, hserver, rfl⟩ := Option.map_eq_some_iff.1 h
      simp only [Bool.not_eq_true', Bool.not_eq_false] at hreadable
    · exact .top c claims _ server hentry hph (readable_eq_true.1 hreadable)
        (Or.inl ⟨isJtiRevoked_eq_true.1 hjti, rfl⟩) hserver
    · exact .top c claims _ server hentry hph (readable_eq_true.1 hreadable)
        (Or.inr ⟨fun hmem => hjti (isJtiRevoked_eq_true.2 hmem), rfl⟩) hserver
  · cases h

theorem changed_cases (h : s.changed c = some s') : s.Step decode (.changed c) s' := by
  rw [changed] at h
  split_ifs at h with hready
  obtain rfl := Option.some.inj h
  rw [Bool.and_eq_true, Bool.and_eq_true, Bool.not_eq_true', bne_iff_ne] at hready
  exact .changed c hready.1.1 hready.1.2 hready.2

theorem checkChanged_cases (h : s.checkChanged c = some s') :
    s.Step decode (.checkChanged c) s' := by
  rw [checkChanged] at h
  split at h
  · rename_i claims hentry
    split_ifs at h with hready hjti
    all_goals
      obtain ⟨server, hserver, rfl⟩ := Option.map_eq_some_iff.1 h
      simp only [Bool.not_eq_true', Bool.not_eq_false, Bool.and_eq_true] at hready
    · exact .checkChanged c claims _ server hentry hready.1 (readable_eq_true.1 hready.2)
        (Or.inl ⟨isJtiRevoked_eq_true.1 hjti, rfl⟩) hserver
    · exact .checkChanged c claims _ server hentry hready.1 (readable_eq_true.1 hready.2)
        (Or.inr ⟨fun hmem => hjti (isJtiRevoked_eq_true.2 hmem), rfl⟩) hserver
  · cases h

theorem continueReload_cases (h : s.continueReload = some s') :
    s.Step decode .continueReload s' := by
  rw [continueReload] at h
  split at h
  · cases h
  all_goals
    rename_i hreload
    obtain rfl := Option.some.inj h
  · exact .clear _ hreload
  · exact .extend _ hreload
  · exact .notify hreload
  · exact .unlock hreload

/-- **Inversion.**  What each action needs and does. -/
theorem step_cases (h : step decode s a = some s') : s.Step decode a s' := by
  cases a with
  | readAuth c msg now => exact readAuth_cases h
  | checkJti c => exact checkJti_cases h
  | checkTop c => exact checkTop_cases h
  | changed c => exact changed_cases h
  | checkChanged c => exact checkChanged_cases h
  | serve b =>
      simp only [step, Revocation.serve] at h
      split_ifs at h with hallows
      obtain ⟨server, hserver, rfl⟩ := Option.map_eq_some_iff.1 h
      exact .serve b server hallows hserver
  | startReload jtis =>
      simp only [step, startReload] at h
      split at h
      · rename_i hreload
        obtain rfl := Option.some.inj h
        exact .lock jtis hreload
      · cases h
  | continueReload => exact continueReload_cases h

/-! ### The steps of one connection -/

/-- A step of the control task of `c`, from its loop on. -/
def Action.own (c : ℕ) : Action → Bool
  | .checkTop c' | .changed c' | .checkChanged c' | .serve (.pollReply c') => c' == c
  | .serve (.task b) => decide (b.task = .control c)
  | _ => false

/-- The control task of `c` is given a message. -/
def Action.handles (c : ℕ) : Action → Bool
  | .serve (.task (.handleControlMsg c' _ _)) => c' == c
  | _ => false

/-- The connection waits in its `select!`. -/
def Parked (s : Revocation) (c : ℕ) : Prop :=
  s.server.life.tasks.control c = .select ∧ s.woken c = false

/-- The token of the connection is in the set. -/
def Revoked (s : Revocation) (c : ℕ) : Prop :=
  ∃ claims, s.entry c = .admitted claims ∧ claims.jti ∈ s.revoked

theorem selecting_eq_true {server : Server} :
    server.selecting c = true ↔ server.life.tasks.control c = .select := by
  rw [Server.selecting]
  split
  · rename_i h
    exact ⟨fun _ => h, fun _ => rfl⟩
  · rename_i h
    exact ⟨fun hf => absurd hf Bool.false_ne_true, fun hs => absurd hs h⟩

theorem server_reached {D : Server → Server.Action → Prop} {C : Revocation → Action → Prop}
    (hserve : ∀ s b, C s (.serve b) → D s.server b)
    (hcheck : ∀ (s : Server) (c : ℕ) (b : Lifecycle.Action), b = .accept c ∨ b = .enterSelect c ∨
      b = .continueLoop c .epochChanged ∨ b = .breakLoop c .revoked → D s (.task b))
    (r : (machine decode config).ReachedBy C s) :
    (Server.machine config).ReachedBy D s.server := by
  refine r.mapBy Revocation.server ?_ fun s a s' _ hc hstep => ?_
  · rintro s rfl
    rfl
  · cases step_cases hstep with
    | admitted c claims server hentry hreload hjti hserver =>
        exact Or.inr ⟨_, hcheck _ c _ (Or.inl rfl), hserver⟩
    | top c claims b server hentry hph hreload hb hserver =>
        refine Or.inr ⟨_, hcheck _ c b ?_, hserver⟩
        rcases hb with ⟨-, rfl⟩ | ⟨-, rfl⟩
        · exact Or.inr (Or.inr (Or.inr rfl))
        · exact Or.inr (Or.inl rfl)
    | checkChanged c claims b server hentry hwoken hreload hb hserver =>
        refine Or.inr ⟨_, hcheck _ c b ?_, hserver⟩
        rcases hb with ⟨-, rfl⟩ | ⟨-, rfl⟩
        · exact Or.inr (Or.inr (Or.inr rfl))
        · exact Or.inr (Or.inr (Or.inl rfl))
    | serve b server hallows hserver => exact Or.inr ⟨b, hserve _ b hc, hserver⟩
    | _ => exact Or.inl rfl

theorem server_reachable (r : (machine decode config).Reachable s) :
    (Server.machine config).Reachable s.server :=
  server_reached (fun _ _ _ => trivial) (fun _ _ _ _ => trivial) r

section OneStep

variable {server : Server} {b : Server.Action}

/-- A step of the server that is not one of its control task leaves a connection
where it is. -/
theorem control_of_server (h : s.server.step b = some server)
    (hb : ∀ b', b = .task b' → b'.task ≠ .control c) :
    server.life.tasks.control c = s.server.life.tasks.control c ∧
      server.life.stepsLeft c = s.server.life.stepsLeft c := by
  rcases (Server.step_cases h).life with ⟨b', rfl, -, hlife⟩ | ⟨-, hlife⟩
  · exact ⟨Lifecycle.control_frame hlife (hb b' rfl), Lifecycle.stepsLeft_frame hlife (hb b' rfl)⟩
  · rw [hlife]
    exact ⟨rfl, rfl⟩

theorem life_of_server {b : Lifecycle.Action} (h : s.server.step (.task b) = some server) :
    s.server.life.step b = some server.life := by
  rcases (Server.step_cases h).life with ⟨b', hb, -, hlife⟩ | ⟨hne, -⟩
  · obtain rfl := Server.Action.task.inj hb
    exact hlife
  · exact absurd rfl (hne b)

/-- A step that completes the `select!` is taken by itself only if `changed()`
has not completed before. -/
theorem woken_of_allows {b : Lifecycle.Action} (hallows : s.allows (.task b) = true)
    (hb : b.completes c) : s.woken c = false := by
  rcases hb with ⟨cause, rfl⟩ | ⟨cause, rfl⟩ | ⟨msg, draw, rfl⟩
  · cases cause with
    | sent => simpa only [allows, Bool.not_eq_true'] using hallows
    | epochChanged => cases hallows
  · cases cause with
    | revoked => cases hallows
    | readFailed | writeFailed | cancelled =>
        simpa only [allows, Bool.not_eq_true'] using hallows
  · simpa only [allows, Bool.not_eq_true'] using hallows

theorem seenAfter_of_ne (hb : b ≠ .task (.enterLoop c)) : s.seenAfter b c = s.seen c := by
  unfold seenAfter
  split
  · rename_i c'
    have hne : c ≠ c' := by
      rintro rfl
      exact hb rfl
    exact Function.update_of_ne hne _ _
  · rfl

theorem seenAfter_le (h : s.seen c ≤ s.epoch) : s.seenAfter b c ≤ s.epoch := by
  by_cases hb : b = .task (.enterLoop c)
  · subst hb
    rw [seenAfter, Function.update_self]
  · rw [seenAfter_of_ne hb]
    exact h

end OneStep

/-! ### The invariant -/

/-- The set as a connection knows it that has seen the current epoch. -/
def Settled (s : Revocation) (jti : String) : Prop :=
  match s.reload with
  | .idle | .locked _ => jti ∉ s.revoked
  | .cleared _ | .extended => True
  | .notified => False

/-- What holds of every connection. -/
structure Sound (s : Revocation) (c : ℕ) : Prop where
  vacant : s.server.life.tasks.control c = .vacant ↔ ∀ claims, s.entry c ≠ .admitted claims
  woken : s.woken c = true → s.server.life.tasks.control c = .select
  seen : s.seen c ≤ s.epoch
  pending : ∀ claims, s.entry c = .admitted claims → s.Parked c → s.seen c = s.epoch →
    s.Settled claims.jti

namespace Sound

theorem new (config : Config) (c : ℕ) : (Revocation.new config).Sound c where
  vacant := ⟨fun _ _ => by simp [Revocation.new], fun _ => rfl⟩
  woken h := by cases h
  seen := Nat.le_refl _
  pending claims h := by cases h

/-- A connection that stays as it is, while its set is the same. -/
theorem keep (h : s.Sound c)
    (hcontrol : s'.server.life.tasks.control c = s.server.life.tasks.control c)
    (hentry : (∀ claims, s'.entry c = .admitted claims ↔ s.entry c = .admitted claims))
    (hwoken : s'.woken c = s.woken c) (hseen : s'.seen c = s.seen c) (hepoch : s'.epoch = s.epoch)
    (hset : ∀ jti, s.Settled jti → s'.Settled jti) : s'.Sound c where
  vacant := by
    rw [hcontrol, h.vacant]
    exact forall_congr' fun claims => not_congr (hentry claims).symm
  woken := by
    rw [hwoken, hcontrol]
    exact h.woken
  seen := by
    rw [hseen, hepoch]
    exact h.seen
  pending claims he hp hs := by
    rw [hseen, hepoch] at hs
    rw [Parked, hcontrol, hwoken] at hp
    exact hset _ (h.pending claims ((hentry claims).1 he) hp hs)

/-- A connection that is no longer parked. -/
theorem leave (hentry : ∃ claims, s'.entry c = .admitted claims)
    (hvacant : s'.server.life.tasks.control c ≠ .vacant)
    (hselect : s'.server.life.tasks.control c ≠ .select) (hwoken : s'.woken c = false)
    (hseen : s'.seen c ≤ s'.epoch) : s'.Sound c where
  vacant := by
    obtain ⟨claims, hclaims⟩ := hentry
    exact ⟨fun h => absurd h hvacant, fun h => absurd hclaims (h claims)⟩
  woken h := by
    rw [hwoken] at h
    cases h
  seen := hseen
  pending claims _ hp := absurd hp.1 hselect

/-- A step of the rest of the server. -/
theorem serve (hr : (Server.machine config).Reachable s.server) (h : s.Sound c)
    {b : Server.Action} {server : Server} (hallows : s.allows b = true)
    (hserver : s.server.step b = some server) :
    Sound { s with server := server, seen := s.seenAfter b } c := by
  by_cases hown : ∃ b', b = .task b' ∧ b'.task = .control c
  · obtain ⟨b', rfl, htask⟩ := hown
    have hlife := life_of_server hserver
    obtain ⟨hvacant, hselect, hfrom, hcompletes⟩ :=
      Lifecycle.control_own (Server.inv_of_reachable hr) hlife htask
    have hne : b' ≠ .enterSelect c := by
      rintro rfl
      cases hallows
    have hnotvacant : s.server.life.tasks.control c ≠ .vacant := fun he => by
      obtain rfl := hfrom he
      cases hallows
    have hwoken : s.woken c = false := by
      by_contra hw
      have hph := h.woken (Bool.of_not_eq_false hw)
      exact hw (woken_of_allows hallows (hcompletes hph))
    refine leave ?_ hvacant (hselect hne) hwoken (seenAfter_le h.seen)
    by_contra hentry
    exact hnotvacant (h.vacant.2 fun claims he => hentry ⟨claims, he⟩)
  · have hother : ∀ b', b = .task b' → b'.task ≠ .control c :=
      fun b' hb htask => hown ⟨b', hb, htask⟩
    have hloop : b ≠ .task (.enterLoop c) := fun hb => hother _ hb rfl
    exact h.keep (control_of_server hserver hother).1 (fun _ => Iff.rfl) rfl (seenAfter_of_ne hloop)
      rfl fun _ hset => hset

/-- A check of the blocklist that leads to a step of the connection `c'`. -/
theorem check (hr : (Server.machine config).Reachable s.server) (h : s.Sound c)
    {b : Lifecycle.Action} {c' : ℕ} {server : Server}
    (hentry : s.entry c' = .admitted claims) (htask : b.task = .control c')
    (hreload : s.reload = .idle) (hselect : b = .enterSelect c' → claims.jti ∉ s.revoked)
    (hserver : s.server.step (.task b) = some server) :
    Sound { s.setWoken c' false with server := server } c := by
  by_cases hc : c = c'
  · subst hc
    have hlife := life_of_server hserver
    obtain ⟨hvacant, hnot, -, -⟩ :=
      Lifecycle.control_own (Server.inv_of_reachable hr) hlife htask
    have hwoken : (s.setWoken c false).woken c = false := Function.update_self ..
    by_cases hb : b = .enterSelect c
    · constructor
      · exact ⟨fun he => absurd he hvacant, fun he => absurd hentry (he claims)⟩
      · intro hw
        rw [hwoken] at hw
        cases hw
      · exact h.seen
      · intro claims' he _ _
        obtain rfl := Entry.admitted.inj (hentry.symm.trans he)
        simp only [Settled, setWoken, hreload]
        exact hselect hb
    · exact leave ⟨claims, hentry⟩ hvacant (hnot hb) hwoken h.seen
  · have hother : ∀ b', Server.Action.task b = .task b' → b'.task ≠ .control c := by
      intro b' hb he
      obtain rfl := Server.Action.task.inj hb
      exact hc (Task.control.inj (he.symm.trans htask))
    have hwoken : (s.setWoken c' false).woken c = s.woken c := Function.update_of_ne hc _ _
    exact h.keep (control_of_server hserver hother).1 (fun _ => Iff.rfl) hwoken rfl rfl
      fun _ hset => hset

/-- Only the entry of a connection changes, and it is not admitted before or
after. -/
theorem setEntry (h : s.Sound c) {c' : ℕ} {e : Entry}
    (hold : ∀ claims, s.entry c' ≠ .admitted claims) (hnew : ∀ claims, e ≠ .admitted claims) :
    (s.setEntry c' e).Sound c := by
  refine h.keep rfl (fun claims => ?_) rfl rfl rfl fun _ hset => hset
  by_cases hc : c = c'
  · subst hc
    simp only [Revocation.setEntry, Function.update_self, hnew, hold]
  · simp only [Revocation.setEntry, Function.update_of_ne hc]

/-- **Every step keeps every connection sound.** -/
theorem step (hr : (Server.machine config).Reachable s.server) (h : s.Sound c)
    (hs : s.Step decode a s') : s'.Sound c := by
  cases hs with
  | refuse c' msg now reply hentry | accept c' msg now claims hentry
  | block c' claims hentry =>
      exact h.setEntry (by simp [hentry]) (by simp)
  | admitted c' claims server hentry hreload hjti hserver =>
      by_cases hc : c = c'
      · subst hc
        have hlife := life_of_server hserver
        obtain ⟨hvacant, hselect, -, -⟩ :=
          Lifecycle.control_own (Server.inv_of_reachable hr) hlife rfl
        have hwoken : s.woken c = false := by
          by_contra hw
          have hph := h.woken (Bool.of_not_eq_false hw)
          have hvac := h.vacant.2 fun claims he => by simp [hentry] at he
          rw [hvac] at hph
          cases hph
        exact leave ⟨claims, Function.update_self ..⟩ hvacant (hselect (by simp)) hwoken h.seen
      · have hother : ∀ b', Server.Action.task (.accept c') = .task b' → b'.task ≠ .control c := by
          intro b' hb he
          obtain rfl := Server.Action.task.inj hb
          exact hc (Task.control.inj he).symm
        refine h.keep (control_of_server hserver hother).1 (fun claims => ?_) rfl rfl rfl
          fun _ hset => hset
        simp only [Revocation.setEntry, Function.update_of_ne hc]
  | top c' claims b server hentry hph hreload hb hserver =>
      have htask : b.task = .control c' := by
        rcases hb with ⟨-, rfl⟩ | ⟨-, rfl⟩ <;> rfl
      -- at the top of the loop `changed()` is not being waited for
      have hwoken : s.woken c = (s.setWoken c' false).woken c := by
        by_cases hc : c = c'
        · subst hc
          have hnot : s.woken c = false := by
            by_contra hw
            have hselect := h.woken (Bool.of_not_eq_false hw)
            rw [hph] at hselect
            cases hselect
          simp only [setWoken, Function.update_self, hnot]
        · simp only [setWoken, Function.update_of_ne hc]
      have hcheck := h.check hr hentry htask hreload (fun he => ?_) hserver
      · exact hcheck.keep rfl (fun _ => Iff.rfl) hwoken rfl rfl fun _ hset => hset
      · subst he
        rcases hb with ⟨-, hb⟩ | ⟨hjti, -⟩
        · cases hb
        · exact hjti
  | changed c' hselect hwoken hseen =>
      by_cases hc : c = c'
      · subst hc
        constructor
        · exact h.vacant
        · exact fun _ => selecting_eq_true.1 hselect
        · show Function.update s.seen c s.epoch c ≤ s.epoch
          rw [Function.update_self]
        · intro claims _ hp
          have hw : (s.setWoken c true).woken c = true := Function.update_self ..
          have hparked : (s.setWoken c true).woken c = false := hp.2
          rw [hw] at hparked
          cases hparked
      · exact h.keep rfl (fun _ => Iff.rfl) (Function.update_of_ne hc _ _)
          (Function.update_of_ne hc _ _) rfl fun _ hset => hset
  | checkChanged c' claims b server hentry hwoken hreload hb hserver =>
      refine h.check hr hentry ?_ hreload (fun he => ?_) hserver
      · rcases hb with ⟨-, rfl⟩ | ⟨-, rfl⟩ <;> rfl
      · subst he
        rcases hb with ⟨-, hb⟩ | ⟨hjti, -⟩
        · cases hb
        · exact hjti
  | serve b server hallows hserver => exact h.serve hr hallows hserver
  | lock jtis hreload =>
      refine h.keep rfl (fun _ => Iff.rfl) rfl rfl rfl fun jti hset => ?_
      simpa only [Settled, hreload] using hset
  | clear jtis hreload | extend jtis hreload =>
      exact h.keep rfl (fun _ => Iff.rfl) rfl rfl rfl fun jti hset => trivial
  | notify hreload =>
      refine ⟨h.vacant, h.woken, Nat.le_succ_of_le h.seen, fun claims _ _ hs => ?_⟩
      -- nobody has seen the epoch that has just begun
      have hle : s.seen c ≤ s.epoch := h.seen
      have heq : s.seen c = s.epoch + 1 := hs
      omega
  | unlock hreload =>
      refine h.keep rfl (fun _ => Iff.rfl) rfl rfl rfl fun jti hset => ?_
      simp only [Settled, hreload] at hset

end Sound

theorem sound_of_reachable (r : (machine decode config).Reachable s) (c : ℕ) : s.Sound c := by
  refine r.invariant (I := fun s => s.Sound c) ?_ fun s a s' r h _ hs => ?_
  · rintro s rfl
    exact Sound.new config c
  · exact h.step (server_reachable r) (step_cases hs)

end Revocation
end Rgrok
