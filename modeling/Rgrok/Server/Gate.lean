/-
# The basic-auth gate

The start of `proxy_http_request` in `crates/rgrok-server/src/proxy.rs`, after
the tunnel was found.

A `Gate` is one session's cached fingerprint with the public requests that
stand at its gate; requests are numbers.  `authorization` is the first
`Authorization` header of a request, which its phases carry along.
-/

import Mathlib.Data.Set.Function
import Rgrok.Client.Cli
import Rgrok.Http.Headers
import Rgrok.Lib.Base64
import Rgrok.Server.Credentials

namespace Rgrok

/-- Where a public request stands at the gate. -/
inductive GatePhase
  | unborn
  | check (authorization : Option HeaderValue)
  | cached (authorization : HeaderValue)
  | verify (authorization : HeaderValue)
  | store (authorization : HeaderValue)
  | passed (authorization : Option HeaderValue)
  | unauthorized (authorization : Option HeaderValue) (permit : Bool)

/-- The header a request came with. -/
def GatePhase.authorization : GatePhase → Option HeaderValue
  | .check authorization | .passed authorization | .unauthorized authorization _ => authorization
  | .cached value | .verify value | .store value => some value
  | .unborn => none

/-- A session's `cached_auth_fingerprint` and the requests at its gate. -/
structure Gate (Digest : Type*) where
  cachedAuthFingerprint : Option Digest
  request : ℕ → GatePhase

namespace Gate

variable {Digest : Type*}

/-- A step of the request `r`: it finds the tunnel, it is asked for credentials,
looks at the cache, has its header verified, or fills the cache. -/
inductive Action
  | arrive (r : ℕ) (authorization : Option HeaderValue)
  | check (r : ℕ)
  | cached (r : ℕ)
  | verify (r : ℕ) (permit : Bool)
  | store (r : ℕ)

/-- A new session: `cached_auth_fingerprint` is `None`. -/
def new : Gate Digest where
  cachedAuthFingerprint := none
  request := fun _ => .unborn

def setRequest (g : Gate Digest) (r : ℕ) (ph : GatePhase) : Gate Digest :=
  { g with request := Function.update g.request r ph }

/-- The lookup in `tunnels` gave this session. -/
def arrive (g : Gate Digest) (r : ℕ) (authorization : Option HeaderValue) :
    Option (Gate Digest) :=
  match g.request r with
  | .unborn => some (g.setRequest r (.check authorization))
  | _ => none

/-- Without a user name and a hash there is nothing to check. -/
def check (session : TunnelSession) (g : Gate Digest) (r : ℕ) : Option (Gate Digest) :=
  match g.request r with
  | .check authorization =>
      match session.basicAuthUsername, session.basicAuthHash with
      | some _, some _ =>
          match authorization with
          | some value => some (g.setRequest r (.cached value))
          | none => some (g.setRequest r (.unauthorized none true))
      | _, _ => some (g.setRequest r (.passed authorization))
  | _ => none

section

variable [DecidableEq Digest] (crates : AuthCrates Digest) (session : TunnelSession)

/-- The fast path: the header is the one that was verified last. -/
def lookCached (g : Gate Digest) (r : ℕ) : Option (Gate Digest) :=
  match g.request r with
  | .cached value =>
      if g.cachedAuthFingerprint = some (crates.authHeaderFingerprint value.toStrOrEmpty) then
        some (g.setRequest r (.passed (some value)))
      else
        some (g.setRequest r (.verify value))
  | _ => none

/-- `verify_header` returns. -/
def verify (g : Gate Digest) (r : ℕ) (permit : Bool) : Option (Gate Digest) :=
  match g.request r, session.basicAuthUsername, session.basicAuthHash with
  | .verify value, some username, some hash =>
      if crates.verifyHeader permit value.toStrOrEmpty username hash then
        some (g.setRequest r (.store value))
      else
        some (g.setRequest r (.unauthorized (some value) permit))
  | _, _, _ => none

/-- The fingerprint of the verified header is cached. -/
def store (g : Gate Digest) (r : ℕ) : Option (Gate Digest) :=
  match g.request r with
  | .store value =>
      some { g.setRequest r (.passed (some value)) with
        cachedAuthFingerprint := some (crates.authHeaderFingerprint value.toStrOrEmpty) }
  | _ => none

def step (g : Gate Digest) : Action → Option (Gate Digest)
  | .arrive r authorization => g.arrive r authorization
  | .check r => check session g r
  | .cached r => lookCached crates g r
  | .verify r permit => verify crates session g r permit
  | .store r => store crates g r

/-- Every interleaving of the public requests to one session. -/
def machine : Machine (Gate Digest) Action where
  init g := g = new
  step := step crates session

/-- The header verifies against the session's user name and hash. -/
def Verifies (value : HeaderValue) : Prop :=
  ∃ username hash, session.basicAuthUsername = some username ∧ session.basicAuthHash = some hash ∧
    crates.verifyCredentials value.toStrOrEmpty username hash = true

/-- The headers presented are among those of `H`. -/
def Presents (H : Set String) (a : Action) : Prop :=
  ∀ r value, a = .arrive r (some value) → value.toStrOrEmpty ∈ H

end

/-! ### Only verified headers get through -/

variable {crates : AuthCrates Digest} {session : TunnelSession} {g g' : Gate Digest}
  {a : Action} {r : ℕ} {value : HeaderValue} {H : Set String}

/-- The header of a request that stands where this phase says has been
verified, if there are credentials to verify it against. -/
def Sound (crates : AuthCrates Digest) (session : TunnelSession) : GatePhase → Prop
  | .store value => Verifies crates session value
  | .passed authorization =>
      session.basicAuthUsername.isSome = true → session.basicAuthHash.isSome = true →
        ∃ value, authorization = some value ∧ Verifies crates session value
  | .unauthorized (some value) permit => permit = true → ¬ Verifies crates session value
  | _ => True

/-- What is cached, and where every request stands, comes from a header that
was verified. -/
structure Inv (crates : AuthCrates Digest) (session : TunnelSession) (H : Set String)
    (g : Gate Digest) : Prop where
  cached : ∀ fingerprint, g.cachedAuthFingerprint = some fingerprint →
    ∃ value : HeaderValue, value.toStrOrEmpty ∈ H ∧ Verifies crates session value ∧
      crates.authHeaderFingerprint value.toStrOrEmpty = fingerprint
  presented : ∀ r value, (g.request r).authorization = some value → value.toStrOrEmpty ∈ H
  sound : ∀ r, Sound crates session (g.request r)

/-- What verifies depends on what the header says only. -/
theorem Verifies.congr {value' : HeaderValue} (h : Verifies crates session value)
    (heq : value'.toStrOrEmpty = value.toStrOrEmpty) : Verifies crates session value' := by
  rw [Verifies, heq]
  exact h

/-- One request moves on. -/
theorem Inv.setRequest (h : Inv crates session H g) {ph : GatePhase}
    (hpresented : ∀ value, ph.authorization = some value → value.toStrOrEmpty ∈ H)
    (hsound : Sound crates session ph) : Inv crates session H (g.setRequest r ph) where
  cached := h.cached
  presented r' value hvalue := by
    by_cases he : r' = r
    · subst he
      simp only [Gate.setRequest, Function.update_self] at hvalue
      exact hpresented value hvalue
    · simp only [Gate.setRequest, Function.update_of_ne he] at hvalue
      exact h.presented r' value hvalue
  sound r' := by
    by_cases he : r' = r
    · subst he
      simp only [Gate.setRequest, Function.update_self]
      exact hsound
    · simp only [Gate.setRequest, Function.update_of_ne he]
      exact h.sound r'

/-- A request moves on with the header it came with. -/
theorem Inv.moveOn (h : Inv crates session H g) (ph : GatePhase)
    (hsame : ph.authorization = (g.request r).authorization)
    (hsound : Sound crates session ph) : Inv crates session H (g.setRequest r ph) :=
  h.setRequest (fun value hvalue => h.presented r value (hsame ▸ hvalue)) hsound

theorem Inv.arrive (h : Inv crates session H g) {authorization : Option HeaderValue}
    (hp : Presents H (.arrive r authorization)) (hs : g.arrive r authorization = some g') :
    Inv crates session H g' := by
  unfold Gate.arrive at hs
  split at hs
  · obtain rfl := Option.some.inj hs
    refine h.setRequest (fun value hvalue => ?_) trivial
    obtain rfl : authorization = some value := hvalue
    exact hp r value rfl
  · cases hs

theorem Inv.check (h : Inv crates session H g) (hs : check session g r = some g') :
    Inv crates session H g' := by
  unfold Gate.check at hs
  split at hs
  case h_2 => cases hs
  rename_i authorization hph
  split at hs
  · split at hs
    · obtain rfl := Option.some.inj hs
      exact h.moveOn _ (by rw [hph]; rfl) trivial
    · obtain rfl := Option.some.inj hs
      exact h.moveOn _ (by rw [hph]; rfl) trivial
  · rename_i hnone
    obtain rfl := Option.some.inj hs
    refine h.moveOn _ (by rw [hph]; rfl) fun hname hhash => ?_
    obtain ⟨username, hu⟩ := Option.isSome_iff_exists.1 hname
    obtain ⟨hash, hh⟩ := Option.isSome_iff_exists.1 hhash
    exact absurd hh (hnone username hash hu)

theorem Inv.verify (h : Inv crates session H g) {permit : Bool}
    (hs : verify crates session g r permit = some g') : Inv crates session H g' := by
  unfold Gate.verify at hs
  split at hs
  case h_2 => cases hs
  rename_i value username hash hph hu hh
  split at hs
  · rename_i hverified
    obtain rfl := Option.some.inj hs
    rw [AuthCrates.verifyHeader, Bool.and_eq_true] at hverified
    exact h.moveOn _ (by rw [hph]; rfl) ⟨username, hash, hu, hh, hverified.2⟩
  · rename_i hrefused
    obtain rfl := Option.some.inj hs
    refine h.moveOn _ (by rw [hph]; rfl) ?_
    rintro rfl ⟨username', hash', hu', hh', hverified⟩
    obtain rfl := Option.some.inj (hu.symm.trans hu')
    obtain rfl := Option.some.inj (hh.symm.trans hh')
    exact hrefused hverified

theorem Inv.store (h : Inv crates session H g) (hs : store crates g r = some g') :
    Inv crates session H g' := by
  unfold Gate.store at hs
  split at hs
  case h_2 => cases hs
  rename_i value hph
  obtain rfl := Option.some.inj hs
  have hverified : Verifies crates session value := by
    have hsound := h.sound r
    rw [hph] at hsound
    exact hsound
  have hmoved := h.moveOn (r := r) (.passed (some value)) (by rw [hph]; rfl)
    fun _ _ => ⟨value, rfl, hverified⟩
  refine ⟨fun fingerprint hcached => ?_, hmoved.presented, hmoved.sound⟩
  obtain rfl := Option.some.inj hcached
  exact ⟨value, h.presented r value (by rw [hph]; rfl), hverified, rfl⟩

section

variable [DecidableEq Digest]

theorem Inv.lookCached (h : Inv crates session H g)
    (hsha : Set.InjOn crates.authHeaderFingerprint H)
    (hs : lookCached crates g r = some g') : Inv crates session H g' := by
  unfold Gate.lookCached at hs
  split at hs
  case h_2 => cases hs
  rename_i value hph
  split at hs
  · rename_i hcached
    obtain rfl := Option.some.inj hs
    refine h.moveOn _ (by rw [hph]; rfl) fun _ _ => ⟨value, rfl, ?_⟩
    -- The cached fingerprint is that of a verified header, so it is this one.
    obtain ⟨verified, hmem, hverified, hfingerprint⟩ := h.cached _ hcached
    exact hverified.congr
      (hsha (h.presented r value (by rw [hph]; rfl)) hmem hfingerprint.symm)
  · obtain rfl := Option.some.inj hs
    exact h.moveOn _ (by rw [hph]; rfl) trivial

theorem Inv.step (h : Inv crates session H g) (hsha : Set.InjOn crates.authHeaderFingerprint H)
    (hp : Presents H a) (hs : g.step crates session a = some g') : Inv crates session H g' := by
  cases a with
  | arrive r authorization => exact h.arrive hp hs
  | check r => exact h.check hs
  | cached r => exact h.lookCached hsha hs
  | verify r permit => exact h.verify hs
  | store r => exact h.store hs

theorem inv_of_reached (hsha : Set.InjOn crates.authHeaderFingerprint H)
    (hg : (machine crates session).ReachedBy (fun _ => Presents H) g) :
    Inv crates session H g := by
  refine hg.invariant ?_ fun g a g' _ h hp hs => h.step hsha hp hs
  rintro g rfl
  exact ⟨nofun, nofun, fun r => trivial⟩

end

/-! ### A verified header gets through -/

/-- The steps of the request `r` behind its arrival, with a permit. -/
def Own (r : ℕ) (a : Action) : Prop :=
  a = .check r ∨ a = .cached r ∨ a = .verify r true ∨ a = .store r

/-- Distinct headers have distinct fingerprints where SHA-256 has no collision. -/
theorem injOn_authHeaderFingerprint (h : Set.InjOn crates.sha256 (Text.utf8 '' H)) :
    Set.InjOn crates.authHeaderFingerprint H := by
  intro s hs t ht heq
  have hbytes := h (Set.mem_image_of_mem _ hs) (Set.mem_image_of_mem _ ht) heq
  refine Option.some.inj ?_
  rw [← Text.fromUtf8_utf8 s, hbytes, Text.fromUtf8_utf8]

theorem request_setRequest (g : Gate Digest) (r : ℕ) (ph : GatePhase) :
    (g.setRequest r ph).request r = ph :=
  Function.update_self ..

section

variable [DecidableEq Digest]

/-- The request's own steps take it through the gate. -/
def Passes (crates : AuthCrates Digest) (session : TunnelSession) (g : Gate Digest) (r : ℕ)
    (value : HeaderValue) : Prop :=
  ∃ as g', (∀ a ∈ as, Own r a) ∧ (machine crates session).run g as = some g' ∧
    g'.request r = .passed (some value)

theorem Passes.step (h : Passes crates session g' r value) (ha : Own r a)
    (hs : g.step crates session a = some g') : Passes crates session g r value := by
  obtain ⟨as, g'', hown, hrun, hpassed⟩ := h
  refine ⟨a :: as, g'', fun b hb => ?_, ?_, hpassed⟩
  · rcases List.mem_cons.1 hb with rfl | hb
    · exact ha
    · exact hown b hb
  · exact Option.bind_eq_some_iff.2 ⟨g', hs, hrun⟩

theorem Passes.done (h : g.request r = .passed (some value)) : Passes crates session g r value :=
  ⟨[], g, fun _ ha => absurd ha List.not_mem_nil, rfl, h⟩

theorem passes_of_store (h : g.request r = .store value) : Passes crates session g r value := by
  have hs : g.step crates session (.store r) = some { g.setRequest r (.passed (some value)) with
      cachedAuthFingerprint := some (crates.authHeaderFingerprint value.toStrOrEmpty) } := by
    simp only [Gate.step, Gate.store, h]
  have hdone : Passes crates session { g.setRequest r (.passed (some value)) with
      cachedAuthFingerprint := some (crates.authHeaderFingerprint value.toStrOrEmpty) } r value :=
    Passes.done (request_setRequest g r _)
  exact hdone.step (Or.inr (Or.inr (Or.inr rfl))) hs

theorem passes_of_verify (hv : Verifies crates session value) (h : g.request r = .verify value) :
    Passes crates session g r value := by
  obtain ⟨username, hash, hu, hh, hverified⟩ := hv
  refine (passes_of_store (request_setRequest g r _)).step (Or.inr (Or.inr (Or.inl rfl))) ?_
  simp only [Gate.step, Gate.verify, h, hu, hh, AuthCrates.verifyHeader, hverified,
    Bool.and_self, if_true]

theorem passes_of_cached (hv : Verifies crates session value) (h : g.request r = .cached value) :
    Passes crates session g r value := by
  by_cases hcached :
      g.cachedAuthFingerprint = some (crates.authHeaderFingerprint value.toStrOrEmpty)
  · refine (Passes.done (request_setRequest g r _)).step (Or.inr (Or.inl rfl)) ?_
    simp only [Gate.step, Gate.lookCached, h, hcached, if_true]
  · refine (passes_of_verify hv (request_setRequest g r _)).step (Or.inr (Or.inl rfl)) ?_
    simp only [Gate.step, Gate.lookCached, h, hcached, if_false]

theorem passes_of_check (hv : Verifies crates session value)
    (h : g.request r = .check (some value)) : Passes crates session g r value := by
  obtain ⟨username, hash, hu, hh, -⟩ := id hv
  refine (passes_of_cached hv (request_setRequest g r _)).step (Or.inl rfl) ?_
  simp only [Gate.step, Gate.check, h, hu, hh]

/-- **The gate lets through whoever knows the password, and nobody else.**  A
request to a tunnel that was registered with credentials passes only with a
header that holds the user name and a password bcrypt accepts for the stored
hash, also when its header was found in the cache; and the header made from an
argument that the command line accepts passes, unless no permit is obtained. -/
theorem basic_auth_gate {config : Config} (hdoc : crates.Documented)
    (hsha : Set.InjOn crates.sha256 (Text.utf8 '' H)) {w : Registrations}
    (hw : (Registrations.machine crates config).Reachable w) {subdomain : String}
    (hsession : w.life.state.tunnels.lookup subdomain = some session)
    (hg : (machine crates session).ReachedBy (fun _ => Presents H) g) {ba : BasicAuthConfig}
    (hasked : w.asked session.arc = some ba) :
    (∀ r authorization, g.request r = .passed authorization →
      ∃ value text password salt hash, authorization = some value ∧
        value.toStr = some ("Basic " ++ crates.base64Encode (Text.utf8 text)) ∧
        Text.splitOnce ':' text = some (ba.username, password) ∧
        crates.hashBasicAuthPassword salt ba.password = .ok hash ∧
        session.basicAuthHash = some hash ∧ crates.bcryptVerify password hash = .ok true) ∧
    ∀ argument value, parseBasicAuth argument = .ok ba →
      value.toStr = some ("Basic " ++ crates.base64Encode (Text.utf8 argument)) →
      ∀ r, (∀ permit, g.request r = .unauthorized (some value) permit → permit = false) ∧
        (g.request r = .check (some value) ∨ g.request r = .cached value ∨
          g.request r = .verify value ∨ g.request r = .store value →
            Passes crates session g r value) := by
  have hguarded := (Registrations.inv_of_reachable hw).tunnels subdomain session hsession
  have hinv := inv_of_reached (injOn_authHeaderFingerprint hsha) hg
  obtain ⟨husername, salt, hash, hhashed, hhash⟩ : session.basicAuthUsername = some ba.username ∧
      Registrations.Hashed crates (some ba) session.basicAuthHash := by
    rw [← hasked]
    exact ⟨by rw [hguarded.username, hasked, Option.map_some], hguarded.hash⟩
  refine ⟨fun r authorization hpassed => ?_, fun argument value harg hvalue r => ?_⟩
  · have hsound := hinv.sound r
    rw [hpassed] at hsound
    obtain ⟨value, rfl, username', hash', hu', hh', hverified⟩ :=
      hsound (by rw [husername]; rfl) (by rw [hhash]; rfl)
    obtain rfl := Option.some.inj (husername.symm.trans hu')
    obtain rfl := Option.some.inj (hhash.symm.trans hh')
    obtain ⟨password, hparse, hbcrypt⟩ := AuthCrates.verifyCredentials_eq_true.1 hverified
    obtain ⟨text, htext, hsplit⟩ := (AuthCrates.parseBasicAuthHeader_eq_some hdoc).1 hparse
    refine ⟨value, text, password, salt, hash, rfl, ?_, hsplit, hhashed, hhash, hbcrypt⟩
    refine HeaderValue.toStr_of_toStrOrEmpty htext fun hnil => ?_
    have hchars := congrArg String.toList hnil
    rw [String.toList_append] at hchars
    exact List.append_ne_nil_of_left_ne_nil (by decide) _ hchars
  · have hverifies : Verifies crates session value := by
      refine ⟨ba.username, hash, husername, hhash, ?_⟩
      rw [HeaderValue.toStrOrEmpty, hvalue, Option.getD_some]
      refine AuthCrates.verifyCredentials_eq_true.2 ⟨ba.password, ?_, ?_⟩
      · exact (AuthCrates.parseBasicAuthHeader_eq_some hdoc).2
          ⟨argument, rfl, splitOnce_of_parseBasicAuth harg⟩
      · exact hdoc.verify_hash salt ba.password 10 hash hhashed
    constructor
    · intro permit hrefused
      have hsound := hinv.sound r
      rw [hrefused] at hsound
      exact Bool.eq_false_iff.2 fun hpermit => hsound hpermit hverifies
    · rintro (h | h | h | h)
      · exact passes_of_check hverifies h
      · exact passes_of_cached hverifies h
      · exact passes_of_verify hverifies h
      · exact passes_of_store h

end

/-- The libraries as they answer for the password `abc` and its header. -/
def abcCrates : AuthCrates (List UInt8) where
  bcryptHash _ password _ := .ok (abcHash password)
  bcryptVerify password hash := .ok (hash == abcHash password)
  base64Encode bytes := String.ofList (Base64.encode bytes)
  base64Decode text := Base64.decode text.toList
  sha256 _ :=
    [129, 245, 250, 152, 77, 207, 250, 169, 2, 242, 210, 219, 113, 109, 157, 17, 187, 156, 231,
     241, 124, 127, 225, 146, 104, 218, 35, 245, 223, 94, 210, 196]
where
  abcHash (password : String) : String :=
    if password = "abc" then "$2b$10$WvvTPHKwdBJ3uk0Z37EMR.hLA2W6N9AEBhEgrAOljy2Ae5MtaSIUi"
    else password

theorem abcCrates_documented : abcCrates.Documented where
  verify_hash salt password cost hash h := by
    obtain rfl := Except.ok.inj h
    exact congrArg Except.ok (beq_self_eq_true _)
  decode_encode bytes := by
    simp only [abcCrates, String.toList_ofList, Base64.decode_encode]
  encode_decode text bytes h := by
    simp only [abcCrates, Base64.encode_of_decode h, String.ofList_toList]

/-- `Basic` with `user:abc` in base64. -/
def abcHeader : HeaderValue where
  bytes := Text.utf8 "Basic dXNlcjphYmM="
  valid := by decide

/-- A tunnel is registered for `user:abc`. -/
def abcRegistration : List Registrations.Action :=
  [.task (.accept 0), .task (.enterLoop 0), .task (.enterSelect 0),
   .task (.handleControlMsg 0 (.tunnelRequest "tunnel" .http (some "web")
     (some { username := "user", password := "abc" }) Lifecycle.plainOptions)
     Lifecycle.firstDraw),
   .task (.reserve 0), .hashBasicAuth 0 [], .task (.createDns 0 fun _ _ => .error ""),
   .task (.newSession 0), .task (.register 0)]

theorem abcRegistration_isSome :
    ((Registrations.machine abcCrates .default).run (.new .default) abcRegistration).isSome =
      true := by
  decide +kernel

def abcRegistered : Registrations :=
  ((Registrations.machine abcCrates .default).run (.new .default) abcRegistration).get
    abcRegistration_isSome

theorem abcSession_isSome : (abcRegistered.life.state.tunnels.lookup "web").isSome = true := by
  decide +kernel

def abcSession : TunnelSession :=
  (abcRegistered.life.state.tunnels.lookup "web").get abcSession_isSome

/-- One request has its header verified, the next one finds it in the cache. -/
def abcRequests : List Action :=
  [.arrive 0 (some abcHeader), .check 0, .cached 0, .verify 0 true, .store 0,
   .arrive 1 (some abcHeader), .check 1, .cached 1]

theorem abcRequests_isSome :
    ((machine abcCrates abcSession).run new abcRequests).isSome = true := by
  decide +kernel

def abcGate : Gate (List UInt8) :=
  ((machine abcCrates abcSession).run new abcRequests).get abcRequests_isSome

theorem abcGate_reached :
    (machine abcCrates abcSession).ReachedBy
      (fun _ => Presents {abcHeader.toStrOrEmpty}) abcGate := by
  refine Machine.ReachedBy.run (.init rfl) (fun a ha _ => ?_) (Option.some_get _).symm
  rintro r value rfl
  simp only [abcRequests, List.mem_cons, List.not_mem_nil, or_false, Action.arrive.injEq,
    Option.some.injEq, reduceCtorEq, false_or] at ha
  rcases ha with ⟨-, rfl⟩ | ⟨-, rfl⟩
  · rfl
  · rfl

theorem basic_auth_gate_abc :
    (∃ value text password salt hash, some abcHeader = some value ∧
      value.toStr = some ("Basic " ++ abcCrates.base64Encode (Text.utf8 text)) ∧
      Text.splitOnce ':' text = some ("user", password) ∧
      abcCrates.hashBasicAuthPassword salt "abc" = .ok hash ∧
      abcSession.basicAuthHash = some hash ∧ abcCrates.bcryptVerify password hash = .ok true) ∧
    ∀ permit, abcGate.request 0 = .unauthorized (some abcHeader) permit → permit = false := by
  have hasked : abcRegistered.asked abcSession.arc = some ⟨"user", "abc"⟩ := by decide +kernel
  have hgate := basic_auth_gate (H := {abcHeader.toStrOrEmpty}) abcCrates_documented (by rw [Set.image_singleton]; exact Set.injOn_singleton _ _)
    (Machine.reachable_get (.init rfl) abcRegistration_isSome) (Option.some_get _).symm
    abcGate_reached hasked
  refine ⟨hgate.1 1 (some abcHeader) rfl, ?_⟩
  exact (hgate.2 "user:abc" abcHeader (by decide +kernel) (by decide +kernel) 0).1

end Gate
end Rgrok
