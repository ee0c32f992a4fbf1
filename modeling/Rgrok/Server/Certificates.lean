/-
# Which certificate is served

`select_tls_source`, `load_tls_config` and `cert_renewal_loop` in
`crates/rgrok-server/src/tls.rs`, as `main.rs` puts them together, with the acceptors of
`control.rs` and `proxy.rs`.

The renewal loop runs next to the listeners, and a connection may come between any two of
its calls.  A configuration is served only if the server was started with it or a renewal
was due and obtained it; later connections never get an older one, and control connections
are all plain or all not (`certificates_served`).

`main.rs` and `load_tls_config` each select a source, and the disk may change in between:
whether the control plane is plain is decided by the first selection, the certificate by
the second.
-/

import Rgrok.Lib.Machine
import Rgrok.Server.Issuance

namespace Rgrok

open OutsideCall (Answer)

/-- `TlsSource`. -/
inductive TlsSource
  | bringYourOwn
  | cachedAcme
  | acmeProvision
  | selfSigned
deriving DecidableEq

/-- `cloudflare_acme_configured`. -/
def cloudflareAcmeConfigured (config : Config) : Bool :=
  !config.cloudflare.apiToken.isEmpty && !config.cloudflare.zoneId.isEmpty

namespace Acme

variable (crates : TlsCrates) (config : Config) (tls : TlsConfig)

/-! ### At the start -/

/-- The source if no certificate is configured, by which of the two cached files exist. -/
def cachedSource : Bool → Bool → Except String TlsSource
  | true, true => .ok .cachedAcme
  | true, false | false, true =>
      .error ("incomplete cached ACME certificate in " ++ tls.certDir ++
        " (fullchain.pem and privkey.pem are both required)")
  | false, false =>
      if cloudflareAcmeConfigured config then
        .ok .acmeProvision
      else if config.cloudflare.apiToken.isEmpty && config.cloudflare.zoneId.isEmpty then
        .ok .selfSigned
      else
        .error "cloudflare.api_token and cloudflare.zone_id must be configured together"

/-- `select_tls_source`. -/
def selectTlsSource : Acme TlsSource :=
  if tls.certFile.isSome != tls.keyFile.isSome then
    throw "tls.cert_file and tls.key_file must be configured together"
  else if tls.certFile.isSome then
    pure .bringYourOwn
  else do
    let certExists : Bool ← Routine.call (OutsideCall.exists (certPath tls))
    let keyExists : Bool ← Routine.call (OutsideCall.exists (keyPath tls))
    Routine.ofResult (cachedSource config tls certExists keyExists)

/-- What `generate_self_signed` makes of a new key. -/
def selfSignedConfig (domain : String) (keyPair : KeyPair) : Except String RustlsConfig :=
  (crates.certificateParams [domain, "*." ++ domain, "localhost"]).bind fun certParams =>
    (crates.selfSigned certParams keyPair).bind fun cert =>
      crates.withSingleCert [cert] keyPair.der

/-- `generate_self_signed`. -/
def generateSelfSigned (domain : String) : Acme RustlsConfig := do
  let keyPair ← Routine.ofResult (← Routine.call OutsideCall.generateKeyPair)
  Routine.ofResult (selfSignedConfig crates domain keyPair)

/-- The files the operator configured; `expect` holds behind the selection. -/
def loadConfigured : Option String → Option String → Acme RustlsConfig
  | none, _ => throw "validated cert_file"
  | _, none => throw "validated key_file"
  | some certFile, some keyFile => loadFromFiles crates certFile keyFile

/-- `load_tls_config`. -/
def loadTlsConfig : Acme RustlsConfig := do
  match ← selectTlsSource config tls with
  | .bringYourOwn => loadConfigured crates tls.certFile tls.keyFile
  | .cachedAcme => loadFromFiles crates (certPath tls) (keyPath tls)
  | .acmeProvision =>
      throw "no TLS certificate found; Cloudflare ACME provisioning is required"
  | .selfSigned => generateSelfSigned crates config.server.domain

/-- `context`, as `{:#}` writes it. -/
def context {α : Type} (message : String) (t : Acme α) : Acme α := do
  Routine.ofResult ((← Routine.outcome t).mapError fun e => message ++ ": " ++ e)

/-- The start of `main`: the source and what is served from it. -/
def startTls : Acme (TlsSource × RustlsConfig) := do
  let tlsSource ← context "failed to select TLS source" (selectTlsSource config tls)
  if tlsSource = .acmeProvision then
    let tlsConfig ← context "failed to provision ACME wildcard certificate"
      (provisionWildcardCert crates config tls)
    return (tlsSource, tlsConfig)
  else
    let tlsConfig ← context "failed to load TLS configuration" (loadTlsConfig crates config tls)
    return (tlsSource, tlsConfig)

/-! ### Renewal -/

/-- When the first certificate of a file expires. -/
def notAfter (certData : List UInt8) : Except String ℤ :=
  (crates.certs certData).bind fun
    | [] => .error "No certificates found in PEM file"
    | cert :: _ =>
        (crates.notAfter cert).mapError fun e => "Failed to parse X.509 certificate: " ++ e

/-- `cert_expires_within`. -/
def certExpiresWithin (certPath : String) (threshold : ℕ) : Acme Bool := do
  let certData ← Routine.ofResult (← Routine.call (OutsideCall.read certPath))
  let notAfter ← Routine.ofResult (notAfter crates certData)
  let now : ℕ ← Routine.ofResult (← Routine.call OutsideCall.now)
  return decide (notAfter - now < threshold)

/-- Thirty days. -/
def renewalThreshold : ℕ := 30 * 24 * 3600

/-- Whether `cert_renewal_loop` renews anything with this configuration. -/
def renews : Bool :=
  !(!cloudflareAcmeConfigured config || tls.certFile.isSome || tls.keyFile.isSome)

/-- What a turn of `cert_renewal_loop` sends to the listeners, behind its tick. -/
def renewCert : Acme (Option RustlsConfig) := do
  if renews config tls then
    let present : Bool ← Routine.call (OutsideCall.exists (certPath tls))
    if present then
      match ← Routine.outcome (certExpiresWithin crates (certPath tls) renewalThreshold) with
      | .ok true => return (← Routine.outcome (provisionWildcardCert crates config tls)).toOption
      | .ok false => return none
      | .error _ => return none
    else
      return none
  else
    return none

/-! ### What they do -/

section

variable {crates config tls} {log : CallLog Answer} {txtRecordIds : List String}

/-- What a selection asked and found. -/
def Selects (config : Config) (tls : TlsConfig) (selecting : CallLog Answer)
    (tlsSource : TlsSource) : Prop :=
  tls.certFile.isSome = true ∧ tls.keyFile.isSome = true ∧ tlsSource = .bringYourOwn ∧
      selecting = [] ∨
    tls.certFile = none ∧ tls.keyFile = none ∧ ∃ certExists keyExists,
      selecting = [⟨.exists (certPath tls), certExists⟩, ⟨.exists (keyPath tls), keyExists⟩] ∧
      cachedSource config tls certExists keyExists = .ok tlsSource

theorem returns_selectTlsSource :
    (selectTlsSource config tls).Returns log txtRecordIds fun log' _ tlsSource =>
      ∃ selecting, log' = log ++ selecting ∧ Selects config tls selecting tlsSource := by
  rw [selectTlsSource]
  split
  · exact Routine.returns_throw _
  · rename_i hpair
    split
    · rename_i hcert
      refine Routine.returns_pure ⟨[], (List.append_nil log).symm, .inl ⟨hcert, ?_, rfl, rfl⟩⟩
      rw [hcert, bne_iff_ne, ne_eq, not_not] at hpair
      exact hpair.symm
    · rename_i hcert
      have hcert := Option.not_isSome_iff_eq_none.1 hcert
      have hkey : tls.keyFile = none := by
        rw [hcert] at hpair
        simpa using hpair
      refine Routine.returns_call_bind fun certExists => Routine.returns_call_bind fun keyExists => ?_
      refine Routine.returns_ofResult fun tlsSource hsource => ⟨_, List.append_assoc .., ?_⟩
      exact .inr ⟨hcert, hkey, certExists, keyExists, rfl, hsource⟩

/-- A configuration is what two files were read as. -/
def ReadsFrom (crates : TlsCrates) (certPath keyPath : String) (loading : CallLog Answer)
    (tlsConfig : RustlsConfig) : Prop :=
  ∃ certData keyData, loading = [⟨.read certPath, .ok certData⟩, ⟨.read keyPath, .ok keyData⟩] ∧
    serverConfig crates keyPath certData keyData = .ok tlsConfig

theorem returns_loadFromFiles (certPath keyPath : String) :
    (loadFromFiles crates certPath keyPath).Returns log txtRecordIds fun log' _ tlsConfig =>
      ∃ loading, log' = log ++ loading ∧ ReadsFrom crates certPath keyPath loading tlsConfig := by
  refine Routine.returns_call_bind fun answer => Routine.returns_ofResult_bind fun certData h => ?_
  obtain rfl := h
  refine Routine.returns_call_bind fun answer => Routine.returns_ofResult_bind fun keyData h => ?_
  obtain rfl := h
  refine Routine.returns_ofResult fun tlsConfig hconfig => ⟨_, List.append_assoc .., ?_⟩
  exact ⟨certData, keyData, rfl, hconfig⟩

/-- A configuration from a source that is there at the start. -/
def LoadsFrom (crates : TlsCrates) (config : Config) (tls : TlsConfig) (loading : CallLog Answer)
    (tlsConfig : RustlsConfig) : TlsSource → Prop
  | .bringYourOwn => ∃ certFile keyFile, tls.certFile = some certFile ∧
      tls.keyFile = some keyFile ∧ ReadsFrom crates certFile keyFile loading tlsConfig
  | .cachedAcme => ReadsFrom crates (certPath tls) (keyPath tls) loading tlsConfig
  | .acmeProvision => False
  | .selfSigned => ∃ keyPair, loading = [⟨.generateKeyPair, .ok keyPair⟩] ∧
      selfSignedConfig crates config.server.domain keyPair = .ok tlsConfig

theorem returns_loadConfigured (certFile keyFile : Option String) :
    (loadConfigured crates certFile keyFile).Returns log txtRecordIds fun log' _ tlsConfig =>
      ∃ loading, log' = log ++ loading ∧ ∃ certPath keyPath, certFile = some certPath ∧
        keyFile = some keyPath ∧ ReadsFrom crates certPath keyPath loading tlsConfig := by
  cases certFile with
  | none => exact Routine.returns_throw _
  | some certFile =>
      cases keyFile with
      | none => exact Routine.returns_throw _
      | some keyFile =>
          refine (returns_loadFromFiles certFile keyFile).mono fun _ _ tlsConfig h => ?_
          obtain ⟨loading, rfl, hreads⟩ := h
          exact ⟨loading, rfl, certFile, keyFile, rfl, rfl, hreads⟩

theorem returns_loadTlsConfig :
    (loadTlsConfig crates config tls).Returns log txtRecordIds fun log' _ tlsConfig =>
      ∃ selecting loading tlsSource, log' = log ++ (selecting ++ loading) ∧
        Selects config tls selecting tlsSource ∧
        LoadsFrom crates config tls loading tlsConfig tlsSource := by
  refine returns_selectTlsSource.bind fun _ _ tlsSource h => ?_
  obtain ⟨selecting, rfl, hselects⟩ := h
  cases tlsSource with
  | bringYourOwn =>
      refine (returns_loadConfigured _ _).mono fun _ _ tlsConfig h => ?_
      obtain ⟨loading, rfl, hloads⟩ := h
      exact ⟨selecting, loading, _, List.append_assoc .., hselects, hloads⟩
  | cachedAcme =>
      refine (returns_loadFromFiles _ _).mono fun _ _ tlsConfig h => ?_
      obtain ⟨loading, rfl, hreads⟩ := h
      exact ⟨selecting, loading, _, List.append_assoc .., hselects, hreads⟩
  | acmeProvision => exact Routine.returns_throw _
  | selfSigned =>
      refine Routine.returns_call_bind fun answer => ?_
      refine Routine.returns_ofResult_bind fun keyPair h => ?_
      obtain rfl := h
      refine Routine.returns_ofResult fun tlsConfig hconfig => ?_
      exact ⟨selecting, _, _, List.append_assoc .., hselects, keyPair, rfl, hconfig⟩

theorem returns_context {α : Type} {message : String} {t : Acme α}
    {post : CallLog Answer → List String → α → Prop} (h : t.Returns log txtRecordIds post) :
    (context message t).Returns log txtRecordIds post := by
  refine (Routine.returns_outcome h).bind fun log' s r hr => Routine.returns_ofResult fun a ha => ?_
  cases r with
  | ok b => exact hr a ha
  | error e => cases ha

/-- What the server did before it serves a configuration. -/
def Starts (crates : TlsCrates) (config : Config) (tls : TlsConfig) (log : CallLog Answer)
    (tlsSource : TlsSource) (tlsConfig : RustlsConfig) : Prop :=
  ∃ selecting rest, log = selecting ++ rest ∧ Selects config tls selecting tlsSource ∧
    (tlsSource = .acmeProvision ∧ Issues crates config tls rest (.ok tlsConfig) ∨
      tlsSource ≠ .acmeProvision ∧ ∃ again loading tlsSource', rest = again ++ loading ∧
        Selects config tls again tlsSource' ∧
        LoadsFrom crates config tls loading tlsConfig tlsSource')

/-- A provisioning behind other calls. -/
theorem returns_provisionWildcardCert :
    (provisionWildcardCert crates config tls).Returns log txtRecordIds fun log' _ tlsConfig =>
      ∃ provisioning, log' = log ++ provisioning ∧
        Issues crates config tls provisioning (.ok tlsConfig) := by
  rw [← List.append_nil log]
  refine (Routine.ensures_append log).2 (ensures_provisionWildcardCert_issues.mono ?_)
  intro provisioning _ r hissues tlsConfig hr
  subst hr
  exact ⟨provisioning, by rw [List.append_nil], hissues⟩

theorem returns_startTls :
    (startTls crates config tls).Returns [] txtRecordIds fun log _ r =>
      Starts crates config tls log r.1 r.2 := by
  refine (returns_context returns_selectTlsSource).bind fun selecting _ tlsSource h => ?_
  obtain ⟨_, rfl, hselects⟩ := h
  split
  · rename_i hacme
    refine (returns_context returns_provisionWildcardCert).bind fun _ _ tlsConfig h => ?_
    obtain ⟨provisioning, rfl, hissues⟩ := h
    exact Routine.returns_pure ⟨selecting, provisioning, rfl, hselects, .inl ⟨hacme, hissues⟩⟩
  · rename_i hother
    refine (returns_context returns_loadTlsConfig).bind fun _ _ tlsConfig h => ?_
    obtain ⟨again, loading, tlsSource', rfl, hagain, hloads⟩ := h
    exact Routine.returns_pure ⟨selecting, again ++ loading, rfl, hselects,
      .inr ⟨hother, again, loading, tlsSource', rfl, hagain, hloads⟩⟩

/-- What a turn of the renewal loop did before it sends a configuration: the certificate on
disk was read and expires soon, and a new one was issued. -/
def Renews (crates : TlsCrates) (config : Config) (tls : TlsConfig) (log : CallLog Answer)
    (tlsConfig : RustlsConfig) : Prop :=
  renews config tls = true ∧ ∃ certData expires provisioning, ∃ now : ℕ,
    log = [⟨.exists (certPath tls), true⟩, ⟨.read (certPath tls), .ok certData⟩,
      ⟨.now, .ok now⟩] ++ provisioning ∧
    notAfter crates certData = .ok expires ∧ expires < now + (renewalThreshold : ℤ) ∧
    Issues crates config tls provisioning (.ok tlsConfig)

theorem returns_certExpiresWithin (path : String) (threshold : ℕ) :
    (certExpiresWithin crates path threshold).Returns log txtRecordIds fun log' _ soon =>
      ∃ certData expires, ∃ now : ℕ, log' = log ++ [⟨.read path, .ok certData⟩, ⟨.now, .ok now⟩] ∧
        notAfter crates certData = .ok expires ∧
        (soon = true ↔ expires < now + (threshold : ℤ)) := by
  refine Routine.returns_call_bind fun answer => Routine.returns_ofResult_bind fun certData h => ?_
  obtain rfl := h
  refine Routine.returns_ofResult_bind fun expires hexpires => ?_
  refine Routine.returns_call_bind fun answer => Routine.returns_ofResult_bind fun now h => ?_
  obtain rfl := h
  refine Routine.returns_pure ⟨certData, expires, now, List.append_assoc .., hexpires, ?_⟩
  rw [decide_eq_true_iff]
  omega

/-- Certificates that are the operator's own, or for development, are not renewed. -/
theorem Selects.renews_eq_false {selecting : CallLog Answer} {tlsSource : TlsSource}
    (h : Selects config tls selecting tlsSource)
    (hsource : tlsSource = .bringYourOwn ∨ tlsSource = .selfSigned) :
    renews config tls = false := by
  rcases h with ⟨hcert, -⟩ | ⟨-, -, certExists, keyExists, -, hcached⟩
  · rw [renews, hcert, Bool.or_true, Bool.true_or]
    rfl
  · have hplain : cloudflareAcmeConfigured config = false := by
      rcases hsource with rfl | rfl
      · cases certExists <;> cases keyExists <;> simp only [cachedSource] at hcached <;>
          grind
      · cases certExists <;> cases keyExists <;> simp only [cachedSource] at hcached <;>
          grind
    rw [renews, hplain]
    rfl

theorem returns_renewCert :
    (renewCert crates config tls).Returns [] txtRecordIds fun log _ r =>
      ∀ tlsConfig, r = some tlsConfig → Renews crates config tls log tlsConfig := by
  have hnothing {log : CallLog Answer} {s : List String} :
      (pure none : Acme (Option RustlsConfig)).Returns log s fun log _ r =>
        ∀ tlsConfig, r = some tlsConfig → Renews crates config tls log tlsConfig :=
    Routine.returns_pure fun _ h => nomatch h
  rw [renewCert]
  split
  · rename_i hrenews
    refine Routine.returns_call_bind fun present => ?_
    split
    · rename_i hpresent
      subst hpresent
      refine (Routine.returns_outcome (returns_certExpiresWithin _ _)).bind fun _ _ r hcheck => ?_
      split
      · obtain ⟨certData, expires, now, rfl, hexpires, hsoon⟩ := hcheck true rfl
        refine (Routine.returns_outcome returns_provisionWildcardCert).bind fun _ _ r h => ?_
        refine Routine.returns_pure fun tlsConfig hr => ?_
        obtain ⟨provisioning, rfl, hissues⟩ := h tlsConfig (by cases r <;> simp_all [Except.toOption])
        exact ⟨hrenews, certData, expires, provisioning, now, rfl, hexpires, hsoon.1 rfl, hissues⟩
      · exact hnothing
      · exact hnothing
    · exact hnothing
  · exact hnothing

end

end Acme

/-! ### The server -/

/-- `proxy::serve_https` and `control::serve`. -/
inductive Listener
  | https
  | control
deriving DecidableEq

/-- A connection with the configuration its handshake uses, if it has one; `latest` is the
place of the configuration that was sent last. -/
structure Accepted where
  listener : Listener
  tlsConfig : Option RustlsConfig
  latest : ℕ

/-- A program that runs next to the listeners, and the calls it has made. -/
abbrev TlsTask (α : Type) : Type :=
  Program Answer (Except String α × List String) × CallLog Answer

/-- What is served: the source that was selected and the acceptor of the start, the value of
the watch channel and the turn of the renewal loop, if it does not wait.  `sent` are the values
of the channel with the calls behind them, and `accepted` are the connections; no step reads
the two but to record. -/
structure TlsServing where
  tlsSource : TlsSource
  tlsAcceptor : RustlsConfig
  tlsConfig : Option RustlsConfig
  renewal : Option (TlsTask (Option RustlsConfig))
  sent : List (RustlsConfig × CallLog Answer)
  accepted : List Accepted

inductive TlsServer
  | starting (task : TlsTask (TlsSource × RustlsConfig))
  | failed (e : String)
  | serving (s : TlsServing)

inductive TlsAction
  | answer (reply : (c : OutsideCall) → Answer c)
  | finish
  | tick
  | accept (listener : Listener)

namespace TlsServing

variable (s : TlsServing)

/-- `control_tls_enabled`. -/
def controlTlsEnabled : Bool :=
  s.tlsSource != .selfSigned

/-- The configuration of the next handshake. -/
def acceptor : Listener → Option RustlsConfig
  | .https => some (s.tlsConfig.getD s.tlsAcceptor)
  | .control => if s.controlTlsEnabled then some (s.tlsConfig.getD s.tlsAcceptor) else none

/-- `state.tls_config.send`. -/
def send (tlsConfig : RustlsConfig) (log : CallLog Answer) : TlsServing :=
  { s with tlsConfig := some tlsConfig, sent := s.sent ++ [(tlsConfig, log)] }

def accept (listener : Listener) : TlsServing :=
  { s with accepted := s.accepted ++ [⟨listener, s.acceptor listener, s.sent.length - 1⟩] }

/-- A turn of the renewal loop ends. -/
def renewed (result : Except String (Option RustlsConfig)) (log : CallLog Answer) : TlsServing :=
  match result with
  | .ok (some tlsConfig) => { s.send tlsConfig log with renewal := none }
  | _ => { s with renewal := none }

end TlsServing

namespace TlsServer

variable (crates : TlsCrates) (config : Config) (tls : TlsConfig)

/-- The server behind its start. -/
def started (log : CallLog Answer) : Except String (TlsSource × RustlsConfig) → TlsServer
  | .error e => .failed e
  | .ok (tlsSource, tlsConfig) =>
      .serving (TlsServing.send ⟨tlsSource, tlsConfig, none, none, [], []⟩ tlsConfig log)

def step : TlsServer → TlsAction → Option TlsServer
  | .starting task, .answer reply => (Program.answer reply task).map .starting
  | .starting (.done r, log), .finish => some (started log r.1)
  | .serving s, .answer reply =>
      match s.renewal with
      | none => none
      | some task => (Program.answer reply task).map fun task =>
          .serving { s with renewal := some task }
  | .serving s, .finish =>
      match s.renewal with
      | some (.done r, log) => some (.serving (s.renewed r.1 log))
      | _ => none
  | .serving s, .tick =>
      match s.renewal with
      | none => some (.serving { s with
          renewal := some ((Acme.renewCert crates config tls).run.run [], []) })
      | some _ => none
  | .serving s, .accept listener => some (.serving (s.accept listener))
  | _, _ => none

def machine : Machine TlsServer TlsAction where
  init s := s = .starting ((Acme.startTls crates config tls).run.run [], [])
  step := step crates config tls

variable {crates config tls}

/-- **What is served.**  The configurations that were sent are that of the start and those of
renewals, the last of them is in the watch channel, and every connection uses the one that
was the last when it came. -/
structure Sound (crates : TlsCrates) (config : Config) (tls : TlsConfig) (s : TlsServing) :
    Prop where
  sent : ∃ startLog renewals, s.sent = (s.tlsAcceptor, startLog) :: renewals ∧
    Acme.Starts crates config tls startLog s.tlsSource s.tlsAcceptor ∧
    ∀ x ∈ renewals, Acme.Renews crates config tls x.2 x.1
  current : s.tlsConfig = s.sent.getLast?.map Prod.fst
  accepted : ∀ a ∈ s.accepted, a.latest < s.sent.length ∧
    a.tlsConfig = if a.listener = .control ∧ s.tlsSource = .selfSigned then none
      else s.sent[a.latest]?.map Prod.fst
  ordered : s.accepted.Pairwise fun a b => a.latest ≤ b.latest

/-- A turn of the renewal loop sends nothing but what it renewed. -/
def Renewing (crates : TlsCrates) (config : Config) (tls : TlsConfig)
    (task : TlsTask (Option RustlsConfig)) : Prop :=
  task.1.Ensures task.2 fun log r =>
    ∀ result, r.1 = .ok result → ∀ tlsConfig, result = some tlsConfig →
      Acme.Renews crates config tls log tlsConfig

section

variable {s : TlsServing}

theorem Sound.sent_ne_nil (h : Sound crates config tls s) : s.sent ≠ [] := by
  obtain ⟨startLog, renewals, hsent, -⟩ := h.sent
  rw [hsent]
  exact List.cons_ne_nil _ _

/-- The next handshake uses the configuration that was sent last. -/
theorem Sound.acceptor (h : Sound crates config tls s) (listener : Listener) :
    s.acceptor listener = if listener = .control ∧ s.tlsSource = .selfSigned then none
      else s.sent[s.sent.length - 1]?.map Prod.fst := by
  have hlast : some (s.tlsConfig.getD s.tlsAcceptor) =
      s.sent[s.sent.length - 1]?.map Prod.fst := by
    rw [h.current, ← List.getLast?_eq_getElem?, List.getLast?_eq_some_getLast h.sent_ne_nil]
    rfl
  cases listener with
  | https =>
      rw [if_neg (by rintro ⟨h, -⟩; cases h)]
      exact hlast
  | control =>
      by_cases hsource : s.tlsSource = .selfSigned
      · have hplain : s.acceptor .control = none := by
          rw [TlsServing.acceptor, TlsServing.controlTlsEnabled, hsource]
          rfl
        rw [hplain, if_pos ⟨rfl, hsource⟩]
      · have henabled : s.acceptor .control = some (s.tlsConfig.getD s.tlsAcceptor) :=
          if_pos (bne_iff_ne.2 hsource)
        rw [henabled, if_neg fun h => hsource h.2]
        exact hlast

theorem Sound.accept (h : Sound crates config tls s) (listener : Listener) :
    Sound crates config tls (s.accept listener) where
  sent := h.sent
  current := h.current
  accepted a ha := by
    rcases List.mem_append.1 ha with ha | ha
    · exact h.accepted a ha
    · obtain rfl := List.mem_singleton.1 ha
      exact ⟨Nat.sub_one_lt (List.length_pos_iff.2 h.sent_ne_nil).ne', h.acceptor listener⟩
  ordered := by
    refine List.pairwise_append.2 ⟨h.ordered, List.pairwise_singleton .., fun a ha b hb => ?_⟩
    obtain rfl := List.mem_singleton.1 hb
    exact Nat.le_sub_one_of_lt (h.accepted a ha).1

/-- A renewed configuration is sent. -/
theorem Sound.send (h : Sound crates config tls s) {tlsConfig : RustlsConfig}
    {log : CallLog Answer} (hrenews : Acme.Renews crates config tls log tlsConfig) :
    Sound crates config tls (s.send tlsConfig log) where
  sent := by
    obtain ⟨startLog, renewals, hsent, hstarts, hall⟩ := h.sent
    refine ⟨startLog, renewals ++ [(tlsConfig, log)], ?_, hstarts, ?_⟩
    · show s.sent ++ [(tlsConfig, log)] = _
      rw [hsent]
      rfl
    · exact List.forall_mem_append.2 ⟨hall, List.forall_mem_singleton.2 hrenews⟩
  current := by
    show some tlsConfig = (s.sent ++ [(tlsConfig, log)]).getLast?.map Prod.fst
    rw [List.getLast?_concat]
    rfl
  accepted a ha := by
    obtain ⟨hlt, hconfig⟩ := h.accepted a ha
    refine ⟨?_, ?_⟩
    · show a.latest < (s.sent ++ [(tlsConfig, log)]).length
      rw [List.length_append]
      omega
    · show a.tlsConfig = if _ then none else (s.sent ++ [(tlsConfig, log)])[a.latest]?.map Prod.fst
      rw [List.getElem?_append_left hlt]
      exact hconfig
  ordered := h.ordered

/-- A turn of the renewal loop ends. -/
theorem Sound.renewed (h : Sound crates config tls s)
    {result : Except String (Option RustlsConfig)} {log : CallLog Answer}
    (hrenews : ∀ r, result = .ok r → ∀ tlsConfig, r = some tlsConfig →
      Acme.Renews crates config tls log tlsConfig) :
    Sound crates config tls (s.renewed result log) := by
  rcases result with e | _ | tlsConfig
  · exact ⟨h.sent, h.current, h.accepted, h.ordered⟩
  · exact ⟨h.sent, h.current, h.accepted, h.ordered⟩
  · have hsent := h.send (hrenews _ rfl tlsConfig rfl)
    exact ⟨hsent.sent, hsent.current, hsent.accepted, hsent.ordered⟩

theorem renewal_renewed (s : TlsServing) (result : Except String (Option RustlsConfig))
    (log : CallLog Answer) : (s.renewed result log).renewal = none := by
  rcases result with e | _ | tlsConfig <;> rfl

/-- The first configuration is that of the start. -/
theorem sound_start {log : CallLog Answer} {tlsSource : TlsSource} {tlsConfig : RustlsConfig}
    (h : Acme.Starts crates config tls log tlsSource tlsConfig) :
    Sound crates config tls
      (TlsServing.send ⟨tlsSource, tlsConfig, none, none, [], []⟩ tlsConfig log) where
  sent := ⟨log, [], rfl, h, List.forall_mem_nil _⟩
  current := rfl
  accepted := List.forall_mem_nil _
  ordered := List.Pairwise.nil

end

/-- **The invariant** of the server. -/
def Inv (crates : TlsCrates) (config : Config) (tls : TlsConfig) : TlsServer → Prop
  | .starting task => task.1.Ensures task.2 fun log r =>
      ∀ x, r.1 = .ok x → Acme.Starts crates config tls log x.1 x.2
  | .failed _ => True
  | .serving s => Sound crates config tls s ∧
      ∀ task, s.renewal = some task → Renewing crates config tls task

variable {x x' : TlsServer}

theorem Inv.step {a : TlsAction} (h : Inv crates config tls x)
    (hs : step crates config tls x a = some x') : Inv crates config tls x' := by
  cases x with
  | starting task =>
      cases a with
      | answer reply =>
          obtain ⟨task', hanswer, rfl⟩ := Option.map_eq_some_iff.1 hs
          exact Program.Ensures.answer h hanswer
      | finish =>
          obtain ⟨_ | _, log⟩ := task
          · rename_i r
            obtain rfl := Option.some.inj hs
            obtain ⟨_ | ⟨tlsSource, tlsConfig⟩, _⟩ := r
            · trivial
            · exact ⟨sound_start (h _ rfl), fun _ h => nomatch h⟩
          · cases hs
      | tick => cases hs
      | accept listener => cases hs
  | failed e => cases a <;> cases hs
  | serving s =>
      obtain ⟨hsound, hrenewing⟩ := h
      cases a with
      | answer reply =>
          simp only [TlsServer.step] at hs
          split at hs
          · cases hs
          · rename_i task hrenewal
            obtain ⟨task', hanswer, rfl⟩ := Option.map_eq_some_iff.1 hs
            refine ⟨⟨hsound.sent, hsound.current, hsound.accepted, hsound.ordered⟩, ?_⟩
            intro task'' h
            obtain rfl := Option.some.inj h
            exact Program.Ensures.answer (hrenewing task hrenewal) hanswer
      | finish =>
          simp only [TlsServer.step] at hs
          split at hs
          · rename_i r log hrenewal
            obtain rfl := Option.some.inj hs
            refine ⟨hsound.renewed (hrenewing _ hrenewal), fun task h => ?_⟩
            rw [renewal_renewed] at h
            cases h
          · cases hs
      | tick =>
          simp only [TlsServer.step] at hs
          split at hs
          · obtain rfl := Option.some.inj hs
            refine ⟨⟨hsound.sent, hsound.current, hsound.accepted, hsound.ordered⟩, ?_⟩
            intro task h
            obtain rfl := Option.some.inj h
            exact Acme.returns_renewCert
          · cases hs
      | accept listener =>
          obtain rfl := Option.some.inj hs
          exact ⟨hsound.accept listener, hrenewing⟩

theorem inv_of_reachable (r : (machine crates config tls).Reachable x) :
    Inv crates config tls x :=
  r.invariant (fun x hx => by
    obtain rfl : x = _ := hx
    exact Acme.returns_startTls) fun _ _ _ _ h _ hs => h.step hs

/-- **Which certificate is served.**  Whatever the disk, the clock, the Cloudflare API and the
ACME server answer and whenever connections come: the server starts with a configuration of
the source it selected, or does not serve; what it serves later was renewed when the
certificate on disk was about to expire, and a certificate of the operator's or one for
development stays.  Every connection uses what was sent last, so that none gets an older
one than a connection before it, and control connections are plain if and only if the server
selected the development certificate. -/
theorem certificates_served (crates : TlsCrates) (config : Config) (tls : TlsConfig)
    (s : TlsServing) (r : (machine crates config tls).Reachable (.serving s)) :
    Sound crates config tls s ∧
      (s.tlsSource = .bringYourOwn ∨ s.tlsSource = .selfSigned →
        s.sent.map Prod.fst = [s.tlsAcceptor] ∧ s.tlsConfig = some s.tlsAcceptor) ∧
      (∀ a ∈ s.accepted, a.tlsConfig = none ↔
        a.listener = .control ∧ s.tlsSource = .selfSigned) := by
  obtain ⟨hsound, -⟩ := inv_of_reachable r
  refine ⟨hsound, fun hsource => ?_, fun a ha => ?_⟩
  · obtain ⟨startLog, renewals, hsent, ⟨selecting, rest, -, hselects, -⟩, hrenews⟩ := hsound.sent
    have hnone : renewals = [] := by
      refine List.eq_nil_iff_forall_not_mem.2 fun x hx => ?_
      have hrenews := (hrenews x hx).1
      rw [hselects.renews_eq_false hsource] at hrenews
      cases hrenews
    rw [hsound.current, hsent, hnone]
    exact ⟨rfl, rfl⟩
  · obtain ⟨hlt, hconfig⟩ := hsound.accepted a ha
    rw [hconfig]
    split
    · rename_i hplain
      exact iff_of_true rfl hplain
    · rename_i hplain
      rw [List.getElem?_eq_getElem hlt]
      exact iff_of_false (fun h => nomatch h) hplain

/-- Crates that take a file for its certificate. -/
def plainCrates : TlsCrates where
  statusError url _ := url
  parseCredentials json := .ok ⟨json⟩
  credentialsJson credentials := .ok credentials.json
  certificateParams names := .ok ⟨names, false⟩
  serializeRequest _ keyPair := .ok keyPair.der
  selfSigned _ keyPair := .ok keyPair.der
  certs data := .ok [data]
  privateKey data := .ok (some data)
  withSingleCert certs key := .ok ⟨certs, key, []⟩
  notAfter _ := .ok 0

/-- An outside where all goes well, and every file holds `data`. -/
def willing (data : List UInt8) : (c : OutsideCall) → Answer c
  | .post _ _ _ | .delete _ _ => .error "no network"
  | .exists _ => true
  | .readToString _ => .ok ""
  | .read _ => .ok data
  | .fromCredentials _ => .ok ⟨"account"⟩
  | .createAccount _ _ => .ok (⟨"account"⟩, ⟨""⟩)
  | .newOrder _ _ => .ok ⟨"order", []⟩
  | .authorization _ => .ok ⟨none⟩
  | .refresh _ => .ok .valid
  | .certificate _ => .ok (some "chain")
  | .generateKeyPair => .ok ⟨"key", [7]⟩
  | .sleep _ => ()
  | .now => .ok 5
  | .createDirAll _ | .write _ _ | .setPermissions _ _ | .accountBuilder | .setReady _
  | .finalizeCsr _ _ => .ok ()

/-- A server with Cloudflare credentials. -/
def acmeConfig : Config :=
  { Config.default with cloudflare := { apiToken := "t", zoneId := "z", perTunnelDns := false } }

def acmeTls : TlsConfig :=
  ⟨"staging", "", "certs", none, none⟩

/-- The server starts from the cached files, and renews them between two connections. -/
def renewalRun : List TlsAction :=
  List.replicate 6 (.answer (willing [1])) ++ [.finish, .accept .https, .tick] ++
    List.replicate 19 (.answer (willing [2])) ++ [.finish, .accept .control]

/-- What is served, if anything is. -/
def served : TlsServer → Option TlsServing
  | .serving s => some s
  | _ => none

theorem isSome_renewalRun :
    (((machine plainCrates acmeConfig acmeTls).run
      (.starting ((Acme.startTls plainCrates acmeConfig acmeTls).run.run [], [])) renewalRun).bind
        served).isSome = true := by
  decide +kernel

/-- What is served behind the renewal. -/
def renewedServing : TlsServing :=
  Option.get _ isSome_renewalRun

theorem reachable_renewedServing :
    (machine plainCrates acmeConfig acmeTls).Reachable (.serving renewedServing) := by
  obtain ⟨x, hrun, hserved⟩ := Option.bind_eq_some_iff.1 (Option.some_get isSome_renewalRun).symm
  cases x with
  | serving s =>
      obtain rfl : s = renewedServing := Option.some.inj hserved
      exact Machine.reachable_of_run (.init rfl) hrun
  | starting task => cases hserved
  | failed e => cases hserved

theorem certificates_served_renewed :
    renewedServing.accepted.map Accepted.tlsConfig =
        [some ⟨[[1]], [1], ["http/1.1"]⟩, some ⟨[[2]], [2], ["http/1.1"]⟩] ∧
      Sound plainCrates acmeConfig acmeTls renewedServing :=
  ⟨by decide +kernel,
    (certificates_served plainCrates acmeConfig acmeTls renewedServing reachable_renewedServing).1⟩

end TlsServer

end Rgrok
