/-
# Certificates from ACME

`provision_wildcard_cert` in `crates/rgrok-server/src/tls.rs` with what it calls, the
Cloudflare client of `dns.rs` among it.  Everything that happens outside the server (the
disk, the Cloudflare API, the ACME server, the random generator, time) is a call, and the
outside may answer it as it likes; the crates that only compute are a `TlsCrates`.

`Rgrok.Server.Provisioning` proves what becomes of the TXT records and how long a
provisioning polls; `Rgrok.Server.Issuance` which certificate is saved and served.
-/

import Rgrok.Lib.Program
import Rgrok.Proto.InspectJson
import Rgrok.Server.Config

namespace Rgrok

/-- `TlsConfig` of the configuration. -/
structure TlsConfig where
  acmeEnv : String
  acmeEmail : String
  certDir : String
  certFile : Option String
  keyFile : Option String
deriving DecidableEq

/-! ### The outside -/

/-- `OrderStatus`. -/
inductive OrderStatus
  | pending
  | ready
  | processing
  | valid
  | invalid
deriving DecidableEq

/-- How `{:?}` writes a status. -/
def OrderStatus.debug : OrderStatus → String
  | .pending => "Pending"
  | .ready => "Ready"
  | .processing => "Processing"
  | .valid => "Valid"
  | .invalid => "Invalid"

/-- `AccountCredentials`, by their JSON. -/
structure AccountCredentials where
  json : String
deriving DecidableEq

/-- An `Account`, by the URL the ACME server knows it by. -/
structure Account where
  url : String
deriving DecidableEq

/-- An `Order`: its URL and those of its authorizations. -/
structure Order where
  url : String
  authorizations : List String
deriving DecidableEq

/-- An authorization: the TXT value of its DNS-01 challenge, if it has one. -/
structure Authorization where
  dns01 : Option String
deriving DecidableEq

/-- `rcgen::KeyPair`. -/
structure KeyPair where
  pem : String
  der : List UInt8
deriving DecidableEq

/-- `rcgen::CertificateParams`. -/
structure CertificateParams where
  subjectAltNames : List String
  emptyDistinguishedName : Bool
deriving DecidableEq

/-- A response of the Cloudflare API; `json` is what `Response::json` makes of its body. -/
structure ApiResponse where
  status : ℕ
  json : Except String Json

/-- What the server asks of the outside. -/
inductive OutsideCall
  | post (url bearer : String) (body : Json)
  | delete (url bearer : String)
  | createDirAll (path : String)
  | exists (path : String)
  | readToString (path : String)
  | read (path : String)
  | write (path content : String)
  | setPermissions (path : String) (mode : ℕ)
  | accountBuilder
  | fromCredentials (credentials : AccountCredentials)
  | createAccount (contact directoryUrl : String)
  | newOrder (account : Account) (identifiers : List String)
  | authorization (url : String)
  | setReady (url : String)
  | refresh (order : Order)
  | finalizeCsr (order : Order) (csr : List UInt8)
  | certificate (order : Order)
  | generateKeyPair
  | sleep (seconds : ℕ)
  | now

/-- A request to the Cloudflare API. -/
def OutsideCall.isApi : OutsideCall → Bool
  | .post _ _ _ | .delete _ _ => true
  | _ => false

def OutsideCall.isDelete : OutsideCall → Bool
  | .delete _ _ => true
  | _ => false

theorem OutsideCall.isDelete_of_other {c : OutsideCall} (hc : c.isApi = false) :
    c.isDelete = false := by
  cases c with
  | post | delete => cases hc
  | _ => rfl

/-- What comes back. -/
@[reducible]
def OutsideCall.Answer : OutsideCall → Type
  | .post _ _ _ | .delete _ _ => Except String ApiResponse
  | .exists _ => Bool
  | .readToString _ => Except String String
  | .read _ => Except String (List UInt8)
  | .fromCredentials _ => Except String Account
  | .createAccount _ _ => Except String (Account × AccountCredentials)
  | .newOrder _ _ => Except String Order
  | .authorization _ => Except String Authorization
  | .refresh _ => Except String OrderStatus
  | .certificate _ => Except String (Option String)
  | .generateKeyPair => Except String KeyPair
  | .sleep _ => Unit
  | .now => Except String ℕ
  | .createDirAll _ | .write _ _ | .setPermissions _ _ | .accountBuilder | .setReady _
  | .finalizeCsr _ _ => Except String Unit

/-- `rustls::ServerConfig`. -/
structure RustlsConfig where
  certs : List (List UInt8)
  key : List UInt8
  alpnProtocols : List String
deriving DecidableEq

/-- The functions of other crates that the calls below use: how `reqwest` names an error
status, `serde_json` on credentials, `rcgen`, `rustls_pemfile`, `rustls` and `x509_parser`. -/
structure TlsCrates where
  statusError : String → ℕ → String
  parseCredentials : String → Except String AccountCredentials
  credentialsJson : AccountCredentials → Except String String
  certificateParams : List String → Except String CertificateParams
  serializeRequest : CertificateParams → KeyPair → Except String (List UInt8)
  selfSigned : CertificateParams → KeyPair → Except String (List UInt8)
  certs : List UInt8 → Except String (List (List UInt8))
  privateKey : List UInt8 → Except String (Option (List UInt8))
  withSingleCert : List (List UInt8) → List UInt8 → Except String RustlsConfig
  notAfter : List UInt8 → Except String ℤ

/-- `PathBuf::from(dir).join(name)` for a plain file name. -/
def joinPath (dir name : String) : String :=
  if dir.isEmpty || dir.endsWith "/" then dir ++ name else dir ++ "/" ++ name

open OutsideCall (Answer)

/-! ### `dns.rs` -/

/-- `value[name]` on a `serde_json::Value`: the last field of that name, `Null` if there is
none. -/
def Json.index (name : String) : Json → Json
  | .object fields => ((fields.reverse.find? fun field => field.1 == name).map (·.2)).getD .null
  | _ => .null

/-- `CloudflareClient`. -/
structure CloudflareClient where
  apiToken : String
  zoneId : String
  baseUrl : String
deriving DecidableEq

namespace CloudflareClient

def new (apiToken zoneId : String) : CloudflareClient where
  apiToken := apiToken
  zoneId := zoneId
  baseUrl := "https://api.cloudflare.com/client/v4"

def recordsUrl (cf : CloudflareClient) : String :=
  cf.baseUrl ++ "/zones/" ++ cf.zoneId ++ "/dns_records"

def recordUrl (cf : CloudflareClient) (recordId : String) : String :=
  cf.baseUrl ++ "/zones/" ++ cf.zoneId ++ "/dns_records/" ++ recordId

variable {σ : Type} (crates : TlsCrates) (cf : CloudflareClient)

/-- `Response::error_for_status`. -/
def errorForStatus (url : String) (response : ApiResponse) : Except String ApiResponse :=
  if 400 ≤ response.status && response.status < 600 then
    .error (crates.statusError url response.status)
  else
    .ok response

/-- The identifier in the answer to a new record. -/
def recordIdOf (answer : Except String ApiResponse) : Except String String :=
  answer.bind fun response =>
    (errorForStatus crates cf.recordsUrl response).bind fun response =>
      response.json.bind fun body =>
        match ((body.index "result").index "id").asString with
        | none => .error "missing record ID in response"
        | some recordId => .ok recordId

/-- What is posted for a TXT record. -/
def txtRecord (name value : String) : Json :=
  .object [("type", .string "TXT"), ("name", .string name), ("content", .string value),
    ("ttl", .number 120)]

/-- `create_txt_record`. -/
def createTxtRecord (name value : String) : Routine Answer σ String String := do
  let answer ← Routine.call (OutsideCall.post cf.recordsUrl cf.apiToken (txtRecord name value))
  Routine.ofResult (recordIdOf crates cf answer)

/-- `delete_record`. -/
def deleteRecord (recordId : String) : Routine Answer σ String Unit := do
  let answer ← Routine.call (OutsideCall.delete (cf.recordUrl recordId) cf.apiToken)
  let response ← Routine.ofResult answer
  let _ ← Routine.ofResult (errorForStatus crates (cf.recordUrl recordId) response)
  return ()

/-- The loop of `delete_records`, with the failures so far. -/
def deleteEach (failures : List String) : List String → Routine Answer σ String (List String)
  | [] => pure failures
  | recordId :: recordIds => do
      match ← Routine.outcome (deleteRecord crates cf recordId) with
      | .ok () => deleteEach failures recordIds
      | .error e => deleteEach (failures ++ [recordId ++ ": " ++ e]) recordIds

/-- `delete_records`. -/
def deleteRecords (recordIds : List String) : Routine Answer σ String Unit := do
  let failures ← deleteEach crates cf [] recordIds
  if failures.isEmpty then
    return ()
  else
    throw ("failed to delete DNS records: " ++ "; ".intercalate failures)

variable {crates cf} {log : CallLog Answer} {s : σ}

theorem ensures_createTxtRecord {name value : String}
    {post : CallLog Answer → σ → Except String String → Prop} :
    (createTxtRecord crates cf name value).Ensures log s post ↔
      ∀ answer, post (log ++ [⟨.post cf.recordsUrl cf.apiToken (txtRecord name value), answer⟩]) s
        (recordIdOf crates cf answer) := by
  rw [createTxtRecord, Routine.ensures_bind, Routine.ensures_call]
  exact forall_congr' fun answer => Routine.ensures_ofResult _

/-- A record is asked for once, whatever comes of it. -/
theorem ensures_deleteRecord (recordId : String) :
    (deleteRecord crates cf recordId).Ensures log s fun log' s' _ =>
      s' = s ∧ ∃ answer, log' = log ++ [⟨.delete (cf.recordUrl recordId) cf.apiToken, answer⟩] := by
  refine Routine.ensures_bind.2 ((Routine.ensures_call _).2 fun answer => ?_)
  refine Routine.ensures_bind.2 ((Routine.ensures_ofResult _).2 ?_)
  have hdone : s = s ∧ ∃ answer', log ++ [⟨.delete (cf.recordUrl recordId) cf.apiToken, answer⟩] =
      log ++ [⟨.delete (cf.recordUrl recordId) cf.apiToken, answer'⟩] := ⟨rfl, answer, rfl⟩
  cases answer with
  | error e => exact hdone
  | ok response =>
      refine Routine.ensures_bind.2 ((Routine.ensures_ofResult _).2 ?_)
      cases errorForStatus crates (cf.recordUrl recordId) response with
      | error e => exact hdone
      | ok response => exact hdone

/-- **Every record is asked for**, in turn, whatever comes of the others. -/
theorem ensures_deleteEach (failures recordIds : List String) :
    (deleteEach crates cf failures recordIds).Ensures log s fun log' s' r =>
      s' = s ∧ (∃ failures', r = .ok failures') ∧ ∃ cleanup, log' = log ++ cleanup ∧
        cleanup.map Sigma.fst =
          recordIds.map fun recordId => .delete (cf.recordUrl recordId) cf.apiToken := by
  induction recordIds generalizing log failures with
  | nil => exact ⟨rfl, ⟨failures, rfl⟩, [], (List.append_nil log).symm, rfl⟩
  | cons recordId recordIds ih =>
      refine Routine.ensures_bind.2 (Routine.ensures_outcome.2 ?_)
      refine (ensures_deleteRecord recordId).mono fun log' s' r hdone => ?_
      obtain ⟨rfl, answer, rfl⟩ := hdone
      have hrest (failures : List String) :
          (deleteEach crates cf failures recordIds).Ensures
            (log ++ [⟨.delete (cf.recordUrl recordId) cf.apiToken, answer⟩]) s' fun log' s'' r =>
              s'' = s' ∧ (∃ failures', r = .ok failures') ∧ ∃ cleanup, log' = log ++ cleanup ∧
                cleanup.map Sigma.fst = (recordId :: recordIds).map fun recordId =>
                  .delete (cf.recordUrl recordId) cf.apiToken := by
        refine (ih failures).mono fun log' s'' r h => ?_
        obtain ⟨rfl, hr, cleanup, rfl, hcalls⟩ := h
        refine ⟨rfl, hr, _, List.append_assoc .., ?_⟩
        rw [List.map_append, hcalls]
        rfl
      cases r with
      | ok _ => exact hrest failures
      | error e => exact hrest (failures ++ [recordId ++ ": " ++ e])

theorem ensures_deleteRecords (recordIds : List String) :
    (deleteRecords crates cf recordIds).Ensures log s fun log' _ _ =>
      ∃ cleanup, log' = log ++ cleanup ∧ cleanup.map Sigma.fst =
        recordIds.map fun recordId => .delete (cf.recordUrl recordId) cf.apiToken := by
  refine Routine.ensures_bind.2 ((ensures_deleteEach [] recordIds).mono fun log' s' r h => ?_)
  obtain ⟨rfl, ⟨failures, rfl⟩, hcleanup⟩ := h
  show (if failures.isEmpty = true then pure () else
    throw _ : Routine Answer σ String Unit).Ensures log' s' _
  split
  · exact hcleanup
  · exact hcleanup

end CloudflareClient

/-! ### `provision_wildcard_cert` -/

/-- What the provisioning does; its state is `txt_record_ids`. -/
abbrev Acme (α : Type) : Type :=
  Routine Answer (List String) String α

namespace Acme

/-- `map_err(|e| anyhow!("{context}: {e}"))?`. -/
def orFail {α : Type} (context : String) (r : Except String α) : Acme α :=
  Routine.ofResult (r.mapError fun e => context ++ ": " ++ e)

/-- `ok_or_else(|| anyhow!(message))?`. -/
def orElse {α : Type} (message : String) : Option α → Acme α
  | none => throw message
  | some a => pure a

section

variable (crates : TlsCrates) (cf : CloudflareClient) (config : Config) (tls : TlsConfig)

def accountPath : String :=
  joinPath tls.certDir "acme_account.json"

def certPath : String :=
  joinPath tls.certDir "fullchain.pem"

def keyPath : String :=
  joinPath tls.certDir "privkey.pem"

/-- `LetsEncrypt::url`. -/
def directoryUrl : String :=
  if tls.acmeEnv = "production" then
    "https://acme-v02.api.letsencrypt.org/directory"
  else
    "https://acme-staging-v02.api.letsencrypt.org/directory"

/-- Step 1: the account on disk, or a new one that is saved there. -/
def restoreOrCreateAccount : Acme Account := do
  Routine.ofResult (← Routine.call (OutsideCall.createDirAll tls.certDir))
  let present : Bool ← Routine.call (OutsideCall.exists (accountPath tls))
  if present then
    let json ← Routine.ofResult (← Routine.call (OutsideCall.readToString (accountPath tls)))
    let credentials ← Routine.ofResult (crates.parseCredentials json)
    orFail "ACME builder" (← Routine.call OutsideCall.accountBuilder)
    orFail "ACME restore" (← Routine.call (OutsideCall.fromCredentials credentials))
  else
    orFail "ACME builder" (← Routine.call OutsideCall.accountBuilder)
    let created ← orFail "ACME create"
      (← Routine.call (OutsideCall.createAccount ("mailto:" ++ tls.acmeEmail) (directoryUrl tls)))
    let json ← Routine.ofResult (crates.credentialsJson created.2)
    Routine.ofResult (← Routine.call (OutsideCall.write (accountPath tls) json))
    Routine.ofResult (← Routine.call (OutsideCall.setPermissions (accountPath tls) 0o600))
    return created.1

/-- Step 3: a TXT record for every authorization. -/
def createTxtRecords (challengeDomain : String) : List String → Acme Unit
  | [] => pure ()
  | url :: urls => do
      let auth ← orFail "ACME auth" (← Routine.call (OutsideCall.authorization url))
      let txtValue ← orElse "No DNS-01 challenge found" auth.dns01
      let recordId ← cf.createTxtRecord crates challengeDomain txtValue
      modify fun txtRecordIds => txtRecordIds ++ [recordId]
      createTxtRecords challengeDomain urls

/-- `set_ready` on a challenge, if there is one. -/
def setChallengeReady (url : String) : Option String → Acme Unit
  | none => pure ()
  | some _ => do orFail "ACME challenge ready" (← Routine.call (OutsideCall.setReady url))

/-- Step 5: the challenges are ready. -/
def setChallengesReady : List String → Acme Unit
  | [] => pure ()
  | url :: urls => do
      let auth ← orFail "ACME auth" (← Routine.call (OutsideCall.authorization url))
      setChallengeReady url auth.dns01
      setChallengesReady urls

/-- What a poll makes of a status. -/
inductive Verdict
  | stop
  | again
  | fail (message : String)

/-- The loop around `order.refresh()`; so many attempts are left. -/
def poll (context tooLate : String) (judge : OrderStatus → Verdict) (order : Order)
    (attempts : ℕ) : Acme OrderStatus := do
  let status ← orFail context (← Routine.call (OutsideCall.refresh order))
  match judge status with
  | .stop => return status
  | .again =>
      match attempts with
      | 0 => throw tooLate
      | attempts + 1 => do
          Routine.call (OutsideCall.sleep 5)
          poll context tooLate judge order attempts
  | .fail message => throw message

/-- Step 6: poll until the order is ready, or valid already. -/
def pollReady : Order → ℕ → Acme OrderStatus :=
  poll "ACME refresh" "ACME order still pending after 150s" fun
    | .ready | .valid => .stop
    | .pending => .again
    | .invalid => .fail "ACME order became invalid"
    | .processing => .fail ("Unexpected ACME order status: " ++ OrderStatus.debug .processing)

/-- Step 7: poll until the finalized order is valid. -/
def pollValid : Order → ℕ → Acme OrderStatus :=
  poll "ACME refresh after finalize" "ACME order still processing after finalize" fun
    | .valid => .stop
    | .processing => .again
    | status => .fail ("ACME order failed after finalize: " ++ status.debug)

/-- The order is finalized and polled, unless it is valid already. -/
def finalizeOrder (order : Order) (csr : List UInt8) (status : OrderStatus) : Acme Unit :=
  if status = .valid then
    pure ()
  else do
    orFail "ACME finalize" (← Routine.call (OutsideCall.finalizeCsr order csr))
    let _ ← pollValid order 20
    return ()

/-- `save_cert`. -/
def saveCert (certPem keyPem : String) : Acme Unit := do
  Routine.ofResult (← Routine.call (OutsideCall.createDirAll tls.certDir))
  Routine.ofResult (← Routine.call (OutsideCall.write (certPath tls) certPem))
  Routine.ofResult (← Routine.call (OutsideCall.write (keyPath tls) keyPem))
  Routine.ofResult (← Routine.call (OutsideCall.setPermissions (keyPath tls) 0o600))

/-- What `load_from_files` makes of the two files. -/
def serverConfig (keyPath : String) (certData keyData : List UInt8) :
    Except String RustlsConfig :=
  (crates.certs certData).bind fun certs =>
    (crates.privateKey keyData).bind fun
      | none => .error ("no private key found in " ++ keyPath)
      | some key =>
          (crates.withSingleCert certs key).map fun config =>
            { config with alpnProtocols := ["http/1.1"] }

/-- `load_from_files`. -/
def loadFromFiles (certPath keyPath : String) : Acme RustlsConfig := do
  let certData ← Routine.ofResult (← Routine.call (OutsideCall.read certPath))
  let keyData ← Routine.ofResult (← Routine.call (OutsideCall.read keyPath))
  Routine.ofResult (serverConfig crates keyPath certData keyData)

/-- Steps 1 to 6: an order that ACME has checked, with its status. -/
def orderCert : Acme (Order × OrderStatus) := do
  let account ← restoreOrCreateAccount crates tls
  let identifiers := ["*." ++ config.server.domain, config.server.domain]
  let order ← orFail "ACME order" (← Routine.call (OutsideCall.newOrder account identifiers))
  createTxtRecords crates cf ("_acme-challenge." ++ config.server.domain) order.authorizations
  Routine.call (OutsideCall.sleep 30)
  setChallengesReady order.authorizations
  let status ← pollReady order 30
  return (order, status)

/-- Steps 7 and 8: a new key, and the certificate chain. -/
def finalizeCert (order : Order) (status : OrderStatus) : Acme (String × KeyPair) := do
  let privateKey ← Routine.ofResult (← Routine.call OutsideCall.generateKeyPair)
  let params ← Routine.ofResult
    (crates.certificateParams ["*." ++ config.server.domain, config.server.domain])
  let csr ← Routine.ofResult
    (crates.serializeRequest { params with emptyDistinguishedName := true } privateKey)
  finalizeOrder order csr status
  let chain ← orFail "ACME certificate" (← Routine.call (OutsideCall.certificate order))
  let certPem ← orElse "No certificate returned by ACME" chain
  return (certPem, privateKey)

/-- `provision_wildcard_cert_inner`. -/
def provisionWildcardCertInner : Acme RustlsConfig := do
  let (order, status) ← orderCert crates cf config tls
  let (certPem, privateKey) ← finalizeCert crates config order status
  saveCert tls certPem privateKey.pem
  loadFromFiles crates (certPath tls) (keyPath tls)

/-- `provision_wildcard_cert`. -/
def provisionWildcardCert : Acme RustlsConfig := do
  set ([] : List String)
  let result ← Routine.outcome (provisionWildcardCertInner crates
    (.new config.cloudflare.apiToken config.cloudflare.zoneId) config tls)
  let txtRecordIds ← get
  let cleanupResult ← Routine.outcome
    ((CloudflareClient.new config.cloudflare.apiToken config.cloudflare.zoneId).deleteRecords
      crates txtRecordIds)
  match result, cleanupResult with
  | .ok tlsConfig, _ => return tlsConfig
  | .error primaryError, .ok () => throw primaryError
  | .error primaryError, .error cleanupError =>
      throw (primaryError ++ "; additionally, TXT record cleanup failed: " ++ cleanupError)

end

end Acme

end Rgrok
