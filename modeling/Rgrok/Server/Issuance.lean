/-
# The certificate that is saved and served

`provision_wildcard_cert` writes `fullchain.pem` and `privkey.pem` at most once, and only
with a certificate in hand that ACME issued for an order it had checked.  The key it writes
is the one whose signing request finalized that order, unless the order was valid before:
then nothing was finalized in this run.  A configuration it returns was read back from the
two files (`certificate_issued`).
-/

import Rgrok.Server.Provisioning

namespace Rgrok

open OutsideCall (Answer)

namespace Acme

/-- What happens between the new key and the certificate: nothing for an order that is valid
already; else the order is finalized with a request signed by the key, and polled until it
is valid. -/
def Finalizes (crates : TlsCrates) (config : Config) (order : Order) (status : OrderStatus)
    (key : KeyPair) (finalizing : CallLog Answer) : Prop :=
  status = .valid ∧ finalizing = [] ∨
    status = .ready ∧ ∃ params csr polling,
      crates.certificateParams ["*." ++ config.server.domain, config.server.domain] = .ok params ∧
      crates.serializeRequest { params with emptyDistinguishedName := true } key = .ok csr ∧
      finalizing = ⟨.finalizeCsr order csr, .ok ()⟩ :: polling ++ [⟨.refresh order, .ok .valid⟩] ∧
      ∀ x ∈ polling, isPoll x.1 = true

/-- The calls of `save_cert` and those of `load_from_files` behind it. -/
def savingCalls (tls : TlsConfig) (certPem keyPem : String) : List OutsideCall :=
  [.createDirAll tls.certDir, .write (certPath tls) certPem, .write (keyPath tls) keyPem,
    .setPermissions (keyPath tls) 0o600, .read (certPath tls), .read (keyPath tls)]

/-- A configuration is what the two files were read as. -/
def Loads (crates : TlsCrates) (tls : TlsConfig) (saving : CallLog Answer)
    (tlsConfig : RustlsConfig) : Prop :=
  ∃ certData keyData, ⟨.read (certPath tls), .ok certData⟩ ∈ saving ∧
    ⟨.read (keyPath tls), .ok keyData⟩ ∈ saving ∧
    serverConfig crates (keyPath tls) certData keyData = .ok tlsConfig

section

variable {crates : TlsCrates} {cf : CloudflareClient} {config : Config} {tls : TlsConfig}
  {log : CallLog Answer} {txtRecordIds : List String}

/-- A poll ends with an error or with the status it stopped at. -/
def Polled (judge : OrderStatus → Verdict) (order : Order) (log log' : CallLog Answer)
    (r : Except String OrderStatus) : Prop :=
  ∃ polling, log' = log ++ polling ∧ (∀ x ∈ polling, isPoll x.1 = true) ∧
    ∀ status, r = .ok status → judge status = .stop ∧
      ∃ before, polling = before ++ [⟨.refresh order, .ok status⟩]

theorem Polled.failed {judge : OrderStatus → Verdict} {order : Order}
    (answer : Except String OrderStatus) (e : String) :
    Polled judge order log (log ++ [⟨.refresh order, answer⟩]) (.error e) :=
  ⟨_, rfl, List.forall_mem_singleton.2 rfl, fun status h => by cases h⟩

theorem Polled.stopped {judge : OrderStatus → Verdict} {order : Order} {status : OrderStatus}
    (h : judge status = .stop) :
    Polled judge order log (log ++ [⟨.refresh order, .ok status⟩]) (.ok status) := by
  refine ⟨_, rfl, List.forall_mem_singleton.2 rfl, fun status' hstatus => ?_⟩
  obtain rfl := Except.ok.inj hstatus
  exact ⟨h, [], rfl⟩

theorem Polled.again {judge : OrderStatus → Verdict} {order : Order} {log' : CallLog Answer}
    {answer : Except String OrderStatus} {r : Except String OrderStatus}
    (h : Polled judge order (log ++ [⟨.refresh order, answer⟩] ++ [⟨.sleep 5, ()⟩]) log' r) :
    Polled judge order log log' r := by
  obtain ⟨polling, rfl, hpoll, hlast⟩ := h
  refine ⟨⟨.refresh order, answer⟩ :: ⟨.sleep 5, ()⟩ :: polling, by simp, ?_, ?_⟩
  · exact List.forall_mem_cons.2 ⟨rfl, List.forall_mem_cons.2 ⟨rfl, hpoll⟩⟩
  · intro status hstatus
    obtain ⟨hstop, before, rfl⟩ := hlast status hstatus
    exact ⟨hstop, ⟨.refresh order, answer⟩ :: ⟨.sleep 5, ()⟩ :: before, rfl⟩

theorem ensures_poll (context tooLate : String) (judge : OrderStatus → Verdict) (order : Order)
    (attempts : ℕ) :
    (poll context tooLate judge order attempts).Ensures log txtRecordIds fun log' _ r =>
      Polled judge order log log' r := by
  induction attempts generalizing log with
  | zero =>
      rw [poll]
      refine Routine.ensures_bind.2 ((Routine.ensures_call _).2 fun answer => ?_)
      refine Routine.ensures_bind.2 ((Routine.ensures_ofResult _).2 ?_)
      cases answer with
      | error e => exact Polled.failed _ _
      | ok status =>
          dsimp only [Except.mapError]
          split
          · rename_i hstop
            exact Polled.stopped hstop
          · exact Polled.failed _ _
          · exact Polled.failed _ _
  | succ attempts ih =>
      rw [poll]
      refine Routine.ensures_bind.2 ((Routine.ensures_call _).2 fun answer => ?_)
      refine Routine.ensures_bind.2 ((Routine.ensures_ofResult _).2 ?_)
      cases answer with
      | error e => exact Polled.failed _ _
      | ok status =>
          dsimp only [Except.mapError]
          split
          · rename_i hstop
            exact Polled.stopped hstop
          · refine Routine.ensures_bind.2 ((Routine.ensures_call _).2 fun _ => ?_)
            exact ih.mono fun _ _ _ h => h.again
          · exact Polled.failed _ _

/-- No file of the certificate is written. -/
def Untouched (tls : TlsConfig) (log : CallLog Answer) : Prop :=
  ∀ x ∈ log, touches tls x.1 = false

theorem Untouched.concat (h : Untouched tls log) {c : OutsideCall} (answer : Answer c)
    (hc : touches tls c = false) : Untouched tls (log ++ [⟨c, answer⟩]) := by
  intro x hx
  rcases List.mem_append.1 hx with hx | hx
  · exact h x hx
  · obtain rfl := List.mem_singleton.1 hx
    exact hc

theorem keeps_orderCert_untouched :
    Routine.Keeps (fun log _ => Untouched tls log) (orderCert crates cf config tls) :=
  keeps_orderCert (fun _ _ _ answer hc h => h.concat answer (touches_of_isQuiet hc))
    (fun _ _ _ answer h => h.concat answer rfl) (fun _ _ _ answer h => h.concat answer rfl)
    (keeps_records (fun _ _ answer h => h.concat answer rfl)
      fun _ _ _ _ answer h => h.concat answer rfl)

theorem keeps_finalizeCert_untouched (order : Order) (status : OrderStatus) :
    Routine.Keeps (fun log _ => Untouched tls log) (finalizeCert crates config order status) :=
  keeps_finalizeCert (fun _ _ _ answer hc h => h.concat answer (touches_of_isQuiet hc))
    (fun _ _ _ answer h => h.concat answer rfl) (fun _ _ _ answer h => h.concat answer rfl)
    order status

/-- An order to go on with was ready, or valid, when it was last looked at. -/
theorem ensures_orderCert :
    (orderCert crates cf config tls).Ensures log txtRecordIds fun log' _ r =>
      ∀ order status, r = .ok (order, status) → (status = .valid ∨ status = .ready) ∧
        ∃ ordering, log' = ordering ++ [⟨.refresh order, .ok status⟩] := by
  refine Routine.ensures_last (fun account log _ => ?_) fun _ _ _ _ _ h => by cases h
  refine Routine.ensures_last (fun r log _ => ?_) fun _ _ _ _ _ h => by cases h
  refine Routine.ensures_last (fun order log _ => ?_) fun _ _ _ _ _ h => by cases h
  refine Routine.ensures_last (fun _ log _ => ?_) fun _ _ _ _ _ h => by cases h
  refine Routine.ensures_last (fun _ log _ => ?_) fun _ _ _ _ _ h => by cases h
  refine Routine.ensures_last (fun _ log _ => ?_) fun _ _ _ _ _ h => by cases h
  refine Routine.ensures_bind.2 ((ensures_poll _ _ _ order 30).mono fun log' _ r hpolled => ?_)
  obtain ⟨polling, rfl, -, hlast⟩ := hpolled
  cases r with
  | error e => exact fun _ _ h => by cases h
  | ok status =>
      obtain ⟨hstop, before, rfl⟩ := hlast status rfl
      intro order' status' h
      obtain ⟨rfl, rfl⟩ := Prod.mk.inj (Except.ok.inj h)
      refine ⟨?_, log ++ before, (List.append_assoc ..).symm⟩
      cases status with
      | ready => exact .inr rfl
      | valid => exact .inl rfl
      | _ => cases hstop

/-- An order is finalized with the request, unless it is valid. -/
theorem ensures_finalizeOrder {order : Order} {status : OrderStatus} (csr : List UInt8)
    (hstatus : status = .valid ∨ status = .ready) :
    (finalizeOrder order csr status).Ensures log txtRecordIds fun log' _ r =>
      r = .ok () → ∃ finalizing, log' = log ++ finalizing ∧
        (status = .valid ∧ finalizing = [] ∨ status = .ready ∧ ∃ polling,
          finalizing = ⟨.finalizeCsr order csr, .ok ()⟩ :: polling ++
            [⟨.refresh order, .ok .valid⟩] ∧ ∀ x ∈ polling, isPoll x.1 = true) := by
  rw [finalizeOrder]
  split
  · rename_i hvalid
    exact fun _ => ⟨[], (List.append_nil log).symm, .inl ⟨hvalid, rfl⟩⟩
  · rename_i hvalid
    refine Routine.ensures_bind.2 ((Routine.ensures_call _).2 fun answer => ?_)
    refine Routine.ensures_bind.2 ((Routine.ensures_ofResult _).2 ?_)
    cases answer with
    | error e => exact fun h => by cases h
    | ok _ =>
        refine Routine.ensures_bind.2 ((ensures_poll _ _ _ order 20).mono fun _ _ r hpolled => ?_)
        obtain ⟨polling, rfl, hpoll, hlast⟩ := hpolled
        cases r with
        | error e => exact fun h => by cases h
        | ok status' =>
            intro _
            obtain ⟨hstop, before, rfl⟩ := hlast status' rfl
            obtain rfl : status' = .valid := by
              cases status' with
              | valid => rfl
              | _ => cases hstop
            refine ⟨_, List.append_assoc .., .inr ⟨hstatus.resolve_left hvalid, before, rfl, ?_⟩⟩
            exact fun x hx => hpoll x (List.mem_append_left _ hx)

/-- A certificate was issued for the new key. -/
theorem ensures_finalizeCert {order : Order} {status : OrderStatus}
    (hstatus : status = .valid ∨ status = .ready) :
    (finalizeCert crates config order status).Ensures log txtRecordIds fun log' _ r =>
      ∀ certPem key, r = .ok (certPem, key) → ∃ finalizing, log' = log ++
        ⟨.generateKeyPair, .ok key⟩ :: finalizing ++ [⟨.certificate order, .ok (some certPem)⟩] ∧
          Finalizes crates config order status key finalizing := by
  refine Routine.ensures_bind.2 ((Routine.ensures_call _).2 fun answer => ?_)
  refine Routine.ensures_bind.2 ((Routine.ensures_ofResult _).2 ?_)
  cases answer with
  | error e => exact fun _ _ h => by cases h
  | ok key =>
      refine Routine.ensures_bind.2 ((Routine.ensures_ofResult _).2 ?_)
      cases hparams : crates.certificateParams ["*." ++ config.server.domain,
        config.server.domain] with
      | error e => exact fun _ _ h => by cases h
      | ok params =>
          refine Routine.ensures_bind.2 ((Routine.ensures_ofResult _).2 ?_)
          cases hcsr : crates.serializeRequest { params with emptyDistinguishedName := true }
            key with
          | error e => exact fun _ _ h => by cases h
          | ok csr =>
              refine Routine.ensures_bind.2 ((ensures_finalizeOrder csr hstatus).mono ?_)
              intro log' _ r hfinalized
              cases r with
              | error e => exact fun _ _ h => by cases h
              | ok _ =>
                  obtain ⟨finalizing, rfl, hfinalizing⟩ := hfinalized rfl
                  refine Routine.ensures_bind.2 ((Routine.ensures_call _).2 fun answer => ?_)
                  refine Routine.ensures_bind.2 ((Routine.ensures_ofResult _).2 ?_)
                  rcases answer with e | _ | certPem
                  · exact fun _ _ h => by cases h
                  · exact fun _ _ h => by cases h
                  · intro certPem' key' h
                    obtain ⟨rfl, rfl⟩ := Prod.mk.inj (Except.ok.inj h)
                    refine ⟨finalizing, by simp, ?_⟩
                    rcases hfinalizing with h | ⟨hready, polling, hpolling⟩
                    · exact .inl h
                    · exact .inr ⟨hready, params, csr, polling, hparams, hcsr, hpolling⟩

/-- A routine made these calls, or some of them before it failed; what it returns is as `Q`
says of them. -/
def Saved (calls : List OutsideCall) (Q : CallLog Answer → RustlsConfig → Prop)
    (log log' : CallLog Answer) (r : Except String RustlsConfig) : Prop :=
  ∃ saving, log' = log ++ saving ∧ saving.map Sigma.fst <+: calls ∧
    ∀ tlsConfig, r = .ok tlsConfig → saving.map Sigma.fst = calls ∧ Q saving tlsConfig

section

variable {c : OutsideCall} {answer : Answer c} {calls : List OutsideCall}
  {Q : CallLog Answer → RustlsConfig → Prop} {log' : CallLog Answer}

theorem Saved.failed (e : String) : Saved (c :: calls) Q log (log ++ [⟨c, answer⟩]) (.error e) :=
  ⟨_, rfl, ⟨calls, rfl⟩, fun _ h => by cases h⟩

theorem Saved.step {r : Except String RustlsConfig}
    (h : Saved calls (fun saving => Q (⟨c, answer⟩ :: saving)) (log ++ [⟨c, answer⟩]) log' r) :
    Saved (c :: calls) Q log log' r := by
  obtain ⟨saving, rfl, hcalls, hok⟩ := h
  refine ⟨⟨c, answer⟩ :: saving, List.append_assoc .., ?_, fun tlsConfig hr => ?_⟩
  · exact (List.prefix_cons_inj c).2 hcalls
  · exact ⟨congrArg (c :: ·) (hok tlsConfig hr).1, (hok tlsConfig hr).2⟩

end

/-- **The two files** are written in order and read back. -/
theorem ensures_saving (certPem keyPem : String) :
    (do saveCert tls certPem keyPem
        loadFromFiles crates (certPath tls) (keyPath tls) : Acme RustlsConfig).Ensures log
      txtRecordIds fun log' _ r =>
        Saved (savingCalls tls certPem keyPem) (Loads crates tls) log log' r := by
  refine Routine.ensures_bind.2 ?_
  rw [saveCert]
  refine Routine.ensures_bind.2 ((Routine.ensures_call _).2 fun answer => ?_)
  refine Routine.ensures_bind.2 ((Routine.ensures_ofResult _).2 ?_)
  rcases answer with e | ⟨⟩
  · exact Saved.failed e
  refine Routine.ensures_bind.2 ((Routine.ensures_call _).2 fun answer => ?_)
  refine Routine.ensures_bind.2 ((Routine.ensures_ofResult _).2 ?_)
  rcases answer with e | ⟨⟩
  · exact (Saved.failed e).step
  refine Routine.ensures_bind.2 ((Routine.ensures_call _).2 fun answer => ?_)
  refine Routine.ensures_bind.2 ((Routine.ensures_ofResult _).2 ?_)
  rcases answer with e | ⟨⟩
  · exact (Saved.failed e).step.step
  refine Routine.ensures_bind.2 ((Routine.ensures_call _).2 fun answer => ?_)
  refine (Routine.ensures_ofResult _).2 ?_
  rcases answer with e | ⟨⟩
  · exact (Saved.failed e).step.step.step
  refine Routine.ensures_bind.2 ((Routine.ensures_call _).2 fun answer => ?_)
  refine Routine.ensures_bind.2 ((Routine.ensures_ofResult _).2 ?_)
  rcases answer with e | certData
  · exact (Saved.failed e).step.step.step.step
  refine Routine.ensures_bind.2 ((Routine.ensures_call _).2 fun answer => ?_)
  refine Routine.ensures_bind.2 ((Routine.ensures_ofResult _).2 ?_)
  rcases answer with e | keyData
  · exact (Saved.failed e).step.step.step.step.step
  refine (Routine.ensures_ofResult _).2 ?_
  refine ⟨[⟨.createDirAll tls.certDir, .ok ()⟩, ⟨.write (certPath tls) certPem, .ok ()⟩,
    ⟨.write (keyPath tls) keyPem, .ok ()⟩, ⟨.setPermissions (keyPath tls) 0o600, .ok ()⟩,
    ⟨.read (certPath tls), .ok certData⟩, ⟨.read (keyPath tls), .ok keyData⟩], by simp,
    List.prefix_rfl, fun tlsConfig hok => ⟨rfl, certData, keyData, ?_, ?_, hok⟩⟩
  · simp
  · simp

/-- A provisioning either leaves the files of the certificate alone, and fails; or it gets as
far as a certificate for a new key, and then saves the two. -/
def Issues (crates : TlsCrates) (config : Config) (tls : TlsConfig) (log : CallLog Answer)
    (result : Except String RustlsConfig) : Prop :=
  Untouched tls log ∧ (∃ e, result = .error e) ∨
    ∃ order status key certPem ordering finalizing saving cleanup,
      log = ordering ++ [⟨.refresh order, .ok status⟩] ++
        ⟨.generateKeyPair, .ok key⟩ :: finalizing ++ [⟨.certificate order, .ok (some certPem)⟩] ++
          saving ++ cleanup ∧
      Untouched tls ordering ∧ Finalizes crates config order status key finalizing ∧
      saving.map Sigma.fst <+: savingCalls tls certPem key.pem ∧
      (∀ tlsConfig, result = .ok tlsConfig →
        saving.map Sigma.fst = savingCalls tls certPem key.pem ∧
          Loads crates tls saving tlsConfig) ∧
      ∀ x ∈ cleanup, x.1.isDelete = true

theorem ensures_inner :
    (provisionWildcardCertInner crates cf config tls).Ensures [] txtRecordIds fun log _ r =>
      Issues crates config tls log r := by
  have hkept : (orderCert crates cf config tls).Ensures [] txtRecordIds fun log _ _ =>
      Untouched tls log :=
    keeps_orderCert_untouched [] txtRecordIds (List.forall_mem_nil _)
  refine Routine.ensures_bind.2 ((hkept.and ensures_orderCert).mono fun log s r h => ?_)
  rcases r with e | ⟨order, status⟩
  · exact .inl ⟨h.1, e, rfl⟩
  obtain ⟨huntouched, hordered⟩ := h
  obtain ⟨hstatus, ordering, rfl⟩ := hordered order status rfl
  refine Routine.ensures_bind.2 (((keeps_finalizeCert_untouched order status _ s huntouched).and
    (ensures_finalizeCert hstatus)).mono fun log s r h => ?_)
  rcases r with e | ⟨certPem, key⟩
  · exact .inl ⟨h.1, e, rfl⟩
  obtain ⟨finalizing, rfl, hfinalizes⟩ := h.2 certPem key rfl
  refine (ensures_saving certPem key.pem).mono fun log _ r hsaved => ?_
  obtain ⟨saving, rfl, hcalls, hok⟩ := hsaved
  refine .inr ⟨order, status, key, certPem, ordering, finalizing, saving, [], ?_, ?_, hfinalizes,
    hcalls, hok, List.forall_mem_nil _⟩
  · rw [List.append_nil]
  · exact fun x hx => huntouched x (List.mem_append_left _ hx)

/-- What comes behind the work leaves the files alone. -/
theorem Issues.cleanup {r r' : Except String RustlsConfig} (h : Issues crates config tls log r)
    {cleanup : CallLog Answer} (hcleanup : ∀ x ∈ cleanup, x.1.isDelete = true)
    (hr : ∀ tlsConfig, r' = .ok tlsConfig ↔ r = .ok tlsConfig) :
    Issues crates config tls (log ++ cleanup) r' := by
  rcases h with ⟨huntouched, e, rfl⟩ | ⟨order, status, key, certPem, ordering, finalizing, saving,
    cleanup', rfl, hordering, hfinalizes, hcalls, hok, hcleanup'⟩
  · refine .inl ⟨fun x hx => ?_, ?_⟩
    · rcases List.mem_append.1 hx with hx | hx
      · exact huntouched x hx
      · have hdelete := hcleanup x hx
        cases hc : x.1 with
        | write => rw [hc] at hdelete; cases hdelete
        | _ => rfl
    · cases r' with
      | error e => exact ⟨e, rfl⟩
      | ok tlsConfig => cases (hr tlsConfig).1 rfl
  · refine .inr ⟨order, status, key, certPem, ordering, finalizing, saving, cleanup' ++ cleanup,
      List.append_assoc .., hordering, hfinalizes, hcalls, fun tlsConfig h => ?_, ?_⟩
    · exact hok tlsConfig ((hr tlsConfig).1 h)
    · exact List.forall_mem_append.2 ⟨hcleanup', hcleanup⟩

theorem ensures_provisionWildcardCert_issues :
    (provisionWildcardCert crates config tls).Ensures [] txtRecordIds fun log _ r =>
      Issues crates config tls log r := by
  refine (ensures_cleanup ensures_inner txtRecordIds).mono fun log _ r h => ?_
  obtain ⟨work, cleanup, created, result, rfl, hissues, hcalls, hr⟩ := h
  refine hissues.cleanup (fun x hx => ?_) hr
  have hmem : x.1 ∈ cleanup.map Sigma.fst := List.mem_map_of_mem hx
  rw [hcalls] at hmem
  obtain ⟨recordId, -, hdelete⟩ := List.mem_map.1 hmem
  rw [← hdelete]
  rfl

end

end Acme

end Rgrok
