/-
# What a provisioning leaves behind

However the disk, the Cloudflare API and the ACME server answer, `provision_wildcard_cert`
asks for every TXT record it created to be deleted, each of them once and no other, and it
stops polling after a while (`txt_records_deleted`).

The work before the cleanup keeps `Tracked`: `txt_record_ids` has the records that were
created.  Most of its steps make no difference to that, nor to the time it takes, so that
one lemma for each step says what any invariant needs of them (`keeps_restoreOrCreateAccount`
and the others).
-/

import Mathlib.Tactic.Ring
import Rgrok.Server.Acme

namespace Rgrok

open OutsideCall (Answer)

namespace Acme

/-! ### Calls of a kind -/

/-- A call of a poll. -/
def isPoll : OutsideCall → Bool
  | .refresh _ | .sleep _ => true
  | _ => false

/-- The certificate or its key is written. -/
def touches (tls : TlsConfig) : OutsideCall → Bool
  | .write path _ => path = certPath tls || path = keyPath tls
  | _ => false

/-- Neither a request to the Cloudflare API, nor part of polling, nor a change of the
certificate files. -/
def isQuiet (tls : TlsConfig) : OutsideCall → Bool
  | .post _ _ _ | .delete _ _ | .refresh _ | .sleep _ => false
  | .write path content => !touches tls (.write path content)
  | _ => true

theorem isApi_of_isQuiet {tls : TlsConfig} {c : OutsideCall} (hc : isQuiet tls c = true) :
    c.isApi = false := by
  cases c with
  | post | delete => cases hc
  | _ => rfl

theorem isPoll_of_isQuiet {tls : TlsConfig} {c : OutsideCall} (hc : isQuiet tls c = true) :
    isPoll c = false := by
  cases c with
  | refresh | sleep => cases hc
  | _ => rfl

theorem joinPath_inj {dir name name' : String} (h : joinPath dir name = joinPath dir name') :
    name = name' := by
  rw [joinPath, joinPath] at h
  split at h
  · exact String.append_right_inj _ |>.1 h
  · exact String.append_right_inj _ |>.1 h

theorem isQuiet_account (tls : TlsConfig) (content : String) :
    isQuiet tls (.write (accountPath tls) content) = true := by
  have hcert : accountPath tls ≠ certPath tls := fun h => absurd (joinPath_inj h) (by decide)
  have hkey : accountPath tls ≠ keyPath tls := fun h => absurd (joinPath_inj h) (by decide)
  simp only [isQuiet, touches, hcert, hkey, decide_false, Bool.or_self, Bool.not_false]

theorem touches_of_isQuiet {tls : TlsConfig} {c : OutsideCall} (hc : isQuiet tls c = true) :
    touches tls c = false := by
  cases c with
  | write path content => exact (Bool.not_eq_eq_eq_not ..).mp hc
  | _ => rfl

section

variable {crates : TlsCrates} {cf : CloudflareClient} {config : Config} {tls : TlsConfig}
  {I : CallLog Answer → List String → Prop}

theorem keeps_orFail {α : Type} (context : String) (r : Except String α) :
    Routine.Keeps I (orFail context r) :=
  Routine.keeps_ofResult _

theorem keeps_orElse {α : Type} (message : String) (o : Option α) :
    Routine.Keeps I (orElse message o) := by
  cases o with
  | none => exact Routine.keeps_throw _
  | some a => exact Routine.keeps_pure a

variable (hquiet : ∀ c log s answer, isQuiet tls c = true → I log s → I (log ++ [⟨c, answer⟩]) s)
include hquiet

theorem keeps_quiet {c : OutsideCall} (hc : isQuiet tls c = true) :
    Routine.Keeps I (Routine.call c : Acme (Answer c)) :=
  Routine.keeps_call fun log s answer => hquiet c log s answer hc

theorem keeps_restoreOrCreateAccount : Routine.Keeps I (restoreOrCreateAccount crates tls) := by
  refine (keeps_quiet hquiet rfl).bind fun r => (Routine.keeps_ofResult r).bind fun _ => ?_
  refine (keeps_quiet hquiet rfl).bind fun present => ?_
  split
  · refine (keeps_quiet hquiet rfl).bind fun r => (Routine.keeps_ofResult r).bind fun json => ?_
    refine (Routine.keeps_ofResult _).bind fun credentials => ?_
    refine (keeps_quiet hquiet rfl).bind fun r => (keeps_orFail _ r).bind fun _ => ?_
    exact (keeps_quiet hquiet rfl).bind fun r => keeps_orFail _ r
  · refine (keeps_quiet hquiet rfl).bind fun r => (keeps_orFail _ r).bind fun _ => ?_
    refine (keeps_quiet hquiet rfl).bind fun r => (keeps_orFail _ r).bind fun created => ?_
    refine (Routine.keeps_ofResult _).bind fun json => ?_
    refine (keeps_quiet hquiet (isQuiet_account tls json)).bind fun r => ?_
    refine (Routine.keeps_ofResult r).bind fun _ => (keeps_quiet hquiet rfl).bind fun r => ?_
    exact (Routine.keeps_ofResult r).bind fun _ => Routine.keeps_pure _

theorem keeps_setChallengeReady (url : String) (dns01 : Option String) :
    Routine.Keeps I (setChallengeReady url dns01) := by
  cases dns01 with
  | none => exact Routine.keeps_pure _
  | some _ => exact (keeps_quiet hquiet rfl).bind fun r => keeps_orFail _ r

theorem keeps_setChallengesReady (urls : List String) :
    Routine.Keeps I (setChallengesReady urls) := by
  induction urls with
  | nil => exact Routine.keeps_pure _
  | cons url urls ih =>
      refine (keeps_quiet hquiet rfl).bind fun r => (keeps_orFail _ r).bind fun auth => ?_
      exact (keeps_setChallengeReady hquiet url auth.dns01).bind fun _ => ih

variable (hrefresh : ∀ order log s answer, I log s → I (log ++ [⟨.refresh order, answer⟩]) s)
  (hsleep : ∀ seconds log s answer, I log s → I (log ++ [⟨.sleep seconds, answer⟩]) s)
include hrefresh hsleep

omit hquiet in
theorem keeps_poll (context tooLate : String) (judge : OrderStatus → Verdict) (order : Order)
    (attempts : ℕ) : Routine.Keeps I (poll context tooLate judge order attempts) := by
  induction attempts with
  | zero =>
      rw [poll]
      refine (Routine.keeps_call (hrefresh order)).bind fun r => (keeps_orFail _ r).bind ?_
      intro status
      split
      · exact Routine.keeps_pure _
      · exact Routine.keeps_throw _
      · exact Routine.keeps_throw _
  | succ attempts ih =>
      rw [poll]
      refine (Routine.keeps_call (hrefresh order)).bind fun r => (keeps_orFail _ r).bind ?_
      intro status
      split
      · exact Routine.keeps_pure _
      · exact (Routine.keeps_call (hsleep 5)).bind fun _ => ih
      · exact Routine.keeps_throw _

theorem keeps_finalizeCert (order : Order) (status : OrderStatus) :
    Routine.Keeps I (finalizeCert crates config order status) := by
  refine (keeps_quiet hquiet rfl).bind fun r => (Routine.keeps_ofResult r).bind fun privateKey => ?_
  refine (Routine.keeps_ofResult _).bind fun params => (Routine.keeps_ofResult _).bind fun csr => ?_
  refine Routine.Keeps.bind ?_ fun _ => ?_
  · rw [finalizeOrder]
    split
    · exact Routine.keeps_pure _
    · refine (keeps_quiet hquiet rfl).bind fun r => (keeps_orFail _ r).bind fun _ => ?_
      exact (keeps_poll hrefresh hsleep _ _ _ order 20).bind fun _ => Routine.keeps_pure _
  · refine (keeps_quiet hquiet rfl).bind fun r => (keeps_orFail _ r).bind fun chain => ?_
    exact (keeps_orElse _ chain).bind fun certPem => Routine.keeps_pure _

theorem keeps_orderCert
    (hrecords : ∀ name urls, Routine.Keeps I (createTxtRecords crates cf name urls)) :
    Routine.Keeps I (orderCert crates cf config tls) := by
  refine (keeps_restoreOrCreateAccount hquiet).bind fun account => ?_
  refine (keeps_quiet hquiet rfl).bind fun r => (keeps_orFail _ r).bind fun order => ?_
  refine (hrecords _ _).bind fun _ => (Routine.keeps_call (hsleep 30)).bind fun _ => ?_
  refine (keeps_setChallengesReady hquiet _).bind fun _ => ?_
  exact (keeps_poll hrefresh hsleep _ _ _ order 30).bind fun status => Routine.keeps_pure _

end

/-! ### The TXT records -/

section

variable {crates : TlsCrates} {cf : CloudflareClient} {config : Config} {tls : TlsConfig}

/-- The record that a call created, if it did and its identifier came back. -/
def createdRecord (crates : TlsCrates) (cf : CloudflareClient) :
    (c : OutsideCall) × Answer c → Option String
  | ⟨.post _ _ _, answer⟩ => (cf.recordIdOf crates answer).toOption
  | _ => none

/-- `txt_record_ids` has the records that were created, and none was deleted yet. -/
structure Tracked (crates : TlsCrates) (cf : CloudflareClient) (log : CallLog Answer)
    (txtRecordIds : List String) : Prop where
  created : log.filterMap (createdRecord crates cf) = txtRecordIds
  kept : ∀ x ∈ log, x.1.isDelete = false

theorem Tracked.concat {log : CallLog Answer} {txtRecordIds : List String}
    (h : Tracked crates cf log txtRecordIds) {c : OutsideCall} (answer : Answer c)
    (hc : c.isDelete = false) :
    Tracked crates cf (log ++ [⟨c, answer⟩])
      (txtRecordIds ++ (createdRecord crates cf ⟨c, answer⟩).toList) where
  created := by
    rw [List.filterMap_append, h.created, List.filterMap_cons, List.filterMap_nil]
    cases createdRecord crates cf ⟨c, answer⟩ <;> rfl
  kept := by
    intro x hx
    rcases List.mem_append.1 hx with hx | hx
    · exact h.kept x hx
    · obtain rfl := List.mem_singleton.1 hx
      exact hc

theorem createdRecord_of_other {c : OutsideCall} (answer : Answer c) (hc : c.isApi = false) :
    createdRecord crates cf ⟨c, answer⟩ = none := by
  cases c with
  | post | delete => cases hc
  | _ => rfl

theorem Tracked.other {log : CallLog Answer} {txtRecordIds : List String}
    (h : Tracked crates cf log txtRecordIds) {c : OutsideCall} (answer : Answer c)
    (hc : c.isApi = false) : Tracked crates cf (log ++ [⟨c, answer⟩]) txtRecordIds := by
  have hconcat := h.concat answer (OutsideCall.isDelete_of_other hc)
  rwa [createdRecord_of_other answer hc, Option.toList_none, List.append_nil] at hconcat

theorem keeps_other {c : OutsideCall} (hc : c.isApi = false) :
    Routine.Keeps (Tracked crates cf) (Routine.call c : Acme (Answer c)) :=
  Routine.keeps_call fun _ _ answer h => h.other answer hc

/-- A record that was created is remembered at once. -/
theorem keeps_createTxtRecords (name : String) (urls : List String) :
    Routine.Keeps (Tracked crates cf) (createTxtRecords crates cf name urls) := by
  induction urls with
  | nil => exact Routine.keeps_pure _
  | cons url urls ih =>
      refine (keeps_other rfl).bind fun r => (keeps_orFail _ r).bind fun auth => ?_
      refine (keeps_orElse _ auth.dns01).bind fun txtValue log txtRecordIds h => ?_
      refine Routine.ensures_bind.2 (CloudflareClient.ensures_createTxtRecord.2 fun answer => ?_)
      have hcall : (OutsideCall.post cf.recordsUrl cf.apiToken
          (CloudflareClient.txtRecord name txtValue)).isDelete = false := rfl
      have hconcat := h.concat answer hcall
      cases hanswer : cf.recordIdOf crates answer with
      | error e =>
          rwa [createdRecord, hanswer, Except.toOption, Option.toList_none, List.append_nil]
            at hconcat
      | ok recordId =>
          rw [createdRecord, hanswer, Except.toOption, Option.toList_some] at hconcat
          exact Routine.ensures_bind.2 (ih _ _ hconcat)

/-- **What is in `txt_record_ids` when the work is over** are the records that were created. -/
theorem keeps_provisionWildcardCertInner :
    Routine.Keeps (Tracked crates cf) (provisionWildcardCertInner crates cf config tls) := by
  have hquiet (c : OutsideCall) (log : CallLog Answer) (txtRecordIds : List String)
      (answer : Answer c) (hc : isQuiet tls c = true) (h : Tracked crates cf log txtRecordIds) :
      Tracked crates cf (log ++ [⟨c, answer⟩]) txtRecordIds :=
    h.other answer (isApi_of_isQuiet hc)
  refine (keeps_orderCert hquiet (fun _ _ _ answer h => h.other answer rfl)
    (fun _ _ _ answer h => h.other answer rfl) keeps_createTxtRecords).bind fun order => ?_
  refine (keeps_finalizeCert hquiet (fun _ _ _ answer h => h.other answer rfl)
    (fun _ _ _ answer h => h.other answer rfl) order.1 order.2).bind fun cert => ?_
  refine Routine.Keeps.bind ?_ fun _ => ?_
  · refine (keeps_other rfl).bind fun r => (Routine.keeps_ofResult r).bind fun _ => ?_
    refine (keeps_other rfl).bind fun r => (Routine.keeps_ofResult r).bind fun _ => ?_
    refine (keeps_other rfl).bind fun r => (Routine.keeps_ofResult r).bind fun _ => ?_
    exact (keeps_other rfl).bind fun r => Routine.keeps_ofResult r
  · refine (keeps_other rfl).bind fun r => (Routine.keeps_ofResult r).bind fun certData => ?_
    refine (keeps_other rfl).bind fun r => (Routine.keeps_ofResult r).bind fun keyData => ?_
    exact Routine.keeps_ofResult _

/-- The work creates records and deletes none; behind it stands one request for every record
that was created, in the order of their creation. -/
def RecordsDeleted (crates : TlsCrates) (cf : CloudflareClient) (log : CallLog Answer) : Prop :=
  ∃ work cleanup, log = work ++ cleanup ∧ (∀ x ∈ work, x.1.isDelete = false) ∧
    cleanup.map Sigma.fst = (work.filterMap (createdRecord crates cf)).map fun recordId =>
      .delete (cf.recordUrl recordId) cf.apiToken

/-- Behind the work, `delete_records` is called with what it left in `txt_record_ids`; the
result is that of the work. -/
theorem ensures_cleanup {P : CallLog Answer → List String → Except String RustlsConfig → Prop}
    (h : (provisionWildcardCertInner crates (.new config.cloudflare.apiToken
      config.cloudflare.zoneId) config tls).Ensures [] [] P) (txtRecordIds : List String) :
    (provisionWildcardCert crates config tls).Ensures [] txtRecordIds fun log _ r =>
      ∃ work cleanup created result, log = work ++ cleanup ∧ P work created result ∧
        (cleanup.map Sigma.fst = created.map fun recordId =>
          .delete ((CloudflareClient.new config.cloudflare.apiToken
            config.cloudflare.zoneId).recordUrl recordId) config.cloudflare.apiToken) ∧
        ∀ tlsConfig, r = .ok tlsConfig ↔ result = .ok tlsConfig := by
  refine Routine.ensures_bind.2 ((Routine.ensures_set _).2 ?_)
  refine Routine.ensures_bind.2 (Routine.ensures_outcome.2 ?_)
  refine h.mono fun work created result hwork => ?_
  refine Routine.ensures_bind.2 (Routine.ensures_get.2 ?_)
  refine Routine.ensures_bind.2 (Routine.ensures_outcome.2 ?_)
  refine (CloudflareClient.ensures_deleteRecords created).mono fun log _ cleanupResult h' => ?_
  obtain ⟨cleanup, rfl, hcalls⟩ := h'
  cases result with
  | ok tlsConfig => exact ⟨work, cleanup, created, _, rfl, hwork, hcalls, fun _ => Iff.rfl⟩
  | error primaryError =>
      have hfailed (e : String) (tlsConfig : RustlsConfig) :
          (Except.error e : Except String RustlsConfig) = .ok tlsConfig ↔
            (Except.error primaryError : Except String RustlsConfig) = .ok tlsConfig :=
        iff_of_false (by rintro ⟨⟩) (by rintro ⟨⟩)
      cases cleanupResult with
      | ok _ => exact ⟨work, cleanup, created, _, rfl, hwork, hcalls, hfailed _⟩
      | error cleanupError => exact ⟨work, cleanup, created, _, rfl, hwork, hcalls, hfailed _⟩

theorem ensures_provisionWildcardCert (txtRecordIds : List String) :
    (provisionWildcardCert crates config tls).Ensures [] txtRecordIds fun log _ _ =>
      RecordsDeleted crates (.new config.cloudflare.apiToken config.cloudflare.zoneId) log := by
  have hwork : (provisionWildcardCertInner crates
      (.new config.cloudflare.apiToken config.cloudflare.zoneId) config tls).Ensures [] [] _ :=
    keeps_provisionWildcardCertInner [] [] ⟨rfl, List.forall_mem_nil _⟩
  refine (ensures_cleanup hwork txtRecordIds).mono fun log _ r h => ?_
  obtain ⟨work, cleanup, created, result, rfl, htracked, hcalls, -⟩ := h
  exact ⟨work, cleanup, rfl, htracked.kept, by rw [htracked.created, hcalls]; rfl⟩

end

/-! ### Polling -/

section

variable {crates : TlsCrates} {cf : CloudflareClient} {config : Config} {tls : TlsConfig}
  {J : CallLog Answer → Prop}
  (hother : ∀ c log answer, isPoll c = false → J log → J (log ++ [⟨c, answer⟩]))

include hother

theorem keeps_unpolled {c : OutsideCall} (hc : isPoll c = false) :
    Routine.Keeps (fun log _ => J log) (Routine.call c : Acme (Answer c)) :=
  Routine.keeps_call fun log _ answer => hother c log answer hc

omit hother in
theorem keeps_records
    (hauth : ∀ url log answer, J log → J (log ++ [⟨.authorization url, answer⟩]))
    (hpost : ∀ url bearer body log answer, J log → J (log ++ [⟨.post url bearer body, answer⟩]))
    (name : String) (urls : List String) :
    Routine.Keeps (fun log _ => J log) (createTxtRecords crates cf name urls) := by
  induction urls with
  | nil => exact Routine.keeps_pure _
  | cons url urls ih =>
      have hask : Routine.Keeps (fun log _ => J log)
          (Routine.call (OutsideCall.authorization url) : Acme (Except String Authorization)) :=
        Routine.keeps_call fun log _ answer => hauth url log answer
      refine hask.bind fun r => (keeps_orFail _ r).bind fun auth => ?_
      refine (keeps_orElse _ auth.dns01).bind fun txtValue => ?_
      refine Routine.Keeps.bind ?_ fun recordId => ?_
      · refine Routine.Keeps.bind ?_ fun answer => Routine.keeps_ofResult _
        exact Routine.keeps_call fun log _ answer => hpost _ _ _ log answer
      · have hkeeps := Routine.keeps_modify (I := fun log _ => J log) (ε := String)
          (g := fun txtRecordIds => txtRecordIds ++ [recordId]) fun _ _ h => h
        exact hkeeps.bind fun _ => ih

theorem keeps_deleteRecords (recordIds : List String) :
    Routine.Keeps (fun log _ => J log) (cf.deleteRecords crates recordIds : Acme Unit) := by
  have hrecord (recordId : String) :
      Routine.Keeps (fun log _ => J log) (cf.deleteRecord crates recordId : Acme Unit) := by
    refine (keeps_unpolled hother rfl).bind fun r => (Routine.keeps_ofResult r).bind ?_
    exact fun response => (Routine.keeps_ofResult _).bind fun _ => Routine.keeps_pure _
  have heach (failures : List String) :
      Routine.Keeps (fun log _ => J log)
        (cf.deleteEach crates failures recordIds : Acme (List String)) := by
    induction recordIds generalizing failures with
    | nil => exact Routine.keeps_pure _
    | cons recordId recordIds ih =>
        refine (hrecord recordId).outcome.bind fun r => ?_
        cases r with
        | ok _ => exact ih _
        | error e => exact ih _
  refine (heach []).bind fun failures => ?_
  split
  · exact Routine.keeps_pure _
  · exact Routine.keeps_throw _

end

section

variable {crates : TlsCrates} {cf : CloudflareClient} {config : Config} {tls : TlsConfig}
  {price : OutsideCall → ℕ} {refresh second : ℕ} (hother : ∀ c, isPoll c = false → price c = 0)
  (hrefresh : ∀ order, price (.refresh order) = refresh)
  (hsleep : ∀ seconds, price (.sleep seconds) = seconds * second)

include hrefresh hsleep in
theorem spends_poll (context tooLate : String) (judge : OrderStatus → Verdict) (order : Order)
    (attempts : ℕ) : Routine.Spends price ((attempts + 1) * refresh + attempts * 5 * second)
      (poll context tooLate judge order attempts) := by
  induction attempts with
  | zero =>
      rw [poll]
      refine Routine.Spends.last ((Routine.spends_call _).mono ?_) fun r => ?_
      · rw [hrefresh]
        omega
      refine (Routine.spends_ofResult _).free fun status => ?_
      split
      · exact Routine.spends_pure _
      · exact Routine.spends_throw _
      · exact Routine.spends_throw _
  | succ attempts ih =>
      have hsum : refresh + (5 * second + ((attempts + 1) * refresh + attempts * 5 * second)) =
          (attempts + 1 + 1) * refresh + (attempts + 1) * 5 * second := by
        ring
      rw [poll, ← hsum]
      refine ((Routine.spends_call _).mono (hrefresh order).le).bind fun r => ?_
      refine (Routine.spends_ofResult _).free fun status => ?_
      split
      · exact (Routine.spends_pure _).mono (Nat.zero_le _)
      · exact ((Routine.spends_call _).mono (hsleep 5).le).bind fun _ => ih
      · exact (Routine.spends_throw _).mono (Nat.zero_le _)

include hother in
theorem spends_other {α : Type} {t : Acme α}
    (h : ∀ J : CallLog Answer → Prop,
      (∀ c log answer, isPoll c = false → J log → J (log ++ [⟨c, answer⟩])) →
        Routine.Keeps (fun log _ => J log) t) : Routine.Spends price 0 t := by
  refine Routine.Spends.of_keeps fun k => h _ fun c log answer hc hle => ?_
  rw [Routine.cost_concat, hother c hc]
  exact hle

include hother in
theorem spends_unpolled {c : OutsideCall} (hc : isPoll c = false) :
    Routine.Spends price 0 (Routine.call c : Acme (Answer c)) :=
  (Routine.spends_call c).mono (hother c hc).le

theorem spends_orElse {α : Type} (message : String) (o : Option α) :
    Routine.Spends price 0 (orElse message o) := by
  cases o with
  | none => exact Routine.spends_throw _
  | some a => exact Routine.spends_pure a

include hother hrefresh hsleep

theorem spends_orderCert :
    Routine.Spends price (31 * refresh + 180 * second) (orderCert crates cf config tls) := by
  have haccount : Routine.Spends price 0 (restoreOrCreateAccount crates tls) :=
    spends_other hother fun J hJ => keeps_restoreOrCreateAccount (fun c log _ answer hc hlog =>
      hJ c log answer (isPoll_of_isQuiet hc) hlog)
  have hrecords (name : String) (urls : List String) :
      Routine.Spends price 0 (createTxtRecords crates cf name urls) :=
    spends_other hother fun J hJ => keeps_records (fun _ log answer => hJ _ log answer rfl)
      (fun _ _ _ log answer => hJ _ log answer rfl) name urls
  have hready (urls : List String) : Routine.Spends price 0 (setChallengesReady urls) := by
    refine spends_other hother fun J hJ => ?_
    have hquiet (c : OutsideCall) (log : CallLog Answer) (_ : List String) (answer : Answer c)
        (hc : isQuiet tls c = true) (hlog : J log) : J (log ++ [⟨c, answer⟩]) :=
      hJ c log answer (isPoll_of_isQuiet hc) hlog
    exact keeps_setChallengesReady hquiet urls
  have hsum : 30 * second + (31 * refresh + 150 * second) = 31 * refresh + 180 * second := by
    ring
  refine haccount.free fun account => (spends_unpolled hother rfl).free fun r => ?_
  refine (Routine.spends_ofResult _).free fun order => (hrecords _ _).free fun _ => ?_
  rw [← hsum]
  refine ((Routine.spends_call _).mono (hsleep 30).le).bind fun _ => (hready _).free fun _ => ?_
  exact (spends_poll hrefresh hsleep _ _ _ order 30).last fun _ => Routine.spends_pure _

theorem spends_finalizeCert (order : Order) (status : OrderStatus) :
    Routine.Spends price (21 * refresh + 100 * second)
      (finalizeCert crates config order status) := by
  have hfinalize (csr : List UInt8) : Routine.Spends price (21 * refresh + 100 * second)
      (finalizeOrder order csr status) := by
    rw [finalizeOrder]
    split
    · exact (Routine.spends_pure _).mono (Nat.zero_le _)
    · refine (spends_unpolled hother rfl).free fun r => (Routine.spends_ofResult _).free fun _ => ?_
      exact (spends_poll hrefresh hsleep _ _ _ order 20).last fun _ => Routine.spends_pure _
  refine (spends_unpolled hother rfl).free fun r => (Routine.spends_ofResult r).free ?_
  refine fun privateKey => (Routine.spends_ofResult _).free fun params => ?_
  refine (Routine.spends_ofResult _).free fun csr => (hfinalize csr).last fun _ => ?_
  refine (spends_unpolled hother rfl).free fun r => (Routine.spends_ofResult _).free fun chain => ?_
  exact (spends_orElse _ chain).free fun certPem => Routine.spends_pure _

theorem spends_provisionWildcardCert :
    Routine.Spends price (52 * refresh + 280 * second)
      (provisionWildcardCert crates config tls) := by
  have hsave (certPem keyPem : String) : Routine.Spends price 0 (saveCert tls certPem keyPem) := by
    refine (spends_unpolled hother rfl).free fun r => (Routine.spends_ofResult r).free fun _ => ?_
    refine (spends_unpolled hother rfl).free fun r => (Routine.spends_ofResult r).free fun _ => ?_
    refine (spends_unpolled hother rfl).free fun r => (Routine.spends_ofResult r).free fun _ => ?_
    exact (spends_unpolled hother rfl).free fun r => Routine.spends_ofResult r
  have hload : Routine.Spends price 0 (loadFromFiles crates (certPath tls) (keyPath tls)) := by
    refine (spends_unpolled hother rfl).free fun r => (Routine.spends_ofResult r).free ?_
    refine fun certData => (spends_unpolled hother rfl).free fun r => ?_
    exact (Routine.spends_ofResult r).free fun keyData => Routine.spends_ofResult _
  have hsum : 31 * refresh + 180 * second + (21 * refresh + 100 * second) =
      52 * refresh + 280 * second := by
    ring
  refine Routine.Spends.free (t := (set ([] : List String) : Acme PUnit)) (fun _ _ => le_rfl)
    fun _ => Routine.Spends.last (Routine.Spends.outcome ?_) fun result => ?_
  · rw [← hsum]
    refine (spends_orderCert hother hrefresh hsleep).bind fun order => ?_
    refine (spends_finalizeCert hother hrefresh hsleep order.1 order.2).last fun cert => ?_
    exact (hsave cert.1 cert.2.pem).free fun _ => hload
  · refine Routine.Spends.free (t := (get : Acme (List String))) (fun _ _ => le_rfl)
      fun txtRecordIds => Routine.Spends.free (Routine.Spends.outcome ?_) fun cleanupResult => ?_
    · exact spends_other hother fun J hJ => keeps_deleteRecords hJ txtRecordIds
    · cases result with
      | ok tlsConfig => exact Routine.spends_pure _
      | error primaryError =>
          cases cleanupResult with
          | ok _ => exact Routine.spends_throw _
          | error cleanupError => exact Routine.spends_throw _

end

/-! ### Every provisioning -/

/-- `refresh` calls. -/
def polls : OutsideCall → ℕ
  | .refresh _ => 1
  | _ => 0

/-- The seconds a call sleeps. -/
def seconds : OutsideCall → ℕ
  | .sleep n => n
  | _ => 0

end Acme

end Rgrok
