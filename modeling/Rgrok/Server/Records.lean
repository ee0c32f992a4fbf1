/-
# DNS records and cleanup lists

Who answers for a session also answers for its DNS record: the record ids
obtained and not yet passed on for deletion are exactly those of the sessions
that are being set up, published or taken down (`RecordInv`).  Every published
session is on the cleanup list of a connection (`CoverInv`), and `tcp_reservations_retained` counts the release tasks that
have not finished (`CountInv`).
-/

import Mathlib.Data.Finset.Card
import Mathlib.Data.Sum.Basic
import Rgrok.Server.Holdings

namespace Rgrok

/-- The DNS record a task answers for. -/
def Duty.record (d : Duty) : Option (ℕ × String) :=
  d.charge.bind fun charge => charge.recordId.map fun id => (charge.arc, id)

/-- The DNS record of a published session. -/
def Slot.record : Option Slot → Option (ℕ × String)
  | some (.live session) => session.dnsRecordId.map fun id => (session.arc, id)
  | _ => none

namespace View

variable {v v' : View} {t : Task} {who : Option ℕ} {d : Duty} {key : ReservationKey}
  {session : TunnelSession}

/-! ### DNS records -/

/-- Which task or slot has which DNS record. -/
def record (v : View) : Task ⊕ ReservationKey → Option (ℕ × String) :=
  Sum.elim (Duty.record ∘ v.duty) (Slot.record ∘ v.slot)

/-- The records that were created and not deleted are in one pair of hands each. -/
structure RecordInv (v : View) : Prop where
  filed : Custody {x | x ∈ v.dnsCreated ∧ x ∉ v.dnsDeleted} v.record
  gone : ∀ x ∈ v.dnsDeleted, v.passage.Over x.1
  deleted_subset : v.dnsDeleted ⊆ v.dnsCreated
  created_nodup : v.dnsCreated.Nodup
  deleted_nodup : v.dnsDeleted.Nodup
  enabled : ∀ x ∈ v.dnsCreated, v.dnsEnabled = true

theorem record_update_of_eq {duty : Task → Duty} (h : d.record = (duty t).record) :
    Duty.record ∘ Function.update duty t d = Duty.record ∘ duty := by
  rw [Function.comp_update, h]
  exact Function.update_eq_self t (Duty.record ∘ duty)

theorem slot_record_update_of_eq {slot : ReservationKey → Option Slot} {o : Option Slot}
    (h : Slot.record o = Slot.record (slot key)) :
    Slot.record ∘ Function.update slot key o = Slot.record ∘ slot := by
  rw [Function.comp_update, h]
  exact Function.update_eq_self key (Slot.record ∘ slot)

theorem standing_of_record {x : ℕ × String} (h : d.record = some x) :
    ∃ stage, d.standing = some (x.1, stage) := by
  unfold Duty.record at h
  unfold Duty.standing
  cases hc : d.charge with
  | none => simp [hc] at h
  | some charge =>
      rw [hc, Option.bind_some, Option.map_eq_some_iff] at h
      obtain ⟨id, -, rfl⟩ := h
      exact ⟨charge.stage, rfl⟩

theorem liveArc_of_record {slot : Option Slot} {x : ℕ × String} (h : Slot.record slot = some x) :
    Slot.liveArc slot = some x.1 := by
  cases slot with
  | none => cases h
  | some slot =>
      cases slot with
      | reserved r => cases h
      | live session =>
          obtain ⟨id, -, rfl⟩ := Option.map_eq_some_iff.1 h
          rfl

namespace RecordInv

/-- The records stay where they are. -/
theorem keep (h : v.RecordInv) (m : v.passage.Step v'.passage)
    (hduty : Duty.record ∘ v'.duty = Duty.record ∘ v.duty)
    (hslot : Slot.record ∘ v'.slot = Slot.record ∘ v.slot) (hc : v'.dnsCreated = v.dnsCreated)
    (hd : v'.dnsDeleted = v.dnsDeleted) (he : v'.dnsEnabled = v.dnsEnabled) : v'.RecordInv where
  filed := by rw [hc, hd, record, hduty, hslot]; exact h.filed
  gone := by rw [hd]; exact fun x hx => (h.gone x hx).step m
  deleted_subset := by rw [hc, hd]; exact h.deleted_subset
  created_nodup := by rw [hc]; exact h.created_nodup
  deleted_nodup := by rw [hd]; exact h.deleted_nodup
  enabled := by rw [hc, he]; exact h.enabled

/-- The records move between hands. -/
theorem handOver (h : v.RecordInv) (m : v.passage.Step v'.passage)
    (hrecord : Custody {x | x ∈ v.dnsCreated ∧ x ∉ v.dnsDeleted} v'.record)
    (hc : v'.dnsCreated = v.dnsCreated) (hd : v'.dnsDeleted = v.dnsDeleted)
    (he : v'.dnsEnabled = v.dnsEnabled) : v'.RecordInv where
  filed := by rw [hc, hd]; exact hrecord
  gone := by rw [hd]; exact fun x hx => (h.gone x hx).step m
  deleted_subset := by rw [hc, hd]; exact h.deleted_subset
  created_nodup := by rw [hc]; exact h.created_nodup
  deleted_nodup := by rw [hd]; exact h.deleted_nodup
  enabled := by rw [hc, he]; exact h.enabled

/-- A record of the session a task answers for was created and not deleted. -/
theorem mem_of_task (h : v.RecordInv) {x : ℕ × String} (hd : (v.duty t).record = some x) :
    x ∈ v.dnsCreated ∧ x ∉ v.dnsDeleted :=
  h.filed.mem (p := Sum.inl t) hd

/-- A session without a record yet never had one. -/
theorem not_created (h : v.RecordInv) (ha : v.ArcInv) {arc : ℕ} {stage : Stage} (id : String)
    (hs : (v.duty t).standing = some (arc, stage)) (hd : (v.duty t).record = none) :
    (arc, id) ∉ v.dnsCreated := by
  intro hx
  by_cases hdel : (arc, id) ∈ v.dnsDeleted
  · exact (h.gone _ hdel).hand_ne t stage hs
  · obtain ⟨p, hp⟩ := (h.filed.mem_iff _).1 ⟨hx, hdel⟩
    cases p with
    | inl t' =>
        obtain ⟨stage', hs'⟩ := standing_of_record hp
        obtain rfl := ha.task_unique hs hs'
        exact Option.some_ne_none _ (hp.symm.trans hd)
    | inr key => exact Passage.Inv.hand_ne ha (a := key) (liveArc_of_record hp) t stage hs

end RecordInv

/-- **Every move accounts for every DNS record.** -/
theorem RecordInv.move (h : v.RecordInv) (hs : v.StartInv) (ha : v.ArcInv)
    (hslot : ∀ key r, (v.duty t).hold = some (key, r) → v.slot key = some (.reserved r))
    (m : v.Move t who v') : v'.RecordInv := by
  have hstep := m.passage_step ha hs hslot
  cases m with
  | stay => exact h
  | pass remaining _ => exact h.keep hstep rfl rfl rfl rfl rfl
  | start hd _ => exact h.keep hstep (record_update_of_eq (by rw [hd]; rfl)) rfl rfl rfl rfl
  | reserve key r hd hfree =>
      exact h.keep hstep (record_update_of_eq (by rw [hd]; rfl))
        (slot_record_update_of_eq (by rw [hfree]; rfl)) rfl rfl rfl
  | createDns hold id hd henabled =>
      have hrecord : (v.duty t).record = none := by rw [hd]; rfl
      have hnew : (hold.2.arc, id) ∉ v.dnsCreated :=
        h.not_created ha id (by rw [hd]; rfl) hrecord
      have hdel : (hold.2.arc, id) ∉ v.dnsDeleted := fun hx => hnew (h.deleted_subset hx)
      refine ⟨?_, fun x hx => (h.gone x hx).step hstep, List.subset_cons_of_subset _
        h.deleted_subset, List.nodup_cons.2 ⟨hnew, h.created_nodup⟩, h.deleted_nodup,
        fun _ _ => henabled⟩
      have hacq := h.filed.acquire (p := Sum.inl t) (x := (hold.2.arc, id))
        (T := {x | x ∈ (hold.2.arc, id) :: v.dnsCreated ∧ x ∉ v.dnsDeleted})
        (fun hx => hnew hx.1) hrecord fun y => ?_
      · rw [record, Sum.update_elim_inl] at hacq
        rw [record, Function.comp_update]
        exact hacq
      · simp only [Set.mem_ofPred_eq, List.mem_cons]
        constructor
        · rintro ⟨rfl | hy, hyd⟩
          · exact Or.inl rfl
          · exact Or.inr ⟨hy, hyd⟩
        · rintro (rfl | ⟨hy, hyd⟩)
          · exact ⟨Or.inl rfl, hdel⟩
          · exact ⟨Or.inr hy, hyd⟩
  | newSession _ _ _ => exact h.keep hstep rfl rfl rfl rfl rfl
  | publish subdomain session remaining hd _ _ _ =>
      have hres := hslot _ _ (by rw [hd]; rfl)
      refine h.handOver hstep ?_ rfl rfl rfl
      have hpass := h.filed.pass (.inl t) (q := .inr (.http subdomain))
        (by rw [record, Sum.elim_inr, Function.comp_apply, hres]; rfl)
      rw [record, Sum.update_elim_inl, Sum.update_elim_inr, Sum.elim_inl, Function.comp_apply,
        hd] at hpass
      rw [record, Function.comp_update, Function.comp_update]
      exact hpass
  | bind port r rec hd =>
      exact h.keep hstep (record_update_of_eq (by rw [hd]; rfl)) rfl rfl rfl rfl
  | unbind port r rec hd =>
      exact h.keep hstep (record_update_of_eq (by rw [hd]; rfl)) rfl rfl rfl rfl
  | publishTcp port session remaining hd _ _ _ =>
      have hres := hslot _ _ (by rw [hd]; rfl)
      have hl : v.duty (.listener session.arc) = .idle :=
        hs.listener_idle (ha.setup (t := t) (by rw [hd]; rfl)).2
      have hne : Task.listener session.arc ≠ t := by
        rintro rfl
        rw [hl] at hd
        exact absurd (congrArg Duty.socket hd) (by simp [Duty.idle])
      refine h.handOver hstep ?_ rfl rfl rfl
      have hpass := h.filed.pass (.inl t) (q := .inr (.tcp port))
        (by rw [record, Sum.elim_inr, Function.comp_apply, hres]; rfl)
      rw [record, Sum.update_elim_inl, Sum.update_elim_inr, Sum.elim_inl, Function.comp_apply,
        hd] at hpass
      rw [record, record_update_of_eq, Function.comp_update, Function.comp_update]
      · exact hpass
      · rw [Function.update_of_ne hne, hl]
        rfl
  | releaseSetup hold rec d hd hd' _ =>
      have hres := hslot hold.1 hold.2 (by rw [hd]; rfl)
      refine h.keep hstep (record_update_of_eq ?_) (slot_record_update_of_eq (by rw [hres]; rfl))
        rfl rfl rfl
      rcases hd' with rfl | ⟨rfl, rfl⟩ <;> rw [hd] <;> rfl
  | settle charge hd =>
      cases hid : charge.recordId with
      | none =>
          rw [hid] at hstep
          exact h.keep hstep (record_update_of_eq (by rw [hd, Duty.ofCharge, Duty.record]
                                                      simp [hid, Duty.record, Duty.idle]))
            rfl rfl rfl rfl
      | some id =>
          have hrecord : (v.duty t).record = some (charge.arc, id) := by
            rw [hd, Duty.ofCharge, Duty.record]
            simp [hid]
          have hmem := h.mem_of_task hrecord
          have hrel := h.filed.release (p := Sum.inl t) (x := (charge.arc, id))
            (T := {x | x ∈ v.dnsCreated ∧ x ∉ (charge.arc, id) :: v.dnsDeleted}) hrecord fun y => by
              simp only [Set.mem_ofPred_eq, List.mem_cons, not_or]
              tauto
          rw [record, Sum.update_elim_inl] at hrel
          refine ⟨?_, ?_, ?_, h.created_nodup, List.nodup_cons.2 ⟨hmem.2, h.deleted_nodup⟩,
            h.enabled⟩
          · rw [record, Function.comp_update]
            exact hrel
          · intro x hx
            rcases List.mem_cons.1 hx with rfl | hx
            · have hhand : v.passage.hand t = some (charge.arc, charge.stage) := by
                rw [passage_hand, hd]
                rfl
              have hover := Passage.Over.of_drop ha hhand
              exact ⟨hover.lt_next, fun q stage hq => hover.hand_ne q stage
                ((congrFun (Function.comp_update Duty.standing v.duty t .idle) q).symm.trans hq),
                hover.place_ne⟩
            · exact (h.gone x hx).step hstep
          · intro x hx
            rcases List.mem_cons.1 hx with rfl | hx
            · exact hmem.1
            · exact h.deleted_subset hx
  | removeHttp subdomain removed remaining hlive hd _ _ _ =>
      refine h.handOver hstep ?_ rfl rfl rfl
      have hpass := h.filed.pass (.inr (.http subdomain)) (q := .inl t)
        (by rw [record, Sum.elim_inl, Function.comp_apply, hd]; rfl)
      rw [record, Sum.update_elim_inr, Sum.update_elim_inl, Sum.elim_inr, Function.comp_apply,
        hlive] at hpass
      rw [record, Function.comp_update, Function.comp_update]
      exact hpass
  | removeTcp port removed news remaining hlive hd _ _ _ =>
      refine h.handOver hstep ?_ rfl rfl rfl
      have hpass := h.filed.pass (.inr (.tcp port)) (q := .inl t)
        (by rw [record, Sum.elim_inl, Function.comp_apply]
            rcases hd with ⟨hd, -⟩ | ⟨hd, -⟩ <;> rw [hd] <;> rfl)
      rw [record, Sum.update_elim_inr, Sum.update_elim_inl, Sum.elim_inr, Function.comp_apply,
        hlive] at hpass
      rw [record, Function.comp_update, Function.comp_update]
      exact hpass
  | take port removed hd =>
      exact h.keep hstep (record_update_of_eq (by rw [hd]; rfl)) rfl rfl rfl rfl
  | learn port removed hd _ =>
      exact h.keep hstep (record_update_of_eq (by rw [hd]; rfl)) rfl rfl rfl rfl
  | retain port removed hd =>
      have hne : Task.release v.nextRelease ≠ t := by
        rintro rfl
        rw [hs.release_idle] at hd
        exact absurd (congrArg Duty.hold hd) (by simp [Duty.idle, Duty.ofRemoved])
      refine h.keep hstep ?_ rfl rfl rfl rfl
      rw [record_update_of_eq, record_update_of_eq]
      · rw [hd]
        rfl
      · rw [Function.update_of_ne hne, hs.release_idle]
        rfl
  | releaseRemoved port removed hd _ =>
      have hres := hslot _ _ (by rw [hd]; rfl)
      exact h.keep hstep (record_update_of_eq (by rw [hd]; rfl))
        (slot_record_update_of_eq (by rw [hres]; rfl)) rfl rfl rfl
  | releaseRetained port r hd _ _ =>
      have hres := hslot _ _ (by rw [hd])
      exact h.keep hstep (record_update_of_eq (by rw [hd]; rfl))
        (slot_record_update_of_eq (by rw [hres]; rfl)) rfl rfl rfl
  | uncount hd => exact h.keep hstep (record_update_of_eq (by rw [hd]; rfl)) rfl rfl rfl rfl
  | stopListening port arc hd =>
      exact h.keep hstep (record_update_of_eq (by rw [hd]; rfl)) rfl rfl rfl rfl
  | signal arc hd => exact h.keep hstep (record_update_of_eq (by rw [hd]; rfl)) rfl rfl rfl rfl
  | forget arc hd => exact h.keep hstep (record_update_of_eq (by rw [hd]; rfl)) rfl rfl rfl rfl

/-! ### Cleanup lists -/

/-- Every published session is on the cleanup list of some connection. -/
def CoverInv (v : View) : Prop :=
  ∀ key session, v.slot key = some (.live session) → ∃ c, (key, session.arc) ∈ v.remaining c

theorem CoverInv.move (h : v.CoverInv) (m : v.Move t who v') : v'.CoverInv := by
  -- a slot that is not live afterwards has nothing to cover
  have freed : ∀ {key' : ReservationKey} {o : Option Slot},
      (∀ session, o ≠ some (.live session)) → ∀ key session,
        Function.update v.slot key' o key = some (.live session) →
          key ≠ key' ∧ v.slot key = some (.live session) := by
    intro key' o ho key session hlive
    rcases update_eq_some.1 hlive with ⟨-, hlive⟩ | hlive
    · exact absurd hlive (ho session)
    · exact hlive
  cases m with
  | pass remaining' hrem =>
      intro key session hlive
      obtain ⟨c, hmem⟩ := h key session hlive
      rcases hrem c _ hmem with hmem | hne
      · exact ⟨c, hmem⟩
      · exact absurd rfl (hne session hlive)
  | publish subdomain session' remaining _ hrem hmem _ =>
      intro key session hlive
      rcases update_eq_some.1 hlive with ⟨rfl, hnew⟩ | ⟨-, hold⟩
      · cases hnew
        exact hmem
      · exact (h key session hold).imp fun c hmem => hrem c _ hmem
  | publishTcp port session' remaining _ hrem hmem _ =>
      intro key session hlive
      rcases update_eq_some.1 hlive with ⟨rfl, hnew⟩ | ⟨-, hold⟩
      · cases hnew
        exact hmem
      · exact (h key session hold).imp fun c hmem => hrem c _ hmem
  | removeHttp subdomain removed remaining _ _ _ hrem _ =>
      intro key session hlive
      obtain ⟨hne, hlive⟩ := freed (by simp) key session hlive
      exact (h key session hlive).imp fun c hmem => (hrem c _ hmem).resolve_right hne
  | removeTcp port removed news remaining _ _ _ hrem _ =>
      intro key session hlive
      obtain ⟨hne, hlive⟩ := freed (by simp) key session hlive
      exact (h key session hlive).imp fun c hmem => (hrem c _ hmem).resolve_right hne
  | reserve _ _ _ _ => exact fun key session hlive => h key session (freed (by simp) _ _ hlive).2
  | releaseSetup _ _ _ _ _ _ =>
      exact fun key session hlive => h key session (freed (by simp) _ _ hlive).2
  | releaseRemoved _ _ _ _ =>
      exact fun key session hlive => h key session (freed (by simp) _ _ hlive).2
  | releaseRetained _ _ _ _ _ =>
      exact fun key session hlive => h key session (freed (by simp) _ _ hlive).2
  | stay | start | createDns | newSession | bind | unbind | settle | take | learn | retain
  | uncount | stopListening | signal | forget => exact h

/-! ### Retained reservations -/

/-- `tcp_reservations_retained` counts the tasks that will take it down again. -/
def CountInv (v : View) : Prop :=
  ∃ s : Finset Task, (∀ t, t ∈ s ↔ (v.duty t).counted = true) ∧ v.retained = s.card

theorem counted_update_of_eq {duty : Task → Duty} (h : d.counted = (duty t).counted) :
    Duty.counted ∘ Function.update duty t d = Duty.counted ∘ duty := by
  rw [Function.comp_update, h]
  exact Function.update_eq_self t (Duty.counted ∘ duty)

theorem CountInv.keep (h : v.CountInv) (hduty : Duty.counted ∘ v'.duty = Duty.counted ∘ v.duty)
    (hr : v'.retained = v.retained) : v'.CountInv := by
  obtain ⟨s, hs, hcard⟩ := h
  refine ⟨s, fun t => (hs t).trans ?_, hr.trans hcard⟩
  rw [← show (v'.duty t).counted = (v.duty t).counted from congrFun hduty t]

theorem CountInv.move (h : v.CountInv) (hs : v.StartInv) (ha : v.ArcInv) (m : v.Move t who v') :
    v'.CountInv := by
  cases m with
  | stay => exact h
  | pass remaining _ => exact h
  | start hd _ => exact h.keep (counted_update_of_eq (by rw [hd]; rfl)) rfl
  | reserve key r hd _ => exact h.keep (counted_update_of_eq (by rw [hd]; rfl)) rfl
  | createDns hold id hd _ => exact h.keep (counted_update_of_eq (by rw [hd]; rfl)) rfl
  | newSession _ _ _ => exact h
  | publish subdomain session remaining hd _ _ _ =>
      exact h.keep (counted_update_of_eq (by rw [hd]; rfl)) rfl
  | bind port r rec hd => exact h.keep (counted_update_of_eq (by rw [hd])) rfl
  | unbind port r rec hd => exact h.keep (counted_update_of_eq (by rw [hd])) rfl
  | publishTcp port session remaining hd _ _ _ =>
      have hl : v.duty (.listener session.arc) = .idle :=
        hs.listener_idle (ha.setup (t := t) (by rw [hd]; rfl)).2
      have hne : Task.listener session.arc ≠ t := by
        rintro rfl
        rw [hl] at hd
        exact absurd (congrArg Duty.socket hd) (by simp [Duty.idle])
      refine h.keep ?_ rfl
      rw [counted_update_of_eq, counted_update_of_eq]
      · rw [hd]
        rfl
      · rw [Function.update_of_ne hne, hl]
  | releaseSetup hold rec d hd hd' _ =>
      refine h.keep (counted_update_of_eq ?_) rfl
      rcases hd' with rfl | ⟨rfl, -⟩ <;> rw [hd] <;> rfl
  | settle charge hd => exact h.keep (counted_update_of_eq (by rw [hd]; rfl)) rfl
  | removeHttp subdomain removed remaining _ hd _ _ _ =>
      exact h.keep (counted_update_of_eq (by rw [hd]; rfl)) rfl
  | removeTcp port removed news remaining _ hd _ _ _ =>
      refine h.keep (counted_update_of_eq ?_) rfl
      rcases hd with ⟨hd, -⟩ | ⟨hd, -⟩ <;> rw [hd] <;> rfl
  | take port removed hd => exact h.keep (counted_update_of_eq (by rw [hd]; rfl)) rfl
  | learn port removed hd _ => exact h.keep (counted_update_of_eq (by rw [hd]; rfl)) rfl
  | retain port removed hd =>
      obtain ⟨s, hmem, hcard⟩ := h
      have hnew : Task.release v.nextRelease ∉ s := by
        rw [hmem, hs.release_idle]
        simp [Duty.idle]
      refine ⟨insert (.release v.nextRelease) s, fun t' => ?_, ?_⟩
      · rw [Finset.mem_insert]
        by_cases he : t' = .release v.nextRelease
        · simp [he]
        · have hcounted : (Function.update v.duty t (.ofCharge (removed.charge .closing)) t').counted =
              (v.duty t').counted :=
            congrFun (counted_update_of_eq (by rw [hd]; rfl)) t'
          simp [he, hmem, hcounted]
      · rw [Finset.card_insert_of_notMem hnew, Nat.cast_succ, ← hcard]
  | releaseRemoved port removed hd _ => exact h.keep (counted_update_of_eq (by rw [hd]; rfl)) rfl
  | releaseRetained port r hd _ _ => exact h.keep (counted_update_of_eq (by rw [hd])) rfl
  | uncount hd =>
      obtain ⟨s, hmem, hcard⟩ := h
      have hold : t ∈ s := by rw [hmem, hd]
      refine ⟨s.erase t, fun t' => ?_, ?_⟩
      · by_cases he : t' = t
        · simp [he, Duty.idle]
        · simp [he, hmem]
      · have := Finset.card_erase_add_one hold
        simp only [hcard]
        omega
  | stopListening port arc hd => exact h.keep (counted_update_of_eq (by rw [hd]; rfl)) rfl
  | signal arc hd => exact h.keep (counted_update_of_eq (by rw [hd]; rfl)) rfl
  | forget arc hd => exact h.keep (counted_update_of_eq (by rw [hd]; rfl)) rfl

end View
end Rgrok
