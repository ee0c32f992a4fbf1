/-
# Reservations and sessions are in one pair of hands each

The first invariants of the moves.  Every reserved slot is the hold of exactly
one task, which will release or consume it (`HoldInv`).  Every session is in
one place at a time: with the task that sets it up, published in one slot, or
with the task that took it down (`ArcInv`), which is why a removal happens once
and why nobody can release what somebody else reserved.
-/

import Rgrok.Lib.Custody
import Rgrok.Server.Moves

namespace Rgrok

/-- The session a task answers for, and how far it is. -/
def Duty.standing (d : Duty) : Option (ℕ × Stage) :=
  d.charge.map fun charge => (charge.arc, charge.stage)

/-- The published session of a slot, by identity. -/
def Slot.liveArc : Option Slot → Option ℕ
  | some (.live session) => some session.arc
  | _ => none

namespace View

variable {v v' : View} {t : Task} {who : Option ℕ} {d : Duty} {key : ReservationKey}
  {r : Reservation} {session : TunnelSession}

/-! ### Tasks that exist -/

/-- A task that was not started has nothing to see through. -/
def StartInv (v : View) : Prop :=
  ∀ t, v.duty t ≠ .idle → v.Started t

theorem StartInv.listener_idle (h : v.StartInv) {arc : ℕ} (ha : arc ∉ v.published) :
    v.duty (.listener arc) = .idle := by
  by_contra hd
  exact ha (h _ hd)

theorem StartInv.release_idle (h : v.StartInv) : v.duty (.release v.nextRelease) = .idle := by
  by_contra hd
  exact absurd (h _ hd) (lt_irrefl v.nextRelease)

theorem Started.mono (h : v.Started t) (hp : v.published ⊆ v'.published)
    (hn : v.nextRelease ≤ v'.nextRelease) : v'.Started t := by
  cases t with
  | control c => trivial
  | listener arc => exact hp h
  | reaper => trivial
  | release i => exact lt_of_lt_of_le h hn

/-- Only a task that was started gets a new duty. -/
theorem StartInv.update (h : v.StartInv) (hduty : v'.duty = Function.update v.duty t d)
    (ht : v.Started t) (hp : v.published ⊆ v'.published) (hn : v.nextRelease ≤ v'.nextRelease) :
    v'.StartInv := by
  intro t' hd
  rw [hduty] at hd
  by_cases he : t' = t
  · subst he
    exact ht.mono hp hn
  · rw [Function.update_of_ne he] at hd
    exact (h t' hd).mono hp hn

theorem StartInv.move (h : v.StartInv) (m : v.Move t who v') : v'.StartInv := by
  -- a task that acts either says it was started or had something to see through
  have busy : ∀ {d : Duty}, v.duty t = d → d ≠ .idle → v.Started t := fun hd hne =>
    h t (by rwa [hd])
  have same : ∀ {l : List ℕ}, l ⊆ l := fun {l} => List.Subset.refl l
  cases m with
  | stay => exact h
  | pass remaining _ => exact h
  | start hd ht => exact h.update rfl ht same le_rfl
  | reserve key r hd _ => exact h.update rfl (busy hd (by simp [Duty.ofCharge, Duty.idle])) same le_rfl
  | createDns hold id hd _ =>
      exact h.update rfl (busy hd (by simp [Duty.ofSetup, Duty.idle])) same le_rfl
  | newSession _ _ _ => exact h
  | publish subdomain session remaining hd _ _ _ =>
      exact h.update rfl (busy hd (by simp [Duty.ofSetup, Duty.idle])) (List.subset_cons_self ..) le_rfl
  | bind port r rec hd => exact h.update rfl (busy hd (by simp [Duty.ofSetup, Duty.idle])) same le_rfl
  | unbind port r rec hd =>
      exact h.update rfl (busy hd (by simp [Duty.ofSetup, Duty.idle])) same le_rfl
  | publishTcp port session remaining hd _ _ _ =>
      have hidle : StartInv { v with
          duty := Function.update v.duty t .idle, published := session.arc :: v.published } :=
        h.update rfl (busy hd (by simp [Duty.ofSetup, Duty.idle])) (List.subset_cons_self ..) le_rfl
      exact hidle.update rfl (List.mem_cons_self ..) same le_rfl
  | releaseSetup hold rec d hd hd' _ =>
      exact h.update rfl (busy hd (by simp [Duty.ofSetup, Duty.idle])) same le_rfl
  | settle charge hd => exact h.update rfl (busy hd (by simp [Duty.ofCharge, Duty.idle])) same le_rfl
  | removeHttp subdomain removed remaining _ _ ht _ _ => exact h.update rfl ht same le_rfl
  | removeTcp port removed news remaining _ _ ht _ _ => exact h.update rfl ht same le_rfl
  | take port removed hd =>
      exact h.update rfl (busy hd (by simp [Duty.ofRemoved, Duty.idle])) same le_rfl
  | learn port removed hd _ =>
      exact h.update rfl (busy hd (by simp [Duty.ofRemoved, Duty.idle])) same le_rfl
  | retain port removed hd =>
      have hcharge : StartInv { v with
          duty := Function.update v.duty t (.ofCharge (removed.charge .closing))
          nextRelease := v.nextRelease + 1 } :=
        h.update rfl (busy hd (by simp [Duty.ofRemoved, Duty.idle])) same (Nat.le_succ _)
      exact hcharge.update rfl (Nat.lt_succ_self _) same le_rfl
  | releaseRemoved port removed hd _ =>
      exact h.update rfl (busy hd (by simp [Duty.ofRemoved, Duty.idle])) same le_rfl
  | releaseRetained port r hd _ _ => exact h.update rfl (busy hd (by simp [Duty.idle])) same le_rfl
  | uncount hd => exact h.update rfl (busy hd (by simp [Duty.idle])) same le_rfl
  | stopListening port arc hd => exact h.update rfl (busy hd (by simp [Duty.idle])) same le_rfl
  | signal arc hd => exact h.update rfl (busy hd (by simp [Duty.ofNews, Duty.idle])) same le_rfl
  | forget arc hd => exact h.update rfl (busy hd (by simp [Duty.ofNews, Duty.idle])) same le_rfl

/-! ### Sessions -/

/-- Sessions pass from the task that sets them up through a slot to the task
that takes them down. -/
def passage (v : View) : Passage Task ReservationKey where
  hand := Duty.standing ∘ v.duty
  place := Slot.liveArc ∘ v.slot
  next := v.nextArc
  entered := v.published
  left := v.removed

theorem passage_hand (v : View) (t : Task) : v.passage.hand t = (v.duty t).standing :=
  rfl

theorem passage_place (v : View) (key : ReservationKey) :
    v.passage.place key = Slot.liveArc (v.slot key) :=
  rfl

/-- Every session is in one place: with a task, published in one slot, or over. -/
def ArcInv (v : View) : Prop :=
  v.passage.Inv

theorem standing_update_of_eq {duty : Task → Duty} (h : d.standing = (duty t).standing) :
    Duty.standing ∘ Function.update duty t d = Duty.standing ∘ duty := by
  rw [Function.comp_update, h]
  exact Function.update_eq_self t (Duty.standing ∘ duty)

theorem liveArc_update_of_eq {slot : ReservationKey → Option Slot} {o : Option Slot}
    (h : Slot.liveArc o = Slot.liveArc (slot key)) :
    Slot.liveArc ∘ Function.update slot key o = Slot.liveArc ∘ slot := by
  rw [Function.comp_update, h]
  exact Function.update_eq_self key (Slot.liveArc ∘ slot)

namespace ArcInv

/-- A published session was not removed. -/
theorem live (h : v.ArcInv) (hslot : v.slot key = some (.live session)) :
    session.arc ∈ v.published ∧ session.arc ∉ v.removed :=
  (Passage.Inv.places h).mem (p := key) (by rw [passage_place, hslot]; rfl)

/-- A session that is being set up is new. -/
theorem setup (h : v.ArcInv) {arc : ℕ} (hd : (v.duty t).standing = some (arc, .setup)) :
    arc < v.nextArc ∧ arc ∉ v.published :=
  Passage.Inv.setup h t arc hd

theorem closing (h : v.ArcInv) {arc : ℕ} (hd : (v.duty t).standing = some (arc, .closing)) :
    arc ∈ v.removed :=
  Passage.Inv.closing h t arc hd

theorem not_standing (h : v.ArcInv) (hslot : v.slot key = some (.live session)) (t : Task)
    (stage : Stage) : (v.duty t).standing ≠ some (session.arc, stage) :=
  Passage.Inv.hand_ne h (a := key) (by rw [passage_place, hslot]; rfl) t stage

/-- A session is with one task at a time. -/
theorem task_unique (h : v.ArcInv) {t' : Task} {arc : ℕ} {stage stage' : Stage}
    (hd : (v.duty t).standing = some (arc, stage))
    (hd' : (v.duty t').standing = some (arc, stage')) : t = t' :=
  Passage.Inv.eq_of_hand h hd hd'

end ArcInv

/-- A step of the passage, told apart from the rest of the view. -/
theorem passage_step_of {p : Passage Task ReservationKey} (m : v.passage.Step p)
    (hhand : Duty.standing ∘ v'.duty = p.hand) (hplace : Slot.liveArc ∘ v'.slot = p.place)
    (hnext : v'.nextArc = p.next) (hentered : v'.published = p.entered)
    (hleft : v'.removed = p.left) : v.passage.Step v'.passage := by
  have : v'.passage = p := by
    cases p
    simp_all [passage]
  rw [this]
  exact m

/-- **Every move is a step of the passage.** -/
theorem Move.passage_step (h : v.ArcInv) (hs : v.StartInv)
    (hslot : ∀ key r, (v.duty t).hold = some (key, r) → v.slot key = some (.reserved r))
    (m : v.Move t who v') : v.passage.Step v'.passage := by
  -- the duty changes, the session the task answers for does not
  have keep : ∀ {v' : View} {d : Duty}, v'.duty = Function.update v.duty t d →
      d.standing = (v.duty t).standing → Slot.liveArc ∘ v'.slot = Slot.liveArc ∘ v.slot →
      v'.nextArc = v.nextArc → v'.published = v.published → v'.removed = v.removed →
      v.passage.Step v'.passage := fun hduty hd hlive hn hp hr =>
    passage_step_of .keep (by rw [hduty]; exact standing_update_of_eq hd) hlive hn hp hr
  cases m with
  | stay => exact .keep
  | pass remaining _ => exact .keep
  | start hd _ => exact passage_step_of (.start t) (Function.comp_update ..) rfl rfl rfl rfl
  | reserve key r hd hfree =>
      exact keep rfl (by rw [hd]; rfl) (liveArc_update_of_eq (by rw [hfree]; rfl)) rfl rfl rfl
  | createDns hold id hd _ => exact keep rfl (by rw [hd]; rfl) rfl rfl rfl rfl
  | newSession _ _ _ => exact .keep
  | publish subdomain session remaining hd _ _ _ =>
      have hres := hslot _ _ (by rw [hd]; rfl)
      exact passage_step_of (.enter t (.http subdomain) session.arc
        (by rw [passage_hand, hd]; rfl) (by rw [passage_place, hres]; rfl))
        (Function.comp_update ..) (Function.comp_update ..) rfl rfl rfl
  | bind port r rec hd => exact keep rfl (by rw [hd]; rfl) rfl rfl rfl rfl
  | unbind port r rec hd => exact keep rfl (by rw [hd]; rfl) rfl rfl rfl rfl
  | publishTcp port session remaining hd _ _ _ =>
      have hres := hslot _ _ (by rw [hd]; rfl)
      have hstanding : (v.duty t).standing = some (session.arc, .setup) := by rw [hd]; rfl
      have hl : v.duty (.listener session.arc) = .idle := hs.listener_idle (h.setup hstanding).2
      have hne : Task.listener session.arc ≠ t := by
        rintro rfl
        rw [hl] at hstanding
        cases hstanding
      refine passage_step_of (.enter t (.tcp port) session.arc hstanding
        (by rw [passage_place, hres]; rfl)) ?_ (Function.comp_update ..) rfl rfl rfl
      rw [standing_update_of_eq, Function.comp_update]
      · rfl
      · rw [Function.update_of_ne hne, hl]
        rfl
  | releaseSetup hold rec d hd hd' _ =>
      have hres := hslot hold.1 hold.2 (by rw [hd]; rfl)
      have hlive : Slot.liveArc ∘ Function.update v.slot hold.1 none = Slot.liveArc ∘ v.slot :=
        liveArc_update_of_eq (by rw [hres]; rfl)
      rcases hd' with rfl | ⟨rfl, -⟩
      · exact keep rfl (by rw [hd]; rfl) hlive rfl rfl rfl
      · exact passage_step_of (.drop t) (Function.comp_update ..) hlive rfl rfl rfl
  | settle charge hd => exact passage_step_of (.drop t) (Function.comp_update ..) rfl rfl rfl rfl
  | removeHttp subdomain removed remaining hlive hd _ _ _ =>
      exact passage_step_of (.leave t (.http subdomain) removed.arc
        (by rw [passage_place, hlive]; rfl)) (Function.comp_update ..) (Function.comp_update ..)
        rfl rfl rfl
  | removeTcp port removed news remaining hlive hd _ _ _ =>
      exact passage_step_of (.leave t (.tcp port) removed.arc
        (by rw [passage_place, hlive]; rfl)) (Function.comp_update ..) (Function.comp_update ..)
        rfl rfl rfl
  | take port removed hd => exact keep rfl (by rw [hd]; rfl) rfl rfl rfl rfl
  | learn port removed hd _ => exact keep rfl (by rw [hd]; rfl) rfl rfl rfl rfl
  | retain port removed hd =>
      have hne : Task.release v.nextRelease ≠ t := by
        rintro rfl
        rw [hs.release_idle] at hd
        exact absurd (congrArg Duty.hold hd) (by simp [Duty.idle, Duty.ofRemoved])
      refine passage_step_of .keep ?_ rfl rfl rfl rfl
      rw [standing_update_of_eq, standing_update_of_eq]
      · rfl
      · rw [hd]
        rfl
      · rw [Function.update_of_ne hne, hs.release_idle]
        rfl
  | releaseRemoved port removed hd _ =>
      have hres := hslot _ _ (by rw [hd]; rfl)
      exact keep rfl (by rw [hd]; rfl) (liveArc_update_of_eq (by rw [hres]; rfl)) rfl rfl rfl
  | releaseRetained port r hd _ _ =>
      have hres := hslot _ _ (by rw [hd])
      exact keep rfl (by rw [hd]; rfl) (liveArc_update_of_eq (by rw [hres]; rfl)) rfl rfl rfl
  | uncount hd => exact keep rfl (by rw [hd]; rfl) rfl rfl rfl rfl
  | stopListening port arc hd => exact keep rfl (by rw [hd]; rfl) rfl rfl rfl rfl
  | signal arc hd => exact keep rfl (by rw [hd]; rfl) rfl rfl rfl rfl
  | forget arc hd => exact keep rfl (by rw [hd]; rfl) rfl rfl rfl rfl

/-! ### Reservations -/

/-- The reservations that stand. -/
def reserved (v : View) : Set (ReservationKey × Reservation) :=
  {x | v.slot x.1 = some (.reserved x.2)}

/-- Every reservation is held by exactly one task. -/
def HoldInv (v : View) : Prop :=
  Custody v.reserved (Duty.hold ∘ v.duty)

theorem hold_update_of_eq {duty : Task → Duty} (h : d.hold = (duty t).hold) :
    Duty.hold ∘ Function.update duty t d = Duty.hold ∘ duty := by
  rw [Function.comp_update, h]
  exact Function.update_eq_self t (Duty.hold ∘ duty)

theorem mem_reserved_update_reserved {slot : ReservationKey → Option Slot}
    (h : ∀ res, slot key ≠ some (.reserved res)) (x : ReservationKey × Reservation) :
    Function.update slot key (some (.reserved r)) x.1 = some (.reserved x.2) ↔
      x = (key, r) ∨ slot x.1 = some (.reserved x.2) := by
  obtain ⟨k, res⟩ := x
  by_cases hk : k = key
  · subst hk
    have := h res
    simp [Function.update_self, this, eq_comm]
  · simp [hk]

theorem mem_reserved_update_other {slot : ReservationKey → Option Slot} {o : Option Slot}
    (h : slot key = some (.reserved r)) (ho : ∀ res, o ≠ some (.reserved res))
    (x : ReservationKey × Reservation) :
    Function.update slot key o x.1 = some (.reserved x.2) ↔
      x ≠ (key, r) ∧ slot x.1 = some (.reserved x.2) := by
  obtain ⟨k, res⟩ := x
  by_cases hk : k = key
  · subst hk
    rw [Function.update_self, h]
    simp only [ho res, Prod.mk.injEq, Option.some.injEq, Slot.reserved.injEq, true_and, ne_eq,
      false_iff, not_and]
    exact fun hne he => hne he.symm
  · simp [hk]

/-- A slot that was not reserved and is not reserved afterwards. -/
theorem mem_reserved_update_live {slot : ReservationKey → Option Slot} {o : Option Slot}
    (h : ∀ res, slot key ≠ some (.reserved res)) (ho : ∀ res, o ≠ some (.reserved res))
    (x : ReservationKey × Reservation) :
    Function.update slot key o x.1 = some (.reserved x.2) ↔ slot x.1 = some (.reserved x.2) := by
  obtain ⟨k, res⟩ := x
  by_cases hk : k = key
  · subst hk
    simp [h res, ho res]
  · simp [Function.update_of_ne hk]

/-- A task whose hold does not change. -/
theorem HoldInv.keep (h : v.HoldInv) (hslot : v'.slot = v.slot)
    (hduty : Duty.hold ∘ v'.duty = Duty.hold ∘ v.duty) : v'.HoldInv :=
  Custody.congr h (fun x => by rw [reserved, reserved, hslot]) (congrFun hduty)

/-- What a task holds is reserved. -/
theorem HoldInv.slot_eq (h : v.HoldInv) (hd : (v.duty t).hold = some (key, r)) :
    v.slot key = some (.reserved r) :=
  h.mem (p := t) hd

/-- A task gives up its hold and the slot is no longer reserved. -/
theorem HoldInv.drop (h : v.HoldInv) (hd : (v.duty t).hold = some (key, r)) {o : Option Slot}
    (ho : ∀ res, o ≠ some (.reserved res)) (hslot : v'.slot = Function.update v.slot key o)
    (hduty : Duty.hold ∘ v'.duty = Function.update (Duty.hold ∘ v.duty) t none) :
    v'.HoldInv := by
  rw [HoldInv, hduty, reserved, hslot]
  exact Custody.release h (x := (key, r)) hd (mem_reserved_update_other (h.slot_eq hd) ho)

/-- A task with empty hands reserves a slot. -/
theorem HoldInv.take (h : v.HoldInv) (hd : (v.duty t).hold = none)
    (hfree : ∀ res, v.slot key ≠ some (.reserved res))
    (hslot : v'.slot = Function.update v.slot key (some (.reserved r)))
    (hduty : Duty.hold ∘ v'.duty = Function.update (Duty.hold ∘ v.duty) t (some (key, r))) :
    v'.HoldInv := by
  rw [HoldInv, hduty, reserved, hslot]
  exact Custody.acquire h (hfree r) hd (mem_reserved_update_reserved hfree)

/-- **Every move keeps reservations in one pair of hands.** -/
theorem HoldInv.move (h : v.HoldInv) (hs : v.StartInv) (ha : v.ArcInv) (m : v.Move t who v') :
    v'.HoldInv := by
  have not_reserved : ∀ {key session}, v.slot key = some (.live session) →
      ∀ res, v.slot key ≠ some (.reserved res) := fun hlive res hr => by simp [hlive] at hr
  cases m with
  | stay => exact h
  | pass remaining _ => exact h.keep rfl rfl
  | start hd _ => exact h.keep rfl (hold_update_of_eq (by rw [hd]; rfl))
  | reserve key r hd hfree =>
      exact h.take (by rw [hd]; rfl) (fun res hr => by simp [hfree] at hr) rfl
        (Function.comp_update ..)
  | createDns hold id hd _ => exact h.keep rfl (hold_update_of_eq (by rw [hd]; rfl))
  | newSession _ _ _ => exact h.keep rfl rfl
  | publish subdomain session remaining hd _ _ _ =>
      exact h.drop (by rw [hd]; rfl) (by simp) rfl (Function.comp_update ..)
  | bind port r rec hd => exact h.keep rfl (hold_update_of_eq (by rw [hd]))
  | unbind port r rec hd => exact h.keep rfl (hold_update_of_eq (by rw [hd]))
  | publishTcp port session remaining hd _ _ _ =>
      refine h.drop (by rw [hd]; rfl) (by simp) rfl ?_
      have hl : v.duty (.listener session.arc) = .idle :=
        hs.listener_idle (ha.setup (t := t) (by rw [hd]; rfl)).2
      have hne : Task.listener session.arc ≠ t := by
        rintro rfl
        rw [hl] at hd
        exact absurd (congrArg Duty.socket hd) (by simp [Duty.idle])
      rw [hold_update_of_eq, Function.comp_update]
      · rfl
      · rw [Function.update_of_ne hne, hl]
  | releaseSetup hold rec d hd hd' _ =>
      refine h.drop (o := none) (by rw [hd]; rfl) (by simp) rfl ?_
      have : d.hold = none := by rcases hd' with rfl | ⟨rfl, -⟩ <;> rfl
      rw [← this]
      exact Function.comp_update ..
  | settle charge hd => exact h.keep rfl (hold_update_of_eq (by rw [hd]; rfl))
  | removeHttp subdomain removed remaining hlive hd _ _ _ =>
      refine Custody.congr h (mem_reserved_update_live (not_reserved hlive) (by simp)) ?_
      exact congrFun (hold_update_of_eq (by rw [hd]; rfl))
  | removeTcp port removed news remaining hlive hd _ _ _ =>
      refine h.take ?_ (not_reserved hlive) rfl (Function.comp_update ..)
      rcases hd with ⟨hd, -⟩ | ⟨hd, -⟩ <;> rw [hd] <;> rfl
  | take port removed hd => exact h.keep rfl (hold_update_of_eq (by rw [hd]; rfl))
  | learn port removed hd _ => exact h.keep rfl (hold_update_of_eq (by rw [hd]; rfl))
  | retain port removed hd =>
      have htr := Custody.transfer (p := t) (q := .release v.nextRelease) h
        (x := removed.holding (.tcp port)) (by rw [Function.comp_apply, hd]; rfl)
        (by rw [Function.comp_apply, hs.release_idle]; rfl)
      refine htr.congr (fun _ => Iff.rfl) (congrFun ?_)
      exact (Function.comp_update ..).trans (by rw [Function.comp_update]; rfl)
  | releaseRemoved port removed hd _ =>
      exact h.drop (o := none) (by rw [hd]; rfl) (by simp) rfl (Function.comp_update ..)
  | releaseRetained port r hd _ _ =>
      exact h.drop (o := none) (by rw [hd]) (by simp) rfl (Function.comp_update ..)
  | uncount hd => exact h.keep rfl (hold_update_of_eq (by rw [hd]))
  | stopListening port arc hd => exact h.keep rfl (hold_update_of_eq (by rw [hd]; rfl))
  | signal arc hd => exact h.keep rfl (hold_update_of_eq (by rw [hd]; rfl))
  | forget arc hd => exact h.keep rfl (hold_update_of_eq (by rw [hd]; rfl))

end View
end Rgrok
