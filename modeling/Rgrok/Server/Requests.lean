/-
# What belongs to one request

`handle_control_msg` in `crates/rgrok-server/src/control.rs`.

A request has an identity of its own from the moment it is read, and what it
takes it takes under that identity: a reservation, a socket, DNS records and in
the end a published tunnel.  While the tunnel is not published only the task of
the request can have any of it (`View.Lone`), so a task that has nothing left to
see through has left nothing behind (`Lifecycle.traceless_of_idle`).
-/

import Rgrok.Server.Progress

namespace Rgrok
namespace View

variable {v v' : View} {t : Task} {who : Option ℕ} {d : Duty} {key : ReservationKey}
  {r : Reservation} {c arc : ℕ}

/-! ### Reservations are made for requests that came up -/

/-- Every reservation in somebody's hands was made for a request that was read. -/
def HoldLtInv (v : View) : Prop :=
  ∀ t key r, (v.duty t).hold = some (key, r) → r.arc < v.nextArc

/-- A task gets a new duty, with a hold that was made for such a request. -/
theorem HoldLtInv.update (h : v.HoldLtInv) (hduty : v'.duty = Function.update v.duty t d)
    (hd : ∀ key r, d.hold = some (key, r) → r.arc < v'.nextArc) (hn : v.nextArc ≤ v'.nextArc) :
    v'.HoldLtInv := by
  intro t' key r hr
  rw [hduty] at hr
  by_cases he : t' = t
  · subst he
    rw [Function.update_self] at hr
    exact hd key r hr
  · rw [Function.update_of_ne he] at hr
    exact (h t' key r hr).trans_le hn

theorem HoldLtInv.move (h : v.HoldLtInv) (ha : v.ArcInv) (m : v.Move t who v') : v'.HoldLtInv := by
  -- the hold of the acting task stays, or is gone
  have keep : ∀ {d : Duty} {v' : View}, v'.duty = Function.update v.duty t d →
      d.hold = (v.duty t).hold → v.nextArc ≤ v'.nextArc → v'.HoldLtInv := fun hduty hd hn =>
    h.update hduty (fun key r hr => (h t key r (hd ▸ hr)).trans_le hn) hn
  have drop : ∀ {d : Duty} {v' : View}, v'.duty = Function.update v.duty t d →
      d.hold = none → v.nextArc ≤ v'.nextArc → v'.HoldLtInv := fun hduty hd hn =>
    h.update hduty (fun key r hr => by rw [hd] at hr; cases hr) hn
  cases m with
  | stay | pass | newSession => exact h
  | start hd _ => exact drop rfl rfl (Nat.le_succ _)
  | reserve key r hd _ =>
      refine h.update rfl (fun key' r' hr => ?_) le_rfl
      obtain ⟨rfl, rfl⟩ := Prod.mk.inj (Option.some.inj hr)
      exact (ha.setup (t := t) (by rw [hd]; rfl)).1
  | createDns hold id hd _ => exact keep rfl (by rw [hd]; rfl) le_rfl
  | publish subdomain session remaining hd _ _ _ => exact drop rfl rfl le_rfl
  | bind port r rec hd => exact keep rfl (by rw [hd]) le_rfl
  | unbind port r rec hd => exact keep rfl (by rw [hd]) le_rfl
  | publishTcp port session remaining hd _ _ _ =>
      have hidle : HoldLtInv { v with duty := Function.update v.duty t .idle } := drop rfl rfl le_rfl
      exact hidle.update rfl (fun key r hr => by cases hr) le_rfl
  | releaseSetup hold rec d hd hd' _ =>
      refine drop rfl ?_ le_rfl
      rcases hd' with rfl | ⟨rfl, -⟩ <;> rfl
  | settle charge hd => exact drop rfl rfl le_rfl
  | removeHttp subdomain removed remaining _ _ _ _ _ => exact drop rfl rfl le_rfl
  | removeTcp port removed news remaining hlive _ _ _ _ =>
      refine h.update rfl (fun key' r' hr => ?_) le_rfl
      obtain ⟨-, rfl⟩ := Prod.mk.inj (Option.some.inj hr)
      exact Passage.Inv.entered_lt ha _ (ha.live hlive).1
  | take port removed hd => exact keep rfl (by rw [hd]; rfl) le_rfl
  | learn port removed hd _ => exact keep rfl (by rw [hd]; rfl) le_rfl
  | retain port removed hd =>
      have hcharge : HoldLtInv { v with
          duty := Function.update v.duty t (.ofCharge (removed.charge .closing)) } :=
        drop rfl rfl le_rfl
      refine hcharge.update rfl (fun key r hr => h t key r ?_) le_rfl
      rw [hd]
      exact hr
  | releaseRemoved port removed hd _ => exact drop rfl rfl le_rfl
  | releaseRetained port r hd _ _ => exact drop rfl rfl le_rfl
  | uncount hd => exact drop rfl rfl le_rfl
  | stopListening port arc hd => exact drop rfl rfl le_rfl
  | signal arc hd => exact drop rfl rfl le_rfl
  | forget arc hd => exact drop rfl rfl le_rfl

/-- A slot is used on behalf of a request or session that came up. -/
theorem HoldLtInv.slot (h : v.HoldLtInv) (hi : v.Inv) {slot : Slot} (hs : v.slot key = some slot) :
    slot.arc < v.nextArc := by
  cases slot with
  | live session => exact Passage.Inv.entered_lt hi.arcs _ (hi.arcs.live hs).1
  | reserved r =>
      obtain ⟨t, ht⟩ := (Custody.mem_iff hi.hold (key, r)).1 hs
      exact h t key r ht

/-! ### A request that has not published its tunnel -/

/-- A slot that is used on behalf of `arc` is a reservation in the hands of the
control task `c`. -/
def SlotsHeld (v : View) (c arc : ℕ) : Prop :=
  ∀ key slot, v.slot key = some slot → slot.arc = arc →
    ∃ r, slot = .reserved r ∧ (v.duty (.control c)).hold = some (key, r)

/-- Only the control task `c` works for the session `arc`, which is not published,
and what is reserved on its behalf is in the hands of that task. -/
structure Lone (v : View) (c arc : ℕ) : Prop where
  sole : v.passage.Sole (.control c) arc
  slots : v.SlotsHeld c arc

namespace Lone

/-- What is published is not the session of the request. -/
theorem live_ne (h : v.Lone c arc) {session : TunnelSession}
    (hs : v.slot key = some (.live session)) : session.arc ≠ arc := by
  intro he
  obtain ⟨r, hr, -⟩ := h.slots key _ hs he
  cases hr

/-- No other task answers for the request. -/
theorem ne_of_standing (h : v.Lone c arc) {x : ℕ} {stage : Stage}
    (hd : (v.duty t).standing = some (x, stage)) (ht : t ≠ .control c) : x ≠ arc := by
  rintro rfl
  exact h.sole.hand_ne t ht stage hd

/-- A task lets go of its reservation, and the slot is free or somebody else's. -/
theorem consume (h : v.Lone c arc) {o : Option Slot} (hslot : v'.slot = Function.update v.slot key o)
    (ho : ∀ slot, o = some slot → slot.arc ≠ arc) (hd : (v.duty t).hold = some (key, r))
    (hframe : t ≠ .control c → v'.duty (.control c) = v.duty (.control c)) : v'.SlotsHeld c arc := by
  intro k slot hs harc
  rw [hslot] at hs
  rcases update_eq_some.1 hs with ⟨-, hnew⟩ | ⟨hne, hold⟩
  · exact absurd harc (ho slot hnew)
  · obtain ⟨r', hr', hhold⟩ := h.slots k slot hold harc
    by_cases ht : t = .control c
    · subst ht
      rw [hhold] at hd
      exact absurd (Prod.mk.inj (Option.some.inj hd)).1 hne
    · exact ⟨r', hr', by rw [hframe ht]; exact hhold⟩

/-- A task takes a reservation. -/
theorem take (h : v.Lone c arc) (hslot : v'.slot = Function.update v.slot key (some (.reserved r)))
    (hd : (v.duty t).hold = none) (hd' : (v'.duty t).hold = some (key, r))
    (hne : t ≠ .control c → r.arc ≠ arc)
    (hframe : t ≠ .control c → v'.duty (.control c) = v.duty (.control c)) : v'.SlotsHeld c arc := by
  intro k slot hs harc
  rw [hslot] at hs
  rcases update_eq_some.1 hs with ⟨rfl, hnew⟩ | ⟨-, hold⟩
  · obtain rfl := Option.some.inj hnew
    by_cases ht : t = .control c
    · subst ht
      exact ⟨r, rfl, hd'⟩
    · exact absurd harc (hne ht)
  · obtain ⟨r', hr', hhold⟩ := h.slots k slot hold harc
    by_cases ht : t = .control c
    · subst ht
      rw [hhold] at hd
      cases hd
    · exact ⟨r', hr', by rw [hframe ht]; exact hhold⟩

/-- No slot is taken, and the acting task keeps its reservation. -/
theorem keep (h : v.Lone c arc) (hduty : v'.duty = Function.update v.duty t d)
    (hd : d.hold = (v.duty t).hold)
    (hslot : ∀ k slot, v'.slot k = some slot → v.slot k = some slot) : v'.SlotsHeld c arc := by
  intro k slot hs harc
  obtain ⟨r, hr, hhold⟩ := h.slots k slot (hslot k slot hs) harc
  refine ⟨r, hr, ?_⟩
  rw [hduty]
  exact (congrFun (hold_update_of_eq hd) (.control c)).trans hhold

/-- The slots of a request stay in the hands of its task. -/
theorem slots_move (h : v.Lone c arc) (hi : v.Inv) (m : v.Move t who v')
    (hpub : arc ∉ v'.published) : v'.SlotsHeld c arc := by
  -- another task's step leaves the duty of this one alone
  have frame {duty : Task → Duty} {d : Duty} (hduty : duty = Function.update v.duty t d)
      (ht : t ≠ .control c) : duty (.control c) = v.duty (.control c) := by
    rw [hduty]
    exact Function.update_of_ne ht.symm _ _
  have self {d : Duty} : Function.update v.duty t d t = d := Function.update_self ..
  have free : ∀ slot : Slot, none = some slot → slot.arc ≠ arc := fun slot hslot => by cases hslot
  have new {session : TunnelSession} (hmem : session.arc ∈ v'.published) :
      ∀ slot, some (Slot.live session) = some slot → slot.arc ≠ arc := by
    rintro slot hslot rfl
    obtain rfl := Option.some.inj hslot
    exact hpub hmem
  have same : ∀ k slot, v.slot k = some slot → v.slot k = some slot := fun k slot hs => hs
  cases m with
  | stay | pass | newSession => exact h.slots
  | start hd _ => exact h.keep rfl (by rw [hd]; rfl) same
  | reserve key r hd _ =>
      exact h.take rfl (by rw [hd]; rfl) (congrArg Duty.hold self)
        (h.ne_of_standing (by rw [hd]; rfl)) (frame rfl)
  | createDns hold id hd _ => exact h.keep rfl (by rw [hd]; rfl) same
  | publish subdomain session remaining hd _ _ _ =>
      exact h.consume rfl (new (List.mem_cons_self ..)) (by rw [hd]; rfl) (frame rfl)
  | bind port r rec hd => exact h.keep rfl (by rw [hd]) same
  | unbind port r rec hd => exact h.keep rfl (by rw [hd]) same
  | publishTcp port session remaining hd _ _ _ =>
      have hother (ht : t ≠ .control c) : Function.update (Function.update v.duty t .idle)
          (.listener session.arc) { Duty.idle with socket := some (port, session.arc) }
          (.control c) = v.duty (.control c) :=
        (Function.update_of_ne (by simp) _ _).trans (frame rfl ht)
      exact h.consume rfl (new (List.mem_cons_self ..)) (by rw [hd]; rfl) hother
  | releaseSetup hold rec d hd _ _ => exact h.consume rfl free (by rw [hd]; rfl) (frame rfl)
  | settle charge hd => exact h.keep rfl (by rw [hd]; rfl) same
  | removeHttp subdomain removed remaining hlive hd _ _ _ =>
      refine h.keep rfl (by rw [hd]; rfl) fun k slot hs => ?_
      rcases update_eq_some.1 hs with ⟨-, hs⟩ | ⟨-, hs⟩
      · cases hs
      · exact hs
  | removeTcp port removed news remaining hlive hd _ _ _ =>
      refine h.take rfl ?_ (congrArg Duty.hold self) (fun _ => h.live_ne hlive) (frame rfl)
      rcases hd with ⟨hd, -⟩ | ⟨hd, -⟩ <;> rw [hd] <;> rfl
  | take port removed hd => exact h.keep rfl (by rw [hd]; rfl) same
  | learn port removed hd _ => exact h.keep rfl (by rw [hd]; rfl) same
  | retain port removed hd =>
      intro k slot hs harc
      obtain ⟨r, hr, hhold⟩ := h.slots k slot hs harc
      by_cases ht : t = .control c
      · -- the session that is taken down was published
        subst ht
        rw [hd] at hhold
        obtain ⟨-, rfl⟩ := Prod.mk.inj (Option.some.inj hhold)
        have hmem : removed.arc ∈ v.removed := hi.arcs.closing (t := .control c) (by rw [hd]; rfl)
        have hremoved : removed.arc = arc := by rw [← harc, hr]; rfl
        exact absurd (Passage.Inv.left_subset hi.arcs hmem) (hremoved ▸ hpub)
      · refine ⟨r, hr, ?_⟩
        have hother : Function.update (Function.update v.duty t (.ofCharge (removed.charge .closing)))
            (.release v.nextRelease) { Duty.idle with
              hold := some (removed.holding (.tcp port)), counted := true } (.control c) =
            v.duty (.control c) :=
          (Function.update_of_ne (by simp) _ _).trans (frame rfl ht)
        exact (congrArg Duty.hold hother).trans hhold
  | releaseRemoved port removed hd _ => exact h.consume rfl free (by rw [hd]; rfl) (frame rfl)
  | releaseRetained port r hd _ _ => exact h.consume rfl free (by rw [hd]) (frame rfl)
  | uncount hd => exact h.keep rfl (by rw [hd]) same
  | stopListening port arc hd => exact h.keep rfl (by rw [hd]; rfl) same
  | signal arc hd => exact h.keep rfl (by rw [hd]; rfl) same
  | forget arc hd => exact h.keep rfl (by rw [hd]; rfl) same

/-- **Every move but its publication** leaves what belongs to a request in the
hands of its task. -/
theorem move (h : v.Lone c arc) (hi : v.Inv) (m : v.Move t who v')
    (hpub : (v'.duty (.control c)).standing = (v.duty (.control c)).standing ∨ arc ∉ v'.published) :
    v'.Lone c arc := by
  have hstep := m.passage_step hi.arcs hi.start fun _ _ hd => hi.hold.slot_eq hd
  have hsole : v'.passage.Sole (.control c) arc := by
    rcases h.sole.step hi.arcs hstep with hsole | ⟨hmem, hhand, hhand'⟩
    · exact hsole
    · rcases hpub with hsame | hnot
      · exact absurd (hsame.symm.trans hhand') hhand
      · exact absurd hmem hnot
  exact ⟨hsole, h.slots_move hi m hsole.not_entered⟩

/-- A request that was just read has nothing yet. -/
theorem start (hi : v.Inv) (hlt : v.HoldLtInv) (duty : Duty) :
    Lone { v with
      duty := Function.update v.duty (.control c) duty
      nextArc := v.nextArc + 1 } c v.nextArc where
  sole := by
    refine ⟨Nat.lt_succ_self _, fun hmem => ?_, fun t ht stage hd => ?_⟩
    · exact absurd (Passage.Inv.entered_lt hi.arcs _ hmem) (lt_irrefl _)
    · have hother : Function.update v.duty (.control c) duty t = v.duty t :=
        Function.update_of_ne ht _ _
      have hstanding : (v.duty t).standing = some (v.nextArc, stage) :=
        (congrArg Duty.standing hother).symm.trans hd
      exact absurd (Passage.Inv.lt_next hi.arcs (q := t) hstanding) (lt_irrefl _)
  slots key slot hs harc := absurd (hlt.slot hi hs) (harc ▸ lt_irrefl _)

end Lone
end View

namespace Lifecycle

variable {config : Config} {l l' : Lifecycle} {a : Action} {c arc : ℕ}

theorem holdLt_of_reachable (r : (machine config).Reachable l) : l.view.HoldLtInv := by
  refine r.invariant (I := fun l => l.view.HoldLtInv) ?_ fun l a l' r h _ hs => ?_
  · rintro l rfl t key r hd
    cases t <;> cases hd
  · have hi := inv_of_reachable r
    exact h.move hi.2.arcs (step_simulated hi.1 hi.2 hs).move

/-- A step leaves what belongs to a request with its task, unless it is the
task's own and publishes the tunnel. -/
theorem lone_step (hi : l.Inv) (hl : l.view.Lone c arc) (h : l.step a = some l')
    (hpub : a.task = .control c → l'.published = l.published) : l'.view.Lone c arc := by
  refine hl.move hi.2 (step_simulated hi.1 hi.2 h).move ?_
  by_cases ha : a.task = .control c
  · refine Or.inr fun hmem => hl.sole.not_entered ?_
    change arc ∈ l'.published at hmem
    rw [hpub ha] at hmem
    exact hmem
  · refine Or.inl (congrArg Duty.standing ?_)
    change (l'.tasks.control c).duty = (l.tasks.control c).duty
    rw [control_frame h ha]

/-- Nothing of the request or session `arc` is left on the server: it is not
published and never was, nothing is reserved or bound for it, no connection will
clean it up, and its DNS records were passed on for deletion. -/
structure Traceless (l : Lifecycle) (arc : ℕ) : Prop where
  tunnels : ∀ key session, l.state.published key = some session → session.arc ≠ arc
  reservations : ∀ key r, l.state.reservations.lookup key = some r → r.arc ≠ arc
  sockets : ∀ port, (port, arc) ∉ l.sockets
  registered : ∀ c x, x ∈ (l.registered c).pairs → x.2.arc ≠ arc
  published : arc ∉ l.published
  dns : ∀ id, (arc, id) ∈ l.dnsCreated → (arc, id) ∈ l.dnsDeleted

/-- **A task with nothing left to see through has left nothing behind.** -/
theorem traceless_of_idle (r : (machine config).Reachable l) (hl : l.view.Lone c arc)
    (hd : (l.tasks.control c).duty = .idle) : l.Traceless arc := by
  obtain ⟨hv, hi⟩ := inv_of_reachable r
  have hduty : l.view.duty (.control c) = .idle := hd
  have hslot (key : ReservationKey) (slot : Slot) (hs : l.state.slot key = some slot) :
      slot.arc ≠ arc := by
    intro harc
    obtain ⟨r, -, hhold⟩ := hl.slots key slot hs harc
    rw [hduty] at hhold
    cases hhold
  have hstanding (t : Task) (stage : Stage) : (l.view.duty t).standing ≠ some (arc, stage) := by
    by_cases ht : t = .control c
    · subst ht
      rw [hduty]
      exact fun h => by cases h
    · exact hl.sole.hand_ne t ht stage
  refine ⟨fun key session hs => ?_, fun key res hs => ?_, fun port hmem => ?_, fun c' x hx harc => ?_,
    hl.sole.not_entered, fun id hmem => ?_⟩
  · exact hslot key _ (ServerState.slot_eq_live.2 hs)
  · exact hslot key _ (hv.slot_of_reservation hs)
  · obtain ⟨slot, hs, harc⟩ := slot_of_socket hi hmem
    exact hslot _ slot hs harc
  · exact hl.sole.not_entered (harc ▸ (roster_inv_of_reachable r).published c' x hx)
  · by_contra hnot
    obtain ⟨p, hp⟩ := (hi.records.filed.mem_iff (arc, id)).1 ⟨hmem, hnot⟩
    cases p with
    | inl t =>
        obtain ⟨stage, hs⟩ := View.standing_of_record hp
        exact hstanding t stage hs
    | inr key =>
        have hlive : Slot.liveArc (l.state.slot key) = some arc := View.liveArc_of_record hp
        cases hs : l.state.slot key with
        | none =>
            rw [hs] at hlive
            cases hlive
        | some slot =>
            rw [hs] at hlive
            cases slot with
            | reserved => cases hlive
            | live session => exact hslot key _ hs (Option.some.inj hlive)

end Lifecycle
end Rgrok
