/-
# What stays in the pending map

`request_proxy_stream` in `crates/rgrok-server/src/proxy.rs`.

Every path on which `request_proxy_stream` returns takes the entry of its
request out of the map.  A request that is dropped at one of its two await
points runs none of these, and leaves its entry there
(`disconnected_not_live`).  Entries are live as long as no request is dropped
while its entry stands (`pending_entries_live`).
-/

import Rgrok.Server.Correlation

namespace Rgrok
namespace Correlation

variable {s s' : Correlation} {a : Action} {r c : ℕ} {id : UInt32}

/-- Every pending entry belongs to a request that is still inside
`request_proxy_stream`, with the receiver in its hands. -/
def EntriesLive (s : Correlation) : Prop :=
  ∀ c id r, (s.pendingStreams c).lookup id = some r → (s.request r).listening = true

/-- No request is dropped at an await point while its entry stands. -/
def DropsNoEntry (s : Correlation) (a : Action) : Prop :=
  ∀ r, a = .abandon r → ∀ c id, (s.pendingStreams c).lookup id ≠ some r

/-- Entries of a request that moves on: none are left, or it is still there. -/
theorem EntriesLive.setRequest (h : s.EntriesLive) {ph : RequestPhase}
    (hr : ph.listening = true ∨ ∀ c id, (s.pendingStreams c).lookup id ≠ some r) :
    (s.setRequest r ph).EntriesLive := by
  intro c id r' hlookup
  have hold : (s.pendingStreams c).lookup id = some r' := hlookup
  by_cases he : r' = r
  · subst he
    simp only [Correlation.setRequest, Function.update_self]
    exact hr.resolve_right fun hnone => hnone c id hold
  · simp only [Correlation.setRequest, Function.update_of_ne he]
    exact h c id r' hold

theorem EntriesLive.insertPending (h : s.EntriesLive) (hr : (s.request r).listening = true) :
    (s.insertPending c id r).EntriesLive := by
  intro c' id' r' hlookup
  have hsender : (s.insertPending c id r).sender (.inl (c', id')) = some r' := hlookup
  rw [sender_insertPending] at hsender
  rcases update_eq_some.1 hsender with ⟨-, hnew⟩ | ⟨-, hold⟩
  · obtain rfl := Option.some.inj hnew
    exact hr
  · exact h c' id' r' hold

theorem EntriesLive.removePending (h : s.EntriesLive) (c : ℕ) (id : UInt32) :
    (s.removePending c id).EntriesLive := by
  intro c' id' r' hlookup
  have hsender : (s.removePending c id).sender (.inl (c', id')) = some r' := hlookup
  rw [sender_removePending] at hsender
  rcases update_eq_some.1 hsender with ⟨-, hnew⟩ | ⟨-, hold⟩
  · cases hnew
  · exact h c' id' r' hold

/-- A request whose stream is there has no entry left. -/
theorem Inv.not_pending_of_oneshot (hi : s.Inv) {d : ℕ} (h : s.oneshot r = some d) (c : ℕ)
    (id : UInt32) : (s.pendingStreams c).lookup id ≠ some r := by
  intro hlookup
  have hdelivered := hi.oneshot r d h
  exact hi.unused (.inl (c, id)) r hlookup (List.mem_map.2 ⟨(d, r), hdelivered, rfl⟩)

/-- A request that removes what stands under its id has no entry left. -/
theorem Inv.not_pending_removePending (hi : s.Inv) {t : Ticket}
    (ht : (s.request r).posted = some t) (c : ℕ) (id : UInt32) :
    ((s.removePending t.session.conn t.correlationId).pendingStreams c).lookup id ≠ some r := by
  intro hlookup
  have hsender : (s.removePending t.session.conn t.correlationId).sender (.inl (c, id)) = some r :=
    hlookup
  rw [sender_removePending] at hsender
  rcases update_eq_some.1 hsender with ⟨-, hnone⟩ | ⟨hne, hold⟩
  · cases hnone
  · obtain ⟨u, hu, rfl, rfl⟩ := hi.pending c id r hold
    obtain rfl := Option.some.inj (ht.symm.trans hu)
    exact hne rfl

/-- Every step but dropping a request keeps the entries live. -/
theorem EntriesLive.step (hi : s.Inv) (h : s.EntriesLive) (hs : s.step a = some s')
    (ha : ∀ r, a ≠ .abandon r) : s'.EntriesLive := by
  cases a with
  | abandon r => exact absurd rfl (ha r)
  | draw r session =>
      simp only [Correlation.step, draw] at hs
      split at hs
      · obtain rfl := Option.some.inj hs
        exact h.setRequest (Or.inl rfl)
      · cases hs
  | insert r =>
      simp only [Correlation.step, insert] at hs
      split at hs
      · rename_i t hph
        obtain rfl := Option.some.inj hs
        refine EntriesLive.insertPending (h.setRequest (Or.inl rfl)) ?_
        simp only [Correlation.setRequest, Function.update_self, RequestPhase.listening]
      · cases hs
  | send r | sendFailed r | expire r =>
      simp only [Correlation.step, send, sendFailed, expire] at hs
      split at hs
      · obtain rfl := Option.some.inj hs
        exact h.setRequest (Or.inl rfl)
      · cases hs
  | receive r =>
      simp only [Correlation.step, receive] at hs
      split at hs
      · rename_i t d hph hd
        obtain rfl := Option.some.inj hs
        exact h.setRequest (Or.inr (hi.not_pending_of_oneshot hd))
      · cases hs
  | remove r =>
      simp only [Correlation.step, remove] at hs
      split at hs
      case h_3 => cases hs
      all_goals
        rename_i t hph
        obtain rfl := Option.some.inj hs
        refine EntriesLive.setRequest (s := s.removePending t.session.conn t.correlationId)
          (h.removePending _ _) (Or.inr ?_)
        exact hi.not_pending_removePending (by rw [hph]; rfl)
  | arrive d c | giveUp d =>
      simp only [Correlation.step, arrive, giveUp] at hs
      split at hs
      · obtain rfl := Option.some.inj hs
        exact h
      · cases hs
  | readByte d b =>
      simp only [Correlation.step, readByte] at hs
      split at hs
      · split_ifs at hs
        obtain rfl := Option.some.inj hs
        exact h
      · cases hs
  | resolve d =>
      simp only [Correlation.step, resolve] at hs
      split at hs
      · split_ifs at hs
        split at hs
        · obtain rfl := Option.some.inj hs
          exact h.removePending _ _
        · obtain rfl := Option.some.inj hs
          exact h
      · cases hs
  | deliver d =>
      simp only [Correlation.step, deliver] at hs
      split at hs
      · split_ifs at hs
        all_goals
          obtain rfl := Option.some.inj hs
          exact h
      · cases hs

/-- A dropped request is no longer inside `request_proxy_stream`. -/
theorem abandon_eq_some (hs : s.abandon r = some s') :
    ∃ t, s' = s.setRequest r (.done t none) := by
  rw [abandon] at hs
  split at hs
  case h_3 => cases hs
  all_goals
    obtain rfl := Option.some.inj hs
    exact ⟨_, rfl⟩

/-- **A step keeps the entries live exactly when it drops no request with its
entry.** -/
theorem EntriesLive.step_iff (hi : s.Inv) (h : s.EntriesLive) (hs : s.step a = some s') :
    s'.EntriesLive ↔ s.DropsNoEntry a := by
  by_cases ha : ∃ r, a = .abandon r
  · obtain ⟨r, rfl⟩ := ha
    obtain ⟨t, rfl⟩ := abandon_eq_some hs
    constructor
    · rintro hlive r' he c id hlookup
      obtain rfl := Action.abandon.inj he
      have hlisten := hlive c id r hlookup
      simp only [Correlation.setRequest, Function.update_self, RequestPhase.listening] at hlisten
      cases hlisten
    · exact fun hdrops => h.setRequest (Or.inr (hdrops r rfl))
  · have hne : ∀ r, a ≠ .abandon r := fun r he => ha ⟨r, he⟩
    exact ⟨fun _ r he => absurd he (hne r), fun _ => h.step hi hs hne⟩

/-- **No dead entries.**  In a run in which no request is dropped at an await
point while its entry stands, every pending entry belongs to a request that is
still waiting; and the first step that does drop one leaves a dead entry. -/
theorem pending_entries_live (h : machine.ReachedBy DropsNoEntry s) :
    s.EntriesLive ∧ ∀ a s', s.step a = some s' → (s'.EntriesLive ↔ s.DropsNoEntry a) := by
  have hlive : s.EntriesLive := by
    refine h.invariant (I := EntriesLive) ?_ fun s a s' r hi hdrops hstep => ?_
    · rintro s rfl c id r hlookup
      simp [new] at hlookup
    · exact (hi.step_iff (inv_of_reachable r.reachable) hstep).2 hdrops
  exact ⟨hlive, fun a s' hs => hlive.step_iff (inv_of_reachable h.reachable) hs⟩

/-- A visitor's request waits for its stream. -/
def waitingRun : List Action :=
  [.draw 0 (makeTestSession "web" "id" 0), .insert 0, .send 0]

theorem waitingRun_isSome : (machine.run new waitingRun).isSome = true := by
  decide +kernel

def waiting : Correlation :=
  (machine.run new waitingRun).get waitingRun_isSome

theorem waiting_reached : machine.ReachedBy DropsNoEntry waiting := by
  refine Machine.ReachedBy.run (.init rfl) (fun a ha t => ?_) (Option.some_get waitingRun_isSome).symm
  rintro r rfl
  simp [waitingRun] at ha

theorem pending_entries_live_waiting :
    (waiting.pendingStreams 0).lookup 1 = some 0 ∧ (waiting.request 0).listening = true ∧
      (∀ s', waiting.step (.expire 0) = some s' → s'.EntriesLive) := by
  have hentry : (waiting.pendingStreams 0).lookup 1 = some 0 := by decide +kernel
  obtain ⟨hlive, hstep⟩ := pending_entries_live waiting_reached
  refine ⟨hentry, hlive 0 1 0 hentry, fun s' hs => (hstep _ s' hs).2 ?_⟩
  rintro r he
  cases he

theorem abandon_isSome : (waiting.step (.abandon 0)).isSome = true := by
  decide +kernel

/-- The visitor disconnects. -/
def disconnected : Correlation :=
  (waiting.step (.abandon 0)).get abandon_isSome

theorem disconnected_reachable : machine.Reachable disconnected :=
  Machine.ReachedBy.step (a := .abandon 0) waiting_reached.reachable trivial
    (Option.some_get abandon_isSome).symm

/-- **A dropped request leaves its entry behind.** -/
theorem disconnected_not_live : ¬ ∀ s, machine.Reachable s → s.EntriesLive := by
  intro h
  have hdead : (disconnected.request 0).listening = false := by decide +kernel
  have hentry : (disconnected.pendingStreams 0).lookup 1 = some 0 := by decide +kernel
  rw [h disconnected disconnected_reachable 0 1 0 hentry] at hdead
  cases hdead

end Correlation
end Rgrok
