/-
# What the steps do to the HTTP tunnels

Only two kinds of step touch `tunnels` and `captures`: `register_tunnel`
publishes a session with an empty capture queue, and a removal takes both out
(`Lifecycle.StoreStep`).  No step changes the configuration.
-/

import Rgrok.Server.Interleaving
import Rgrok.Server.StoreInvariant

namespace Rgrok
namespace Lifecycle

/-- What a step of the lifecycle does to the HTTP tunnels and their captures. -/
inductive StoreStep (l : Lifecycle) : Action → ServerState → Prop
  | keep (a : Action) (s : ServerState) (hconfig : s.config = l.state.config)
      (htunnels : s.tunnels = l.state.tunnels) (hcaptures : s.captures = l.state.captures) :
      StoreStep l a s
  | publish (c : ℕ) (session : TunnelSession) (s : ServerState)
      (hph : l.tasks.control c = .handling (.register session))
      (hconfig : s.config = l.state.config)
      (hfree : l.state.tunnels.lookup session.subdomain = none)
      (htunnels : s.tunnels = l.state.tunnels.insert session.subdomain session)
      (hcaptures : s.captures = l.state.captures.insert session.subdomain []) :
      StoreStep l (.register c) s
  | remove (a : Action) (subdomain : String) (removed : TunnelSession) (s : ServerState)
      (hconfig : s.config = l.state.config)
      (hold : l.state.tunnels.lookup subdomain = some removed)
      (htunnels : s.tunnels = l.state.tunnels.erase subdomain)
      (hcaptures : s.captures = l.state.captures.erase subdomain) :
      StoreStep l a s

variable {l l' : Lifecycle} {a : Action} {c r : ℕ}

theorem StoreStep.same (h : l'.state = l.state) : l.StoreStep a l'.state :=
  .keep a _ (congrArg ServerState.config h) (congrArg ServerState.tunnels h)
    (congrArg ServerState.captures h)

theorem StoreStep.config {s : ServerState} (h : l.StoreStep a s) : s.config = l.state.config := by
  cases h with
  | keep _ _ hconfig => exact hconfig
  | publish _ _ _ _ hconfig => exact hconfig
  | remove _ _ _ _ hconfig => exact hconfig

theorem StoreStep.releaseReservation (key : ReservationKey) (owner : String) :
    l.StoreStep a (l.state.releaseReservation key owner) := by
  rcases l.state.releaseReservation_cases key owner with ⟨r, -, -, he⟩ | he
  · rw [he]
    exact .keep a _ rfl rfl rfl
  · rw [he]
    exact .keep a _ rfl rfl rfl

theorem StoreStep.deleteDnsRecord (session : TunnelSession) :
    l.StoreStep a (l.deleteDnsRecord session).state := by
  rw [Lifecycle.deleteDnsRecord]
  split <;> exact .same rfl

theorem StoreStep.unregister {subdomain : String} {session removed : TunnelSession}
    {s : ServerState} (h : l.state.unregisterTunnelIfOwner subdomain session = some (removed, s)) :
    l.StoreStep a s := by
  obtain ⟨hold, -, rfl⟩ := ServerState.unregisterTunnelIfOwner_eq_some h
  exact .remove a subdomain removed _ rfl hold rfl rfl

theorem StoreStep.removeTcp {port : UInt16} {session removed : TunnelSession}
    {s : ServerState} (h : l.state.removeTcpTunnelIfOwner port session = some (removed, s)) :
    l.StoreStep a s := by
  obtain ⟨-, -, rfl⟩ := ServerState.removeTcpTunnelIfOwner_eq_some h
  exact .keep a _ rfl rfl rfl

/-! ### Setting a tunnel up -/

theorem handleControlMsg_store {msg : ClientMsg} {draw : SubdomainDraw}
    (h : l.handleControlMsg c msg draw = some l') : l'.state = l.state := by
  unfold handleControlMsg at h
  split at h
  · split at h
    · split at h
      · split at h
        · obtain rfl := Option.some.inj h
          rfl
        · obtain rfl := Option.some.inj h
          rfl
      · obtain rfl := Option.some.inj h
        rfl
    · obtain rfl := Option.some.inj h
      rfl
    · obtain rfl := Option.some.inj h
      rfl
    · obtain rfl := Option.some.inj h
      rfl
  · cases h

theorem reserve_store (h : l.reserve c = some l') : l.StoreStep a l'.state := by
  have name (u : Setup) (hu : u.tunnelType.isTcp = false) :
      l.StoreStep a (l.reserveName c u hu).state := by
    rw [reserveName]
    split
    · rename_i state hstate
      obtain ⟨-, -, -, rfl⟩ := ServerState.reserveHttpTunnel_eq_ok hstate
      exact .keep a _ rfl rfl rfl
    · exact .same rfl
  have port (u : Setup) (remotePort : Option UInt16) (hu : u.tunnelType.isTcp = true) :
      l.StoreStep a (l.reservePort c u remotePort hu).state := by
    rw [reservePort]
    split
    · rename_i port state hstate
      obtain ⟨-, -, -, -, rfl⟩ := ServerState.reserveTcpPort_eq_ok hstate
      exact .keep a _ rfl rfl rfl
    · exact .same rfl
  unfold reserve at h
  split at h
  · split at h
    · obtain rfl := Option.some.inj h
      exact port _ _ _
    · obtain rfl := Option.some.inj h
      exact name _ _
    · obtain rfl := Option.some.inj h
      exact name _ _
  · cases h

theorem hashBasicAuth_store {hashPassword : String → Except String String}
    (h : l.hashBasicAuth c hashPassword = some l') : l'.state = l.state := by
  unfold hashBasicAuth at h
  split at h
  · split at h
    · obtain rfl := Option.some.inj h
      rfl
    · split at h
      · obtain rfl := Option.some.inj h
        rfl
      · obtain rfl := Option.some.inj h
        rfl
  · cases h

theorem createDns_store {createRecord : String → String → Except String String}
    (h : l.createDns c createRecord = some l') : l'.state = l.state := by
  unfold createDns at h
  split at h
  · split at h
    · obtain rfl := Option.some.inj h
      rfl
    · obtain rfl := Option.some.inj h
      rfl
  · cases h

theorem newSession_store (h : l.newSession c = some l') : l.StoreStep a l'.state := by
  unfold newSession at h
  split at h
  · split at h
    · obtain rfl := Option.some.inj h
      exact .keep a _ rfl rfl rfl
    · obtain rfl := Option.some.inj h
      exact .keep a _ rfl rfl rfl
  · cases h

theorem register_store (h : l.register c = some l') : l.StoreStep (.register c) l'.state := by
  unfold register at h
  split at h
  · rename_i session hph
    split at h
    · rename_i state hstate
      obtain rfl := Option.some.inj h
      obtain ⟨hfree, reservations, -, rfl⟩ := ServerState.registerTunnel_eq_ok hstate
      exact .publish c session _ hph rfl hfree rfl rfl
    · obtain rfl := Option.some.inj h
      exact .same rfl
  · cases h

theorem bind_store {bound : Except String Unit} (h : l.bind c bound = some l') :
    l.StoreStep a l'.state := by
  unfold bind at h
  split at h
  · split at h
    · obtain rfl := Option.some.inj h
      exact .keep a _ rfl rfl rfl
    · obtain rfl := Option.some.inj h
      exact .same rfl
  · cases h

theorem registerTcp_store (h : l.registerTcp c = some l') : l.StoreStep a l'.state := by
  unfold registerTcp at h
  split at h
  · split at h
    · rename_i state hstate
      obtain rfl := Option.some.inj h
      obtain ⟨-, -, reservations, -, rfl⟩ := ServerState.tryRegisterTcpTunnel_eq_ok hstate
      exact .keep a _ rfl rfl rfl
    · obtain rfl := Option.some.inj h
      exact .same rfl
  · cases h

theorem releaseSetup_store (h : l.releaseSetup c = some l') : l.StoreStep a l'.state := by
  unfold releaseSetup at h
  split at h
  · obtain rfl := Option.some.inj h
    exact .releaseReservation _ _
  · obtain rfl := Option.some.inj h
    exact .releaseReservation _ _
  · cases h

/-! ### Taking a tunnel down -/

theorem cleanupHttp_store (h : l.cleanupHttp c = some l') : l.StoreStep a l'.state := by
  unfold cleanupHttp at h
  split at h
  · split at h
    · obtain rfl := Option.some.inj h
      exact .same rfl
    · split at h
      · rename_i hremoved
        obtain rfl := Option.some.inj h
        exact .unregister hremoved
      · obtain rfl := Option.some.inj h
        exact .same rfl
  · cases h

theorem cleanupTcp_store (h : l.cleanupTcp c = some l') : l.StoreStep a l'.state := by
  unfold cleanupTcp at h
  split at h
  · split at h
    · obtain rfl := Option.some.inj h
      exact .same rfl
    · split at h
      · rename_i hremoved
        obtain rfl := Option.some.inj h
        exact .removeTcp hremoved
      · obtain rfl := Option.some.inj h
        exact .same rfl
  · cases h

theorem shutdown_store {caller : Caller}
    (h : l.shutdownTake caller = some l' ∨ l.shutdownStopped caller = some l' ∨
      l.shutdownTimeout caller = some l' ∨ l.shutdownRelease caller = some l') :
    l.StoreStep a l'.state := by
  rcases h with h | h | h | h
  · unfold shutdownTake at h
    split at h
    · split at h
      · obtain rfl := Option.some.inj h
        exact .keep a _ rfl rfl rfl
      · obtain rfl := Option.some.inj h
        exact .same rfl
    · cases h
  · unfold shutdownStopped at h
    split at h
    · split_ifs at h
      obtain rfl := Option.some.inj h
      exact .same rfl
    · cases h
  · unfold shutdownTimeout at h
    split at h
    · split_ifs at h
      obtain rfl := Option.some.inj h
      exact .keep a _ rfl rfl rfl
    · cases h
  · unfold shutdownRelease at h
    split at h
    · obtain rfl := Option.some.inj h
      exact .releaseReservation _ _
    · cases h

theorem releaseStopped_store {i : ℕ} (h : l.releaseStopped i = some l') :
    l.StoreStep a l'.state := by
  unfold releaseStopped at h
  split at h
  · split_ifs at h
    obtain rfl := Option.some.inj h
    exact .releaseReservation _ _
  · cases h

theorem listenerRemove_store (h : l.listenerRemove r = some l') : l.StoreStep a l'.state := by
  unfold listenerRemove at h
  split at h
  · split at h
    · rename_i hremoved
      obtain rfl := Option.some.inj h
      exact .removeTcp hremoved
    · obtain rfl := Option.some.inj h
      exact .same rfl
  · cases h

theorem reapHttp_store (h : l.reapHttp = some l') : l.StoreStep a l'.state := by
  unfold reapHttp at h
  split at h
  · obtain rfl := Option.some.inj h
    exact .same rfl
  · split at h
    · rename_i hremoved
      obtain rfl := Option.some.inj h
      exact .unregister hremoved
    · obtain rfl := Option.some.inj h
      exact .same rfl
  · cases h

theorem reapTcp_store (h : l.reapTcp = some l') : l.StoreStep a l'.state := by
  unfold reapTcp at h
  split at h
  · obtain rfl := Option.some.inj h
    exact .same rfl
  · split at h
    · rename_i hremoved
      obtain rfl := Option.some.inj h
      exact .removeTcp hremoved
    · obtain rfl := Option.some.inj h
      exact .same rfl
  · cases h

theorem reapDns_store (h : l.reapDns = some l') : l.StoreStep a l'.state := by
  unfold reapDns at h
  split at h
  · obtain rfl := Option.some.inj h
    exact .deleteDnsRecord _
  · obtain rfl := Option.some.inj h
    exact .deleteDnsRecord _
  · cases h

/-! ### All steps -/

/-- **Every step of the lifecycle** keeps the HTTP tunnels, publishes one or
removes one. -/
theorem step_store (h : l.step a = some l') : l.StoreStep a l'.state := by
  cases a with
  | accept c | enterLoop c | enterSelect c | continueLoop c cause | reapStop | reapHttpCollected
  | reapTcpCollected | reapTick now | stopListening r cause =>
      simp only [step, accept, enterLoop, enterSelect, continueLoop, reapStop, reapHttpCollected,
        reapTcpCollected, reapTick, stopListening] at h
      split at h
      · obtain rfl := Option.some.inj h
        exact .same rfl
      · cases h
  | breakLoop c cause | replied c | reapNotified =>
      simp only [step, breakLoop, replied, reapNotified] at h
      split at h
      · obtain rfl := Option.some.inj h
        exact .same rfl
      · obtain rfl := Option.some.inj h
        exact .same rfl
      · cases h
  | handleControlMsg c msg draw => exact .same (handleControlMsg_store h)
  | reserve c => exact reserve_store h
  | hashBasicAuth c hashPassword => exact .same (hashBasicAuth_store h)
  | createDns c createRecord => exact .same (createDns_store h)
  | newSession c => exact newSession_store h
  | register c => exact register_store h
  | bind c bound => exact bind_store h
  | registerTcp c => exact registerTcp_store h
  | releaseSetup c => exact releaseSetup_store h
  | deleteFailedDns c | cleanupHttpDns c | cleanupTcpDns c | listenerDns r =>
      simp only [step, deleteFailedDns, cleanupHttpDns, cleanupTcpDns, listenerDns] at h
      split at h
      · obtain rfl := Option.some.inj h
        exact .deleteDnsRecord _
      · cases h
  | cleanupHttp c => exact cleanupHttp_store h
  | cleanupTcp c => exact cleanupTcp_store h
  | shutdownTake caller => exact shutdown_store (Or.inl h)
  | shutdownStopped caller => exact shutdown_store (Or.inr (Or.inl h))
  | shutdownTimeout caller => exact shutdown_store (Or.inr (Or.inr (Or.inl h)))
  | shutdownRelease caller => exact shutdown_store (Or.inr (Or.inr (Or.inr h)))
  | releaseStopped i => exact releaseStopped_store h
  | releaseDec i | signalStopped r =>
      simp only [step, releaseDec, signalStopped] at h
      split at h
      · obtain rfl := Option.some.inj h
        exact .keep _ _ rfl rfl rfl
      · cases h
  | listenerRemove r => exact listenerRemove_store h
  | listenerRelease r =>
      simp only [step, listenerRelease] at h
      split at h
      · obtain rfl := Option.some.inj h
        exact .releaseReservation _ _
      · cases h
  | reapFoundHttp subdomain | reapFoundTcp port =>
      simp only [step, reapFoundHttp, reapFoundTcp] at h
      split at h
      · obtain ⟨session, -, rfl⟩ := Option.map_eq_some_iff.1 h
        exact .same rfl
      · cases h
  | reapHttp => exact reapHttp_store h
  | reapDns => exact reapDns_store h
  | reapTcp => exact reapTcp_store h

end Lifecycle
end Rgrok
