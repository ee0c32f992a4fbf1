/-
# What holds of the tunnel store after any sequence of operations

`crates/rgrok-server/src/tunnel_manager.rs`.  Each operation is one critical
section of the `reservations` mutex, so concurrent sessions produce some
sequence of them; `storeMachine` lets any caller make any call in any order.

`ServerState.Valid` is the invariant: the three maps together stay within
`max_tunnels`, a name or port is never both published and reserved, the gauge
counts the published tunnels, every published HTTP tunnel has a capture queue
and nothing else does, and every port in use lies in `tcp_port_range`.  The
disjointness clauses are what make the capacity clause inductive: an operation
that moves an entry between maps then replaces one entry by one.

Each operation has an inversion lemma (`registerTunnel_eq_ok` and so on) that
says everything a successful call did, and the later files use those instead
of unfolding the operations.
-/

import Mathlib.Tactic.Ring
import Rgrok.Lib.Machine
import Rgrok.Server.TunnelManager

namespace Rgrok
namespace ServerState

variable {s s' : ServerState} {session removed : TunnelSession} {key : ReservationKey}
  {subdomain owner : String} {port : UInt16} {arc : ℕ}

/-! ### What each operation does when it succeeds -/

theorem ownsReservation_eq_true :
    s.ownsReservation key owner = true ↔
      ∃ r, s.reservations.lookup key = some r ∧ r.owner = owner := by
  unfold ownsReservation
  cases s.reservations.lookup key with
  | none => simp
  | some r => simp

theorem ownsReservation_eq_false_of_none (h : s.reservations.lookup key = none) :
    s.ownsReservation key owner = false := by
  rw [ownsReservation, h, Option.any_none]

theorem lookup_eq_none_of_not_owns (h : ¬((s.reservations.lookup key).isSome && !false) = true) :
    s.reservations.lookup key = none := by
  simpa using h

theorem atCapacity_eq_false : s.atCapacity = false ↔ s.occupied < s.config.server.maxTunnels := by
  rw [atCapacity, decide_eq_false_iff_not, not_le]

/-- The reservations after publishing under `key`: the caller's reservation is
consumed, or, where the key is not reserved, a free slot is taken. -/
def ConsumesReservation (s : ServerState) (key : ReservationKey) (owner : String)
    (reservations : AList fun _ : ReservationKey => Reservation) : Prop :=
  (∃ r, s.reservations.lookup key = some r ∧ r.owner = owner ∧
      reservations = s.reservations.erase key) ∨
    (s.reservations.lookup key = none ∧ s.occupied < s.config.server.maxTunnels ∧
      reservations = s.reservations)

theorem registerTunnel_eq_ok (h : s.registerTunnel session = .ok s') :
    s.tunnels.lookup session.subdomain = none ∧
      ∃ reservations,
        s.ConsumesReservation (.http session.subdomain) session.id reservations ∧
        s' = { s with
          tunnels := s.tunnels.insert session.subdomain session
          reservations := reservations
          captures := s.captures.insert session.subdomain []
          activeTunnels := s.activeTunnels + 1 } := by
  unfold registerTunnel at h
  dsimp only at h
  split at h
  · cases h
  rename_i hres
  split at h
  · cases h
  rename_i htun
  split at h
  · cases h
  rename_i hcap
  obtain rfl := Except.ok.inj h
  refine ⟨by simpa using htun, _, ?_, rfl⟩
  cases howns : s.ownsReservation (.http session.subdomain) session.id with
  | true =>
      obtain ⟨r, hr, hid⟩ := ownsReservation_eq_true.1 howns
      exact Or.inl ⟨r, hr, hid, rfl⟩
  | false =>
      rw [howns] at hres hcap
      refine Or.inr ⟨lookup_eq_none_of_not_owns hres, atCapacity_eq_false.1 ?_, rfl⟩
      simpa using hcap

/-- The same for `try_register_tcp_tunnel`, which checks the range first. -/
theorem tryRegisterTcpTunnel_eq_ok (h : s.tryRegisterTcpTunnel port session = .ok s') :
    s.config.inTcpPortRange port = true ∧ s.tcpTunnels.lookup port = none ∧
      ∃ reservations,
        s.ConsumesReservation (.tcp port) session.id reservations ∧
        s' = { s with
          tcpTunnels := s.tcpTunnels.insert port session
          reservations := reservations
          activeTunnels := s.activeTunnels + 1 } := by
  unfold tryRegisterTcpTunnel at h
  dsimp only at h
  split at h
  · cases h
  rename_i hrange
  split at h
  · cases h
  rename_i hres
  split at h
  · cases h
  rename_i htun
  split at h
  · cases h
  rename_i hcap
  obtain rfl := Except.ok.inj h
  refine ⟨by simpa using hrange, by simpa using htun, _, ?_, rfl⟩
  cases howns : s.ownsReservation (.tcp port) session.id with
  | true =>
      obtain ⟨r, hr, hid⟩ := ownsReservation_eq_true.1 howns
      exact Or.inl ⟨r, hr, hid, rfl⟩
  | false =>
      rw [howns] at hres hcap
      refine Or.inr ⟨lookup_eq_none_of_not_owns hres, atCapacity_eq_false.1 ?_, rfl⟩
      simpa using hcap

theorem reserveHttpTunnel_eq_ok (h : s.reserveHttpTunnel subdomain owner arc = .ok s') :
    s.tunnels.lookup subdomain = none ∧ s.reservations.lookup (.http subdomain) = none ∧
      s.occupied < s.config.server.maxTunnels ∧
      s' = { s with reservations := s.reservations.insert (.http subdomain) ⟨owner, arc⟩ } := by
  unfold reserveHttpTunnel at h
  split at h
  · cases h
  rename_i htaken
  split at h
  · cases h
  rename_i hcap
  rw [Bool.or_eq_true, not_or] at htaken
  exact ⟨by simpa using htaken.1, by simpa using htaken.2,
    atCapacity_eq_false.1 (by simpa using hcap), (Except.ok.inj h).symm⟩

theorem inTcpPortRange_of_chooseTcpPort {requested : Option UInt16}
    (h : s.chooseTcpPort requested = .ok port) : s.config.inTcpPortRange port = true := by
  cases requested with
  | some p =>
      simp only [chooseTcpPort] at h
      split at h
      · rename_i hp
        exact Except.ok.inj h ▸ hp
      · cases h
  | none =>
      simp only [chooseTcpPort] at h
      split at h
      · rename_i p hfind
        exact Except.ok.inj h ▸
          Config.inTcpPortRange_of_mem_tcpPorts (List.mem_of_find?_eq_some hfind)
      · cases h

theorem reserveTcpPort_eq_ok {requested : Option UInt16}
    (h : s.reserveTcpPort requested owner arc = .ok (port, s')) :
    s.config.inTcpPortRange port = true ∧ s.tcpTunnels.lookup port = none ∧
      s.reservations.lookup (.tcp port) = none ∧ s.occupied < s.config.server.maxTunnels ∧
      s' = { s with reservations := s.reservations.insert (.tcp port) ⟨owner, arc⟩ } := by
  unfold reserveTcpPort at h
  split at h
  · cases h
  rename_i p hchoose
  split at h
  · cases h
  rename_i htaken
  split at h
  · cases h
  rename_i hcap
  obtain ⟨rfl, rfl⟩ := Prod.mk.inj (Except.ok.inj h)
  rw [Bool.or_eq_true, not_or] at htaken
  exact ⟨inTcpPortRange_of_chooseTcpPort hchoose, by simpa using htaken.1,
    by simpa using htaken.2, atCapacity_eq_false.1 (by simpa using hcap), rfl⟩

/-- A release changes the state only where the owner id matches. -/
theorem releaseReservation_cases (s : ServerState) (key : ReservationKey) (owner : String) :
    (∃ r, s.reservations.lookup key = some r ∧ r.owner = owner ∧
        s.releaseReservation key owner = { s with reservations := s.reservations.erase key }) ∨
      s.releaseReservation key owner = s := by
  unfold releaseReservation
  split
  · rename_i howns
    obtain ⟨r, hr, hid⟩ := ownsReservation_eq_true.1 howns
    exact Or.inl ⟨r, hr, hid, rfl⟩
  · exact Or.inr rfl

theorem removeTunnelIfOwner_eq_some {owner : Option TunnelSession}
    (h : s.removeTunnelIfOwner subdomain owner = some (removed, s')) :
    s.tunnels.lookup subdomain = some removed ∧
      (∀ session ∈ owner, removed.arc = session.arc) ∧
      s' = { s with
        tunnels := s.tunnels.erase subdomain
        captures := s.captures.erase subdomain
        cells := (s.updateCell removed.arc fun cell => { cell with idleCancel := true }).cells
        activeTunnels := s.activeTunnels - 1 } := by
  unfold removeTunnelIfOwner at h
  split at h
  · cases h
  rename_i current hlookup
  split at h
  · rename_i howner
    obtain ⟨rfl, rfl⟩ := Prod.mk.inj (Option.some.inj h)
    refine ⟨hlookup, fun session hs => ?_, rfl⟩
    rw [Option.mem_def] at hs
    simpa [hs] using howner
  · cases h

theorem unregisterTunnelIfOwner_eq_some
    (h : s.unregisterTunnelIfOwner subdomain session = some (removed, s')) :
    s.tunnels.lookup subdomain = some removed ∧ removed.arc = session.arc ∧
      s' = { s with
        tunnels := s.tunnels.erase subdomain
        captures := s.captures.erase subdomain
        cells := (s.updateCell removed.arc fun cell => { cell with idleCancel := true }).cells
        activeTunnels := s.activeTunnels - 1 } :=
  let ⟨hlookup, howner, hs'⟩ := removeTunnelIfOwner_eq_some h
  ⟨hlookup, howner session rfl, hs'⟩

theorem removeTcpTunnelIfOwner_eq_some
    (h : s.removeTcpTunnelIfOwner port session = some (removed, s')) :
    s.tcpTunnels.lookup port = some removed ∧ removed.arc = session.arc ∧
      s' = { s with
        tcpTunnels := s.tcpTunnels.erase port
        reservations := s.reservations.insert (.tcp port) ⟨removed.id, removed.arc⟩
        cells := (s.updateCell removed.arc fun cell =>
          { cell with cancel := true, idleCancel := true }).cells
        activeTunnels := s.activeTunnels - 1 } := by
  unfold removeTcpTunnelIfOwner at h
  split at h
  · cases h
  rename_i current hlookup
  split at h
  · rename_i harc
    obtain ⟨rfl, rfl⟩ := Prod.mk.inj (Option.some.inj h)
    exact ⟨hlookup, by simpa using harc, rfl⟩
  · cases h

/-! ### The invariant -/

/-- The store invariant. -/
structure Valid (s : ServerState) : Prop where
  capacity : s.occupied ≤ s.config.server.maxTunnels
  http_disjoint : ∀ name session, s.tunnels.lookup name = some session →
    s.reservations.lookup (.http name) = none
  tcp_disjoint : ∀ port session, s.tcpTunnels.lookup port = some session →
    s.reservations.lookup (.tcp port) = none
  gauge : s.activeTunnels = s.tunnels.size + s.tcpTunnels.size
  captures : ∀ name, (s.captures.lookup name).isSome = (s.tunnels.lookup name).isSome
  tunnel_range : ∀ port session, s.tcpTunnels.lookup port = some session →
    s.config.inTcpPortRange port = true
  reserved_range : ∀ port r, s.reservations.lookup (.tcp port) = some r →
    s.config.inTcpPortRange port = true

theorem Valid.new (config : Config) : (ServerState.new config).Valid where
  capacity := Nat.zero_le _
  http_disjoint := by simp [ServerState.new]
  tcp_disjoint := by simp [ServerState.new]
  gauge := rfl
  captures := by simp [ServerState.new]
  tunnel_range := by simp [ServerState.new]
  reserved_range := by simp [ServerState.new]

/-- Changing only what the invariant does not mention. -/
theorem Valid.congr (h : s.Valid) (hconfig : s'.config = s.config)
    (htunnels : s'.tunnels = s.tunnels) (htcp : s'.tcpTunnels = s.tcpTunnels)
    (hres : s'.reservations = s.reservations) (hcap : s'.captures = s.captures)
    (hgauge : s'.activeTunnels = s.activeTunnels) : s'.Valid where
  capacity := by rw [occupied, hconfig, htunnels, htcp, hres]; exact h.capacity
  http_disjoint := by rw [htunnels, hres]; exact h.http_disjoint
  tcp_disjoint := by rw [htcp, hres]; exact h.tcp_disjoint
  gauge := by rw [hgauge, htunnels, htcp]; exact h.gauge
  captures := by rw [htunnels, hcap]; exact h.captures
  tunnel_range := by rw [htcp, hconfig]; exact h.tunnel_range
  reserved_range := by rw [hres, hconfig]; exact h.reserved_range

/-- Reserving a key that is neither published nor reserved, below capacity. -/
theorem Valid.insert_reservation (h : s.Valid) {r : Reservation}
    (hfree : s.reservations.lookup key = none)
    (hhttp : ∀ name, key = .http name → s.tunnels.lookup name = none)
    (htcp : ∀ p, key = .tcp p → s.tcpTunnels.lookup p = none ∧ s.config.inTcpPortRange p = true)
    (hcap : s.occupied < s.config.server.maxTunnels) :
    { s with reservations := s.reservations.insert key r }.Valid where
  capacity := by
    have := AList.size_insert_of_lookup_eq_none (b := r) hfree
    simp only [occupied] at hcap ⊢
    omega
  http_disjoint name session hname := by
    rw [AList.lookup_insert_ite]
    split_ifs with hk
    · rw [hhttp name hk.symm] at hname
      cases hname
    · exact h.http_disjoint name session hname
  tcp_disjoint p session hp := by
    rw [AList.lookup_insert_ite]
    split_ifs with hk
    · rw [(htcp p hk.symm).1] at hp
      cases hp
    · exact h.tcp_disjoint p session hp
  gauge := h.gauge
  captures := h.captures
  tunnel_range := h.tunnel_range
  reserved_range p r' hp := by
    rw [AList.lookup_insert_ite] at hp
    split_ifs at hp with hk
    · exact (htcp p hk.symm).2
    · exact h.reserved_range p r' hp

/-- Dropping a reservation. -/
theorem Valid.erase_reservation (h : s.Valid) (key : ReservationKey) :
    { s with reservations := s.reservations.erase key }.Valid where
  capacity := by
    have hcap := h.capacity
    simp only [occupied] at hcap ⊢
    cases hk : s.reservations.lookup key with
    | none =>
        rw [show s.reservations.erase key = s.reservations from ?_]
        · exact hcap
        · exact AList.ext (List.kerase_of_notMem_keys (AList.lookup_eq_none.1 hk))
    | some r =>
        have := AList.size_erase_of_lookup_eq_some hk
        omega
  http_disjoint name session hname := by
    rw [AList.lookup_erase_ite]
    split_ifs
    · rfl
    · exact h.http_disjoint name session hname
  tcp_disjoint p session hp := by
    rw [AList.lookup_erase_ite]
    split_ifs
    · rfl
    · exact h.tcp_disjoint p session hp
  gauge := h.gauge
  captures := h.captures
  tunnel_range := h.tunnel_range
  reserved_range p r hp := by
    rw [AList.lookup_erase_ite] at hp
    split_ifs at hp
    exact h.reserved_range p r hp

/-- After publishing under `key` the key is not reserved and the other
reservations stand. -/
theorem ConsumesReservation.lookup {reservations : AList fun _ : ReservationKey => Reservation}
    (h : s.ConsumesReservation key owner reservations) (k : ReservationKey) :
    reservations.lookup k = if k = key then none else s.reservations.lookup k := by
  rcases h with ⟨r, -, -, rfl⟩ | ⟨hnone, -, rfl⟩
  · rw [AList.lookup_erase_ite]
  · split_ifs with hk
    · rw [hk, hnone]
    · rfl

/-- Publishing pays for the new entry: with a reservation or with a free slot. -/
theorem ConsumesReservation.size {reservations : AList fun _ : ReservationKey => Reservation}
    (h : s.ConsumesReservation key owner reservations) (hv : s.Valid) :
    s.tunnels.size + s.tcpTunnels.size + reservations.size + 1 ≤ s.config.server.maxTunnels := by
  have hcap := hv.capacity
  rcases h with ⟨r, hr, -, rfl⟩ | ⟨-, hlt, rfl⟩
  · have := AList.size_erase_of_lookup_eq_some hr
    simp only [occupied] at hcap
    omega
  · simp only [occupied] at hlt
    omega

theorem Valid.registerTunnel (h : s.Valid) (hop : s.registerTunnel session = .ok s') :
    s'.Valid := by
  obtain ⟨htun, reservations, hres, rfl⟩ := registerTunnel_eq_ok hop
  have hsize := AList.size_insert_of_lookup_eq_none (b := session) htun
  have hpaid := hres.size h
  constructor
  · simp only [occupied]
    omega
  · intro name t hname
    simp only [AList.lookup_insert_ite] at hname
    rw [hres.lookup]
    split_ifs at hname with hn
    · rw [if_pos (by rw [hn])]
    · split_ifs
      · rfl
      · exact h.http_disjoint name t hname
  · intro p t hp
    rw [hres.lookup, if_neg (by simp)]
    exact h.tcp_disjoint p t hp
  · simp only [h.gauge, hsize]
    push_cast
    ring
  · intro name
    simp only [AList.lookup_insert_ite]
    split_ifs
    · rfl
    · exact h.captures name
  · exact h.tunnel_range
  · intro p r hp
    rw [hres.lookup, if_neg (by simp)] at hp
    exact h.reserved_range p r hp

theorem Valid.tryRegisterTcpTunnel (h : s.Valid)
    (hop : s.tryRegisterTcpTunnel port session = .ok s') : s'.Valid := by
  obtain ⟨hrange, htun, reservations, hres, rfl⟩ := tryRegisterTcpTunnel_eq_ok hop
  have hsize := AList.size_insert_of_lookup_eq_none (b := session) htun
  have hpaid := hres.size h
  constructor
  · simp only [occupied]
    omega
  · intro name t hname
    rw [hres.lookup, if_neg (by simp)]
    exact h.http_disjoint name t hname
  · intro p t hp
    simp only [AList.lookup_insert_ite] at hp
    rw [hres.lookup]
    split_ifs at hp with hn
    · rw [if_pos (by rw [hn])]
    · split_ifs
      · rfl
      · exact h.tcp_disjoint p t hp
  · simp only [h.gauge, hsize]
    push_cast
    ring
  · exact h.captures
  · intro p t hp
    simp only [AList.lookup_insert_ite] at hp
    split_ifs at hp with hn
    · rw [hn]
      exact hrange
    · exact h.tunnel_range p t hp
  · intro p r hp
    rw [hres.lookup] at hp
    split_ifs at hp
    exact h.reserved_range p r hp

theorem Valid.reserveHttpTunnel (h : s.Valid)
    (hop : s.reserveHttpTunnel subdomain owner arc = .ok s') : s'.Valid := by
  obtain ⟨htun, hres, hcap, rfl⟩ := reserveHttpTunnel_eq_ok hop
  refine h.insert_reservation hres (fun name hn => ?_) (fun p hp => by cases hp) hcap
  obtain rfl := ReservationKey.http.inj hn
  exact htun

theorem Valid.reserveTcpPort (h : s.Valid) {requested : Option UInt16}
    (hop : s.reserveTcpPort requested owner arc = .ok (port, s')) : s'.Valid := by
  obtain ⟨hrange, htun, hres, hcap, rfl⟩ := reserveTcpPort_eq_ok hop
  refine h.insert_reservation hres (fun name hn => by cases hn) (fun p hp => ?_) hcap
  obtain rfl := ReservationKey.tcp.inj hp
  exact ⟨htun, hrange⟩

theorem Valid.releaseReservation (h : s.Valid) (key : ReservationKey) (owner : String) :
    (s.releaseReservation key owner).Valid := by
  rcases s.releaseReservation_cases key owner with ⟨r, -, -, he⟩ | he
  · rw [he]
    exact h.erase_reservation key
  · rw [he]
    exact h

theorem Valid.unregisterTunnelIfOwner (h : s.Valid)
    (hop : s.unregisterTunnelIfOwner subdomain session = some (removed, s')) : s'.Valid := by
  obtain ⟨hlookup, -, rfl⟩ := unregisterTunnelIfOwner_eq_some hop
  have hsize := AList.size_erase_of_lookup_eq_some hlookup
  have hcap := h.capacity
  simp only [occupied] at hcap
  constructor
  · simp only [occupied]
    omega
  · intro name t hname
    rw [AList.lookup_erase_ite] at hname
    split_ifs at hname
    exact h.http_disjoint name t hname
  · exact h.tcp_disjoint
  · simp only [h.gauge, ← hsize]
    push_cast
    ring
  · intro name
    simp only [AList.lookup_erase_ite]
    split_ifs
    · rfl
    · exact h.captures name
  · exact h.tunnel_range
  · exact h.reserved_range

/-- The TCP removal puts a reservation where the tunnel was, so the number of
occupied slots does not change. -/
theorem Valid.removeTcpTunnelIfOwner (h : s.Valid)
    (hop : s.removeTcpTunnelIfOwner port session = some (removed, s')) : s'.Valid := by
  obtain ⟨hlookup, -, rfl⟩ := removeTcpTunnelIfOwner_eq_some hop
  have hsize := AList.size_erase_of_lookup_eq_some hlookup
  have hfree := h.tcp_disjoint port removed hlookup
  have hins := AList.size_insert_of_lookup_eq_none (b := (⟨removed.id, removed.arc⟩ : Reservation))
    hfree
  have hcap := h.capacity
  simp only [occupied] at hcap
  constructor
  · simp only [occupied]
    omega
  · intro name t hname
    rw [AList.lookup_insert_ite, if_neg (by simp)]
    exact h.http_disjoint name t hname
  · intro p t hp
    rw [AList.lookup_erase_ite] at hp
    split_ifs at hp with hne
    rw [AList.lookup_insert_ite, if_neg (by simpa using hne)]
    exact h.tcp_disjoint p t hp
  · simp only [h.gauge, ← hsize]
    push_cast
    ring
  · exact h.captures
  · intro p t hp
    rw [AList.lookup_erase_ite] at hp
    split_ifs at hp
    exact h.tunnel_range p t hp
  · intro p r hp
    rw [AList.lookup_insert_ite] at hp
    split_ifs at hp with hk
    · obtain rfl := ReservationKey.tcp.inj hk
      exact h.tunnel_range p removed hlookup
    · exact h.reserved_range p r hp

end ServerState

/-! ### Every sequence of operations -/

/-- One critical section on the store, by any session or task.  The idle reaper
enters the lock once per candidate, through `unregister_tunnel_if_owner` for an
HTTP tunnel and `remove_tcp_tunnel_if_owner` for a TCP tunnel. -/
inductive StoreOp
  | reserveHttpTunnel (subdomain owner : String) (arc : ℕ)
  | releaseHttpTunnel (subdomain owner : String)
  | registerTunnel (session : TunnelSession)
  | unregisterTunnelIfOwner (subdomain : String) (session : TunnelSession)
  | reserveTcpPort (requested : Option UInt16) (owner : String) (arc : ℕ)
  | releaseTcpPortReservation (port : UInt16) (owner : String)
  | tryRegisterTcpTunnel (port : UInt16) (session : TunnelSession)
  | removeTcpTunnelIfOwner (port : UInt16) (session : TunnelSession)
  | reapIdleTunnel (candidate : ReservationKey) (session : TunnelSession)

/-- The state after the operation; one that returns an error or `None` changes
nothing. -/
def StoreOp.apply (s : ServerState) : StoreOp → ServerState
  | .reserveHttpTunnel subdomain owner arc =>
      (s.reserveHttpTunnel subdomain owner arc).toOption.getD s
  | .releaseHttpTunnel subdomain owner => s.releaseHttpTunnel subdomain owner
  | .registerTunnel session => (s.registerTunnel session).toOption.getD s
  | .unregisterTunnelIfOwner subdomain session =>
      ((s.unregisterTunnelIfOwner subdomain session).map Prod.snd).getD s
  | .reserveTcpPort requested owner arc =>
      ((s.reserveTcpPort requested owner arc).toOption.map Prod.snd).getD s
  | .releaseTcpPortReservation port owner => s.releaseTcpPortReservation port owner
  | .tryRegisterTcpTunnel port session => (s.tryRegisterTcpTunnel port session).toOption.getD s
  | .removeTcpTunnelIfOwner port session =>
      ((s.removeTcpTunnelIfOwner port session).map Prod.snd).getD s
  | .reapIdleTunnel (.http subdomain) session =>
      ((s.unregisterTunnelIfOwner subdomain session).map Prod.snd).getD s
  | .reapIdleTunnel (.tcp port) session =>
      ((s.removeTcpTunnelIfOwner port session).map Prod.snd).getD s

/-- The store with every operation enabled all the time. -/
def storeMachine (config : Config) : Machine ServerState StoreOp where
  init s := s = ServerState.new config
  step s op := some (op.apply s)

namespace ServerState

/-- What a fallible operation keeps on success, it keeps. -/
theorem getD_toOption_invariant {I : ServerState → Prop} {s : ServerState} {ε : Type}
    {r : Except ε ServerState} (hs : I s) (hok : ∀ s', r = .ok s' → I s') :
    I (r.toOption.getD s) := by
  cases r with
  | error e => exact hs
  | ok s' => exact hok s' rfl

theorem getD_map_snd_invariant {I : ServerState → Prop} {s : ServerState} {α : Type}
    {r : Option (α × ServerState)} (hs : I s) (hok : ∀ a s', r = some (a, s') → I s') :
    I ((r.map Prod.snd).getD s) := by
  cases r with
  | none => exact hs
  | some p => exact hok p.1 p.2 rfl

theorem config_of_releaseReservation (s : ServerState) (key : ReservationKey) (owner : String) :
    (s.releaseReservation key owner).config = s.config := by
  rcases s.releaseReservation_cases key owner with ⟨r, -, -, he⟩ | he <;> rw [he]

/-- Every operation keeps the invariant. -/
theorem Valid.apply {s : ServerState} (h : s.Valid) (op : StoreOp) : (op.apply s).Valid := by
  cases op with
  | reserveHttpTunnel subdomain owner arc =>
      exact getD_toOption_invariant h fun s' hop => h.reserveHttpTunnel hop
  | releaseHttpTunnel subdomain owner => exact h.releaseReservation _ _
  | registerTunnel session =>
      exact getD_toOption_invariant h fun s' hop => h.registerTunnel hop
  | unregisterTunnelIfOwner subdomain session =>
      exact getD_map_snd_invariant h fun _ s' hop => h.unregisterTunnelIfOwner hop
  | reserveTcpPort requested owner arc =>
      refine getD_map_snd_invariant (I := Valid) h fun port s' hop => ?_
      cases hr : s.reserveTcpPort requested owner arc with
      | error e => rw [hr] at hop; cases hop
      | ok r =>
          rw [hr] at hop
          obtain rfl := Option.some.inj hop
          exact h.reserveTcpPort hr
  | releaseTcpPortReservation port owner => exact h.releaseReservation _ _
  | tryRegisterTcpTunnel port session =>
      exact getD_toOption_invariant h fun s' hop => h.tryRegisterTcpTunnel hop
  | removeTcpTunnelIfOwner port session =>
      exact getD_map_snd_invariant h fun _ s' hop => h.removeTcpTunnelIfOwner hop
  | reapIdleTunnel candidate session =>
      cases candidate with
      | http subdomain =>
          exact getD_map_snd_invariant h fun _ s' hop => h.unregisterTunnelIfOwner hop
      | tcp port =>
          exact getD_map_snd_invariant h fun _ s' hop => h.removeTcpTunnelIfOwner hop

/-- No operation touches the configuration. -/
theorem config_apply (s : ServerState) (op : StoreOp) : (op.apply s).config = s.config := by
  have hrefl : s.config = s.config := rfl
  cases op with
  | reserveHttpTunnel subdomain owner arc =>
      refine getD_toOption_invariant (I := fun t => t.config = s.config) hrefl fun s' hop => ?_
      obtain ⟨-, -, -, rfl⟩ := reserveHttpTunnel_eq_ok hop
      rfl
  | releaseHttpTunnel subdomain owner => exact config_of_releaseReservation _ _ _
  | registerTunnel session =>
      refine getD_toOption_invariant (I := fun t => t.config = s.config) hrefl fun s' hop => ?_
      obtain ⟨-, _, -, rfl⟩ := registerTunnel_eq_ok hop
      rfl
  | unregisterTunnelIfOwner subdomain session =>
      refine getD_map_snd_invariant (I := fun t => t.config = s.config) hrefl fun _ s' hop => ?_
      obtain ⟨-, -, rfl⟩ := unregisterTunnelIfOwner_eq_some hop
      rfl
  | reserveTcpPort requested owner arc =>
      refine getD_map_snd_invariant (I := fun t => t.config = s.config) hrefl fun port s' hop => ?_
      cases hr : s.reserveTcpPort requested owner arc with
      | error e => rw [hr] at hop; cases hop
      | ok r =>
          rw [hr] at hop
          obtain rfl := Option.some.inj hop
          obtain ⟨-, -, -, -, rfl⟩ := reserveTcpPort_eq_ok hr
          rfl
  | releaseTcpPortReservation port owner => exact config_of_releaseReservation _ _ _
  | tryRegisterTcpTunnel port session =>
      refine getD_toOption_invariant (I := fun t => t.config = s.config) hrefl fun s' hop => ?_
      obtain ⟨-, -, _, -, rfl⟩ := tryRegisterTcpTunnel_eq_ok hop
      rfl
  | removeTcpTunnelIfOwner port session =>
      refine getD_map_snd_invariant (I := fun t => t.config = s.config) hrefl fun _ s' hop => ?_
      obtain ⟨-, -, rfl⟩ := removeTcpTunnelIfOwner_eq_some hop
      rfl
  | reapIdleTunnel candidate session =>
      cases candidate with
      | http subdomain =>
          refine getD_map_snd_invariant (I := fun t => t.config = s.config) hrefl
            fun _ s' hop => ?_
          obtain ⟨-, -, rfl⟩ := unregisterTunnelIfOwner_eq_some hop
          rfl
      | tcp port =>
          refine getD_map_snd_invariant (I := fun t => t.config = s.config) hrefl
            fun _ s' hop => ?_
          obtain ⟨-, -, rfl⟩ := removeTcpTunnelIfOwner_eq_some hop
          rfl

/-- **The tunnel store is consistent after every sequence of operations.**  The
three maps stay within `max_tunnels`, no name or port is both published and
reserved, the gauge counts the published tunnels, the capture queues are those
of the published HTTP tunnels, and every port in use is in range. -/
theorem store_consistent (config : Config) {s : ServerState}
    (h : (storeMachine config).Reachable s) :
    s.tunnels.size + s.tcpTunnels.size + s.reservations.size ≤ config.server.maxTunnels ∧
      (∀ name, ¬((s.tunnels.lookup name).isSome ∧
        (s.reservations.lookup (.http name)).isSome)) ∧
      (∀ port, ¬((s.tcpTunnels.lookup port).isSome ∧
        (s.reservations.lookup (.tcp port)).isSome)) ∧
      s.activeTunnels = s.tunnels.size + s.tcpTunnels.size ∧
      (∀ name, name ∈ s.captures ↔ name ∈ s.tunnels) ∧
      (∀ port, port ∈ s.tcpTunnels ∨ ReservationKey.tcp port ∈ s.reservations →
        config.server.tcpPortRange.1 ≤ port ∧ port < config.server.tcpPortRange.2) := by
  have hinv : s.Valid ∧ s.config = config := by
    refine Machine.ReachedBy.invariant (I := fun t => t.Valid ∧ t.config = config) ?_ ?_ h
    · rintro t rfl
      exact ⟨Valid.new config, rfl⟩
    · rintro t op t' - ⟨hv, hc⟩ - hstep
      obtain rfl := Option.some.inj hstep
      exact ⟨hv.apply op, (t.config_apply op).trans hc⟩
  obtain ⟨hv, rfl⟩ := hinv
  refine ⟨hv.capacity, fun name hn => ?_, fun port hp => ?_, hv.gauge, fun name => ?_,
    fun port hp => ?_⟩
  · obtain ⟨t, ht⟩ := Option.isSome_iff_exists.1 hn.1
    rw [hv.http_disjoint name t ht] at hn
    exact absurd hn.2 (by simp)
  · obtain ⟨t, ht⟩ := Option.isSome_iff_exists.1 hp.1
    rw [hv.tcp_disjoint port t ht] at hp
    exact absurd hp.2 (by simp)
  · rw [← AList.lookup_isSome, ← AList.lookup_isSome, hv.captures]
  · have hrange : s.config.inTcpPortRange port = true := by
      rcases hp with hp | hp
      · obtain ⟨t, ht⟩ := Option.isSome_iff_exists.1 (AList.lookup_isSome.2 hp)
        exact hv.tunnel_range port t ht
      · obtain ⟨r, hr⟩ := Option.isSome_iff_exists.1 (AList.lookup_isSome.2 hp)
        exact hv.reserved_range port r hr
    simpa [Config.inTcpPortRange] using hrange

/-- An HTTP tunnel stays published while a TCP tunnel is published and removed
again: one tunnel and one retained port are left, and the reservation of the
port still counts. -/
theorem store_consistent_after_tcp_removal :
    let ops : List StoreOp :=
      [.reserveHttpTunnel "myapp" "a" 0, .registerTunnel (makeTestSession "myapp" "a" 0),
        .reserveTcpPort (some 10000) "b" 1,
        .tryRegisterTcpTunnel 10000 (makeTestSession "other" "b" 1),
        .removeTcpTunnelIfOwner 10000 (makeTestSession "other" "b" 1)]
    let s := ops.foldl StoreOp.apply (ServerState.new Config.default)
    (s.tunnels.size = 1 ∧ s.tcpTunnels.size = 0 ∧ s.reservations.size = 1) ∧
      s.tunnels.size + s.tcpTunnels.size + s.reservations.size ≤ 100 ∧
      (∀ name, ¬((s.tunnels.lookup name).isSome ∧
        (s.reservations.lookup (.http name)).isSome)) ∧
      (∀ port, ¬((s.tcpTunnels.lookup port).isSome ∧
        (s.reservations.lookup (.tcp port)).isSome)) ∧
      s.activeTunnels = s.tunnels.size + s.tcpTunnels.size ∧
      (∀ name, name ∈ s.captures ↔ name ∈ s.tunnels) ∧
      (∀ port, port ∈ s.tcpTunnels ∨ ReservationKey.tcp port ∈ s.reservations →
        (10000 : UInt16) ≤ port ∧ port < 20000) :=
  ⟨by decide, store_consistent Config.default
    (Machine.reachable_of_run (.init rfl)
      (show (storeMachine Config.default).run (ServerState.new Config.default)
        [.reserveHttpTunnel "myapp" "a" 0, .registerTunnel (makeTestSession "myapp" "a" 0),
          .reserveTcpPort (some 10000) "b" 1,
          .tryRegisterTcpTunnel 10000 (makeTestSession "other" "b" 1),
          .removeTcpTunnelIfOwner 10000 (makeTestSession "other" "b" 1)] = some _ from rfl))⟩

end ServerState
end Rgrok
