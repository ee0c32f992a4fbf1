/-
# Every step of the lifecycle is a move of the roster

One lemma for each step function of `Lifecycle.lean` and `Teardown.lean`,
collected in `Lifecycle.step_roster`.
-/

import Rgrok.Server.Roster

namespace Rgrok
namespace Lifecycle

variable {l l' : Lifecycle} {c r i : ℕ} {a : Action} {ph : ControlPhase}

/-- The step is a move of the roster, and cancels only what it removes. -/
structure Rostered (l : Lifecycle) (a : Action) (l' : Lifecycle) : Prop where
  move : l.roster.Move a l'.roster
  stopping : ∀ r, (l'.state.cells r).stopping = true →
    (l.state.cells r).stopping = true ∨ r ∈ l'.removed

theorem Rostered.stay (h : l'.roster = l.roster)
    (hcells : ∀ r, (l'.state.cells r).stopping = true → (l.state.cells r).stopping = true) :
    l.Rostered a l' where
  move := Roster.Move.stay.of_eq h
  stopping r hr := Or.inl (hcells r hr)

/-- A control task moves on. -/
theorem Rostered.control (hstep : ControlStep c a (l.tasks.control c) ph)
    (h : l'.roster = { l.roster with control := Function.update l.tasks.control c ph })
    (hcells : ∀ r, (l'.state.cells r).stopping = true → (l.state.cells r).stopping = true) :
    l.Rostered a l' where
  move := (Roster.Move.control c ph hstep).of_eq h
  stopping r hr := Or.inl (hcells r hr)

theorem Rostered.setControl {old : ControlPhase} (hph : l.tasks.control c = old)
    (hstep : ControlStep c a old ph) : l.Rostered a (l.setControl c ph) := by
  subst hph
  exact .control hstep rfl fun _ hr => hr

/-! ### `handle_client` and `handle_control_msg` -/

theorem accept_rostered (h : l.accept c = some l') : l.Rostered (.accept c) l' := by
  unfold accept at h
  split at h
  · rename_i hph
    cases h
    exact .setControl hph .accept
  · cases h

theorem enterLoop_rostered (h : l.enterLoop c = some l') : l.Rostered (.enterLoop c) l' := by
  unfold enterLoop at h
  split at h
  · rename_i hph
    cases h
    exact ⟨.enterLoop c rfl hph, fun r hr => Or.inl hr⟩
  · cases h

theorem enterSelect_rostered (h : l.enterSelect c = some l') : l.Rostered (.enterSelect c) l' := by
  unfold enterSelect at h
  split at h
  · rename_i hph
    cases h
    exact .setControl hph .enterSelect
  · cases h

theorem continueLoop_rostered (cause : ContinueCause) (h : l.continueLoop c = some l') :
    l.Rostered (.continueLoop c cause) l' := by
  unfold continueLoop at h
  split at h
  · rename_i hph
    cases h
    exact .setControl hph (.continueLoop cause)
  · cases h

theorem breakLoop_rostered (cause : BreakCause) (h : l.breakLoop c = some l') :
    l.Rostered (.breakLoop c cause) l' := by
  unfold breakLoop at h
  split at h
  · rename_i hph
    cases h
    exact .setControl hph (.breakLoop cause _ (Or.inl rfl))
  · rename_i hph
    cases h
    exact .setControl hph (.breakLoop cause _ (Or.inr rfl))
  · cases h

theorem handleControlMsg_rostered {msg : ClientMsg} {draw : SubdomainDraw}
    (h : l.handleControlMsg c msg draw = some l') : l.Rostered (.handleControlMsg c msg draw) l' := by
  unfold handleControlMsg at h
  split at h
  · rename_i hph
    have start : ∀ id tunnelType name subdomain basicAuth options,
        l.Rostered (.handleControlMsg c
          (.tunnelRequest id tunnelType subdomain basicAuth options) draw)
          (l.startSetup c id tunnelType name basicAuth options) := by
      intro id tunnelType name subdomain basicAuth options
      refine .control (show ControlStep c _ _ (.handling _) from ?_) rfl fun _ hr => hr
      rw [hph]
      exact .request id tunnelType subdomain basicAuth options draw _ trivial rfl
    split at h
    · split at h
      · split at h
        · cases h
          exact .setControl hph (.request _ _ _ _ _ draw _ ⟨_, _, rfl⟩ rfl)
        · cases h
          exact start ..
      · cases h
        exact start ..
    · cases h
      exact .setControl hph (.ping _ draw)
    · cases h
      exact .setControl hph (.ignore _ draw)
    · cases h
      exact .setControl hph (.ignore _ draw)
  · cases h

/-- A step inside `handle_control_msg`. -/
theorem Rostered.setup {h h' : Handling} (hph : l.tasks.control c = .handling h)
    (hroster : l'.roster =
      { l.roster with control := Function.update l.tasks.control c (.handling h') })
    (hreplied : a ≠ .replied c) (hworking : h.working = true)
    (hnext : h'.working = true ∨ ∃ msg failed, h' = .reply msg failed)
    (hfails : h.Fails → h'.Fails)
    (hsession : ∀ s, h'.session = some s → h.session = some s ∨ s.conn = c)
    (hcells : ∀ r, (l'.state.cells r).stopping = true → (l.state.cells r).stopping = true) :
    l.Rostered a l' := by
  refine .control ?_ hroster hcells
  rw [hph]
  exact .setup a h h' hreplied hworking hnext hfails hsession

theorem reserveName_rostered {u : Setup} (hph : l.tasks.control c = .handling (.reserve u))
    (hu : u.tunnelType.isTcp = false) :
    l.Rostered (.reserve c) (l.reserveName c u hu) := by
  unfold reserveName
  split
  · rename_i state hstate
    obtain ⟨-, -, -, rfl⟩ := ServerState.reserveHttpTunnel_eq_ok hstate
    exact .setup hph rfl Action.noConfusion rfl (Or.inl rfl) (fun _ => trivial) (fun s hs => by cases hs)
      fun _ hr => hr
  · exact .setup hph rfl Action.noConfusion rfl (Or.inr ⟨_, _, rfl⟩) (fun _ => ⟨_, _, rfl⟩)
      (fun s hs => by cases hs) fun _ hr => hr

theorem reservePort_rostered {u : Setup} (hph : l.tasks.control c = .handling (.reserve u))
    (remotePort : Option UInt16) (hu : u.tunnelType.isTcp = true) :
    l.Rostered (.reserve c) (l.reservePort c u remotePort hu) := by
  unfold reservePort
  split
  · rename_i port state hstate
    obtain ⟨-, -, -, -, rfl⟩ := ServerState.reserveTcpPort_eq_ok hstate
    exact .setup hph rfl Action.noConfusion rfl (Or.inl rfl) (fun _ => trivial) (fun s hs => by cases hs)
      fun _ hr => hr
  · exact .setup hph rfl Action.noConfusion rfl (Or.inr ⟨_, _, rfl⟩) (fun _ => ⟨_, _, rfl⟩)
      (fun s hs => by cases hs) fun _ hr => hr

theorem reserve_rostered (h : l.reserve c = some l') : l.Rostered (.reserve c) l' := by
  unfold reserve at h
  split at h
  · rename_i u hph
    split at h <;> cases h
    · exact reservePort_rostered hph _ _
    · exact reserveName_rostered hph _
    · exact reserveName_rostered hph _
  · cases h

theorem afterHash_spec (u : ReservedSetup) :
    (afterHash u).working = true ∧ (afterHash u).Fails ∧ (afterHash u).session = none := by
  unfold afterHash
  split <;> exact ⟨rfl, trivial, rfl⟩

theorem hashBasicAuth_rostered {hashPassword : String → Except String String}
    (h : l.hashBasicAuth c hashPassword = some l') :
    l.Rostered (.hashBasicAuth c hashPassword) l' := by
  have done : ∀ u u' : ReservedSetup, l.tasks.control c = .handling (.hash u) →
      l.Rostered (.hashBasicAuth c hashPassword) (l.setControl c (.handling (afterHash u'))) := by
    intro u u' hph
    obtain ⟨hworking, hfails, hsession⟩ := afterHash_spec u'
    refine .setup hph rfl Action.noConfusion rfl (Or.inl hworking) (fun _ => hfails)
      (fun s hs => ?_) fun _ hr => hr
    rw [hsession] at hs
    cases hs
  unfold hashBasicAuth at h
  split at h
  · rename_i u hph
    split at h
    · cases h
      exact done u _ hph
    · split at h
      · cases h
        exact done u _ hph
      · cases h
        exact .setup hph rfl Action.noConfusion rfl (Or.inl rfl) (fun _ => ⟨_, _, rfl⟩)
          (fun s hs => by cases hs) fun _ hr => hr
  · cases h

theorem createDns_rostered {createRecord : String → String → Except String String}
    (h : l.createDns c createRecord = some l') : l.Rostered (.createDns c createRecord) l' := by
  unfold createDns at h
  split at h
  · rename_i u http hph
    split at h
    · cases h
      exact .setup hph rfl Action.noConfusion rfl (Or.inl rfl) (fun _ => trivial)
        (fun s hs => by cases hs) fun _ hr => hr
    · cases h
      exact .setup hph rfl Action.noConfusion rfl (Or.inl rfl) (fun _ => ⟨_, _, rfl⟩)
        (fun s hs => by cases hs) fun _ hr => hr
  · cases h

theorem newSession_rostered (h : l.newSession c = some l') : l.Rostered (.newSession c) l' := by
  unfold newSession at h
  split at h
  · rename_i u hph
    have made : ∀ hd : Handling, hd.working = true → hd.Fails → hd.session = some (u.session c) →
        l.Rostered (.newSession c) ({ l with
          state := l.state.updateCell u.arc fun _ => .new }.setControl c (.handling hd)) := by
      intro hd hworking hfails hsession
      refine .setup hph rfl Action.noConfusion rfl (Or.inl hworking) (fun _ => hfails)
        (fun s hs => ?_) fun r hr => ?_
      · rw [hsession] at hs
        obtain rfl := Option.some.inj hs
        exact Or.inr rfl
      · exact ServerState.stopping_updateCell (s := l.state) (f := fun _ => .new)
          (fun cell hcell => by cases hcell) hr
    dsimp only at h
    split at h
    · cases h
      exact made _ rfl trivial rfl
    · cases h
      exact made _ rfl trivial rfl
  · cases h

/-- A session that is about to be published is new. -/
theorem not_mem_published (hi : l.view.Inv) {h : Handling}
    (hph : l.tasks.control c = .handling h) {arc : ℕ}
    (hd : h.duty.standing = some (arc, .setup)) : arc ∉ l.published := by
  refine (hi.arcs.setup (t := .control c) ?_).2
  rw [duty_control hph]
  exact hd

theorem register_rostered (hi : l.view.Inv) (h : l.register c = some l') :
    l.Rostered (.register c) l' := by
  unfold register at h
  split at h
  · rename_i session hph
    split at h
    · rename_i state hstate
      cases h
      have hlive := ServerState.published_of_slot (ServerState.slot_registerTunnel hstate)
      obtain ⟨hfree, reservations, -, rfl⟩ := ServerState.registerTunnel_eq_ok hstate
      refine ⟨(Roster.Move.publish c _ (.http session.subdomain) session _ _ _ Action.noConfusion hph
        rfl rfl hfree (not_mem_published hi hph rfl) ⟨_, _, rfl⟩ ?_ fun r => Or.inl rfl).of_eq
        (Roster.ext rfl rfl hlive rfl rfl rfl rfl), fun r hr => Or.inl hr⟩
      intro x
      simp only [Registered.pairs, List.map_append, List.map_cons, List.map_nil, List.mem_append,
        List.mem_singleton]
      exact or_right_comm
    · cases h
      exact .setup hph rfl Action.noConfusion rfl (Or.inl rfl) (fun _ => ⟨_, _, rfl⟩)
        (fun s hs => Or.inl hs) fun _ hr => hr
  · cases h

theorem bind_rostered {bound : Except String Unit} (h : l.bind c bound = some l') :
    l.Rostered (.bind c bound) l' := by
  unfold bind at h
  split at h
  · rename_i session port noRecord hph
    split at h
    · cases h
      refine .setup hph rfl Action.noConfusion rfl (Or.inl rfl) (fun _ => trivial)
        (fun s hs => Or.inl hs) fun r hr => ?_
      exact ServerState.stopping_updateCell (s := l.state)
        (f := fun cell => { cell with listenerStopped := true }) (fun cell hcell => hcell) hr
    · cases h
      exact .setup hph rfl Action.noConfusion rfl (Or.inl rfl) (fun _ => ⟨_, _, rfl⟩)
        (fun s hs => by cases hs) fun _ hr => hr
  · cases h

theorem registerTcp_rostered (hi : l.view.Inv) (h : l.registerTcp c = some l') :
    l.Rostered (.registerTcp c) l' := by
  unfold registerTcp at h
  split at h
  · rename_i session port noRecord hph
    split at h
    · rename_i state hstate
      cases h
      have hlive := ServerState.published_of_slot (ServerState.slot_tryRegisterTcpTunnel hstate)
      obtain ⟨-, hfree, reservations, -, rfl⟩ := ServerState.tryRegisterTcpTunnel_eq_ok hstate
      refine ⟨(Roster.Move.publish c _ (.tcp port) session _ _ _ Action.noConfusion hph rfl rfl hfree
        (not_mem_published hi hph rfl) ⟨_, _, rfl⟩ ?_ ?_).of_eq
        (Roster.ext rfl rfl hlive rfl rfl rfl rfl), fun r hr => Or.inl hr⟩
      · intro x
        simp only [Registered.pairs, List.map_append, List.map_cons, List.map_nil, List.mem_append,
          List.mem_singleton]
        exact or_assoc.symm
      · intro r
        by_cases hr : r = session.arc
        · subst hr
          exact Or.inr ⟨port, rfl, Function.update_self ..⟩
        · exact Or.inl (Function.update_of_ne hr _ _)
    · cases h
      exact .setup hph rfl Action.noConfusion rfl (Or.inl rfl) (fun _ => ⟨_, _, rfl⟩)
        (fun s hs => by cases hs) fun _ hr => hr
  · cases h

theorem published_releaseReservation (s : ServerState) (key : ReservationKey) (owner : String) :
    (s.releaseReservation key owner).published = s.published := by
  rw [ServerState.releaseReservation]
  split <;> rfl

theorem cells_releaseReservation (s : ServerState) (key : ReservationKey) (owner : String) :
    (s.releaseReservation key owner).cells = s.cells := by
  rw [ServerState.releaseReservation]
  split <;> rfl

theorem releaseSetup_rostered (h : l.releaseSetup c = some l') :
    l.Rostered (.releaseSetup c) l' := by
  unfold releaseSetup at h
  split at h
  · rename_i key owner arc msg hph
    cases h
    refine .setup hph (Roster.ext rfl rfl (published_releaseReservation ..) rfl rfl rfl rfl)
      Action.noConfusion rfl (Or.inr ⟨_, _, rfl⟩) id (fun s hs => by cases hs) fun r hr => ?_
    rwa [← cells_releaseReservation l.state key owner]
  · rename_i session msg hph
    cases h
    refine .setup hph (Roster.ext rfl rfl (published_releaseReservation ..) rfl rfl rfl rfl)
      Action.noConfusion rfl (Or.inr ⟨_, _, rfl⟩) id (fun s hs => Or.inl hs) fun r hr => ?_
    rwa [← cells_releaseReservation l.state (.http session.subdomain) session.id]
  · cases h

theorem replied_rostered (h : l.replied c = some l') : l.Rostered (.replied c) l' := by
  unfold replied at h
  split at h
  · rename_i msg hph
    cases h
    exact .setControl hph (.replied msg)
  · rename_i msg session hph
    cases h
    exact .setControl hph (.repliedFailed msg session)
  · cases h

theorem roster_deleteDnsRecord (l : Lifecycle) (session : TunnelSession) :
    (l.deleteDnsRecord session).roster = l.roster := by
  rw [deleteDnsRecord]
  split <;> rfl

theorem state_deleteDnsRecord (l : Lifecycle) (session : TunnelSession) :
    (l.deleteDnsRecord session).state = l.state := by
  rw [deleteDnsRecord]
  split <;> rfl

/-- A DNS record is deleted and the control task moves on. -/
theorem Rostered.deleteDns {old : ControlPhase} {session : TunnelSession}
    (hph : l.tasks.control c = old) (hstep : ControlStep c a old ph) :
    l.Rostered a ((l.deleteDnsRecord session).setControl c ph) := by
  subst hph
  refine .control hstep ?_ fun r hr => ?_
  · rw [deleteDnsRecord]
    split <;> rfl
  · rwa [← state_deleteDnsRecord l session]

theorem deleteFailedDns_rostered (h : l.deleteFailedDns c = some l') :
    l.Rostered (.deleteFailedDns c) l' := by
  unfold deleteFailedDns at h
  split at h
  · rename_i session hph
    cases h
    exact .deleteDns hph (.deleteFailedDns session)
  · cases h

/-! ### Cleanup -/

/-- A removal cancels the tokens of what it removes. -/
theorem stopping_of_removed {arc : ℕ} (hremoved : l'.removed = arc :: l.removed)
    (hcells : ∀ r, r ≠ arc → l'.state.cells r = l.state.cells r) (r : ℕ)
    (h : (l'.state.cells r).stopping = true) :
    (l.state.cells r).stopping = true ∨ r ∈ l'.removed := by
  by_cases hr : r = arc
  · subst hr
    rw [hremoved]
    exact Or.inr (List.mem_cons_self ..)
  · rw [hcells r hr] at h
    exact Or.inl h

theorem cleanupHttp_rostered (hv : l.state.Valid) (h : l.cleanupHttp c = some l') :
    l.Rostered (.cleanupHttp c) l' := by
  unfold cleanupHttp at h
  split at h
  · rename_i hph
    split at h
    · cases h
      exact .setControl hph (.cleanup _ _ _ rfl)
    · rename_i subdomain session rest hreg
      have hrest : ∀ x ∈ Registered.pairs { l.registered c with subdomains := rest },
          x ∈ (l.registered c).pairs := by
        intro x hx
        simp only [Registered.pairs, hreg, List.map_cons, List.mem_append, List.mem_cons] at hx ⊢
        exact hx.imp_left Or.inr
      split at h
      · rename_i removed state hremoved
        cases h
        obtain ⟨hlive, hslot⟩ := ServerState.slot_unregisterTunnelIfOwner hv hremoved
        obtain ⟨-, harc, rfl⟩ := ServerState.unregisterTunnelIfOwner_eq_some hremoved
        refine ⟨(Roster.Move.cleanup c _ (.cleanup (.httpDns removed)) _ (.http subdomain) session
          removed hph rfl hrest ?_ (ServerState.slot_eq_live.1 hlive) harc).of_eq
          (Roster.ext rfl rfl (ServerState.published_of_slot hslot) rfl rfl rfl rfl),
          stopping_of_removed rfl fun r hr => Function.update_of_ne hr _ _⟩
        have hmem : (subdomain, session) ∈ (l.registered c).subdomains := by
          rw [hreg]
          exact List.mem_cons_self ..
        exact List.mem_append_left _ (List.mem_map.2 ⟨_, hmem, rfl⟩)
      · cases h
        exact ⟨.pass c _ _ hph hrest, fun r hr => Or.inl hr⟩
  · cases h

theorem cleanupHttpDns_rostered (h : l.cleanupHttpDns c = some l') :
    l.Rostered (.cleanupHttpDns c) l' := by
  unfold cleanupHttpDns at h
  split at h
  · rename_i removed hph
    cases h
    exact .deleteDns hph (.cleanup _ _ _ rfl)
  · cases h

theorem cleanupTcp_rostered (h : l.cleanupTcp c = some l') : l.Rostered (.cleanupTcp c) l' := by
  unfold cleanupTcp at h
  split at h
  · rename_i hph
    split at h
    · cases h
      exact .setControl hph (.cleanup _ _ _ rfl)
    · rename_i port session rest hreg
      have hrest : ∀ x ∈ Registered.pairs { l.registered c with tcpPorts := rest },
          x ∈ (l.registered c).pairs := by
        intro x hx
        simp only [Registered.pairs, hreg, List.map_cons, List.mem_append, List.mem_cons] at hx ⊢
        exact hx.imp_right Or.inr
      split at h
      · rename_i removed state hremoved
        cases h
        obtain ⟨hlive, hslot⟩ := ServerState.slot_removeTcpTunnelIfOwner hremoved
        obtain ⟨-, harc, rfl⟩ := ServerState.removeTcpTunnelIfOwner_eq_some hremoved
        refine ⟨(Roster.Move.cleanup c _ (.cleanup (.tcpShutdown (.take port removed))) _ (.tcp port)
          session removed hph rfl hrest ?_ (ServerState.slot_eq_live.1 hlive) harc).of_eq
          (Roster.ext rfl rfl (ServerState.published_of_slot hslot) rfl rfl rfl rfl),
          stopping_of_removed rfl fun r hr => Function.update_of_ne hr _ _⟩
        have hmem : (port, session) ∈ (l.registered c).tcpPorts := by
          rw [hreg]
          exact List.mem_cons_self ..
        exact List.mem_append_right _ (List.mem_map.2 ⟨_, hmem, rfl⟩)
      · cases h
        exact ⟨.pass c _ _ hph hrest, fun r hr => Or.inl hr⟩
  · cases h

theorem cleanupTcpDns_rostered (h : l.cleanupTcpDns c = some l') :
    l.Rostered (.cleanupTcpDns c) l' := by
  unfold cleanupTcpDns at h
  split at h
  · rename_i removed hph
    cases h
    exact .deleteDns hph (.cleanup _ _ _ rfl)
  · cases h

/-! ### The reaper's phases -/

/-- The reaper moves on without a new candidate. -/
theorem Rostered.reaper (ph : ReaperPhase) {old : ReaperPhase} (hph : l.tasks.reaper = old)
    (h : l'.roster = { l.roster with reaper := ph })
    (hcandidates : ∀ s ∈ ph.candidates, s ∈ old.candidates)
    (hremoved : ∀ s, ph.removed = some s → old.removed = some s)
    (hnow : ∀ n, ph.now = some n → old.now = some n ∨ a = .reapTick n)
    (hcells : ∀ r, (l'.state.cells r).stopping = true → (l.state.cells r).stopping = true) :
    l.Rostered a l' := by
  subst hph
  exact ⟨(Roster.Move.reaper ph (fun s hs => Or.inl (hcandidates s hs)) hremoved hnow).of_eq h,
    fun r hr => Or.inl (hcells r hr)⟩

/-! ### `shutdown_tcp_tunnel_if_owner` -/

/-- Who is inside `shutdown_tcp_tunnel_if_owner`, and where it goes on. -/
theorem shutdown_cases {caller : Caller} {sd : Shutdown} (h : l.tasks.shutdown caller = some sd) :
    (∃ c, l.tasks.control c = .cleanup (.tcpShutdown sd) ∧
      (∀ sd', l.tasks.setShutdown sd' caller =
        l.tasks.setControl c (.cleanup (.tcpShutdown sd'))) ∧
      ∀ removed, l.tasks.endShutdown removed caller =
        l.tasks.setControl c (.cleanup (.tcpDns removed))) ∨
    ∃ rest, l.tasks.reaper = .shutdown sd rest ∧
      (∀ sd', l.tasks.setShutdown sd' caller = l.tasks.setReaper (.shutdown sd' rest)) ∧
      ∀ removed, l.tasks.endShutdown removed caller =
        l.tasks.setReaper (.notifyTcp removed rest) := by
  cases caller with
  | cleanup c =>
      simp only [Tasks.shutdown] at h
      split at h
      · rename_i hph
        obtain rfl := Option.some.inj h
        exact Or.inl ⟨c, hph, fun _ => rfl, fun _ => rfl⟩
      · cases h
  | reaper =>
      simp only [Tasks.shutdown] at h
      split at h
      · rename_i rest hph
        obtain rfl := Option.some.inj h
        refine Or.inr ⟨rest, hph, fun sd' => ?_, fun removed => ?_⟩
        · simp only [Tasks.setShutdown, hph]
        · simp only [Tasks.endShutdown, hph]
      · cases h

/-- `shutdown_tcp_tunnel_if_owner` goes on or returns, in either caller. -/
theorem Rostered.resume {caller : Caller} {sd : Shutdown} {tasks : Tasks}
    (hsd : l.tasks.shutdown caller = some sd)
    (htasks : (∃ sd', sd'.removed = sd.removed ∧ tasks = l.tasks.setShutdown sd' caller) ∨
      tasks = l.tasks.endShutdown sd.removed caller)
    (h : l'.roster = { l with tasks := tasks }.roster)
    (hcells : ∀ r, (l'.state.cells r).stopping = true → (l.state.cells r).stopping = true) :
    l.Rostered a l' := by
  rcases shutdown_cases hsd with ⟨c, hph, hset, hend⟩ | ⟨rest, hph, hset, hend⟩
  · have goes : ∀ k, tasks = l.tasks.setControl c (.cleanup k) → l.Rostered a l' := by
      rintro k rfl
      refine .control (c := c) ?_ h hcells
      rw [hph]
      exact .cleanup a _ _ rfl
    rcases htasks with ⟨sd', -, rfl⟩ | rfl
    · exact goes _ (hset sd')
    · exact goes _ (hend _)
  · have goes : ∀ ph : ReaperPhase, tasks = l.tasks.setReaper ph →
        ph.candidates = rest.map Prod.snd → ph.removed = some sd.removed → ph.now = none →
        l.Rostered a l' := by
      rintro ph rfl hcandidates hremoved hnow
      refine .reaper ph hph h (fun s hs => ?_) (fun s hs => ?_) (fun n hn => ?_) hcells
      · rwa [hcandidates] at hs
      · rwa [hremoved] at hs
      · rw [hnow] at hn
        cases hn
    rcases htasks with ⟨sd', hremoved, rfl⟩ | rfl
    · exact goes _ (hset sd') rfl (congrArg some hremoved) rfl
    · exact goes _ (hend _) rfl rfl rfl

theorem shutdownTake_rostered {caller : Caller} (h : l.shutdownTake caller = some l') :
    l.Rostered (.shutdownTake caller) l' := by
  unfold shutdownTake at h
  split at h
  · rename_i port removed hsd
    split at h
    · cases h
      refine .resume hsd (Or.inl ⟨.wait port removed, rfl, rfl⟩) rfl fun r hr => ?_
      exact ServerState.stopping_updateCell (s := l.state)
        (f := fun cell => { cell with listenerStopped := false }) (fun cell hcell => hcell) hr
    · cases h
      exact .resume hsd (Or.inl ⟨.release port removed, rfl, rfl⟩) rfl fun _ hr => hr
  · cases h

theorem shutdownStopped_rostered {caller : Caller} (h : l.shutdownStopped caller = some l') :
    l.Rostered (.shutdownStopped caller) l' := by
  unfold shutdownStopped at h
  split at h
  · rename_i port removed hsd
    split at h
    · cases h
      exact .resume hsd (Or.inl ⟨.release port removed, rfl, rfl⟩) rfl fun _ hr => hr
    · cases h
  · cases h

theorem shutdownTimeout_rostered {caller : Caller} (h : l.shutdownTimeout caller = some l') :
    l.Rostered (.shutdownTimeout caller) l' := by
  unfold shutdownTimeout at h
  split at h
  · rename_i port removed hsd
    split at h
    · cases h
    · cases h
      exact .resume hsd (Or.inr rfl) rfl fun _ hr => hr
  · cases h

theorem shutdownRelease_rostered {caller : Caller} (h : l.shutdownRelease caller = some l') :
    l.Rostered (.shutdownRelease caller) l' := by
  unfold shutdownRelease at h
  split at h
  · rename_i port removed hsd
    cases h
    refine .resume hsd (Or.inr rfl) ?_ fun r hr => ?_
    · exact Roster.ext rfl rfl (published_releaseReservation ..) rfl rfl rfl rfl
    · rwa [← cells_releaseReservation l.state (.tcp port) removed.id]
  · cases h

theorem releaseStopped_rostered (h : l.releaseStopped i = some l') :
    l.Rostered (.releaseStopped i) l' := by
  unfold releaseStopped at h
  split at h
  · rename_i port owner arc hph
    split at h
    · cases h
      refine .stay ?_ fun r hr => ?_
      · exact Roster.ext rfl rfl (published_releaseReservation ..) rfl rfl rfl rfl
      · rwa [← cells_releaseReservation l.state (.tcp port) owner]
    · cases h
  · cases h

theorem releaseDec_rostered (h : l.releaseDec i = some l') : l.Rostered (.releaseDec i) l' := by
  unfold releaseDec at h
  split at h
  · cases h
    exact .stay rfl fun _ hr => hr
  · cases h

/-! ### Listener tasks -/

/-- A listener task moves on. -/
theorem Rostered.listener {ph old : ListenerPhase} (hph : l.tasks.listener r = old)
    (hstep : ListenerStep r a old ph)
    (h : l'.roster = { l.roster with listener := Function.update l.tasks.listener r ph })
    (hcells : ∀ r, (l'.state.cells r).stopping = true → (l.state.cells r).stopping = true) :
    l.Rostered a l' := by
  subst hph
  exact ⟨(Roster.Move.listener r ph hstep).of_eq h, fun r hr => Or.inl (hcells r hr)⟩

theorem stopListening_rostered (cause : StopCause) (h : l.stopListening r = some l') :
    l.Rostered (.stopListening r cause) l' := by
  unfold stopListening at h
  split at h
  · rename_i port session hph
    cases h
    exact .listener hph (.stop cause port session) rfl fun _ hr => hr
  · cases h

theorem signalStopped_rostered (h : l.signalStopped r = some l') :
    l.Rostered (.signalStopped r) l' := by
  unfold signalStopped at h
  split at h
  · rename_i port session hph
    cases h
    refine .listener hph (.signal port session) rfl fun q hq => ?_
    exact ServerState.stopping_updateCell (s := l.state)
      (f := fun cell => { cell with stopSignal := true }) (fun cell hcell => hcell) hq
  · cases h

theorem listenerRemove_rostered (h : l.listenerRemove r = some l') :
    l.Rostered (.listenerRemove r) l' := by
  unfold listenerRemove at h
  split at h
  · rename_i port session hph
    split at h
    · rename_i removed state hremoved
      cases h
      obtain ⟨hlive, hslot⟩ := ServerState.slot_removeTcpTunnelIfOwner hremoved
      obtain ⟨-, harc, rfl⟩ := ServerState.removeTcpTunnelIfOwner_eq_some hremoved
      exact ⟨(Roster.Move.listenerRemove r port session removed rfl hph
        (ServerState.slot_eq_live.1 hlive) harc).of_eq
        (Roster.ext rfl rfl (ServerState.published_of_slot hslot) rfl rfl rfl rfl),
        stopping_of_removed rfl fun r hr => Function.update_of_ne hr _ _⟩
    · cases h
      exact .listener hph (.gone port session) rfl fun _ hr => hr
  · cases h

theorem listenerRelease_rostered (h : l.listenerRelease r = some l') :
    l.Rostered (.listenerRelease r) l' := by
  unfold listenerRelease at h
  split at h
  · rename_i port removed hph
    cases h
    refine .listener hph (.release port removed) ?_ fun q hq => ?_
    · exact Roster.ext rfl rfl (published_releaseReservation ..) rfl rfl rfl rfl
    · rwa [← cells_releaseReservation l.state (.tcp port) removed.id]
  · cases h

theorem listenerDns_rostered (h : l.listenerDns r = some l') : l.Rostered (.listenerDns r) l' := by
  unfold listenerDns at h
  split at h
  · rename_i removed hph
    cases h
    refine .listener hph (.deleteDns removed) ?_ fun q hq => ?_
    · rw [deleteDnsRecord]
      split <;> rfl
    · rwa [← state_deleteDnsRecord l removed]
  · cases h

/-! ### `reap_idle_tunnels` -/

theorem reapTick_rostered {now : ℕ} (h : l.reapTick now = some l') :
    l.Rostered (.reapTick now) l' := by
  unfold reapTick at h
  split at h
  · rename_i hph
    cases h
    refine .reaper _ hph rfl (fun s hs => hs) (fun s hs => hs) (fun n hn => ?_) fun _ hr => hr
    rw [Option.some.inj hn]
    exact Or.inr rfl
  · cases h

theorem reapStop_rostered (h : l.reapStop = some l') : l.Rostered .reapStop l' := by
  unfold reapStop at h
  split at h
  · rename_i hph
    cases h
    exact .reaper _ hph rfl (fun s hs => hs) (fun s hs => hs) (fun n hn => Or.inl hn) fun _ hr => hr
  · cases h

/-- The reaper finds a candidate. -/
theorem mem_candidates_append {α : Type} {candidates : List (α × TunnelSession)} {x : α}
    {s session : TunnelSession} (h : s ∈ (candidates ++ [(x, session)]).map Prod.snd) :
    s ∈ candidates.map Prod.snd ∨ session = s := by
  rw [List.map_append, List.mem_append] at h
  exact h.imp_right fun hs => (List.mem_singleton.1 hs).symm

theorem reapFoundHttp_rostered {subdomain : String} (h : l.reapFoundHttp subdomain = some l') :
    l.Rostered (.reapFoundHttp subdomain) l' := by
  unfold reapFoundHttp at h
  split at h
  · rename_i now candidates hph
    obtain ⟨session, hlive, rfl⟩ := Option.map_eq_some_iff.1 h
    refine ⟨.reaper _ (fun s hs => ?_) (fun s hs => by cases hs) (fun n hn => ?_),
      fun r hr => Or.inl hr⟩
    swap
    · rw [show l.roster.reaper = _ from hph]
      exact Or.inl hn
    rw [show l.roster.reaper = _ from hph]
    refine (mem_candidates_append hs).imp_right ?_
    rintro rfl
    exact Or.inl ⟨subdomain, rfl, hlive⟩
  · cases h

theorem reapHttpCollected_rostered (h : l.reapHttpCollected = some l') :
    l.Rostered .reapHttpCollected l' := by
  unfold reapHttpCollected at h
  split at h
  · rename_i hph
    cases h
    exact .reaper _ hph rfl (fun s hs => hs) (fun s hs => hs) (fun n hn => Or.inl hn) fun _ hr => hr
  · cases h

theorem reapHttp_rostered (hv : l.state.Valid) (h : l.reapHttp = some l') :
    l.Rostered .reapHttp l' := by
  unfold reapHttp at h
  split at h
  · rename_i now hph
    cases h
    exact .reaper _ hph rfl (fun s hs => hs) (fun s hs => hs) (fun n hn => Or.inl hn) fun _ hr => hr
  · rename_i now subdomain session rest hph
    have hrest : ∀ s ∈ rest.map Prod.snd, s ∈ (ReaperPhase.closeHttp now
        ((subdomain, session) :: rest)).candidates := fun s hs => List.mem_cons_of_mem _ hs
    split at h
    · rename_i removed state hremoved
      cases h
      obtain ⟨hlive, hslot⟩ := ServerState.slot_unregisterTunnelIfOwner hv hremoved
      obtain ⟨-, harc, rfl⟩ := ServerState.unregisterTunnelIfOwner_eq_some hremoved
      have hreaper : l.roster.reaper = .closeHttp now ((subdomain, session) :: rest) := hph
      exact ⟨(Roster.Move.reap (.http subdomain) session removed (.notifyHttp now removed rest)
        (Or.inl rfl) (by rw [hreaper]; exact List.mem_cons_self ..) (ServerState.slot_eq_live.1 hlive)
        harc (by rw [hreaper]; exact hrest) rfl (by rw [hreaper]; exact fun n hn => hn)).of_eq
        (Roster.ext rfl rfl (ServerState.published_of_slot hslot) rfl rfl rfl rfl),
        stopping_of_removed rfl fun r hr => Function.update_of_ne hr _ _⟩
    · cases h
      exact .reaper _ hph rfl hrest (fun s hs => hs) (fun n hn => Or.inl hn) fun _ hr => hr
  · cases h

theorem reapNotified_rostered (h : l.reapNotified = some l') : l.Rostered .reapNotified l' := by
  unfold reapNotified at h
  split at h
  · rename_i hph
    cases h
    exact .reaper _ hph rfl (fun s hs => hs) (fun s hs => hs) (fun n hn => Or.inl hn) fun _ hr => hr
  · rename_i hph
    cases h
    exact .reaper _ hph rfl (fun s hs => hs) (fun s hs => hs) (fun n hn => Or.inl hn) fun _ hr => hr
  · cases h

theorem reapDns_rostered (h : l.reapDns = some l') : l.Rostered .reapDns l' := by
  unfold reapDns at h
  split at h
  · rename_i now removed rest hph
    cases h
    refine .reaper (.closeHttp now rest) hph ?_ (fun s hs => hs) (fun s hs => by cases hs)
      (fun n hn => Or.inl hn) fun r hr => ?_
    · rw [deleteDnsRecord]
      split <;> rfl
    · rwa [← state_deleteDnsRecord l removed]
  · rename_i removed rest hph
    cases h
    refine .reaper (.closeTcp rest) hph ?_ (fun s hs => hs) (fun s hs => by cases hs)
      (fun n hn => Or.inl hn) fun r hr => ?_
    · rw [deleteDnsRecord]
      split <;> rfl
    · rwa [← state_deleteDnsRecord l removed]
  · cases h

theorem reapFoundTcp_rostered {port : UInt16} (h : l.reapFoundTcp port = some l') :
    l.Rostered (.reapFoundTcp port) l' := by
  unfold reapFoundTcp at h
  split at h
  · rename_i now candidates hph
    obtain ⟨session, hlive, rfl⟩ := Option.map_eq_some_iff.1 h
    refine ⟨.reaper _ (fun s hs => ?_) (fun s hs => by cases hs) (fun n hn => ?_),
      fun r hr => Or.inl hr⟩
    swap
    · rw [show l.roster.reaper = _ from hph]
      exact Or.inl hn
    rw [show l.roster.reaper = _ from hph]
    refine (mem_candidates_append hs).imp_right ?_
    rintro rfl
    exact Or.inr ⟨port, rfl, hlive⟩
  · cases h

theorem reapTcpCollected_rostered (h : l.reapTcpCollected = some l') :
    l.Rostered .reapTcpCollected l' := by
  unfold reapTcpCollected at h
  split at h
  · rename_i hph
    cases h
    exact .reaper _ hph rfl (fun s hs => hs) (fun s hs => hs) (fun n hn => by cases hn) fun _ hr => hr
  · cases h

theorem reapTcp_rostered (h : l.reapTcp = some l') : l.Rostered .reapTcp l' := by
  unfold reapTcp at h
  split at h
  · rename_i hph
    cases h
    exact .reaper _ hph rfl (fun s hs => hs) (fun s hs => hs) (fun n hn => Or.inl hn) fun _ hr => hr
  · rename_i port session rest hph
    have hrest : ∀ s ∈ rest.map Prod.snd, s ∈ (ReaperPhase.closeTcp
        ((port, session) :: rest)).candidates := fun s hs => List.mem_cons_of_mem _ hs
    split at h
    · rename_i removed state hremoved
      cases h
      obtain ⟨hlive, hslot⟩ := ServerState.slot_removeTcpTunnelIfOwner hremoved
      obtain ⟨-, harc, rfl⟩ := ServerState.removeTcpTunnelIfOwner_eq_some hremoved
      have hreaper : l.roster.reaper = .closeTcp ((port, session) :: rest) := hph
      exact ⟨(Roster.Move.reap (.tcp port) session removed (.shutdown (.take port removed) rest)
        (Or.inr rfl) (by rw [hreaper]; exact List.mem_cons_self ..) (ServerState.slot_eq_live.1 hlive)
        harc (by rw [hreaper]; exact hrest) rfl (by rw [hreaper]; exact fun n hn => hn)).of_eq
        (Roster.ext rfl rfl (ServerState.published_of_slot hslot) rfl rfl rfl rfl),
        stopping_of_removed rfl fun r hr => Function.update_of_ne hr _ _⟩
    · cases h
      exact .reaper _ hph rfl hrest (fun s hs => hs) (fun n hn => Or.inl hn) fun _ hr => hr
  · cases h

/-! ### All steps -/

/-- **Every step of the lifecycle is a move of the roster.** -/
theorem step_rostered (hi : l.Inv) (h : l.step a = some l') : l.Rostered a l' := by
  cases a with
  | accept c => exact accept_rostered h
  | enterLoop c => exact enterLoop_rostered h
  | enterSelect c => exact enterSelect_rostered h
  | continueLoop c cause => exact continueLoop_rostered cause h
  | breakLoop c cause => exact breakLoop_rostered cause h
  | handleControlMsg c msg draw => exact handleControlMsg_rostered h
  | reserve c => exact reserve_rostered h
  | hashBasicAuth c hashPassword => exact hashBasicAuth_rostered h
  | createDns c createRecord => exact createDns_rostered h
  | newSession c => exact newSession_rostered h
  | register c => exact register_rostered hi.2 h
  | bind c bound => exact bind_rostered h
  | registerTcp c => exact registerTcp_rostered hi.2 h
  | releaseSetup c => exact releaseSetup_rostered h
  | replied c => exact replied_rostered h
  | deleteFailedDns c => exact deleteFailedDns_rostered h
  | cleanupHttp c => exact cleanupHttp_rostered hi.1 h
  | cleanupHttpDns c => exact cleanupHttpDns_rostered h
  | cleanupTcp c => exact cleanupTcp_rostered h
  | cleanupTcpDns c => exact cleanupTcpDns_rostered h
  | shutdownTake caller => exact shutdownTake_rostered h
  | shutdownStopped caller => exact shutdownStopped_rostered h
  | shutdownTimeout caller => exact shutdownTimeout_rostered h
  | shutdownRelease caller => exact shutdownRelease_rostered h
  | releaseStopped i => exact releaseStopped_rostered h
  | releaseDec i => exact releaseDec_rostered h
  | stopListening r cause => exact stopListening_rostered cause h
  | signalStopped r => exact signalStopped_rostered h
  | listenerRemove r => exact listenerRemove_rostered h
  | listenerRelease r => exact listenerRelease_rostered h
  | listenerDns r => exact listenerDns_rostered h
  | reapTick now => exact reapTick_rostered h
  | reapStop => exact reapStop_rostered h
  | reapFoundHttp subdomain => exact reapFoundHttp_rostered h
  | reapHttpCollected => exact reapHttpCollected_rostered h
  | reapHttp => exact reapHttp_rostered hi.1 h
  | reapNotified => exact reapNotified_rostered h
  | reapDns => exact reapDns_rostered h
  | reapFoundTcp port => exact reapFoundTcp_rostered h
  | reapTcpCollected => exact reapTcpCollected_rostered h
  | reapTcp => exact reapTcp_rostered h

end Lifecycle
end Rgrok
