/-
# What a step of the server can do

`Server.Step` lists the steps with what each one needs and leaves behind, and
`ChannelStep` is all that can happen to a control channel.  In every reachable
state the sessions that requests and streams know of were announced
(`Server.Known`).
-/

import Rgrok.Server.Server
import Rgrok.Server.Sessions
import Rgrok.Server.StoreSteps

namespace Rgrok

/-- Whether the reaper is collecting candidates. -/
def ReaperPhase.collecting : ReaperPhase → Bool
  | .collectHttp _ _ | .collectTcp _ _ => true
  | .sleeping | .closeHttp _ _ | .notifyHttp _ _ _ | .dnsHttp _ _ _ | .closeTcp _
  | .shutdown _ _ | .notifyTcp _ _ | .dnsTcp _ _ | .stopped => false

/-- A proxied request has a tunnel. -/
theorem PublicPhase.session_of_proxied {ph : PublicPhase} {session : TunnelSession}
    (h : ph.proxied = some session) : ph.session = some session := by
  cases ph with
  | http | replay | tcp => exact h
  | _ => cases h

namespace Server

/-- A step of the server. -/
inductive Step (s : Server) : Action → Server → Prop
  | task (a : Lifecycle.Action) (life : Lifecycle) (hallows : s.allows a = true)
      (hlife : s.life.step a = some life) :
      Step s (.task a) { s with
        life := life
        channels := s.channelsAfter a
        activity := s.activityAfter a
        loaded := s.loadedAfter a }
  | stream (a : Correlation.Action) (streams : Correlation) (hallows : s.allowsStream a = true)
      (hstreams : s.streams.step a = some streams) :
      Step s (.stream a) { s with streams := streams, channels := s.channelsAfterStream a }
  | tick (d : ℕ) : Step s (.tick d) { s with clock := s.clock + d }
  | cancel : Step s .cancel { s with cancelled := true }
  | loadStreams (arc : ℕ) (hreaper : s.life.tasks.reaper.collecting = true)
      (hidle : (s.activity arc).activeStreams = 0) :
      Step s (.loadStreams arc) { s with loaded := some arc }
  | pollReply (c : ℕ) (msg : ServerMsg) (failed : Option TunnelSession)
      (hph : s.life.tasks.control c = .handling (.reply msg failed))
      (hgranted : .control ∉ (s.channels c).granted)
      (hwaiting : .control ∉ (s.channels c).waiting) :
      Step s (.pollReply c) (s.setChannel c ((s.channels c).acquire controlCapacity .control))
  | pollOpen (r : ℕ) (t : Ticket) (hreq : s.streams.request r = .sending t)
      (hopen : s.closed t.session.conn = false)
      (hgranted : .request r ∉ (s.channels t.session.conn).granted)
      (hwaiting : .request r ∉ (s.channels t.session.conn).waiting) :
      Step s (.pollOpen r) (s.setChannel t.session.conn
        ((s.channels t.session.conn).acquire controlCapacity (.request r)))
  | lookup (r : ℕ) (subdomain : String) (session : TunnelSession) (hreq : s.requests r = .idle)
      (hsession : s.life.state.tunnels.lookup subdomain = some session) :
      Step s (.lookup r subdomain) (s.setRequest r (.found session))
  | reject (r : ℕ) (session : TunnelSession) (hreq : s.requests r = .found session) :
      Step s (.reject r) (s.setRequest r .ended)
  | startHttp (r : ℕ) (session : TunnelSession) (hreq : s.requests r = .found session) :
      Step s (.startHttp r)
        (((s.setRequest r (.http session)).touch session.arc).recordPublic session.arc)
  | endHttp (r : ℕ) (session : TunnelSession) (hreq : s.requests r = .http session)
      (hsettled : s.settled r = true) :
      Step s (.endHttp r) { (s.setRequest r .ended).recordPublic session.arc with
        lastHttpEnd := Function.update s.lastHttpEnd session.arc (some s.clock) }
  | startReplay (r : ℕ) (session : TunnelSession) (hreq : s.requests r = .found session) :
      Step s (.startReplay r) (s.setRequest r (.replay session))
  | endReplay (r : ℕ) (session : TunnelSession) (hreq : s.requests r = .replay session)
      (hsettled : s.settled r = true) :
      Step s (.endReplay r) (s.setRequest r .ended)
  | acceptTcp (r arc : ℕ) (port : UInt16) (session : TunnelSession)
      (hreq : s.requests r = .idle) (hlistener : s.life.tasks.listener arc = .running port session) :
      Step s (.acceptTcp r arc) ((s.setRequest r (.accepted session)).recordPublic session.arc)
  | touchTcp (r : ℕ) (session : TunnelSession) (hreq : s.requests r = .accepted session) :
      Step s (.touchTcp r) ((s.setRequest r (.spawned session)).touch session.arc)
  | startStream (r : ℕ) (session : TunnelSession) (hreq : s.requests r = .spawned session) :
      Step s (.startStream r) ((s.setRequest r (.counted session)).countStream session.arc)
  | startTouch (r : ℕ) (session : TunnelSession) (hreq : s.requests r = .counted session) :
      Step s (.startTouch r) ((s.setRequest r (.tcp session)).touch session.arc)
  | endTcp (r : ℕ) (session : TunnelSession) (hreq : s.requests r = .tcp session)
      (hsettled : s.settled r = true) :
      Step s (.endTcp r) ((s.setRequest r (.closing session)).recordPublic session.arc)
  | finishStream (r : ℕ) (session : TunnelSession) (hreq : s.requests r = .closing session) :
      Step s (.finishStream r) ((s.setRequest r (.uncounted session)).uncountStream session.arc)
  | finishTouch (r : ℕ) (session : TunnelSession) (hreq : s.requests r = .uncounted session) :
      Step s (.finishTouch r) ((s.setRequest r .ended).touch session.arc)

variable {s s' : Server} {a : Action} {c r : ℕ} {config : Config} {session : TunnelSession}

/-! ### Every step is one of these -/

theorem task_cases {b : Lifecycle.Action} (h : s.task b = some s') : s.Step (.task b) s' := by
  rw [task] at h
  split_ifs at h with hallows
  obtain ⟨life, hlife, rfl⟩ := Option.map_eq_some_iff.1 h
  exact .task b life hallows hlife

theorem stream_cases {b : Correlation.Action} (h : s.stream b = some s') :
    s.Step (.stream b) s' := by
  rw [stream] at h
  split_ifs at h with hallows
  obtain ⟨streams, hstreams, rfl⟩ := Option.map_eq_some_iff.1 h
  exact .stream b streams hallows hstreams

theorem loadStreams_cases {arc : ℕ} (h : s.loadStreams arc = some s') :
    s.Step (.loadStreams arc) s' := by
  rw [loadStreams] at h
  split at h
  case h_3 => cases h
  all_goals
    rename_i hreaper
    split_ifs at h with hidle
    obtain rfl := Option.some.inj h
    exact .loadStreams arc (by rw [hreaper]; rfl) hidle

theorem pollReply_cases (h : s.pollReply c = some s') : s.Step (.pollReply c) s' := by
  rw [pollReply] at h
  split at h
  · rename_i msg failed hph
    simp only at h
    split_ifs at h with hsends
    obtain rfl := Option.some.inj h
    rw [not_or] at hsends
    exact .pollReply c msg failed hph hsends.1 hsends.2
  · cases h

theorem pollOpen_cases (h : s.pollOpen r = some s') : s.Step (.pollOpen r) s' := by
  rw [pollOpen] at h
  split at h
  · rename_i t hreq
    simp only at h
    split_ifs at h with hsends
    obtain rfl := Option.some.inj h
    rw [not_or, not_or] at hsends
    exact .pollOpen r t hreq (Bool.eq_false_of_not_eq_true hsends.1) hsends.2.1 hsends.2.2
  · cases h

theorem lookup_cases {subdomain : String} (h : s.lookup r subdomain = some s') :
    s.Step (.lookup r subdomain) s' := by
  rw [lookup] at h
  split at h
  · rename_i hreq
    obtain ⟨session, hsession, rfl⟩ := Option.map_eq_some_iff.1 h
    exact .lookup r subdomain session hreq hsession
  · cases h

theorem acceptTcp_cases {arc : ℕ} (h : s.acceptTcp r arc = some s') :
    s.Step (.acceptTcp r arc) s' := by
  rw [acceptTcp] at h
  split at h
  · rename_i port session hreq hlistener
    obtain rfl := Option.some.inj h
    exact .acceptTcp r arc port session hreq hlistener
  · cases h

/-- **Inversion.**  What each action of the machine needs and does. -/
theorem step_cases (h : s.step a = some s') : s.Step a s' := by
  cases a with
  | task b => exact task_cases h
  | stream b => exact stream_cases h
  | tick d =>
      obtain rfl := Option.some.inj h
      exact .tick d
  | cancel =>
      obtain rfl := Option.some.inj h
      exact .cancel
  | loadStreams arc => exact loadStreams_cases h
  | pollReply c => exact pollReply_cases h
  | pollOpen r => exact pollOpen_cases h
  | lookup r subdomain => exact lookup_cases h
  | acceptTcp r arc => exact acceptTcp_cases h
  | reject r =>
      simp only [step, reject] at h
      split at h
      · rename_i session hreq
        obtain rfl := Option.some.inj h
        exact .reject r session hreq
      · cases h
  | startHttp r =>
      simp only [step, startHttp] at h
      split at h
      · rename_i session hreq
        obtain rfl := Option.some.inj h
        exact .startHttp r session hreq
      · cases h
  | endHttp r =>
      simp only [step, endHttp] at h
      split at h
      · rename_i session hreq
        split_ifs at h with hsettled
        obtain rfl := Option.some.inj h
        exact .endHttp r session hreq hsettled
      · cases h
  | startReplay r =>
      simp only [step, startReplay] at h
      split at h
      · rename_i session hreq
        obtain rfl := Option.some.inj h
        exact .startReplay r session hreq
      · cases h
  | endReplay r =>
      simp only [step, endReplay] at h
      split at h
      · rename_i session hreq
        split_ifs at h with hsettled
        obtain rfl := Option.some.inj h
        exact .endReplay r session hreq hsettled
      · cases h
  | touchTcp r =>
      simp only [step, touchTcp] at h
      split at h
      · rename_i session hreq
        obtain rfl := Option.some.inj h
        exact .touchTcp r session hreq
      · cases h
  | startStream r =>
      simp only [step, startStream] at h
      split at h
      · rename_i session hreq
        obtain rfl := Option.some.inj h
        exact .startStream r session hreq
      · cases h
  | startTouch r =>
      simp only [step, startTouch] at h
      split at h
      · rename_i session hreq
        obtain rfl := Option.some.inj h
        exact .startTouch r session hreq
      · cases h
  | endTcp r =>
      simp only [step, endTcp] at h
      split at h
      · rename_i session hreq
        split_ifs at h with hsettled
        obtain rfl := Option.some.inj h
        exact .endTcp r session hreq hsettled
      · cases h
  | finishStream r =>
      simp only [step, finishStream] at h
      split at h
      · rename_i session hreq
        obtain rfl := Option.some.inj h
        exact .finishStream r session hreq
      · cases h
  | finishTouch r =>
      simp only [step, finishTouch] at h
      split at h
      · rename_i session hreq
        obtain rfl := Option.some.inj h
        exact .finishTouch r session hreq
      · cases h

/-! ### The lifecycle -/

/-- The lifecycle moves by its own steps only. -/
theorem Step.life (h : s.Step a s') :
    (∃ b, a = .task b ∧ s.allows b = true ∧ s.life.step b = some s'.life) ∨
      (∀ b, a ≠ .task b) ∧ s'.life = s.life := by
  cases h with
  | task b life hallows hlife => exact Or.inl ⟨b, rfl, hallows, hlife⟩
  | _ => exact Or.inr ⟨by simp, rfl⟩

/-- The configuration stays. -/
theorem Step.config_eq (h : s.Step a s') : s'.life.state.config = s.life.state.config := by
  rcases h.life with ⟨b, -, -, hlife⟩ | ⟨-, hlife⟩
  · exact (Lifecycle.step_store hlife).config
  · rw [hlife]

theorem life_reachable (h : (machine config).Reachable s) :
    (Lifecycle.machine config).Reachable s.life := by
  refine h.map Server.life ?_ fun s a s' _ _ hstep => ?_
  · rintro s rfl
    rfl
  · rcases (step_cases hstep).life with ⟨b, -, -, hlife⟩ | ⟨-, hlife⟩
    · exact Or.inr ⟨b, hlife⟩
    · exact Or.inl hlife

theorem inv_of_reachable (h : (machine config).Reachable s) : s.life.Inv :=
  Lifecycle.inv_of_reachable (life_reachable h)

theorem roster_inv_of_reachable (h : (machine config).Reachable s) : s.life.roster.Inv :=
  Lifecycle.roster_inv_of_reachable (life_reachable h)

/-- A step of the server is a move of the roster, or leaves the roster alone. -/
theorem Step.rostered (hi : s.life.Inv) (h : s.Step a s') :
    (∃ b, a = .task b ∧ s.allows b = true ∧ s.life.Rostered b s'.life) ∨
      (∀ b, a ≠ .task b) ∧ s'.life = s.life := by
  rcases h.life with ⟨b, ha, hallows, hlife⟩ | hlife
  · exact Or.inl ⟨b, ha, hallows, Lifecycle.step_rostered hi hlife⟩
  · exact Or.inr hlife

/-- What was announced stays announced. -/
theorem Step.announced (hi : s.life.Inv) (hr : s.life.roster.Inv) (h : s.Step a s')
    (ha : s.life.roster.Announced session) : s'.life.roster.Announced session := by
  rcases h.rostered hi with ⟨b, -, -, hrostered⟩ | ⟨-, hlife⟩
  · exact ha.move hr hrostered.move
  · rwa [hlife]

/-! ### The control channels -/

/-- What a step does to the control channel of the connection `c`. -/
inductive ChannelStep (s : Server) (c : ℕ) : Action → ControlChannel → Prop
  | stay (a : Action) (hreplied : a ≠ .task (.replied c))
      (hsent : a ≠ .task (.continueLoop c .sent)) : ChannelStep s c a (s.channels c)
  | create : ChannelStep s c (.task (.enterLoop c)) .empty
  | recv (a : Action) (hqueue : (s.channels c).queue ≠ [])
      (ha : a = .task (.continueLoop c .sent) ∨ a = .task (.breakLoop c .writeFailed)) :
      ChannelStep s c a (s.channels c).recv
  | answer (msg : ServerMsg) (failed : Option TunnelSession)
      (hph : s.life.tasks.control c = .handling (.reply msg failed))
      (hgranted : .control ∈ (s.channels c).granted) :
      ChannelStep s c (.task (.replied c)) ((s.channels c).push .control msg)
  | notice (removed : TunnelSession) (hremoved : s.life.tasks.reaper.removed = some removed)
      (hconn : removed.conn = c) :
      ChannelStep s c (.task .reapNotified) ((s.channels c).trySend controlCapacity idleNotice)
  | pollReply (msg : ServerMsg) (failed : Option TunnelSession)
      (hph : s.life.tasks.control c = .handling (.reply msg failed))
      (hgranted : .control ∉ (s.channels c).granted)
      (hwaiting : .control ∉ (s.channels c).waiting) :
      ChannelStep s c (.pollReply c) ((s.channels c).acquire controlCapacity .control)
  | pollOpen (r : ℕ) (t : Ticket) (hreq : s.streams.request r = .sending t)
      (hconn : t.session.conn = c) (hgranted : .request r ∉ (s.channels c).granted)
      (hwaiting : .request r ∉ (s.channels c).waiting) :
      ChannelStep s c (.pollOpen r) ((s.channels c).acquire controlCapacity (.request r))
  | send (r : ℕ) (t : Ticket) (hreq : s.streams.request r = .sending t)
      (hconn : t.session.conn = c) (hgranted : .request r ∈ (s.channels c).granted) :
      ChannelStep s c (.stream (.send r)) ((s.channels c).push (.request r) t.streamOpen)
  | abandon (r : ℕ) (t : Ticket) (hreq : s.streams.request r = .sending t)
      (hconn : t.session.conn = c) :
      ChannelStep s c (.stream (.abandon r)) ((s.channels c).cancel (.request r))

/-- The channel of a connection when the channel of `c'` was replaced. -/
theorem ChannelStep.update {c' : ℕ} {ch : ControlChannel} (hreplied : a ≠ .task (.replied c) ∨ c = c')
    (hsent : a ≠ .task (.continueLoop c .sent) ∨ c = c') (h : c = c' → s.ChannelStep c a ch) :
    s.ChannelStep c a (Function.update s.channels c' ch c) := by
  by_cases hc : c = c'
  · rw [hc, Function.update_self, ← hc]
    exact h hc
  · rw [Function.update_of_ne hc]
    exact .stay a (hreplied.resolve_right hc) (hsent.resolve_right hc)

/-- A step of the lifecycle, on the control channel of `c`. -/
theorem channel_task {b : Lifecycle.Action} {life : Lifecycle} (hallows : s.allows b = true)
    (hlife : s.life.step b = some life) (c : ℕ) :
    s.ChannelStep c (.task b) (s.channelsAfter b c) := by
  cases b with
  | enterLoop c' =>
      exact ChannelStep.update (Or.inl nofun) (Or.inl nofun) fun hc => hc ▸ .create
  | continueLoop c' cause =>
      cases cause with
      | sent =>
          refine ChannelStep.update (Or.inl (by simp)) ?_ fun hc => ?_
          · rw [or_iff_not_imp_right]
            intro hc he
            injection he with he
            injection he with he
            exact hc he.symm
          · subst hc
            exact .recv _ (by simpa [allows] using hallows) (Or.inl rfl)
      | epochChanged => exact .stay _ (by simp) (by simp)
  | breakLoop c' cause =>
      cases cause with
      | writeFailed =>
          refine ChannelStep.update (Or.inl (by simp)) (Or.inl (by simp)) fun hc => ?_
          subst hc
          rw [allows, Bool.and_eq_true] at hallows
          exact .recv _ (by simpa using hallows.2) (Or.inr rfl)
      | readFailed | cancelled | revoked => exact .stay _ (by simp) (by simp)
  | replied c' =>
      generalize hch : s.channelsAfter (.replied c') = channels
      rw [channelsAfter] at hch
      split at hch <;> subst hch
      · rename_i msg failed hph
        refine ChannelStep.update ?_ (Or.inl (by simp)) fun hc => ?_
        · rw [or_iff_not_imp_right]
          intro hc he
          injection he with he
          injection he with he
          exact hc he.symm
        · subst hc
          exact .answer msg failed hph (by simpa [allows] using hallows)
      · rename_i hne
        simp only [Lifecycle.step, Lifecycle.replied] at hlife
        split at hlife
        · rename_i msg hph
          exact absurd hph (hne msg none)
        · rename_i msg session hph
          exact absurd hph (hne msg (some session))
        · cases hlife
  | reapNotified =>
      have stay : s.ChannelStep c (.task .reapNotified) (s.channels c) :=
        .stay _ (by simp) (by simp)
      have notify (removed : TunnelSession) (hremoved : s.life.tasks.reaper.removed = some removed) :
          s.ChannelStep c (.task .reapNotified) (s.notify removed c) := by
        rw [Server.notify]
        split_ifs
        · exact stay
        · refine ChannelStep.update (Or.inl (by simp)) (Or.inl (by simp)) fun hc => ?_
          subst hc
          exact .notice removed hremoved rfl
      generalize hch : s.channelsAfter .reapNotified = channels
      rw [channelsAfter] at hch
      split at hch <;> subst hch
      · rename_i removed rest hph
        exact notify removed (by rw [hph]; rfl)
      · rename_i removed rest hph
        exact notify removed (by rw [hph]; rfl)
      · exact stay
  | _ => exact .stay _ (by simp) (by simp)

/-- A step of the stream correlation, on the control channel of `c`. -/
theorem channel_stream {b : Correlation.Action} (hallows : s.allowsStream b = true) (c : ℕ) :
    s.ChannelStep c (.stream b) (s.channelsAfterStream b c) := by
  cases b with
  | send r =>
      generalize hch : s.channelsAfterStream (.send r) = channels
      rw [channelsAfterStream] at hch
      split at hch <;> subst hch
      · rename_i t hreq
        refine ChannelStep.update (Or.inl (by simp)) (Or.inl (by simp)) fun hc => ?_
        subst hc
        simp only [allowsStream, hreq, Bool.and_eq_true] at hallows
        exact .send r t hreq rfl (List.contains_iff_mem.1 hallows.2)
      · exact .stay _ (by simp) (by simp)
  | abandon r =>
      generalize hch : s.channelsAfterStream (.abandon r) = channels
      rw [channelsAfterStream] at hch
      split at hch <;> subst hch
      · rename_i t hreq
        refine ChannelStep.update (Or.inl (by simp)) (Or.inl (by simp)) fun hc => ?_
        subst hc
        exact .abandon r t hreq rfl
      · exact .stay _ (by simp) (by simp)
  | _ => exact .stay _ (by simp) (by simp)

/-- **All that can happen to a control channel.** -/
theorem Step.channel (h : s.Step a s') (c : ℕ) : s.ChannelStep c a (s'.channels c) := by
  cases h with
  | task b life hallows hlife => exact channel_task hallows hlife c
  | stream b streams hallows hstreams => exact channel_stream hallows c
  | pollReply c' msg failed hph hgranted hwaiting =>
      refine ChannelStep.update (Or.inl (by simp)) (Or.inl (by simp)) fun hc => ?_
      subst hc
      exact .pollReply msg failed hph hgranted hwaiting
  | pollOpen r t hreq hopen hgranted hwaiting =>
      refine ChannelStep.update (Or.inl (by simp)) (Or.inl (by simp)) fun hc => ?_
      subst hc
      exact .pollOpen r t hreq rfl hgranted hwaiting
  | _ => exact .stay _ (by simp) (by simp)

theorem ChannelStep.inv {ch : ControlChannel} (h : s.ChannelStep c a ch)
    (hi : (s.channels c).Inv controlCapacity) : ch.Inv controlCapacity := by
  cases h with
  | stay => exact hi
  | create => exact Channel.Inv.empty
  | recv _ hqueue _ => exact hi.recv hqueue
  | answer msg failed hph hgranted => exact hi.push hgranted
  | notice removed hremoved hconn => exact hi.trySend
  | pollReply msg failed hph hgranted hwaiting => exact hi.acquire hgranted hwaiting
  | pollOpen r t hreq hconn hgranted hwaiting => exact hi.acquire hgranted hwaiting
  | send r t hreq hconn hgranted => exact hi.push hgranted
  | abandon r t hreq hconn => exact hi.cancel

/-- Every control channel stays within its capacity. -/
theorem channel_inv_of_reachable (h : (machine config).Reachable s) (c : ℕ) :
    (s.channels c).Inv controlCapacity := by
  refine h.invariant (I := fun s => (s.channels c).Inv controlCapacity) ?_
    fun s a s' _ hi _ hstep => ?_
  · rintro s rfl
    exact Channel.Inv.empty
  · exact ((step_cases hstep).channel c).inv hi

/-! ### Which sessions requests know of -/

/-- A request that moved on keeps its tunnel, or has found it in the store or at
its listener. -/
theorem Step.request (h : s.Step a s') (hs : (s'.requests r).session = some session) :
    (s.requests r).session = some session ∨
      (∃ key, s.life.state.published key = some session) ∨
        ∃ arc, (s.life.tasks.listener arc).session = some session := by
  have keep {r' : ℕ} {old new : PublicPhase} (hold : s.requests r' = old)
      (hr : (Function.update s.requests r' new r).session = some session)
      (hnew : ∀ x, new.session = some x → old.session = some x) : (s.requests r).session = some session := by
    by_cases he : r = r'
    · subst he
      rw [Function.update_self] at hr
      rw [hold]
      exact hnew session hr
    · rwa [Function.update_of_ne he] at hr
  cases h with
  | lookup r' subdomain found hreq hfound =>
      by_cases he : r = r'
      · subst he
        simp only [setRequest, Function.update_self, PublicPhase.session, Option.some.injEq] at hs
        subst hs
        exact Or.inr (Or.inl ⟨.http subdomain, hfound⟩)
      · simp only [setRequest, Function.update_of_ne he] at hs
        exact Or.inl hs
  | acceptTcp r' arc port found hreq hlistener =>
      by_cases he : r = r'
      · subst he
        simp only [setRequest, recordPublic, Function.update_self, PublicPhase.session,
          Option.some.injEq] at hs
        subst hs
        exact Or.inr (Or.inr ⟨arc, by rw [hlistener]; rfl⟩)
      · simp only [setRequest, recordPublic, Function.update_of_ne he] at hs
        exact Or.inl hs
  | reject r' found hreq | endHttp r' found hreq | endReplay r' found hreq
  | finishTouch r' found hreq => exact Or.inl (keep hreq hs fun x hx => by cases hx)
  | startHttp r' found hreq | startReplay r' found hreq | touchTcp r' found hreq
  | startStream r' found hreq | startTouch r' found hreq | endTcp r' found hreq
  | finishStream r' found hreq => exact Or.inl (keep hreq hs fun x hx => hx)
  | task | stream | tick | cancel | loadStreams | pollReply | pollOpen => exact Or.inl hs

/-- `request_proxy_stream` works for the tunnel of its request. -/
theorem Step.ticket {t : Ticket} (h : s.Step a s') (ht : (s'.streams.request r).ticket = some t) :
    (s.streams.request r).ticket = some t ∨ (s.requests r).session = some t.session := by
  cases h with
  | stream b streams hallows hstreams =>
      rcases Correlation.step_ticket hstreams ht with hold | rfl
      · exact Or.inl hold
      · exact Or.inr (PublicPhase.session_of_proxied (beq_iff_eq.1 hallows))
  | _ => exact Or.inl ht

/-- The sessions that requests and streams know of were announced. -/
structure Known (s : Server) : Prop where
  requests : ∀ r session, (s.requests r).session = some session →
    s.life.roster.Announced session
  streams : ∀ r t, (s.streams.request r).ticket = some t → s.life.roster.Announced t.session

theorem Known.step (hi : s.life.Inv) (hr : s.life.roster.Inv) (hk : s.Known) (h : s.Step a s') :
    s'.Known where
  requests r session hs := by
    refine h.announced hi hr ?_
    rcases h.request hs with hold | ⟨key, hlive⟩ | ⟨arc, hlistener⟩
    · exact hk.requests r session hold
    · exact hr.live key session hlive
    · exact hr.listener arc session hlistener
  streams r t ht := by
    refine h.announced hi hr ?_
    rcases h.ticket ht with hold | hnew
    · exact hk.streams r t hold
    · exact hk.requests r t.session hnew

theorem known_of_reachable (h : (machine config).Reachable s) : s.Known := by
  refine h.invariant (I := Known) ?_ fun s a s' r hk _ hstep => ?_
  · rintro s rfl
    exact { requests := fun r session hs => (by cases hs), streams := fun r t ht => (by cases ht) }
  · exact hk.step (inv_of_reachable r) (roster_inv_of_reachable r) (step_cases hstep)

/-! ### A tunnel and its traffic -/

/-- The client of `c` asks for the HTTP tunnel `name`, up to its publication. -/
def registerHttpRun (c : ℕ) (id name : String) : List Action :=
  [.task (.accept c), .task (.enterLoop c), .task (.enterSelect c),
    .task (.handleControlMsg c (.tunnelRequest id .http (some name) none Lifecycle.plainOptions)
      Lifecycle.firstDraw),
    .task (.reserve c), .task (.hashBasicAuth c .ok), .task (.createDns c fun _ _ => .ok ""),
    .task (.newSession c), .task (.register c)]

/-- The `TunnelAck` is queued and written. -/
def ackRun (c : ℕ) : List Action :=
  [.pollReply c, .task (.replied c), .task (.enterSelect c), .task (.continueLoop c .sent),
    .task (.enterSelect c)]

/-- A visitor's request `r` queues its `StreamOpen` for the tunnel `session`. -/
def openRun (session : TunnelSession) (r : ℕ) : List Action :=
  [.lookup r session.subdomain, .startHttp r, .stream (.draw r session), .stream (.insert r),
    .pollOpen r, .stream (.send r)]

end Server
end Rgrok
