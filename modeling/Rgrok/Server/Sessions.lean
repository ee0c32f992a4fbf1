/-
# Where sessions come from

Every session that any task has got hold of was published, and stands on the
cleanup list of its connection until that connection's loop is over
(`Roster.Announced`).  So nobody knows a session of a connection that has not
yet registered one.
-/

import Rgrok.Server.RosterSteps

namespace Rgrok

/-- The loop of a connection that was over stays over. -/
theorem ControlStep.closing {c : ℕ} {a : Lifecycle.Action} {ph ph' : ControlPhase}
    (h : ControlStep c a ph ph') (hc : ph.closing = true) : ph'.closing = true := by
  cases h with
  | cleanup _ k _ hph => exact hph
  | breakLoop cause _ hph => rfl
  | accept | enterSelect | continueLoop | request | ping | ignore | setup | replied | repliedFailed
  | deleteFailedDns => cases hc

/-- A step of a listener task that removes nothing keeps its session. -/
theorem ListenerStep.session {r : ℕ} {a : Lifecycle.Action} {ph ph' : ListenerPhase}
    {session : TunnelSession} (h : ListenerStep r a ph ph') (hs : ph'.session = some session) :
    ph.session = some session := by
  cases h with
  | stop | signal | release => exact hs
  | gone | deleteDns => cases hs

/-- A loop that is over has begun. -/
theorem ControlPhase.fresh_eq_false {ph : ControlPhase} (h : ph.closing = true) :
    ph.fresh = false := by
  cases ph <;> first | rfl | exact Bool.noConfusion h

namespace Roster

variable {v v' : Roster} {a : Lifecycle.Action} {c : ℕ} {session : TunnelSession}

/-- What a move can do to one control task and its cleanup list. -/
inductive ConnMove (v : Roster) (a : Lifecycle.Action) (c : ℕ) (v' : Roster) : Prop
  | stay (hcontrol : v'.control c = v.control c) (hreg : v'.registered c = v.registered c)
  | control (hstep : ControlStep c a (v.control c) (v'.control c))
      (hreg : v'.registered c = v.registered c)
  | enterLoop (ha : a = .enterLoop c) (hold : v.control c = .authed)
      (hnew : v'.control c = .loopTop) (hreg : (v'.registered c).pairs = [])
  | publish (h : Handling) (key : ReservationKey) (session : TunnelSession) (msg : ServerMsg)
      (ha : a ≠ .replied c) (hold : v.control c = .handling h) (hworking : h.working = true)
      (hsession : h.session = some session)
      (hmsg : ∃ url tunnelType, msg = .tunnelAck session.id url tunnelType)
      (hnew : v'.control c = .handling (.reply msg none))
      (hreg : ∀ x, x ∈ (v'.registered c).pairs ↔ x ∈ (v.registered c).pairs ∨ x = (key, session))
  | closing (hold : (v.control c).closing = true) (hnew : (v'.control c).closing = true)
      (hreg : ∀ x ∈ (v'.registered c).pairs, x ∈ (v.registered c).pairs)

theorem Move.conn (m : v.Move a v') (c : ℕ) : v.ConnMove a c v' := by
  cases m with
  | stay | listener | listenerRemove | reaper | reap => exact .stay rfl rfl
  | control c' ph hstep =>
      by_cases hc : c = c'
      · subst hc
        refine .control ?_ rfl
        simpa only [Function.update_self] using hstep
      · exact .stay (Function.update_of_ne hc _ _) rfl
  | enterLoop c' ha hph =>
      by_cases hc : c = c'
      · subst hc
        refine .enterLoop ha hph (Function.update_self ..) ?_
        simp only [Function.update_self]
        rfl
      · exact .stay (Function.update_of_ne hc _ _) (Function.update_of_ne hc _ _)
  | publish c' h key session msg reg listener hreplied hph hworking hsession hfree hnew hmsg hreg =>
      by_cases hc : c = c'
      · subst hc
        refine .publish h key session msg hreplied hph hworking hsession hmsg
          (Function.update_self ..) ?_
        simpa only [Function.update_self] using hreg
      · exact .stay (Function.update_of_ne hc _ _) (Function.update_of_ne hc _ _)
  | pass c' k reg hph hreg =>
      by_cases hc : c = c'
      · subst hc
        refine .closing (by rw [hph]; rfl) (by rw [hph]; rfl) ?_
        simpa only [Function.update_self] using hreg
      · exact .stay rfl (Function.update_of_ne hc _ _)
  | cleanup c' k ph reg key session removed hph hph' hreg =>
      by_cases hc : c = c'
      · subst hc
        refine .closing (by rw [hph]; rfl) ?_ ?_
        · simpa only [Function.update_self] using hph'
        · simpa only [Function.update_self] using hreg
      · exact .stay (Function.update_of_ne hc _ _) (Function.update_of_ne hc _ _)

/-- The session was published, and is on the cleanup list of its connection or
the connection's loop is over. -/
def Announced (v : Roster) (session : TunnelSession) : Prop :=
  session.arc ∈ v.published ∧
    ((v.control session.conn).closing = true ∨
      ∃ key, (key, session) ∈ (v.registered session.conn).pairs)

/-- Every session on a cleanup list belongs to that connection, and every
session anywhere was announced. -/
structure Inv (v : Roster) : Prop where
  fresh : ∀ c, (v.control c).fresh = true → (v.registered c).pairs = []
  built : ∀ c h session, v.control c = .handling h → h.session = some session → session.conn = c
  conn : ∀ c x, x ∈ (v.registered c).pairs → x.2.conn = c
  published : ∀ c x, x ∈ (v.registered c).pairs → x.2.arc ∈ v.published
  unique : ∀ c c' x x', x ∈ (v.registered c).pairs → x' ∈ (v.registered c').pairs →
    x.2.arc = x'.2.arc → x.2 = x'.2
  live : ∀ key session, v.live key = some session → v.Announced session
  listener : ∀ r session, (v.listener r).session = some session → v.Announced session
  candidates : ∀ session ∈ v.reaper.candidates, v.Announced session
  removed : ∀ session, v.reaper.removed = some session → v.Announced session

/-- **What was announced stays announced.** -/
theorem Announced.move (h : v.Announced session) (hi : v.Inv) (m : v.Move a v') :
    v'.Announced session := by
  obtain ⟨hpub, hserve⟩ := h
  cases m with
  | stay => exact ⟨hpub, hserve⟩
  | control c ph hstep =>
      refine ⟨hpub, hserve.imp_left fun hc => ?_⟩
      by_cases hconn : session.conn = c
      · subst hconn
        simp only [Function.update_self]
        exact hstep.closing hc
      · simpa only [Function.update_of_ne hconn] using hc
  | enterLoop c ha hph =>
      have hconn : session.conn ≠ c := by
        rintro rfl
        rcases hserve with hc | ⟨key, hkey⟩
        · rw [hph] at hc
          cases hc
        · rw [hi.fresh _ (by rw [hph]; rfl)] at hkey
          cases hkey
      refine ⟨hpub, ?_⟩
      simpa only [Function.update_of_ne hconn] using hserve
  | publish c h key new msg reg listener hreplied hph hworking hnew' hfree hnew hmsg hreg hlistener =>
      refine ⟨List.mem_cons_of_mem _ hpub, ?_⟩
      by_cases hconn : session.conn = c
      · subst hconn
        rcases hserve with hc | ⟨key', hkey⟩
        · rw [hph] at hc
          cases hc
        · exact Or.inr ⟨key', by simpa only [Function.update_self] using (hreg _).2 (Or.inl hkey)⟩
      · simpa only [Function.update_of_ne hconn] using hserve
  | pass c k reg hph hreg =>
      refine ⟨hpub, ?_⟩
      by_cases hconn : session.conn = c
      · subst hconn
        refine Or.inl ?_
        simp only [hph]
        rfl
      · simpa only [Function.update_of_ne hconn] using hserve
  | cleanup c k ph reg key old removed hph hph' hreg hsession hlive harc =>
      refine ⟨hpub, ?_⟩
      by_cases hconn : session.conn = c
      · subst hconn
        exact Or.inl (by simpa only [Function.update_self] using hph')
      · simpa only [Function.update_of_ne hconn] using hserve
  | listener | listenerRemove | reaper | reap => exact ⟨hpub, hserve⟩

/-! ### The invariant is kept -/

namespace Inv

theorem new (config : Config) : (Lifecycle.new config).roster.Inv := by
  have hlive : ∀ key, (Lifecycle.new config).roster.live key = none := by
    intro key
    cases key <;> rfl
  constructor
  · exact fun c _ => rfl
  · exact fun c h session hph => by cases hph
  · exact fun c x hx => by cases hx
  · exact fun c x hx => by cases hx
  · exact fun c c' x x' hx => by cases hx
  · intro key session h
    rw [hlive] at h
    cases h
  · exact fun r session h => by cases h
  · exact fun session h => by cases h
  · exact fun session h => by cases h

/-- A move that keeps the cleanup lists, or only shortens them. -/
theorem shorten (hi : v.Inv) (m : v.Move a v')
    (hfresh : ∀ c, (v'.control c).fresh = true → (v.control c).fresh = true)
    (hbuilt : ∀ c h session, v'.control c = .handling h → h.session = some session →
      session.conn = c)
    (hreg : ∀ c x, x ∈ (v'.registered c).pairs → x ∈ (v.registered c).pairs)
    (hpub : v'.published = v.published)
    (hlive : ∀ key session, v'.live key = some session → v.live key = some session)
    (hlistener : ∀ r session, (v'.listener r).session = some session → v.Announced session)
    (hcandidates : ∀ session ∈ v'.reaper.candidates, v.Announced session)
    (hremoved : ∀ session, v'.reaper.removed = some session → v.Announced session) : v'.Inv where
  fresh c hc := by
    have hnil := hi.fresh c (hfresh c hc)
    refine List.eq_nil_iff_forall_not_mem.2 fun x hx => ?_
    have := hreg c x hx
    rw [hnil] at this
    cases this
  built := hbuilt
  conn c x hx := hi.conn c x (hreg c x hx)
  published c x hx := hpub ▸ hi.published c x (hreg c x hx)
  unique c c' x x' hx hx' := hi.unique c c' x x' (hreg c x hx) (hreg c' x' hx')
  live key session h := (hi.live key session (hlive key session h)).move hi m
  listener r session h := (hlistener r session h).move hi m
  candidates session h := (hcandidates session h).move hi m
  removed session h := (hremoved session h).move hi m

/-- A control task that moves on has built its session itself. -/
theorem built_control (hi : v.Inv) {ph : ControlPhase}
    (hph : ∀ h session, ph = .handling h → h.session = some session → session.conn = c)
    (c' : ℕ) (h : Handling) (session : TunnelSession)
    (hc' : Function.update v.control c ph c' = .handling h) (hs : h.session = some session) :
    session.conn = c' := by
  by_cases hcc : c' = c
  · subst hcc
    rw [Function.update_self] at hc'
    exact hph h session hc' hs
  · rw [Function.update_of_ne hcc] at hc'
    exact hi.built c' h session hc' hs

theorem fresh_control {ph : ControlPhase} (hph : ph.fresh = true → (v.control c).fresh = true)
    (c' : ℕ) (h : (Function.update v.control c ph c').fresh = true) :
    (v.control c').fresh = true := by
  by_cases hcc : c' = c
  · subst hcc
    rw [Function.update_self] at h
    exact hph h
  · rwa [Function.update_of_ne hcc] at h

/-- A key that was freed is live for nobody. -/
theorem live_of_erase {key k : ReservationKey}
    (h : Function.update v.live key none k = some session) : v.live k = some session := by
  by_cases hk : k = key
  · subst hk
    rw [Function.update_self] at h
    cases h
  · rwa [Function.update_of_ne hk] at h

theorem pairs_update {reg : Registered} (hreg : ∀ x ∈ reg.pairs, x ∈ (v.registered c).pairs)
    (c' : ℕ) (x : ReservationKey × TunnelSession)
    (hx : x ∈ (Function.update v.registered c reg c').pairs) : x ∈ (v.registered c').pairs := by
  by_cases hcc : c' = c
  · subst hcc
    rw [Function.update_self] at hx
    exact hreg x hx
  · rwa [Function.update_of_ne hcc] at hx

/-- The session that a step of a control task leaves in `handle_control_msg`. -/
theorem built_step (hi : v.Inv) {ph : ControlPhase} (hstep : ControlStep c a (v.control c) ph)
    (h : Handling) (session : TunnelSession) (hph : ph = .handling h)
    (hs : h.session = some session) : session.conn = c := by
  generalize hold : v.control c = old at hstep
  cases hstep with
  | request id tunnelType subdomain basicAuth options draw h' hfails hsession =>
      obtain rfl := ControlPhase.handling.inj hph
      rw [hsession] at hs
      cases hs
  | setup _ h₀ h' hreplied hworking hnext hfails hsession =>
      obtain rfl := ControlPhase.handling.inj hph
      rcases hsession session hs with hs₀ | hconn
      · exact hi.built c h₀ session hold hs₀
      · exact hconn
  | repliedFailed msg failed =>
      obtain rfl := ControlPhase.handling.inj hph
      exact hi.built c _ session hold hs
  | ping seq draw =>
      obtain rfl := ControlPhase.handling.inj hph
      cases hs
  | cleanup _ k _ hclosing =>
      rw [hph] at hclosing
      cases hclosing
  | accept | enterSelect | continueLoop | breakLoop | ignore | replied | deleteFailedDns =>
      cases hph

theorem fresh_step {ph ph' : ControlPhase} (hstep : ControlStep c a ph ph')
    (h : ph'.fresh = true) : ph.fresh = true := by
  cases hstep with
  | accept => rfl
  | cleanup _ k _ hclosing =>
      rw [ControlPhase.fresh_eq_false hclosing] at h
      cases h
  | enterSelect | continueLoop | breakLoop | request | ping | ignore | setup | replied
  | repliedFailed | deleteFailedDns => cases h

theorem listener_update (hi : v.Inv) {r : ℕ} {ph : ListenerPhase}
    (hph : ∀ session, ph.session = some session → v.Announced session) (r' : ℕ)
    (session : TunnelSession) (h : (Function.update v.listener r ph r').session = some session) :
    v.Announced session := by
  by_cases hr : r' = r
  · subst hr
    rw [Function.update_self] at h
    exact hph session h
  · rw [Function.update_of_ne hr] at h
    exact hi.listener r' session h

/-- The invariant after a session is published. -/
theorem publish (hi : v.Inv) (m : v.Move a v') {h : Handling} {key : ReservationKey}
    {new : TunnelSession} {msg : ServerMsg} {reg : Registered}
    (hph : v.control c = .handling h) (hsession : h.session = some new)
    (hnew : new.arc ∉ v.published)
    (hreg : ∀ x, x ∈ reg.pairs ↔ x ∈ (v.registered c).pairs ∨ x = (key, new))
    (hcontrol : v'.control = Function.update v.control c (.handling (.reply msg none)))
    (hregistered : v'.registered = Function.update v.registered c reg)
    (hpub : v'.published = new.arc :: v.published)
    (hlive : v'.live = Function.update v.live key (some new))
    (hlistener : ∀ r session, (v'.listener r).session = some session →
      (v.listener r).session = some session ∨ session = new)
    (hreaper : v'.reaper = v.reaper) : v'.Inv := by
  have hconn : new.conn = c := hi.built c h new hph hsession
  have hself : v'.Announced new := by
    refine ⟨by rw [hpub]; exact List.mem_cons_self .., Or.inr ⟨key, ?_⟩⟩
    rw [hregistered, hconn, Function.update_self]
    exact (hreg _).2 (Or.inr rfl)
  have old : ∀ c' x, x ∈ (v'.registered c').pairs →
      x ∈ (v.registered c').pairs ∨ c' = c ∧ x = (key, new) := by
    intro c' x hx
    rw [hregistered] at hx
    by_cases hcc : c' = c
    · subst hcc
      rw [Function.update_self] at hx
      exact ((hreg x).1 hx).imp_right fun he => ⟨rfl, he⟩
    · rw [Function.update_of_ne hcc] at hx
      exact Or.inl hx
  constructor
  · intro c' hc'
    rw [hcontrol] at hc'
    by_cases hcc : c' = c
    · subst hcc
      rw [Function.update_self] at hc'
      cases hc'
    · rw [Function.update_of_ne hcc] at hc'
      rw [hregistered, Function.update_of_ne hcc]
      exact hi.fresh c' hc'
  · intro c' h' session hc' hs
    rw [hcontrol] at hc'
    refine hi.built_control ?_ c' h' session hc' hs
    rintro h'' session'' he hs''
    obtain rfl := ControlPhase.handling.inj he
    cases hs''
  · intro c' x hx
    rcases old c' x hx with hx | ⟨rfl, rfl⟩
    · exact hi.conn c' x hx
    · exact hconn
  · intro c' x hx
    rw [hpub]
    rcases old c' x hx with hx | ⟨rfl, rfl⟩
    · exact List.mem_cons_of_mem _ (hi.published c' x hx)
    · exact List.mem_cons_self ..
  · intro c₁ c₂ x y hx hy harc
    rcases old c₁ x hx with hx | ⟨-, rfl⟩
    · rcases old c₂ y hy with hy | ⟨-, rfl⟩
      · exact hi.unique c₁ c₂ x y hx hy harc
      · exact absurd (harc ▸ hi.published c₁ x hx) hnew
    · rcases old c₂ y hy with hy | ⟨-, rfl⟩
      · exact absurd (harc ▸ hi.published c₂ y hy) hnew
      · rfl
  · intro k session hk
    rw [hlive] at hk
    by_cases hkey : k = key
    · subst hkey
      rw [Function.update_self] at hk
      obtain rfl := Option.some.inj hk
      exact hself
    · rw [Function.update_of_ne hkey] at hk
      exact (hi.live k session hk).move hi m
  · intro r session hr
    rcases hlistener r session hr with hold | rfl
    · exact (hi.listener r session hold).move hi m
    · exact hself
  · intro session hs
    rw [hreaper] at hs
    exact (hi.candidates session hs).move hi m
  · intro session hs
    rw [hreaper] at hs
    exact (hi.removed session hs).move hi m

/-- **Every move keeps the invariant.** -/
theorem move (hi : v.Inv) (m : v.Move a v') : v'.Inv := by
  have m' := m
  cases m with
  | stay => exact hi
  | control c ph hstep =>
      exact hi.shorten m' (fresh_control (fresh_step hstep)) (hi.built_control (hi.built_step hstep))
        (fun c x hx => hx) rfl (fun key session h => h) hi.listener hi.candidates hi.removed
  | enterLoop c ha hph =>
      refine hi.shorten m' (fresh_control fun h => by cases h)
        (hi.built_control fun h session he => by cases he)
        (pairs_update fun x hx => by cases hx) rfl (fun key session h => h) hi.listener
        hi.candidates hi.removed
  | publish c h key new msg reg listener hreplied hph hworking hsession hfree hnew hmsg hreg
      hlistener =>
      refine hi.publish m' hph hsession hnew hreg rfl rfl rfl rfl (fun r session hr => ?_) rfl
      rcases hlistener r with hold | ⟨port, -, hrun⟩
      · exact Or.inl (hold ▸ hr)
      · refine Or.inr ?_
        simp only [hrun, ListenerPhase.session, Option.some.injEq] at hr
        exact hr.symm
  | pass c k reg hph hreg =>
      exact hi.shorten m' (fun c hc => hc) hi.built (pairs_update hreg) rfl
        (fun key session h => h) hi.listener hi.candidates hi.removed
  | cleanup c k ph reg key old removed hph hph' hreg hsession hlive harc =>
      refine hi.shorten m' (fresh_control fun h => ?_) (hi.built_control ?_) (pairs_update hreg) rfl
        (fun key session h => live_of_erase h) hi.listener hi.candidates hi.removed
      · rw [ControlPhase.fresh_eq_false hph'] at h
        cases h
      · rintro h session rfl
        cases hph'
  | listener r ph hstep =>
      refine hi.shorten m' (fun c hc => hc) hi.built (fun c x hx => hx) rfl
        (fun key session h => h) (hi.listener_update fun session hs => ?_) hi.candidates hi.removed
      exact hi.listener r session (hstep.session hs)
  | listenerRemove r port session removed ha hph hlive harc =>
      refine hi.shorten m' (fun c hc => hc) hi.built (fun c x hx => hx) rfl
        (fun key session h => live_of_erase h) (hi.listener_update fun session hs => ?_)
        hi.candidates hi.removed
      obtain rfl := Option.some.inj hs
      exact hi.live _ _ hlive
  | reaper ph hcandidates hremoved hnow =>
      refine hi.shorten m' (fun c hc => hc) hi.built (fun c x hx => hx) rfl
        (fun key session h => h) hi.listener (fun session hs => ?_)
        (fun session hs => hi.removed session (hremoved session hs))
      rcases hcandidates session hs with hold | ⟨subdomain, -, hlive⟩ | ⟨port, -, hlive⟩
      · exact hi.candidates session hold
      · exact hi.live _ session hlive
      · exact hi.live _ session hlive
  | reap key session removed ph ha hsession hlive harc hcandidates hremoved hnow =>
      refine hi.shorten m' (fun c hc => hc) hi.built (fun c x hx => hx) rfl
        (fun key session h => live_of_erase h) hi.listener
        (fun session hs => hi.candidates session (hcandidates session hs)) (fun session hs => ?_)
      rw [hremoved] at hs
      obtain rfl := Option.some.inj hs
      exact hi.live _ _ hlive

end Inv
end Roster

namespace Lifecycle

theorem roster_inv_of_reachable {config : Config} {l : Lifecycle}
    (h : (machine config).Reachable l) : l.roster.Inv := by
  refine h.invariant (I := fun l => l.roster.Inv) ?_ fun l a l' r hi _ hs => ?_
  · rintro l rfl
    exact Roster.Inv.new config
  · exact hi.move (step_rostered (inv_of_reachable r) hs).move

end Lifecycle
end Rgrok
