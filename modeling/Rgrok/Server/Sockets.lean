/-
# Listener sockets and their stop signals

A listener socket is in the hands of the control task that bound it or of the
listener task of its session, and the slot of its port is used on behalf of
the same session (`SocketInv`).  A stop signal fires only after the session's
socket is gone, and the stop receiver stays in the session until the task that
removed the session takes it (`SignalInv`): so a port is never released while
its socket is bound.
-/

import Rgrok.Server.Records

namespace Rgrok
namespace View

variable {v v' : View} {t : Task} {who : Option ℕ} {d : Duty} {key : ReservationKey}
  {session : TunnelSession} {arc : ℕ} {port : UInt16}

/-! ### Two tasks a move can touch besides its own -/

/-- The listener task of a session that is being set up was not started yet. -/
theorem StartInv.other_listener (hs : v.StartInv) (ha : v.ArcInv)
    (hd : (v.duty t).standing = some (arc, .setup)) :
    v.duty (.listener arc) = .idle ∧ Task.listener arc ≠ t := by
  have hl : v.duty (.listener arc) = .idle := hs.listener_idle (ha.setup hd).2
  refine ⟨hl, ?_⟩
  rintro rfl
  rw [hl] at hd
  cases hd

/-- The next release task is not the task that acts. -/
theorem StartInv.other_release (hs : v.StartInv) (hd : v.duty t ≠ .idle) :
    Task.release v.nextRelease ≠ t := by
  rintro rfl
  exact hd hs.release_idle

/-! ### Sockets -/

/-- Where the bound sockets are. -/
structure SocketInv (v : View) : Prop where
  bound : Custody {x | x ∈ v.sockets} (Duty.socket ∘ v.duty)
  nodup : v.sockets.Nodup
  owner : ∀ t port arc, (v.duty t).socket = some (port, arc) →
    (v.duty t).standing = some (arc, .setup) ∨ arc ∈ v.published
  unique : ∀ t t' port port' arc, (v.duty t).socket = some (port, arc) →
    (v.duty t').socket = some (port', arc) → t = t'
  slot : ∀ t port arc, (v.duty t).socket = some (port, arc) →
    ∃ slot, v.slot (.tcp port) = some slot ∧ slot.arc = arc

/-- Receivers and stop signals. -/
structure SignalInv (v : View) : Prop where
  live : ∀ port session, v.slot (.tcp port) = some (.live session) →
    v.receiver session.arc = true
  ready : ∀ t port arc, (v.duty t).socket = some (port, arc) →
    (v.duty t).standing = some (arc, .setup) → v.receiver arc = true
  receiver : ∀ t arc, (v.duty t).news = some (.receiver arc) →
    v.receiver arc = true ∧ (v.duty t).standing = some (arc, .closing)
  dropped : ∀ t arc, (v.duty t).news = some (.dropped arc) →
    arc ∈ v.published ∧ ∀ t' port, (v.duty t').socket ≠ some (port, arc)
  signalled : ∀ t arc, (v.duty t).news = some (.signalled arc) → v.stopSignal arc = true
  stop : ∀ arc, v.stopSignal arc = true →
    arc ∈ v.published ∧ ∀ t port, (v.duty t).socket ≠ some (port, arc)

theorem socket_update_of_eq {duty : Task → Duty} (h : d.socket = (duty t).socket) :
    Duty.socket ∘ Function.update duty t d = Duty.socket ∘ duty := by
  rw [Function.comp_update, h]
  exact Function.update_eq_self t (Duty.socket ∘ duty)

/-- A task that has a socket after a move that gave none has not moved. -/
theorem duty_of_socket {t' : Task} {x : UInt16 × ℕ} (hduty : v'.duty = Function.update v.duty t d)
    (hd : d.socket = none) (h : (v'.duty t').socket = some x) : v'.duty t' = v.duty t' := by
  rw [hduty] at h ⊢
  refine Function.update_of_ne ?_ _ _
  rintro rfl
  rw [Function.update_self, hd] at h
  cases h

/-- The same for news. -/
theorem duty_of_news {t' : Task} {x : News} (hduty : v'.duty = Function.update v.duty t d)
    (hd : d.news = none) (h : (v'.duty t').news = some x) : v'.duty t' = v.duty t' := by
  rw [hduty] at h ⊢
  refine Function.update_of_ne ?_ _ _
  rintro rfl
  rw [Function.update_self, hd] at h
  cases h

namespace SocketInv

/-- No socket is bound for a session that another task is still setting up. -/
theorem not_bound_of_setup (h : v.SocketInv) (ha : v.ArcInv)
    (hd : (v.duty t).standing = some (arc, .setup)) (hsocket : (v.duty t).socket = none) (t' : Task)
    (port : UInt16) : (v.duty t').socket ≠ some (port, arc) := by
  intro hbound
  rcases h.owner t' port arc hbound with hs | hp
  · obtain rfl := ha.task_unique hd hs
    rw [hsocket] at hbound
    cases hbound
  · exact (ha.setup hd).2 hp

/-- A task moves on and gets no socket. -/
theorem of_bound (h : v.SocketInv) (hduty : v'.duty = Function.update v.duty t d)
    (hnew : d.socket = none) (hbound : Custody {x | x ∈ v'.sockets} (Duty.socket ∘ v'.duty))
    (hnodup : v'.sockets.Nodup) (hp : v.published ⊆ v'.published)
    (hslot : ∀ t port arc, (v.duty t).socket = some (port, arc) →
      ∃ slot, v'.slot (.tcp port) = some slot ∧ slot.arc = arc) : v'.SocketInv where
  bound := hbound
  nodup := hnodup
  owner t' port arc hs := by
    have he := duty_of_socket hduty hnew hs
    rw [he] at hs ⊢
    exact (h.owner t' port arc hs).imp_right fun hmem => hp hmem
  unique t' t'' port port' arc hs hs' := by
    rw [duty_of_socket hduty hnew hs] at hs
    rw [duty_of_socket hduty hnew hs'] at hs'
    exact h.unique t' t'' port port' arc hs hs'
  slot t' port arc hs := by
    rw [duty_of_socket hduty hnew hs] at hs
    exact hslot t' port arc hs

/-- A task without a socket moves on and gets none. -/
theorem keep (h : v.SocketInv) (hduty : v'.duty = Function.update v.duty t d)
    (hold : (v.duty t).socket = none) (hnew : d.socket = none) (hsockets : v'.sockets = v.sockets)
    (hp : v.published ⊆ v'.published)
    (hslot : ∀ t port arc, (v.duty t).socket = some (port, arc) →
      ∃ slot, v'.slot (.tcp port) = some slot ∧ slot.arc = arc) : v'.SocketInv := by
  refine h.of_bound hduty hnew ?_ (by rw [hsockets]; exact h.nodup) hp hslot
  rw [hsockets, hduty, socket_update_of_eq (hnew.trans hold.symm)]
  exact h.bound

/-- A task closes its socket. -/
theorem close (h : v.SocketInv) {x : UInt16 × ℕ} (hduty : v'.duty = Function.update v.duty t d)
    (hold : (v.duty t).socket = some x) (hnew : d.socket = none)
    (hsockets : v'.sockets = v.sockets.erase x) (hp : v.published ⊆ v'.published)
    (hslot : v'.slot = v.slot) : v'.SocketInv := by
  refine h.of_bound hduty hnew ?_ (by rw [hsockets]; exact h.nodup.erase x) hp
    (by rw [hslot]; exact h.slot)
  rw [hsockets, hduty, Function.comp_update, hnew]
  exact h.bound.release hold fun y => h.nodup.mem_erase_iff

/-- A control task binds a socket for the session it sets up. -/
theorem bind (h : v.SocketInv) (ha : v.ArcInv) (hduty : v'.duty = Function.update v.duty t d)
    (hstanding : (v.duty t).standing = some (arc, .setup)) (hsame : d.standing = (v.duty t).standing)
    (hold : (v.duty t).socket = none) (hnew : d.socket = some (port, arc))
    (hsockets : v'.sockets = (port, arc) :: v.sockets) (hp : v'.published = v.published)
    (hslot : v'.slot = v.slot) (hport : ∃ slot, v.slot (.tcp port) = some slot ∧ slot.arc = arc) :
    v'.SocketInv := by
  have hfree := h.not_bound_of_setup ha hstanding hold
  have hnot : (port, arc) ∉ v.sockets := fun hmem =>
    let ⟨t', ht'⟩ := (h.bound.mem_iff _).1 hmem
    hfree t' port ht'
  -- a socket is the new one or one that another task had before
  have old : ∀ {t' x}, (v'.duty t').socket = some x → t' = t ∧ x = (port, arc) ∨
      t' ≠ t ∧ v'.duty t' = v.duty t' := by
    intro t' x hs
    rw [hduty] at hs ⊢
    by_cases he : t' = t
    · subst he
      rw [Function.update_self, hnew] at hs
      exact Or.inl ⟨rfl, (Option.some.inj hs).symm⟩
    · exact Or.inr ⟨he, Function.update_of_ne he _ _⟩
  constructor
  · rw [hsockets, hduty, Function.comp_update, hnew]
    exact h.bound.acquire hnot hold fun y => List.mem_cons
  · rw [hsockets]
    exact List.nodup_cons.2 ⟨hnot, h.nodup⟩
  · intro t' port' arc' hs
    rcases old hs with ⟨rfl, hx⟩ | ⟨-, he⟩
    · cases hx
      rw [hduty, Function.update_self]
      exact Or.inl (hsame.trans hstanding)
    · rw [he] at hs ⊢
      rw [hp]
      exact h.owner t' port' arc' hs
  · intro t' t'' port' port'' arc' hs hs'
    rcases old hs with ⟨rfl, hx⟩ | ⟨-, he⟩ <;> rcases old hs' with ⟨rfl, hx'⟩ | ⟨-, he'⟩
    · rfl
    · cases hx
      rw [he'] at hs'
      exact absurd hs' (hfree t'' port'')
    · cases hx'
      rw [he] at hs
      exact absurd hs (hfree t' port')
    · rw [he] at hs
      rw [he'] at hs'
      exact h.unique t' t'' port' port'' arc' hs hs'
  · intro t' port' arc' hs
    rw [hslot]
    rcases old hs with ⟨rfl, hx⟩ | ⟨-, he⟩
    · cases hx
      exact hport
    · rw [he] at hs
      exact h.slot t' port' arc' hs

end SocketInv

namespace SignalInv

/-- A task moves on without a socket and without news.  It may have taken the
stop receiver of the session it answers for. -/
theorem keep (h : v.SignalInv) (ha : v.ArcInv) (hduty : v'.duty = Function.update v.duty t d)
    (hnew : d.socket = none) (hnews : d.news = none)
    (hr : ∀ arc, v.receiver arc = true → (v.duty t).standing ≠ some (arc, .closing) →
      v'.receiver arc = true)
    (hs : v'.stopSignal = v.stopSignal) (hp : v.published ⊆ v'.published)
    (hlive : ∀ port session, v'.slot (.tcp port) = some (.live session) →
      v.slot (.tcp port) = some (.live session)) : v'.SignalInv where
  live port session hsl := by
    have hsl := hlive port session hsl
    exact hr _ (h.live port session hsl) (ha.not_standing hsl t _)
  ready t' port arc hb hst := by
    have he := duty_of_socket hduty hnew hb
    rw [he] at hb hst
    refine hr _ (h.ready t' port arc hb hst) fun hc => ?_
    obtain rfl := ha.task_unique hst hc
    rw [hst] at hc
    cases hc
  receiver t' arc hn := by
    have he := duty_of_news hduty hnews hn
    have hne : t' ≠ t := by
      rintro rfl
      rw [hduty, Function.update_self, hnews] at hn
      cases hn
    rw [he] at hn ⊢
    obtain ⟨hrec, hst⟩ := h.receiver t' arc hn
    exact ⟨hr _ hrec fun hc => hne (ha.task_unique hst hc), hst⟩
  dropped t' arc hn := by
    rw [duty_of_news hduty hnews hn] at hn
    refine ⟨hp (h.dropped t' arc hn).1, fun t'' port hb => ?_⟩
    rw [duty_of_socket hduty hnew hb] at hb
    exact (h.dropped t' arc hn).2 t'' port hb
  signalled t' arc hn := by
    rw [duty_of_news hduty hnews hn] at hn
    rw [hs]
    exact h.signalled t' arc hn
  stop arc hst := by
    rw [hs] at hst
    refine ⟨hp (h.stop arc hst).1, fun t' port hb => ?_⟩
    rw [duty_of_socket hduty hnew hb] at hb
    exact (h.stop arc hst).2 t' port hb

/-- The cell of a session that is being set up starts over. -/
theorem newSession (h : v.SignalInv) (ha : v.ArcInv) (hsock : v.SocketInv)
    (hstanding : (v.duty t).standing = some (arc, .setup)) (hold : (v.duty t).socket = none)
    (hr : v'.receiver = Function.update v.receiver arc false)
    (hs : v'.stopSignal = Function.update v.stopSignal arc false) (hduty : v'.duty = v.duty)
    (hslot : v'.slot = v.slot) (hp : v'.published = v.published) : v'.SignalInv := by
  have hnew := (ha.setup hstanding).2
  have receiver_eq : ∀ {arc'}, arc' ≠ arc → v'.receiver arc' = v.receiver arc' := fun hne => by
    rw [hr, Function.update_of_ne hne]
  have stop_eq : ∀ {arc'}, arc' ≠ arc → v'.stopSignal arc' = v.stopSignal arc' := fun hne => by
    rw [hs, Function.update_of_ne hne]
  have other : ∀ {arc'}, arc' ∈ v.published → arc' ≠ arc := fun hmem he => hnew (he ▸ hmem)
  constructor
  · intro port session hsl
    rw [hslot] at hsl
    rw [receiver_eq (other (ha.live hsl).1)]
    exact h.live port session hsl
  · intro t' port arc' hb hst
    rw [hduty] at hb hst
    rw [receiver_eq]
    · exact h.ready t' port arc' hb hst
    · rintro rfl
      exact hsock.not_bound_of_setup ha hstanding hold t' port hb
  · intro t' arc' hn
    rw [hduty] at hn ⊢
    obtain ⟨hrec, hst⟩ := h.receiver t' arc' hn
    rw [receiver_eq (other (Passage.Inv.left_subset ha (ha.closing hst)))]
    exact ⟨hrec, hst⟩
  · rw [hduty, hp]
    exact h.dropped
  · intro t' arc' hn
    rw [hduty] at hn
    have hsig := h.signalled t' arc' hn
    rw [stop_eq (other (h.stop arc' hsig).1)]
    exact hsig
  · intro arc' hsig
    have hne : arc' ≠ arc := by
      rintro rfl
      rw [hs, Function.update_self] at hsig
      cases hsig
    rw [hduty, hp]
    exact h.stop arc' (stop_eq hne ▸ hsig)

/-- A socket is bound for a session that is being set up, and its stop receiver
stored. -/
theorem bind (h : v.SignalInv) (ha : v.ArcInv)
    (hduty : v'.duty = Function.update v.duty t d)
    (hstanding : (v.duty t).standing = some (arc, .setup))
    (hnew : d.socket = some (port, arc)) (hnews : d.news = none)
    (hr : v'.receiver = Function.update v.receiver arc true) (hs : v'.stopSignal = v.stopSignal)
    (hp : v'.published = v.published) (hslot : v'.slot = v.slot) : v'.SignalInv := by
  have hunpublished := (ha.setup hstanding).2
  have receiver_true : ∀ {arc'}, v.receiver arc' = true → v'.receiver arc' = true := by
    intro arc' htrue
    rw [hr, Function.update_apply]
    split_ifs
    · rfl
    · exact htrue
  -- a socket for another session is one that was there before
  have old : ∀ {t' port' arc'}, (v'.duty t').socket = some (port', arc') → arc' ≠ arc →
      v'.duty t' = v.duty t' := by
    intro t' port' arc' hb hne
    rw [hduty] at hb ⊢
    refine Function.update_of_ne ?_ _ _
    rintro rfl
    rw [Function.update_self, hnew] at hb
    cases hb
    exact hne rfl
  constructor
  · intro port' session hsl
    rw [hslot] at hsl
    exact receiver_true (h.live port' session hsl)
  · intro t' port' arc' hb hst
    by_cases he : arc' = arc
    · rw [he, hr, Function.update_self]
    · have heq := old hb he
      rw [heq] at hb hst
      exact receiver_true (h.ready t' port' arc' hb hst)
  · intro t' arc' hn
    have he := duty_of_news hduty hnews hn
    rw [he] at hn ⊢
    exact (h.receiver t' arc' hn).imp_left receiver_true
  · intro t' arc' hn
    rw [duty_of_news hduty hnews hn] at hn
    obtain ⟨hpub, hfree⟩ := h.dropped t' arc' hn
    rw [hp]
    refine ⟨hpub, fun t'' port' hb => ?_⟩
    rw [old hb fun he => hunpublished (he ▸ hpub)] at hb
    exact hfree t'' port' hb
  · intro t' arc' hn
    rw [duty_of_news hduty hnews hn] at hn
    rw [hs]
    exact h.signalled t' arc' hn
  · intro arc' hsig
    rw [hs] at hsig
    obtain ⟨hpub, hfree⟩ := h.stop arc' hsig
    rw [hp]
    refine ⟨hpub, fun t' port' hb => ?_⟩
    rw [old hb fun he => hunpublished (he ▸ hpub)] at hb
    exact hfree t' port' hb

/-- A task gets news; what it says must hold. -/
theorem inform (h : v.SignalInv) {news : News} (hduty : v'.duty = Function.update v.duty t d)
    (hnew : d.socket = none) (hnews : d.news = some news) (hr : v'.receiver = v.receiver)
    (hp : v'.published = v.published)
    (hlive : ∀ port session, v'.slot (.tcp port) = some (.live session) →
      v.slot (.tcp port) = some (.live session))
    (hreceiver : ∀ arc, news = .receiver arc →
      v.receiver arc = true ∧ d.standing = some (arc, .closing))
    (hdropped : ∀ arc, news = .dropped arc →
      arc ∈ v.published ∧ ∀ t' port, t' ≠ t → (v.duty t').socket ≠ some (port, arc))
    (hsignalled : ∀ arc, news = .signalled arc → v'.stopSignal arc = true)
    (hs : ∀ arc, v'.stopSignal arc = true → v.stopSignal arc = true ∨
      arc ∈ v.published ∧ ∀ t' port, (v.duty t').socket ≠ some (port, arc))
    (hmono : ∀ arc, v.stopSignal arc = true → v'.stopSignal arc = true) : v'.SignalInv := by
  have cases_news : ∀ {t' n}, (v'.duty t').news = some n →
      t' = t ∧ v'.duty t' = d ∧ n = news ∨ v'.duty t' = v.duty t' := by
    intro t' n hn
    rw [hduty] at hn ⊢
    by_cases he : t' = t
    · subst he
      rw [Function.update_self, hnews] at hn
      exact Or.inl ⟨rfl, Function.update_self .., (Option.some.inj hn).symm⟩
    · exact Or.inr (Function.update_of_ne he _ _)
  have other : ∀ {t' x}, (v'.duty t').socket = some x → t' ≠ t ∧ v'.duty t' = v.duty t' := by
    intro t' x hb
    refine ⟨?_, duty_of_socket hduty hnew hb⟩
    rintro rfl
    rw [hduty, Function.update_self, hnew] at hb
    cases hb
  constructor
  · intro port session hsl
    rw [hr]
    exact h.live port session (hlive port session hsl)
  · intro t' port arc hb hst
    have he := (other hb).2
    rw [he] at hb hst
    rw [hr]
    exact h.ready t' port arc hb hst
  · intro t' arc hn
    rw [hr]
    rcases cases_news hn with ⟨-, he, hnew⟩ | he
    · rw [he]
      exact hreceiver arc hnew.symm
    · rw [he] at hn ⊢
      exact h.receiver t' arc hn
  · intro t' arc hn
    rw [hp]
    rcases cases_news hn with ⟨-, -, hnew⟩ | he
    · refine ⟨(hdropped arc hnew.symm).1, fun t'' port hb => ?_⟩
      obtain ⟨hne, he⟩ := other hb
      rw [he] at hb
      exact (hdropped arc hnew.symm).2 t'' port hne hb
    · rw [he] at hn
      refine ⟨(h.dropped t' arc hn).1, fun t'' port hb => ?_⟩
      rw [(other hb).2] at hb
      exact (h.dropped t' arc hn).2 t'' port hb
  · intro t' arc hn
    rcases cases_news hn with ⟨-, -, hnew⟩ | he
    · exact hsignalled arc hnew.symm
    · rw [he] at hn
      exact hmono arc (h.signalled t' arc hn)
  · intro arc hsig
    rw [hp]
    rcases hs arc hsig with hold | ⟨hpub, hfree⟩
    · refine ⟨(h.stop arc hold).1, fun t' port hb => ?_⟩
      rw [(other hb).2] at hb
      exact (h.stop arc hold).2 t' port hb
    · refine ⟨hpub, fun t' port hb => ?_⟩
      rw [(other hb).2] at hb
      exact hfree t' port hb

end SignalInv

/-- After a TCP tunnel is published, a socket is the one its listener task got
or one that another task had before. -/
theorem socket_publishTcp {t' : Task} {x : UInt16 × ℕ} (hl : Task.listener session.arc ≠ t)
    (h : (Function.update (Function.update v.duty t .idle) (.listener session.arc)
      { Duty.idle with socket := some (port, session.arc) } t').socket = some x) :
    t' = .listener session.arc ∧ x = (port, session.arc) ∨
      t' ≠ t ∧ t' ≠ .listener session.arc ∧ (v.duty t').socket = some x := by
  by_cases he : t' = .listener session.arc
  · subst he
    rw [Function.update_self] at h
    exact Or.inl ⟨rfl, (Option.some.inj h).symm⟩
  · rw [Function.update_of_ne he] at h
    by_cases het : t' = t
    · subst het
      rw [Function.update_self] at h
      cases h
    · rw [Function.update_of_ne het] at h
      exact Or.inr ⟨het, he, h⟩

theorem news_publishTcp {t' : Task} {n : News}
    (h : (Function.update (Function.update v.duty t .idle) (.listener session.arc)
      { Duty.idle with socket := some (port, session.arc) } t').news = some n) :
    Function.update (Function.update v.duty t .idle) (.listener session.arc)
      { Duty.idle with socket := some (port, session.arc) } t' = v.duty t' := by
  by_cases he : t' = .listener session.arc
  · subst he
    rw [Function.update_self] at h
    cases h
  · rw [Function.update_of_ne he] at h ⊢
    by_cases het : t' = t
    · subst het
      rw [Function.update_self] at h
      cases h
    · rw [Function.update_of_ne het]

/-- The socket goes from the control task to the listener task. -/
theorem SocketInv.publishTcp (h : v.SocketInv) (hl : v.duty (.listener session.arc) = .idle)
    (hne : Task.listener session.arc ≠ t) (hsocket : (v.duty t).socket = some (port, session.arc))
    (hduty : v'.duty = Function.update (Function.update v.duty t .idle) (.listener session.arc)
      { Duty.idle with socket := some (port, session.arc) })
    (hslot : v'.slot = Function.update v.slot (.tcp port) (some (.live session)))
    (hp : v'.published = session.arc :: v.published) (hsockets : v'.sockets = v.sockets) :
    v'.SocketInv := by
  have old : ∀ {t' x}, (v'.duty t').socket = some x →
      t' = .listener session.arc ∧ x = (port, session.arc) ∨
        t' ≠ t ∧ t' ≠ .listener session.arc ∧ (v.duty t').socket = some x := fun hs =>
    socket_publishTcp hne (hduty ▸ hs)
  constructor
  · have htr := h.bound.transfer (p := t) (q := .listener session.arc) hsocket
      (by rw [Function.comp_apply, hl]; rfl)
    rw [hsockets, hduty, Function.comp_update, Function.comp_update]
    exact htr
  · rw [hsockets]
    exact h.nodup
  · intro t' port' arc hs
    rw [hp]
    rcases old hs with ⟨rfl, hx⟩ | ⟨hnt, hnl, hs⟩
    · cases hx
      exact Or.inr (List.mem_cons_self ..)
    · rw [hduty, Function.update_of_ne hnl, Function.update_of_ne hnt]
      exact (h.owner t' port' arc hs).imp_right (List.mem_cons_of_mem _)
  · intro t' t'' port' port'' arc hs hs'
    rcases old hs with ⟨rfl, hx⟩ | ⟨hnt, -, hs⟩ <;>
      rcases old hs' with ⟨rfl, hx'⟩ | ⟨hnt', -, hs'⟩
    · rfl
    · cases hx
      exact absurd (h.unique _ _ _ _ _ hs' hsocket) hnt'
    · cases hx'
      exact absurd (h.unique _ _ _ _ _ hs hsocket) hnt
    · exact h.unique t' t'' port' port'' arc hs hs'
  · intro t' port' arc hs
    rw [hslot]
    rcases old hs with ⟨rfl, hx⟩ | ⟨hnt, -, hs⟩
    · cases hx
      exact ⟨_, Function.update_self .., rfl⟩
    · have hport : port' ≠ port := by
        rintro rfl
        obtain ⟨slot, hsl, harc⟩ := h.slot t' _ arc hs
        obtain ⟨slot', hsl', harc'⟩ := h.slot t _ _ hsocket
        obtain rfl : slot = slot' := Option.some.inj (hsl.symm.trans hsl')
        obtain rfl : arc = session.arc := harc.symm.trans harc'
        exact hnt (h.unique _ _ _ _ _ hs hsocket)
      rw [Function.update_of_ne (by simpa using hport)]
      exact h.slot t' port' arc hs

theorem SignalInv.publishTcp (h : v.SignalInv) (hne : Task.listener session.arc ≠ t)
    (hsocket : (v.duty t).socket = some (port, session.arc))
    (hstanding : (v.duty t).standing = some (session.arc, .setup))
    (hduty : v'.duty = Function.update (Function.update v.duty t .idle) (.listener session.arc)
      { Duty.idle with socket := some (port, session.arc) })
    (hslot : v'.slot = Function.update v.slot (.tcp port) (some (.live session)))
    (hp : v'.published = session.arc :: v.published) (hr : v'.receiver = v.receiver)
    (hs : v'.stopSignal = v.stopSignal) : v'.SignalInv := by
  -- a socket of a session is one that some task had before
  have old : ∀ {t' x}, (v'.duty t').socket = some x → ∃ t'', (v.duty t'').socket = some x := by
    intro t' x hb
    rcases socket_publishTcp hne (hduty ▸ hb) with ⟨-, rfl⟩ | ⟨-, -, hb⟩
    · exact ⟨t, hsocket⟩
    · exact ⟨t', hb⟩
  have news : ∀ {t' n}, (v'.duty t').news = some n → v'.duty t' = v.duty t' := by
    intro t' n hn
    rw [hduty] at hn ⊢
    exact news_publishTcp hn
  constructor
  · intro port' session' hsl
    rw [hr]
    rw [hslot] at hsl
    rcases update_eq_some.1 hsl with ⟨-, hsl⟩ | ⟨-, hsl⟩
    · cases hsl
      exact h.ready t port _ hsocket hstanding
    · exact h.live port' session' hsl
  · intro t' port' arc hb hst
    rcases socket_publishTcp hne (hduty ▸ hb) with ⟨rfl, -⟩ | ⟨hnt, hnl, hb⟩
    · rw [hduty, Function.update_self] at hst
      cases hst
    · rw [hduty, Function.update_of_ne hnl, Function.update_of_ne hnt] at hst
      rw [hr]
      exact h.ready t' port' arc hb hst
  · intro t' arc hn
    have he := news hn
    rw [he] at hn ⊢
    rw [hr]
    exact h.receiver t' arc hn
  · intro t' arc hn
    rw [news hn] at hn
    obtain ⟨hpub, hfree⟩ := h.dropped t' arc hn
    rw [hp]
    refine ⟨List.mem_cons_of_mem _ hpub, fun t'' port' hb => ?_⟩
    obtain ⟨t₀, hb⟩ := old hb
    exact hfree t₀ port' hb
  · intro t' arc hn
    rw [news hn] at hn
    rw [hs]
    exact h.signalled t' arc hn
  · intro arc hsig
    rw [hs] at hsig
    obtain ⟨hpub, hfree⟩ := h.stop arc hsig
    rw [hp]
    refine ⟨List.mem_cons_of_mem _ hpub, fun t' port' hb => ?_⟩
    obtain ⟨t₀, hb⟩ := old hb
    exact hfree t₀ port' hb

/-! ### The moves -/

/-- A slot that no socket is bound for can change. -/
theorem SocketInv.slot_update (h : v.SocketInv) {key : ReservationKey} {o : Option Slot}
    (hfree : ∀ port, key = .tcp port → ∀ t arc, (v.duty t).socket ≠ some (port, arc)) :
    ∀ t port arc, (v.duty t).socket = some (port, arc) →
      ∃ slot, Function.update v.slot key o (.tcp port) = some slot ∧ slot.arc = arc := by
  intro t port arc hs
  rw [Function.update_of_ne fun he => hfree port he.symm t arc hs]
  exact h.slot t port arc hs

theorem update_http (slot : ReservationKey → Option Slot) (subdomain : String) (o : Option Slot)
    (port : UInt16) : Function.update slot (.http subdomain) o (.tcp port) = slot (.tcp port) :=
  Function.update_of_ne (by simp) _ _

theorem SocketInv.slot_http (h : v.SocketInv) (subdomain : String) (o : Option Slot) :
    ∀ t port arc, (v.duty t).socket = some (port, arc) →
      ∃ slot, Function.update v.slot (.http subdomain) o (.tcp port) = some slot ∧
        slot.arc = arc := by
  simp only [update_http]
  exact h.slot

/-- A port whose session has no socket has none bound. -/
theorem SocketInv.not_bound_of_slot (h : v.SocketInv) {slot : Slot}
    (hslot : v.slot (.tcp port) = some slot)
    (hfree : ∀ t port, (v.duty t).socket ≠ some (port, slot.arc)) (t : Task) (arc : ℕ) :
    (v.duty t).socket ≠ some (port, arc) := by
  intro hs
  obtain ⟨slot', hslot', rfl⟩ := h.slot t port arc hs
  obtain rfl : slot = slot' := Option.some.inj (hslot.symm.trans hslot')
  exact hfree t port hs

/-- **Every move keeps a bound socket with its session and its port.** -/
theorem SocketInv.move (h : v.SocketInv) (hsig : v.SignalInv) (hs : v.StartInv) (ha : v.ArcInv)
    (hslot : ∀ key r, (v.duty t).hold = some (key, r) → v.slot key = some (.reserved r))
    (m : v.Move t who v') : v'.SocketInv := by
  have same : ∀ {l : List ℕ}, l ⊆ l := fun {l} => List.Subset.refl l
  cases m with
  | stay => exact h
  | pass remaining _ => exact ⟨h.bound, h.nodup, h.owner, h.unique, h.slot⟩
  | start hd _ => exact h.keep rfl (by rw [hd]; rfl) rfl rfl same h.slot
  | reserve key r hd hfree =>
      refine h.keep rfl (by rw [hd]; rfl) rfl rfl same (h.slot_update fun port he t' arc hb => ?_)
      obtain ⟨slot, hsl, -⟩ := h.slot t' port arc hb
      rw [← he, hfree] at hsl
      cases hsl
  | createDns hold id hd _ => exact h.keep rfl (by rw [hd]; rfl) rfl rfl same h.slot
  | newSession _ _ _ => exact ⟨h.bound, h.nodup, h.owner, h.unique, h.slot⟩
  | publish subdomain session remaining hd _ _ _ =>
      exact h.keep rfl (by rw [hd]; rfl) rfl rfl (List.subset_cons_self ..)
        (h.slot_http subdomain (some (.live session)))
  | bind port r rec hd =>
      have hres := hslot _ _ (by rw [hd]; rfl)
      exact h.bind ha rfl (by rw [hd]; rfl) (by rw [hd]; rfl) (by rw [hd]; rfl) rfl rfl rfl rfl
        ⟨_, hres, rfl⟩
  | unbind port r rec hd => exact h.close rfl (by rw [hd]) rfl rfl same rfl
  | publishTcp port session remaining hd _ _ _ =>
      have hstanding : (v.duty t).standing = some (session.arc, .setup) := by rw [hd]; rfl
      obtain ⟨hl, hne⟩ := hs.other_listener ha hstanding
      exact h.publishTcp hl hne (by rw [hd]) rfl rfl rfl rfl
  | releaseSetup hold rec d hd hd' _ =>
      have hres := hslot hold.1 hold.2 (by rw [hd]; rfl)
      refine h.keep rfl (by rw [hd]; rfl) ?_ rfl same (h.slot_update fun port he => ?_)
      · rcases hd' with rfl | ⟨rfl, -⟩ <;> rfl
      · rw [he] at hres
        exact h.not_bound_of_slot hres
          (h.not_bound_of_setup ha (t := t) (by rw [hd]; rfl) (by rw [hd]; rfl))
  | settle charge hd => exact h.keep rfl (by rw [hd]; rfl) rfl rfl same h.slot
  | removeHttp subdomain removed remaining _ hd _ _ _ =>
      exact h.keep rfl (by rw [hd]; rfl) rfl rfl same (h.slot_http subdomain none)
  | removeTcp port removed news remaining hlive hd _ _ _ =>
      refine h.keep rfl ?_ rfl rfl same fun t' port' arc hb => ?_
      · rcases hd with ⟨hd, -⟩ | ⟨hd, -⟩ <;> rw [hd] <;> rfl
      · obtain ⟨slot, hsl, harc⟩ := h.slot t' port' arc hb
        by_cases he : port' = port
        · subst he
          obtain rfl : slot = .live removed := Option.some.inj (hsl.symm.trans hlive)
          exact ⟨_, Function.update_self .., harc⟩
        · exact ⟨slot, (Function.update_of_ne (by simpa using he) _ _).trans hsl, harc⟩
  | take port removed hd => exact h.keep rfl (by rw [hd]; rfl) rfl rfl same h.slot
  | learn port removed hd _ => exact h.keep rfl (by rw [hd]; rfl) rfl rfl same h.slot
  | retain port removed hd =>
      have hne := hs.other_release (t := t) (by rw [hd]; simp [Duty.ofRemoved, Duty.idle])
      have hcharge : SocketInv { v with
          duty := Function.update v.duty t (.ofCharge (removed.charge .closing)) } :=
        h.keep rfl (by rw [hd]; rfl) rfl rfl same h.slot
      refine hcharge.keep rfl ?_ rfl rfl same hcharge.slot
      exact (congrArg Duty.socket (Function.update_of_ne hne _ _)).trans (by rw [hs.release_idle]; rfl)
  | releaseRemoved port removed hd _ =>
      have hres := hslot _ _ (by rw [hd]; rfl)
      have hstop := hsig.signalled t removed.arc (by rw [hd]; rfl)
      refine h.keep rfl (by rw [hd]; rfl) rfl rfl same (h.slot_update fun port' he => ?_)
      cases he
      exact h.not_bound_of_slot hres (hsig.stop _ hstop).2
  | releaseRetained port r hd hstop _ =>
      have hres := hslot _ _ (by rw [hd])
      refine h.keep rfl (by rw [hd]; rfl) rfl rfl same (h.slot_update fun port' he => ?_)
      cases he
      exact h.not_bound_of_slot hres (hsig.stop _ hstop).2
  | uncount hd => exact h.keep rfl (by rw [hd]; rfl) rfl rfl same h.slot
  | stopListening port arc hd => exact h.close rfl (by rw [hd]) rfl rfl same rfl
  | signal arc hd => exact h.keep rfl (by rw [hd]; rfl) rfl rfl same h.slot
  | forget arc hd => exact h.keep rfl (by rw [hd]; rfl) rfl rfl same h.slot

/-- **Every move keeps stop signals truthful.** -/
theorem SignalInv.move (h : v.SignalInv) (hsock : v.SocketInv) (hs : v.StartInv) (ha : v.ArcInv)
    (m : v.Move t who v') : v'.SignalInv := by
  have same : ∀ {l : List ℕ}, l ⊆ l := fun {l} => List.Subset.refl l
  -- a slot that is not live afterwards
  have freed : ∀ {key' : ReservationKey} {o : Option Slot},
      (∀ session, o ≠ some (.live session)) → ∀ port session,
        Function.update v.slot key' o (.tcp port) = some (.live session) →
          v.slot (.tcp port) = some (.live session) := by
    intro key' o ho port session hlive
    rcases update_eq_some.1 hlive with ⟨-, hlive⟩ | ⟨-, hlive⟩
    · exact absurd hlive (ho session)
    · exact hlive
  cases m with
  | stay => exact h
  | pass remaining _ => exact ⟨h.live, h.ready, h.receiver, h.dropped, h.signalled, h.stop⟩
  | start hd _ =>
      exact h.keep ha rfl rfl rfl (fun _ hr _ => hr) rfl same fun _ _ hl => hl
  | reserve key r hd hfree =>
      exact h.keep ha rfl rfl rfl (fun _ hr _ => hr) rfl same (freed (by simp))
  | createDns hold id hd _ =>
      exact h.keep ha rfl rfl rfl (fun _ hr _ => hr) rfl same fun _ _ hl => hl
  | newSession hold rec hd =>
      exact h.newSession ha hsock (t := t) (by rw [hd]; rfl) (by rw [hd]; rfl) rfl rfl rfl rfl rfl
  | publish subdomain session remaining hd _ _ _ =>
      exact h.keep ha rfl rfl rfl (fun _ hr _ => hr) rfl (List.subset_cons_self ..)
        fun port _ hl => (update_http v.slot subdomain (some (.live session)) port).symm.trans hl
  | bind port r rec hd => exact h.bind ha rfl (by rw [hd]; rfl) rfl rfl rfl rfl rfl rfl
  | unbind port r rec hd =>
      exact h.keep ha rfl rfl rfl (fun _ hr _ => hr) rfl same fun _ _ hl => hl
  | publishTcp port session remaining hd _ _ _ =>
      have hstanding : (v.duty t).standing = some (session.arc, .setup) := by rw [hd]; rfl
      exact h.publishTcp (hs.other_listener ha hstanding).2 (by rw [hd]) hstanding rfl rfl rfl rfl rfl
  | releaseSetup hold rec d hd hd' _ =>
      refine h.keep ha rfl ?_ ?_ (fun _ hr _ => hr) rfl same (freed (by simp))
      · rcases hd' with rfl | ⟨rfl, -⟩ <;> rfl
      · rcases hd' with rfl | ⟨rfl, -⟩ <;> rfl
  | settle charge hd =>
      exact h.keep ha rfl rfl rfl (fun _ hr _ => hr) rfl same fun _ _ hl => hl
  | removeHttp subdomain removed remaining _ hd _ _ _ =>
      exact h.keep ha rfl rfl rfl (fun _ hr _ => hr) rfl same
        fun port _ hl => (update_http v.slot subdomain none port).symm.trans hl
  | removeTcp port removed news remaining hlive hd _ _ _ =>
      refine h.inform rfl rfl rfl rfl rfl (freed (by simp)) ?_ ?_ ?_ (fun _ hst => Or.inl hst)
        fun _ hst => hst
      · rintro arc rfl
        rcases hd with ⟨-, hn⟩ | ⟨-, hn⟩
        · cases hn
          exact ⟨h.live port removed hlive, rfl⟩
        · cases hn
      · rintro arc rfl
        rcases hd with ⟨-, hn⟩ | ⟨-, hn⟩ <;> cases hn
      · rintro arc rfl
        rcases hd with ⟨-, hn⟩ | ⟨hd, hn⟩
        · cases hn
        · cases hn
          exact h.signalled t _ (by rw [hd]; rfl)
  | take port removed hd =>
      refine h.keep ha rfl rfl rfl (fun arc hr hne => ?_) rfl same fun _ _ hl => hl
      refine (Function.update_of_ne ?_ _ _).trans hr
      rintro rfl
      exact hne (by rw [hd]; rfl)
  | learn port removed hd hstop =>
      refine h.inform rfl rfl rfl rfl rfl (fun _ _ hl => hl) ?_ ?_ ?_ (fun _ hst => Or.inl hst)
        fun _ hst => hst
      · rintro arc hn
        cases hn
      · rintro arc hn
        cases hn
      · rintro arc hn
        cases hn
        exact hstop
  | retain port removed hd =>
      have hcharge : SignalInv { v with
          duty := Function.update v.duty t (.ofCharge (removed.charge .closing)) } :=
        h.keep ha rfl rfl rfl (fun _ hr _ => hr) rfl same fun _ _ hl => hl
      have hstanding : Duty.standing ∘ Function.update v.duty t (.ofCharge (removed.charge .closing)) =
          Duty.standing ∘ v.duty := standing_update_of_eq (by rw [hd]; rfl)
      have ha' : ArcInv { v with
          duty := Function.update v.duty t (.ofCharge (removed.charge .closing)) } := by
        rw [ArcInv, passage, hstanding]
        exact ha
      exact hcharge.keep ha' rfl rfl rfl (fun _ hr _ => hr) rfl same fun _ _ hl => hl
  | releaseRemoved port removed hd _ =>
      exact h.keep ha rfl rfl rfl (fun _ hr _ => hr) rfl same (freed (by simp))
  | releaseRetained port r hd hstop _ =>
      exact h.keep ha rfl rfl rfl (fun _ hr _ => hr) rfl same (freed (by simp))
  | uncount hd =>
      exact h.keep ha rfl rfl rfl (fun _ hr _ => hr) rfl same fun _ _ hl => hl
  | stopListening port arc hd =>
      refine h.inform rfl rfl rfl rfl rfl (fun _ _ hl => hl) ?_ ?_ ?_ (fun _ hst => Or.inl hst)
        fun _ hst => hst
      · rintro arc' hn
        cases hn
      · rintro arc' hn
        cases hn
        have hsocket : (v.duty t).socket = some (port, arc) := by rw [hd]
        refine ⟨?_, fun t' port' hne hb => hne (hsock.unique _ _ _ _ _ hb hsocket)⟩
        rcases hsock.owner t port arc hsocket with hst | hp
        · rw [hd] at hst
          cases hst
        · exact hp
      · rintro arc' hn
        cases hn
  | signal arc hd =>
      have hdropped := h.dropped t arc (by rw [hd]; rfl)
      refine h.inform rfl rfl rfl rfl rfl (fun _ _ hl => hl) ?_ ?_ ?_ ?_ ?_
      · rintro arc' hn
        cases hn
      · rintro arc' hn
        cases hn
      · rintro arc' hn
        cases hn
        exact Function.update_self ..
      · intro arc' hst
        by_cases he : arc' = arc
        · subst he
          exact Or.inr hdropped
        · exact Or.inl ((Function.update_of_ne he _ _).symm.trans hst)
      · intro arc' hst
        by_cases he : arc' = arc
        · subst he
          exact Function.update_self ..
        · exact (Function.update_of_ne he _ _).trans hst
  | forget arc hd =>
      exact h.keep ha rfl rfl rfl (fun _ hr _ => hr) rfl same fun _ _ hl => hl

/-! ### Together -/

/-- The invariants of the lifecycle. -/
structure Inv (v : View) : Prop where
  start : v.StartInv
  arcs : v.ArcInv
  hold : v.HoldInv
  records : v.RecordInv
  cover : v.CoverInv
  count : v.CountInv
  sockets : v.SocketInv
  signals : v.SignalInv

/-- **Every move keeps the invariants.** -/
theorem Inv.move (h : v.Inv) (m : v.Move t who v') : v'.Inv := by
  have hslot : ∀ key r, (v.duty t).hold = some (key, r) → v.slot key = some (.reserved r) :=
    fun _ _ hd => h.hold.slot_eq hd
  exact
    { start := h.start.move m
      arcs := h.arcs.step (m.passage_step h.arcs h.start hslot)
      hold := h.hold.move h.start h.arcs m
      records := h.records.move h.start h.arcs hslot m
      cover := h.cover.move m
      count := h.count.move h.start h.arcs m
      sockets := h.sockets.move h.signals h.start h.arcs hslot m
      signals := h.signals.move h.sockets h.start h.arcs m }

end View
end Rgrok
