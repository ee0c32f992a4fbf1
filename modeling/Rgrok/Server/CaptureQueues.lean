/-
# The capture queues under any interleaving

`store_capture` in `crates/rgrok-server/src/tunnel_manager.rs`, the end of
`proxy_request_to_tunnel` in `proxy.rs` and `clear_requests` in `web_ui.rs`, with
the operations of the tunnel store between them.

Every access to a queue holds its lock, so that a run is any sequence of pushes,
completions and clearings; `clear_requests` goes from queue to queue, and others
come in between.  `log` records for each queue the requests whose captures were
pushed since it was made or cleared, and no step reads it.  A queue is the end of
its log (`CaptureSystem.Exact`) in every run, for every size of the buffer but
zero (`capture_queues_exact_iff`).
-/

import Rgrok.Lib.Ring
import Rgrok.Server.Inspection
import Rgrok.Server.StoreInvariant

namespace Rgrok

/-! ### The queues and the tunnel store -/

namespace ServerState

/-- What an operation of the store does to the queues. -/
inductive QueueStep (s : ServerState) : ServerState → Prop
  | keep (s' : ServerState) (h : s'.captures = s.captures) : QueueStep s s'
  | create (s' : ServerState) (subdomain : String) (hnone : s.captures.lookup subdomain = none)
      (h : s'.captures = s.captures.insert subdomain []) : QueueStep s s'
  | remove (s' : ServerState) (subdomain : String)
      (h : s'.captures = s.captures.erase subdomain) : QueueStep s s'

theorem queueStep_releaseReservation (s : ServerState) (key : ReservationKey) (owner : String) :
    s.QueueStep (s.releaseReservation key owner) := by
  rcases s.releaseReservation_cases key owner with ⟨r, -, -, he⟩ | he <;> rw [he] <;>
    exact .keep _ rfl

theorem queueStep_apply {s : ServerState} (h : s.Valid) (op : StoreOp) :
    s.QueueStep (op.apply s) := by
  have hrefl : s.QueueStep s := .keep s rfl
  have hunregister : ∀ {subdomain : String} {session : TunnelSession},
      s.QueueStep (((s.unregisterTunnelIfOwner subdomain session).map Prod.snd).getD s) := by
    intro subdomain session
    refine getD_map_snd_invariant (I := s.QueueStep) hrefl fun _ s' hop => ?_
    obtain ⟨-, -, rfl⟩ := unregisterTunnelIfOwner_eq_some hop
    exact .remove _ subdomain rfl
  have hremove : ∀ {port : UInt16} {session : TunnelSession},
      s.QueueStep (((s.removeTcpTunnelIfOwner port session).map Prod.snd).getD s) := by
    intro port session
    refine getD_map_snd_invariant (I := s.QueueStep) hrefl fun _ s' hop => ?_
    obtain ⟨-, -, rfl⟩ := removeTcpTunnelIfOwner_eq_some hop
    exact .keep _ rfl
  cases op with
  | reserveHttpTunnel subdomain owner arc =>
      refine getD_toOption_invariant (I := s.QueueStep) hrefl fun s' hop => ?_
      obtain ⟨-, -, -, rfl⟩ := reserveHttpTunnel_eq_ok hop
      exact .keep _ rfl
  | releaseHttpTunnel subdomain owner => exact queueStep_releaseReservation _ _ _
  | registerTunnel session =>
      refine getD_toOption_invariant (I := s.QueueStep) hrefl fun s' hop => ?_
      obtain ⟨hfree, _, -, rfl⟩ := registerTunnel_eq_ok hop
      have hnone := h.captures session.subdomain
      rw [hfree] at hnone
      exact .create _ session.subdomain
        (Option.not_isSome_iff_eq_none.1 (by rw [hnone]; decide)) rfl
  | unregisterTunnelIfOwner subdomain session => exact hunregister
  | reserveTcpPort requested owner arc =>
      refine getD_map_snd_invariant (I := s.QueueStep) hrefl fun port s' hop => ?_
      cases hr : s.reserveTcpPort requested owner arc with
      | error e => rw [hr] at hop; cases hop
      | ok r =>
          rw [hr] at hop
          obtain rfl := Option.some.inj hop
          obtain ⟨-, -, -, -, rfl⟩ := reserveTcpPort_eq_ok hr
          exact .keep _ rfl
  | releaseTcpPortReservation port owner => exact queueStep_releaseReservation _ _ _
  | tryRegisterTcpTunnel port session =>
      refine getD_toOption_invariant (I := s.QueueStep) hrefl fun s' hop => ?_
      obtain ⟨-, -, _, -, rfl⟩ := tryRegisterTcpTunnel_eq_ok hop
      exact .keep _ rfl
  | removeTcpTunnelIfOwner port session => exact hremove
  | reapIdleTunnel candidate session =>
      cases candidate with
      | http subdomain => exact hunregister
      | tcp port => exact hremove

/-- The queue of a tunnel is changed, and those of the others left alone. -/
theorem Valid.insert_capture {s : ServerState} (h : s.Valid) {subdomain : String}
    (hsome : (s.captures.lookup subdomain).isSome = true) (queue : List CapturedRequest) :
    { s with captures := s.captures.insert subdomain queue }.Valid where
  capacity := h.capacity
  http_disjoint := h.http_disjoint
  tcp_disjoint := h.tcp_disjoint
  gauge := h.gauge
  captures name := by
    rw [AList.lookup_insert_ite]
    split
    · rename_i hname
      rw [hname, ← h.captures, hsome]
      rfl
    · exact h.captures name
  tunnel_range := h.tunnel_range
  reserved_range := h.reserved_range

end ServerState

/-! ### Captures and responses -/

/-- The response is not there yet. -/
def CapturedRequest.Unanswered (capture : CapturedRequest) : Prop :=
  capture.durationMs = none ∧ capture.respStatus = none ∧ capture.respHeaders = none ∧
    capture.respBody = none ∧ capture.respBodyTruncated = false

instance (capture : CapturedRequest) : Decidable capture.Unanswered :=
  inferInstanceAs (Decidable (_ ∧ _))

/-- The response fields are those of this response. -/
def CapturedRequest.Answers (capture : CapturedRequest) (completion : Completion) : Prop :=
  capture.durationMs = some completion.durationMs ∧
    capture.respStatus = some completion.respStatus ∧
    capture.respHeaders = some completion.respHeaders ∧
    capture.respBody = completion.respBody ∧
    capture.respBodyTruncated = completion.respBodyTruncated

theorem CapturedRequest.Unanswered.sanitize {capture : CapturedRequest} (h : capture.Unanswered) :
    capture.sanitize.Unanswered := by
  obtain ⟨hduration, hstatus, hheaders, hbody, htruncated⟩ := h
  exact ⟨hduration, hstatus, by rw [CapturedRequest.sanitize, hheaders, Option.map_none], hbody,
    htruncated⟩

theorem captureOf_unanswered {Uri : Type} (uris : UriCrate Uri) (id : String) (capturedAt : ℕ)
    (tunnelId : String) (isReplay : Bool) (request : PreparedRequest Uri) :
    (captureOf uris id capturedAt tunnelId isReplay request).Unanswered :=
  ⟨rfl, rfl, rfl, rfl, rfl⟩

/-- One request stores its capture at most, and completes it. -/
theorem proxyRequestToTunnel_state {Uri : Type} (uris : UriCrate Uri) (s : ServerState)
    (subdomain : String) (tunnel : TunnelSession) (captureId : Option String)
    (request : PreparedRequest Uri) (x : Exchange) :
    (proxyRequestToTunnel uris s subdomain tunnel captureId request x).state = s ∨
      ∃ capture : CapturedRequest, capture.Unanswered ∧
        ((proxyRequestToTunnel uris s subdomain tunnel captureId request x).state =
            (s.storeCapture subdomain capture).1 ∨
          ∃ completion,
            (proxyRequestToTunnel uris s subdomain tunnel captureId request x).state =
              (s.storeCapture subdomain capture).1.completeCapture subdomain capture.id
                completion) := by
  rw [proxyRequestToTunnel]
  cases x.streamOpened with
  | false => exact Or.inl rfl
  | true =>
      cases tunnel.options.inspect || captureId.isSome with
      | false =>
          refine Or.inl ?_
          simp only [Bool.not_true, Bool.false_eq_true, if_false, captureRequest, captureResponse]
          repeat' split <;> try rfl
      | true =>
          simp only [Bool.not_true, Bool.false_eq_true, if_false, if_true, captureRequest,
            captureResponse]
          refine Or.inr ⟨_, captureOf_unanswered uris (captureId.getD x.newId) x.capturedAt tunnel.id
            captureId.isSome request, ?_⟩
          cases x.headWritten with
          | false => exact Or.inl rfl
          | true =>
              cases !request.body.isEmpty && !x.bodyWritten with
              | true => exact Or.inl rfl
              | false =>
                  simp only [Bool.not_true, Bool.false_eq_true, if_false]
                  split
                  · exact Or.inl rfl
                  · exact Or.inl rfl
                  · exact Or.inr ⟨_, rfl⟩

theorem completeNewest_of_not_mem {id : String} {completion : Completion}
    {queue : List CapturedRequest} (h : id ∉ queue.map CapturedRequest.id) :
    queue.map (fun capture => if capture.id = id then capture.complete completion else capture) =
      queue := by
  induction queue with
  | nil => rfl
  | cons capture queue ih =>
      rw [List.map_cons, List.mem_cons, not_or] at h
      rw [List.map_cons, if_neg (Ne.symm h.1), ih h.2]

/-- **A completion changes the one capture with its id.** -/
theorem completeNewest_eq_map {id : String} {completion : Completion}
    {queue : List CapturedRequest} (hnodup : (queue.map CapturedRequest.id).Nodup) :
    completeNewest id completion queue =
      queue.map fun capture => if capture.id = id then capture.complete completion else capture := by
  induction queue with
  | nil => rfl
  | cons capture queue ih =>
      rw [List.map_cons, List.nodup_cons] at hnodup
      obtain ⟨hhead, htail⟩ := hnodup
      have hany : (queue.any fun capture => capture.id == id) = true ↔
          id ∈ queue.map CapturedRequest.id := by
        simp only [List.any_eq_true, List.mem_map, beq_iff_eq]
      rw [completeNewest, List.map_cons]
      by_cases hid : id ∈ queue.map CapturedRequest.id
      · have hne : capture.id ≠ id := by
          rintro rfl
          exact hhead hid
        rw [if_pos (hany.2 hid), ih htail, if_neg hne]
      · rw [if_neg fun h => hid (hany.1 h), completeNewest_of_not_mem hid]
        by_cases heq : capture.id = id
        · rw [if_pos (beq_iff_eq.2 heq), if_pos heq]
        · rw [if_neg fun h => heq (beq_iff_eq.1 h), if_neg heq]

/-- A completion adds and removes nothing, and changes no capture of another id. -/
theorem completeNewest_forall₂ (id : String) (completion : Completion)
    (queue : List CapturedRequest) :
    List.Forall₂ (fun capture capture' => capture'.id = capture.id ∧
      (capture.id ≠ id → capture' = capture)) queue (completeNewest id completion queue) := by
  have hrefl : ∀ queue : List CapturedRequest,
      List.Forall₂ (fun capture capture' => capture'.id = capture.id ∧
        (capture.id ≠ id → capture' = capture)) queue queue :=
    fun queue => List.forall₂_same.2 fun capture _ => ⟨rfl, fun _ => rfl⟩
  induction queue with
  | nil => exact .nil
  | cons capture queue ih =>
      rw [completeNewest]
      split
      · exact .cons ⟨rfl, fun _ => rfl⟩ ih
      · split
        · rename_i heq
          exact .cons ⟨rfl, fun hne => absurd (beq_iff_eq.1 heq) hne⟩ (hrefl queue)
        · exact hrefl _

/-! ### The machine -/

/-- The store, the requests with their captures, and what was pushed. -/
structure CaptureSystem where
  state : ServerState
  ids : List String
  request : ℕ → Option (String × String)
  response : ℕ → Option Completion
  log : String → List (ℕ × CapturedRequest)

namespace CaptureSystem

/-- An operation of the tunnel store, the push of the capture of the request `r`
and its completion, or the clearing of one queue. -/
inductive Action
  | store (op : StoreOp)
  | capture (r : ℕ) (subdomain : String) (capture : CapturedRequest)
  | complete (r : ℕ) (completion : Completion)
  | clear (subdomain : String)

/-- The server at its start. -/
def new (config : Config) : CaptureSystem where
  state := .new config
  ids := []
  request := fun _ => none
  response := fun _ => none
  log := fun _ => []

/-- An operation of the tunnel store; a queue that is gone has no log. -/
def apply (s : CaptureSystem) (op : StoreOp) : CaptureSystem :=
  { s with
    state := op.apply s.state
    log := fun subdomain =>
      if ((op.apply s.state).captures.lookup subdomain).isSome then s.log subdomain else [] }

/-- The request `r` calls `store_capture`, with an id of its own. -/
def capture (s : CaptureSystem) (r : ℕ) (subdomain : String) (capture : CapturedRequest) :
    Option CaptureSystem :=
  if s.request r = none ∧ capture.id ∉ s.ids ∧ capture.Unanswered then
    some { s with
      state := (s.state.storeCapture subdomain capture).1
      ids := capture.id :: s.ids
      request := Function.update s.request r (some (subdomain, capture.id))
      log :=
        if (s.state.captures.lookup subdomain).isSome then
          Function.update s.log subdomain (s.log subdomain ++ [(r, capture.sanitize)])
        else s.log }
  else none

/-- The response of the request `r` is there. -/
def complete (s : CaptureSystem) (r : ℕ) (completion : Completion) : Option CaptureSystem :=
  match s.request r, s.response r with
  | some (subdomain, id), none =>
      some { s with
        state := s.state.completeCapture subdomain id completion
        response := Function.update s.response r (some completion) }
  | _, _ => none

/-- `clear_requests` comes to the queue of `subdomain`. -/
def clear (s : CaptureSystem) (subdomain : String) : Option CaptureSystem :=
  match s.state.captures.lookup subdomain with
  | some _ =>
      some { s with
        state := { s.state with captures := s.state.captures.insert subdomain [] }
        log := Function.update s.log subdomain [] }
  | none => none

def step (s : CaptureSystem) : Action → Option CaptureSystem
  | .store op => some (s.apply op)
  | .capture r subdomain capture => s.capture r subdomain capture
  | .complete r completion => s.complete r completion
  | .clear subdomain => s.clear subdomain

/-- All interleavings, on a server with this configuration. -/
def machine (config : Config) : Machine CaptureSystem Action where
  init s := s = new config
  step := step

/-- What has become of the capture of a request that was pushed. -/
def current (s : CaptureSystem) (entry : ℕ × CapturedRequest) : CapturedRequest :=
  match s.response entry.1 with
  | some completion => entry.2.complete completion
  | none => entry.2

/-- **A ring buffer for each tunnel**: the captures pushed last, as many as there
is room for and in their order, each with the response of its own request if
that is there. -/
structure Exact (s : CaptureSystem) : Prop where
  length : ∀ subdomain queue, s.state.captures.lookup subdomain = some queue →
    queue.length ≤ s.state.config.inspect.bufferSize
  contents : ∀ subdomain queue, s.state.captures.lookup subdomain = some queue →
    queue = ((s.log subdomain).rtake s.state.config.inspect.bufferSize).map s.current
  responses : ∀ subdomain queue, s.state.captures.lookup subdomain = some queue →
    ∀ capture ∈ queue, ∃ r, s.request r = some (subdomain, capture.id) ∧
      match s.response r with
      | some completion => capture.Answers completion
      | none => capture.Unanswered

/-- What a completion may change: the capture of its own request, where it is. -/
def Spares (s s' : CaptureSystem) (r : ℕ) : Prop :=
  ∀ subdomain,
    match s.state.captures.lookup subdomain, s'.state.captures.lookup subdomain with
    | none, none => True
    | some queue, some queue' =>
        List.Forall₂ (fun capture capture' => capture'.id = capture.id ∧
          (s.request r ≠ some (subdomain, capture.id) → capture' = capture)) queue queue'
    | _, _ => False

/-- The queues are ring buffers in every run, and no completion touches the capture
of another request or brings one back. -/
def RingBuffers (config : Config) : Prop :=
  (∀ s, (machine config).Reachable s → s.Exact) ∧
    ∀ s r completion s', (machine config).Reachable s → s.complete r completion = some s' →
      s.Spares s' r

/-! ### The invariant -/

variable {config : Config} {s s' : CaptureSystem} {r : ℕ} {subdomain : String}
  {queue : List CapturedRequest}

/-- What the requests have and what the logs say of them. -/
structure Records (s : CaptureSystem) : Prop where
  logged : ∀ subdomain, ∀ entry ∈ s.log subdomain,
    s.request entry.1 = some (subdomain, entry.2.id) ∧ entry.2.Unanswered
  nodup : ∀ subdomain, ((s.log subdomain).map Prod.fst).Nodup
  ids : ∀ r subdomain id, s.request r = some (subdomain, id) → id ∈ s.ids
  distinct : ∀ r r' subdomain subdomain' id, s.request r = some (subdomain, id) →
    s.request r' = some (subdomain', id) → r = r'
  answered : ∀ r, s.response r ≠ none → s.request r ≠ none

/-- What holds between the steps. -/
structure Inv (config : Config) (s : CaptureSystem) : Prop extends Records s where
  valid : s.state.Valid
  config_eq : s.state.config = config
  queue : ∀ subdomain queue, s.state.captures.lookup subdomain = some queue →
    queue = ((s.log subdomain).rtake config.inspect.bufferSize).map s.current
  gone : ∀ subdomain, s.state.captures.lookup subdomain = none → s.log subdomain = []

/-- What a push is. -/
theorem capture_eq_some {captured : CapturedRequest}
    (h : s.capture r subdomain captured = some s') :
    s.request r = none ∧ captured.id ∉ s.ids ∧ captured.Unanswered ∧
      (s.state.captures.lookup subdomain = none ∧
        s' = { s with
          ids := captured.id :: s.ids
          request := Function.update s.request r (some (subdomain, captured.id)) } ∨
      ∃ queue, s.state.captures.lookup subdomain = some queue ∧
        s' = { s with
          state := { s.state with
            captures := s.state.captures.insert subdomain
              (Ring.push s.state.config.inspect.bufferSize queue captured.sanitize) }
          ids := captured.id :: s.ids
          request := Function.update s.request r (some (subdomain, captured.id))
          log := Function.update s.log subdomain
            (s.log subdomain ++ [(r, captured.sanitize)]) }) := by
  unfold CaptureSystem.capture at h
  rw [Option.ite_none_right_eq_some] at h
  obtain ⟨⟨hfree, hid, hunanswered⟩, h⟩ := h
  refine ⟨hfree, hid, hunanswered, ?_⟩
  rw [← Option.some.inj h]
  cases hlookup : s.state.captures.lookup subdomain with
  | none =>
      refine Or.inl ⟨rfl, ?_⟩
      rw [ServerState.storeCapture, hlookup]
      rfl
  | some queue =>
      refine Or.inr ⟨queue, rfl, ?_⟩
      rw [ServerState.storeCapture, hlookup]
      rfl

/-- What a completion is. -/
theorem complete_eq_some {completion : Completion} (h : s.complete r completion = some s') :
    ∃ subdomain id, s.request r = some (subdomain, id) ∧ s.response r = none ∧
      s' = { s with
        state := s.state.completeCapture subdomain id completion
        response := Function.update s.response r (some completion) } := by
  unfold CaptureSystem.complete at h
  split at h
  · rename_i subdomain id hrequest hresponse
    exact ⟨subdomain, id, hrequest, hresponse, (Option.some.inj h).symm⟩
  · cases h

theorem clear_eq_some (h : s.clear subdomain = some s') :
    (s.state.captures.lookup subdomain).isSome = true ∧
      s' = { s with
        state := { s.state with captures := s.state.captures.insert subdomain [] }
        log := Function.update s.log subdomain [] } := by
  unfold CaptureSystem.clear at h
  split at h
  · rename_i hlookup
    exact ⟨by rw [hlookup]; rfl, (Option.some.inj h).symm⟩
  · cases h

theorem id_current (s : CaptureSystem) (entry : ℕ × CapturedRequest) :
    (s.current entry).id = entry.2.id := by
  rw [current]
  split <;> rfl

/-! ### The records -/

/-- Two captures in a log are of two ids. -/
theorem Records.nodup_ids (hr : s.Records) (subdomain : String) :
    ((s.log subdomain).map fun entry => entry.2.id).Nodup := by
  have hfst := hr.nodup subdomain
  rw [List.nodup_map_iff_inj_on hfst.of_map] at hfst
  refine List.Nodup.map_on (fun x hx y hy heq => ?_) (hr.nodup subdomain).of_map
  have hx' := (hr.logged subdomain x hx).1
  have hy' := (hr.logged subdomain y hy).1
  rw [heq] at hx'
  exact hfst x hx y hy (hr.distinct _ _ _ _ _ hx' hy')

/-- Logs may lose their entries. -/
theorem Records.sublist (hr : s.Records) (state : ServerState)
    {log : String → List (ℕ × CapturedRequest)}
    (hlog : ∀ subdomain, (log subdomain).Sublist (s.log subdomain)) :
    { s with state := state, log := log }.Records where
  logged subdomain _ hentry := hr.logged subdomain _ ((hlog subdomain).subset hentry)
  nodup subdomain := (hr.nodup subdomain).sublist ((hlog subdomain).map Prod.fst)
  ids := hr.ids
  distinct := hr.distinct
  answered := hr.answered

/-- A request that is new gets its capture. -/
theorem Records.request (hr : s.Records) (hfree : s.request r = none) {id : String}
    (hid : id ∉ s.ids) (state : ServerState) :
    { s with
      state := state
      ids := id :: s.ids
      request := Function.update s.request r (some (subdomain, id)) }.Records := by
  -- the requests before keep what they have
  have hkept : ∀ {r' : ℕ} {parts : String × String}, s.request r' = some parts →
      Function.update s.request r (some (subdomain, id)) r' = some parts := by
    intro r' parts hr'
    have hne : r' ≠ r := by
      rintro rfl
      rw [hfree] at hr'
      cases hr'
    rw [Function.update_of_ne hne, hr']
  have hids : ∀ r' subdomain' id',
      Function.update s.request r (some (subdomain, id)) r' = some (subdomain', id') →
        r' = r ∧ id' = id ∨ s.request r' = some (subdomain', id') := by
    intro r' subdomain' id' hr'
    by_cases heq : r' = r
    · subst heq
      rw [Function.update_self] at hr'
      exact Or.inl ⟨rfl, (Prod.mk.inj (Option.some.inj hr')).2.symm⟩
    · rw [Function.update_of_ne heq] at hr'
      exact Or.inr hr'
  constructor
  · intro subdomain' entry hentry
    exact ⟨hkept (hr.logged _ _ hentry).1, (hr.logged _ _ hentry).2⟩
  · exact hr.nodup
  · intro r' subdomain' id' hr'
    rcases hids r' subdomain' id' hr' with ⟨-, rfl⟩ | hold
    · exact List.mem_cons_self
    · exact List.mem_cons_of_mem _ (hr.ids r' subdomain' id' hold)
  · intro r₁ r₂ subdomain₁ subdomain₂ id' h₁ h₂
    rcases hids _ _ _ h₁ with ⟨rfl, rfl⟩ | hold₁ <;>
      rcases hids _ _ _ h₂ with ⟨rfl, heq⟩ | hold₂
    · rfl
    · exact absurd (hr.ids _ _ _ hold₂) hid
    · exact absurd (heq ▸ hr.ids _ _ _ hold₁) hid
    · exact hr.distinct _ _ _ _ _ hold₁ hold₂
  · intro r' hr'
    obtain ⟨parts, hparts⟩ := Option.ne_none_iff_exists'.1 (hr.answered r' hr')
    exact Option.ne_none_iff_exists'.2 ⟨parts, hkept hparts⟩

/-- The capture is logged. -/
theorem Records.push (hr : s.Records) {captured : CapturedRequest}
    (hrequest : s.request r = some (subdomain, captured.id)) (hunanswered : captured.Unanswered)
    (hnew : ∀ entry ∈ s.log subdomain, entry.1 ≠ r) :
    { s with
      log := Function.update s.log subdomain (s.log subdomain ++ [(r, captured)]) }.Records where
  logged subdomain' entry hentry := by
    dsimp only at hentry ⊢
    by_cases heq : subdomain' = subdomain
    · rw [heq, Function.update_self, List.mem_append, List.mem_singleton] at hentry
      rw [heq]
      rcases hentry with hentry | rfl
      · exact hr.logged _ _ hentry
      · exact ⟨hrequest, hunanswered⟩
    · rw [Function.update_of_ne heq] at hentry
      exact hr.logged _ _ hentry
  nodup subdomain' := by
    dsimp only
    by_cases heq : subdomain' = subdomain
    · rw [heq, Function.update_self, List.map_append, List.nodup_append]
      refine ⟨hr.nodup subdomain, List.nodup_singleton r, ?_⟩
      rintro _ hmem _ hmem' rfl
      obtain ⟨entry, hentry, rfl⟩ := List.mem_map.1 hmem
      exact hnew entry hentry (List.mem_singleton.1 hmem')
    · rw [Function.update_of_ne heq]
      exact hr.nodup subdomain'
  ids := hr.ids
  distinct := hr.distinct
  answered := hr.answered

theorem Records.response (hr : s.Records) (hrequest : s.request r ≠ none) (state : ServerState)
    (completion : Completion) :
    { s with
      state := state
      response := Function.update s.response r (some completion) }.Records where
  logged := hr.logged
  nodup := hr.nodup
  ids := hr.ids
  distinct := hr.distinct
  answered r' hr' := by
    by_cases heq : r' = r
    · exact heq ▸ hrequest
    · dsimp only at hr'
      rw [Function.update_of_ne heq] at hr'
      exact hr.answered r' hr'

/-! ### The steps -/

/-- Without room for a tunnel there is no queue. -/
theorem Inv.no_queue (hi : s.Inv config) (h : config.server.maxTunnels = 0) (subdomain : String) :
    s.state.captures.lookup subdomain = none := by
  have hcapacity := hi.valid.capacity
  rw [hi.config_eq, h] at hcapacity
  have hnone : s.state.tunnels.lookup subdomain = none := by
    cases hlookup : s.state.tunnels.lookup subdomain with
    | none => rfl
    | some session =>
        have hsize := AList.size_erase_of_lookup_eq_some hlookup
        rw [ServerState.occupied] at hcapacity
        omega
  have hcaptures := hi.valid.captures subdomain
  rw [hnone] at hcaptures
  exact Option.not_isSome_iff_eq_none.1 (by rw [hcaptures]; decide)

theorem Inv.new (config : Config) : (new config).Inv config where
  logged _ _ h := absurd h List.not_mem_nil
  nodup _ := List.nodup_nil
  ids _ _ _ h := by cases h
  distinct _ _ _ _ _ h := by cases h
  answered _ h := absurd rfl h
  valid := .new config
  config_eq := rfl
  queue subdomain queue h := by
    rw [CaptureSystem.new, ServerState.new, AList.lookup_empty] at h
    cases h
  gone _ _ := rfl

/-- An operation of the store makes an empty queue, takes one away, or neither. -/
theorem Inv.apply (hi : s.Inv config) (op : StoreOp) : (s.apply op).Inv config := by
  have hstep := ServerState.queueStep_apply hi.valid op
  have hconfig : (op.apply s.state).config = config :=
    (s.state.config_apply op).trans hi.config_eq
  have hvalid := hi.valid.apply op
  unfold CaptureSystem.apply
  generalize op.apply s.state = state at hstep hconfig hvalid ⊢
  refine ⟨hi.toRecords.sublist state fun subdomain => ?_, hvalid, hconfig, ?_, ?_⟩
  · split
    · exact List.Sublist.refl _
    · exact List.nil_sublist _
  · intro subdomain queue hqueue
    have hkept : (if (state.captures.lookup subdomain).isSome then s.log subdomain else []) =
        s.log subdomain := if_pos (by rw [hqueue]; rfl)
    refine Eq.trans ?_ (congrArg (fun log => (List.rtake log _).map s.current) hkept).symm
    cases hstep with
    | keep h =>
        rw [h] at hqueue
        exact hi.queue subdomain queue hqueue
    | create created hnone h =>
        rw [h, AList.lookup_insert_ite] at hqueue
        split at hqueue
        · rename_i heq
          obtain rfl := Option.some.inj hqueue
          rw [heq, hi.gone created hnone, List.rtake_nil]
          rfl
        · exact hi.queue subdomain queue hqueue
    | remove removed h =>
        rw [h, AList.lookup_erase_ite] at hqueue
        split at hqueue
        · cases hqueue
        · exact hi.queue subdomain queue hqueue
  · intro subdomain hnone
    exact if_neg (by rw [hnone]; decide)

/-- A push. -/
theorem Inv.capture (hi : s.Inv config)
    (hsize : 0 < config.inspect.bufferSize ∨ config.server.maxTunnels = 0)
    {captured : CapturedRequest} (h : s.capture r subdomain captured = some s') :
    s'.Inv config := by
  obtain ⟨hfree, hid, hunanswered, hstep⟩ := capture_eq_some h
  rcases hstep with ⟨-, rfl⟩ | ⟨queue, hlookup, rfl⟩
  · exact ⟨hi.toRecords.request hfree hid s.state, hi.valid, hi.config_eq, hi.queue, hi.gone⟩
  · have hpositive : 0 < config.inspect.bufferSize := by
      refine hsize.resolve_right fun hzero => ?_
      rw [hi.no_queue hzero subdomain] at hlookup
      cases hlookup
    have hnew : ∀ entry ∈ s.log subdomain, entry.1 ≠ r := by
      rintro entry hentry rfl
      rw [(hi.logged _ _ hentry).1] at hfree
      cases hfree
    have hresponse : s.response r = none := by
      by_contra hne
      exact hi.answered r hne hfree
    have hcurrent : s.current (r, captured.sanitize) = captured.sanitize := by
      rw [current, hresponse]
    rw [hi.config_eq]
    refine ⟨?_, hi.valid.insert_capture (by rw [hlookup]; rfl) _, hi.config_eq, ?_, ?_⟩
    · exact (hi.toRecords.request hfree hid _).push (Function.update_self ..)
        hunanswered.sanitize hnew
    · intro subdomain' queue' hqueue'
      dsimp only at hqueue' ⊢
      rw [AList.lookup_insert_ite] at hqueue'
      split at hqueue'
      · rename_i heq
        rw [← Option.some.inj hqueue', heq, Function.update_self, Ring.map_rtake]
        have hmap : ((s.log subdomain ++ [(r, captured.sanitize)]).map s.current) =
            (s.log subdomain).map s.current ++ [captured.sanitize] := by
          rw [List.map_append, List.map_singleton, hcurrent]
        refine Eq.trans ?_ (congrArg (List.rtake · _) hmap).symm
        rw [← Ring.push_rtake hpositive, ← Ring.map_rtake, ← hi.queue subdomain queue hlookup]
      · rename_i hne
        rw [Function.update_of_ne hne]
        exact hi.queue subdomain' queue' hqueue'
    · intro subdomain' hnone
      dsimp only at hnone ⊢
      rw [AList.lookup_insert_ite] at hnone
      split at hnone
      · cases hnone
      · rename_i hne
        rw [Function.update_of_ne hne]
        exact hi.gone subdomain' hnone

/-- One queue is cleared. -/
theorem Inv.clear (hi : s.Inv config) (h : s.clear subdomain = some s') : s'.Inv config := by
  obtain ⟨hsome, rfl⟩ := clear_eq_some h
  refine ⟨hi.toRecords.sublist _ fun subdomain' => ?_, hi.valid.insert_capture hsome _,
    hi.config_eq, ?_, ?_⟩
  · by_cases heq : subdomain' = subdomain
    · rw [heq, Function.update_self]
      exact List.nil_sublist _
    · rw [Function.update_of_ne heq]
  · intro subdomain' queue' hqueue'
    dsimp only at hqueue' ⊢
    rw [AList.lookup_insert_ite] at hqueue'
    split at hqueue'
    · rename_i heq
      rw [← Option.some.inj hqueue', heq, Function.update_self, List.rtake_nil, List.map_nil]
    · rename_i hne
      rw [Function.update_of_ne hne]
      exact hi.queue subdomain' queue' hqueue'
  · intro subdomain' hnone
    dsimp only at hnone ⊢
    rw [AList.lookup_insert_ite] at hnone
    split at hnone
    · cases hnone
    · rename_i hne
      rw [Function.update_of_ne hne]
      exact hi.gone subdomain' hnone

/-- The captures after the response to the request `r`, which has the id `id`. -/
theorem Inv.current_response (hi : s.Inv config) {id : String} {completion : Completion}
    (hrequest : s.request r = some (subdomain, id)) (hresponse : s.response r = none)
    {subdomain' : String} {entry : ℕ × CapturedRequest} (hentry : entry ∈ s.log subdomain') :
    current { s with response := Function.update s.response r (some completion) } entry =
      if (s.current entry).id = id then (s.current entry).complete completion
      else s.current entry := by
  have hlogged := (hi.logged _ _ hentry).1
  rw [id_current]
  by_cases heq : entry.1 = r
  · have hid : entry.2.id = id := by
      rw [heq, hrequest] at hlogged
      exact (Prod.mk.inj (Option.some.inj hlogged)).2.symm
    rw [if_pos hid, current, current, heq, hresponse]
    dsimp only
    rw [Function.update_self]
  · have hid : entry.2.id ≠ id := by
      rintro rfl
      exact heq (hi.distinct _ _ _ _ _ hlogged hrequest)
    rw [if_neg hid, current, current]
    dsimp only
    rw [Function.update_of_ne heq]

/-- A response. -/
theorem Inv.complete (hi : s.Inv config) {completion : Completion}
    (h : s.complete r completion = some s') : s'.Inv config := by
  obtain ⟨subdomain, id, hrequest, hresponse, rfl⟩ := complete_eq_some h
  have hrecords : ∀ state : ServerState, Records { s with
      state := state
      response := Function.update s.response r (some completion) } := fun state =>
    hi.toRecords.response (by rw [hrequest]; exact Option.some_ne_none _) state completion
  -- the other queues hold no capture of this request
  have hother : ∀ subdomain' queue', subdomain' ≠ subdomain →
      s.state.captures.lookup subdomain' = some queue' →
      queue' = ((s.log subdomain').rtake config.inspect.bufferSize).map
        (current { s with response := Function.update s.response r (some completion) }) := by
    intro subdomain' queue' hne hqueue'
    rw [hi.queue subdomain' queue' hqueue']
    refine List.map_congr_left fun entry hentry => ?_
    have hmem := Ring.mem_of_mem_rtake hentry
    rw [hi.current_response hrequest hresponse hmem, if_neg]
    rw [id_current]
    rintro rfl
    have hlogged := (hi.logged _ _ hmem).1
    have heq := hi.distinct _ _ _ _ _ hlogged hrequest
    rw [heq, hrequest] at hlogged
    exact hne (Prod.mk.inj (Option.some.inj hlogged)).1.symm
  cases hlookup : s.state.captures.lookup subdomain with
  | none =>
      have hstate : s.state.completeCapture subdomain id completion = s.state := by
        rw [ServerState.completeCapture, hlookup]
      rw [hstate]
      refine ⟨hrecords s.state, hi.valid, hi.config_eq, fun subdomain' queue' hqueue' => ?_, hi.gone⟩
      refine hother subdomain' queue' ?_ hqueue'
      rintro rfl
      rw [hlookup] at hqueue'
      cases hqueue'
  | some queue =>
      have hstate : s.state.completeCapture subdomain id completion = { s.state with
          captures :=
            s.state.captures.insert subdomain (completeNewest id completion queue) } := by
        rw [ServerState.completeCapture, hlookup]
      rw [hstate]
      have hqueue := hi.queue subdomain queue hlookup
      have hnodup : (queue.map CapturedRequest.id).Nodup := by
        rw [hqueue, List.map_map]
        have hids : (s.log subdomain).map (CapturedRequest.id ∘ s.current) =
            (s.log subdomain).map fun entry => entry.2.id :=
          List.map_congr_left fun entry _ => id_current s entry
        rw [Ring.map_rtake, hids]
        exact (hi.nodup_ids subdomain).sublist (List.drop_sublist _ _)
      refine ⟨hrecords _, hi.valid.insert_capture (by rw [hlookup]; rfl) _, hi.config_eq, ?_, ?_⟩
      · intro subdomain' queue' hqueue'
        dsimp only at hqueue'
        rw [AList.lookup_insert_ite] at hqueue'
        split at hqueue'
        · rename_i heq
          rw [← Option.some.inj hqueue', heq, completeNewest_eq_map hnodup, hqueue, List.map_map]
          exact List.map_congr_left fun entry hentry =>
            (hi.current_response hrequest hresponse (Ring.mem_of_mem_rtake hentry)).symm
        · rename_i hne
          exact hother subdomain' queue' hne hqueue'
      · intro subdomain' hnone
        dsimp only at hnone
        rw [AList.lookup_insert_ite] at hnone
        split at hnone
        · cases hnone
        · exact hi.gone subdomain' hnone

/-- What a completion leaves alone, whatever there is. -/
theorem spares_of_complete {completion : Completion} (h : s.complete r completion = some s') :
    s.Spares s' r := by
  obtain ⟨subdomain, id, hrequest, -, rfl⟩ := complete_eq_some h
  have hsame : ∀ subdomain',
      match s.state.captures.lookup subdomain', s.state.captures.lookup subdomain' with
      | none, none => True
      | some queue, some queue' =>
          List.Forall₂ (fun capture capture' => capture'.id = capture.id ∧
            (s.request r ≠ some (subdomain', capture.id) → capture' = capture)) queue queue'
      | _, _ => False := by
    intro subdomain'
    cases s.state.captures.lookup subdomain' with
    | none => trivial
    | some queue => exact List.forall₂_same.2 fun capture _ => ⟨rfl, fun _ => rfl⟩
  intro subdomain'
  dsimp only
  cases hlookup : s.state.captures.lookup subdomain with
  | none =>
      rw [ServerState.completeCapture, hlookup]
      exact hsame subdomain'
  | some queue =>
      rw [ServerState.completeCapture, hlookup]
      dsimp only
      rw [AList.lookup_insert_ite]
      split_ifs with heq
      · rw [heq, hlookup]
        refine (completeNewest_forall₂ id completion queue).imp fun capture capture' hcapture => ?_
        refine ⟨hcapture.1, fun hne => hcapture.2 ?_⟩
        rintro rfl
        exact hne hrequest
      · exact hsame subdomain'

/-- **The invariant of every run.** -/
theorem Inv.of_reachable (hsize : 0 < config.inspect.bufferSize ∨ config.server.maxTunnels = 0)
    (h : (machine config).Reachable s) : s.Inv config := by
  refine h.invariant ?_ ?_
  · rintro s rfl
    exact .new config
  · intro s a s' _ hi _ hstep
    cases a with
    | store op =>
        rw [← Option.some.inj hstep]
        exact hi.apply op
    | capture r subdomain capture => exact hi.capture hsize hstep
    | complete r completion => exact hi.complete hstep
    | clear subdomain => exact hi.clear hstep

/-- The queues are what the invariant says they are. -/
theorem Inv.exact (hi : s.Inv config) : s.Exact where
  length subdomain queue hqueue := by
    rw [hi.queue subdomain queue hqueue, List.length_map, Ring.length_rtake, hi.config_eq]
    exact Nat.min_le_left _ _
  contents subdomain queue hqueue := by
    rw [hi.config_eq]
    exact hi.queue subdomain queue hqueue
  responses subdomain queue hqueue := by
    intro capture hcapture
    rw [hi.queue subdomain queue hqueue] at hcapture
    obtain ⟨entry, hentry, rfl⟩ := List.mem_map.1 hcapture
    obtain ⟨hrequest, hunanswered⟩ := hi.logged subdomain entry (Ring.mem_of_mem_rtake hentry)
    refine ⟨entry.1, by rw [id_current]; exact hrequest, ?_⟩
    rw [current]
    cases s.response entry.1 with
    | none => exact hunanswered
    | some completion => exact ⟨rfl, rfl, rfl, rfl, rfl⟩

/-! ### Room for no capture -/

/-- A capture of a request without headers and body. -/
def bareCapture : CapturedRequest where
  id := "capture"
  capturedAt := 0
  durationMs := none
  tunnelId := "id"
  reqMethod := "GET"
  reqUrl := "/"
  reqHeaders := []
  reqBody := none
  reqBodyTruncated := false
  respStatus := none
  respHeaders := none
  respBody := none
  respBodyTruncated := false
  remoteAddr := ""
  tlsVersion := none

/-- The tunnel `web` is registered. -/
def registered (config : Config) : CaptureSystem :=
  (new config).apply (.registerTunnel (makeTestSession "web" "id" 0))

theorem reachable_registered (config : Config) : (machine config).Reachable (registered config) :=
  (Machine.ReachedBy.init rfl).step (a := .store _) trivial rfl

theorem lookup_registered (h : 0 < config.server.maxTunnels) :
    (registered config).state.captures.lookup "web" = some [] := by
  have hroom : (ServerState.new config).atCapacity = false := by
    refine decide_eq_false (Nat.not_le.2 ?_)
    exact h
  have hok : (ServerState.new config).registerTunnel (makeTestSession "web" "id" 0) =
      .ok { ServerState.new config with
        tunnels :=
          (ServerState.new config).tunnels.insert "web" (makeTestSession "web" "id" 0)
        captures := (ServerState.new config).captures.insert "web" []
        activeTunnels := 1 } := by
    rw [ServerState.registerTunnel, hroom]
    rfl
  have hstate : (registered config).state = (((ServerState.new config).registerTunnel
      (makeTestSession "web" "id" 0)).toOption.getD (ServerState.new config)) := rfl
  rw [hstate, hok]
  exact AList.lookup_insert _

/-- **One capture is kept without room for one.** -/
theorem not_ringBuffers_of_bufferSize_zero (hsize : config.inspect.bufferSize = 0)
    (htunnels : 0 < config.server.maxTunnels) : ¬RingBuffers config := by
  intro h
  have hlookup := lookup_registered htunnels
  have hconfig : (registered config).state.config = config :=
    ServerState.config_apply _ _
  have hstep : ((registered config).capture 0 "web" bareCapture).isSome = true := by
    rw [CaptureSystem.capture, if_pos ⟨rfl, List.not_mem_nil, by decide⟩]
    rfl
  obtain ⟨s, hs⟩ := Option.isSome_iff_exists.1 hstep
  have hexact := h.1 s ((reachable_registered config).step (a := .capture 0 "web" bareCapture) trivial hs)
  obtain ⟨-, -, -, ⟨hnone, -⟩ | ⟨queue, hqueue, rfl⟩⟩ := capture_eq_some hs
  · rw [hlookup] at hnone
    cases hnone
  · rw [hlookup] at hqueue
    obtain rfl := Option.some.inj hqueue
    have hlength := hexact.length "web" _ (AList.lookup_insert _)
    dsimp only at hlength
    rw [hconfig, hsize, Ring.length_push_zero] at hlength
    exact absurd hlength (by decide)

end CaptureSystem

/-- **The capture queues are ring buffers of `buffer_size` captures exactly when
that is not zero**, or when there is never a tunnel that has a queue. -/
theorem capture_queues_exact_iff (config : Config) :
    CaptureSystem.RingBuffers config ↔
      0 < config.inspect.bufferSize ∨ config.server.maxTunnels = 0 := by
  constructor
  · intro h
    by_contra hne
    rw [not_or, Nat.pos_iff_ne_zero, not_not] at hne
    exact CaptureSystem.not_ringBuffers_of_bufferSize_zero hne.1 (Nat.pos_of_ne_zero hne.2) h
  · intro hsize
    exact ⟨fun s hs => (CaptureSystem.Inv.of_reachable hsize hs).exact,
      fun s r completion s' _ h => CaptureSystem.spares_of_complete h⟩

/-- The defaults with a `buffer_size` of zero, which `Config::validate` accepts. -/
def unbufferedConfig : Config :=
  { Config.default with inspect := { Config.default.inspect with bufferSize := 0 } }

theorem capture_queue_overflows :
    ¬∀ config : Config, config.validate = .ok () → CaptureSystem.RingBuffers config := by
  intro h
  exact CaptureSystem.not_ringBuffers_of_bufferSize_zero rfl (by decide)
    (h unbufferedConfig (by decide))

end Rgrok
