/-
# Whose captures a queue holds

`proxy_request_to_tunnel` and `replay_http_request` in
`crates/rgrok-server/src/proxy.rs`, `store_capture` in `tunnel_manager.rs` and
`replay_request` in `web_ui.rs`, while the tunnels under a name change.

A request goes to the session it looked up, and its capture to the queue that the
name has by then; a replay finds a capture, and after that the tunnel under the
name.  So captures stay with the session they are of just as long as no name passes
to another session in between (`Inspected.captures_owned_iff`).
-/

import Rgrok.Server.CaptureQueues

namespace Rgrok

/-! ### The queues under the operations of the store -/

/-- **A tunnel that is there keeps its queue**, and a new one has an empty one. -/
theorem StoreOp.queue_apply {s : ServerState} {op : StoreOp} {subdomain : String}
    {queue : List CapturedRequest} {session : TunnelSession}
    (hqueue : (op.apply s).captures.lookup subdomain = some queue)
    (hsession : (op.apply s).tunnels.lookup subdomain = some session) :
    queue = [] ∧ op = .registerTunnel session ∨
      s.captures.lookup subdomain = some queue ∧ s.tunnels.lookup subdomain = some session := by
  -- what a step of the store may do, as a property of the state after it
  let I : ServerState → Prop := fun s' =>
    s'.captures.lookup subdomain = some queue → s'.tunnels.lookup subdomain = some session →
      queue = [] ∧ op = .registerTunnel session ∨
        s.captures.lookup subdomain = some queue ∧ s.tunnels.lookup subdomain = some session
  have hrefl : I s := fun hq hs => Or.inr ⟨hq, hs⟩
  have hunregister : ∀ (name : String) (removed : TunnelSession),
      I (((s.unregisterTunnelIfOwner name removed).map Prod.snd).getD s) := by
    intro name removed
    refine ServerState.getD_map_snd_invariant (I := I) hrefl fun _ s' hop hq hs => ?_
    obtain ⟨-, -, rfl⟩ := ServerState.unregisterTunnelIfOwner_eq_some hop
    rw [AList.lookup_erase_ite] at hq hs
    split at hq
    · cases hq
    · rename_i hne
      rw [if_neg hne] at hs
      exact Or.inr ⟨hq, hs⟩
  have hremove : ∀ (port : UInt16) (removed : TunnelSession),
      I (((s.removeTcpTunnelIfOwner port removed).map Prod.snd).getD s) := by
    intro port removed
    refine ServerState.getD_map_snd_invariant (I := I) hrefl fun _ s' hop hq hs => ?_
    obtain ⟨-, -, rfl⟩ := ServerState.removeTcpTunnelIfOwner_eq_some hop
    exact Or.inr ⟨hq, hs⟩
  have hrelease : ∀ (key : ReservationKey) (owner : String),
      I (s.releaseReservation key owner) := by
    intro key owner
    rcases s.releaseReservation_cases key owner with ⟨r, -, -, he⟩ | he <;> rw [he] <;>
      exact hrefl
  suffices h : I (op.apply s) from h hqueue hsession
  cases op with
  | reserveHttpTunnel name owner arc =>
      refine ServerState.getD_toOption_invariant (I := I) hrefl fun s' hop => ?_
      obtain ⟨-, -, -, rfl⟩ := ServerState.reserveHttpTunnel_eq_ok hop
      exact hrefl
  | releaseHttpTunnel name owner => exact hrelease _ _
  | registerTunnel published =>
      refine ServerState.getD_toOption_invariant (I := I) hrefl fun s' hop hq hs => ?_
      obtain ⟨-, _, -, rfl⟩ := ServerState.registerTunnel_eq_ok hop
      rw [AList.lookup_insert_ite] at hq hs
      split at hq
      · rename_i heq
        rw [if_pos heq] at hs
        obtain rfl := Option.some.inj hs
        exact Or.inl ⟨(Option.some.inj hq).symm, rfl⟩
      · rename_i hne
        rw [if_neg hne] at hs
        exact Or.inr ⟨hq, hs⟩
  | unregisterTunnelIfOwner name removed => exact hunregister name removed
  | reserveTcpPort requested owner arc =>
      refine ServerState.getD_map_snd_invariant (I := I) hrefl fun port s' hop => ?_
      cases hr : s.reserveTcpPort requested owner arc with
      | error e =>
          rw [hr] at hop
          cases hop
      | ok r =>
          rw [hr] at hop
          obtain rfl := Option.some.inj hop
          obtain ⟨-, -, -, -, rfl⟩ := ServerState.reserveTcpPort_eq_ok hr
          exact hrefl
  | releaseTcpPortReservation port owner => exact hrelease _ _
  | tryRegisterTcpTunnel port published =>
      refine ServerState.getD_toOption_invariant (I := I) hrefl fun s' hop => ?_
      obtain ⟨-, -, _, -, rfl⟩ := ServerState.tryRegisterTcpTunnel_eq_ok hop
      exact hrefl
  | removeTcpTunnelIfOwner port removed => exact hremove port removed
  | reapIdleTunnel candidate removed =>
      cases candidate with
      | http name => exact hunregister name removed
      | tcp port => exact hremove port removed

/-! ### Requests and replays -/

/-- What a replay has found; `owner` is whose the name was at that moment, and no
step reads it. -/
structure FoundCapture where
  subdomain : String
  capture : CapturedRequest
  owner : Option TunnelSession

/-- A request on its way to a tunnel, and the capture it replays, if it does. -/
structure RoutedRequest (Uri : Type) where
  subdomain : String
  tunnel : TunnelSession
  request : PreparedRequest Uri
  replayed : Option FoundCapture

/-- Where a request or a replay is: a capture is found, the tunnel is looked up, the
request is captured, it is written into the stream. -/
inductive RoutePhase (Uri : Type)
  | idle
  | found (f : FoundCapture)
  | routed (q : RoutedRequest Uri)
  | stored (q : RoutedRequest Uri) (captureId : Option String)
  | written (q : RoutedRequest Uri) (captureId : Option String)

/-- The id the request is captured under, if it is. -/
def RoutedRequest.captureId {Uri : Type} (q : RoutedRequest Uri) (x : Exchange) : Option String :=
  if q.tunnel.options.inspect || q.replayed.isSome then some x.newId else none

/-- The capture a replay found, until it is sent. -/
def RoutePhase.replayed {Uri : Type} : RoutePhase Uri → Option FoundCapture
  | .found f => some f
  | .routed q | .stored q _ => q.replayed
  | .idle | .written _ _ => none

/-- The tunnel that is to get the request. -/
def RoutePhase.tunnel {Uri : Type} : RoutePhase Uri → Option TunnelSession
  | .routed q | .stored q _ => some q.tunnel
  | .idle | .found _ | .written _ _ => none

/-- The store and the requests.  `registered` are the sessions that were to be
registered, `captured` the captures with the session each was made for, `replays` what
was replayed and to whom; no step reads them. -/
structure Inspected (Uri : Type) where
  state : ServerState
  task : ℕ → RoutePhase Uri
  registered : List TunnelSession
  captured : List (TunnelSession × CapturedRequest)
  replays : List (FoundCapture × TunnelSession)

namespace Inspected

variable {Uri : Type} (uris : UriCrate Uri)

/-- An operation of the tunnel store, the steps of the request or replay `r`, or the
clearing of one queue. -/
inductive Action (Uri : Type)
  | store (op : StoreOp)
  | clear (subdomain : String)
  | route (r : ℕ) (subdomain : String) (request : PreparedRequest Uri)
  | find (r : ℕ) (subdomain id : String)
  | routeReplay (r : ℕ)
  | storeCapture (r : ℕ) (x : Exchange)
  | write (r : ℕ)
  | complete (r : ℕ) (durationMs : ℕ) (parsed : ParsedHttpResponse)
  | abandon (r : ℕ)

/-- The server at its start. -/
def new (config : Config) : Inspected Uri where
  state := .new config
  task := fun _ => .idle
  registered := []
  captured := []
  replays := []

def setTask (s : Inspected Uri) (r : ℕ) (phase : RoutePhase Uri) : Inspected Uri :=
  { s with task := Function.update s.task r phase }

/-- The session a `register_tunnel` is called with. -/
def registers : StoreOp → Option TunnelSession
  | .registerTunnel session => some session
  | _ => none

def apply (s : Inspected Uri) (op : StoreOp) : Inspected Uri :=
  { s with
    state := op.apply s.state
    registered := (registers op).toList ++ s.registered }

/-- `clear_requests` comes to the queue of `subdomain`. -/
def clear (s : Inspected Uri) (subdomain : String) : Option (Inspected Uri) :=
  match s.state.captures.lookup subdomain with
  | some _ =>
      some { s with state :=
        { s.state with captures := s.state.captures.insert subdomain [] } }
  | none => none

/-- `proxy_http_request` finds the tunnel of a public request. -/
def route (s : Inspected Uri) (r : ℕ) (subdomain : String) (request : PreparedRequest Uri) :
    Option (Inspected Uri) :=
  match s.task r, s.state.tunnels.lookup subdomain with
  | .idle, some tunnel => some (s.setTask r (.routed ⟨subdomain, tunnel, request, none⟩))
  | _, _ => none

/-- `replay_request` comes to the queue of `subdomain`, which has a capture with the
id. -/
def find (s : Inspected Uri) (r : ℕ) (subdomain id : String) : Option (Inspected Uri) :=
  match s.task r, s.state.captures.lookup subdomain with
  | .idle, some queue =>
      (queue.find? fun capture => capture.id == id).map fun capture =>
        s.setTask r (.found ⟨subdomain, capture, s.state.tunnels.lookup subdomain⟩)
  | _, _ => none

/-- `replay_http_request` finds the tunnel of the name, and prepares the request. -/
def routeReplay (s : Inspected Uri) (r : ℕ) : Option (Inspected Uri) :=
  match s.task r with
  | .found f =>
      match s.state.tunnels.lookup f.subdomain, prepareReplay uris f.capture with
      | some tunnel, .ok request =>
          some (s.setTask r (.routed ⟨f.subdomain, tunnel, request, some f⟩))
      | _, _ => none
  | _ => none

/-- The stream is open, and the request is captured. -/
def storeCapture (s : Inspected Uri) (r : ℕ) (x : Exchange) : Option (Inspected Uri) :=
  match s.task r with
  | .routed q =>
      some { s with
        state := (captureRequest uris s.state q.subdomain q.tunnel.id (q.captureId x)
          q.replayed.isSome q.request x).1
        task := Function.update s.task r (.stored q (q.captureId x))
        captured := (q.captureId x).toList.map (fun id => (q.tunnel,
          (captureOf uris id x.capturedAt q.tunnel.id q.replayed.isSome q.request).sanitize)) ++
            s.captured }
  | _ => none

/-- The request is written into the stream of its tunnel. -/
def write (s : Inspected Uri) (r : ℕ) : Option (Inspected Uri) :=
  match s.task r with
  | .stored q captureId =>
      some { s with
        task := Function.update s.task r (.written q captureId)
        replays := q.replayed.toList.map (fun f => (f, q.tunnel)) ++ s.replays }
  | _ => none

/-- The response is there. -/
def complete (s : Inspected Uri) (r : ℕ) (durationMs : ℕ) (parsed : ParsedHttpResponse) :
    Option (Inspected Uri) :=
  match s.task r with
  | .written q captureId =>
      some { s with
        state := (captureResponse s.state q.subdomain captureId durationMs parsed).1
        task := Function.update s.task r .idle }
  | _ => none

def step (s : Inspected Uri) : Action Uri → Option (Inspected Uri)
  | .store op => some (s.apply op)
  | .clear subdomain => s.clear subdomain
  | .route r subdomain request => s.route r subdomain request
  | .find r subdomain id => s.find r subdomain id
  | .routeReplay r => s.routeReplay uris r
  | .storeCapture r x => s.storeCapture uris r x
  | .write r => s.write r
  | .complete r durationMs parsed => s.complete r durationMs parsed
  | .abandon r => some (s.setTask r .idle)

/-- All interleavings, on a server with this configuration. -/
def machine (config : Config) : Machine (Inspected Uri) (Action Uri) where
  init s := s = new config
  step := step uris

/-! ### Owners -/

/-- The capture is one that was made for the session, with a response or without. -/
def CapturedBy (s : Inspected Uri) (session : TunnelSession) (capture : CapturedRequest) : Prop :=
  ∃ made, (session, made) ∈ s.captured ∧
    (capture = made ∨ ∃ completion, capture = made.complete completion)

/-- **Captures stay with their session**: those in the queue of a registered name are of
the session registered there, and each was replayed to the session it was made for. -/
structure Owned (s : Inspected Uri) : Prop where
  queues : ∀ subdomain queue session, s.state.captures.lookup subdomain = some queue →
    s.state.tunnels.lookup subdomain = some session →
      ∀ capture ∈ queue, capture.tunnelId = session.id
  replays : ∀ f session, (f, session) ∈ s.replays →
    f.capture.tunnelId = session.id ∧ s.CapturedBy session f.capture

/-- The ids of sessions differ. -/
def Distinct (s : Inspected Uri) : Prop :=
  ∀ session ∈ s.registered, ∀ session' ∈ s.registered, session.id = session'.id →
    session = session'

/-- The name has not passed to another session: not since a request looked up its tunnel
when its capture is stored, and not between the two lookups of a replay that is sent. -/
def Keeps (s : Inspected Uri) : Action Uri → Prop
  | .storeCapture r x => ∀ q, s.task r = .routed q → q.captureId x ≠ none →
      ∀ session, s.state.tunnels.lookup q.subdomain = some session → session = q.tunnel
  | .write r => ∀ q captureId, s.task r = .stored q captureId →
      ∀ f ∈ q.replayed, f.owner = some q.tunnel
  | _ => True

/-! ### The invariant -/

variable {config : Config} {uris} {s s' : Inspected Uri} {session : TunnelSession}
  {capture : CapturedRequest} {subdomain : String} {r : ℕ}

/-- What a request or a replay on its way may rely on. -/
structure TaskInv (s : Inspected Uri) (phase : RoutePhase Uri) : Prop where
  replayed : ∀ f ∈ phase.replayed, ∃ owner ∈ s.registered, f.owner = some owner ∧
    s.CapturedBy owner f.capture
  tunnel : ∀ session ∈ phase.tunnel, session ∈ s.registered

/-- What holds between the steps while the names keep their sessions. -/
structure Inv (s : Inspected Uri) : Prop where
  valid : s.state.Valid
  registered : ∀ subdomain session, s.state.tunnels.lookup subdomain = some session →
    session ∈ s.registered
  queues : ∀ subdomain queue session, s.state.captures.lookup subdomain = some queue →
    s.state.tunnels.lookup subdomain = some session →
      ∀ capture ∈ queue, s.CapturedBy session capture
  tasks : ∀ r, s.TaskInv (s.task r)
  captured : ∀ session made, (session, made) ∈ s.captured → made.tunnelId = session.id
  replays : ∀ f session, (f, session) ∈ s.replays → s.CapturedBy session f.capture

theorem CapturedBy.mono (h : s.CapturedBy session capture) (hsub : s.captured ⊆ s'.captured) :
    s'.CapturedBy session capture := by
  obtain ⟨made, hmem, hmade⟩ := h
  exact ⟨made, hsub hmem, hmade⟩

/-- The response of a capture changes nothing about whose it is. -/
theorem CapturedBy.complete (h : s.CapturedBy session capture) (completion : Completion) :
    s.CapturedBy session (capture.complete completion) := by
  obtain ⟨made, hmem, rfl | ⟨completion', rfl⟩⟩ := h
  · exact ⟨_, hmem, Or.inr ⟨completion, rfl⟩⟩
  · exact ⟨made, hmem, Or.inr ⟨completion, rfl⟩⟩

theorem Inv.tunnelId (hi : s.Inv) (h : s.CapturedBy session capture) :
    capture.tunnelId = session.id := by
  obtain ⟨made, hmem, rfl | ⟨completion, rfl⟩⟩ := h
  · exact hi.captured session _ hmem
  · exact hi.captured session made hmem

theorem TaskInv.mono {phase : RoutePhase Uri} (h : s.TaskInv phase)
    (hregistered : s.registered ⊆ s'.registered) (hcaptured : s.captured ⊆ s'.captured) :
    s'.TaskInv phase where
  replayed f hf := by
    obtain ⟨owner, hmem, howner, hby⟩ := h.replayed f hf
    exact ⟨owner, hregistered hmem, howner, hby.mono hcaptured⟩
  tunnel session hsession := hregistered (h.tunnel session hsession)

theorem Inv.owned (hi : s.Inv) : s.Owned where
  queues subdomain queue session hqueue hsession capture hcapture :=
    hi.tunnelId (hi.queues subdomain queue session hqueue hsession capture hcapture)
  replays f session hmem := ⟨hi.tunnelId (hi.replays f session hmem), hi.replays f session hmem⟩

theorem taskInv_idle : s.TaskInv .idle where
  replayed f hf := by cases hf
  tunnel session hsession := by cases hsession

theorem Inv.new (config : Config) : (new config : Inspected Uri).Inv where
  valid := .new config
  registered subdomain session h := by
    rw [Inspected.new, ServerState.new, AList.lookup_empty] at h
    cases h
  queues subdomain queue session h := by
    rw [Inspected.new, ServerState.new, AList.lookup_empty] at h
    cases h
  tasks r := taskInv_idle
  captured session made h := absurd h List.not_mem_nil
  replays f session h := absurd h List.not_mem_nil

/-! ### The steps -/

/-- A request goes on. -/
theorem Inv.setTask (hi : s.Inv) {phase : RoutePhase Uri} (h : s.TaskInv phase) :
    (s.setTask r phase).Inv where
  valid := hi.valid
  registered := hi.registered
  queues := hi.queues
  tasks r' := by
    have htask : s.TaskInv (Function.update s.task r phase r') := by
      by_cases heq : r' = r
      · rw [heq, Function.update_self]
        exact h
      · rw [Function.update_of_ne heq]
        exact hi.tasks r'
    exact ⟨htask.replayed, htask.tunnel⟩
  captured := hi.captured
  replays := hi.replays

/-- The queue of one name changes, and not the tunnels. -/
theorem Inv.setQueue (hi : s.Inv) {queue queue' : List CapturedRequest}
    (hlookup : s.state.captures.lookup subdomain = some queue)
    (h : ∀ session, s.state.tunnels.lookup subdomain = some session →
      ∀ capture ∈ queue', s.CapturedBy session capture) :
    { s with state :=
      { s.state with captures := s.state.captures.insert subdomain queue' } }.Inv where
  valid := hi.valid.insert_capture (by rw [hlookup]; rfl) _
  registered := hi.registered
  queues name queue'' session hqueue hsession := by
    rw [AList.lookup_insert_ite] at hqueue
    split at hqueue
    · rename_i heq
      obtain rfl := Option.some.inj hqueue
      exact h session (heq ▸ hsession)
    · exact hi.queues name queue'' session hqueue hsession
  tasks r := ⟨(hi.tasks r).replayed, (hi.tasks r).tunnel⟩
  captured := hi.captured
  replays := hi.replays

/-- An operation of the store. -/
theorem Inv.apply (hi : s.Inv) (op : StoreOp) : (s.apply op).Inv := by
  have hvalid := hi.valid.apply op
  have hregistered : s.registered ⊆ (s.apply op).registered := List.subset_append_right _ _
  refine ⟨hvalid, ?_, ?_, fun r => (hi.tasks r).mono hregistered (List.Subset.refl _),
    hi.captured, hi.replays⟩
  · intro subdomain session hsession
    have hsome := hvalid.captures subdomain
    have hlookup : (op.apply s.state).tunnels.lookup subdomain = some session := hsession
    rw [hlookup] at hsome
    obtain ⟨queue, hqueue⟩ := Option.isSome_iff_exists.1 hsome
    rcases StoreOp.queue_apply hqueue hlookup with ⟨-, rfl⟩ | ⟨-, hold⟩
    · exact List.mem_append_left _ List.mem_cons_self
    · exact hregistered (hi.registered subdomain session hold)
  · intro subdomain queue session hqueue hsession capture hcapture
    rcases StoreOp.queue_apply hqueue hsession with ⟨rfl, -⟩ | ⟨hold, hold'⟩
    · cases hcapture
    · exact hi.queues subdomain queue session hold hold' capture hcapture

/-- One queue is cleared. -/
theorem Inv.clear (hi : s.Inv) (h : s.clear subdomain = some s') : s'.Inv := by
  unfold Inspected.clear at h
  split at h
  · rename_i hlookup
    obtain rfl := Option.some.inj h
    exact hi.setQueue hlookup fun _ _ capture hcapture => absurd hcapture List.not_mem_nil
  · cases h

/-- A capture after a completion. -/
theorem mem_completeNewest {id : String} {completion : Completion} {queue : List CapturedRequest}
    (h : capture ∈ completeNewest id completion queue) :
    capture ∈ queue ∨ ∃ old ∈ queue, capture = old.complete completion := by
  induction queue with
  | nil => exact Or.inl h
  | cons first queue ih =>
      rw [completeNewest] at h
      split at h
      · rcases List.mem_cons.1 h with rfl | h
        · exact Or.inl List.mem_cons_self
        · rcases ih h with hmem | ⟨old, hmem, heq⟩
          · exact Or.inl (List.mem_cons_of_mem _ hmem)
          · exact Or.inr ⟨old, List.mem_cons_of_mem _ hmem, heq⟩
      · split at h
        · rcases List.mem_cons.1 h with rfl | h
          · exact Or.inr ⟨first, List.mem_cons_self, rfl⟩
          · exact Or.inl (List.mem_cons_of_mem _ h)
        · exact Or.inl h

/-- The response of a request. -/
theorem Inv.complete (hi : s.Inv) {durationMs : ℕ} {parsed : ParsedHttpResponse}
    (h : s.complete r durationMs parsed = some s') : s'.Inv := by
  unfold Inspected.complete at h
  split at h
  · rename_i q captureId htask
    obtain rfl := Option.some.inj h
    have hidle := hi.setTask (r := r) taskInv_idle
    cases captureId with
    | none => exact hidle
    | some id =>
        dsimp only [captureResponse]
        cases hlookup : s.state.captures.lookup q.subdomain with
        | none =>
            rw [ServerState.completeCapture, hlookup]
            exact hidle
        | some queue =>
            rw [ServerState.completeCapture, hlookup]
            refine hidle.setQueue hlookup fun session hsession capture hcapture => ?_
            have hold := hi.queues q.subdomain queue session hlookup hsession
            rcases mem_completeNewest hcapture with hmem | ⟨old, hmem, rfl⟩
            · exact hold capture hmem
            · exact (hold old hmem).complete _
  · cases h

/-- A request gets its tunnel. -/
theorem Inv.route (hi : s.Inv) {request : PreparedRequest Uri}
    (h : s.route r subdomain request = some s') : s'.Inv := by
  unfold Inspected.route at h
  split at h
  · rename_i tunnel _ htunnel
    obtain rfl := Option.some.inj h
    refine hi.setTask ⟨fun f hf => (by cases hf), fun session hsession => ?_⟩
    obtain rfl := Option.some.inj hsession
    exact hi.registered subdomain tunnel htunnel
  · cases h

/-- A replay finds a capture: its name is registered, to the session it is of. -/
theorem Inv.find (hi : s.Inv) {id : String} (h : s.find r subdomain id = some s') : s'.Inv := by
  unfold Inspected.find at h
  split at h
  · rename_i queue _ hqueue
    obtain ⟨capture, hfind, rfl⟩ := Option.map_eq_some_iff.1 h
    have hsome := hi.valid.captures subdomain
    rw [hqueue] at hsome
    obtain ⟨owner, howner⟩ := Option.isSome_iff_exists.1 hsome.symm
    refine hi.setTask ⟨fun f hf => ?_, fun session hsession => by cases hsession⟩
    obtain rfl := Option.some.inj hf
    exact ⟨owner, hi.registered subdomain owner howner, howner,
      hi.queues subdomain queue owner hqueue howner capture (List.mem_of_find?_eq_some hfind)⟩
  · cases h

/-- A replay gets its tunnel. -/
theorem Inv.routeReplay (hi : s.Inv) (h : s.routeReplay uris r = some s') : s'.Inv := by
  unfold Inspected.routeReplay at h
  split at h
  · rename_i f htask
    split at h
    · rename_i tunnel request htunnel _
      obtain rfl := Option.some.inj h
      have hold := hi.tasks r
      rw [htask] at hold
      refine hi.setTask ⟨hold.replayed, fun session hsession => ?_⟩
      obtain rfl := Option.some.inj hsession
      exact hi.registered f.subdomain tunnel htunnel
    · cases h
  · cases h

/-- What the capture of a request is. -/
theorem storeCapture_eq_some {x : Exchange} (h : s.storeCapture uris r x = some s') :
    ∃ q, s.task r = .routed q ∧
      s' = { s with
        state := (captureRequest uris s.state q.subdomain q.tunnel.id (q.captureId x)
          q.replayed.isSome q.request x).1
        task := Function.update s.task r (.stored q (q.captureId x))
        captured := (q.captureId x).toList.map (fun id => (q.tunnel,
          (captureOf uris id x.capturedAt q.tunnel.id q.replayed.isSome q.request).sanitize)) ++
            s.captured } := by
  unfold Inspected.storeCapture at h
  split at h
  · rename_i q htask
    exact ⟨q, htask, (Option.some.inj h).symm⟩
  · cases h

/-- A capture is made for a session. -/
theorem Inv.log (hi : s.Inv) {made : CapturedRequest} (hmade : made.tunnelId = session.id) :
    { s with captured := (session, made) :: s.captured }.Inv where
  valid := hi.valid
  registered := hi.registered
  queues name queue session' hqueue hsession capture hcapture :=
    (hi.queues name queue session' hqueue hsession capture hcapture).mono
      (List.subset_cons_self _ _)
  tasks r := (hi.tasks r).mono (List.Subset.refl _) (List.subset_cons_self _ _)
  captured session' made' hmem := by
    rcases List.mem_cons.1 hmem with heq | hmem
    · obtain ⟨rfl, rfl⟩ := Prod.mk.inj heq
      exact hmade
    · exact hi.captured session' made' hmem
  replays f session' hmem := (hi.replays f session' hmem).mono (List.subset_cons_self _ _)

/-- A capture is stored while the name is the session's, or no one's. -/
theorem Inv.storeCapture (hi : s.Inv) {x : Exchange} (hkeeps : s.Keeps (.storeCapture r x))
    (h : s.storeCapture uris r x = some s') : s'.Inv := by
  obtain ⟨q, htask, rfl⟩ := storeCapture_eq_some h
  have hold := hi.tasks r
  rw [htask] at hold
  have hstored : (s.setTask r (.stored q (q.captureId x))).Inv :=
    hi.setTask ⟨hold.replayed, hold.tunnel⟩
  cases hid : q.captureId x with
  | none =>
      rw [hid] at hstored
      exact hstored
  | some id =>
      rw [hid] at hstored
      -- first the record of whose capture it is, then the queue
      have hlogged := @Inv.log _ _ q.tunnel hstored (captureOf uris id x.capturedAt q.tunnel.id
        q.replayed.isSome q.request).sanitize rfl
      cases hlookup : s.state.captures.lookup q.subdomain with
      | none =>
          rw [captureRequest, ServerState.storeCapture, hlookup]
          exact hlogged
      | some queue =>
          rw [captureRequest, ServerState.storeCapture, hlookup]
          refine hlogged.setQueue hlookup fun session hsession capture hcapture => ?_
          rcases List.mem_append.1 hcapture with hmem | hmem
          · refine hlogged.queues q.subdomain queue session hlookup hsession capture ?_
            split at hmem
            · exact List.mem_of_mem_tail hmem
            · exact hmem
          · obtain rfl := List.mem_singleton.1 hmem
            have hcaptured : q.captureId x ≠ none := by
              rw [hid]
              exact Option.some_ne_none id
            obtain rfl := hkeeps q htask hcaptured session hsession
            exact ⟨_, List.mem_cons_self, Or.inl rfl⟩

/-- A replay is sent to the session that had the name when its capture was found. -/
theorem Inv.write (hi : s.Inv) (hkeeps : s.Keeps (Action.write r : Action Uri))
    (h : s.write r = some s') : s'.Inv := by
  unfold Inspected.write at h
  split at h
  · rename_i q captureId htask
    obtain rfl := Option.some.inj h
    have hold := hi.tasks r
    rw [htask] at hold
    have hwritten : (s.setTask r (.written q captureId)).Inv :=
      hi.setTask ⟨fun f hf => (by cases hf), fun session hsession => by cases hsession⟩
    refine ⟨hwritten.valid, hwritten.registered, hwritten.queues, fun r' =>
      ⟨(hwritten.tasks r').replayed, (hwritten.tasks r').tunnel⟩, hwritten.captured, ?_⟩
    intro f session hmem
    rcases List.mem_append.1 hmem with hmem | hmem
    · obtain ⟨f', hf', heq⟩ := List.mem_map.1 hmem
      obtain ⟨rfl, rfl⟩ := Prod.mk.inj heq
      obtain ⟨owner, -, howner, hby⟩ := hold.replayed f' (Option.mem_toList.1 hf')
      have hsame := hkeeps q captureId htask f' (Option.mem_toList.1 hf')
      obtain rfl := Option.some.inj (howner.symm.trans hsame)
      exact hby
    · exact hi.replays f session hmem
  · cases h

/-- **What a step keeps**, if no name has passed to another session. -/
theorem Inv.step (hi : s.Inv) {a : Action Uri} (hkeeps : s.Keeps a)
    (h : s.step uris a = some s') : s'.Inv := by
  cases a with
  | store op =>
      obtain rfl := Option.some.inj h
      exact hi.apply op
  | clear subdomain => exact hi.clear h
  | route r subdomain request => exact hi.route h
  | find r subdomain id => exact hi.find h
  | routeReplay r => exact hi.routeReplay h
  | storeCapture r x => exact hi.storeCapture hkeeps h
  | write r => exact hi.write hkeeps h
  | complete r durationMs parsed => exact hi.complete h
  | abandon r =>
      obtain rfl := Option.some.inj h
      exact hi.setTask taskInv_idle

theorem Inv.of_reachedBy (h : (machine uris config).ReachedBy Keeps s) : s.Inv := by
  refine h.invariant ?_ ?_
  · rintro s rfl
    exact .new config
  · intro s a s' _ hi hkeeps hs
    exact hi.step hkeeps hs

/-! ### Names that pass on -/

/-- A stored capture is of the session registered by then, if captures stay with theirs. -/
theorem keeps_of_storeCapture (hi : s.Inv) {x : Exchange}
    (h : s.storeCapture uris r x = some s') (hdistinct : s'.Distinct) (howned : s'.Owned) :
    s.Keeps (Action.storeCapture r x : Action Uri) := by
  obtain ⟨q, htask, rfl⟩ := storeCapture_eq_some h
  intro q' htask' hcaptured session hsession
  obtain rfl := RoutePhase.routed.inj (htask.symm.trans htask')
  obtain ⟨id, hid⟩ := Option.ne_none_iff_exists'.1 hcaptured
  have hold := hi.tasks r
  rw [htask] at hold
  have hsome := hi.valid.captures q.subdomain
  rw [hsession] at hsome
  obtain ⟨queue, hlookup⟩ := Option.isSome_iff_exists.1 hsome
  refine hdistinct session (hi.registered _ _ hsession) q.tunnel (hold.tunnel _ rfl) ?_
  have hqueues := howned.queues q.subdomain
  rw [hid, captureRequest, ServerState.storeCapture, hlookup] at hqueues
  exact (hqueues _ session (AList.lookup_insert _) hsession _
    (List.mem_append_right _ List.mem_cons_self)).symm

/-- A replay goes to the session that had the name, if captures stay with theirs. -/
theorem keeps_of_write (hi : s.Inv) (h : s.write r = some s') (hdistinct : s'.Distinct)
    (howned : s'.Owned) : s.Keeps (Action.write r : Action Uri) := by
  unfold Inspected.write at h
  split at h
  · rename_i q captureId htask
    obtain rfl := Option.some.inj h
    intro q' captureId' htask' f hf
    obtain ⟨rfl, -⟩ := RoutePhase.stored.inj (htask.symm.trans htask')
    have hold := hi.tasks r
    rw [htask] at hold
    obtain ⟨owner, hmem, howner, hby⟩ := hold.replayed f hf
    have hsent := (howned.replays f q.tunnel (List.mem_append_left _
      (List.mem_map.2 ⟨f, Option.mem_toList.2 hf, rfl⟩))).1
    rw [howner, hdistinct owner hmem q.tunnel (hold.tunnel _ rfl)
      ((hi.tunnelId hby).symm.trans hsent)]
  · cases h

/-- **Captures stay with their session just as long as no name passes to another one** in
between: in every run in which no step stores a capture, or sends a replay, after
the name has passed on, they do in every state; and the first such step breaks it. -/
theorem captures_owned_iff (h : (machine uris config).ReachedBy Keeps s) :
    s.Owned ∧ ∀ a s', s.step uris a = some s' → s'.Distinct → (s'.Owned ↔ s.Keeps a) := by
  have hi := Inv.of_reachedBy h
  refine ⟨hi.owned, fun a s' hs hdistinct => ⟨fun howned => ?_, fun hkeeps =>
    (hi.step hkeeps hs).owned⟩⟩
  cases a with
  | storeCapture r x => exact keeps_of_storeCapture hi hs hdistinct howned
  | write r => exact keeps_of_write hi hs hdistinct howned
  | store | clear | route | find | routeReplay | complete | abandon => trivial

/-! ### One name, two sessions -/

/-- A session of the name `web` that is inspected. -/
def webSession (id : String) (arc : ℕ) : TunnelSession :=
  { makeTestSession "web" id arc with
    options := { hostHeader := none, inspect := true, responseHeader := [] } }

/-- The stream is open, the capture gets the id. -/
def exchange (newId : String) : Exchange where
  newId := newId
  capturedAt := 0
  durationMs := 0
  streamOpened := true
  headWritten := true
  bodyWritten := true
  response := ⟨[], .eof, fun _ h => absurd h List.not_mem_nil⟩

/-- A request that goes to the first session. -/
def routedRun : List (Action PathAndQuery) :=
  [.store (.registerTunnel (webSession "a" 0)), .route 0 "web" (getRequest [])]

theorem routedRun_isSome :
    ((machine originForm .default).run (new .default) routedRun).isSome = true := by
  decide

def routedToFirst : Inspected PathAndQuery :=
  ((machine originForm .default).run (new .default) routedRun).get routedRun_isSome

theorem routedToFirst_reached : (machine originForm .default).ReachedBy Keeps routedToFirst := by
  refine Machine.ReachedBy.run (.init rfl) (fun a ha t => ?_)
    (Option.some_get routedRun_isSome).symm
  simp only [routedRun, List.mem_cons, List.not_mem_nil, or_false] at ha
  rcases ha with rfl | rfl <;> trivial

theorem storedFirst_isSome :
    (routedToFirst.step originForm (.storeCapture 0 (exchange "c"))).isSome = true := by
  decide

def storedFirst : Inspected PathAndQuery :=
  (routedToFirst.step originForm (.storeCapture 0 (exchange "c"))).get storedFirst_isSome

theorem captures_owned_iff_first :
    routedToFirst.Owned ∧ storedFirst.Owned ∧
      (storedFirst.state.captures.lookup "web").map List.length = some 1 := by
  have h := captures_owned_iff routedToFirst_reached
  have hdistinct : storedFirst.Distinct := by
    unfold Distinct
    decide
  refine ⟨h.1, (h.2 _ _ (Option.some_get storedFirst_isSome).symm hdistinct).2 ?_, by decide⟩
  intro q htask _ session hsession
  have hq : routedToFirst.task 0 =
      .routed ⟨"web", webSession "a" 0, getRequest [], none⟩ := rfl
  obtain rfl := RoutePhase.routed.inj (hq.symm.trans htask)
  have hlookup : routedToFirst.state.tunnels.lookup "web" = some (webSession "a" 0) := by
    decide
  exact (Option.some.inj (hlookup.symm.trans hsession)).symm

/-- The name passes on while a request and a replay are on their way. -/
def handedOverRun : List (Action PathAndQuery) :=
  [.store (.registerTunnel (webSession "a" 0)), .route 0 "web" (getRequest []),
    .storeCapture 0 (exchange "c0"), .find 1 "web" "c0", .route 2 "web" (getRequest []),
    .store (.unregisterTunnelIfOwner "web" (webSession "a" 0)),
    .store (.registerTunnel (webSession "b" 1)), .storeCapture 2 (exchange "c2"),
    .routeReplay 1, .storeCapture 1 (exchange "c1"), .write 1]

theorem handedOverRun_isSome :
    ((machine originForm .default).run (new .default) handedOverRun).isSome = true := by
  decide +kernel

def handedOver : Inspected PathAndQuery :=
  ((machine originForm .default).run (new .default) handedOverRun).get handedOverRun_isSome

theorem captures_change_hands :
    (machine originForm .default).Reachable handedOver ∧ handedOver.Distinct ∧
      handedOver.state.tunnels.lookup "web" = some (webSession "b" 1) ∧
      (handedOver.state.captures.lookup "web").map (List.map CapturedRequest.tunnelId) =
        some ["a", "b"] ∧
      handedOver.replays.map (fun replay => (replay.1.capture.tunnelId, replay.2.id)) =
        [("a", "b")] ∧
      ¬handedOver.Owned := by
  have hdistinct : handedOver.Distinct := by
    unfold Distinct
    decide +kernel
  have hreplays : handedOver.replays.map (fun replay => (replay.1.capture.tunnelId, replay.2.id)) =
      [("a", "b")] := by
    decide +kernel
  refine ⟨Machine.reachable_get (.init rfl) handedOverRun_isSome, hdistinct, by decide +kernel,
    by decide +kernel, hreplays, fun howned => ?_⟩
  have hmem : ("a", "b") ∈
      handedOver.replays.map fun replay => (replay.1.capture.tunnelId, replay.2.id) := by
    rw [hreplays]
    exact List.mem_cons_self
  obtain ⟨⟨f, session⟩, hmem, heq⟩ := List.mem_map.1 hmem
  obtain ⟨hcapture, hsession⟩ := Prod.mk.inj heq
  have hsame := (howned.replays f session hmem).1
  rw [hcapture, hsession] at hsame
  exact absurd hsame (by decide)

end Inspected

end Rgrok
