/-
# The client's inspector

`crates/rgrok-client/src/inspect.rs`: the capture queue and the handlers of the UI that read
it, empty it and replay from it.

The handlers run next to each other and next to the bridges, and each access to the queue
holds its lock, so that a run is any sequence of their steps.  What the local service answers
a replay, in which chunks, and when a browser goes away are actions.  The logs (what was
pushed and where it came from, what was sent, the bytes of a response) are read by no step.

Whatever happens in what order, the queue is the end of what was stored, every capture of a
replay is what the local service answered, and no replay sends more than what was captured,
nor a secret (`inspector_sound`).
-/

import Mathlib.Data.List.Nodup
import Rgrok.Client.Capture
import Rgrok.Http.Headers
import Rgrok.Lib.Ring

namespace Rgrok

theorem CapturedRequest.sanitize_sanitize (capture : CapturedRequest) :
    capture.sanitize.sanitize = capture.sanitize := by
  have hresp : (capture.respHeaders.map sanitizeHeaders).map sanitizeHeaders =
      capture.respHeaders.map sanitizeHeaders := by
    cases capture.respHeaders with
    | none => rfl
    | some headers => exact congrArg some (sanitizeHeaders_idem headers)
  simp only [sanitize, sanitizeHeaders_idem, hresp]

/-! ### Replays -/

/-- What a replay gives to `reqwest`. -/
structure ReplayedRequest where
  method : Method
  url : String
  headers : List (String × String)
  body : Option (List UInt8)
deriving DecidableEq

/-- The request of a replay. -/
def CapturedRequest.replayed (capture : CapturedRequest) (localPort : UInt16) :
    ReplayedRequest where
  method := (Method.fromBytes capture.reqMethod).getD .GET
  url := "http://127.0.0.1:" ++ toString localPort.toNat ++ capture.reqUrl
  headers := (sanitizeHeaders capture.reqHeaders).filter fun header =>
    !Text.eqIgnoreAsciiCase header.1 "host"
  body := capture.reqBody

/-- The head of the answer to a replay, with the time it took. -/
structure ReplayAnswer where
  status : UInt16
  headers : HeaderMap
  durationMs : ℕ

/-- `resp_headers`. -/
def ReplayAnswer.respHeaders (answer : ReplayAnswer) : List (String × String) :=
  answer.headers.iter.filterMap fun (name, value) =>
    value.toStr.map fun value => (name.name, value)

/-- The bytes of a chunk that are kept behind those captured so far. -/
def keptOf (maxBodyBytes : UInt64) (captured chunk : List UInt8) : List UInt8 :=
  chunk.take (maxBodyBytes.toNat - captured.length)

section keptOf

variable {maxBodyBytes : UInt64} {captured : List UInt8}

/-- What is captured is the beginning of what was received. -/
theorem append_keptOf (hroom : captured.length ≤ maxBodyBytes.toNat) (chunk : List UInt8) :
    captured ++ keptOf maxBodyBytes captured chunk =
      (captured ++ chunk).take maxBodyBytes.toNat := by
  rw [keptOf, List.take_append, List.take_of_length_le hroom]

theorem length_keptOf_lt {chunk : List UInt8} (hroom : captured.length ≤ maxBodyBytes.toNat) :
    (keptOf maxBodyBytes captured chunk).length < chunk.length ↔
      maxBodyBytes.toNat < (captured ++ chunk).length := by
  rw [keptOf, List.length_take, List.length_append]
  omega

end keptOf

/-- `replay_capture`. -/
def replayCapture (source : CapturedRequest) (answer : ReplayAnswer) (captured : List UInt8)
    (truncated : Bool) (newId : String) (capturedAt : ℕ) : CapturedRequest where
  id := newId
  capturedAt := capturedAt
  durationMs := some answer.durationMs
  tunnelId := ""
  reqMethod := source.reqMethod
  reqUrl := source.reqUrl
  reqHeaders := source.reqHeaders
  reqBody := source.reqBody
  reqBodyTruncated := false
  respStatus := some answer.status
  respHeaders := some answer.respHeaders
  respBody := if captured.isEmpty then none else some captured
  respBodyTruncated := truncated
  remoteAddr := "replay"
  tlsVersion := none

/-- `list_requests`; `sort_by_key` is stable. -/
def listRequests (captures : List CapturedRequest) : List CapturedRequest :=
  captures.mergeSort fun a b => b.capturedAt ≤ a.capturedAt

/-- `get_request`. -/
def findRequest (captures : List CapturedRequest) (id : String) : Option CapturedRequest :=
  captures.find? fun capture => capture.id == id

/-! ### The inspector -/

/-- Where `replay_request` stands: not called; in `send`; in `chunk` with what is captured of
the body; behind the loop; in `store_capture`; returned, with the new id or an error status;
gone with its browser. -/
inductive ReplayPhase
  | idle
  | sending (source : CapturedRequest)
  | reading (source : CapturedRequest) (answer : ReplayAnswer) (captured : List UInt8)
  | complete (source : CapturedRequest) (answer : ReplayAnswer) (captured : List UInt8)
      (truncated : Bool)
  | storing (source : CapturedRequest) (answer : ReplayAnswer) (capture : CapturedRequest)
  | answered (result : Except ℕ String)
  | dropped

/-- Where the capture of a replay came from. -/
structure ReplayOrigin where
  replay : ℕ
  source : CapturedRequest
  answer : ReplayAnswer

/-- A capture that was stored; a bridge has no origin. -/
structure Push where
  capture : CapturedRequest
  origin : Option ReplayOrigin

/-- The inspector.  `stored` are the captures since the queue was last emptied, `pushed` all of
them, `sent` the requests of the replays, and `received` the bytes of their responses. -/
structure Inspector where
  inspect : InspectState
  localPort : UInt16
  replays : ℕ → ReplayPhase
  events : List InspectEvent
  stored : List CapturedRequest
  pushed : List Push
  sent : List (ℕ × ReplayedRequest)
  received : ℕ → List UInt8

inductive InspectorAction
  | bridge (stamp : CaptureStamp) (bridge : Bridge)
  | clearRequests
  | replayRequest (r : ℕ) (id : String)
  | sendFailed (r : ℕ)
  | responded (r : ℕ) (answer : ReplayAnswer)
  | chunk (r : ℕ) (chunk : List UInt8)
  | chunkFailed (r : ℕ)
  | endOfBody (r : ℕ)
  | finish (r : ℕ) (newId : String) (capturedAt : ℕ)
  | storeCapture (r : ℕ)
  | drop (r : ℕ)

namespace Inspector

/-- `InspectState::with_max_body_bytes`. -/
def new (localPort : UInt16) (maxBodyBytes : UInt64) : Inspector where
  inspect := { captures := [], maxCaptures := 100, maxBodyBytes := maxBodyBytes }
  localPort := localPort
  replays := fun _ => .idle
  events := []
  stored := []
  pushed := []
  sent := []
  received := fun _ => []

def setReplay (s : Inspector) (r : ℕ) (phase : ReplayPhase) : Inspector :=
  { s with replays := Function.update s.replays r phase }

/-- A chunk arrives. -/
def receive (s : Inspector) (r : ℕ) (chunk : List UInt8) : Inspector :=
  { s with received := Function.update s.received r (s.received r ++ chunk) }

/-- `store_capture`. -/
def push (s : Inspector) (capture : CapturedRequest) (origin : Option ReplayOrigin) : Inspector :=
  { s with
    inspect := (s.inspect.storeCapture capture).1
    events := s.events ++ (s.inspect.storeCapture capture).2
    stored := s.stored ++ [capture.sanitize]
    pushed := s.pushed ++ [⟨capture.sanitize, origin⟩] }

def step (s : Inspector) : InspectorAction → Option Inspector
  | .bridge stamp bridge =>
      if bridge.Finished then
        match bridge.capture stamp s.inspect.maxBodyBytes with
        | none => some s
        | some capture => some (s.push capture none)
      else none
  | .clearRequests => some { s with inspect := { s.inspect with captures := [] }, stored := [] }
  | .replayRequest r id =>
      match s.replays r with
      | .idle =>
          match findRequest s.inspect.captures id with
          | none => some (s.setReplay r (.answered (.error 404)))
          | some source =>
              if source.reqBodyTruncated then some (s.setReplay r (.answered (.error 413)))
              else
                some { s.setReplay r (.sending source) with
                  sent := s.sent ++ [(r, source.replayed s.localPort)] }
      | _ => none
  | .sendFailed r =>
      match s.replays r with
      | .sending _ => some (s.setReplay r (.answered (.error 502)))
      | _ => none
  | .responded r answer =>
      match s.replays r with
      | .sending source => some (s.setReplay r (.reading source answer []))
      | _ => none
  | .chunk r chunk =>
      match s.replays r with
      | .reading source answer captured =>
          let kept := keptOf s.inspect.maxBodyBytes captured chunk
          if kept.length < chunk.length then
            some ((s.receive r chunk).setReplay r (.complete source answer (captured ++ kept) true))
          else
            some ((s.receive r chunk).setReplay r (.reading source answer (captured ++ kept)))
      | _ => none
  | .chunkFailed r =>
      match s.replays r with
      | .reading _ _ _ => some (s.setReplay r (.answered (.error 502)))
      | _ => none
  | .endOfBody r =>
      match s.replays r with
      | .reading source answer captured =>
          some (s.setReplay r (.complete source answer captured false))
      | _ => none
  | .finish r newId capturedAt =>
      match s.replays r with
      | .complete source answer captured truncated =>
          some (s.setReplay r (.storing source answer
            (replayCapture source answer captured truncated newId capturedAt)))
      | _ => none
  | .storeCapture r =>
      match s.replays r with
      | .storing source answer capture =>
          some ((s.push capture (some ⟨r, source, answer⟩)).setReplay r
            (.answered (.ok capture.id)))
      | _ => none
  | .drop r =>
      match s.replays r with
      | .idle | .answered _ | .dropped => none
      | _ => some (s.setReplay r .dropped)

def machine (localPort : UInt16) (maxBodyBytes : UInt64) : Machine Inspector InspectorAction where
  init s := s = new localPort maxBodyBytes
  step := step

/-! ### What is kept -/

/-- The replay has sent this capture, which has its whole body and was in the queue. -/
structure Sends (s : Inspector) (r : ℕ) (source : CapturedRequest) : Prop where
  sent : (r, source.replayed s.localPort) ∈ s.sent
  whole : source.reqBodyTruncated = false
  pushed : ∃ p ∈ s.pushed, p.capture = source

/-- The capture of a replay: its request is the source's, its response what was received. -/
def Records (s : Inspector) (r : ℕ) (source : CapturedRequest) (answer : ReplayAnswer)
    (capture : CapturedRequest) : Prop :=
  ∃ capturedAt, capture = replayCapture source answer
    ((s.received r).take s.inspect.maxBodyBytes.toNat)
    (decide (s.inspect.maxBodyBytes.toNat < (s.received r).length)) capture.id capturedAt

/-- What holds of a replay, by its phase. -/
def PhaseOk (s : Inspector) (r : ℕ) : ReplayPhase → Prop
  | .idle => r ∉ s.sent.map Prod.fst ∧ s.received r = []
  | .sending source => s.Sends r source ∧ s.received r = []
  | .reading source _ captured =>
      s.Sends r source ∧ captured = s.received r ∧
        captured.length ≤ s.inspect.maxBodyBytes.toNat
  | .complete source _ captured truncated =>
      s.Sends r source ∧ captured = (s.received r).take s.inspect.maxBodyBytes.toNat ∧
        truncated = decide (s.inspect.maxBodyBytes.toNat < (s.received r).length)
  | .storing source answer capture => s.Sends r source ∧ s.Records r source answer capture
  | .answered (.ok id) =>
      ∃ p ∈ s.pushed, p.capture.id = id ∧ p.origin.map ReplayOrigin.replay = some r
  | .answered (.error _) | .dropped => True

/-- **The invariant** of the inspector. -/
structure Inv (localPort : UInt16) (maxBodyBytes : UInt64) (s : Inspector) : Prop where
  localPort : s.localPort = localPort
  maxBodyBytes : s.inspect.maxBodyBytes = maxBodyBytes
  maxCaptures : s.inspect.maxCaptures = 100
  queue : s.inspect.captures = s.stored.rtake 100
  stored : s.stored <:+ s.pushed.map Push.capture
  events : s.events = s.pushed.map fun p => .newRequest p.capture
  clean : ∀ p ∈ s.pushed, p.capture.sanitize = p.capture
  sent : ∀ x ∈ s.sent, ∃ source, s.Sends x.1 source ∧ x.2 = source.replayed s.localPort
  sentOnce : (s.sent.map Prod.fst).Nodup
  phases : ∀ r, s.PhaseOk r (s.replays r)
  origins : ∀ p ∈ s.pushed, ∀ o, p.origin = some o →
    s.replays o.replay = .answered (.ok p.capture.id) ∧ s.Sends o.replay o.source ∧
      ∃ capture, p.capture = capture.sanitize ∧ s.Records o.replay o.source o.answer capture
  pushedOnce : (s.pushed.filterMap fun p => p.origin.map ReplayOrigin.replay).Nodup

variable {localPort : UInt16} {maxBodyBytes : UInt64} {s s' : Inspector}

theorem inv_new (localPort : UInt16) (maxBodyBytes : UInt64) :
    Inv localPort maxBodyBytes (new localPort maxBodyBytes) where
  localPort := rfl
  maxBodyBytes := rfl
  maxCaptures := rfl
  queue := List.rtake_nil 100 |>.symm
  stored := List.nil_suffix
  events := rfl
  clean := List.forall_mem_nil _
  sent := List.forall_mem_nil _
  sentOnce := List.nodup_nil
  phases _ := ⟨List.not_mem_nil, rfl⟩
  origins := List.forall_mem_nil _
  pushedOnce := List.nodup_nil

theorem Sends.mono {r : ℕ} {source : CapturedRequest} (h : s.Sends r source)
    (hport : s'.localPort = s.localPort) (hsent : s.sent ⊆ s'.sent)
    (hpushed : s.pushed ⊆ s'.pushed) : s'.Sends r source where
  sent := by
    rw [hport]
    exact hsent h.sent
  whole := h.whole
  pushed := by
    obtain ⟨p, hp, hcapture⟩ := h.pushed
    exact ⟨p, hpushed hp, hcapture⟩

/-- What holds of a replay is not touched by what others do. -/
theorem PhaseOk.frame {r : ℕ} {phase : ReplayPhase} (h : s.PhaseOk r phase)
    (hport : s'.localPort = s.localPort)
    (hmax : s'.inspect.maxBodyBytes = s.inspect.maxBodyBytes)
    (hsent : s.sent ⊆ s'.sent) (hpushed : s.pushed ⊆ s'.pushed)
    (hnew : r ∉ s.sent.map Prod.fst → r ∉ s'.sent.map Prod.fst)
    (hreceived : s'.received r = s.received r) : s'.PhaseOk r phase := by
  cases phase with
  | idle => exact ⟨hnew h.1, hreceived.trans h.2⟩
  | sending source => exact ⟨h.1.mono hport hsent hpushed, hreceived.trans h.2⟩
  | reading source answer captured =>
      refine ⟨h.1.mono hport hsent hpushed, ?_⟩
      rw [hreceived, hmax]
      exact h.2
  | complete source answer captured truncated =>
      refine ⟨h.1.mono hport hsent hpushed, ?_⟩
      rw [hreceived, hmax]
      exact h.2
  | storing source answer capture =>
      refine ⟨h.1.mono hport hsent hpushed, ?_⟩
      rw [Records, hreceived, hmax]
      exact h.2
  | answered result =>
      cases result with
      | error status => trivial
      | ok id =>
          obtain ⟨p, hp, hid, horigin⟩ := h
          exact ⟨p, hpushed hp, hid, horigin⟩
  | dropped => trivial

/-- A step of one replay that stores nothing; `more` is what it sends. -/
structure Advances (s s' : Inspector) (r : ℕ) (phase : ReplayPhase)
    (more : List (ℕ × ReplayedRequest)) : Prop where
  replays : s'.replays = Function.update s.replays r phase
  inspect : s'.inspect = s.inspect
  localPort : s'.localPort = s.localPort
  events : s'.events = s.events
  stored : s'.stored = s.stored
  pushed : s'.pushed = s.pushed
  sent : s'.sent = s.sent ++ more
  received : ∀ r', r' ≠ r → s'.received r' = s.received r'

theorem advances_setReplay (s : Inspector) (r : ℕ) (phase : ReplayPhase) :
    s.Advances (s.setReplay r phase) r phase [] where
  replays := rfl
  inspect := rfl
  localPort := rfl
  events := rfl
  stored := rfl
  pushed := rfl
  sent := (List.append_nil _).symm
  received _ _ := rfl

theorem advances_receive (s : Inspector) (r : ℕ) (chunk : List UInt8) (phase : ReplayPhase) :
    s.Advances ((s.receive r chunk).setReplay r phase) r phase [] where
  replays := rfl
  inspect := rfl
  localPort := rfl
  events := rfl
  stored := rfl
  pushed := rfl
  sent := (List.append_nil _).symm
  received _ hne := Function.update_of_ne hne _ _

theorem received_receive (s : Inspector) (r : ℕ) (chunk : List UInt8) (phase : ReplayPhase) :
    ((s.receive r chunk).setReplay r phase).received r = s.received r ++ chunk := by
  simp only [setReplay, receive, Function.update_self]

/-- **One replay goes on**, and the others are as they were. -/
theorem Inv.advance (h : Inv localPort maxBodyBytes s) {r : ℕ} {phase : ReplayPhase}
    {more : List (ℕ × ReplayedRequest)} (ha : s.Advances s' r phase more)
    (hold : ∀ id, s.replays r ≠ .answered (.ok id))
    (hmore : more = [] ∨ ∃ source, more = [(r, source.replayed s.localPort)] ∧
      s'.Sends r source ∧ r ∉ s.sent.map Prod.fst)
    (hphase : s'.PhaseOk r phase) : Inv localPort maxBodyBytes s' where
  localPort := ha.localPort.trans h.localPort
  maxBodyBytes := by rw [ha.inspect, h.maxBodyBytes]
  maxCaptures := by rw [ha.inspect, h.maxCaptures]
  queue := by rw [ha.inspect, ha.stored, h.queue]
  stored := by
    rw [ha.stored, ha.pushed]
    exact h.stored
  events := by rw [ha.events, ha.pushed, h.events]
  clean := by
    rw [ha.pushed]
    exact h.clean
  sent x hx := by
    rw [ha.sent] at hx
    rcases List.mem_append.1 hx with hx | hx
    · obtain ⟨source, hsends, heq⟩ := h.sent x hx
      rw [ha.localPort]
      have hsends' := hsends.mono ha.localPort (by rw [ha.sent]; simp) (by rw [ha.pushed]; simp)
      exact ⟨source, hsends', heq⟩
    · rcases hmore with rfl | ⟨source, rfl, hsends, -⟩
      · cases hx
      · obtain rfl := List.mem_singleton.1 hx
        exact ⟨source, hsends, by rw [ha.localPort]⟩
  sentOnce := by
    rw [ha.sent]
    rcases hmore with rfl | ⟨source, rfl, -, hfresh⟩
    · rw [List.append_nil]
      exact h.sentOnce
    · rw [List.map_append]
      exact h.sentOnce.append (List.nodup_singleton _) (List.disjoint_singleton.2 hfresh)
  phases r' := by
    rw [ha.replays, Function.update_apply]
    split
    · rename_i heq
      obtain rfl := heq
      exact hphase
    · rename_i hne
      refine (h.phases r').frame ha.localPort (by rw [ha.inspect]) (by rw [ha.sent]; simp)
        (by rw [ha.pushed]; simp) (fun hnot hmem => hnot ?_) (ha.received r' hne)
      rw [ha.sent, List.map_append, List.mem_append] at hmem
      refine hmem.resolve_right fun hmem => hne ?_
      rcases hmore with rfl | ⟨source, rfl, -⟩
      · cases hmem
      · exact List.mem_singleton.1 hmem
  origins p hp o ho := by
    rw [ha.pushed] at hp
    obtain ⟨hanswered, hsends, capture, hcapture, hrecords⟩ := h.origins p hp o ho
    have hne : o.replay ≠ r := by
      intro heq
      rw [heq] at hanswered
      exact hold _ hanswered
    refine ⟨?_, hsends.mono ha.localPort (by rw [ha.sent]; simp) (by rw [ha.pushed]; simp), capture,
      hcapture, ?_⟩
    · rw [ha.replays, Function.update_of_ne hne]
      exact hanswered
    · rw [Records, ha.received _ hne, ha.inspect]
      exact hrecords
  pushedOnce := by
    rw [ha.pushed]
    exact h.pushedOnce

/-- The queue is emptied. -/
theorem Inv.clear (h : Inv localPort maxBodyBytes s) :
    Inv localPort maxBodyBytes
      { s with inspect := { s.inspect with captures := [] }, stored := [] } where
  localPort := h.localPort
  maxBodyBytes := h.maxBodyBytes
  maxCaptures := h.maxCaptures
  queue := (List.rtake_nil 100).symm
  stored := List.nil_suffix
  events := h.events
  clean := h.clean
  sent x hx := by
    obtain ⟨source, hsends, heq⟩ := h.sent x hx
    exact ⟨source, hsends.mono rfl (List.Subset.refl _) (List.Subset.refl _), heq⟩
  sentOnce := h.sentOnce
  phases r := (h.phases r).frame rfl rfl (List.Subset.refl _) (List.Subset.refl _) id rfl
  origins p hp o ho := by
    obtain ⟨hanswered, hsends, hcapture⟩ := h.origins p hp o ho
    exact ⟨hanswered, hsends.mono rfl (List.Subset.refl _) (List.Subset.refl _), hcapture⟩
  pushedOnce := h.pushedOnce

/-- A step that stores a capture: of a bridge, or of the replay `o` that is then over. -/
structure Stores (s s' : Inspector) (capture : CapturedRequest) (origin : Option ReplayOrigin) :
    Prop where
  inspect : s'.inspect = (s.inspect.storeCapture capture).1
  localPort : s'.localPort = s.localPort
  events : s'.events = s.events ++ [.newRequest capture.sanitize]
  stored : s'.stored = s.stored ++ [capture.sanitize]
  pushed : s'.pushed = s.pushed ++ [⟨capture.sanitize, origin⟩]
  sent : s'.sent = s.sent
  received : s'.received = s.received
  replays : ∀ r, (∀ o, origin = some o → o.replay ≠ r) → s'.replays r = s.replays r
  ended : ∀ o, origin = some o → s'.replays o.replay = .answered (.ok capture.id) ∧
    s.replays o.replay = .storing o.source o.answer capture

section

variable {capture : CapturedRequest} {origin : Option ReplayOrigin}
  (hs : s.Stores s' capture origin)
include hs

theorem Stores.sent_subset : s.sent ⊆ s'.sent := by
  rw [hs.sent]
  exact List.Subset.refl _

theorem Stores.pushed_subset : s.pushed ⊆ s'.pushed := by
  rw [hs.pushed]
  exact List.subset_append_left ..

theorem Stores.sends {r : ℕ} {source : CapturedRequest} (h : s.Sends r source) :
    s'.Sends r source :=
  h.mono hs.localPort hs.sent_subset hs.pushed_subset

end

/-- **A capture is stored**, and the oldest makes room for it. -/
theorem Inv.stores {capture : CapturedRequest} {origin : Option ReplayOrigin}
    (h : Inv localPort maxBodyBytes s) (hs : s.Stores s' capture origin) :
    Inv localPort maxBodyBytes s' where
  localPort := hs.localPort.trans h.localPort
  maxBodyBytes := by
    rw [hs.inspect]
    exact h.maxBodyBytes
  maxCaptures := by
    rw [hs.inspect]
    exact h.maxCaptures
  queue := by
    have hpush : s'.inspect.captures = Ring.push 100 s.inspect.captures capture.sanitize := by
      rw [hs.inspect, Ring.push, ← h.maxCaptures]
      rfl
    rw [hpush, h.queue, Ring.push_rtake (by decide), hs.stored]
  stored := by
    obtain ⟨earlier, hearlier⟩ := h.stored
    rw [hs.stored, hs.pushed, List.map_append, ← hearlier, List.append_assoc]
    exact List.suffix_append _ _
  events := by
    rw [hs.events, hs.pushed, List.map_append, ← h.events]
    rfl
  clean p hp := by
    rw [hs.pushed] at hp
    rcases List.mem_append.1 hp with hp | hp
    · exact h.clean p hp
    · obtain rfl := List.mem_singleton.1 hp
      exact capture.sanitize_sanitize
  sent x hx := by
    rw [hs.sent] at hx
    obtain ⟨source, hsends, heq⟩ := h.sent x hx
    rw [hs.localPort]
    exact ⟨source, hs.sends hsends, heq⟩
  sentOnce := by
    rw [hs.sent]
    exact h.sentOnce
  phases r := by
    by_cases hr : ∃ o, origin = some o ∧ o.replay = r
    · obtain ⟨o, rfl, rfl⟩ := hr
      rw [(hs.ended o rfl).1]
      refine ⟨⟨capture.sanitize, some o⟩, ?_, rfl, rfl⟩
      rw [hs.pushed]
      exact List.mem_append_right _ List.mem_cons_self
    · rw [hs.replays r fun o ho heq => hr ⟨o, ho, heq⟩]
      refine (h.phases r).frame hs.localPort (by rw [hs.inspect]; rfl) hs.sent_subset
        hs.pushed_subset (fun hnot => ?_) (by rw [hs.received])
      rwa [hs.sent]
  origins p hp o ho := by
    have hrecords (capture' : CapturedRequest) (h : s.Records o.replay o.source o.answer capture') :
        s'.Records o.replay o.source o.answer capture' := by
      rw [Records, hs.received, hs.inspect]
      exact h
    rw [hs.pushed] at hp
    rcases List.mem_append.1 hp with hp | hp
    · obtain ⟨hanswered, hsends, capture', hcapture, hrecords'⟩ := h.origins p hp o ho
      refine ⟨?_, hs.sends hsends, capture', hcapture, hrecords capture' hrecords'⟩
      rw [hs.replays o.replay fun o' ho' heq => ?_]
      · exact hanswered
      · rw [← heq, (hs.ended o' ho').2] at hanswered
        cases hanswered
    · obtain rfl := List.mem_singleton.1 hp
      have hok := h.phases o.replay
      rw [(hs.ended o ho).2] at hok
      exact ⟨(hs.ended o ho).1, hs.sends hok.1, capture, rfl, hrecords capture hok.2⟩
  pushedOnce := by
    rw [hs.pushed, List.filterMap_append]
    cases horigin : origin with
    | none => simpa using h.pushedOnce
    | some o =>
        refine h.pushedOnce.append (List.nodup_singleton _)
          (List.disjoint_singleton.2 fun hmem => ?_)
        obtain ⟨p, hp, hreplay⟩ := List.mem_filterMap.1 hmem
        obtain ⟨o', ho', heq⟩ := Option.map_eq_some_iff.1 hreplay
        have hanswered := (h.origins p hp o' ho').1
        rw [heq, (hs.ended o horigin).2] at hanswered
        cases hanswered

/-- What is in the queue was pushed. -/
theorem Inv.pushed_of_mem (h : Inv localPort maxBodyBytes s) {capture : CapturedRequest}
    (hmem : capture ∈ s.inspect.captures) : ∃ p ∈ s.pushed, p.capture = capture := by
  rw [h.queue] at hmem
  exact List.mem_map.1 (h.stored.subset (Ring.mem_of_mem_rtake hmem))

theorem Inv.step {a : InspectorAction} (h : Inv localPort maxBodyBytes s)
    (hs : s.step a = some s') : Inv localPort maxBodyBytes s' := by
  cases a with
  | bridge stamp bridge =>
      simp only [Inspector.step] at hs
      split at hs
      · split at hs
        · obtain rfl := Option.some.inj hs
          exact h
        · obtain rfl := Option.some.inj hs
          exact h.stores ⟨rfl, rfl, rfl, rfl, rfl, rfl, rfl, fun _ _ => rfl, nofun⟩
      · cases hs
  | clearRequests =>
      obtain rfl := Option.some.inj hs
      exact h.clear
  | replayRequest r id =>
      simp only [Inspector.step] at hs
      split at hs
      · rename_i hphase
        have hold (id : String) : s.replays r ≠ .answered (.ok id) := by rw [hphase]; exact nofun
        have hidle := h.phases r
        rw [hphase] at hidle
        split at hs
        · obtain rfl := Option.some.inj hs
          exact h.advance (advances_setReplay ..) hold (.inl rfl) trivial
        · rename_i source hfound
          split at hs
          · obtain rfl := Option.some.inj hs
            exact h.advance (advances_setReplay ..) hold (.inl rfl) trivial
          · rename_i hwhole
            obtain rfl := Option.some.inj hs
            have hsends : Sends { s.setReplay r (.sending source) with
                sent := s.sent ++ [(r, source.replayed s.localPort)] } r source :=
              ⟨List.mem_append_right _ List.mem_cons_self, Bool.of_not_eq_true hwhole,
                h.pushed_of_mem (List.mem_of_find?_eq_some hfound)⟩
            refine h.advance ⟨rfl, rfl, rfl, rfl, rfl, rfl, rfl, fun _ _ => rfl⟩ hold
              (.inr ⟨source, rfl, hsends, hidle.1⟩) ⟨hsends, hidle.2⟩
      · cases hs
  | sendFailed r =>
      simp only [Inspector.step] at hs
      split at hs
      · rename_i hphase
        obtain rfl := Option.some.inj hs
        refine h.advance (advances_setReplay ..) (fun id => ?_) (.inl rfl) trivial
        rw [hphase]
        exact nofun
      · cases hs
  | responded r answer =>
      simp only [Inspector.step] at hs
      split at hs
      · rename_i source hphase
        obtain rfl := Option.some.inj hs
        have hok := h.phases r
        rw [hphase] at hok
        refine h.advance (advances_setReplay ..) (fun id => ?_) (.inl rfl)
          ⟨⟨hok.1.sent, hok.1.whole, hok.1.pushed⟩, hok.2.symm, Nat.zero_le _⟩
        rw [hphase]
        exact nofun
      · cases hs
  | chunk r chunk =>
      simp only [Inspector.step] at hs
      split at hs
      · rename_i source answer captured hphase
        have hold (id : String) : s.replays r ≠ .answered (.ok id) := by rw [hphase]; exact nofun
        have hok := h.phases r
        rw [hphase] at hok
        obtain ⟨hsends, rfl, hroom⟩ := hok
        split at hs
        · rename_i hlong
          obtain rfl := Option.some.inj hs
          refine h.advance (advances_receive ..) hold (.inl rfl)
            ⟨⟨hsends.sent, hsends.whole, hsends.pushed⟩, ?_, ?_⟩
          · rw [received_receive]
            exact append_keptOf hroom chunk
          · rw [received_receive]
            exact (decide_eq_true ((length_keptOf_lt hroom).1 hlong)).symm
        · rename_i hshort
          obtain rfl := Option.some.inj hs
          have hfits := Nat.not_lt.1 (mt (length_keptOf_lt hroom).2 hshort)
          have hkept := append_keptOf hroom chunk
          rw [List.take_of_length_le hfits] at hkept
          refine h.advance (advances_receive ..) hold (.inl rfl)
            ⟨⟨hsends.sent, hsends.whole, hsends.pushed⟩, ?_, ?_⟩
          · rw [received_receive]
            exact hkept
          · rw [hkept]
            exact hfits
      · cases hs
  | chunkFailed r =>
      simp only [Inspector.step] at hs
      split at hs
      · rename_i hphase
        obtain rfl := Option.some.inj hs
        refine h.advance (advances_setReplay ..) (fun id => ?_) (.inl rfl) trivial
        rw [hphase]
        exact nofun
      · cases hs
  | endOfBody r =>
      simp only [Inspector.step] at hs
      split at hs
      · rename_i source answer captured hphase
        obtain rfl := Option.some.inj hs
        have hok := h.phases r
        rw [hphase] at hok
        obtain ⟨hsends, rfl, hroom⟩ := hok
        refine h.advance (advances_setReplay ..) (fun id => ?_) (.inl rfl)
          ⟨⟨hsends.sent, hsends.whole, hsends.pushed⟩, (List.take_of_length_le hroom).symm, ?_⟩
        · rw [hphase]
          exact nofun
        · exact (decide_eq_false (Nat.not_lt.2 hroom)).symm
      · cases hs
  | finish r newId capturedAt =>
      simp only [Inspector.step] at hs
      split at hs
      · rename_i source answer captured truncated hphase
        obtain rfl := Option.some.inj hs
        have hok := h.phases r
        rw [hphase] at hok
        obtain ⟨hsends, rfl, rfl⟩ := hok
        refine h.advance (advances_setReplay ..) (fun id => ?_) (.inl rfl)
          ⟨⟨hsends.sent, hsends.whole, hsends.pushed⟩, capturedAt, rfl⟩
        rw [hphase]
        exact nofun
      · cases hs
  | storeCapture r =>
      simp only [Inspector.step] at hs
      split at hs
      · rename_i source answer capture hphase
        obtain rfl := Option.some.inj hs
        have hstores : s.Stores ((s.push capture (some ⟨r, source, answer⟩)).setReplay r
            (.answered (.ok capture.id))) capture (some ⟨r, source, answer⟩) := by
          refine ⟨rfl, rfl, rfl, rfl, rfl, rfl, rfl, fun r' hne => ?_, fun o ho => ?_⟩
          · exact Function.update_of_ne (hne _ rfl).symm _ _
          · obtain rfl := Option.some.inj ho
            exact ⟨Function.update_self .., hphase⟩
        exact h.stores hstores
      · cases hs
  | drop r =>
      simp only [Inspector.step] at hs
      split at hs
      · cases hs
      · cases hs
      · cases hs
      · rename_i hidle hanswered hdropped
        obtain rfl := Option.some.inj hs
        exact h.advance (advances_setReplay ..) (fun id => hanswered (.ok id)) (.inl rfl) trivial

theorem inv_of_reachable (r : (machine localPort maxBodyBytes).Reachable s) :
    Inv localPort maxBodyBytes s :=
  r.invariant (fun s hs => by
    obtain rfl : s = new localPort maxBodyBytes := hs
    exact inv_new localPort maxBodyBytes) fun _ _ _ _ h _ hs => h.step hs

/-! ### What is shown and sent -/

theorem listRequests_perm (captures : List CapturedRequest) :
    (listRequests captures).Perm captures :=
  List.mergeSort_perm _ _

/-- The newest comes first. -/
theorem pairwise_listRequests (captures : List CapturedRequest) :
    (listRequests captures).Pairwise fun a b => b.capturedAt ≤ a.capturedAt := by
  have htrans (a b c : CapturedRequest) (hab : decide (b.capturedAt ≤ a.capturedAt) = true)
      (hbc : decide (c.capturedAt ≤ b.capturedAt) = true) :
      decide (c.capturedAt ≤ a.capturedAt) = true :=
    decide_eq_true ((of_decide_eq_true hbc).trans (of_decide_eq_true hab))
  have htotal (a b : CapturedRequest) :
      (decide (b.capturedAt ≤ a.capturedAt) || decide (a.capturedAt ≤ b.capturedAt)) = true := by
    rw [Bool.or_eq_true, decide_eq_true_eq, decide_eq_true_eq]
    exact Nat.le_total ..
  exact (List.pairwise_mergeSort htrans htotal captures).imp of_decide_eq_true

/-- No secret and no `Host` is sent again. -/
theorem headers_replayed (capture : CapturedRequest) (localPort : UInt16) :
    ∀ header ∈ (capture.replayed localPort).headers,
      isSensitiveHeader header.1 = false ∧ Text.eqIgnoreAsciiCase header.1 "host" = false := by
  intro header hmem
  obtain ⟨hkept, hhost⟩ := List.mem_filter.1 hmem
  exact ⟨by simpa using (List.mem_filter.1 hkept).2, by simpa using hhost⟩

/-- What the capture of a replay holds when it is stored. -/
structure Recorded (s : Inspector) (p : Push) (o : ReplayOrigin) : Prop where
  answered : s.replays o.replay = .answered (.ok p.capture.id)
  sent : (o.replay, o.source.replayed s.localPort) ∈ s.sent
  again : p.capture.replayed s.localPort = o.source.replayed s.localPort
  whole : p.capture.reqBodyTruncated = false
  status : p.capture.respStatus = some o.answer.status
  headers : p.capture.respHeaders = some (sanitizeHeaders o.answer.respHeaders)
  body : p.capture.respBody.getD [] = (s.received o.replay).take s.inspect.maxBodyBytes.toNat
  truncated : p.capture.respBodyTruncated = true ↔
    s.inspect.maxBodyBytes.toNat < (s.received o.replay).length

/-- A capture that is replayed sends what its source sent. -/
theorem replayed_replayCapture (source : CapturedRequest) (answer : ReplayAnswer)
    (captured : List UInt8) (truncated : Bool) (newId : String) (capturedAt : ℕ)
    (localPort : UInt16) :
    (replayCapture source answer captured truncated newId capturedAt).sanitize.replayed localPort =
      source.replayed localPort := by
  simp only [CapturedRequest.replayed, CapturedRequest.sanitize, replayCapture,
    sanitizeHeaders_idem]

theorem respBody_replayCapture (source : CapturedRequest) (answer : ReplayAnswer)
    (captured : List UInt8) (truncated : Bool) (newId : String) (capturedAt : ℕ) :
    (replayCapture source answer captured truncated newId capturedAt).sanitize.respBody.getD [] =
      captured := by
  show (if captured.isEmpty then none else some captured).getD [] = captured
  cases captured <;> rfl

theorem Inv.recorded (h : Inv localPort maxBodyBytes s) {p : Push} (hp : p ∈ s.pushed)
    {o : ReplayOrigin} (ho : p.origin = some o) : s.Recorded p o := by
  obtain ⟨hanswered, hsends, capture, hcapture, capturedAt, hrecords⟩ := h.origins p hp o ho
  rw [hrecords] at hcapture
  refine ⟨hanswered, hsends.sent, ?_, ?_, ?_, ?_, ?_, ?_⟩
  · rw [hcapture]
    exact replayed_replayCapture ..
  · rw [hcapture]
    rfl
  · rw [hcapture]
    rfl
  · rw [hcapture]
    rfl
  · rw [hcapture]
    exact respBody_replayCapture ..
  · rw [hcapture]
    exact decide_eq_true_iff

/-- A request with a cookie. -/
def cookieRequest : ByteStream UInt8 :=
  ⟨[Text.utf8 "GET /a HTTP/1.1\r\nAccept: t\r\nCookie: c\r\n\r\n"], .eof, by decide +kernel⟩

theorem isSome_copies : ((Bridge.machine cookieRequest ⟨[], .eof, nofun⟩ 2).run
    ⟨.new cookieRequest 2, .new ⟨[], .eof, nofun⟩ 2⟩
    [(.request, .read), (.request, .accept 41), (.request, .read), (.request, .shutdown),
      (.response, .read), (.response, .shutdown)]).isSome = true := by
  decide +kernel

/-- The request is captured and replayed; the answer is longer than what is kept of it. -/
def replaysOnce : List InspectorAction :=
  [.bridge ⟨"a", 5, 1⟩ (Option.get _ isSome_copies), .replayRequest 0 "a",
    .responded 0 ⟨200, .new, 3⟩, .chunk 0 [1], .chunk 0 [2, 3], .finish 0 "b" 9, .storeCapture 0]

theorem isSome_replaysOnce :
    ((machine 80 2).run (new 80 2) replaysOnce).isSome = true := by
  decide +kernel

/-- The inspector behind it. -/
def replayedOnce : Inspector :=
  Option.get _ isSome_replaysOnce

theorem reachable_replayedOnce : (machine 80 2).Reachable replayedOnce :=
  Machine.reachable_get (.init rfl) isSome_replaysOnce

end Inspector

end Rgrok
