/-
# Matching data streams to requests

`request_proxy_stream` in `crates/rgrok-server/src/proxy.rs`,
`handle_proxy_data_stream` and `resolve_pending_stream` in `control.rs`, and
`ConnectionStreamState` in `tunnel_manager.rs`.

A public request draws an id from the connection its tunnel belongs to, leaves
the sender of a oneshot channel under that id in the connection's pending map,
and asks the client for a stream.  A stream that the client opens begins with
an id of the client's choice, and goes to the sender found under it.

The state has every request and every inbound stream, numbered; a pending
entry is the number of the request whose sender it holds.  `streamOpens` and
`deliveries` record the `StreamOpen`s queued for a request and the sends into a
oneshot channel that succeeded; no step reads them.
-/

import Rgrok.Lib.BigEndian
import Rgrok.Lib.Custody
import Rgrok.Lib.Machine
import Rgrok.Server.TunnelManager

namespace Rgrok

/-- The local variables of `request_proxy_stream`. -/
structure Ticket where
  session : TunnelSession
  correlationId : UInt32
deriving DecidableEq

/-- The `StreamOpen` of a request. -/
def Ticket.streamOpen (t : Ticket) : ServerMsg :=
  .streamOpen t.correlationId t.session.id

/-- Where `request_proxy_stream` stands: the id drawn, the entry inserted, the
`StreamOpen` queued, and on the two failure paths before the entry is removed. -/
inductive RequestPhase
  | idle
  | drawn (t : Ticket)
  | sending (t : Ticket)
  | waiting (t : Ticket)
  | failed (t : Ticket)
  | expired (t : Ticket)
  | done (t : Ticket) (stream : Option ℕ)
deriving DecidableEq

/-- What the request keeps, once it drew an id. -/
def RequestPhase.ticket : RequestPhase → Option Ticket
  | .idle => none
  | .drawn t | .sending t | .waiting t | .failed t | .expired t | .done t _ => some t

/-- What the request keeps, once its entry was inserted. -/
def RequestPhase.posted : RequestPhase → Option Ticket
  | .idle | .drawn _ => none
  | .sending t | .waiting t | .failed t | .expired t | .done t _ => some t

/-- Whether the receiver of the oneshot channel still exists. -/
def RequestPhase.listening : RequestPhase → Bool
  | .drawn _ | .sending _ | .waiting _ | .failed _ | .expired _ => true
  | .idle | .done _ _ => false

/-- Where `handle_proxy_data_stream` stands: reading the id, between taking the
sender out of the map and using it, or over. -/
inductive StreamPhase
  | absent
  | reading (conn : ℕ) (bytes : List UInt8)
  | resolved (conn : ℕ) (bytes : List UInt8) (request : ℕ)
  | sent (conn : ℕ) (bytes : List UInt8) (request : ℕ)
  | dropped
deriving DecidableEq

/-- The request whose sender the task has in hand. -/
def StreamPhase.sender : StreamPhase → Option ℕ
  | .resolved _ _ r => some r
  | .absent | .reading _ _ | .sent _ _ _ | .dropped => none

/-- The `ConnectionStreamState` of every connection, with all requests and all
inbound streams. -/
structure Correlation where
  nextCorrelationId : ℕ → UInt32
  pendingStreams : ℕ → AList fun _ : UInt32 => ℕ
  request : ℕ → RequestPhase
  stream : ℕ → StreamPhase
  oneshot : ℕ → Option ℕ
  streamOpens : List (ℕ × ServerMsg)
  deliveries : List (ℕ × ℕ)

namespace Correlation

/-- `ConnectionStreamState::new` for every connection. -/
def new : Correlation where
  nextCorrelationId := fun _ => 1
  pendingStreams := fun _ => ∅
  request := fun _ => .idle
  stream := fun _ => .absent
  oneshot := fun _ => none
  streamOpens := []
  deliveries := []

def setRequest (s : Correlation) (r : ℕ) (ph : RequestPhase) : Correlation :=
  { s with request := Function.update s.request r ph }

def setStream (s : Correlation) (d : ℕ) (ph : StreamPhase) : Correlation :=
  { s with stream := Function.update s.stream d ph }

/-- `pending_streams.insert`. -/
def insertPending (s : Correlation) (c : ℕ) (id : UInt32) (r : ℕ) : Correlation :=
  { s with
    pendingStreams := Function.update s.pendingStreams c ((s.pendingStreams c).insert id r) }

/-- `pending_streams.remove`. -/
def removePending (s : Correlation) (c : ℕ) (id : UInt32) : Correlation :=
  { s with pendingStreams := Function.update s.pendingStreams c ((s.pendingStreams c).erase id) }

/-! ### `request_proxy_stream` -/

/-- `next_correlation_id`: the counter wraps. -/
def draw (s : Correlation) (r : ℕ) (session : TunnelSession) : Option Correlation :=
  match s.request r with
  | .idle =>
      let id := s.nextCorrelationId session.conn
      some { s.setRequest r (.drawn { session := session, correlationId := id }) with
        nextCorrelationId := Function.update s.nextCorrelationId session.conn (id + 1) }
  | _ => none

/-- The sender is inserted; it replaces one left under the same id. -/
def insert (s : Correlation) (r : ℕ) : Option Correlation :=
  match s.request r with
  | .drawn t => some ((s.setRequest r (.sending t)).insertPending t.session.conn t.correlationId r)
  | _ => none

/-- The `StreamOpen` is queued. -/
def send (s : Correlation) (r : ℕ) : Option Correlation :=
  match s.request r with
  | .sending t =>
      some { s.setRequest r (.waiting t) with streamOpens := (r, t.streamOpen) :: s.streamOpens }
  | _ => none

/-- The control channel is closed. -/
def sendFailed (s : Correlation) (r : ℕ) : Option Correlation :=
  match s.request r with
  | .sending t => some (s.setRequest r (.failed t))
  | _ => none

/-- The stream arrived in the oneshot channel. -/
def receive (s : Correlation) (r : ℕ) : Option Correlation :=
  match s.request r, s.oneshot r with
  | .waiting t, some d => some (s.setRequest r (.done t (some d)))
  | _, _ => none

/-- The ten seconds are over, or the sender was dropped. -/
def expire (s : Correlation) (r : ℕ) : Option Correlation :=
  match s.request r with
  | .waiting t => some (s.setRequest r (.expired t))
  | _ => none

/-- Both failure paths remove whatever entry stands under the id. -/
def remove (s : Correlation) (r : ℕ) : Option Correlation :=
  match s.request r with
  | .failed t | .expired t =>
      some ((s.setRequest r (.done t none)).removePending t.session.conn t.correlationId)
  | _ => none

/-- The request is dropped at one of its two await points. -/
def abandon (s : Correlation) (r : ℕ) : Option Correlation :=
  match s.request r with
  | .sending t | .waiting t => some (s.setRequest r (.done t none))
  | _ => none

/-! ### `handle_proxy_data_stream` -/

/-- The client of the connection `c` opens a stream. -/
def arrive (s : Correlation) (d c : ℕ) : Option Correlation :=
  match s.stream d with
  | .absent => some (s.setStream d (.reading c []))
  | _ => none

/-- `read_exact` takes a byte of the id. -/
def readByte (s : Correlation) (d : ℕ) (b : UInt8) : Option Correlation :=
  match s.stream d with
  | .reading c bytes =>
      if bytes.length < 4 then some (s.setStream d (.reading c (bytes ++ [b]))) else none
  | _ => none

/-- `pending_streams.remove(&correlation_id)` in `resolve_pending_stream`. -/
def resolve (s : Correlation) (d : ℕ) : Option Correlation :=
  match s.stream d with
  | .reading c bytes =>
      if bytes.length = 4 then
        let id := UInt32.ofBeBytes bytes
        match (s.pendingStreams c).lookup id with
        | some r => some ((s.removePending c id).setStream d (.resolved c bytes r))
        | none => some (s.setStream d .dropped)
      else
        none
  | _ => none

/-- `tx.send(stream)` succeeds when the receiver still exists. -/
def deliver (s : Correlation) (d : ℕ) : Option Correlation :=
  match s.stream d with
  | .resolved c bytes r =>
      if (s.request r).listening then
        some { s.setStream d (.sent c bytes r) with
          oneshot := Function.update s.oneshot r (some d)
          deliveries := (d, r) :: s.deliveries }
      else
        some (s.setStream d .dropped)
  | _ => none

/-- The id did not come within five seconds, or the stream ended. -/
def giveUp (s : Correlation) (d : ℕ) : Option Correlation :=
  match s.stream d with
  | .reading _ _ => some (s.setStream d .dropped)
  | _ => none

/-- A step of a request or of an inbound stream. -/
inductive Action
  | draw (r : ℕ) (session : TunnelSession)
  | insert (r : ℕ)
  | send (r : ℕ)
  | sendFailed (r : ℕ)
  | receive (r : ℕ)
  | expire (r : ℕ)
  | remove (r : ℕ)
  | abandon (r : ℕ)
  | arrive (d c : ℕ)
  | readByte (d : ℕ) (b : UInt8)
  | resolve (d : ℕ)
  | deliver (d : ℕ)
  | giveUp (d : ℕ)

def step (s : Correlation) : Action → Option Correlation
  | .draw r session => s.draw r session
  | .insert r => s.insert r
  | .send r => s.send r
  | .sendFailed r => s.sendFailed r
  | .receive r => s.receive r
  | .expire r => s.expire r
  | .remove r => s.remove r
  | .abandon r => s.abandon r
  | .arrive d c => s.arrive d c
  | .readByte d b => s.readByte d b
  | .resolve d => s.resolve d
  | .deliver d => s.deliver d
  | .giveUp d => s.giveUp d

/-- All interleavings of any number of requests and streams, on any number of
connections, with any bytes in the streams. -/
def machine : Machine Correlation Action where
  init s := s = new
  step := step

/-- A request keeps its tunnel from the draw on. -/
theorem step_ticket {s s' : Correlation} {a : Action} {r : ℕ} {t : Ticket}
    (hs : s.step a = some s') (ht : (s'.request r).ticket = some t) :
    (s.request r).ticket = some t ∨ a = .draw r t.session := by
  have keep {r' : ℕ} {old new : RequestPhase} (hold : s.request r' = old)
      (hr : (Function.update s.request r' new r).ticket = some t)
      (hnew : new.ticket = old.ticket) : (s.request r).ticket = some t := by
    by_cases he : r = r'
    · subst he
      rw [Function.update_self] at hr
      rw [hold, ← hnew]
      exact hr
    · rwa [Function.update_of_ne he] at hr
  cases a with
  | draw r' session =>
      simp only [step, draw] at hs
      split at hs
      · obtain rfl := Option.some.inj hs
        by_cases he : r = r'
        · subst he
          simp only [setRequest, Function.update_self, RequestPhase.ticket,
            Option.some.injEq] at ht
          subst ht
          exact Or.inr rfl
        · simp only [setRequest, Function.update_of_ne he] at ht
          exact Or.inl ht
      · cases hs
  | insert r' | send r' | sendFailed r' | expire r' =>
      simp only [step, insert, send, sendFailed, expire] at hs
      split at hs
      · rename_i t' hph
        obtain rfl := Option.some.inj hs
        exact Or.inl (keep hph ht rfl)
      · cases hs
  | receive r' =>
      simp only [step, receive] at hs
      split at hs
      · rename_i t' d hph hd
        obtain rfl := Option.some.inj hs
        exact Or.inl (keep hph ht rfl)
      · cases hs
  | remove r' | abandon r' =>
      simp only [step, remove, abandon] at hs
      split at hs
      case h_3 => cases hs
      all_goals
        rename_i t' hph
        obtain rfl := Option.some.inj hs
        exact Or.inl (keep hph ht rfl)
  | arrive d c | giveUp d =>
      simp only [step, arrive, giveUp] at hs
      split at hs
      · obtain rfl := Option.some.inj hs
        exact Or.inl ht
      · cases hs
  | readByte d b =>
      simp only [step, readByte] at hs
      split at hs
      · split_ifs at hs
        obtain rfl := Option.some.inj hs
        exact Or.inl ht
      · cases hs
  | resolve d =>
      simp only [step, resolve] at hs
      split at hs
      · split_ifs at hs
        split at hs <;>
          · obtain rfl := Option.some.inj hs
            exact Or.inl ht
      · cases hs
  | deliver d =>
      simp only [step, deliver] at hs
      split at hs
      · split_ifs at hs <;>
          · obtain rfl := Option.some.inj hs
            exact Or.inl ht
      · cases hs

/-! ### Who has a request's sender -/

/-- The sender in a pending entry, or in the hands of the task of a stream. -/
def sender (s : Correlation) : (ℕ × UInt32) ⊕ ℕ → Option ℕ
  | .inl (c, id) => (s.pendingStreams c).lookup id
  | .inr d => (s.stream d).sender

variable {s s' : Correlation} {r d c : ℕ} {id : UInt32} {t : Ticket}

@[simp] theorem sender_setRequest (ph : RequestPhase) : (s.setRequest r ph).sender = s.sender :=
  rfl

theorem sender_insertPending :
    (s.insertPending c id r).sender = Function.update s.sender (.inl (c, id)) (some r) := by
  funext p
  rcases p with ⟨c', id'⟩ | d
  · by_cases hc : c' = c
    · subst hc
      simp only [sender, insertPending, Function.update_self, AList.lookup_insert_ite,
        Function.update_apply, Sum.inl.injEq, Prod.mk.injEq, true_and]
    · have hne : (Sum.inl (c', id') : (ℕ × UInt32) ⊕ ℕ) ≠ .inl (c, id) := by simp [hc]
      rw [Function.update_of_ne hne]
      simp only [sender, insertPending, Function.update_of_ne hc]
  · rfl

theorem sender_removePending :
    (s.removePending c id).sender = Function.update s.sender (.inl (c, id)) none := by
  funext p
  rcases p with ⟨c', id'⟩ | d
  · by_cases hc : c' = c
    · subst hc
      simp only [sender, removePending, Function.update_self, AList.lookup_erase_ite,
        Function.update_apply, Sum.inl.injEq, Prod.mk.injEq, true_and]
    · have hne : (Sum.inl (c', id') : (ℕ × UInt32) ⊕ ℕ) ≠ .inl (c, id) := by simp [hc]
      rw [Function.update_of_ne hne]
      simp only [sender, removePending, Function.update_of_ne hc]
  · rfl

theorem sender_setStream (ph : StreamPhase) :
    (s.setStream d ph).sender = Function.update s.sender (.inr d) ph.sender := by
  funext p
  rcases p with ⟨c, id⟩ | d'
  · rfl
  · by_cases hd : d' = d
    · subst hd
      simp only [sender, setStream, Function.update_self]
    · have hne : (Sum.inr d' : (ℕ × UInt32) ⊕ ℕ) ≠ .inr d := by simp [hd]
      rw [Function.update_of_ne hne]
      simp only [sender, setStream, Function.update_of_ne hd]

/-! ### The invariant -/

/-- The request `r` inserted its sender under `id` on the connection `c`. -/
def Posted (s : Correlation) (r c : ℕ) (id : UInt32) : Prop :=
  ∃ t, (s.request r).posted = some t ∧ t.session.conn = c ∧ t.correlationId = id

/-- A sender is in one place, stands where its request put it, and is used at
most once. -/
structure Inv (s : Correlation) : Prop where
  senders : Exclusive s.sender
  pending : ∀ c id r, (s.pendingStreams c).lookup id = some r → s.Posted r c id
  resolved : ∀ d c bytes r, s.stream d = .resolved c bytes r →
    bytes.length = 4 ∧ s.Posted r c (UInt32.ofBeBytes bytes)
  unused : ∀ p r, s.sender p = some r → r ∉ s.deliveries.map Prod.snd
  sent : ∀ d r, (d, r) ∈ s.deliveries → ∃ c bytes, s.stream d = .sent c bytes r ∧
    bytes.length = 4 ∧ s.Posted r c (UInt32.ofBeBytes bytes)
  streams_nodup : (s.deliveries.map Prod.fst).Nodup
  requests_nodup : (s.deliveries.map Prod.snd).Nodup
  oneshot : ∀ r d, s.oneshot r = some d → (d, r) ∈ s.deliveries
  waiting : ∀ r t, s.request r = .waiting t → (r, t.streamOpen) ∈ s.streamOpens
  received : ∀ r t d, s.request r = .done t (some d) →
    (d, r) ∈ s.deliveries ∧ (r, t.streamOpen) ∈ s.streamOpens
  opens : ∀ r msg, (r, msg) ∈ s.streamOpens →
    ∃ t, (s.request r).posted = some t ∧ msg = t.streamOpen

theorem inv_new : new.Inv where
  senders p q r hp := by
    rcases p with ⟨c, id⟩ | d
    · simp [sender, new] at hp
    · cases hp
  pending c id r h := by simp [new] at h
  resolved d c bytes r h := by cases h
  unused _ r _ h := by cases h
  sent d r h := by cases h
  streams_nodup := List.nodup_nil
  requests_nodup := List.nodup_nil
  oneshot r d h := by cases h
  waiting r t h := by cases h
  received r t d h := by cases h
  opens r msg h := by cases h

namespace Inv

/-- Somebody has the sender only after the request inserted it. -/
theorem posted_of_sender (h : s.Inv) {p : (ℕ × UInt32) ⊕ ℕ} (hp : s.sender p = some r) :
    (s.request r).posted ≠ none := by
  intro hnone
  have hposted : ∃ c id, s.Posted r c id := by
    rcases p with ⟨c, id⟩ | d
    · exact ⟨c, id, h.pending c id r hp⟩
    · have hd : (s.stream d).sender = some r := hp
      cases hph : s.stream d with
      | resolved c bytes r' =>
          rw [hph] at hd
          obtain rfl := Option.some.inj hd
          exact ⟨c, _, (h.resolved d c bytes r' hph).2⟩
      | absent | reading | sent | dropped =>
          rw [hph] at hd
          cases hd
  obtain ⟨c, id, t, ht, -, -⟩ := hposted
  rw [hnone] at ht
  cases ht

/-- A request moves on, and keeps what it posted. -/
theorem setRequest (h : s.Inv) {ph : RequestPhase}
    (hp : ∀ t, (s.request r).posted = some t → ph.posted = some t)
    (hw : ∀ t, ph = .waiting t → (r, t.streamOpen) ∈ s.streamOpens)
    (hr : ∀ t d, ph = .done t (some d) →
      (d, r) ∈ s.deliveries ∧ (r, t.streamOpen) ∈ s.streamOpens) :
    (s.setRequest r ph).Inv := by
  have posted : ∀ q t, (s.request q).posted = some t →
      ((s.setRequest r ph).request q).posted = some t := by
    intro q t ht
    by_cases hq : q = r
    · subst hq
      simp only [Correlation.setRequest, Function.update_self]
      exact hp t ht
    · simp only [Correlation.setRequest, Function.update_of_ne hq]
      exact ht
  have lift : ∀ q c id, s.Posted q c id → (s.setRequest r ph).Posted q c id :=
    fun q c id ⟨t, ht, hc, hid⟩ => ⟨t, posted q t ht, hc, hid⟩
  refine
    { senders := h.senders
      pending := fun c id q hq => lift q c id (h.pending c id q hq)
      resolved := fun d c bytes q hd => (h.resolved d c bytes q hd).imp_right (lift q c _)
      unused := h.unused
      sent := fun d q hdq => ?_
      streams_nodup := h.streams_nodup
      requests_nodup := h.requests_nodup
      oneshot := h.oneshot
      waiting := fun q t hq => ?_
      received := fun q t d hq => ?_
      opens := fun q msg hm => ?_ }
  · obtain ⟨c, bytes, hs, hlen, hposted⟩ := h.sent d q hdq
    exact ⟨c, bytes, hs, hlen, lift q c _ hposted⟩
  · by_cases hqr : q = r
    · subst hqr
      simp only [Correlation.setRequest, Function.update_self] at hq
      exact hw t hq
    · simp only [Correlation.setRequest, Function.update_of_ne hqr] at hq
      exact h.waiting q t hq
  · by_cases hqr : q = r
    · subst hqr
      simp only [Correlation.setRequest, Function.update_self] at hq
      exact hr t d hq
    · simp only [Correlation.setRequest, Function.update_of_ne hqr] at hq
      exact h.received q t d hq
  · obtain ⟨t, ht, rfl⟩ := h.opens q msg hm
    exact ⟨t, posted q t ht, rfl⟩

/-- A sender is left under its request's id. -/
theorem insertPending (h : s.Inv) (hposted : s.Posted r c id) (hfree : ∀ p, s.sender p ≠ some r)
    (hunused : r ∉ s.deliveries.map Prod.snd) : (s.insertPending c id r).Inv := by
  refine { h with senders := ?_, pending := fun c' id' q hq => ?_, unused := fun p q hq => ?_ }
  · rw [sender_insertPending]
    exact h.senders.update_some fun q _ => hfree q
  · have hq' : (s.insertPending c id r).sender (.inl (c', id')) = some q := hq
    rw [sender_insertPending, update_eq_some] at hq'
    rcases hq' with ⟨hk, hr⟩ | ⟨-, hold⟩
    · obtain ⟨rfl, rfl⟩ := Prod.mk.inj (Sum.inl.inj hk)
      obtain rfl := Option.some.inj hr
      exact hposted
    · exact h.pending c' id' q hold
  · rw [sender_insertPending, update_eq_some] at hq
    rcases hq with ⟨-, hr⟩ | ⟨-, hold⟩
    · obtain rfl := Option.some.inj hr
      exact hunused
    · exact h.unused p q hold

/-- An entry is removed and its sender, if there is one, dropped. -/
theorem removePending (h : s.Inv) (c : ℕ) (id : UInt32) : (s.removePending c id).Inv := by
  have old : ∀ {p q}, (s.removePending c id).sender p = some q → s.sender p = some q := by
    intro p q hq
    rw [sender_removePending, update_eq_some] at hq
    rcases hq with ⟨-, hnone⟩ | ⟨-, hold⟩
    · cases hnone
    · exact hold
  refine { h with
    senders := ?_
    pending := fun c' id' q hq => h.pending c' id' q (old (p := .inl (c', id')) hq)
    unused := fun p q hq => h.unused p q (old hq) }
  rw [sender_removePending]
  exact h.senders.update_none _

/-- A stream that was not delivered goes on without a sender. -/
theorem setStream (h : s.Inv) {ph : StreamPhase} (hph : ph.sender = none)
    (hd : ∀ c bytes r, s.stream d ≠ .sent c bytes r) : (s.setStream d ph).Inv := by
  have hsender : (s.setStream d ph).sender = Function.update s.sender (.inr d) none := by
    rw [sender_setStream, hph]
  refine { h with
    senders := ?_
    resolved := fun d' c bytes q hq => ?_
    unused := fun p q hq => ?_
    sent := fun d' q hdq => ?_ }
  · rw [hsender]
    exact h.senders.update_none _
  · by_cases hdd : d' = d
    · subst hdd
      simp only [Correlation.setStream, Function.update_self] at hq
      rw [hq] at hph
      cases hph
    · simp only [Correlation.setStream, Function.update_of_ne hdd] at hq
      exact h.resolved d' c bytes q hq
  · rw [hsender, update_eq_some] at hq
    rcases hq with ⟨-, hnone⟩ | ⟨-, hold⟩
    · cases hnone
    · exact h.unused p q hold
  · obtain ⟨c, bytes, hs, hrest⟩ := h.sent d' q hdq
    refine ⟨c, bytes, ?_, hrest⟩
    have hdd : d' ≠ d := by
      rintro rfl
      exact hd c bytes q hs
    simp only [Correlation.setStream, Function.update_of_ne hdd]
    exact hs

/-- The task of a stream takes a sender out of the map. -/
theorem resolve (h : s.Inv) {bytes : List UInt8} (hd : s.stream d = .reading c bytes)
    (hlen : bytes.length = 4)
    (hr : (s.pendingStreams c).lookup (UInt32.ofBeBytes bytes) = some r) :
    ((s.removePending c (UInt32.ofBeBytes bytes)).setStream d (.resolved c bytes r)).Inv := by
  have hheld : s.sender (.inl (c, UInt32.ofBeBytes bytes)) = some r := hr
  have hsender : ((s.removePending c (UInt32.ofBeBytes bytes)).setStream d
      (.resolved c bytes r)).sender =
        Function.update (Function.update s.sender (.inl (c, UInt32.ofBeBytes bytes)) none)
          (.inr d) (some r) := by
    rw [sender_setStream, sender_removePending]
    rfl
  have h' := h.removePending c (UInt32.ofBeBytes bytes)
  refine { h' with
    senders := ?_
    resolved := fun d' c' bytes' q hq => ?_
    unused := fun p q hq => ?_
    sent := fun d' q hdq => ?_ }
  · rw [hsender]
    exact h.senders.update_move hheld
  · by_cases hdd : d' = d
    · subst hdd
      simp only [Correlation.setStream, Function.update_self, StreamPhase.resolved.injEq] at hq
      obtain ⟨rfl, rfl, rfl⟩ := hq
      exact ⟨hlen, h.pending _ _ _ hr⟩
    · simp only [Correlation.setStream, Function.update_of_ne hdd] at hq
      exact h.resolved d' c' bytes' q hq
  · rw [hsender, update_eq_some] at hq
    rcases hq with ⟨-, hq⟩ | ⟨-, hq⟩
    · obtain rfl := Option.some.inj hq
      exact h.unused _ r hheld
    · rcases update_eq_some.1 hq with ⟨-, hnone⟩ | ⟨-, hold⟩
      · cases hnone
      · exact h.unused p q hold
  · obtain ⟨c', bytes', hs, hrest⟩ := h.sent d' q hdq
    refine ⟨c', bytes', ?_, hrest⟩
    have hdd : d' ≠ d := by
      rintro rfl
      rw [hd] at hs
      cases hs
    simp only [Correlation.setStream, Function.update_of_ne hdd]
    exact hs

/-- The `StreamOpen` of a request is queued. -/
theorem queued (h : s.Inv) (hp : (s.request r).posted = some t) :
    Inv { s with streamOpens := (r, t.streamOpen) :: s.streamOpens } where
  senders := h.senders
  pending := h.pending
  resolved := h.resolved
  unused := h.unused
  sent := h.sent
  streams_nodup := h.streams_nodup
  requests_nodup := h.requests_nodup
  oneshot := h.oneshot
  waiting q u hq := List.mem_cons_of_mem _ (h.waiting q u hq)
  received q u d hq := (h.received q u d hq).imp_right (List.mem_cons_of_mem _)
  opens q msg hm := by
    rcases List.mem_cons.1 hm with heq | hold
    · obtain ⟨rfl, rfl⟩ := Prod.mk.inj heq
      exact ⟨t, hp, rfl⟩
    · exact h.opens q msg hold

/-- The sender in the task's hands is used. -/
theorem deliver (h : s.Inv) {bytes : List UInt8} (hd : s.stream d = .resolved c bytes r) :
    Inv { s.setStream d (.sent c bytes r) with
      oneshot := Function.update s.oneshot r (some d)
      deliveries := (d, r) :: s.deliveries } := by
  have hheld : s.sender (.inr d) = some r := by
    rw [sender, hd]
    rfl
  have hunused : r ∉ s.deliveries.map Prod.snd := h.unused _ r hheld
  have hnew : d ∉ s.deliveries.map Prod.fst := by
    intro hmem
    obtain ⟨⟨d', q⟩, hdq, rfl⟩ := List.mem_map.1 hmem
    obtain ⟨c', bytes', hs, -⟩ := h.sent d' q hdq
    rw [hd] at hs
    cases hs
  have hsender : (s.setStream d (.sent c bytes r)).sender =
      Function.update s.sender (.inr d) none :=
    sender_setStream _
  refine
    { senders := ?_
      pending := h.pending
      resolved := fun d' c' bytes' q hq => ?_
      unused := fun p q hq => ?_
      sent := fun d' q hdq => ?_
      streams_nodup := List.nodup_cons.2 ⟨hnew, h.streams_nodup⟩
      requests_nodup := List.nodup_cons.2 ⟨hunused, h.requests_nodup⟩
      oneshot := fun q d' hq => ?_
      waiting := h.waiting
      received := fun q t d' hq => (h.received q t d' hq).imp_left (List.mem_cons_of_mem _)
      opens := h.opens }
  · show Exclusive (s.setStream d (.sent c bytes r)).sender
    rw [hsender]
    exact h.senders.update_none _
  · have hdd : d' ≠ d := by
      rintro rfl
      simp only [Correlation.setStream, Function.update_self] at hq
      cases hq
    simp only [Correlation.setStream, Function.update_of_ne hdd] at hq
    exact h.resolved d' c' bytes' q hq
  · have hq' : (s.setStream d (.sent c bytes r)).sender p = some q := hq
    rw [hsender, update_eq_some] at hq'
    rcases hq' with ⟨-, hnone⟩ | ⟨hp, hold⟩
    · cases hnone
    · refine List.not_mem_cons_of_ne_of_not_mem ?_ (h.unused p q hold)
      rintro rfl
      exact hp (h.senders p _ q hold hheld)
  · rcases List.mem_cons.1 hdq with heq | hdq
    · obtain ⟨rfl, rfl⟩ := Prod.mk.inj heq
      refine ⟨c, bytes, ?_, h.resolved d' c bytes q hd⟩
      simp only [Correlation.setStream, Function.update_self]
    · obtain ⟨c', bytes', hs, hrest⟩ := h.sent d' q hdq
      refine ⟨c', bytes', ?_, hrest⟩
      have hdd : d' ≠ d := by
        rintro rfl
        rw [hd] at hs
        cases hs
      simp only [Correlation.setStream, Function.update_of_ne hdd]
      exact hs
  · rcases update_eq_some.1 hq with ⟨rfl, heq⟩ | ⟨-, hold⟩
    · obtain rfl := Option.some.inj heq
      exact List.mem_cons_self ..
    · exact List.mem_cons_of_mem _ (h.oneshot q d' hold)

/-- Every step of every request and stream keeps the invariant. -/
theorem step {a : Action} (h : s.Inv) (hs : s.step a = some s') : s'.Inv := by
  -- a request that moves on to a phase that is neither waiting nor done
  have moves : ∀ {r ph}, (∀ t, (s.request r).posted = some t → ph.posted = some t) →
      (∀ t, ph ≠ .waiting t) → (∀ t d, ph ≠ .done t (some d)) → (s.setRequest r ph).Inv :=
    fun hp hw hr => h.setRequest hp (fun t ht => absurd ht (hw t)) fun t d ht => absurd ht (hr t d)
  cases a with
  | draw r session =>
      simp only [Correlation.step, draw] at hs
      split at hs
      case h_1 hph =>
        obtain rfl := Option.some.inj hs
        have h' : (s.setRequest r (.drawn
            { session := session, correlationId := s.nextCorrelationId session.conn })).Inv :=
          moves (by simp [hph, RequestPhase.posted]) (by simp) (by simp)
        exact { h' with }
      all_goals cases hs
  | insert r =>
      simp only [Correlation.step, insert] at hs
      split at hs
      case h_1 t hph =>
        obtain rfl := Option.some.inj hs
        have hnone : (s.request r).posted = none := by rw [hph]; rfl
        refine (moves (by simp [hnone]) (by simp) (by simp)).insertPending ?_ (fun p hp => ?_) ?_
        · exact ⟨t, by simp [Correlation.setRequest, RequestPhase.posted], rfl, rfl⟩
        · exact h.posted_of_sender hp hnone
        · intro hmem
          obtain ⟨⟨d, q⟩, hdq, rfl⟩ := List.mem_map.1 hmem
          obtain ⟨-, -, -, -, t', ht', -⟩ := h.sent d q hdq
          rw [hnone] at ht'
          cases ht'
      all_goals cases hs
  | send r =>
      simp only [Correlation.step, send] at hs
      split at hs
      case h_1 t hph =>
        obtain rfl := Option.some.inj hs
        have hp : (s.request r).posted = some t := by rw [hph]; rfl
        refine (h.queued hp).setRequest (fun u hu => ?_) (fun u hu => ?_) fun u d hu => ?_
        · exact hp.symm.trans hu
        · obtain rfl := RequestPhase.waiting.inj hu
          exact List.mem_cons_self ..
        · cases hu
      all_goals cases hs
  | sendFailed r =>
      simp only [Correlation.step, sendFailed] at hs
      split at hs
      case h_1 t hph =>
        obtain rfl := Option.some.inj hs
        exact moves (by simp [hph, RequestPhase.posted]) (by simp) (by simp)
      all_goals cases hs
  | receive r =>
      simp only [Correlation.step, receive] at hs
      split at hs
      case h_1 t d hph ho =>
        obtain rfl := Option.some.inj hs
        refine h.setRequest (fun u hu => ?_) (fun u hu => ?_) fun u d' hu => ?_
        · rwa [hph] at hu
        · cases hu
        · obtain ⟨rfl, hd⟩ := RequestPhase.done.inj hu
          obtain rfl := Option.some.inj hd
          exact ⟨h.oneshot r d ho, h.waiting r t hph⟩
      all_goals cases hs
  | expire r =>
      simp only [Correlation.step, expire] at hs
      split at hs
      case h_1 t hph =>
        obtain rfl := Option.some.inj hs
        exact moves (by simp [hph, RequestPhase.posted]) (by simp) (by simp)
      all_goals cases hs
  | remove r =>
      simp only [Correlation.step, remove] at hs
      split at hs
      case h_3 => cases hs
      all_goals
        rename_i t hph
        obtain rfl := Option.some.inj hs
        exact (moves (by simp [hph, RequestPhase.posted]) (by simp) (by simp)).removePending _ _
  | abandon r =>
      simp only [Correlation.step, abandon] at hs
      split at hs
      case h_3 => cases hs
      all_goals
        rename_i t hph
        obtain rfl := Option.some.inj hs
        exact moves (by simp [hph, RequestPhase.posted]) (by simp) (by simp)
  | arrive d c =>
      simp only [Correlation.step, arrive] at hs
      split at hs
      case h_1 hd =>
        obtain rfl := Option.some.inj hs
        exact h.setStream rfl (by simp [hd])
      all_goals cases hs
  | readByte d b =>
      simp only [Correlation.step, readByte] at hs
      split at hs
      case h_1 c bytes hd =>
        split_ifs at hs
        obtain rfl := Option.some.inj hs
        exact h.setStream rfl (by simp [hd])
      all_goals cases hs
  | resolve d =>
      simp only [Correlation.step, Correlation.resolve] at hs
      split at hs
      case h_1 c bytes hd =>
        split_ifs at hs with hlen
        split at hs
        case h_1 r hr =>
          obtain rfl := Option.some.inj hs
          exact h.resolve hd hlen hr
        case h_2 =>
          obtain rfl := Option.some.inj hs
          exact h.setStream rfl (by simp [hd])
      all_goals cases hs
  | deliver d =>
      simp only [Correlation.step, Correlation.deliver] at hs
      split at hs
      case h_1 c bytes r hd =>
        split_ifs at hs with hlisten
        · obtain rfl := Option.some.inj hs
          exact h.deliver hd
        · obtain rfl := Option.some.inj hs
          exact h.setStream rfl (by simp [hd])
      all_goals cases hs
  | giveUp d =>
      simp only [Correlation.step, giveUp] at hs
      split at hs
      case h_1 c bytes hd =>
        obtain rfl := Option.some.inj hs
        exact h.setStream rfl (by simp [hd])
      all_goals cases hs

end Inv

theorem inv_of_reachable (h : machine.Reachable s) : s.Inv := by
  refine h.invariant ?_ fun s a s' _ hi _ hs => hi.step hs
  rintro s rfl
  exact inv_new

/-- The stream that a request was sent, and the id it began with. -/
theorem Inv.stream_eq (h : s.Inv) (hdr : (d, r) ∈ s.deliveries) :
    ∃ t, (s.request r).posted = some t ∧
      s.stream d = .sent t.session.conn t.correlationId.toBeBytes r := by
  obtain ⟨c, bytes, hs, hlen, t, ht, rfl, hid⟩ := h.sent d r hdr
  refine ⟨t, ht, ?_⟩
  rw [hs, hid, UInt32.toBeBytes_ofBeBytes hlen]

/-- **Stream correlation is exact.**  Whatever the interleaving and whatever
bytes the clients send, no stream is handed to two requests and no request is
handed two streams; a stream that is handed to a request arrived on the
connection of the request's tunnel and began with the id the request drew, and
a request that returns a stream has queued one `StreamOpen`, with that id. -/
theorem correlation_exact (h : machine.Reachable s) :
    (s.deliveries.map Prod.fst).Nodup ∧ (s.deliveries.map Prod.snd).Nodup ∧
    (∀ d r, (d, r) ∈ s.deliveries → ∃ t, (s.request r).posted = some t ∧
      s.stream d = .sent t.session.conn t.correlationId.toBeBytes r) ∧
    ∀ r t d, s.request r = .done t (some d) → (d, r) ∈ s.deliveries ∧
      s.stream d = .sent t.session.conn t.correlationId.toBeBytes r ∧
      ∀ msg, (r, msg) ∈ s.streamOpens ↔ msg = .streamOpen t.correlationId t.session.id := by
  have hi := inv_of_reachable h
  refine ⟨hi.streams_nodup, hi.requests_nodup, fun d r => hi.stream_eq, fun r t d hdone => ?_⟩
  obtain ⟨hdelivered, hopen⟩ := hi.received r t d hdone
  have hposted : (s.request r).posted = some t := by rw [hdone]; rfl
  refine ⟨hdelivered, ?_, fun msg => ⟨fun hm => ?_, fun hm => ?_⟩⟩
  · obtain ⟨t', ht', hstream⟩ := hi.stream_eq hdelivered
    obtain rfl := Option.some.inj (hposted.symm.trans ht')
    exact hstream
  · obtain ⟨t', ht', rfl⟩ := hi.opens r msg hm
    obtain rfl := Option.some.inj (hposted.symm.trans ht')
    rfl
  · rw [hm]
    exact hopen

/-- A tunnel of the connection 0 and one of the connection 1 each have a request
waiting under the id 1, and the second client answers first. -/
def collidingRun : List Action :=
  [.draw 0 (makeTestSession "a" "first" 0), .insert 0, .send 0,
    .draw 1 { makeTestSession "b" "second" 1 with conn := 1 }, .insert 1, .send 1,
    .arrive 0 1, .readByte 0 0, .readByte 0 0, .readByte 0 0, .readByte 0 1,
    .resolve 0, .deliver 0, .receive 1]

theorem collidingRun_isSome : (machine.run new collidingRun).isSome = true := by
  decide +kernel

def colliding : Correlation :=
  (machine.run new collidingRun).get collidingRun_isSome

theorem colliding_reachable : machine.Reachable colliding :=
  Machine.reachable_get (.init rfl) collidingRun_isSome

theorem correlation_exact_colliding :
    colliding.stream 0 = .sent 1 [0, 0, 0, 1] 1 ∧ (0, 1) ∈ colliding.deliveries ∧
      (colliding.deliveries.map Prod.snd).Nodup := by
  have h := correlation_exact colliding_reachable
  have hdone : colliding.request 1 = .done
      { session := { makeTestSession "b" "second" 1 with conn := 1 }, correlationId := 1 }
      (some 0) := by decide +kernel
  exact ⟨by decide +kernel, (h.2.2.2 1 _ 0 hdone).1, h.2.1⟩

end Correlation
end Rgrok
