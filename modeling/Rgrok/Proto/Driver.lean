/-
# The yamux driver

`spawn_yamux_driver`, `YamuxControl::open_stream` and
`YamuxTransport::accept_stream` in `crates/rgrok-proto/src/transport.rs`.

The connection is a library's; what it returns to each poll is part of the
action.  A poll of the driver's `poll_fn` asks it for an inbound stream first
and then returns one event, which need not be that stream.

`yielded`, `sent`, `accepted`, `obtained` and `answers` record what went
through the driver so far; no step reads them.
-/

import Mathlib.Data.List.Nodup
import Mathlib.Logic.Function.Basic
import Rgrok.Lib.Machine

namespace Rgrok

/-- `std::task::Poll`. -/
inductive Poll (α : Type*)
  | ready (a : α)
  | pending
deriving DecidableEq

/-- What the connection returns in one poll: `poll_next_inbound`, and
`poll_new_outbound` for when it is asked. -/
structure Polled (Stream ConnectionError : Type*) where
  inbound : Poll (Option (Except ConnectionError Stream))
  outbound : Poll (Except ConnectionError Stream)

/-- The inbound stream of a poll. -/
def Polled.stream {Stream ConnectionError : Type*} (polled : Polled Stream ConnectionError) :
    List Stream :=
  match polled.inbound with
  | .ready (some (.ok stream)) => [stream]
  | _ => []

/-- A caller of `open_stream`: the receiving half of its oneshot channel. -/
inductive Opener (Stream ConnectionError : Type*)
  | unborn
  | waiting
  | gone
  | closed
  | answered (result : Except ConnectionError Stream)

/-- Where the driver task stands. -/
inductive DriverPhase (Stream : Type*)
  | top
  | polling
  | sending (stream : Stream)
  | ended

/-- The stream the driver has in hand. -/
def DriverPhase.inHand {Stream : Type*} : DriverPhase Stream → List Stream
  | .sending stream => [stream]
  | .top | .polling | .ended => []

/-- What `poll_fn` returns. -/
inductive DriverEvent (Stream ConnectionError : Type*)
  | inbound (stream : Stream)
  | inboundError
  | inboundDone
  | outboundReady (result : Except ConnectionError Stream)
  | openRequest (reply : ℕ)

/-- The driver with its two channels.  Callers of `open_stream` are numbers. -/
structure Driver (Stream ConnectionError : Type*) where
  phase : DriverPhase Stream
  pendingReply : Option ℕ
  openRx : List ℕ
  opener : ℕ → Opener Stream ConnectionError
  inboundTx : List Stream
  receiverDropped : Bool
  yielded : List Stream
  sent : List Stream
  accepted : List Stream
  obtained : List (Except ConnectionError Stream)
  answers : List (ℕ × Except ConnectionError Stream)

namespace Driver

variable {Stream ConnectionError : Type*}

/-- The capacity of both channels. -/
def channelCapacity : ℕ := 32

/-- `spawn_yamux_driver`. -/
def spawn : Driver Stream ConnectionError where
  phase := .top
  pendingReply := none
  openRx := []
  opener := fun _ => .unborn
  inboundTx := []
  receiverDropped := false
  yielded := []
  sent := []
  accepted := []
  obtained := []
  answers := []

/-- A step of a caller, the driver, the connection or the receiver. -/
inductive Action (Stream ConnectionError : Type*)
  | openStream (reply : ℕ)
  | dropOpener (reply : ℕ)
  | tryRecv
  | poll (polled : Polled Stream ConnectionError)
  | send
  | acceptStream
  | dropReceiver

variable (s : Driver Stream ConnectionError)

/-- `open_tx.send(tx)` completes: there is room, or the driver is gone. -/
def openStream (reply : ℕ) : Option (Driver Stream ConnectionError) :=
  match s.opener reply, s.phase with
  | .unborn, .ended => some { s with opener := Function.update s.opener reply .closed }
  | .unborn, _ =>
      if s.openRx.length < channelCapacity then
        some { s with
          opener := Function.update s.opener reply .waiting
          openRx := s.openRx ++ [reply] }
      else
        none
  | _, _ => none

/-- The future of `open_stream` is dropped. -/
def dropOpener (reply : ℕ) : Option (Driver Stream ConnectionError) :=
  match s.opener reply with
  | .waiting => some { s with opener := Function.update s.opener reply .gone }
  | _ => none

/-- The top of the loop: `open_rx.try_recv()` unless a reply is pending. -/
def tryRecv : Option (Driver Stream ConnectionError) :=
  match s.phase, s.pendingReply, s.openRx with
  | .top, none, reply :: openRx =>
      some { s with phase := .polling, pendingReply := some reply, openRx := openRx }
  | .top, _, _ => some { s with phase := .polling }
  | _, _, _ => none

/-- The closure of `poll_fn`: the event of this poll, if there is one. -/
def pollFn (polled : Polled Stream ConnectionError) :
    Poll (DriverEvent Stream ConnectionError) :=
  match s.pendingReply, polled.outbound, s.openRx with
  | some _, .ready result, _ => .ready (.outboundReady result)
  | none, _, reply :: _ => .ready (.openRequest reply)
  | _, _, _ =>
      match polled.inbound with
      | .ready (some (.ok stream)) => .ready (.inbound stream)
      | .ready (some (.error _)) => .ready .inboundError
      | .ready none => .ready .inboundDone
      | .pending => .pending

/-- What one poll takes from the connection. -/
def record (polled : Polled Stream ConnectionError) : Driver Stream ConnectionError :=
  { s with
    yielded := s.yielded ++ polled.stream
    obtained := s.obtained ++
      match s.pendingReply, polled.outbound with
      | some _, .ready result => [result]
      | _, _ => [] }

/-- The task returns: both channels close, and whoever waits is told. -/
def finish : Driver Stream ConnectionError :=
  { s with
    phase := .ended
    pendingReply := none
    openRx := []
    opener := fun reply =>
      match s.opener reply with
      | .waiting => .closed
      | other => other }

/-- `reply.send(result)`, which a caller that is gone does not get. -/
def reply (r : ℕ) (result : Except ConnectionError Stream) : Driver Stream ConnectionError :=
  { s with
    opener := Function.update s.opener r
      (match s.opener r with
      | .waiting => .answered result
      | other => other)
    answers := s.answers ++ [(r, result)] }

/-- `match event`. -/
def handle : DriverEvent Stream ConnectionError → Driver Stream ConnectionError
  | .inbound stream => { s with phase := .sending stream }
  | .inboundError | .inboundDone => s.finish
  | .outboundReady result =>
      match s.pendingReply with
      | some r => { s.reply r result with phase := .top, pendingReply := none }
      | none => { s with phase := .top }
  | .openRequest r =>
      { s with phase := .top, pendingReply := some r, openRx := s.openRx.tail }

/-- One poll of `poll_fn`, and what the loop does with the event. -/
def poll (polled : Polled Stream ConnectionError) : Option (Driver Stream ConnectionError) :=
  match s.phase, s.pollFn polled with
  | .polling, .ready event => some ((s.record polled).handle event)
  | .polling, .pending => some (s.record polled)
  | _, _ => none

/-- `inbound_tx.send(stream).await` completes: there is room, or the receiver
is gone. -/
def send : Option (Driver Stream ConnectionError) :=
  match s.phase with
  | .sending stream =>
      if s.receiverDropped then
        some s.finish
      else if s.inboundTx.length < channelCapacity then
        some { s with
          phase := .top
          inboundTx := s.inboundTx ++ [stream]
          sent := s.sent ++ [stream] }
      else
        none
  | _ => none

/-- `accept_stream` takes a stream out. -/
def acceptStream : Option (Driver Stream ConnectionError) :=
  match s.receiverDropped, s.inboundTx with
  | false, stream :: inboundTx =>
      some { s with inboundTx := inboundTx, accepted := s.accepted ++ [stream] }
  | _, _ => none

/-- The receiver goes, with what is in the channel. -/
def dropReceiver : Driver Stream ConnectionError :=
  { s with receiverDropped := true, inboundTx := [] }

def step : Action Stream ConnectionError → Option (Driver Stream ConnectionError)
  | .openStream r => s.openStream r
  | .dropOpener r => s.dropOpener r
  | .tryRecv => s.tryRecv
  | .poll polled => s.poll polled
  | .send => s.send
  | .acceptStream => s.acceptStream
  | .dropReceiver => some s.dropReceiver

/-- Every sequence of poll results with every order of the callers. -/
def machine : Machine (Driver Stream ConnectionError) (Action Stream ConnectionError) where
  init s := s = spawn
  step := step

/-- Nothing yielded is lost: what was sent is what was yielded, in order, up to
the stream in hand, or up to the one whose send found the receiver dropped. -/
def Delivers : Prop :=
  ∃ rest, s.yielded = s.sent ++ rest ∧
    (rest = s.phase.inHand ∨ s.phase = .ended ∧ s.receiverDropped = true)

/-- Outbound streams and requests match one to one: each result went to one
request, no request got two, and a request that still waited has its result. -/
structure AnswersOnce : Prop where
  matched : s.answers.map Prod.snd = s.obtained
  once : (s.answers.map Prod.fst).Nodup
  received : ∀ r result, (r, result) ∈ s.answers →
    s.opener r = .answered result ∨ s.opener r = .gone

/-- The receiver gets what was sent, in order. -/
def AcceptsInOrder : Prop :=
  s.receiverDropped = false → s.accepted ++ s.inboundTx = s.sent

/-- The poll yields an inbound stream and another event goes first: an outbound
result for the pending reply, or an open request. -/
def Overlooks (polled : Polled Stream ConnectionError) : Prop :=
  polled.stream ≠ [] ∧
    ((s.pendingReply ≠ none ∧ ∃ result, polled.outbound = .ready result) ∨
      (s.pendingReply = none ∧ s.openRx ≠ []))

/-- No inbound stream is yielded in a poll that has another event to return. -/
def NothingOverlooked (a : Action Stream ConnectionError) : Prop :=
  ∀ polled, a = .poll polled → ¬ s.Overlooks polled

/-! ### What a step does -/

variable {s} {s' : Driver Stream ConnectionError} {a : Action Stream ConnectionError}

/-- What a step does.  Of a poll that returns an event other than the inbound
stream, that stream is only recorded. -/
inductive Move (s : Driver Stream ConnectionError) :
    Action Stream ConnectionError → Driver Stream ConnectionError → Prop
  | openStream (r : ℕ) (hr : s.opener r = .unborn) :
      Move s (.openStream r) { s with
        opener := Function.update s.opener r .waiting
        openRx := s.openRx ++ [r] }
  | refused (r : ℕ) (hr : s.opener r = .unborn) :
      Move s (.openStream r) { s with opener := Function.update s.opener r .closed }
  | dropOpener (r : ℕ) (hr : s.opener r = .waiting) :
      Move s (.dropOpener r) { s with opener := Function.update s.opener r .gone }
  | tryRecv (r : ℕ) (rest : List ℕ) (hphase : s.phase = .top) (hreply : s.pendingReply = none)
      (hopen : s.openRx = r :: rest) :
      Move s .tryRecv { s with phase := .polling, pendingReply := some r, openRx := rest }
  | turn (hphase : s.phase = .top) : Move s .tryRecv { s with phase := .polling }
  | answer (polled : Polled Stream ConnectionError) (r : ℕ)
      (result : Except ConnectionError Stream) (hphase : s.phase = .polling)
      (hreply : s.pendingReply = some r) (hready : polled.outbound = .ready result) :
      Move s (.poll polled) { s.reply r result with
        phase := .top
        pendingReply := none
        yielded := s.yielded ++ polled.stream
        obtained := s.obtained ++ [result] }
  | request (polled : Polled Stream ConnectionError) (r : ℕ) (rest : List ℕ)
      (hphase : s.phase = .polling) (hreply : s.pendingReply = none)
      (hopen : s.openRx = r :: rest) :
      Move s (.poll polled) { s with
        phase := .top
        pendingReply := some r
        openRx := rest
        yielded := s.yielded ++ polled.stream }
  | inbound (polled : Polled Stream ConnectionError) (stream : Stream)
      (hphase : s.phase = .polling) (hstream : polled.stream = [stream])
      (hfirst : ¬ s.Overlooks polled) :
      Move s (.poll polled) { s with
        phase := .sending stream
        yielded := s.yielded ++ [stream] }
  | done (polled : Polled Stream ConnectionError) (hphase : s.phase = .polling)
      (hstream : polled.stream = []) : Move s (.poll polled) s.finish
  | pending (polled : Polled Stream ConnectionError) (hphase : s.phase = .polling)
      (hstream : polled.stream = []) : Move s (.poll polled) s
  | send (stream : Stream) (hphase : s.phase = .sending stream)
      (hreceiver : s.receiverDropped = false) :
      Move s .send { s with
        phase := .top
        inboundTx := s.inboundTx ++ [stream]
        sent := s.sent ++ [stream] }
  | sendFailed (stream : Stream) (hphase : s.phase = .sending stream)
      (hreceiver : s.receiverDropped = true) : Move s .send s.finish
  | acceptStream (stream : Stream) (rest : List Stream) (hreceiver : s.receiverDropped = false)
      (hqueue : s.inboundTx = stream :: rest) :
      Move s .acceptStream { s with inboundTx := rest, accepted := s.accepted ++ [stream] }
  | dropReceiver : Move s .dropReceiver s.dropReceiver

/-- A poll without an outbound result or an open request returns the inbound
result. -/
theorem pollFn_of_quiet {polled : Polled Stream ConnectionError}
    (hreply : s.pendingReply ≠ none → polled.outbound = .pending)
    (hopen : s.pendingReply = none → s.openRx = []) :
    s.pollFn polled =
      match polled.inbound with
      | .ready (some (.ok stream)) => .ready (.inbound stream)
      | .ready (some (.error _)) => .ready .inboundError
      | .ready none => .ready .inboundDone
      | .pending => .pending := by
  rw [pollFn]
  split
  · rename_i hsome hready
    rw [hreply (by rw [hsome]; exact Option.some_ne_none _)] at hready
    cases hready
  · rename_i hnone hcons
    rw [hopen hnone] at hcons
    cases hcons
  · rfl

theorem poll_move {polled : Polled Stream ConnectionError} (h : s.poll polled = some s') :
    s.Move (.poll polled) s' := by
  have hphase : s.phase = .polling := by
    simp only [poll] at h
    split at h
    · assumption
    · assumption
    · cases h
  simp only [poll, hphase] at h
  by_cases hout : ∃ r result, s.pendingReply = some r ∧ polled.outbound = .ready result
  · obtain ⟨r, result, hreply, hready⟩ := hout
    have hevent : s.pollFn polled = .ready (.outboundReady result) := by
      simp only [pollFn, hreply, hready]
    simp only [hevent, handle, record, hreply, hready] at h
    obtain rfl := Option.some.inj h
    exact .answer polled r result hphase hreply hready
  by_cases hreq : ∃ r rest, s.pendingReply = none ∧ s.openRx = r :: rest
  · obtain ⟨r, rest, hreply, hopen⟩ := hreq
    have hevent : s.pollFn polled = .ready (.openRequest r) := by
      simp only [pollFn, hreply, hopen]
    simp only [hevent, handle, record, hreply, hopen, List.append_nil, List.tail_cons] at h
    obtain rfl := Option.some.inj h
    exact .request polled r rest hphase hreply hopen
  -- Neither of the other events is there, so the inbound result is returned.
  have hpending : s.pendingReply ≠ none → polled.outbound = .pending := by
    intro hne
    obtain ⟨r, hr⟩ := Option.ne_none_iff_exists'.1 hne
    cases hready : polled.outbound with
    | ready result => exact absurd ⟨r, result, hr, hready⟩ hout
    | pending => rfl
  have hempty : s.pendingReply = none → s.openRx = [] := by
    intro hnone
    cases hopen : s.openRx with
    | nil => rfl
    | cons r rest => exact absurd ⟨r, rest, hnone, hopen⟩ hreq
  have hnot : ¬ s.Overlooks polled := by
    rintro ⟨-, ⟨hne, result, hready⟩ | ⟨hnone, hne⟩⟩
    · rw [hpending hne] at hready
      cases hready
    · exact hne (hempty hnone)
  have hrecord : s.record polled = { s with yielded := s.yielded ++ polled.stream } := by
    have hobtained : (match s.pendingReply, polled.outbound with
        | some _, .ready result => [result]
        | _, _ => []) = ([] : List (Except ConnectionError Stream)) := by
      split
      · rename_i hsome hready
        rw [hpending (by rw [hsome]; exact Option.some_ne_none _)] at hready
        cases hready
      · rfl
    rw [record, hobtained, List.append_nil]
  rw [pollFn_of_quiet hpending hempty, hrecord] at h
  rcases hin : polled.inbound with (_ | _ | stream) | _
  all_goals
    simp only [hin, handle, Polled.stream, List.append_nil] at h
    obtain rfl := Option.some.inj h
  · exact .done polled hphase (by rw [Polled.stream, hin])
  · exact .done polled hphase (by rw [Polled.stream, hin])
  · exact .inbound polled stream hphase (by rw [Polled.stream, hin]) hnot
  · exact .pending polled hphase (by rw [Polled.stream, hin])

theorem step_move (h : s.step a = some s') : s.Move a s' := by
  cases a with
  | poll polled => exact poll_move h
  | openStream r =>
      simp only [step, openStream] at h
      split at h
      · rename_i hr _
        obtain rfl := Option.some.inj h
        exact .refused r hr
      · rename_i hr _
        split_ifs at h
        obtain rfl := Option.some.inj h
        exact .openStream r hr
      · cases h
  | dropOpener r =>
      simp only [step, dropOpener] at h
      split at h
      · rename_i hr
        obtain rfl := Option.some.inj h
        exact .dropOpener r hr
      · cases h
  | tryRecv =>
      simp only [step, tryRecv] at h
      split at h
      · rename_i r rest hphase hreply hopen
        obtain rfl := Option.some.inj h
        exact .tryRecv r rest hphase hreply hopen
      · rename_i hphase _
        obtain rfl := Option.some.inj h
        exact .turn hphase
      · cases h
  | send =>
      simp only [step, send] at h
      split at h
      · rename_i stream hphase
        split_ifs at h with hreceiver
        · obtain rfl := Option.some.inj h
          exact .sendFailed stream hphase hreceiver
        · obtain rfl := Option.some.inj h
          exact .send stream hphase (Bool.eq_false_iff.2 hreceiver)
      · cases h
  | acceptStream =>
      simp only [step, acceptStream] at h
      split at h
      · rename_i stream rest hreceiver hqueue
        obtain rfl := Option.some.inj h
        exact .acceptStream stream rest hreceiver hqueue
      · cases h
  | dropReceiver =>
      obtain rfl := Option.some.inj h
      exact .dropReceiver

/-! ### Inbound streams -/

/-- While the driver runs, only the stream in hand is not sent. -/
theorem Delivers.yielded_eq {phase : DriverPhase Stream} (h : s.Delivers)
    (hphase : s.phase = phase) (hrun : phase ≠ .ended) : s.yielded = s.sent ++ phase.inHand := by
  obtain ⟨rest, hrest, hin⟩ := h
  subst hphase
  rw [hrest, hin.resolve_right fun hended => hrun hended.1]

theorem Delivers.of_yielded_eq (h : s.yielded = s.sent ++ s.phase.inHand) : s.Delivers :=
  ⟨_, h, Or.inl rfl⟩

/-- A poll that returns an event other than its inbound stream overlooks it. -/
theorem Overlooks.of_answer {polled : Polled Stream ConnectionError} {r : ℕ}
    {result : Except ConnectionError Stream} (hne : polled.stream ≠ [])
    (hreply : s.pendingReply = some r) (hready : polled.outbound = .ready result) :
    s.Overlooks polled := by
  refine ⟨hne, Or.inl ⟨?_, result, hready⟩⟩
  rw [hreply]
  exact Option.some_ne_none r

theorem Overlooks.of_request {polled : Polled Stream ConnectionError} {r : ℕ} {rest : List ℕ}
    (hne : polled.stream ≠ []) (hreply : s.pendingReply = none) (hopen : s.openRx = r :: rest) :
    s.Overlooks polled := by
  refine ⟨hne, Or.inr ⟨hreply, ?_⟩⟩
  rw [hopen]
  exact List.cons_ne_nil r rest

/-- A step that overlooks nothing delivers. -/
theorem Move.delivers (m : s.Move a s') (h : s.Delivers) (hc : s.NothingOverlooked a) :
    s'.Delivers := by
  cases m with
  | openStream | refused | dropOpener | acceptStream | pending => exact h
  | dropReceiver =>
      obtain ⟨rest, hrest, hin⟩ := h
      exact ⟨rest, hrest, hin.imp_right fun hended => ⟨hended.1, rfl⟩⟩
  | tryRecv r _ hphase | turn hphase =>
      have heq := h.yielded_eq hphase (by simp)
      exact .of_yielded_eq heq
  | answer polled r result hphase hreply hready =>
      have hnone : polled.stream = [] := by
        by_contra hne
        exact hc polled rfl (.of_answer hne hreply hready)
      have heq := h.yielded_eq hphase (by simp)
      refine .of_yielded_eq ?_
      simp only [hnone, List.append_nil, heq, reply]
      rfl
  | request polled r rest hphase hreply hopen =>
      have hnone : polled.stream = [] := by
        by_contra hne
        exact hc polled rfl (.of_request hne hreply hopen)
      have heq := h.yielded_eq hphase (by simp)
      refine .of_yielded_eq ?_
      simp only [hnone, List.append_nil, heq]
      rfl
  | inbound polled stream hphase hstream =>
      have heq := h.yielded_eq hphase (by simp)
      refine .of_yielded_eq ?_
      simp only [heq, DriverPhase.inHand, List.append_nil]
  | done polled hphase =>
      have heq := h.yielded_eq hphase (by simp)
      exact .of_yielded_eq heq
  | send stream hphase =>
      have heq := h.yielded_eq hphase (by simp)
      refine .of_yielded_eq ?_
      simp only [heq, DriverPhase.inHand, List.append_nil]
  | sendFailed stream hphase hreceiver =>
      obtain ⟨rest, hrest, -⟩ := h
      exact ⟨rest, hrest, Or.inr ⟨rfl, hreceiver⟩⟩

/-- A poll that overlooks its inbound stream loses it. -/
theorem Delivers.poll_iff {polled : Polled Stream ConnectionError} (h : s.Delivers)
    (hs : s.step (.poll polled) = some s') : s'.Delivers ↔ ¬ s.Overlooks polled := by
  have m := step_move hs
  constructor
  · rintro h' hover
    have hne := hover.1
    cases m with
    | answer _ r result hphase =>
        have heq := h.yielded_eq hphase (by simp)
        have heq' : s.yielded ++ polled.stream = s.sent ++ [] := h'.yielded_eq rfl (by simp)
        rw [heq, List.append_assoc] at heq'
        exact hne (List.append_cancel_left heq')
    | request _ r rest hphase =>
        have heq := h.yielded_eq hphase (by simp)
        have heq' : s.yielded ++ polled.stream = s.sent ++ [] := h'.yielded_eq rfl (by simp)
        rw [heq, List.append_assoc] at heq'
        exact hne (List.append_cancel_left heq')
    | inbound _ stream hphase hstream hfirst => exact hfirst hover
    | done _ hphase hstream => exact hne hstream
    | pending _ hphase hstream => exact hne hstream
  · intro hnot
    refine m.delivers h ?_
    rintro _ ⟨⟩
    exact hnot

/-! ### Open requests -/

/-- The requests the driver holds: the pending one and those in the channel. -/
def held (s : Driver Stream ConnectionError) : List ℕ :=
  s.pendingReply.toList ++ s.openRx

/-- Every request is in one place, once; what was answered is over. -/
structure Inv (s : Driver Stream ConnectionError) : Prop where
  matched : s.answers.map Prod.snd = s.obtained
  once : (s.answers.map Prod.fst ++ s.held).Nodup
  received : ∀ r result, (r, result) ∈ s.answers →
    s.opener r = .answered result ∨ s.opener r = .gone
  held : ∀ r ∈ s.held, s.opener r = .waiting ∨ s.opener r = .gone

theorem Inv.answersOnce (h : s.Inv) : s.AnswersOnce where
  matched := h.matched
  once := (List.nodup_append.1 h.once).1
  received := h.received

/-- A step that leaves requests and answers alone keeps the invariant. -/
theorem Inv.congr (h : s.Inv) (hobtained : s'.obtained = s.obtained)
    (hanswers : s'.answers = s.answers) (hheld : s'.held = s.held)
    (hopener : s'.opener = s.opener) : s'.Inv where
  matched := by rw [hanswers, hobtained]; exact h.matched
  once := by rw [hanswers, hheld]; exact h.once
  received := by rw [hanswers, hopener]; exact h.received
  held := by rw [hheld, hopener]; exact h.held

/-- A caller that is not known to the driver is in none of its places. -/
theorem Inv.not_mem_of_unborn (h : s.Inv) {r : ℕ} (hr : s.opener r = .unborn) :
    (∀ result, (r, result) ∉ s.answers) ∧ r ∉ s.held := by
  constructor
  · intro result hmem
    rcases h.received r result hmem with hr' | hr'
    · rw [hr] at hr'
      cases hr'
    · rw [hr] at hr'
      cases hr'
  · intro hmem
    rcases h.held r hmem with hr' | hr'
    · rw [hr] at hr'
      cases hr'
    · rw [hr] at hr'
      cases hr'

/-- A caller changes in a way that keeps what the driver knows of it. -/
theorem Inv.updateOpener (h : s.Inv) {r : ℕ} {o : Opener Stream ConnectionError}
    (hanswers : ∀ result, (r, result) ∈ s.answers → o = .answered result ∨ o = .gone)
    (hheld : r ∈ s.held → o = .waiting ∨ o = .gone) :
    Inv { s with opener := Function.update s.opener r o } where
  matched := h.matched
  once := h.once
  received r' result hmem := by
    by_cases he : r' = r
    · subst he
      simp only [Function.update_self]
      exact hanswers result hmem
    · simp only [Function.update_of_ne he]
      exact h.received r' result hmem
  held r' hmem := by
    by_cases he : r' = r
    · subst he
      simp only [Function.update_self]
      exact hheld hmem
    · simp only [Function.update_of_ne he]
      exact h.held r' hmem

/-- The task returns with nothing left to answer. -/
theorem Inv.finish (h : s.Inv) : s.finish.Inv where
  matched := h.matched
  once := by
    have hnodup := (List.nodup_append.1 h.once).1
    rwa [← List.append_nil (s.answers.map Prod.fst)] at hnodup
  received r result hmem := by
    rcases h.received r result hmem with hr | hr
    · left
      simp only [Driver.finish, hr]
    · right
      simp only [Driver.finish, hr]
  held r hmem := absurd hmem List.not_mem_nil

/-- A new request goes behind the others. -/
theorem Inv.openStream {r : ℕ} (h : s.Inv) (hr : s.opener r = .unborn) :
    Inv { s with
      opener := Function.update s.opener r .waiting
      openRx := s.openRx ++ [r] } := by
  obtain ⟨hanswers, hheld⟩ := h.not_mem_of_unborn hr
  have hone := h.updateOpener (o := .waiting)
    (fun result hmem => absurd hmem (hanswers result)) (fun hmem => absurd hmem hheld)
  have hfresh : r ∉ s.answers.map Prod.fst := by
    intro hmem
    obtain ⟨⟨r', result⟩, hpair, rfl⟩ := List.mem_map.1 hmem
    exact hanswers result hpair
  refine ⟨h.matched, ?_, hone.received, fun r' hmem => ?_⟩
  · have hnodup : (r :: (s.answers.map Prod.fst ++ s.held)).Nodup := by
      refine List.nodup_cons.2 ⟨fun hmem => ?_, h.once⟩
      exact (List.mem_append.1 hmem).elim hfresh hheld
    refine (List.Perm.nodup_iff ?_).1 hnodup
    simp only [Driver.held, ← List.append_assoc]
    exact (List.perm_append_singleton r _).symm
  · simp only [Driver.held, ← List.append_assoc] at hmem
    rcases List.mem_append.1 hmem with hold | hnew
    · exact hone.held r' hold
    · rw [List.mem_singleton.1 hnew]
      exact Or.inl (Function.update_self ..)

/-- The pending reply goes out; its caller has it, or is gone. -/
theorem Inv.answer {r : ℕ} {result : Except ConnectionError Stream} (h : s.Inv)
    (hreply : s.pendingReply = some r) (yielded : List Stream) :
    Inv { s.reply r result with
      phase := .top
      pendingReply := none
      yielded := yielded
      obtained := s.obtained ++ [result] } := by
  have hheld : s.held = r :: s.openRx := by rw [Driver.held, hreply]; rfl
  have hnodup := h.once
  rw [hheld] at hnodup
  have hother : ∀ r' ∈ s.answers.map Prod.fst ++ s.openRx, r' ≠ r := by
    rintro r' hmem rfl
    exact (List.nodup_cons.1 ((List.perm_middle.nodup_iff).1 hnodup)).1 hmem
  refine ⟨?_, ?_, fun r' result' hmem => ?_, fun r' hmem => ?_⟩
  · simp only [reply, List.map_append, h.matched, List.map_cons, List.map_nil]
  · simp only [reply, List.map_append, List.map_cons, List.map_nil, Driver.held]
    rw [List.append_assoc]
    exact hnodup
  · rcases List.mem_append.1 hmem with hold | hnew
    · have hne := hother r' (List.mem_append_left _ (List.mem_map.2 ⟨_, hold, rfl⟩))
      simp only [reply, Function.update_of_ne hne]
      exact h.received r' result' hold
    · obtain ⟨rfl, rfl⟩ := Prod.mk.inj (List.mem_singleton.1 hnew)
      simp only [reply, Function.update_self]
      rcases h.held r' (by rw [hheld]; exact List.mem_cons_self ..) with hr | hr
      · simp only [hr]
        exact Or.inl trivial
      · simp only [hr]
        exact Or.inr trivial
  · have hne := hother r' (List.mem_append_right _ hmem)
    simp only [reply, Function.update_of_ne hne]
    refine h.held r' ?_
    rw [hheld]
    exact List.mem_cons_of_mem r hmem

theorem Inv.move (h : s.Inv) (m : s.Move a s') : s'.Inv := by
  cases m with
  | openStream r hr => exact h.openStream hr
  | refused r hr =>
      obtain ⟨hanswers, hheld⟩ := h.not_mem_of_unborn hr
      exact h.updateOpener (fun result hmem => absurd hmem (hanswers result))
        (fun hmem => absurd hmem hheld)
  | dropOpener r hr => exact h.updateOpener (fun _ _ => Or.inr rfl) fun _ => Or.inr rfl
  | tryRecv r rest hphase hreply hopen =>
      refine h.congr rfl rfl ?_ rfl
      simp only [Driver.held, hreply, hopen]
      rfl
  | request _ r rest hphase hreply hopen =>
      refine h.congr rfl rfl ?_ rfl
      simp only [Driver.held, hreply, hopen]
      rfl
  | answer polled r result hphase hreply hready => exact h.answer hreply _
  | turn | inbound | send | acceptStream | dropReceiver => exact h.congr rfl rfl rfl rfl
  | pending => exact h
  | done | sendFailed => exact h.finish

theorem inv_of_reachable (r : machine.Reachable s) : s.Inv := by
  refine r.invariant ?_ fun s a s' _ h _ hs => h.move (step_move hs)
  rintro s rfl
  refine ⟨rfl, List.nodup_nil, fun r result hmem => ?_, fun r hmem => ?_⟩
  · cases hmem
  · cases hmem

/-! ### The receiver -/

theorem AcceptsInOrder.move (h : s.AcceptsInOrder) (m : s.Move a s') : s'.AcceptsInOrder := by
  cases m with
  | send stream hphase hreceiver =>
      intro _
      simp only [← List.append_assoc, h hreceiver]
  | acceptStream stream rest hreceiver hqueue =>
      intro _
      have hold := h hreceiver
      rw [hqueue] at hold
      simp only [List.append_assoc, List.singleton_append, hold]
  | dropReceiver => exact nofun
  | openStream | refused | dropOpener | tryRecv | turn | answer | request | inbound | done
  | pending | sendFailed => exact h

theorem acceptsInOrder_of_reachable (r : machine.Reachable s) : s.AcceptsInOrder := by
  refine r.invariant ?_ fun s a s' _ h _ hs => h.move (step_move hs)
  rintro s rfl _
  rfl

/-- **The driver loses a stream exactly when a poll overlooks it.**  In every
run in which no inbound stream is yielded in a poll that has another event to
return, every stream yielded is sent once and in order; a poll that does
overlook its stream loses it.  Outbound streams match the requests one to one. -/
theorem driver_delivers (r : machine.ReachedBy (fun s a => NothingOverlooked s a) s) :
    s.Delivers ∧ s.AcceptsInOrder ∧ s.AnswersOnce ∧
      ∀ polled s', s.step (.poll polled) = some s' →
        (s'.Delivers ↔ ¬ s.Overlooks polled) := by
  have hdelivers : s.Delivers := by
    refine r.invariant ?_ fun s a s' _ h hc hs => (step_move hs).delivers h hc
    rintro s rfl
    exact .of_yielded_eq rfl
  exact ⟨hdelivers, acceptsInOrder_of_reachable r.reachable,
    (inv_of_reachable r.reachable).answersOnce, fun _ _ => hdelivers.poll_iff⟩

/-- A poll with an inbound stream and nothing else. -/
def inboundOnly : Polled ℕ Empty where
  inbound := .ready (some (.ok 7))
  outbound := .pending

/-- A poll with an inbound stream and an outbound one. -/
def bothReady : Polled ℕ Empty where
  inbound := .ready (some (.ok 7))
  outbound := .ready (.ok 8)

/-- A poll with an outbound stream and nothing else. -/
def outboundOnly : Polled ℕ Empty where
  inbound := .pending
  outbound := .ready (.ok 8)

/-- An inbound stream goes through, then a request is answered. -/
def aloneRun : List (Action ℕ Empty) :=
  [.send, .acceptStream, .openStream 0, .tryRecv, .poll outboundOnly]

def polled : Driver ℕ Empty :=
  { spawn with phase := .sending 7, yielded := [7] }

theorem polled_reached : machine.ReachedBy (fun s a => NothingOverlooked s a) polled := by
  have hpolling : machine.ReachedBy (fun s a => NothingOverlooked s a)
      { (spawn : Driver ℕ Empty) with phase := .polling } :=
    .step (.init rfl) (a := .tryRecv) nofun rfl
  refine hpolling.step (a := .poll inboundOnly) ?_ rfl
  rintro _ ⟨⟩ ⟨-, ⟨hne, -⟩ | ⟨-, hne⟩⟩
  · exact hne rfl
  · exact hne rfl

theorem aloneRun_isSome : (machine.run polled aloneRun).isSome = true := by
  decide

def alone : Driver ℕ Empty :=
  (machine.run polled aloneRun).get aloneRun_isSome

theorem alone_reached : machine.ReachedBy (fun s a => NothingOverlooked s a) alone := by
  have hrun : machine.run polled aloneRun = some alone := (Option.some_get _).symm
  refine polled_reached.run (fun a ha t => ?_) hrun
  simp only [aloneRun, List.mem_cons, List.not_mem_nil, or_false] at ha
  rcases ha with rfl | rfl | rfl | rfl | rfl
  case inr.inr.inr.inr =>
    rintro _ ⟨⟩ ⟨hne, -⟩
    exact hne rfl
  all_goals exact fun polled h => nomatch h

theorem driver_delivers_alone :
    alone.accepted = [7] ∧ alone.answers.map Prod.fst = [0] ∧ alone.Delivers ∧
      alone.AnswersOnce := by
  obtain ⟨hdelivers, -, honce, -⟩ := driver_delivers alone_reached
  exact ⟨by decide, by decide, hdelivers, honce⟩

/-- A request is pending when an inbound stream arrives. -/
def overlookedRun : List (Action ℕ Empty) :=
  [.openStream 0, .tryRecv, .poll bothReady]

theorem overlookedRun_isSome :
    (machine.run (spawn : Driver ℕ Empty) overlookedRun).isSome = true := by
  decide

def overlooked : Driver ℕ Empty :=
  (machine.run spawn overlookedRun).get overlookedRun_isSome

theorem overlooked_not_delivers :
    ¬ ∀ s : Driver ℕ Empty, machine.Reachable s → s.Delivers := by
  intro h
  have hdelivers := h overlooked (Machine.reachable_get (.init rfl) overlookedRun_isSome)
  have heq := hdelivers.yielded_eq (show overlooked.phase = .top from rfl) (by simp)
  revert heq
  decide

end Driver
end Rgrok
