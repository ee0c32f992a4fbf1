/-
# A byte stream over a WebSocket

`WsCompat` in `crates/rgrok-proto/src/transport.rs`.

The WebSocket is a library's: a reader's `inner` is what it returns to the polls
still to come, one after the other, and a `SinkPoll` is what it answers to one
write.  An endpoint reads what is left in its buffer and then the payloads up to
the first `Close` or end (`WsCompat.remaining`); every read takes its bytes off
the front of that.
-/

import Rgrok.Proto.Driver

namespace Rgrok

/-- `tungstenite::Message`. -/
inductive WsMessage
  | text (text : String)
  | binary (data : List UInt8)
  | ping (data : List UInt8)
  | pong (data : List UInt8)
  | close
  | frame (data : List UInt8)
deriving DecidableEq

variable {ε : Type}

/-- What `poll_next` returns. -/
abbrev WsPoll (ε : Type) :=
  Poll (Option (Except ε WsMessage))

namespace WsPoll

/-- The end of the stream, or a `Close`. -/
def isEnd : WsPoll ε → Bool
  | .ready none => true
  | .ready (some (.ok .close)) => true
  | _ => false

/-- The binary messages before the first `Close` or end. -/
def binaries : List (WsPoll ε) → List (List UInt8)
  | [] => []
  | .ready none :: _ => []
  | .ready (some (.ok .close)) :: _ => []
  | .ready (some (.ok (.binary data))) :: inner => data :: binaries inner
  | _ :: inner => binaries inner

/-- Their bytes. -/
def payload (inner : List (WsPoll ε)) : List UInt8 :=
  (binaries inner).flatten

end WsPoll

/-- `WsCompat`, with the polls of its inner stream that are still to come. -/
structure WsCompat (ε : Type) where
  inner : List (WsPoll ε)
  readBuf : List UInt8
  closed : Bool

/-- What `poll_read` returns, with the bytes it put into the buffer. -/
abbrev PollRead (ε : Type) :=
  Poll (Except ε (List UInt8))

namespace WsCompat

open WsPoll

/-- `WsCompat::new`. -/
def new (inner : List (WsPoll ε)) : WsCompat ε where
  inner := inner
  readBuf := []
  closed := false

/-- The loop of `poll_read`, for a buffer of `len` bytes; it is reached with an
empty `read_buf`. -/
def pollInner (len : ℕ) : List (WsPoll ε) → PollRead ε × WsCompat ε
  | [] => (.pending, ⟨[], [], false⟩)
  | .pending :: inner => (.pending, ⟨inner, [], false⟩)
  | .ready none :: inner => (.ready (.ok []), ⟨inner, [], true⟩)
  | .ready (some (.error e)) :: inner => (.ready (.error e), ⟨inner, [], false⟩)
  | .ready (some (.ok .close)) :: inner => (.ready (.ok []), ⟨inner, [], true⟩)
  | .ready (some (.ok (.binary data))) :: inner =>
      if data.isEmpty then pollInner len inner
      else (.ready (.ok (data.take len)), ⟨inner, data.drop len, false⟩)
  | .ready (some (.ok _)) :: inner => pollInner len inner

/-- `poll_read` with a buffer of `len` bytes. -/
def pollRead (len : ℕ) (ws : WsCompat ε) : PollRead ε × WsCompat ε :=
  if ws.closed then (.ready (.ok []), ws)
  else if !ws.readBuf.isEmpty then
    (.ready (.ok (ws.readBuf.take len)), { ws with readBuf := ws.readBuf.drop len })
  else pollInner len ws.inner

/-- Reads with these buffers, one after the other. -/
def reads : List ℕ → WsCompat ε → List (PollRead ε) × WsCompat ε
  | [], ws => ([], ws)
  | len :: sizes, ws =>
      let (poll, ws) := ws.pollRead len
      let (polls, ws) := reads sizes ws
      (poll :: polls, ws)

/-- The bytes a read returned. -/
def bytesOf : PollRead ε → List UInt8
  | .ready (.ok bytes) => bytes
  | _ => []

/-- All bytes that reads returned. -/
def received (polls : List (PollRead ε)) : List UInt8 :=
  polls.flatMap bytesOf

/-- A read that returned 0. -/
def eof : PollRead ε :=
  .ready (.ok [])

/-- What is still to be read. -/
def remaining (ws : WsCompat ε) : List UInt8 :=
  if ws.closed then [] else ws.readBuf ++ payload ws.inner

/-! ### One read -/

variable {len : ℕ} {inner : List (WsPoll ε)} {ws ws' : WsCompat ε} {poll : PollRead ε}

theorem remaining_closed (h : ws.closed = true) : ws.remaining = [] := by
  rw [remaining, h, if_pos rfl]

theorem remaining_open (h : ws.closed = false) :
    ws.remaining = ws.readBuf ++ payload ws.inner := by
  rw [remaining, h]
  rfl

/-- What one read does: it takes its bytes off the front, and returns 0 at the
first `Close` or end only, which is behind it then. -/
structure Reads (len : ℕ) (inner : List (WsPoll ε)) (left : List UInt8) (poll : PollRead ε)
    (ws' : WsCompat ε) : Prop where
  bytes : left = bytesOf poll ++ ws'.remaining
  fits : (bytesOf poll).length ≤ len
  passed : ∃ passed, inner = passed ++ ws'.inner ∧
    ((ws'.closed = false ∧ poll ≠ eof ∧ ∀ item ∈ passed, item.isEnd = false) ∨
      (ws'.closed = true ∧ poll = eof ∧ ∃ before stop, passed = before ++ [stop] ∧
        stop.isEnd = true ∧ ∀ item ∈ before, item.isEnd = false))

/-- An item without bytes is passed over. -/
theorem Reads.skip {item : WsPoll ε} (h : Reads len inner (payload inner) poll ws')
    (hitem : item.isEnd = false) (hbytes : payload (item :: inner) = payload inner) :
    Reads len (item :: inner) (payload (item :: inner)) poll ws' := by
  obtain ⟨bytes, fits, passed, rfl, hpassed⟩ := h
  refine ⟨hbytes.trans bytes, fits, item :: passed, rfl, ?_⟩
  rcases hpassed with ⟨hopen, hpoll, hall⟩ | ⟨hclosed, hpoll, before, stop, rfl, hstop, hall⟩
  · exact Or.inl ⟨hopen, hpoll, List.forall_mem_cons.2 ⟨hitem, hall⟩⟩
  · exact Or.inr ⟨hclosed, hpoll, item :: before, stop, rfl, hstop,
      List.forall_mem_cons.2 ⟨hitem, hall⟩⟩

/-- A poll that comes to nothing, or to an error. -/
theorem reads_nothing {item : WsPoll ε} (hitem : item.isEnd = false) (hpoll : bytesOf poll = [])
    (hne : poll ≠ eof) (hbytes : payload (item :: inner) = payload inner) :
    Reads len (item :: inner) (payload (item :: inner)) poll ⟨inner, [], false⟩ where
  bytes := by rw [hpoll, hbytes, remaining_open rfl, List.nil_append, List.nil_append]
  fits := by
    rw [hpoll]
    exact Nat.zero_le _
  passed := ⟨[item], rfl, Or.inl ⟨rfl, hne, List.forall_mem_singleton.2 hitem⟩⟩

/-- A `Close` or the end. -/
theorem reads_eof {item : WsPoll ε} (hitem : item.isEnd = true)
    (hbytes : payload (item :: inner) = []) :
    Reads len (item :: inner) (payload (item :: inner)) eof ⟨inner, [], true⟩ where
  bytes := hbytes
  fits := Nat.zero_le _
  passed := ⟨[item], rfl, Or.inr ⟨rfl, rfl, [], item, rfl, hitem, nofun⟩⟩

theorem ready_ne_eof {bytes : List UInt8} (h : bytes ≠ []) :
    (.ready (.ok bytes) : PollRead ε) ≠ eof :=
  fun heq => h (Except.ok.inj (Poll.ready.inj heq))

/-- **The loop of one read.** -/
theorem reads_pollInner (hlen : 0 < len) (inner : List (WsPoll ε)) :
    Reads len inner (payload inner) (pollInner len inner).1 (pollInner len inner).2 := by
  induction inner using pollInner.induct with
  | case1 => exact ⟨rfl, Nat.zero_le _, [], rfl, Or.inl ⟨rfl, nofun, nofun⟩⟩
  | case2 inner => exact reads_nothing rfl rfl nofun rfl
  | case3 inner => exact reads_eof rfl rfl
  | case4 e inner => exact reads_nothing rfl rfl nofun rfl
  | case5 inner => exact reads_eof rfl rfl
  | case6 data inner hempty ih =>
      obtain rfl := List.isEmpty_iff.1 hempty
      rw [pollInner, if_pos hempty]
      exact ih.skip rfl rfl
  | case7 data inner hempty =>
      have hne : data ≠ [] := fun hnil => hempty (List.isEmpty_iff.2 hnil)
      rw [pollInner, if_neg hempty]
      refine ⟨?_, List.length_take_le .., [.ready (some (.ok (.binary data)))], rfl,
        Or.inl ⟨rfl, ready_ne_eof ?_, List.forall_mem_singleton.2 rfl⟩⟩
      · rw [remaining_open rfl, bytesOf, ← List.append_assoc, List.take_append_drop]
        rfl
      · rw [ne_eq, List.take_eq_nil_iff, not_or]
        exact ⟨by omega, hne⟩
  | case8 message inner hclose hbinary ih =>
      cases message with
      | close => exact absurd rfl hclose
      | binary data => exact absurd rfl (hbinary data)
      | text _ => exact ih.skip rfl rfl
      | ping _ => exact ih.skip rfl rfl
      | pong _ => exact ih.skip rfl rfl
      | frame _ => exact ih.skip rfl rfl

/-- **One read of an open endpoint.** -/
theorem reads_pollRead (hlen : 0 < len) (hopen : ws.closed = false) :
    Reads len ws.inner ws.remaining (ws.pollRead len).1 (ws.pollRead len).2 := by
  cases hbuf : ws.readBuf.isEmpty with
  | true =>
      have hread : ws.pollRead len = pollInner len ws.inner := by
        rw [pollRead, hopen, hbuf]
        rfl
      rw [hread, remaining_open hopen, List.isEmpty_iff.1 hbuf]
      exact reads_pollInner hlen ws.inner
  | false =>
      have hread : ws.pollRead len =
          (.ready (.ok (ws.readBuf.take len)), { ws with readBuf := ws.readBuf.drop len }) := by
        rw [pollRead, hopen, hbuf]
        rfl
      have hne : ws.readBuf ≠ [] := by
        rwa [ne_eq, ← List.isEmpty_iff, Bool.not_eq_true]
      have hopen' : ({ ws with readBuf := ws.readBuf.drop len } : WsCompat ε).closed = false :=
        hopen
      rw [hread]
      refine ⟨?_, List.length_take_le .., [], rfl, Or.inl ⟨hopen, ready_ne_eof ?_, nofun⟩⟩
      · rw [remaining_open hopen, remaining_open hopen', bytesOf, ← List.append_assoc,
          List.take_append_drop]
      · rw [ne_eq, List.take_eq_nil_iff, not_or]
        exact ⟨by omega, hne⟩

/-- A closed endpoint reads nothing more. -/
theorem pollRead_closed (len : ℕ) (hclosed : ws.closed = true) : ws.pollRead len = (eof, ws) := by
  rw [pollRead, hclosed]
  rfl

/-! ### Runs of reads -/

theorem reads_cons (len : ℕ) (sizes : List ℕ) (ws : WsCompat ε) :
    reads (len :: sizes) ws = ((ws.pollRead len).1 :: (reads sizes (ws.pollRead len).2).1,
      (reads sizes (ws.pollRead len).2).2) :=
  rfl

theorem reads_closed (sizes : List ℕ) (hclosed : ws.closed = true) :
    reads sizes ws = (List.replicate sizes.length eof, ws) := by
  induction sizes with
  | nil => rfl
  | cons len sizes ih =>
      rw [reads_cons, pollRead_closed len hclosed, ih]
      rfl

/-- The bytes of a run come off the front. -/
theorem remaining_reads {sizes : List ℕ} (hsizes : ∀ len ∈ sizes, 0 < len) (ws : WsCompat ε) :
    ws.remaining = received (reads sizes ws).1 ++ (reads sizes ws).2.remaining := by
  induction sizes generalizing ws with
  | nil => rfl
  | cons len sizes ih =>
      obtain ⟨hlen, hlater⟩ := List.forall_mem_cons.1 hsizes
      rw [reads_cons, received, List.flatMap_cons, List.append_assoc, ← received,
        ← ih hlater (ws.pollRead len).2]
      cases hclosed : ws.closed with
      | true =>
          rw [pollRead_closed len hclosed]
          rfl
      | false => exact (reads_pollRead hlen hclosed).bytes

/-- **A run of an open endpoint** reaches no `Close` and no end and returns 0
nowhere, or it stops behind the first one. -/
theorem reads_ends {sizes : List ℕ} (hsizes : ∀ len ∈ sizes, 0 < len) (hopen : ws.closed = false) :
    ∃ passed, ws.inner = passed ++ (reads sizes ws).2.inner ∧
      (((reads sizes ws).2.closed = false ∧ eof ∉ (reads sizes ws).1 ∧
          ∀ item ∈ passed, item.isEnd = false) ∨
        ((reads sizes ws).2.closed = true ∧ ∃ before stop, passed = before ++ [stop] ∧
          stop.isEnd = true ∧ ∀ item ∈ before, item.isEnd = false)) := by
  induction sizes generalizing ws with
  | nil => exact ⟨[], rfl, Or.inl ⟨hopen, List.not_mem_nil, nofun⟩⟩
  | cons len sizes ih =>
      obtain ⟨hlen, hlater⟩ := List.forall_mem_cons.1 hsizes
      obtain ⟨-, -, passed, hpassed, hread⟩ := reads_pollRead hlen hopen
      rw [reads_cons]
      rcases hread with ⟨hopen', hpoll, hall⟩ | ⟨hclosed, -, hstop⟩
      · obtain ⟨passed', hpassed', hrun⟩ := ih hlater hopen'
        refine ⟨passed ++ passed', by rw [hpassed, hpassed', List.append_assoc], ?_⟩
        rcases hrun with ⟨hopen'', hnone, hall'⟩ | ⟨hclosed, before, stop, rfl, hstop, hall'⟩
        · exact Or.inl ⟨hopen'', List.not_mem_cons_of_ne_of_not_mem (Ne.symm hpoll) hnone,
            List.forall_mem_append.2 ⟨hall, hall'⟩⟩
        · refine Or.inr ⟨hclosed, passed ++ before, stop, ?_, hstop,
            List.forall_mem_append.2 ⟨hall, hall'⟩⟩
          rw [List.append_assoc]
      · refine ⟨passed, ?_, Or.inr ⟨?_, hstop⟩⟩
        · rw [hpassed, reads_closed sizes hclosed]
        · rw [reads_closed sizes hclosed]
          exact hclosed

/-- Behind a read that returned 0, all do. -/
theorem eof_forever {sizes : List ℕ} (hsizes : ∀ len ∈ sizes, 0 < len)
    {before after : List (PollRead ε)} (h : (reads sizes ws).1 = before ++ eof :: after) :
    ∀ poll ∈ after, poll = eof := by
  induction sizes generalizing ws before with
  | nil =>
      have hlen := congrArg List.length h
      rw [List.length_append, List.length_cons] at hlen
      exact absurd hlen.symm (Nat.succ_ne_zero _)
  | cons len sizes ih =>
      obtain ⟨hlen, hlater⟩ := List.forall_mem_cons.1 hsizes
      rw [reads_cons] at h
      cases before with
      | cons poll before => exact ih hlater (List.cons.inj h).2
      | nil =>
          obtain ⟨hpoll, hrest⟩ := List.cons.inj h
          have hclosed : (ws.pollRead len).2.closed = true := by
            cases hws : ws.closed with
            | true =>
                rw [pollRead_closed len hws]
                exact hws
            | false =>
                obtain ⟨-, -, passed, -, hread⟩ := reads_pollRead hlen hws
                rcases hread with ⟨-, hne, -⟩ | ⟨hclosed, -⟩
                · exact absurd hpoll hne
                · exact hclosed
          rw [reads_closed sizes hclosed] at hrest
          rw [← hrest]
          exact fun poll hpoll => List.eq_of_mem_replicate hpoll

/-! ### Writes -/

/-- What the sink answers to one write. -/
structure SinkPoll (ε : Type) where
  pollReady : Poll (Except ε Unit)
  startSend : Except ε Unit

/-- `poll_write`, with the message it hands to the sink. -/
def pollWrite (sink : SinkPoll ε) (buf : List UInt8) : Poll (Except ε ℕ) × Option WsMessage :=
  match sink.pollReady with
  | .ready (.ok ()) =>
      match sink.startSend with
      | .ok () => (.ready (.ok buf.length), some (.binary buf))
      | .error e => (.ready (.error e), none)
  | .ready (.error e) => (.ready (.error e), none)
  | .pending => (.pending, none)

/-- The bytes a write accepted. -/
def acceptedOf (write : SinkPoll ε × List UInt8) : List UInt8 :=
  match (pollWrite write.1 write.2).1 with
  | .ready (.ok n) => write.2.take n
  | _ => []

def accepted (writes : List (SinkPoll ε × List UInt8)) : List UInt8 :=
  writes.flatMap acceptedOf

/-- The messages of the writes. -/
def sent (writes : List (SinkPoll ε × List UInt8)) : List WsMessage :=
  writes.filterMap fun write => (pollWrite write.1 write.2).2

/-- The sink's side of a connection: `messages` went in at one end, and what came
out at the other so far are binary messages with these payloads. -/
def Delivered (messages : List WsMessage) (payloads : List (List UInt8)) : Prop :=
  payloads.map WsMessage.binary <+: messages

/-- What is accepted is sent, as one binary message for each write. -/
theorem accepted_eq (writes : List (SinkPoll ε × List UInt8)) :
    ∃ payloads : List (List UInt8), sent writes = payloads.map WsMessage.binary ∧
      accepted writes = payloads.flatten := by
  induction writes with
  | nil => exact ⟨[], rfl, rfl⟩
  | cons write writes ih =>
      obtain ⟨payloads, hsent, haccepted⟩ := ih
      have hone : ((pollWrite write.1 write.2).2 = some (.binary write.2) ∧
          acceptedOf write = write.2) ∨
          ((pollWrite write.1 write.2).2 = none ∧ acceptedOf write = []) := by
        obtain ⟨⟨ready, startSend⟩, buf⟩ := write
        rcases ready with (e | ⟨⟩) | _
        · exact Or.inr ⟨rfl, rfl⟩
        · rcases startSend with e | ⟨⟩
          · exact Or.inr ⟨rfl, rfl⟩
          · exact Or.inl ⟨rfl, List.take_length⟩
        · exact Or.inr ⟨rfl, rfl⟩
      rw [sent] at hsent
      rw [accepted] at haccepted
      rw [sent, accepted, List.flatMap_cons, List.filterMap_cons]
      rcases hone with ⟨hmessage, hbytes⟩ | ⟨hmessage, hbytes⟩
      · exact ⟨write.2 :: payloads, by rw [hmessage, hsent]; rfl,
          by rw [hbytes, haccepted]; rfl⟩
      · exact ⟨payloads, by rw [hmessage, hsent], by rw [hbytes, haccepted]; rfl⟩

/-- What comes out is a beginning of what was accepted, and all of it when every
message did. -/
theorem payload_of_delivered {writes : List (SinkPoll ε × List UInt8)}
    (h : Delivered (sent writes) (binaries inner)) :
    payload inner <+: accepted writes ∧
      ((binaries inner).map WsMessage.binary = sent writes → payload inner = accepted writes) := by
  obtain ⟨payloads, hsent, haccepted⟩ := accepted_eq writes
  have hinj : Function.Injective WsMessage.binary := fun _ _ => WsMessage.binary.inj
  rw [Delivered, hsent] at h
  rw [hsent, haccepted, payload]
  constructor
  · have hlen := h.length_le
    rw [List.length_map, List.length_map] at hlen
    obtain ⟨rest, hrest⟩ : binaries inner <+: payloads := by
      rw [List.prefix_iff_eq_take] at h ⊢
      rw [List.length_map, ← List.map_take] at h
      exact List.map_injective_iff.2 hinj h
    exact ⟨rest.flatten, by rw [← hrest, List.flatten_append]⟩
  · intro heq
    rw [List.map_injective_iff.2 hinj heq]

/-! ### The adapter -/

/-- **`WsCompat` is a faithful byte stream.**  Reads with buffers that are not
empty return a beginning of the payloads before the first `Close` or end.  A
read returns 0 at that `Close` or end only; then all of it was returned, and every
later read returns 0.  When the messages are those of another endpoint's writes,
the bytes are the bytes those writes accepted. -/
theorem reads_faithful (items : List (WsPoll ε)) {sizes : List ℕ}
    (hsizes : ∀ len ∈ sizes, 0 < len) :
    received (reads sizes (new items)).1 <+: payload items ∧
      (eof ∈ (reads sizes (new items)).1 →
        received (reads sizes (new items)).1 = payload items ∧
          ∃ before stop, items = before ++ stop :: (reads sizes (new items)).2.inner ∧
            stop.isEnd = true ∧ ∀ item ∈ before, item.isEnd = false) ∧
      (∀ before after, (reads sizes (new items)).1 = before ++ eof :: after →
        ∀ poll ∈ after, poll = eof) ∧
      ∀ writes : List (SinkPoll ε × List UInt8), Delivered (sent writes) (binaries items) →
        received (reads sizes (new items)).1 <+: accepted writes ∧
          (eof ∈ (reads sizes (new items)).1 →
            (binaries items).map WsMessage.binary = sent writes →
            received (reads sizes (new items)).1 = accepted writes) := by
  have hbytes : payload items =
      received (reads sizes (new items)).1 ++ (reads sizes (new items)).2.remaining :=
    remaining_reads hsizes (new items)
  obtain ⟨passed, hpassed, hends⟩ := reads_ends hsizes (show (new items).closed = false from rfl)
  have hbegins : received (reads sizes (new items)).1 <+: payload items := ⟨_, hbytes.symm⟩
  have hall : eof ∈ (reads sizes (new items)).1 →
      received (reads sizes (new items)).1 = payload items := by
    intro heof
    rcases hends with ⟨-, hnone, -⟩ | ⟨hclosed, -⟩
    · exact absurd heof hnone
    · rw [hbytes, remaining_closed hclosed, List.append_nil]
  refine ⟨hbegins, fun heof => ⟨hall heof, ?_⟩, fun before after hpolls => ?_,
    fun writes hdelivered => ?_⟩
  · rcases hends with ⟨-, hnone, -⟩ | ⟨-, before, stop, rfl, hstop, hbefore⟩
    · exact absurd heof hnone
    · refine ⟨before, stop, ?_, hstop, hbefore⟩
      rw [List.append_assoc] at hpassed
      exact hpassed
  · exact eof_forever hsizes hpolls
  · obtain ⟨hbegins', heq⟩ := payload_of_delivered hdelivered
    exact ⟨hbegins.trans hbegins', fun heof hsame => (hall heof).trans (heq hsame)⟩

/-- Skipped items, an empty message, a pending poll and an error between two
messages. -/
def mixedItems : List (WsPoll Unit) :=
  [.ready (some (.ok (.ping [7]))), .ready (some (.ok (.binary [1, 2, 3]))), .pending,
    .ready (some (.error ())), .ready (some (.ok (.binary []))),
    .ready (some (.ok (.binary [4]))), .ready (some (.ok .close)),
    .ready (some (.ok (.binary [5])))]

/-- They are read two bytes at a time. -/
theorem reads_faithful_mixed :
    received (reads [2, 2, 2, 2, 2, 2] (new mixedItems)).1 = [1, 2, 3, 4] :=
  ((reads_faithful mixedItems (by decide)).2.1 (by decide)).1.trans (by decide)

end WsCompat

end Rgrok
