/-
# The two readers of the control stream

`read_msg_from_stream` and `write_msg_to_stream` in
`crates/rgrok-proto/src/transport.rs`, and `run_control_io` in
`crates/rgrok-client/src/tunnel.rs`.

The client reads its handshake with `read_msg_from_stream` and hands the
stream to a `Framed` with a `LengthDelimitedCodec`, which keeps a buffer of its
own.  The codec is a library's; it is a parameter here, with what its
documentation says of a four-byte length.
-/

import Rgrok.Lib.Arrivals
import Rgrok.Proto.Transport

namespace Rgrok

/-- `MAX_CONTROL_MESSAGE_BYTES`. -/
def maxControlMessageBytes : ℕ := 1048576

/-- Why a message could not be read. -/
inductive ReadError
  | unexpectedEof
  | messageTooLarge (len : UInt32)
  | frameTooLarge
  | decode
deriving DecidableEq

/-- What the codec finds at the front of its buffer. -/
inductive Decoded
  | frame (body rest : List UInt8)
  | tooLarge
  | incomplete
deriving DecidableEq

/-- A length-delimited codec as `Framed` uses it. -/
structure LengthDelimitedCodec where
  encode : List UInt8 → Option (List UInt8)
  decode : List UInt8 → Decoded

namespace LengthDelimitedCodec

/-- A length in four bytes, most significant first, before each body, and a
limit on what the length may say. -/
structure BigEndianPrefix (codec : LengthDelimitedCodec) (maxFrameLength : ℕ) : Prop where
  encode : ∀ body, body.length ≤ maxFrameLength → codec.encode body = some (Framing.frame body)
  short : ∀ buffer, buffer.length < 4 → codec.decode buffer = .incomplete
  incomplete : ∀ (len : UInt32) part, len.toNat ≤ maxFrameLength → part.length < len.toNat →
    codec.decode (len.toBeBytes ++ part) = .incomplete
  frame : ∀ (len : UInt32) body rest, len.toNat ≤ maxFrameLength → body.length = len.toNat →
    codec.decode (len.toBeBytes ++ (body ++ rest)) = .frame body rest
  tooLarge : ∀ (len : UInt32) part, maxFrameLength < len.toNat →
    codec.decode (len.toBeBytes ++ part) = .tooLarge

/-- `framed.next()`: read into the buffer until it has a frame. -/
inductive Next
  | frame (body buffer : List UInt8) (arrivals : List (List UInt8))
  | error
  | waiting (buffer : List UInt8)
deriving DecidableEq

/-- `framed.next()` on a buffer and what arrives. -/
def next (codec : LengthDelimitedCodec) : List (List UInt8) → List UInt8 → Next
  | [], buffer =>
      match codec.decode buffer with
      | .frame body rest => .frame body rest []
      | .tooLarge => .error
      | .incomplete => .waiting buffer
  | piece :: arrivals, buffer =>
      match codec.decode buffer with
      | .frame body rest => .frame body rest (piece :: arrivals)
      | .tooLarge => .error
      | .incomplete => next codec arrivals (buffer ++ piece)

end LengthDelimitedCodec

variable {μ : Type*} (codec : MsgCodec μ) (framed : LengthDelimitedCodec)

/-- `read_msg_from_stream`. -/
def MsgCodec.readMsgFromStream (arrivals : List (List UInt8)) :
    Except ReadError (μ × List (List UInt8)) :=
  match Arrivals.readExact 4 arrivals with
  | none => .error .unexpectedEof
  | some (lenBuf, arrivals) =>
      let len := UInt32.ofBeBytes lenBuf
      if 1048576 < len then
        .error (.messageTooLarge len)
      else
        match Arrivals.readExact len.toNat arrivals with
        | none => .error .unexpectedEof
        | some (buf, arrivals) =>
            match codec.decode buf with
            | none => .error .decode
            | some msg => .ok (msg, arrivals)

/-- The first `k` messages, each with `read_msg_from_stream`. -/
def MsgCodec.readMsgs : ℕ → List (List UInt8) → Except ReadError (List μ × List (List UInt8))
  | 0, arrivals => .ok ([], arrivals)
  | k + 1, arrivals => do
      let (msg, arrivals) ← codec.readMsgFromStream arrivals
      let (msgs, arrivals) ← readMsgs k arrivals
      return (msg :: msgs, arrivals)

/-- The read branch of `run_control_io`. -/
def MsgCodec.nextMsg (arrivals : List (List UInt8)) (buffer : List UInt8) :
    Except ReadError (μ × List (List UInt8) × List UInt8) :=
  match framed.next arrivals buffer with
  | .waiting _ => .error .unexpectedEof
  | .error => .error .frameTooLarge
  | .frame body buffer arrivals =>
      match codec.decode body with
      | none => .error .decode
      | some msg => .ok (msg, arrivals, buffer)

/-- The next `n` messages that `run_control_io` sends on `inbound_tx`. -/
def MsgCodec.runControlIo : ℕ → List (List UInt8) → List UInt8 →
    Except ReadError (List μ × List (List UInt8) × List UInt8)
  | 0, arrivals, buffer => .ok ([], arrivals, buffer)
  | n + 1, arrivals, buffer => do
      let (msg, arrivals, buffer) ← codec.nextMsg framed arrivals buffer
      let (msgs, arrivals, buffer) ← runControlIo n arrivals buffer
      return (msg :: msgs, arrivals, buffer)

/-- The two ways a message is written: `write_msg_to_stream`, and `framed.send`
of `encode_msg`. -/
inductive Writer
  | writeMsgToStream
  | framedSend
deriving DecidableEq

/-- The bytes a writer writes. -/
def Writer.write : Writer → μ → Option (List UInt8)
  | .writeMsgToStream, msg => some (codec.writeMsgToStream msg)
  | .framedSend, msg => framed.encode (codec.encode msg)

/-- The bytes of a sequence of messages, each written by its writer. -/
def writeAll : List (Writer × μ) → Option (List UInt8)
  | [] => some []
  | (writer, msg) :: sent => do
      let bytes ← writer.write codec framed msg
      let rest ← writeAll sent
      return bytes ++ rest

/-! ### One message -/

variable {codec framed} {body rest buffer : List UInt8} {arrivals : List (List UInt8)} {msg : μ}

/-- The length of a body within the limit fits its four bytes. -/
theorem toNat_ofNat_length (h : body.length ≤ maxControlMessageBytes) :
    (UInt32.ofNat body.length).toNat = body.length := by
  rw [maxControlMessageBytes] at h
  rw [UInt32.toNat_ofNat', Nat.mod_eq_of_lt (by omega)]

/-- `read_msg_from_stream` undoes a frame within the limit. -/
theorem readMsgFromStream_frame (hlen : body.length ≤ maxControlMessageBytes)
    (hmsg : codec.decode body = some msg) (h : arrivals.flatten = Framing.frame body ++ rest) :
    ∃ arrivals', codec.readMsgFromStream arrivals = .ok (msg, arrivals') ∧
      arrivals'.flatten = rest := by
  rw [Framing.frame, List.append_assoc] at h
  obtain ⟨afterLength, hlength, hbody⟩ := Arrivals.readExact_eq h
  obtain ⟨arrivals', hread, hrest⟩ := Arrivals.readExact_eq hbody
  refine ⟨arrivals', ?_, hrest⟩
  rw [UInt32.length_toBeBytes] at hlength
  have hnat := toNat_ofNat_length hlen
  have hle : ¬ 1048576 < UInt32.ofNat body.length := by
    rw [UInt32.lt_iff_toNat_lt, hnat]
    exact Nat.not_lt.2 hlen
  simp only [MsgCodec.readMsgFromStream, hlength, UInt32.ofBeBytes_toBeBytes, hle, if_false,
    hnat, hread, hmsg]

/-- `read_msg_from_stream` rejects a frame over the limit by its length. -/
theorem readMsgFromStream_tooLarge (hlen : maxControlMessageBytes < body.length)
    (hfit : body.length < 2 ^ 32) (h : arrivals.flatten = Framing.frame body ++ rest) :
    codec.readMsgFromStream arrivals = .error (.messageTooLarge (UInt32.ofNat body.length)) := by
  rw [Framing.frame, List.append_assoc] at h
  obtain ⟨afterLength, hlength, -⟩ := Arrivals.readExact_eq h
  rw [UInt32.length_toBeBytes] at hlength
  have hlt : 1048576 < UInt32.ofNat body.length := by
    rw [UInt32.lt_iff_toNat_lt, UInt32.toNat_ofNat', Nat.mod_eq_of_lt hfit]
    exact hlen
  simp only [MsgCodec.readMsgFromStream, hlength, UInt32.ofBeBytes_toBeBytes, hlt, if_true]

namespace LengthDelimitedCodec

variable {maxFrameLength : ℕ}

/-- A buffer with four bytes of a frame has its length at the front. -/
theorem exists_part {more : List UInt8} (h : buffer ++ more = Framing.frame body ++ rest)
    (hlen : 4 ≤ buffer.length) :
    ∃ part, buffer = (UInt32.ofNat body.length).toBeBytes ++ part ∧
      part ++ more = body ++ rest := by
  rw [Framing.frame, List.append_assoc] at h
  obtain ⟨part, rfl⟩ : (UInt32.ofNat body.length).toBeBytes <+: buffer := by
    refine List.prefix_of_prefix_length_le ⟨body ++ rest, rfl⟩ ⟨more, h⟩ ?_
    rwa [UInt32.length_toBeBytes]
  rw [List.append_assoc] at h
  exact ⟨part, rfl, List.append_cancel_left h⟩

/-- A buffer with a part of a frame is incomplete; with all of it, the frame
comes out. -/
theorem BigEndianPrefix.decode_eq (hcodec : framed.BigEndianPrefix maxFrameLength)
    (hlen : body.length ≤ maxFrameLength) (hfit : body.length < 2 ^ 32) {more : List UInt8}
    (h : buffer ++ more = Framing.frame body ++ rest) :
    framed.decode buffer = .incomplete ∧ more ≠ [] ∨
      ∃ buffer', framed.decode buffer = .frame body buffer' ∧ buffer' ++ more = rest := by
  have htotal := congrArg List.length h
  simp only [Framing.frame, List.length_append, UInt32.length_toBeBytes] at htotal
  have hnat : (UInt32.ofNat body.length).toNat = body.length := by
    rw [UInt32.toNat_ofNat', Nat.mod_eq_of_lt hfit]
  by_cases hshort : buffer.length < 4
  · refine Or.inl ⟨hcodec.short buffer hshort, List.ne_nil_of_length_pos ?_⟩
    omega
  obtain ⟨part, rfl, hpart⟩ := exists_part h (Nat.le_of_not_lt hshort)
  have hpartLen := congrArg List.length hpart
  simp only [List.length_append] at hpartLen
  by_cases hincomplete : part.length < body.length
  · refine Or.inl ⟨hcodec.incomplete _ part ?_ ?_, List.ne_nil_of_length_pos ?_⟩
    · rwa [hnat]
    · rwa [hnat]
    · omega
  · obtain ⟨buffer', rfl⟩ : body <+: part :=
      List.prefix_of_prefix_length_le ⟨rest, rfl⟩ ⟨more, hpart⟩ (Nat.le_of_not_lt hincomplete)
    refine Or.inr ⟨buffer', hcodec.frame _ body buffer' ?_ hnat.symm, ?_⟩
    · rwa [hnat]
    · rw [List.append_assoc] at hpart
      exact List.append_cancel_left hpart

/-- `framed.next()` undoes a frame within the limit. -/
theorem BigEndianPrefix.next_frame (hcodec : framed.BigEndianPrefix maxFrameLength)
    (hlen : body.length ≤ maxFrameLength) (hfit : body.length < 2 ^ 32)
    (h : buffer ++ arrivals.flatten = Framing.frame body ++ rest) :
    ∃ buffer' arrivals', framed.next arrivals buffer = .frame body buffer' arrivals' ∧
      buffer' ++ arrivals'.flatten = rest := by
  induction arrivals generalizing buffer with
  | nil =>
      rcases hcodec.decode_eq hlen hfit h with ⟨-, hne⟩ | ⟨buffer', hdecode, hrest⟩
      · exact absurd rfl hne
      · exact ⟨buffer', [], by rw [next, hdecode], hrest⟩
  | cons piece arrivals ih =>
      rcases hcodec.decode_eq hlen hfit h with ⟨hdecode, -⟩ | ⟨buffer', hdecode, hrest⟩
      · rw [List.flatten_cons, ← List.append_assoc] at h
        obtain ⟨buffer', arrivals', hnext, hrest⟩ := ih h
        exact ⟨buffer', arrivals', by rw [next, hdecode, hnext], hrest⟩
      · exact ⟨buffer', piece :: arrivals, by rw [next, hdecode], hrest⟩

/-- `framed.next()` rejects a frame over the limit, once it has its length. -/
theorem BigEndianPrefix.next_tooLarge (hcodec : framed.BigEndianPrefix maxFrameLength)
    (hlen : maxFrameLength < body.length) (hfit : body.length < 2 ^ 32)
    (h : buffer ++ arrivals.flatten = Framing.frame body ++ rest) :
    framed.next arrivals buffer = .error := by
  have hdecode {buffer more : List UInt8} (h : buffer ++ more = Framing.frame body ++ rest)
      (hlong : 4 ≤ buffer.length) : framed.decode buffer = .tooLarge := by
    obtain ⟨part, rfl, -⟩ := exists_part h hlong
    refine hcodec.tooLarge _ part ?_
    rwa [UInt32.toNat_ofNat', Nat.mod_eq_of_lt hfit]
  induction arrivals generalizing buffer with
  | nil =>
      have htotal := congrArg List.length h
      simp only [Framing.frame, List.length_append, UInt32.length_toBeBytes, List.flatten_nil,
        List.length_nil] at htotal
      rw [next, hdecode h (by omega)]
  | cons piece arrivals ih =>
      by_cases hshort : buffer.length < 4
      · rw [next, hcodec.short buffer hshort]
        refine ih ?_
        rwa [List.flatten_cons, ← List.append_assoc] at h
      · rw [next, hdecode h (Nat.le_of_not_lt hshort)]

end LengthDelimitedCodec

/-! ### Sequences of messages -/

/-- What the messages of `sent` look like on the stream. -/
def frames (codec : MsgCodec μ) (sent : List (Writer × μ)) : List UInt8 :=
  sent.flatMap fun x => Framing.frame (codec.encode x.2)

/-- Every message of `sent` is within the limit and decodes to itself. -/
def Sendable (codec : MsgCodec μ) (sent : List (Writer × μ)) : Prop :=
  ∀ x ∈ sent, (codec.encode x.2).length ≤ maxControlMessageBytes ∧
    codec.decode (codec.encode x.2) = some x.2

variable {sent : List (Writer × μ)}

/-- Both writers write frames. -/
theorem writeAll_eq (hframed : framed.BigEndianPrefix maxControlMessageBytes)
    (hsent : Sendable codec sent) : writeAll codec framed sent = some (frames codec sent) := by
  induction sent with
  | nil => rfl
  | cons x sent ih =>
      obtain ⟨writer, msg⟩ := x
      have hwrite : writer.write codec framed msg = some (Framing.frame (codec.encode msg)) := by
        cases writer with
        | writeMsgToStream => rfl
        | framedSend => exact hframed.encode _ (hsent _ (List.mem_cons_self ..)).1
      have hrest := ih fun y hy => hsent y (List.mem_cons_of_mem _ hy)
      simp only [writeAll, hwrite, hrest, Option.bind_eq_bind, Option.bind_some]
      rfl

/-- `read_msg_from_stream` undoes the writers, one message after the other. -/
theorem readMsgs_frames (hsent : Sendable codec sent)
    (h : arrivals.flatten = frames codec sent ++ rest) :
    ∃ arrivals', codec.readMsgs sent.length arrivals = .ok (sent.map Prod.snd, arrivals') ∧
      arrivals'.flatten = rest := by
  induction sent generalizing arrivals with
  | nil => exact ⟨arrivals, rfl, h⟩
  | cons x sent ih =>
      obtain ⟨hlen, hmsg⟩ := hsent x (List.mem_cons_self ..)
      rw [frames, List.flatMap_cons, List.append_assoc] at h
      obtain ⟨middle, hread, hmiddle⟩ := readMsgFromStream_frame hlen hmsg h
      obtain ⟨arrivals', hreads, hrest⟩ :=
        ih (fun y hy => hsent y (List.mem_cons_of_mem _ hy)) hmiddle
      refine ⟨arrivals', ?_, hrest⟩
      rw [List.length_cons, MsgCodec.readMsgs, hread]
      simp only [bind, Except.bind, hreads]
      rfl

/-- `run_control_io` undoes the writers, one message after the other. -/
theorem runControlIo_frames (hframed : framed.BigEndianPrefix maxControlMessageBytes)
    (hsent : Sendable codec sent)
    (h : buffer ++ arrivals.flatten = frames codec sent ++ rest) :
    ∃ buffer' arrivals', codec.runControlIo framed sent.length arrivals buffer =
        .ok (sent.map Prod.snd, arrivals', buffer') ∧
      buffer' ++ arrivals'.flatten = rest := by
  induction sent generalizing buffer arrivals with
  | nil => exact ⟨buffer, arrivals, rfl, h⟩
  | cons x sent ih =>
      obtain ⟨hlen, hmsg⟩ := hsent x (List.mem_cons_self ..)
      have hfit : (codec.encode x.2).length < 2 ^ 32 := by
        rw [maxControlMessageBytes] at hlen
        omega
      rw [frames, List.flatMap_cons, List.append_assoc] at h
      obtain ⟨middleBuffer, middle, hnext, hmiddle⟩ := hframed.next_frame hlen hfit h
      obtain ⟨buffer', arrivals', hreads, hrest⟩ :=
        ih (fun y hy => hsent y (List.mem_cons_of_mem _ hy)) hmiddle
      refine ⟨buffer', arrivals', ?_, hrest⟩
      have hmsgs : codec.nextMsg framed arrivals buffer = .ok (x.2, middle, middleBuffer) := by
        simp only [MsgCodec.nextMsg, hnext, hmsg]
      rw [List.length_cons, MsgCodec.runControlIo, hmsgs]
      simp only [bind, Except.bind, hreads]
      rfl

/-- **Both readers undo both writers.**  However the bytes of a sequence of
messages arrive, the first `k` of them read with `read_msg_from_stream` and the
others with the codec of `run_control_io` are the messages that were written,
and what follows them is still to be read.  A frame one byte over the limit is
rejected by both readers. -/
theorem readers_undo_writers (codec : MsgCodec μ) (framed : LengthDelimitedCodec)
    (hframed : framed.BigEndianPrefix maxControlMessageBytes) :
    (∀ sent : List (Writer × μ),
      (∀ x ∈ sent, (codec.encode x.2).length ≤ maxControlMessageBytes) →
      (∀ x ∈ sent, codec.decode (codec.encode x.2) = some x.2) →
      ∃ bytes, writeAll codec framed sent = some bytes ∧
        ∀ arrivals rest, arrivals.flatten = bytes ++ rest → ∀ k ≤ sent.length,
          ∃ handedOver arrivals' buffer,
            codec.readMsgs k arrivals = .ok ((sent.map Prod.snd).take k, handedOver) ∧
            codec.runControlIo framed (sent.length - k) handedOver [] =
              .ok ((sent.map Prod.snd).drop k, arrivals', buffer) ∧
            buffer ++ arrivals'.flatten = rest) ∧
    (∀ body rest arrivals buffer, body.length = maxControlMessageBytes + 1 →
      (arrivals.flatten = Framing.frame body ++ rest →
        codec.readMsgFromStream arrivals = .error (.messageTooLarge 1048577)) ∧
      (buffer ++ arrivals.flatten = Framing.frame body ++ rest →
        codec.nextMsg framed arrivals buffer = .error .frameTooLarge)) := by
  constructor
  · intro sent hlen hcodec
    have hsent : Sendable codec sent := fun x hx => ⟨hlen x hx, hcodec x hx⟩
    refine ⟨frames codec sent, writeAll_eq hframed hsent, fun arrivals rest h k hk => ?_⟩
    have hsplit : frames codec sent = frames codec (sent.take k) ++ frames codec (sent.drop k) := by
      rw [frames, frames, frames, ← List.flatMap_append, List.take_append_drop]
    rw [hsplit, List.append_assoc] at h
    obtain ⟨handedOver, hfirst, hrest⟩ :=
      readMsgs_frames (fun x hx => hsent x (List.mem_of_mem_take hx)) h
    obtain ⟨buffer, arrivals', hsecond, hleft⟩ :=
      runControlIo_frames hframed (fun x hx => hsent x (List.mem_of_mem_drop hx))
        ((List.nil_append _).trans hrest)
    rw [List.length_take, Nat.min_eq_left hk, List.map_take] at hfirst
    rw [List.length_drop, List.map_drop] at hsecond
    exact ⟨handedOver, arrivals', buffer, hfirst, hsecond, hleft⟩
  · intro body rest arrivals buffer hbody
    have hlt : maxControlMessageBytes < body.length := by omega
    have hfit : body.length < 2 ^ 32 := by
      rw [hbody, maxControlMessageBytes]
      omega
    constructor
    · intro h
      have hread : codec.readMsgFromStream arrivals = _ := readMsgFromStream_tooLarge hlt hfit h
      rw [hbody] at hread
      exact hread
    · intro h
      rw [MsgCodec.nextMsg, hframed.next_tooLarge hlt hfit h]

/-- A four-byte length, most significant first, as the library documents it. -/
def lengthDelimited (maxFrameLength : ℕ) : LengthDelimitedCodec where
  encode body := if body.length ≤ maxFrameLength then some (Framing.frame body) else none
  decode buffer :=
    let len := (UInt32.ofBeBytes (buffer.take 4)).toNat
    if buffer.length < 4 then
      .incomplete
    else if maxFrameLength < len then
      .tooLarge
    else if buffer.length < 4 + len then
      .incomplete
    else
      .frame ((buffer.drop 4).take len) (buffer.drop (4 + len))

theorem lengthDelimited_bigEndianPrefix (maxFrameLength : ℕ) :
    (lengthDelimited maxFrameLength).BigEndianPrefix maxFrameLength := by
  have htake (len : UInt32) (part : List UInt8) : (len.toBeBytes ++ part).take 4 = len.toBeBytes :=
    List.take_left' len.length_toBeBytes
  have hdrop (len : UInt32) (part : List UInt8) : (len.toBeBytes ++ part).drop 4 = part :=
    List.drop_left' len.length_toBeBytes
  have hlen (len : UInt32) (part : List UInt8) :
      (len.toBeBytes ++ part).length = 4 + part.length := by
    rw [List.length_append, UInt32.length_toBeBytes]
  refine ⟨fun body h => if_pos h, fun buffer h => if_pos h, fun len part hmax hpart => ?_,
    fun len body rest hmax hbody => ?_, fun len part hmax => ?_⟩
  · simp only [lengthDelimited, htake, hlen, UInt32.ofBeBytes_toBeBytes]
    rw [if_neg (by omega), if_neg (by omega), if_pos (by omega)]
  · simp only [lengthDelimited, htake, hlen, UInt32.ofBeBytes_toBeBytes, List.length_append]
    rw [if_neg (by omega), if_neg (by omega), if_neg (by omega), ← List.drop_drop, hdrop,
      List.take_left' hbody, List.drop_left' hbody]
  · simp only [lengthDelimited, htake, hlen, UInt32.ofBeBytes_toBeBytes]
    rw [if_neg (by omega), if_pos hmax]

/-- `Pong { seq: 1 }` in MessagePack: a map with the entries `type` and `seq`. -/
def pongBytes : List UInt8 :=
  [0x82, 0xa4, 0x74, 0x79, 0x70, 0x65, 0xa4, 0x70, 0x6f, 0x6e, 0x67, 0xa3, 0x73, 0x65, 0x71, 0x01]

/-- The codec as far as `Pong { seq: 1 }` goes. -/
def pongCodec : MsgCodec ServerMsg where
  encode _ := pongBytes
  decode bytes := if bytes = pongBytes then some (.pong 1) else none

/-- Two pongs arrive in three pieces, and the first is read before the
hand-over. -/
theorem readers_undo_writers_pongs :
    ∃ handedOver arrivals' buffer,
      pongCodec.readMsgs 1 [(Framing.frame pongBytes).take 3,
        (Framing.frame pongBytes).drop 3 ++ (Framing.frame pongBytes).take 9, (Framing.frame pongBytes).drop 9] =
          .ok ([.pong 1], handedOver) ∧
      pongCodec.runControlIo (lengthDelimited maxControlMessageBytes) 1 handedOver [] =
        .ok ([.pong 1], arrivals', buffer) ∧
      buffer ++ arrivals'.flatten = [] := by
  obtain ⟨bytes, hbytes, hread⟩ :=
    (readers_undo_writers pongCodec (lengthDelimited maxControlMessageBytes)
      (lengthDelimited_bigEndianPrefix _)).1
      [(.writeMsgToStream, .pong 1), (.framedSend, .pong 1)]
      (fun _ _ => (by decide : pongBytes.length ≤ maxControlMessageBytes)) (fun x hx => by
        simp only [List.mem_cons, List.not_mem_nil, or_false] at hx
        rcases hx with rfl | rfl <;> rfl)
  have hwritten : bytes = Framing.frame pongBytes ++ (Framing.frame pongBytes ++ []) :=
    Option.some.inj (hbytes.symm.trans rfl)
  refine hread _ [] ?_ 1 (by decide)
  rw [hwritten]
  decide

end Rgrok
