/-
# The bodies of a capture

A capture is to hold the whole body behind a head, or its first bytes with a
flag that says so.  It looks for the end of the head in a copy that is limited:
when the head ends beyond the limit the body is gone and the flag is not set,
and when head and body together are longer than the copy the body is short.
`Bridge.bodies_faithful_iff` says for which streams this does not happen.
-/

import Rgrok.Client.Capture

namespace Rgrok

/-- The bytes behind the first empty line. -/
def bodyOf (bytes : List UInt8) : List UInt8 :=
  match findBodyOffset bytes with
  | none => []
  | some offset => bytes.drop offset

/-- A body that is not presented as more complete than it is. -/
def BodyFaithful (maxBodyBytes : UInt64) (body : List UInt8) (stored : Option (List UInt8))
    (truncated : Bool) : Prop :=
  stored.getD [] = if truncated then body.take maxBodyBytes.toNat else body

instance (maxBodyBytes : UInt64) (body : List UInt8) (stored : Option (List UInt8))
    (truncated : Bool) : Decidable (BodyFaithful maxBodyBytes body stored truncated) :=
  inferInstanceAs (Decidable (_ = _))

/-- The stream fits: it has no head, or nothing behind its head, or the limit
has room for all of it, or room for its head and as much of the body as may be
kept, of which there is more, as the 64 bits of the total say. -/
def FitsCapture (maxBodyBytes : UInt64) (bytes : List UInt8) : Prop :=
  match findBodyOffset bytes with
  | none => True
  | some offset =>
      bytes.length = offset ∨ bytes.length ≤ CaptureBuffer.limitFor maxBodyBytes ∨
        (offset + maxBodyBytes.toNat ≤ CaptureBuffer.limitFor maxBodyBytes ∧
          offset + maxBodyBytes.toNat < bytes.length % 2 ^ 64)

variable {bytes : List UInt8} {maxBodyBytes : UInt64} {offset : ℕ}

/-- The end of a head is in the copy, or the copy ends before it. -/
theorem findBodyOffset_take (h : findBodyOffset bytes = some offset) (limit : ℕ) :
    offset ≤ bytes.length ∧
      ((findBodyOffset (bytes.take limit) = some offset ∧ offset ≤ limit) ∨
        (findBodyOffset (bytes.take limit) = none ∧ (bytes.take limit).length < offset)) := by
  obtain ⟨n, hpos, rfl⟩ := Option.map_eq_some_iff.1 h
  have hfound : n + 4 ≤ bytes.length := by
    obtain ⟨before, after, rfl, rfl⟩ := position_spec hpos
    simp only [List.length_append, crlfCrlf, List.length_cons, List.length_nil]
    omega
  refine ⟨hfound, ?_⟩
  rcases position_of_prefix hpos (List.take_prefix limit bytes) with ⟨hin, hle⟩ | ⟨hout, hlt⟩
  · rw [List.length_take] at hle
    have h4 : crlfCrlf.length = 4 := rfl
    exact Or.inl ⟨by rw [findBodyOffset, hin]; rfl, by omega⟩
  · exact Or.inr ⟨by rw [findBodyOffset, hout]; rfl, hlt⟩

theorem findBodyOffset_take_none (h : findBodyOffset bytes = none) (limit : ℕ) :
    findBodyOffset (bytes.take limit) = none := by
  rw [findBodyOffset, Option.map_eq_none_iff, position_eq_none] at h ⊢
  exact fun hin => h (hin.trans (List.take_prefix limit bytes).isInfix)

/-- **One direction.**  What is kept of a stream is faithful just when the
stream fits. -/
theorem bodyFaithful_iff :
    BodyFaithful maxBodyBytes (bodyOf bytes)
        (captureBody (bytes.take (CaptureBuffer.limitFor maxBodyBytes)) maxBodyBytes)
        (captureTruncated (bytes.take (CaptureBuffer.limitFor maxBodyBytes))
          (UInt64.ofNat bytes.length) maxBodyBytes) ↔
      FitsCapture maxBodyBytes bytes := by
  unfold BodyFaithful FitsCapture captureBody captureTruncated bodyOf
  cases hoffset : findBodyOffset bytes with
  | none =>
      rw [findBodyOffset_take_none hoffset]
      simp
  | some offset =>
      obtain ⟨hle, ⟨hfound, hroom⟩ | ⟨hlost, hcut⟩⟩ :=
        findBodyOffset_take hoffset (CaptureBuffer.limitFor maxBodyBytes)
      · rw [hfound]
        have htotal : (UInt64.ofNat bytes.length).toNat = bytes.length % 2 ^ 64 :=
          UInt64.toNat_ofNat'
        have hmod := Nat.mod_le bytes.length (2 ^ 64)
        have hlimit : CaptureBuffer.limitFor maxBodyBytes < 2 ^ 64 := by
          rw [CaptureBuffer.limitFor]
          omega
        have hsmall : bytes.length ≤ CaptureBuffer.limitFor maxBodyBytes →
            bytes.length % 2 ^ 64 = bytes.length := fun h => Nat.mod_eq_of_lt (by omega)
        -- what is stored, as so many bytes of the body
        have hstored : (if offset < (bytes.take (CaptureBuffer.limitFor maxBodyBytes)).length then
              some (((bytes.take (CaptureBuffer.limitFor maxBodyBytes)).drop offset).take
                maxBodyBytes.toNat) else none).getD [] =
            (bytes.drop offset).take
              (min maxBodyBytes.toNat (CaptureBuffer.limitFor maxBodyBytes - offset)) := by
          rw [List.drop_take, List.take_take]
          split
          · rfl
          · rename_i hend
            rw [List.length_take] at hend
            rw [Option.getD_none, eq_comm, List.take_eq_nil_iff, List.drop_eq_nil_iff]
            omega
        dsimp only
        rw [hstored, htotal]
        by_cases hlong : maxBodyBytes.toNat < bytes.length % 2 ^ 64 - offset
        · simp only [decide_eq_true hlong, if_true]
          rw [List.take_eq_take_iff, List.length_drop]
          omega
        · simp only [decide_eq_false hlong, Bool.false_eq_true, if_false]
          rw [List.take_eq_self_iff, List.length_drop]
          omega
      · rw [hlost]
        rw [List.length_take] at hcut
        dsimp only
        rw [if_neg Bool.false_ne_true, Option.getD_none, eq_comm, List.drop_eq_nil_iff]
        omega

/-! ### The bridge -/

namespace Bridge

variable {upstream localStream : ByteStream UInt8} {bridge : Bridge} {stamp : CaptureStamp}
  {capture : CapturedRequest}

/-- The body fields of a capture, direction by direction. -/
theorem capture_bodies (h : bridge.capture stamp maxBodyBytes = some capture) :
    capture.reqBody = captureBody bridge.request.capture.bytes maxBodyBytes ∧
      capture.reqBodyTruncated =
        captureTruncated bridge.request.capture.bytes bridge.request.total maxBodyBytes ∧
      capture.respBody = captureBody bridge.response.capture.bytes maxBodyBytes ∧
      capture.respBodyTruncated =
        captureTruncated bridge.response.capture.bytes bridge.response.total maxBodyBytes := by
  obtain ⟨parsed, hparse, rfl⟩ := Option.map_eq_some_iff.1 h
  have hfields : parsed.reqBody = captureBody bridge.request.capture.bytes maxBodyBytes ∧
      parsed.respBody = none ∧ parsed.respBodyTruncated = false := by
    rw [parseRequestForCapture] at hparse
    split at hparse
    · cases hparse
    · split at hparse
      · obtain rfl := Option.some.inj hparse
        exact ⟨rfl, rfl, rfl⟩
      · cases hparse
  obtain ⟨hbody, hnone, hfalse⟩ := hfields
  unfold CapturedRequest.answered
  split
  · rename_i hempty
    rw [List.isEmpty_iff.1 hempty]
    exact ⟨hbody, rfl, hnone, hfalse⟩
  · exact ⟨hbody, rfl, rfl, rfl⟩

/-- Two streams that end, the first with a request line, leave a capture. -/
theorem exists_capture (upstream localStream : ByteStream UInt8) (hup : upstream.ending = .eof)
    (hlocal : localStream.ending = .eof) (stamp : CaptureStamp) (maxBodyBytes : UInt64)
    (hparse : (parseRequestForCapture stamp
      (upstream.bytes.take (CaptureBuffer.limitFor maxBodyBytes)) maxBodyBytes).isSome = true) :
    ∃ bridge capture, (machine upstream localStream maxBodyBytes).Reachable bridge ∧
      bridge.Finished ∧ bridge.capture stamp maxBodyBytes = some capture := by
  have hinit : (machine upstream localStream maxBodyBytes).Reachable
      ⟨.new upstream maxBodyBytes, .new localStream maxBodyBytes⟩ := .init rfl
  obtain ⟨as, bridge, path, hdone⟩ := exists_finished hup hlocal hinit (not_or.2 ⟨nofun, nofun⟩)
  have r := path.reachedBy (fun _ _ _ => trivial) hinit
  obtain ⟨-, -, -, hcapture⟩ := (carries r).1.finished hdone.1
  have hsome : (bridge.capture stamp maxBodyBytes).isSome = true := by
    rw [capture, captureExchange, hcapture, Option.isSome_map]
    exact hparse
  obtain ⟨made, hmade⟩ := Option.isSome_iff_exists.1 hsome
  exact ⟨bridge, made, r, hdone, hmade⟩

/-- **The bodies of a capture are whole, or said not to be**, just when both
streams fit.  For every bridge between streams that end without an error, once
both pumps have returned and there is something to capture. -/
theorem bodies_faithful_iff (upstream localStream : ByteStream UInt8)
    (inspect : InspectState) (stamp : CaptureStamp) (bridge : Bridge) (capture : CapturedRequest)
    (r : (machine upstream localStream inspect.maxBodyBytes).Reachable bridge)
    (hdone : bridge.Finished)
    (hcapture : bridge.capture stamp inspect.maxBodyBytes = some capture) :
    (∃ older, (bridge.finish stamp inspect).1.captures = older ++ [capture.sanitize]) ∧
    ((BodyFaithful inspect.maxBodyBytes (bodyOf upstream.bytes) capture.sanitize.reqBody
        capture.sanitize.reqBodyTruncated ∧
      BodyFaithful inspect.maxBodyBytes (bodyOf localStream.bytes) capture.sanitize.respBody
        capture.sanitize.respBodyTruncated) ↔
    FitsCapture inspect.maxBodyBytes upstream.bytes ∧
      FitsCapture inspect.maxBodyBytes localStream.bytes) := by
  refine ⟨?_, ?_⟩
  · rw [finish, hcapture]
    exact ⟨_, rfl⟩
  · obtain ⟨hreq, hreqTruncated, hresp, hrespTruncated⟩ := capture_bodies hcapture
    obtain ⟨crequest, cresponse⟩ := carries r
    obtain ⟨-, -, hin, hinCapture⟩ := crequest.finished hdone.1
    obtain ⟨-, -, hout, houtCapture⟩ := cresponse.finished hdone.2
    rw [CapturedRequest.sanitize, hreq, hreqTruncated, hresp, hrespTruncated, hin, hout,
      hinCapture, houtCapture]
    exact and_congr bodyFaithful_iff bodyFaithful_iff

/-! ### A head beyond the limit -/

def shortRequest : ByteStream UInt8 :=
  ⟨[Text.utf8 "GET / HTTP/1.1\r\n\r\n"], .eof, by decide +kernel⟩

def shortAnswer : ByteStream UInt8 :=
  ⟨[Text.utf8 "HTTP/1.1 200 OK\r\n", Text.utf8 "\r\nhi"], .eof, by decide +kernel⟩

theorem bodies_faithful_short :
    ∃ capture : CapturedRequest,
      BodyFaithful 1 (bodyOf shortAnswer.bytes) capture.sanitize.respBody
        capture.sanitize.respBodyTruncated := by
  obtain ⟨bridge, capture, r, hdone, hcapture⟩ :=
    exists_capture shortRequest shortAnswer rfl rfl ⟨"id", 0, 0⟩ 1 (by decide +kernel)
  refine ⟨capture, ((bodies_faithful_iff shortRequest shortAnswer ⟨[], 100, 1⟩ ⟨"id", 0, 0⟩
    bridge capture r hdone hcapture).2.2 ⟨?_, ?_⟩).2⟩
  · exact Or.inl (by decide +kernel)
  · exact Or.inr (Or.inl (by decide +kernel))

/-- A status line of more than 64 KiB. -/
def longLine : List UInt8 :=
  Text.utf8 "HTTP/1.1 200 " ++ List.replicate 65536 97

def longAnswer : ByteStream UInt8 :=
  ⟨[longLine ++ crlf ++ crlf ++ [104, 105]], .eof, by simp [crlf]⟩

theorem findBodyOffset_longAnswer :
    findBodyOffset longAnswer.bytes = some (longLine.length + 4) := by
  have hplain : ¬ crlf <:+: longLine := by
    intro hin
    have hmem := hin.subset (List.mem_cons_self (a := 13))
    rw [longLine, List.mem_append, List.mem_replicate] at hmem
    rcases hmem with hmem | ⟨-, hmem⟩
    · exact absurd hmem (by decide +kernel)
    · exact absurd hmem (by decide)
  have hne : longLine ≠ [] :=
    List.append_ne_nil_of_left_ne_nil (by decide +kernel) _
  obtain ⟨n, hpos, hlen⟩ := position_section (List.cons_ne_nil longLine [])
    (List.forall_mem_singleton.2 ⟨hne, hplain⟩)
  have hbytes : longAnswer.bytes =
      ([longLine].flatMap fun line => line ++ crlf) ++ crlf ++ [104, 105] := by
    simp [longAnswer, ByteStream.bytes]
  rw [findBodyOffset, hbytes, position_append hpos, Option.map_some, hlen]
  simp [crlf]

theorem long_head_loses_body :
    ∃ bridge capture, (machine shortRequest longAnswer 10).Reachable bridge ∧ bridge.Finished ∧
      bridge.capture ⟨"id", 0, 0⟩ 10 = some capture ∧ bodyOf longAnswer.bytes = [104, 105] ∧
      capture.sanitize.respBody = none ∧ capture.sanitize.respBodyTruncated = false ∧
      ¬ BodyFaithful 10 (bodyOf longAnswer.bytes) capture.sanitize.respBody
        capture.sanitize.respBodyTruncated := by
  obtain ⟨bridge, capture, r, hdone, hcapture⟩ :=
    exists_capture shortRequest longAnswer rfl rfl ⟨"id", 0, 0⟩ 10 (by decide +kernel)
  obtain ⟨-, -, hbody, htruncated⟩ := capture_bodies hcapture
  obtain ⟨-, -, -, hkept⟩ := (carries r).2.finished hdone.2
  have hlost : findBodyOffset bridge.response.capture.bytes = none := by
    obtain ⟨-, ⟨-, hroom⟩ | ⟨hnone, -⟩⟩ := findBodyOffset_take findBodyOffset_longAnswer
      (CaptureBuffer.limitFor 10)
    · rw [longLine, List.length_append, List.length_replicate] at hroom
      have hlimit : CaptureBuffer.limitFor 10 = 65546 := by decide
      have hline : (Text.utf8 "HTTP/1.1 200 ").length = 13 := by decide +kernel
      omega
    · rw [hkept, hnone]
  have hall : bodyOf longAnswer.bytes = [104, 105] := by
    rw [bodyOf, findBodyOffset_longAnswer]
    have hbytes : longAnswer.bytes = (longLine ++ crlf ++ crlf) ++ [104, 105] := by
      simp [longAnswer, ByteStream.bytes]
    have hlen : longLine.length + 4 = (longLine ++ crlf ++ crlf).length := by
      simp [crlf]
    rw [hbytes, hlen]
    exact List.drop_left
  have hnone : capture.sanitize.respBody = none := by
    show capture.respBody = none
    rw [hbody, captureBody, hlost]
  have hfalse : capture.sanitize.respBodyTruncated = false := by
    show capture.respBodyTruncated = false
    rw [htruncated, captureTruncated, hlost]
  refine ⟨bridge, capture, r, hdone, hcapture, hall, hnone, hfalse, ?_⟩
  rw [BodyFaithful, hnone, hfalse, hall]
  decide

end Bridge

end Rgrok
