/-
# The client's bridge to the local service

`crates/rgrok-client/src/local_proxy.rs`: a tunnel stream and a connection to
the local service, the bytes of each carried to the other by a pump, and a
bounded copy of both directions if the traffic is inspected.

A pump is one run of `forward_and_capture` and a bridge is the two pumps of
`bridge_with_capture`, which take their steps in any order.  The destination of
a pump takes what it is given in parts of any size.
-/

import Mathlib.Algebra.Group.Nat.Defs
import Rgrok.Lib.Intake
import Rgrok.Lib.Machine

namespace Rgrok

/-- `HEADER_CAPTURE_ALLOWANCE`. -/
def headerCaptureAllowance : ℕ := 65536

/-- The array a pump reads into. -/
def pumpBufferSize : ℕ := 8192

/-! ### What is kept of a direction -/

/-- `CaptureBuffer`. -/
structure CaptureBuffer where
  bytes : List UInt8
  limit : ℕ
  bounded : bytes.length ≤ limit

namespace CaptureBuffer

/-- The limit: the body and an allowance for its head, `saturating_add`. -/
def limitFor (maxBodyBytes : UInt64) : ℕ :=
  min (maxBodyBytes.toNat + headerCaptureAllowance) (2 ^ 64 - 1)

/-- `CaptureBuffer::new`. -/
def new (maxBodyBytes : UInt64) : CaptureBuffer where
  bytes := []
  limit := limitFor maxBodyBytes
  bounded := Nat.zero_le _

/-- `CaptureBuffer::append`. -/
def append (capture : CaptureBuffer) (data : List UInt8) : CaptureBuffer where
  bytes := capture.bytes ++ data.take (capture.limit - capture.bytes.length)
  limit := capture.limit
  bounded := by
    have hle := capture.bounded
    rw [List.length_append, List.length_take]
    omega

@[simp]
theorem limit_append (capture : CaptureBuffer) (data : List UInt8) :
    (capture.append data).limit = capture.limit :=
  rfl

/-- **Appending to the beginning of a stream** gives the beginning of the longer
one. -/
theorem bytes_append {capture : CaptureBuffer} {seen : List UInt8} (data : List UInt8)
    (h : capture.bytes = seen.take capture.limit) :
    (capture.append data).bytes = (seen ++ data).take capture.limit := by
  show capture.bytes ++ data.take (capture.limit - capture.bytes.length) = _
  rw [h, List.take_append, List.length_take]
  congr 2
  omega

end CaptureBuffer

/-! ### One direction -/

/-- Where `forward_and_capture` stands: before `read`, in `write_all` with the
part of the chunk that is still to be written, before `shutdown`, or returned. -/
inductive PumpPhase
  | reading
  | writing (chunk rest : List UInt8)
  | shutting
  | finished
  | failed
deriving DecidableEq

/-- A run of `forward_and_capture`, with what its destination has got. -/
structure Pump where
  source : ByteStream UInt8
  phase : PumpPhase
  written : List UInt8
  shut : Bool
  capture : CaptureBuffer
  total : UInt64

/-- What happens next to a pump; `accept n` is a write of `n` bytes. -/
inductive PumpAction
  | read
  | accept (n : ℕ)
  | shutdown
  | fail
deriving DecidableEq

namespace Pump

def new (source : ByteStream UInt8) (maxBodyBytes : UInt64) : Pump where
  source := source
  phase := .reading
  written := []
  shut := false
  capture := .new maxBodyBytes
  total := 0

/-- A chunk that is written: `capture.append` and `total += n`. -/
def afterWrite (pump : Pump) (chunk : List UInt8) : Pump :=
  { pump with
    phase := .reading
    capture := pump.capture.append chunk
    total := pump.total + UInt64.ofNat chunk.length }

/-- `forward_and_capture`. -/
def step (pump : Pump) : PumpAction → Option Pump
  | .read =>
      match pump.phase with
      | .reading =>
          match pump.source.read pumpBufferSize with
          | .waiting => none
          | .ended => some { pump with phase := .shutting }
          | .broken => some { pump with phase := .failed }
          | .read piece source => some { pump with source, phase := .writing piece piece }
      | _ => none
  | .accept n =>
      match pump.phase with
      | .writing chunk rest =>
          if 0 < n ∧ n ≤ rest.length then
            let pump := { pump with written := pump.written ++ rest.take n }
            if n = rest.length then some (pump.afterWrite chunk)
            else some { pump with phase := .writing chunk (rest.drop n) }
          else none
      | _ => none
  | .shutdown =>
      match pump.phase with
      | .shutting => some { pump with phase := .finished, shut := true }
      | _ => none
  | .fail =>
      match pump.phase with
      | .writing _ _ | .shutting => some { pump with phase := .failed }
      | _ => none

/-- **What a step of a pump does.** -/
theorem step_cases {pump pump' : Pump} {a : PumpAction} (h : pump.step a = some pump') :
    (a = .read ∧ pump.phase = .reading ∧
        ((pump.source.read pumpBufferSize = .ended ∧ pump' = { pump with phase := .shutting }) ∨
          (pump.source.read pumpBufferSize = .broken ∧ pump' = { pump with phase := .failed }) ∨
          ∃ piece source, pump.source.read pumpBufferSize = .read piece source ∧
            pump' = { pump with source, phase := .writing piece piece })) ∨
      (∃ n chunk rest, a = .accept n ∧ pump.phase = .writing chunk rest ∧ 0 < n ∧
        n ≤ rest.length ∧
        ((n = rest.length ∧
            pump' = { pump with written := pump.written ++ rest }.afterWrite chunk) ∨
          (n < rest.length ∧
            pump' = { pump with
              written := pump.written ++ rest.take n, phase := .writing chunk (rest.drop n) }))) ∨
      (a = .shutdown ∧ pump.phase = .shutting ∧
        pump' = { pump with phase := .finished, shut := true }) ∨
      (a = .fail ∧ ((∃ chunk rest, pump.phase = .writing chunk rest) ∨ pump.phase = .shutting) ∧
        pump' = { pump with phase := .failed }) := by
  cases a with
  | read =>
      refine Or.inl ⟨rfl, ?_⟩
      simp only [step] at h
      split at h
      · rename_i hphase
        refine ⟨hphase, ?_⟩
        split at h
        · cases h
        · rename_i hread
          exact Or.inl ⟨hread, (Option.some.inj h).symm⟩
        · rename_i hread
          exact Or.inr (Or.inl ⟨hread, (Option.some.inj h).symm⟩)
        · rename_i piece source hread
          exact Or.inr (Or.inr ⟨piece, source, hread, (Option.some.inj h).symm⟩)
      · cases h
  | accept n =>
      refine Or.inr (Or.inl ?_)
      simp only [step] at h
      split at h
      · rename_i chunk rest hphase
        split at h
        · rename_i hn
          refine ⟨n, chunk, rest, rfl, hphase, hn.1, hn.2, ?_⟩
          split at h
          · rename_i hall
            refine Or.inl ⟨hall, ?_⟩
            rw [hall, List.take_length] at h
            exact (Option.some.inj h).symm
          · exact Or.inr ⟨by omega, (Option.some.inj h).symm⟩
        · cases h
      · cases h
  | shutdown =>
      refine Or.inr (Or.inr (Or.inl ⟨rfl, ?_⟩))
      simp only [step] at h
      split at h
      · rename_i hphase
        exact ⟨hphase, (Option.some.inj h).symm⟩
      · cases h
  | fail =>
      refine Or.inr (Or.inr (Or.inr ⟨rfl, ?_⟩))
      simp only [step] at h
      split at h
      · rename_i chunk rest hphase
        exact ⟨Or.inl ⟨chunk, rest, hphase⟩, (Option.some.inj h).symm⟩
      · rename_i hphase
        exact ⟨Or.inr hphase, (Option.some.inj h).symm⟩
      · cases h

end Pump

/-! ### Both directions -/

/-- The two directions: `request` goes to the local service, `response` comes
back from it. -/
inductive Direction
  | request
  | response
deriving DecidableEq

/-- A run of `bridge_with_capture`. -/
structure Bridge where
  request : Pump
  response : Pump

/-- `TunnelStats`, as far as a bridge writes it. -/
structure TunnelStats where
  bytesIn : UInt64
  bytesOut : UInt64
deriving DecidableEq

/-- `record_bytes_in` and `record_bytes_out`; `fetch_add` wraps. -/
def TunnelStats.record (stats : TunnelStats) (bytesIn bytesOut : UInt64) : TunnelStats where
  bytesIn := stats.bytesIn + bytesIn
  bytesOut := stats.bytesOut + bytesOut

/-- What the two destinations have got. -/
structure Traffic where
  toLocal : List UInt8
  toUpstream : List UInt8
  localShut : Bool
  upstreamShut : Bool
deriving DecidableEq

namespace Bridge

/-- `try_join!` returns with the first error. -/
def step (bridge : Bridge) (a : Direction × PumpAction) : Option Bridge :=
  if bridge.request.phase = .failed ∨ bridge.response.phase = .failed then none
  else
    match a.1 with
    | .request => (bridge.request.step a.2).map fun request => { bridge with request }
    | .response => (bridge.response.step a.2).map fun response => { bridge with response }

/-- The bridge between two streams. -/
def machine (upstream localStream : ByteStream UInt8) (maxBodyBytes : UInt64) :
    Machine Bridge (Direction × PumpAction) where
  init bridge := bridge = ⟨.new upstream maxBodyBytes, .new localStream maxBodyBytes⟩
  step := step

variable (bridge : Bridge)

/-- Both pumps have returned. -/
def Finished : Prop :=
  bridge.request.phase = .finished ∧ bridge.response.phase = .finished

instance : Decidable bridge.Finished :=
  inferInstanceAs (Decidable (_ ∧ _))

def Failed : Prop :=
  bridge.request.phase = .failed ∨ bridge.response.phase = .failed

def traffic : Traffic where
  toLocal := bridge.request.written
  toUpstream := bridge.response.written
  localShut := bridge.request.shut
  upstreamShut := bridge.response.shut

/-- The totals that go into the stats. -/
def record (stats : TunnelStats) : TunnelStats :=
  stats.record bridge.request.total bridge.response.total

end Bridge

/-! ### Without inspection -/

/-- `tokio::io::copy_bidirectional`: what it does with two streams and the two
numbers it returns; `none` is an error. -/
abbrev CopyBidirectional :=
  ByteStream UInt8 → ByteStream UInt8 → Option (Traffic × UInt64 × UInt64)

/-- What its documentation says: it copies from each stream to the other until
both have ended, shuts each down after the other's end, and returns how many
bytes went each way. -/
def CopyBidirectional.CopiesToTheEnd (copy : CopyBidirectional) : Prop :=
  ∀ a b, a.ending = .eof → b.ending = .eof →
    copy a b = some (⟨a.bytes, b.bytes, true, true⟩, UInt64.ofNat a.bytes.length,
      UInt64.ofNat b.bytes.length)

/-- `bridge_streams` without inspection. -/
def bridgeStreams (copy : CopyBidirectional) (upstream localStream : ByteStream UInt8)
    (stats : TunnelStats) : Option (Traffic × TunnelStats) :=
  (copy upstream localStream).map fun (traffic, up, down) => (traffic, stats.record up down)

end Rgrok
