/-
# Reading the control stream inside `select!`

The control loop of `handle_client` in `crates/rgrok-server/src/control.rs`,
with `read_msg_from_stream` byte by byte.

Each turn of the loop starts a new `read_msg_from_stream`.  When another branch
of the `select!` completes first the future is dropped, and what it had taken
from the stream is gone.  `written` and `handled` record the messages the
client wrote and those given to `handle_control_msg`; no step reads them.
-/

import Rgrok.Lib.Machine
import Rgrok.Proto.Transport
import Rgrok.Server.Interleaving

namespace Rgrok

/-- Where the control loop stands. -/
inductive LoopPhase
  | top
  | select (reader : Framing.Reader)
  | handling
  | ended
deriving DecidableEq

/-- The bytes the loop has taken for a message it has not finished reading. -/
def LoopPhase.taken : LoopPhase → List UInt8
  | .select reader => reader.taken
  | .top | .handling | .ended => []

/-- The client's half of the control stream: bytes on their way, bytes that
arrived and were not read, and the loop that reads them. -/
structure ControlReader where
  written : List ClientMsg
  transit : List UInt8
  arrived : List UInt8
  loop : LoopPhase
  handled : List ClientMsg

namespace ControlReader

/-- A session after `AuthOk`. -/
def new : ControlReader where
  written := []
  transit := []
  arrived := []
  loop := .top
  handled := []

/-- A step of the client, the network or the loop. -/
inductive Action
  | write (msg : ClientMsg)
  | arrive (n : ℕ)
  | enterSelect
  | takeByte
  | readLength
  | readBody
  | handled
  | otherBranch (cause : Lifecycle.ContinueCause)
  | breakLoop (cause : Lifecycle.BreakCause)

variable (codec : MsgCodec ClientMsg)

/-- The client writes a message. -/
def write (s : ControlReader) (msg : ClientMsg) : ControlReader :=
  { s with
    written := s.written ++ [msg]
    transit := s.transit ++ codec.writeMsgToStream msg }

/-- The next `n` bytes arrive. -/
def arrive (s : ControlReader) (n : ℕ) : ControlReader :=
  { s with
    transit := s.transit.drop n
    arrived := s.arrived ++ s.transit.take n }

/-- `read_msg_from_stream` starts. -/
def enterSelect (s : ControlReader) : Option ControlReader :=
  match s.loop with
  | .top => some { s with loop := .select .start }
  | _ => none

/-- `read_exact` takes a byte. -/
def takeByte (s : ControlReader) : Option ControlReader :=
  match s.loop, s.arrived with
  | .select reader, b :: arrived =>
      (reader.push b).map fun reader => { s with loop := .select reader, arrived := arrived }
  | _, _ => none

/-- The length is complete. -/
def readLength (s : ControlReader) : Option ControlReader :=
  match s.loop with
  | .select (.length bytes) =>
      if bytes.length = 4 then
        match checkLength bytes with
        | some reader => some { s with loop := .select reader }
        | none => some { s with loop := .ended }
      else
        none
  | _ => none

/-- The body is complete: the read branch hands the message on, or ends the
loop. -/
def readBody (s : ControlReader) : Option ControlReader :=
  match s.loop with
  | .select (.body len bytes) =>
      if bytes.length = len.toNat then
        match codec.decode bytes with
        | some msg => some { s with loop := .handling, handled := s.handled ++ [msg] }
        | none => some { s with loop := .ended }
      else
        none
  | _ => none

/-- `handle_control_msg` returns. -/
def finishHandling (s : ControlReader) : Option ControlReader :=
  match s.loop with
  | .handling => some { s with loop := .top }
  | _ => none

/-- Another branch completes and the loop goes on: the read future is dropped. -/
def otherBranch (s : ControlReader) : Option ControlReader :=
  match s.loop with
  | .select _ => some { s with loop := .top }
  | _ => none

/-- The loop ends. -/
def breakLoop (s : ControlReader) : Option ControlReader :=
  match s.loop with
  | .top | .select _ => some { s with loop := .ended }
  | _ => none

def step (s : ControlReader) : Action → Option ControlReader
  | .write msg => some (s.write codec msg)
  | .arrive n => some (s.arrive n)
  | .enterSelect => s.enterSelect
  | .takeByte => s.takeByte
  | .readLength => s.readLength
  | .readBody => s.readBody codec
  | .handled => s.finishHandling
  | .otherBranch _ => s.otherBranch
  | .breakLoop _ => s.breakLoop

/-- Every way the client's bytes arrive, with every order of the branches. -/
def machine : Machine ControlReader Action where
  init s := s = new
  step := step codec

/-- The length of every message fits its frame. -/
def Fits (s : ControlReader) : Prop :=
  ∀ msg ∈ s.written, (codec.encode msg).length < 2 ^ 32

/-- Nothing is lost or reordered: the messages handled are the first ones
written, and as long as the loop runs the bytes of all others are still there. -/
def Lossless (s : ControlReader) : Prop :=
  ∃ rest, s.written = s.handled ++ rest ∧
    (s.loop ≠ .ended →
      s.loop.taken ++ s.arrived ++ s.transit = rest.flatMap codec.writeMsgToStream)

/-- The length of a message fits its frame, and no read future is dropped after
it took a byte. -/
def Undisturbed (s : ControlReader) : Action → Prop
  | .write msg => (codec.encode msg).length < 2 ^ 32
  | .otherBranch _ => s.loop.taken = []
  | _ => True

/-! ### What a step does to the bytes -/

variable {codec} {s s' : ControlReader} {a : Action}

/-- The bytes of the messages not handled yet, as far as they still exist. -/
def bytes (s : ControlReader) : List UInt8 :=
  s.loop.taken ++ s.arrived ++ s.transit

/-- What a step does: it writes a message, moves bytes along, ends the loop,
hands a message over, or drops the read future. -/
inductive Move (codec : MsgCodec ClientMsg) (s : ControlReader) : Action → ControlReader → Prop
  | write (msg : ClientMsg) : Move codec s (.write msg) (s.write codec msg)
  | keep {a : Action} {s' : ControlReader} (hwritten : s'.written = s.written)
      (hhandled : s'.handled = s.handled) (hbytes : s'.bytes = s.bytes)
      (hloop : s.loop ≠ .ended) : Move codec s a s'
  | arrive (n : ℕ) : Move codec s (.arrive n) (s.arrive n)
  | stop {a : Action} : Move codec s a { s with loop := .ended }
  | handle {a : Action} (len : UInt32) (body : List UInt8) (msg : ClientMsg)
      (hloop : s.loop = .select (.body len body)) (hlen : body.length = len.toNat)
      (hmsg : codec.decode body = some msg) :
      Move codec s a { s with loop := .handling, handled := s.handled ++ [msg] }
  | drop (cause : Lifecycle.ContinueCause) (hloop : s.loop ≠ .ended) :
      Move codec s (.otherBranch cause) { s with loop := .top }

theorem step_move (h : s.step codec a = some s') : s.Move codec a s' := by
  cases a with
  | write msg =>
      obtain rfl := Option.some.inj h
      exact .write msg
  | arrive n =>
      obtain rfl := Option.some.inj h
      exact .arrive n
  | enterSelect =>
      simp only [step, enterSelect] at h
      split at h
      · rename_i hloop
        obtain rfl := Option.some.inj h
        refine .keep rfl rfl ?_ (by rw [hloop]; exact LoopPhase.noConfusion)
        rw [bytes, bytes, hloop]
        rfl
      · cases h
  | takeByte =>
      simp only [step, takeByte] at h
      split at h
      · rename_i reader b arrived hloop harrived
        obtain ⟨reader', hpush, rfl⟩ := Option.map_eq_some_iff.1 h
        refine .keep rfl rfl ?_ (by rw [hloop]; exact LoopPhase.noConfusion)
        rw [bytes, bytes, hloop, harrived, LoopPhase.taken, LoopPhase.taken,
          Framing.Reader.taken_push hpush]
        simp only [List.append_assoc, List.cons_append, List.nil_append]
      · cases h
  | readLength =>
      simp only [step, readLength] at h
      split at h
      · rename_i length hloop
        split_ifs at h with hlen
        split at h
        · rename_i reader hcheck
          obtain rfl := Option.some.inj h
          rw [checkLength, Option.ite_none_left_eq_some] at hcheck
          obtain rfl := Option.some.inj hcheck.2
          refine .keep rfl rfl ?_ (by rw [hloop]; exact LoopPhase.noConfusion)
          rw [bytes, bytes, hloop, LoopPhase.taken, LoopPhase.taken,
            Framing.Reader.taken_body_nil hlen, Framing.Reader.taken]
        · obtain rfl := Option.some.inj h
          exact .stop
      · cases h
  | readBody =>
      simp only [step, readBody] at h
      split at h
      · rename_i len body hloop
        split_ifs at h with hlen
        split at h
        · rename_i msg hmsg
          obtain rfl := Option.some.inj h
          exact .handle len body msg hloop hlen hmsg
        · obtain rfl := Option.some.inj h
          exact .stop
      · cases h
  | handled =>
      simp only [step, finishHandling] at h
      split at h
      · rename_i hloop
        obtain rfl := Option.some.inj h
        refine .keep rfl rfl ?_ (by rw [hloop]; exact LoopPhase.noConfusion)
        rw [bytes, bytes, hloop]
        rfl
      · cases h
  | otherBranch cause =>
      simp only [step, otherBranch] at h
      split at h
      · rename_i reader hloop
        obtain rfl := Option.some.inj h
        exact .drop cause (by rw [hloop]; exact LoopPhase.noConfusion)
      · cases h
  | breakLoop cause =>
      simp only [step, breakLoop] at h
      split at h
      · obtain rfl := Option.some.inj h
        exact .stop
      · obtain rfl := Option.some.inj h
        exact .stop
      · cases h

namespace Move

/-- Messages written are never taken back. -/
theorem written_subset (m : s.Move codec a s') : s.written ⊆ s'.written := by
  cases m with
  | write msg => exact List.subset_append_left ..
  | keep hwritten => exact hwritten ▸ List.Subset.refl _
  | arrive | stop | handle | drop => exact List.Subset.refl _

/-- A step that does not disturb a read loses nothing. -/
theorem lossless (m : s.Move codec a s') (h : s.Lossless codec) (hc : s.Undisturbed codec a)
    (hfit : s.Fits codec)
    (hcodec : ∀ msg ∈ s.written, codec.decode (codec.encode msg) = some msg) :
    s'.Lossless codec := by
  obtain ⟨rest, hrest, hbytes⟩ := h
  cases m with
  | write msg =>
      refine ⟨rest ++ [msg], ?_, fun hloop => ?_⟩
      · rw [ControlReader.write, hrest, List.append_assoc]
      · rw [List.flatMap_append, ← hbytes hloop, List.flatMap_singleton]
        simp only [ControlReader.write, List.append_assoc]
  | keep hwritten hhandled hb hloop =>
      refine ⟨rest, by rw [hwritten, hhandled, hrest], fun _ => ?_⟩
      exact hb.trans (hbytes hloop)
  | arrive n =>
      refine ⟨rest, hrest, fun hloop => ?_⟩
      rw [← hbytes hloop]
      simp only [ControlReader.arrive, List.append_assoc, List.take_append_drop]
  | stop => exact ⟨rest, hrest, fun hloop => absurd rfl hloop⟩
  | handle len body msg hloop hlen hmsg =>
      have hall := hbytes (by rw [hloop]; exact LoopPhase.noConfusion)
      rw [hloop, LoopPhase.taken, List.append_assoc] at hall
      cases rest with
      | nil =>
          rw [List.flatMap_nil, Framing.Reader.taken, List.append_assoc] at hall
          have := congrArg List.length hall
          rw [List.length_append, UInt32.length_toBeBytes, List.length_nil] at this
          omega
      | cons next rest =>
          rw [List.flatMap_cons, MsgCodec.writeMsgToStream] at hall
          have hnext : next ∈ s.written := by
            rw [hrest]
            exact List.mem_append_right _ (List.mem_cons_self ..)
          obtain ⟨rfl, hbytes'⟩ :=
            Framing.body_eq_of_append_eq hlen (hfit next hnext) hall
          obtain rfl := Option.some.inj ((hcodec next hnext).symm.trans hmsg)
          refine ⟨rest, ?_, fun _ => hbytes'⟩
          rw [hrest, List.append_assoc, List.singleton_append]
  | drop cause hloop =>
      have htaken : s.loop.taken = [] := hc
      have hall := hbytes hloop
      rw [htaken] at hall
      exact ⟨rest, hrest, fun _ => hall⟩

/-- The frames stay within the width of their length. -/
theorem fits (m : s.Move codec a s') (hc : s.Undisturbed codec a) (hfit : s.Fits codec) :
    s'.Fits codec := by
  cases m with
  | write msg =>
      intro next hnext
      rcases List.mem_append.1 hnext with hold | hnew
      · exact hfit next hold
      · rw [List.mem_singleton.1 hnew]
        exact hc
  | keep hwritten => rwa [Fits, hwritten]
  | arrive | stop | handle | drop => exact hfit

end Move

/-- A read future that is dropped after it took a byte is a loss. -/
theorem lossless_otherBranch_iff (h : s.Lossless codec) {cause : Lifecycle.ContinueCause}
    (hs : s.step codec (.otherBranch cause) = some s') :
    s'.Lossless codec ↔ s.loop.taken = [] := by
  obtain ⟨rest, hrest, hbytes⟩ := h
  simp only [step, otherBranch] at hs
  split at hs
  · rename_i reader hloop
    obtain rfl := Option.some.inj hs
    have hall := hbytes (by rw [hloop]; exact LoopPhase.noConfusion)
    constructor
    · rintro ⟨rest', hrest', hbytes'⟩
      obtain rfl : rest = rest' := List.append_cancel_left (hrest.symm.trans hrest')
      have hlen := congrArg List.length (hall.trans (hbytes' LoopPhase.noConfusion).symm)
      simp only [LoopPhase.taken, List.nil_append, List.length_append] at hlen
      refine List.eq_nil_of_length_eq_zero ?_
      simp only [LoopPhase.taken, hloop] at hlen ⊢
      omega
    · intro htaken
      rw [htaken] at hall
      exact ⟨rest, hrest, fun _ => hall⟩
  · cases hs

theorem fits_of_reached (r : (machine codec).ReachedBy (Undisturbed codec) s) : s.Fits codec := by
  refine r.invariant ?_ fun s a s' _ hfit hc hs => (step_move hs).fits hc hfit
  rintro s rfl msg hmsg
  cases hmsg

/-- **The control stream loses nothing, unless a read is disturbed.**  In every
run in which no read future is dropped after it took a byte, the messages
handled are the first ones written and the others are still to come; and a step
that drops a read future loses bytes exactly when the future had taken some. -/
theorem control_stream_lossless (r : (machine codec).ReachedBy (Undisturbed codec) s)
    (hcodec : ∀ msg ∈ s.written, codec.decode (codec.encode msg) = some msg) :
    s.Lossless codec ∧ ∀ cause s', s.step codec (.otherBranch cause) = some s' →
      (s'.Lossless codec ↔ s.loop.taken = []) := by
  have hloss : s.Lossless codec := by
    induction r with
    | init h =>
        obtain rfl : _ = new := h
        exact ⟨[], rfl, fun _ => rfl⟩
    | step r hc hs ih =>
        have m := step_move hs
        have hcodec' := fun msg hmsg => hcodec msg (m.written_subset hmsg)
        exact m.lossless (ih hcodec') hc (fits_of_reached r) hcodec'
  exact ⟨hloss, fun cause s' => lossless_otherBranch_iff hloss⟩

/-- `Ping { seq: 1 }` in MessagePack: a map with the entries `type` and `seq`. -/
def pingBytes : List UInt8 :=
  [0x82, 0xa4, 0x74, 0x79, 0x70, 0x65, 0xa4, 0x70, 0x69, 0x6e, 0x67, 0xa3, 0x73, 0x65, 0x71, 0x01]

/-- The codec as far as `Ping { seq: 1 }` goes. -/
def pingCodec : MsgCodec ClientMsg where
  encode _ := pingBytes
  decode bytes := if bytes = pingBytes then some (.ping 1) else none

/-- A ping arrives in one piece and is handled. -/
def wholePingRun : List Action :=
  [.write (.ping 1), .arrive 20, .enterSelect] ++ List.replicate 4 .takeByte ++ [.readLength] ++
    List.replicate 16 .takeByte ++ [.readBody]

theorem wholePingRun_isSome : ((machine pingCodec).run new wholePingRun).isSome = true := by
  decide +kernel

def wholePing : ControlReader :=
  ((machine pingCodec).run new wholePingRun).get wholePingRun_isSome

theorem wholePing_reached : (machine pingCodec).ReachedBy (Undisturbed pingCodec) wholePing := by
  have hrun : (machine pingCodec).run new wholePingRun = some wholePing := (Option.some_get _).symm
  refine Machine.ReachedBy.run (.init rfl) (fun a ha t => ?_) hrun
  simp only [wholePingRun, List.mem_append, List.mem_cons, List.not_mem_nil, or_false,
    List.mem_replicate] at ha
  rcases ha with ((((rfl | rfl | rfl) | ⟨-, rfl⟩) | rfl) | ⟨-, rfl⟩) | rfl
  all_goals first | trivial | exact (by decide : pingBytes.length < 2 ^ 32)

theorem control_stream_lossless_wholePing :
    wholePing.handled = [.ping 1] ∧ wholePing.Lossless pingCodec := by
  refine ⟨by decide +kernel, (control_stream_lossless wholePing_reached fun msg hmsg => ?_).1⟩
  have hwritten : wholePing.written = [.ping 1] := by decide +kernel
  obtain rfl := List.mem_singleton.1 (hwritten ▸ hmsg)
  decide

/-- Two bytes of a ping arrive, then a queued `StreamOpen` is written. -/
def splitPingRun : List Action :=
  [.write (.ping 1), .arrive 2, .enterSelect, .takeByte, .takeByte, .otherBranch .sent]

theorem splitPingRun_isSome : ((machine pingCodec).run new splitPingRun).isSome = true := by
  decide +kernel

def splitPing : ControlReader :=
  ((machine pingCodec).run new splitPingRun).get splitPingRun_isSome

theorem splitPing_reachable : (machine pingCodec).Reachable splitPing :=
  Machine.reachable_get (.init rfl) splitPingRun_isSome

theorem splitPing_not_lossless : ¬ ∀ s, (machine pingCodec).Reachable s → s.Lossless pingCodec := by
  intro h
  obtain ⟨rest, hrest, hbytes⟩ := h splitPing splitPing_reachable
  have hwritten : splitPing.written = [.ping 1] := by decide +kernel
  have hhandled : splitPing.handled = [] := by decide +kernel
  rw [hwritten, hhandled, List.nil_append] at hrest
  have hlen := congrArg List.length (hbytes (by decide +kernel))
  rw [← hrest] at hlen
  revert hlen
  decide +kernel

end ControlReader
end Rgrok
