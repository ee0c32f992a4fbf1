/-
# An inspected bridge carries what a plain one does

What a pump has done so far is determined by what it has read: `Pump.Carries`
is the invariant, kept by every step (`Pump.Carries.step`).  At the end of both
pumps the two sides have got what copying gives them, the totals are those that
copying returns, and the captures hold the beginnings of both directions
(`Bridge.transparent`).  A bridge that has not failed gets there, whatever
order its steps are taken in.
-/

import Rgrok.Client.LocalProxy
import Mathlib.Data.List.Infix

namespace Rgrok

/-! ### One pump -/

/-- `source` is carried by a pump with this limit.  In each phase: what has been
written and captured, and what is still to come. -/
structure Pump.Carries (source : ByteStream UInt8) (limit : ℕ) (pump : Pump) : Prop where
  bound : pump.capture.limit = limit
  ending : pump.source.ending = source.ending
  sound : ∃ seen, pump.capture.bytes = seen.take limit ∧
    pump.total = UInt64.ofNat seen.length ∧
    match pump.phase with
    | .reading => pump.written = seen ∧ seen ++ pump.source.bytes = source.bytes ∧
        pump.shut = false
    | .writing chunk rest => (∃ done, chunk = done ++ rest ∧ pump.written = seen ++ done) ∧
        rest ≠ [] ∧ seen ++ chunk ++ pump.source.bytes = source.bytes ∧ pump.shut = false
    | .shutting => pump.written = seen ∧ seen = source.bytes ∧ pump.shut = false
    | .finished => pump.written = seen ∧ seen = source.bytes ∧ pump.shut = true
    | .failed => pump.written <+: source.bytes ∧ pump.shut = false

namespace Pump

variable {source : ByteStream UInt8} {limit : ℕ} {pump pump' : Pump} {a : PumpAction}

theorem carries_new (source : ByteStream UInt8) (maxBodyBytes : UInt64) :
    Carries source (CaptureBuffer.limitFor maxBodyBytes) (.new source maxBodyBytes) where
  bound := rfl
  ending := rfl
  sound := ⟨[], (List.take_nil ..).symm, rfl, rfl, rfl, rfl⟩

/-- Totals add up, wrapped or not. -/
theorem total_append (seen chunk : List UInt8) :
    UInt64.ofNat seen.length + UInt64.ofNat chunk.length =
      UInt64.ofNat (seen ++ chunk).length := by
  rw [List.length_append, UInt64.ofNat_add]

/-- **A step of a pump** keeps what it carries. -/
theorem Carries.step (c : Carries source limit pump) (h : pump.step a = some pump') :
    Carries source limit pump' := by
  obtain ⟨hlimit, hending, seen, hcapture, htotal, hphase⟩ := c
  rcases step_cases h with ⟨-, hread, hcases⟩ | ⟨n, chunk, rest, -, hwriting, hpos, hle, hcases⟩ |
    ⟨-, hshutting, rfl⟩ | ⟨-, hfail, rfl⟩
  · rw [hread] at hphase
    obtain ⟨hwritten, hbytes, hshut⟩ := hphase
    rcases hcases with ⟨hended, rfl⟩ | ⟨-, rfl⟩ | ⟨piece, stream, hpiece, rfl⟩
    · have hnil := ByteStream.bytes_eq_nil pump.source pumpBufferSize (by simp [hended])
      rw [hnil, List.append_nil] at hbytes
      exact ⟨hlimit, hending, seen, hcapture, htotal, hwritten, hbytes, hshut⟩
    · refine ⟨hlimit, hending, seen, hcapture, htotal, ?_, hshut⟩
      exact ⟨pump.source.bytes, by rw [← hbytes, hwritten]⟩
    · obtain ⟨hne, -, hpieces, hsame⟩ :=
        ByteStream.read_spec (m := pumpBufferSize) (by decide) hpiece
      refine ⟨hlimit, hsame.trans hending, seen, hcapture, htotal, ⟨[], rfl, ?_⟩, hne, ?_, hshut⟩
      · rw [List.append_nil]
        exact hwritten
      · rw [← hbytes, hpieces, List.append_assoc]
  · rw [hwriting] at hphase
    obtain ⟨⟨done, rfl, hwritten⟩, -, hbytes, hshut⟩ := hphase
    rcases hcases with ⟨-, rfl⟩ | ⟨hlt, rfl⟩
    · -- the chunk is written: it goes into the capture and the total
      refine ⟨hlimit, hending, seen ++ (done ++ rest), ?_, ?_, ?_, hbytes, hshut⟩
      · rw [← hlimit] at hcapture ⊢
        exact CaptureBuffer.bytes_append (done ++ rest) hcapture
      · rw [← total_append, ← htotal]
        rfl
      · show pump.written ++ rest = _
        rw [hwritten, List.append_assoc]
    · refine ⟨hlimit, hending, seen, hcapture, htotal, ⟨done ++ rest.take n, ?_, ?_⟩, ?_, hbytes,
        hshut⟩
      · rw [List.append_assoc, List.take_append_drop]
      · rw [← List.append_assoc, ← hwritten]
      · rw [ne_eq, List.drop_eq_nil_iff]
        omega
  · rw [hshutting] at hphase
    obtain ⟨hwritten, hbytes, -⟩ := hphase
    exact ⟨hlimit, hending, seen, hcapture, htotal, hwritten, hbytes, rfl⟩
  · refine ⟨hlimit, hending, seen, hcapture, htotal, ?_⟩
    rcases hfail with ⟨chunk, rest, hwriting⟩ | hshutting
    · rw [hwriting] at hphase
      obtain ⟨⟨done, rfl, hwritten⟩, -, hbytes, hshut⟩ := hphase
      refine ⟨⟨rest ++ pump.source.bytes, ?_⟩, hshut⟩
      rw [hwritten, ← hbytes]
      simp only [List.append_assoc]
    · rw [hshutting] at hphase
      obtain ⟨hwritten, hbytes, hshut⟩ := hphase
      exact ⟨by rw [hwritten, hbytes], hshut⟩

/-- What is written is the beginning of what was sent, and all of it once the
destination is shut. -/
theorem Carries.written (c : Carries source limit pump) :
    pump.written <+: source.bytes ∧
      (pump.shut = true → pump.phase = .finished ∧ pump.written = source.bytes) := by
  obtain ⟨-, -, seen, -, -, hphase⟩ := c
  cases hp : pump.phase with
  | reading =>
      rw [hp] at hphase
      obtain ⟨hwritten, hbytes, hshut⟩ := hphase
      exact ⟨⟨_, by rw [hwritten, hbytes]⟩, fun h => by rw [hshut] at h; cases h⟩
  | writing chunk rest =>
      rw [hp] at hphase
      obtain ⟨⟨done, rfl, hwritten⟩, -, hbytes, hshut⟩ := hphase
      refine ⟨⟨rest ++ pump.source.bytes, ?_⟩, fun h => by rw [hshut] at h; cases h⟩
      rw [hwritten, ← hbytes]
      simp only [List.append_assoc]
  | shutting =>
      rw [hp] at hphase
      obtain ⟨hwritten, hbytes, hshut⟩ := hphase
      exact ⟨by rw [hwritten, hbytes], fun h => by rw [hshut] at h; cases h⟩
  | finished =>
      rw [hp] at hphase
      obtain ⟨hwritten, hbytes, -⟩ := hphase
      exact ⟨by rw [hwritten, hbytes], fun _ => ⟨rfl, by rw [hwritten, hbytes]⟩⟩
  | failed =>
      rw [hp] at hphase
      exact ⟨hphase.1, fun h => by rw [hphase.2] at h; cases h⟩

/-- **A pump that has returned** has written, counted and captured its source. -/
theorem Carries.finished (c : Carries source limit pump) (h : pump.phase = .finished) :
    pump.written = source.bytes ∧ pump.shut = true ∧
      pump.total = UInt64.ofNat source.bytes.length ∧
      pump.capture.bytes = source.bytes.take limit := by
  obtain ⟨-, -, seen, hcapture, htotal, hphase⟩ := c
  rw [h] at hphase
  obtain ⟨hwritten, rfl, hshut⟩ := hphase
  exact ⟨hwritten, hshut, htotal, hcapture⟩

/-! ### Progress -/

/-- How many steps a pump still takes, at most. -/
def remaining (pump : Pump) : ℕ :=
  match pump.phase with
  | .reading => 2 * pump.source.bytes.length + 2
  | .writing _ rest => 2 * pump.source.bytes.length + rest.length + 2
  | .shutting => 1
  | .finished | .failed => 0

theorem remaining_step (h : pump.step a = some pump') : pump'.remaining < pump.remaining := by
  rcases step_cases h with ⟨-, hread, hcases⟩ | ⟨n, chunk, rest, -, hwriting, hpos, hle, hcases⟩ |
    ⟨-, hshutting, rfl⟩ | ⟨-, hfail, rfl⟩
  · rcases hcases with ⟨-, rfl⟩ | ⟨-, rfl⟩ | ⟨piece, stream, hpiece, rfl⟩
    · simp only [remaining, hread]
      omega
    · simp only [remaining, hread]
      omega
    · obtain ⟨hne, -, hbytes, -⟩ := ByteStream.read_spec (m := pumpBufferSize) (by decide) hpiece
      have hpos := List.length_pos_iff.2 hne
      have hlen := congrArg List.length hbytes
      rw [List.length_append] at hlen
      simp only [remaining, hread]
      omega
  · rcases hcases with ⟨-, rfl⟩ | ⟨hlt, rfl⟩
    · simp only [remaining, hwriting, afterWrite]
      omega
    · simp only [remaining, hwriting, List.length_drop]
      omega
  · simp only [remaining, hshutting]
    omega
  · rcases hfail with ⟨chunk, rest, hwriting⟩ | hshutting
    · simp only [remaining, hwriting]
      omega
    · simp only [remaining, hshutting]
      omega

/-- A pump that has not returned can go on, and without an error. -/
theorem Carries.next (c : Carries source limit pump) (heof : source.ending = .eof)
    (hopen : pump.phase ≠ .finished) (hsafe : pump.phase ≠ .failed) :
    ∃ a pump', pump.step a = some pump' ∧ pump'.phase ≠ .failed := by
  obtain ⟨-, hending, seen, -, -, hphase⟩ := c
  cases hp : pump.phase with
  | reading =>
      cases hread : pump.source.read pumpBufferSize with
      | waiting =>
          have hsilent := ByteStream.ending_of_waiting hread
          rw [hending, heof] at hsilent
          cases hsilent
      | ended => exact ⟨.read, { pump with phase := .shutting }, by simp [Pump.step, hp, hread],
          fun h => by cases h⟩
      | broken =>
          have herror := ByteStream.ending_of_broken hread
          rw [hending, heof] at herror
          cases herror
      | read piece stream =>
          exact ⟨.read, { pump with source := stream, phase := .writing piece piece },
            by simp [Pump.step, hp, hread], fun h => by cases h⟩
  | writing chunk rest =>
      rw [hp] at hphase
      have hpos := List.length_pos_iff.2 hphase.2.1
      refine ⟨.accept rest.length, { pump with written := pump.written ++ rest }.afterWrite chunk,
        by simp [Pump.step, hp, hpos], ?_⟩
      show PumpPhase.reading ≠ .failed
      intro h
      cases h
  | shutting =>
      exact ⟨.shutdown, { pump with phase := .finished, shut := true }, by simp [Pump.step, hp],
        fun h => by cases h⟩
  | finished => exact absurd hp hopen
  | failed => exact absurd hp hsafe

end Pump

/-! ### The bridge -/

namespace Bridge

variable {upstream localStream : ByteStream UInt8} {maxBodyBytes : UInt64} {bridge : Bridge}

/-- A step of a bridge is a step of one of its pumps. -/
theorem step_cases {bridge' : Bridge} {a : Direction × PumpAction}
    (h : bridge.step a = some bridge') :
    (a.1 = .request ∧ bridge.request.step a.2 = some bridge'.request ∧
        bridge'.response = bridge.response) ∨
      (a.1 = .response ∧ bridge.response.step a.2 = some bridge'.response ∧
        bridge'.request = bridge.request) := by
  rw [step] at h
  split at h
  · cases h
  · split at h
    · rename_i hdir
      obtain ⟨pump, hpump, rfl⟩ := Option.map_eq_some_iff.1 h
      exact Or.inl ⟨hdir, hpump, rfl⟩
    · rename_i hdir
      obtain ⟨pump, hpump, rfl⟩ := Option.map_eq_some_iff.1 h
      exact Or.inr ⟨hdir, hpump, rfl⟩

/-- Each pump carries its source. -/
def Carries (upstream localStream : ByteStream UInt8) (maxBodyBytes : UInt64) (bridge : Bridge) :
    Prop :=
  bridge.request.Carries upstream (CaptureBuffer.limitFor maxBodyBytes) ∧
    bridge.response.Carries localStream (CaptureBuffer.limitFor maxBodyBytes)

/-- **Both pumps carry their sources** in every state that is reached. -/
theorem carries (r : (machine upstream localStream maxBodyBytes).Reachable bridge) :
    bridge.Carries upstream localStream maxBodyBytes := by
  refine r.invariant (fun bridge h => ?_) fun bridge a bridge' _ hI _ h => ?_
  · obtain rfl : bridge = _ := h
    exact ⟨Pump.carries_new upstream maxBodyBytes, Pump.carries_new localStream maxBodyBytes⟩
  · rcases step_cases h with ⟨-, hpump, hsame⟩ | ⟨-, hpump, hsame⟩
    · exact ⟨hI.1.step hpump, hsame ▸ hI.2⟩
    · exact ⟨hsame ▸ hI.1, hI.2.step hpump⟩

/-- How many steps a bridge still takes, at most. -/
def remaining (bridge : Bridge) : ℕ :=
  bridge.request.remaining + bridge.response.remaining

theorem remaining_step {bridge' : Bridge} {a : Direction × PumpAction}
    (h : bridge.step a = some bridge') : bridge'.remaining < bridge.remaining := by
  rcases step_cases h with ⟨-, hpump, hsame⟩ | ⟨-, hpump, hsame⟩
  · have hlt := Pump.remaining_step hpump
    rw [remaining, remaining, hsame]
    omega
  · have hlt := Pump.remaining_step hpump
    rw [remaining, remaining, hsame]
    omega

/-- **Every bridge can be finished.**  By induction on the steps that remain. -/
theorem exists_finished (hup : upstream.ending = .eof) (hlocal : localStream.ending = .eof)
    (r : (machine upstream localStream maxBodyBytes).Reachable bridge) (hsafe : ¬ bridge.Failed) :
    ∃ as bridge', (machine upstream localStream maxBodyBytes).Path (fun _ _ => True)
      bridge as bridge' ∧ bridge'.Finished := by
  induction hn : bridge.remaining using Nat.strongRecOn generalizing bridge with
  | ind n ih =>
      obtain ⟨hrequest, hresponse⟩ := not_or.1 hsafe
      obtain ⟨crequest, cresponse⟩ := carries r
      have hgo : ∀ a bridge', bridge.step a = some bridge' → ¬ bridge'.Failed →
          ∃ as last, (machine upstream localStream maxBodyBytes).Path (fun _ _ => True)
            bridge as last ∧ last.Finished := by
        intro a bridge' hstep hsafe'
        have hlt := remaining_step hstep
        obtain ⟨as, last, path, hlast⟩ :=
          ih _ (by omega) (r.step (a := a) trivial hstep) hsafe' rfl
        exact ⟨a :: as, last, .cons trivial hstep path, hlast⟩
      by_cases hdone : bridge.request.phase = .finished
      · by_cases hdone' : bridge.response.phase = .finished
        · exact ⟨[], bridge, .nil bridge, hdone, hdone'⟩
        · obtain ⟨a, pump, hpump, hnext⟩ := cresponse.next hlocal hdone' hresponse
          refine hgo (.response, a) { bridge with response := pump } ?_ ?_
          · simp [step, hrequest, hresponse, hpump]
          · exact not_or.2 ⟨hrequest, hnext⟩
      · obtain ⟨a, pump, hpump, hnext⟩ := crequest.next hup hdone hrequest
        refine hgo (.request, a) { bridge with request := pump } ?_ ?_
        · simp [step, hrequest, hresponse, hpump]
        · exact not_or.2 ⟨hnext, hresponse⟩

/-- A bridge takes so many steps at most. -/
theorem length_path {bridge' : Bridge} {as : List (Direction × PumpAction)}
    (r : (machine upstream localStream maxBodyBytes).Reachable bridge)
    (path : (machine upstream localStream maxBodyBytes).Path (fun _ _ => True) bridge as bridge') :
    as.length ≤ bridge.remaining := by
  have hle := Machine.Path.countP_le remaining (fun _ => true)
    (fun s a s' _ _ h => by have := remaining_step h; simp only [if_true]; omega) r path
  rw [List.countP_true] at hle
  omega

/-- **Inspection is transparent to traffic.**  Of two streams that end without
an error, each side gets the bytes of the other in order and nothing else, and
is shut only behind all of them.  When both pumps have returned, the sides have
got what plain copying gives them, the stats count the same, and each capture
is the beginning of its direction up to the limit.  A bridge that no write has
failed can always get there, in a bounded number of steps. -/
theorem transparent (copy : CopyBidirectional) (hcopy : copy.CopiesToTheEnd)
    (upstream localStream : ByteStream UInt8) (hup : upstream.ending = .eof)
    (hlocal : localStream.ending = .eof) (maxBodyBytes : UInt64) (bridge : Bridge)
    (r : (machine upstream localStream maxBodyBytes).Reachable bridge) :
    (bridge.traffic.toLocal <+: upstream.bytes ∧ bridge.traffic.toUpstream <+: localStream.bytes ∧
      (bridge.traffic.localShut = true → bridge.traffic.toLocal = upstream.bytes) ∧
      (bridge.traffic.upstreamShut = true → bridge.traffic.toUpstream = localStream.bytes)) ∧
    (bridge.Finished →
      (∀ stats, bridgeStreams copy upstream localStream stats =
        some (bridge.traffic, bridge.record stats)) ∧
      bridge.request.capture.bytes =
        upstream.bytes.take (CaptureBuffer.limitFor maxBodyBytes) ∧
      bridge.response.capture.bytes =
        localStream.bytes.take (CaptureBuffer.limitFor maxBodyBytes)) ∧
    (¬ bridge.Failed → ∃ as bridge', (machine upstream localStream maxBodyBytes).Path
      (fun _ _ => True) bridge as bridge' ∧ bridge'.Finished) ∧
    (∀ as bridge', (machine upstream localStream maxBodyBytes).Path (fun _ _ => True)
      bridge as bridge' → as.length ≤ bridge.remaining) := by
  obtain ⟨crequest, cresponse⟩ := carries r
  refine ⟨⟨crequest.written.1, cresponse.written.1, ?_, ?_⟩, fun hdone => ⟨fun stats => ?_, ?_, ?_⟩,
    exists_finished hup hlocal r, fun as bridge' path => length_path r path⟩
  · exact fun h => (crequest.written.2 h).2
  · exact fun h => (cresponse.written.2 h).2
  · obtain ⟨htoLocal, hlocalShut, hin, -⟩ := crequest.finished hdone.1
    obtain ⟨htoUpstream, hupstreamShut, hout, -⟩ := cresponse.finished hdone.2
    rw [bridgeStreams, hcopy upstream localStream hup hlocal, Option.map_some, record, traffic,
      htoLocal, htoUpstream, hlocalShut, hupstreamShut, hin, hout]
  · exact (crequest.finished hdone.1).2.2.2
  · exact (cresponse.finished hdone.2).2.2.2

/-- A copy that goes to the end. -/
def copyToTheEnd : CopyBidirectional := fun a b =>
  some (⟨a.bytes, b.bytes, true, true⟩, UInt64.ofNat a.bytes.length, UInt64.ofNat b.bytes.length)

/-- A request in two pieces. -/
def splitRequest : ByteStream UInt8 := ⟨[[71], [69, 84]], .eof, by decide⟩

/-- An answer that comes before the request is there. -/
def earlyAnswer : ByteStream UInt8 := ⟨[[79, 75]], .eof, by decide⟩

/-- The pumps in turns; the answer is written in two parts. -/
def turns : List (Direction × PumpAction) :=
  [(.request, .read), (.response, .read), (.response, .accept 1), (.request, .accept 1),
    (.request, .read), (.response, .accept 1), (.response, .read), (.request, .accept 2),
    (.response, .shutdown), (.request, .read), (.request, .shutdown)]

theorem isSome_turns : ((machine splitRequest earlyAnswer 10).run
    ⟨.new splitRequest 10, .new earlyAnswer 10⟩ turns).isSome = true := by
  decide +kernel

/-- The bridge at the end of them. -/
def turned : Bridge :=
  Option.get _ isSome_turns

theorem reachable_turned : (machine splitRequest earlyAnswer 10).Reachable turned :=
  Machine.reachable_get (.init rfl) isSome_turns

theorem transparent_turned :
    bridgeStreams copyToTheEnd splitRequest earlyAnswer ⟨5, 7⟩ =
        some (turned.traffic, turned.record ⟨5, 7⟩) ∧
      turned.request.capture.bytes = [71, 69, 84] := by
  obtain ⟨hsame, hcapture, -⟩ := (transparent copyToTheEnd (fun _ _ _ _ => rfl) splitRequest
    earlyAnswer rfl rfl 10 turned reachable_turned).2.1 (by decide +kernel)
  refine ⟨hsame ⟨5, 7⟩, hcapture.trans ?_⟩
  decide +kernel

end Bridge

end Rgrok
