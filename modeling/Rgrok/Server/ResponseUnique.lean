/-
# A response depends on its bytes only

However two streams are cut: when both are decoded and their bytes are the
same, so is what the readers return and what they leave.
-/

import Rgrok.Server.ResponseReaders

namespace Rgrok

variable {α β : Type} {intake intake' other other' : Intake UInt8}

theorem Outcome.bind_eq_done {outcome : Outcome α} {next : α → Intake UInt8 → Outcome β} {b : β} :
    outcome.bind next = .done b intake' ↔
      ∃ a intake, outcome = .done a intake ∧ next a intake = .done b intake' := by
  cases outcome with
  | waiting => exact ⟨nofun, nofun⟩
  | failed error => exact ⟨nofun, nofun⟩
  | done a intake =>
      constructor
      · exact fun h => ⟨a, intake, rfl, h⟩
      · rintro ⟨a', intake', h, hnext⟩
        obtain ⟨rfl, rfl⟩ := Outcome.done.inj h
        exact hnext

theorem Outcome.done_bind (a : α) (next : α → Intake UInt8 → Outcome β) :
    (Outcome.done a intake).bind next = next a intake :=
  rfl

/-! ### Lines and heads -/

/-- A line goes up to the first end of a line. -/
theorem position_of_readLineCrlf {line : List UInt8} (h : readLineCrlf intake = .done line intake') :
    position crlf intake.bytes = some line.length := by
  fun_induction readLineCrlf intake with
  | case1 intake n hpos line' intake₁ htake =>
      obtain ⟨rfl, -⟩ := Outcome.done.inj h
      obtain ⟨before, after, hbuffered, rfl⟩ := position_spec hpos
      obtain ⟨rfl, -⟩ := Prod.mk.inj htake
      have hlen : (intake.buffered.take before.length).length = before.length := by
        rw [List.length_take, hbuffered, List.length_append, List.length_append]
        omega
      rw [hlen, Intake.bytes, position_append hpos]
  | case2 => cases h
  | case3 => cases h
  | case4 => cases h
  | case5 intake _ _ _ intake₁ hensure ih =>
      rw [← (ensureBuffered_done hensure).1]
      exact ih h

theorem readLineCrlf_unique {line line' : List UInt8} (hbytes : intake.bytes = other.bytes)
    (h : readLineCrlf intake = .done line intake') (h' : readLineCrlf other = .done line' other') :
    line = line' ∧ intake'.bytes = other'.bytes := by
  have hlen : line.length = line'.length := by
    have hpos := position_of_readLineCrlf h
    rw [hbytes, position_of_readLineCrlf h'] at hpos
    exact (Option.some.inj hpos).symm
  have heq := (readLineCrlf_done h).1.symm.trans (hbytes.trans (readLineCrlf_done h').1)
  rw [List.append_assoc, List.append_assoc] at heq
  obtain ⟨hline, hrest⟩ := List.append_inj heq hlen
  exact ⟨hline, List.append_cancel_left hrest⟩

/-- A header section ends with the first empty line. -/
theorem readHeaderSection_done {n : ℕ} (h : readHeaderSection intake = .done n intake') :
    ∃ m, position crlfCrlf intake.bytes = some m ∧ n = m + 4 ∧ intake'.bytes = intake.bytes ∧
      intake'.stream.ending = intake.stream.ending ∧ n ≤ intake'.buffered.length := by
  fun_induction readHeaderSection intake with
  | case1 => cases h
  | case2 intake m hpos hfits =>
      obtain ⟨rfl, rfl⟩ := Outcome.done.inj h
      obtain ⟨before, after, hbuffered, hm⟩ := position_spec hpos
      refine ⟨m, position_append hpos, rfl, rfl, rfl, ?_⟩
      rw [hbuffered, List.length_append, List.length_append, hm,
        show crlfCrlf.length = 4 from rfl]
      omega
  | case3 => cases h
  | case4 => cases h
  | case5 => cases h
  | case6 => cases h
  | case7 => cases h
  | case8 intake hpos hshort piece stream hread intake₁ hfits ih =>
      obtain ⟨m, hpos', hn, hbytes, hending, hlen⟩ := ih h
      have hsame := Intake.bytes_extend (m := readBufferSize) (by decide) hread
      have hspec := ByteStream.read_spec (m := readBufferSize) (by decide) hread
      rw [hsame] at hpos' hbytes
      exact ⟨m, hpos', hn, hbytes, hending.trans hspec.2.2.2, hlen⟩

/-- One head as a function of the bytes. -/
theorem readOneHead_done {head : ℕ × List (String × String)}
    (h : readOneHead intake = .done head intake') :
    ∃ n text, position crlfCrlf intake.bytes = some n ∧
      Text.fromUtf8 (intake.bytes.take (n + 4)) = some text ∧
      parseResponseHeaders text = .ok head ∧ intake'.bytes = intake.bytes.drop (n + 4) ∧
      intake'.stream.ending = intake.stream.ending := by
  obtain ⟨headerEnd, intake₁, hsection, hhead⟩ := Outcome.bind_eq_done.1 h
  obtain ⟨n, hpos, rfl, hbytes, hending, hlen⟩ := readHeaderSection_done hsection
  have hsplit : intake₁.bytes = intake.bytes.take (n + 4) ++ intake.bytes.drop (n + 4) := by
    rw [hbytes, List.take_append_drop]
  have hlen' : (intake.bytes.take (n + 4)).length = n + 4 := by
    rw [← hbytes, List.length_take, Intake.bytes, List.length_append]
    omega
  obtain ⟨hfront, hback⟩ := Intake.take_of_bytes hsplit (by omega)
  rw [hlen'] at hfront hback
  rw [hfront] at hhead
  cases htext : Text.fromUtf8 (intake.bytes.take (n + 4)) with
  | none =>
      rw [htext] at hhead
      cases hhead
  | some text =>
      rw [htext] at hhead
      dsimp only at hhead
      cases hparse : parseResponseHeaders text with
      | error error =>
          rw [hparse] at hhead
          cases hhead
      | ok head' =>
          rw [hparse] at hhead
          obtain ⟨rfl, rfl⟩ := Outcome.done.inj hhead
          exact ⟨n, text, hpos, htext, hparse, hback, hending⟩

/-- **The heads, one by one**: another one follows an informational one, and the
loop ends with the first that is not. -/
theorem readHeads_cases {room : ℕ} {head : ℕ × List (String × String)}
    (h : readHeads room intake = .done head intake') :
    ∃ first intake₁, readOneHead intake = .done first intake₁ ∧
      ((∃ room', room = room' + 1 ∧ (100 ≤ first.1 ∧ first.1 < 200 ∧ first.1 ≠ 101) ∧
          readHeads room' intake₁ = .done head intake') ∨
        (¬ (100 ≤ first.1 ∧ first.1 < 200 ∧ first.1 ≠ 101) ∧ head = first ∧ intake' = intake₁)) := by
  rw [readHeads.eq_def] at h
  obtain ⟨first, intake₁, hone, hnext⟩ := Outcome.bind_eq_done.1 h
  refine ⟨first, intake₁, hone, ?_⟩
  dsimp only at hnext
  split at hnext
  · rename_i hinformational
    cases room with
    | zero => cases hnext
    | succ room => exact Or.inl ⟨room, rfl, hinformational, hnext⟩
  · rename_i hfinal
    obtain ⟨rfl, rfl⟩ := Outcome.done.inj hnext
    exact Or.inr ⟨hfinal, rfl, rfl⟩

/-! ### Bodies -/

theorem readRemaining_done {contentLength : ℕ} {body body' : List UInt8}
    (hle : body.length ≤ contentLength)
    (h : readRemaining contentLength body intake = .done body' intake') :
    body' = body ++ intake.stream.bytes.take (contentLength - body.length) := by
  fun_induction readRemaining contentLength body intake with
  | case1 => cases h
  | case2 => cases h
  | case3 => cases h
  | case4 body intake hlt piece stream hread ih =>
      have hmax : 0 < min (contentLength - body.length) readBufferSize := by
        have hpos : 0 < readBufferSize := by decide
        omega
      obtain ⟨-, hpiece, hbytes, -⟩ := ByteStream.read_spec hmax hread
      rw [ih (by rw [List.length_append]; omega) h, hbytes, List.length_append,
        List.append_assoc, List.take_append, Nat.sub_sub]
      congr 2
      exact (List.take_of_length_le (by omega)).symm
  | case5 body intake hnlt =>
      obtain ⟨rfl, -⟩ := Outcome.done.inj h
      rw [show contentLength - body.length = 0 by omega, List.take_zero, List.append_nil]

/-- A body of `Content-Length` bytes is the next so many. -/
theorem readFixedBody_done {contentLength maxBodyBytes : ℕ} {body : List UInt8}
    (h : readFixedBody contentLength maxBodyBytes intake = .done body intake') :
    body = intake.bytes.take contentLength := by
  rw [readFixedBody] at h
  split at h
  · cases h
  · have hle : (intake.buffered.take contentLength).length ≤ contentLength := by
      rw [List.length_take]
      omega
    rw [readRemaining_done hle h, Intake.bytes, List.take_append, List.length_take]
    congr 2
    omega

theorem readToEnd_done {maxBodyBytes : ℕ} {body body' : List UInt8}
    (h : readToEnd maxBodyBytes body intake = .done body' intake') :
    body' = body ++ intake.stream.bytes := by
  fun_induction readToEnd maxBodyBytes body intake with
  | case1 => cases h
  | case2 body intake hread =>
      obtain ⟨rfl, -⟩ := Outcome.done.inj h
      rw [ByteStream.bytes_eq_nil _ readBufferSize (by simp [hread]), List.append_nil]
  | case3 => cases h
  | case4 => cases h
  | case5 body intake piece stream hread hfits ih =>
      have hspec := ByteStream.read_spec (m := readBufferSize) (by decide) hread
      rw [ih h, hspec.2.2.1, List.append_assoc]

theorem readCloseDelimitedBody_done {maxBodyBytes : ℕ} {body : List UInt8}
    (h : readCloseDelimitedBody maxBodyBytes intake = .done body intake') :
    body = intake.bytes := by
  rw [readCloseDelimitedBody] at h
  split at h
  · cases h
  · exact @readToEnd_done { intake with buffered := [] } _ _ _ _ h

/-- What was required is at the front of the bytes. -/
theorem take_of_ensureBuffered {required : ℕ} {u : Unit}
    (h : ensureBuffered required intake = .done u intake') :
    (intake'.take required).1 = intake.bytes.take required ∧
      (intake'.take required).2.bytes = intake.bytes.drop required := by
  obtain ⟨hbytes, -, hlen, -⟩ := ensureBuffered_done h
  have hsplit : intake'.bytes = intake.bytes.take required ++ intake.bytes.drop required := by
    rw [hbytes, List.take_append_drop]
  have hlen' : (intake.bytes.take required).length = required := by
    rw [← hbytes, List.length_take, Intake.bytes, List.length_append]
    omega
  have htake := Intake.take_of_bytes hsplit (by omega)
  rwa [hlen'] at htake

/-- **Chunks depend on the bytes only.** -/
theorem readChunks_unique {maxBodyBytes : ℕ} {acc body body' : List UInt8}
    (hbytes : intake.bytes = other.bytes)
    (h : readChunks maxBodyBytes acc intake = .done body intake')
    (h' : readChunks maxBodyBytes acc other = .done body' other') : body = body' := by
  induction hn : intake.bytes.length using Nat.strongRecOn generalizing acc intake other with
  | ind n ih =>
      rw [readChunks_eq] at h h'
      obtain ⟨line, intake₁, hline, h⟩ := Outcome.bind_eq_done.1 h
      obtain ⟨line', other₁, hline', h'⟩ := Outcome.bind_eq_done.1 h'
      obtain ⟨rfl, hbytes₁⟩ := readLineCrlf_unique hbytes hline hline'
      cases hsize : parseChunkSize line with
      | error error =>
          rw [hsize] at h
          cases h
      | ok size =>
          rw [hsize, Outcome.ofExcept, Outcome.done_bind] at h h'
          split at h
          · rename_i hzero
            rw [if_pos hzero] at h'
            obtain ⟨_, _, _, hdone⟩ := Outcome.bind_eq_done.1 h
            obtain ⟨_, _, _, hdone'⟩ := Outcome.bind_eq_done.1 h'
            rw [← (Outcome.done.inj hdone).1, ← (Outcome.done.inj hdone').1]
          · rename_i hzero
            rw [if_neg hzero] at h'
            split at h
            · cases h
            · rename_i hfits
              rw [if_neg hfits] at h'
              obtain ⟨u, intake₂, hdata, h⟩ := Outcome.bind_eq_done.1 h
              obtain ⟨u', other₂, hdata', h'⟩ := Outcome.bind_eq_done.1 h'
              obtain ⟨v, intake₃, hend, h⟩ := Outcome.bind_eq_done.1 h
              obtain ⟨v', other₃, hend', h'⟩ := Outcome.bind_eq_done.1 h'
              obtain ⟨hdata₁, hrest₁⟩ := take_of_ensureBuffered hdata
              obtain ⟨hdata₂, hrest₂⟩ := take_of_ensureBuffered hdata'
              obtain ⟨hend₁, hrest₃⟩ := take_of_ensureBuffered hend
              obtain ⟨hend₂, hrest₄⟩ := take_of_ensureBuffered hend'
              split at h
              · cases h
              · split at h'
                · cases h'
                · rw [hdata₁] at h
                  rw [hdata₂, ← hbytes₁] at h'
                  refine ih _ ?_ ?_ h h' rfl
                  · have hlen := congrArg List.length (readLineCrlf_done hline).1
                    rw [hrest₃, hrest₁, List.length_drop, List.length_drop]
                    simp only [List.length_append, crlf, List.length_cons] at hlen
                    omega
                  · rw [hrest₃, hrest₄, hrest₁, hrest₂, hbytes₁]

/-- **A body depends on the bytes only.** -/
theorem readBody_unique {method : Method} {maxBodyBytes statusCode : ℕ}
    {headers headers' : List (String × String)} {body body' : List UInt8}
    (hcodings : transferCodings headers = transferCodings headers')
    (hlength : parseContentLength headers = parseContentLength headers')
    (hbytes : intake.bytes = other.bytes)
    (h : readBody method maxBodyBytes statusCode headers intake = .done body intake')
    (h' : readBody method maxBodyBytes statusCode headers' other = .done body' other') :
    body = body' := by
  rw [readBody] at h h'
  rw [← hcodings, ← hlength] at h'
  split at h
  · rename_i hempty
    rw [if_pos hempty] at h'
    rw [← (Outcome.done.inj h).1, ← (Outcome.done.inj h').1]
  · rename_i hempty
    rw [if_neg hempty] at h'
    cases hc : transferCodings headers with
    | nil =>
        rw [hc] at h h'
        obtain ⟨length, intake₁, hlen, h⟩ := Outcome.bind_eq_done.1 h
        obtain ⟨length', other₁, hlen', h'⟩ := Outcome.bind_eq_done.1 h'
        cases hparse : parseContentLength headers with
        | error error =>
            rw [hparse] at hlen
            cases hlen
        | ok parsed =>
            rw [hparse] at hlen hlen'
            obtain ⟨rfl, rfl⟩ := Outcome.done.inj hlen
            obtain ⟨rfl, rfl⟩ := Outcome.done.inj hlen'
            cases parsed with
            | some contentLength => rw [readFixedBody_done h, readFixedBody_done h', hbytes]
            | none => rw [readCloseDelimitedBody_done h, readCloseDelimitedBody_done h', hbytes]
    | cons coding codings =>
        rw [hc] at h h'
        cases codings with
        | nil =>
            dsimp only at h h'
            split at h
            · rename_i hchunked
              rw [if_pos hchunked] at h'
              exact readChunks_unique hbytes h h'
            · cases h
        | cons _ _ => cases h

end Rgrok
