/-
# How much of a stream is read

`readHttpResponseConsumed` counts the bytes that `read_http_response` reads from
the stream until it returns or waits.  For a body of at most `maxBodyBytes` they
are bounded, but for the trailers behind the last chunk
(`readHttpResponseConsumed_le`): every other loop is under a limit of its own.
-/

import Mathlib.Algebra.GroupWithZero.Nat
import Rgrok.Server.ResponseLimits

namespace Rgrok

/-! ### The count -/

/-- What comes after a reader that is done. -/
def Outcome.consumedAfter {α : Type} (outcome : Outcome α) (next : α → Intake UInt8 → ℕ) : ℕ :=
  match outcome with
  | .done value intake => next value intake
  | _ => 0

theorem Outcome.consumedAfter_le {α : Type} {outcome : Outcome α} {next : α → Intake UInt8 → ℕ}
    {bound : ℕ} (h : ∀ value intake, outcome = .done value intake → next value intake ≤ bound) :
    outcome.consumedAfter next ≤ bound := by
  cases outcome with
  | waiting | failed error => exact Nat.zero_le _
  | done value intake => exact h value intake rfl

/-- `ensure_buffered`. -/
def ensureBufferedConsumed (required : ℕ) (intake : Intake UInt8) : ℕ :=
  if intake.buffered.length < required then
    match _hread : intake.stream.read readBufferSize with
    | .read piece stream => piece.length + ensureBufferedConsumed required (intake.extend piece stream)
    | _ => 0
  else 0
termination_by intake.stream.bytes.length
decreasing_by exact ByteStream.length_read (m := readBufferSize) (by decide) _hread

/-- `read_header_section`. -/
def readHeaderSectionConsumed (intake : Intake UInt8) : ℕ :=
  match position crlfCrlf intake.buffered with
  | some _ => 0
  | none =>
      if maxResponseHeaders ≤ intake.buffered.length then 0
      else
        match _hread : intake.stream.read readBufferSize with
        | .read piece stream =>
            let intake := intake.extend piece stream
            piece.length +
              if maxResponseHeaders < intake.buffered.length ∧
                  position crlfCrlf intake.buffered = none then 0
              else readHeaderSectionConsumed intake
        | _ => 0
termination_by intake.stream.bytes.length
decreasing_by exact ByteStream.length_read (m := readBufferSize) (by decide) _hread

/-- The loop over the heads. -/
def readHeadsConsumed (room : ℕ) (intake : Intake UInt8) : ℕ :=
  readHeaderSectionConsumed intake + (readOneHead intake).consumedAfter fun (statusCode, _) intake =>
    if 100 ≤ statusCode ∧ statusCode < 200 ∧ statusCode ≠ 101 then
      match room with
      | 0 => 0
      | room + 1 => readHeadsConsumed room intake
    else 0

/-- The loop of `read_fixed_body`. -/
def readRemainingConsumed (contentLength : ℕ) (body : List UInt8) (intake : Intake UInt8) : ℕ :=
  if _hlt : body.length < contentLength then
    match _hread : intake.stream.read (min (contentLength - body.length) readBufferSize) with
    | .read piece stream =>
        piece.length +
          readRemainingConsumed contentLength (body ++ piece) { intake with stream := stream }
    | _ => 0
  else 0
termination_by intake.stream.bytes.length
decreasing_by
  have hpos : 0 < readBufferSize := by decide
  exact ByteStream.length_read (by omega) _hread

/-- `read_fixed_body`. -/
def readFixedBodyConsumed (contentLength maxBodyBytes : ℕ) (intake : Intake UInt8) : ℕ :=
  if maxBodyBytes < contentLength then 0
  else
    readRemainingConsumed contentLength (intake.take contentLength).1 (intake.take contentLength).2

/-- `read_line_crlf`. -/
def readLineCrlfConsumed (intake : Intake UInt8) : ℕ :=
  match position crlf intake.buffered with
  | some _ => 0
  | none =>
      if maxResponseHeaders < intake.buffered.length then 0
      else
        ensureBufferedConsumed (intake.buffered.length + 1) intake +
          match _hensure : ensureBuffered (intake.buffered.length + 1) intake with
          | .done _ intake => readLineCrlfConsumed intake
          | _ => 0
termination_by intake.stream.bytes.length
decreasing_by exact (ensureBuffered_done _hensure).2.2.2.2 (by omega)

/-- The trailer lines. -/
def readTrailersConsumed (intake : Intake UInt8) : ℕ :=
  readLineCrlfConsumed intake +
    match _hline : readLineCrlf intake with
    | .done line intake => if line.isEmpty then 0 else readTrailersConsumed intake
    | _ => 0
termination_by intake.bytes.length
decreasing_by
  have hbytes := congrArg List.length (readLineCrlf_done _hline).1
  simp only [List.length_append, crlf, List.length_cons] at hbytes
  omega

/-- The loop of `read_chunked_body`. -/
def readChunksConsumed (maxBodyBytes : ℕ) (body : List UInt8) (intake : Intake UInt8) : ℕ :=
  readLineCrlfConsumed intake +
    match _hline : readLineCrlf intake with
    | .done line intake =>
        match parseChunkSize line with
        | .error _ => 0
        | .ok size =>
            if size = 0 then readTrailersConsumed intake
            else if maxBodyBytes - body.length < size then 0
            else
              ensureBufferedConsumed size intake +
                match _hdata : ensureBuffered size intake with
                | .done _ intake =>
                    ensureBufferedConsumed 2 (intake.take size).2 +
                      match _hend : ensureBuffered 2 (intake.take size).2 with
                      | .done _ intake' =>
                          if (intake'.take 2).1 ≠ crlf then 0
                          else
                            readChunksConsumed maxBodyBytes (body ++ (intake.take size).1)
                              (intake'.take 2).2
                      | _ => 0
                | _ => 0
    | _ => 0
termination_by intake.bytes.length
decreasing_by
  have hbytes := congrArg List.length (readLineCrlf_done _hline).1
  rw [← (ensureBuffered_done _hdata).1] at hbytes
  have hend := congrArg List.length (ensureBuffered_done _hend).1
  simp only [Intake.take, Intake.bytes, List.length_append, List.length_drop, crlf,
    List.length_cons] at hbytes hend ⊢
  omega

/-- The loop of `read_close_delimited_body`. -/
def readToEndConsumed (maxBodyBytes : ℕ) (body : List UInt8) (intake : Intake UInt8) : ℕ :=
  match _hread : intake.stream.read readBufferSize with
  | .read piece stream =>
      piece.length +
        if maxBodyBytes - body.length < piece.length then 0
        else readToEndConsumed maxBodyBytes (body ++ piece) { intake with stream := stream }
  | _ => 0
termination_by intake.stream.bytes.length
decreasing_by exact ByteStream.length_read (m := readBufferSize) (by decide) _hread

/-- `read_close_delimited_body`. -/
def readCloseDelimitedBodyConsumed (maxBodyBytes : ℕ) (intake : Intake UInt8) : ℕ :=
  if maxBodyBytes < intake.buffered.length then 0
  else readToEndConsumed maxBodyBytes intake.buffered { intake with buffered := [] }

/-- The body behind the final head. -/
def readBodyConsumed (method : Method) (maxBodyBytes statusCode : ℕ)
    (headers : List (String × String)) (intake : Intake UInt8) : ℕ :=
  if responseHasNoBody method statusCode then 0
  else
    match transferCodings headers with
    | [] =>
        match parseContentLength headers with
        | .error _ => 0
        | .ok (some contentLength) => readFixedBodyConsumed contentLength maxBodyBytes intake
        | .ok none => readCloseDelimitedBodyConsumed maxBodyBytes intake
    | [coding] =>
        if Text.eqIgnoreAsciiCase (String.ofList coding) "chunked" then
          readChunksConsumed maxBodyBytes [] intake
        else 0
    | _ => 0

/-- `read_http_response`: the bytes read from the stream when it returns or waits. -/
def readHttpResponseConsumed (method : Method) (maxBodyBytes : ℕ) (stream : ByteStream UInt8) : ℕ :=
  readHeadsConsumed maxInformationalResponses ⟨[], stream⟩ +
    (readHeads maxInformationalResponses ⟨[], stream⟩).consumedAfter
      fun (statusCode, headers) intake =>
        readBodyConsumed method maxBodyBytes statusCode headers intake

/-! ### What is read and what is left -/

variable {intake intake' : Intake UInt8} {body : List UInt8} {maxBodyBytes : ℕ}

theorem ensureBufferedConsumed_done {required : ℕ} {u : Unit}
    (h : ensureBuffered required intake = .done u intake') :
    ensureBufferedConsumed required intake + intake'.stream.bytes.length =
      intake.stream.bytes.length := by
  fun_induction ensureBuffered required intake with
  | case1 => cases h
  | case2 => cases h
  | case3 => cases h
  | case4 intake hlt piece stream hread ih =>
      have hbytes := (ByteStream.read_spec (m := readBufferSize) (by decide) hread).2.2.1
      have hrest := ih h
      have hstream : (intake.extend piece stream).stream = stream := rfl
      rw [hstream] at hrest
      rw [ensureBufferedConsumed, if_pos hlt, hread, hbytes, List.length_append]
      dsimp only
      omega
  | case5 intake hnlt =>
      obtain ⟨-, rfl⟩ := Outcome.done.inj h
      rw [ensureBufferedConsumed, if_neg hnlt, Nat.zero_add]

theorem readHeaderSectionConsumed_done {n : ℕ} (h : readHeaderSection intake = .done n intake') :
    readHeaderSectionConsumed intake + intake'.stream.bytes.length =
      intake.stream.bytes.length := by
  fun_induction readHeaderSection intake with
  | case1 => cases h
  | case2 intake m hpos hfits =>
      obtain ⟨-, rfl⟩ := Outcome.done.inj h
      rw [readHeaderSectionConsumed, hpos, Nat.zero_add]
  | case3 => cases h
  | case4 => cases h
  | case5 => cases h
  | case6 => cases h
  | case7 => cases h
  | case8 intake hpos hshort piece stream hread intake₁ hfits ih =>
      have hbytes := (ByteStream.read_spec (m := readBufferSize) (by decide) hread).2.2.1
      have hrest : readHeaderSectionConsumed (intake.extend piece stream) +
          intake'.stream.bytes.length = stream.bytes.length := ih h
      rw [readHeaderSectionConsumed, hpos]
      dsimp only
      rw [if_neg hshort, hread]
      dsimp only
      rw [if_neg hfits, hbytes, List.length_append]
      omega

theorem readLineCrlfConsumed_done {line : List UInt8}
    (h : readLineCrlf intake = .done line intake') :
    readLineCrlfConsumed intake + intake'.stream.bytes.length = intake.stream.bytes.length := by
  fun_induction readLineCrlf intake with
  | case1 intake n hpos line' intake₁ htake =>
      obtain ⟨-, rfl⟩ := Outcome.done.inj h
      obtain ⟨-, rfl⟩ := Prod.mk.inj htake
      rw [readLineCrlfConsumed, hpos, Nat.zero_add]
      rfl
  | case2 => cases h
  | case3 => cases h
  | case4 => cases h
  | case5 intake hpos hshort u intake₁ hensure ih =>
      have hfirst := ensureBufferedConsumed_done hensure
      have hrest := ih h
      rw [readLineCrlfConsumed, hpos]
      dsimp only
      rw [if_neg hshort, hensure]
      dsimp only
      omega

theorem readOneHead_consumed {head : ℕ × List (String × String)}
    (h : readOneHead intake = .done head intake') :
    readHeaderSectionConsumed intake + intake'.stream.bytes.length =
      intake.stream.bytes.length := by
  obtain ⟨n, intake₁, hsection, hhead⟩ := Outcome.bind_eq_done.1 h
  have hstream : intake'.stream = intake₁.stream := by
    cases htext : Text.fromUtf8 (intake₁.take n).1 with
    | none =>
        rw [htext] at hhead
        cases hhead
    | some text =>
        rw [htext] at hhead
        dsimp only at hhead
        cases hparse : parseResponseHeaders text with
        | error error =>
            rw [hparse] at hhead
            cases hhead
        | ok head' =>
            rw [hparse] at hhead
            rw [← (Outcome.done.inj hhead).2]
            rfl
  rw [hstream]
  exact readHeaderSectionConsumed_done hsection

theorem readHeadsConsumed_done {intake intake' : Intake UInt8} {room : ℕ}
    {head : ℕ × List (String × String)}
    (h : readHeads room intake = .done head intake') :
    readHeadsConsumed room intake + intake'.stream.bytes.length = intake.stream.bytes.length := by
  obtain ⟨first, intake₁, hone, hcases⟩ := readHeads_cases h
  have hfirst := readOneHead_consumed hone
  rw [readHeadsConsumed.eq_def, hone, Outcome.consumedAfter]
  dsimp only
  rcases hcases with ⟨room', rfl, hinformational, hnext⟩ | ⟨hfinal, -, rfl⟩
  · have hrest := readHeadsConsumed_done hnext
    rw [if_pos hinformational]
    dsimp only
    omega
  · rw [if_neg hfinal]
    omega

theorem readTrailersConsumed_done {u : Unit} (h : readTrailers intake = .done u intake') :
    readTrailersConsumed intake + intake'.stream.bytes.length = intake.stream.bytes.length := by
  fun_induction readTrailers intake with
  | case1 => cases h
  | case2 => cases h
  | case3 intake line intake₁ hline hempty =>
      obtain ⟨-, rfl⟩ := Outcome.done.inj h
      have hfirst := readLineCrlfConsumed_done hline
      rw [readTrailersConsumed, hline]
      dsimp only
      rw [if_pos hempty]
      omega
  | case4 intake line intake₁ hline hmore ih =>
      have hfirst := readLineCrlfConsumed_done hline
      have hrest := ih h
      rw [readTrailersConsumed, hline]
      dsimp only
      rw [if_neg hmore]
      omega

/-! ### The limits of the loops -/

/-- No reader leaves more in the buffer than one read behind the longest line. -/
def bufferLimit : ℕ :=
  maxResponseHeaders + readBufferSize

theorem ensureBufferedConsumed_le {bound required : ℕ} (hnow : intake.buffered.length ≤ bound)
    (hroom : required + readBufferSize ≤ bound + 1) :
    intake.buffered.length + ensureBufferedConsumed required intake ≤ bound := by
  fun_induction ensureBufferedConsumed required intake with
  | case1 intake hlt piece stream hread ih =>
      have hpiece := (ByteStream.read_spec (m := readBufferSize) (by decide) hread).2.1
      have hbuffered : (intake.extend piece stream).buffered.length =
          intake.buffered.length + piece.length := List.length_append
      rw [hbuffered] at ih
      have hrest := ih (by omega)
      omega
  | case2 => exact hnow
  | case3 => exact hnow

theorem readHeaderSectionConsumed_le (hnow : intake.buffered.length ≤ bufferLimit) :
    intake.buffered.length + readHeaderSectionConsumed intake ≤ bufferLimit := by
  fun_induction readHeaderSectionConsumed intake with
  | case1 => exact hnow
  | case2 => exact hnow
  | case3 intake hpos hshort piece stream hread intake₁ ih =>
      have hpiece := (ByteStream.read_spec (m := readBufferSize) (by decide) hread).2.1
      have hbuffered : intake₁.buffered.length = intake.buffered.length + piece.length :=
        List.length_append
      have hfits : intake₁.buffered.length ≤ bufferLimit := by
        rw [bufferLimit]
        omega
      split
      · omega
      · have hrest := ih hfits
        omega
  | case4 => exact hnow

/-- What was read is in the buffer. -/
theorem buffered_of_consumed {consumed : ℕ} (hbytes : intake'.bytes = intake.bytes)
    (h : consumed + intake'.stream.bytes.length = intake.stream.bytes.length) :
    intake'.buffered.length = intake.buffered.length + consumed := by
  have hlen := congrArg List.length hbytes
  rw [Intake.bytes, Intake.bytes, List.length_append, List.length_append] at hlen
  omega

theorem readLineCrlfConsumed_le (hnow : intake.buffered.length ≤ bufferLimit) :
    intake.buffered.length + readLineCrlfConsumed intake ≤ bufferLimit := by
  fun_induction readLineCrlf intake with
  | case1 intake n hpos =>
      rw [readLineCrlfConsumed, hpos]
      exact hnow
  | case2 intake hpos hlong =>
      rw [readLineCrlfConsumed, hpos]
      dsimp only
      rw [if_pos hlong]
      exact hnow
  | case3 intake hpos hshort hensure | case4 intake hpos hshort error hensure =>
      rw [readLineCrlfConsumed, hpos]
      dsimp only
      rw [if_neg hshort, hensure]
      exact ensureBufferedConsumed_le hnow (by rw [bufferLimit]; omega)
  | case5 intake hpos hshort u intake₁ hensure ih =>
      have hread : intake.buffered.length +
          ensureBufferedConsumed (intake.buffered.length + 1) intake ≤ bufferLimit :=
        ensureBufferedConsumed_le hnow (by rw [bufferLimit]; omega)
      have hbuffered :=
        buffered_of_consumed (ensureBuffered_done hensure).1 (ensureBufferedConsumed_done hensure)
      have hrest := ih (by omega)
      rw [readLineCrlfConsumed, hpos]
      dsimp only
      rw [if_neg hshort, hensure]
      dsimp only
      omega

/-- A line comes out of the buffer. -/
theorem buffered_of_readLineCrlf {line : List UInt8} (h : readLineCrlf intake = .done line intake') :
    intake.buffered.length + readLineCrlfConsumed intake =
      line.length + 2 + intake'.buffered.length := by
  have hlen := congrArg List.length (readLineCrlf_done h).1
  have hconsumed := readLineCrlfConsumed_done h
  simp only [Intake.bytes, List.length_append, crlf, List.length_cons, List.length_nil] at hlen
  omega

theorem lineOf_of_readLineCrlf {line : List UInt8} (h : readLineCrlf intake = .done line intake') :
    lineOf intake.bytes = some (line, intake'.bytes) := by
  have hbytes := (readLineCrlf_done h).1
  have hlen : line.length + 2 = (line ++ crlf).length := by
    rw [List.length_append]
    rfl
  rw [lineOf, position_of_readLineCrlf h, Option.map_some, hbytes, hlen, List.drop_left,
    List.append_assoc, List.take_left]

/-! ### The trailers -/

/-- The bytes of the trailer lines, with their ends. -/
def trailersLength (bytes : List UInt8) : ℕ :=
  ((trailerLines bytes).map fun line => line.length + 2).sum

theorem trailersLength_eq {bytes line rest : List UInt8} (h : lineOf bytes = some (line, rest)) :
    trailersLength bytes =
      line.length + 2 + if line.isEmpty then 0 else trailersLength rest := by
  rw [trailersLength, trailerLines]
  split
  · rename_i hnone
    rw [hnone] at h
    cases h
  · rename_i line' rest' hsome
    rw [hsome] at h
    obtain ⟨rfl, rfl⟩ := Prod.mk.inj (Option.some.inj h)
    rw [List.map_cons, List.sum_cons]
    split
    · rfl
    · rfl

theorem readTrailersConsumed_le (hnow : intake.buffered.length ≤ bufferLimit) :
    intake.buffered.length + readTrailersConsumed intake ≤
      bufferLimit + trailersLength intake.bytes := by
  fun_induction readTrailers intake with
  | case1 intake hline | case2 intake error hline =>
      have hread := readLineCrlfConsumed_le hnow
      rw [readTrailersConsumed, hline]
      dsimp only
      omega
  | case3 intake line intake₁ hline hempty =>
      have hread := readLineCrlfConsumed_le hnow
      rw [readTrailersConsumed, hline]
      dsimp only
      rw [if_pos hempty]
      omega
  | case4 intake line intake₁ hline hmore ih =>
      have hread := readLineCrlfConsumed_le hnow
      have hbuffered := buffered_of_readLineCrlf hline
      have hrest := ih (by omega)
      rw [readTrailersConsumed, hline, trailersLength_eq (lineOf_of_readLineCrlf hline)]
      dsimp only
      rw [if_neg hmore, if_neg hmore]
      omega

/-- The bytes of the trailer lines behind the last chunk. -/
def chunkTrailersLength (bytes : List UInt8) : ℕ :=
  match _hline : lineOf bytes with
  | none => 0
  | some (line, rest) =>
      match parseChunkSize line with
      | .error _ => 0
      | .ok size =>
          if size = 0 then trailersLength rest
          else if HasChunk size rest then chunkTrailersLength ((rest.drop size).drop 2)
          else 0
termination_by bytes.length
decreasing_by
  have hlt := length_of_lineOf _hline
  simp only [List.length_drop]
  omega

theorem chunkTrailersLength_eq {bytes line rest : List UInt8} {size : ℕ}
    (h : lineOf bytes = some (line, rest)) (hsize : parseChunkSize line = .ok size) :
    chunkTrailersLength bytes =
      if size = 0 then trailersLength rest
      else if HasChunk size rest then chunkTrailersLength ((rest.drop size).drop 2)
      else 0 := by
  rw [chunkTrailersLength]
  split
  · rename_i hnone
    rw [hnone] at h
    cases h
  · rename_i line' rest' hsome
    rw [hsome] at h
    obtain ⟨rfl, rfl⟩ := Prod.mk.inj (Option.some.inj h)
    rw [hsize]

/-! ### Chunks -/

/-- What the reading of one chunk costs at most. -/
def chunkCost (maxBodyBytes : ℕ) : ℕ :=
  3 * bufferLimit + maxBodyBytes

/-- The data of a chunk. -/
theorem ensureBufferedConsumed_chunk {size : ℕ} {u : Unit}
    (hnow : intake.buffered.length ≤ bufferLimit)
    (h : ensureBuffered size intake = .done u intake') :
    ensureBufferedConsumed size intake ≤ bufferLimit + size ∧
      (intake'.take size).2.buffered.length ≤ bufferLimit := by
  have hle : intake.buffered.length + ensureBufferedConsumed size intake ≤ bufferLimit + size :=
    ensureBufferedConsumed_le (Nat.le_trans hnow (Nat.le_add_right _ _)) (by rw [bufferLimit]; omega)
  have hbuffered :=
    buffered_of_consumed (ensureBuffered_done h).1 (ensureBufferedConsumed_done h)
  have htake : (intake'.take size).2.buffered.length = intake'.buffered.length - size :=
    List.length_drop
  omega

/-- A chunk that was read stands in the bytes. -/
theorem hasChunk_of_ensureBuffered {size : ℕ} {u v : Unit} {intake₁ intake₂ : Intake UInt8}
    (hdata : ensureBuffered size intake = .done u intake₁)
    (hend : ensureBuffered 2 (intake₁.take size).2 = .done v intake₂)
    (hcrlf : (intake₂.take 2).1 = crlf) :
    HasChunk size intake.bytes ∧ (intake₂.take 2).2.bytes = (intake.bytes.drop size).drop 2 ∧
      (intake₁.take size).1.length = size := by
  obtain ⟨-, hback⟩ := take_of_ensureBuffered hdata
  obtain ⟨hfront₂, hback₂⟩ := take_of_ensureBuffered hend
  rw [hback] at hfront₂ hback₂
  obtain ⟨hbytes, -, hlen, -⟩ := ensureBuffered_done hdata
  obtain ⟨hbytes₂, -, hlen₂, -⟩ := ensureBuffered_done hend
  have hlength : size ≤ intake.bytes.length := by
    rw [← hbytes, Intake.bytes, List.length_append]
    omega
  have hlength₂ : 2 ≤ (intake.bytes.drop size).length := by
    rw [← hback, ← hbytes₂, Intake.bytes, List.length_append]
    omega
  refine ⟨⟨hlength, hlength₂, hfront₂.symm.trans hcrlf⟩, hback₂, ?_⟩
  rw [Intake.take, List.length_take]
  omega

/-- **Chunks** cost no more than their number allows, and what their trailers do. -/
theorem readChunksConsumed_le (hnow : intake.buffered.length ≤ bufferLimit)
    (hmax : body.length ≤ maxBodyBytes) :
    readChunksConsumed maxBodyBytes body intake ≤
      chunkCost maxBodyBytes * (maxBodyBytes - body.length + 1) + bufferLimit +
        chunkTrailersLength intake.bytes := by
  induction hn : intake.bytes.length using Nat.strongRecOn generalizing body intake with
  | ind n ih =>
      have hcost : chunkCost maxBodyBytes ≤
          chunkCost maxBodyBytes * (maxBodyBytes - body.length + 1) :=
        Nat.le_mul_of_pos_right _ (Nat.succ_pos _)
      have hline_le := readLineCrlfConsumed_le hnow
      rw [readChunksConsumed]
      split
      · rename_i line intake₁ hline
        have hbuffered := buffered_of_readLineCrlf hline
        have hbytes := congrArg List.length (readLineCrlf_done hline).1
        simp only [List.length_append, crlf, List.length_cons, List.length_nil] at hbytes
        split
        · rw [chunkCost] at hcost ⊢
          omega
        · rename_i size hsize
          rw [chunkTrailersLength_eq (lineOf_of_readLineCrlf hline) hsize]
          split
          · have htrailers : intake₁.buffered.length + readTrailersConsumed intake₁ ≤ _ :=
              readTrailersConsumed_le (by omega)
            rw [chunkCost] at hcost ⊢
            omega
          · split
            · rw [chunkCost] at hcost ⊢
              omega
            · rename_i hpositive hfits
              have hdata_le : intake₁.buffered.length + ensureBufferedConsumed size intake₁ ≤
                  bufferLimit + size :=
                ensureBufferedConsumed_le (by omega) (by rw [bufferLimit]; omega)
              split
              · rename_i u intake₂ hdata
                obtain ⟨-, hnow₂⟩ := ensureBufferedConsumed_chunk (by omega) hdata
                have hend_le : (intake₂.take size).2.buffered.length +
                    ensureBufferedConsumed 2 (intake₂.take size).2 ≤ bufferLimit :=
                  ensureBufferedConsumed_le hnow₂ (by decide)
                split
                · rename_i v intake₃ hend
                  have hbuffered₃ := buffered_of_consumed (ensureBuffered_done hend).1
                    (ensureBufferedConsumed_done hend)
                  split
                  · show readLineCrlfConsumed intake + (ensureBufferedConsumed size intake₁ +
                      (ensureBufferedConsumed 2 (intake₂.take size).2 + 0)) ≤ _
                    rw [chunkCost] at hcost ⊢
                    omega
                  · rename_i hcrlf
                    obtain ⟨hchunk, hrest, hsize'⟩ :=
                      hasChunk_of_ensureBuffered hdata hend (not_not.1 hcrlf)
                    have hbody : (body ++ (intake₂.take size).1).length = body.length + size := by
                      rw [List.length_append, hsize']
                    have hnow₃ : (intake₃.take 2).2.buffered.length ≤ bufferLimit := by
                      have hdrop : (intake₃.take 2).2.buffered.length =
                          intake₃.buffered.length - 2 := List.length_drop
                      omega
                    have hshorter : (intake₃.take 2).2.bytes.length < n := by
                      rw [hrest, List.length_drop, List.length_drop]
                      omega
                    have hlater : readChunksConsumed maxBodyBytes (body ++ (intake₂.take size).1)
                        (intake₃.take 2).2 ≤ _ := ih _ hshorter hnow₃ (by rw [hbody]; omega) rfl
                    have hchunks : chunkCost maxBodyBytes +
                        chunkCost maxBodyBytes * (maxBodyBytes - (body.length + size) + 1) ≤
                        chunkCost maxBodyBytes * (maxBodyBytes - body.length + 1) := by
                      rw [Nat.add_comm, ← Nat.mul_succ]
                      exact Nat.mul_le_mul_left _ (by omega)
                    rw [hbody, hrest] at hlater
                    rw [if_pos hchunk]
                    have hone : readLineCrlfConsumed intake + ensureBufferedConsumed size intake₁ +
                        ensureBufferedConsumed 2 (intake₂.take size).2 ≤
                        chunkCost maxBodyBytes := by
                      rw [chunkCost]
                      omega
                    show readLineCrlfConsumed intake + (ensureBufferedConsumed size intake₁ +
                      (ensureBufferedConsumed 2 (intake₂.take size).2 +
                        readChunksConsumed maxBodyBytes (body ++ (intake₂.take size).1)
                          (intake₃.take 2).2)) ≤ _
                    omega
                · show readLineCrlfConsumed intake + (ensureBufferedConsumed size intake₁ +
                    (ensureBufferedConsumed 2 (intake₂.take size).2 + 0)) ≤ _
                  rw [chunkCost] at hcost ⊢
                  omega
              · show readLineCrlfConsumed intake + (ensureBufferedConsumed size intake₁ + 0) ≤ _
                rw [chunkCost] at hcost ⊢
                omega
      · rw [chunkCost] at hcost ⊢
        omega

/-! ### The other loops -/

theorem readHeadsConsumed_le {room : ℕ} (hnow : intake.buffered.length ≤ bufferLimit) :
    readHeadsConsumed room intake ≤ (room + 1) * bufferLimit := by
  have hbuffered : ∀ {head : ℕ × List (String × String)} {intake intake' : Intake UInt8},
      intake.buffered.length ≤ bufferLimit → readOneHead intake = .done head intake' →
        intake'.buffered.length ≤ bufferLimit := fun hnow hone =>
    readOneHead_buffered (readHeaderSectionHeld_le hnow (Nat.le_refl _)) hone
  have hsection : ∀ {intake : Intake UInt8}, intake.buffered.length ≤ bufferLimit →
      readHeaderSectionConsumed intake ≤ bufferLimit := fun hnow =>
    Nat.le_trans (Nat.le_add_left _ _) (readHeaderSectionConsumed_le hnow)
  induction room generalizing intake with
  | zero =>
      rw [readHeadsConsumed, Nat.zero_add, Nat.one_mul]
      refine Nat.add_le_add (d := 0) (hsection hnow) ?_
      exact Outcome.consumedAfter_le fun (statusCode, headers) intake' _ =>
        Nat.le_of_eq (ite_self 0)
  | succ room ih =>
      rw [readHeadsConsumed, Nat.succ_mul, Nat.add_comm]
      refine Nat.add_le_add (Outcome.consumedAfter_le ?_) (hsection hnow)
      rintro ⟨statusCode, headers⟩ intake' hone
      dsimp only
      split
      · exact ih (hbuffered hnow hone)
      · exact Nat.zero_le _

theorem readRemainingConsumed_le {contentLength : ℕ} :
    readRemainingConsumed contentLength body intake ≤ contentLength - body.length := by
  fun_induction readRemainingConsumed contentLength body intake with
  | case1 body intake hlt piece stream hread ih =>
      have hmax : 0 < min (contentLength - body.length) readBufferSize := by
        have hpos : 0 < readBufferSize := by decide
        omega
      have hpiece := (ByteStream.read_spec hmax hread).2.1
      rw [List.length_append] at ih
      omega
  | case2 => exact Nat.zero_le _
  | case3 => exact Nat.zero_le _

theorem readToEndConsumed_le :
    readToEndConsumed maxBodyBytes body intake ≤ maxBodyBytes - body.length + readBufferSize := by
  fun_induction readToEndConsumed maxBodyBytes body intake with
  | case1 body intake piece stream hread ih =>
      have hpiece := (ByteStream.read_spec (m := readBufferSize) (by decide) hread).2.1
      rw [List.length_append] at ih
      split <;> omega
  | case2 => exact Nat.zero_le _

/-! ### The response -/

theorem readHeaderSection_le {n : ℕ} (h : readHeaderSection intake = .done n intake') :
    n ≤ maxResponseHeaders := by
  fun_induction readHeaderSection intake with
  | case1 => cases h
  | case2 intake m hpos hfits =>
      obtain ⟨rfl, -⟩ := Outcome.done.inj h
      exact Nat.le_of_not_lt hfits
  | case3 => cases h
  | case4 => cases h
  | case5 => cases h
  | case6 => cases h
  | case7 => cases h
  | case8 intake hpos hshort piece stream hread intake₁ hfits ih => exact ih h

theorem headOf_of_readOneHead {head : ℕ × List (String × String)}
    (h : readOneHead intake = .done head intake') :
    headOf intake.bytes = some (head, intake'.bytes) := by
  obtain ⟨n, text, hpos, htext, hparse, hbytes, -⟩ := readOneHead_done h
  obtain ⟨m, intake₁, hsection, -⟩ := Outcome.bind_eq_done.1 h
  obtain ⟨n', hpos', rfl, -⟩ := readHeaderSection_done hsection
  obtain rfl := Option.some.inj (hpos.symm.trans hpos')
  rw [headOf, hpos]
  dsimp only
  rw [if_neg (Nat.not_lt.2 (readHeaderSection_le hsection)), htext]
  dsimp only
  rw [hparse, hbytes]

theorem headsOf_of_readHeads {intake intake' : Intake UInt8} {room : ℕ}
    {head : ℕ × List (String × String)}
    (h : readHeads room intake = .done head intake') :
    headsOf room intake.bytes = some (head, intake'.bytes) := by
  obtain ⟨first, intake₁, hone, hcases⟩ := readHeads_cases h
  rw [headsOf.eq_def, headOf_of_readOneHead hone, Option.bind_some]
  dsimp only
  rcases hcases with ⟨room', rfl, hinformational, hnext⟩ | ⟨hfinal, rfl, rfl⟩
  · rw [if_pos hinformational]
    exact headsOf_of_readHeads hnext
  · rw [if_neg hfinal]

/-- The bytes of the trailer lines of a response. -/
def responseTrailersLength (method : Method) (bytes : List UInt8) : ℕ :=
  match headsOf maxInformationalResponses bytes with
  | none => 0
  | some ((statusCode, headers), rest) =>
      if responseHasNoBody method statusCode then 0
      else
        match transferCodings headers with
        | [coding] =>
            if Text.eqIgnoreAsciiCase (String.ofList coding) "chunked" then chunkTrailersLength rest
            else 0
        | _ => 0

/-- The bytes that are read at most when there are no trailers. -/
def consumptionBound (maxBodyBytes : ℕ) : ℕ :=
  17 * bufferLimit + (chunkCost maxBodyBytes * (maxBodyBytes + 1) + bufferLimit)

theorem readBodyConsumed_le {method : Method} {statusCode : ℕ} {headers : List (String × String)}
    (hnow : intake.buffered.length ≤ bufferLimit) :
    readBodyConsumed method maxBodyBytes statusCode headers intake ≤
      chunkCost maxBodyBytes * (maxBodyBytes + 1) + bufferLimit +
        if responseHasNoBody method statusCode then 0
        else
          match transferCodings headers with
          | [coding] =>
              if Text.eqIgnoreAsciiCase (String.ofList coding) "chunked" then
                chunkTrailersLength intake.bytes
              else 0
          | _ => 0 := by
  have hcost : maxBodyBytes + bufferLimit ≤
      chunkCost maxBodyBytes * (maxBodyBytes + 1) + bufferLimit := by
    have hone : chunkCost maxBodyBytes ≤ chunkCost maxBodyBytes * (maxBodyBytes + 1) :=
      Nat.le_mul_of_pos_right _ (Nat.succ_pos _)
    have hpart : maxBodyBytes ≤ chunkCost maxBodyBytes := Nat.le_add_left _ _
    omega
  rw [readBodyConsumed]
  split
  · exact Nat.zero_le _
  · split
    · split
      · exact Nat.zero_le _
      · rename_i contentLength hlength
        rw [readFixedBodyConsumed]
        split
        · exact Nat.zero_le _
        · refine Nat.le_trans readRemainingConsumed_le ?_
          omega
      · rw [readCloseDelimitedBodyConsumed]
        split
        · exact Nat.zero_le _
        · have hread : readBufferSize ≤ bufferLimit := by decide
          refine Nat.le_trans readToEndConsumed_le ?_
          omega
    · rename_i coding hcoding
      split
      · rename_i hchunked
        rw [hcoding]
        dsimp only
        rw [if_pos hchunked]
        exact readChunksConsumed_le hnow (Nat.zero_le maxBodyBytes)
      · exact Nat.zero_le _
    · exact Nat.zero_le _

/-- **What a response costs.**  All loops are under a limit but the one over the
trailers. -/
theorem readHttpResponseConsumed_le (method : Method) (maxBodyBytes : ℕ)
    (stream : ByteStream UInt8) :
    readHttpResponseConsumed method maxBodyBytes stream ≤
      consumptionBound maxBodyBytes + responseTrailersLength method stream.bytes := by
  have hempty : (Intake.mk [] stream).buffered.length ≤ bufferLimit := Nat.zero_le _
  have hheads : readHeadsConsumed maxInformationalResponses ⟨[], stream⟩ ≤ 17 * bufferLimit :=
    readHeadsConsumed_le hempty
  rw [readHttpResponseConsumed, consumptionBound, Nat.add_assoc]
  refine Nat.add_le_add hheads (Outcome.consumedAfter_le ?_)
  rintro ⟨statusCode, headers⟩ intake hdone
  have hnow : intake.buffered.length ≤ bufferLimit :=
    (readHeadsHeld_le hempty (Nat.le_refl _)).2 _ _ hdone
  have hbytes : headsOf maxInformationalResponses stream.bytes =
      some ((statusCode, headers), intake.bytes) := headsOf_of_readHeads hdone
  rw [responseTrailersLength, hbytes]
  exact readBodyConsumed_le hnow

end Rgrok
