/-
# The limits of a response

Whatever a peer sends: a body that is returned has at most `maxBodyBytes`, and
at every point of the computation the body that is decoded and the buffer that
is not hold at most 128 KiB more (`held_le`).  `readHttpResponseHeld` lists the
two as they are after each statement that changes one of them.  A well-formed
body is rejected for its size just when it is longer than the limit
(`readBody_size`).
-/

import Rgrok.Server.ResponseBytes
import Rgrok.Server.ResponseDecoding

namespace Rgrok

/-! ### What is held -/

/-- The decoded body and the undecoded buffer. -/
structure Held where
  body : List UInt8
  buffered : List UInt8
deriving DecidableEq

def Held.length (held : Held) : ℕ :=
  held.body.length + held.buffered.length

/-- What comes after a reader that is done. -/
def Outcome.heldAfter {α : Type} (outcome : Outcome α) (next : α → Intake UInt8 → List Held) :
    List Held :=
  match outcome with
  | .done value intake => next value intake
  | _ => []

theorem Outcome.forall_mem_heldAfter {α : Type} {outcome : Outcome α}
    {next : α → Intake UInt8 → List Held} {p : Held → Prop} :
    (∀ held ∈ outcome.heldAfter next, p held) ↔
      ∀ value intake, outcome = .done value intake → ∀ held ∈ next value intake, p held := by
  cases outcome with
  | waiting => exact ⟨fun _ => nofun, fun _ => nofun⟩
  | failed error => exact ⟨fun _ => nofun, fun _ => nofun⟩
  | done value intake =>
      refine ⟨fun h value' intake' he => ?_, fun h => h value intake rfl⟩
      obtain ⟨rfl, rfl⟩ := Outcome.done.inj he
      exact h

/-- `ensure_buffered`, with a body that is decoded already. -/
def ensureBufferedHeld (body : List UInt8) (required : ℕ) (intake : Intake UInt8) : List Held :=
  ⟨body, intake.buffered⟩ ::
    if intake.buffered.length < required then
      match _hread : intake.stream.read readBufferSize with
      | .read piece stream => ensureBufferedHeld body required (intake.extend piece stream)
      | _ => []
    else []
termination_by intake.stream.bytes.length
decreasing_by exact ByteStream.length_read (m := readBufferSize) (by decide) _hread

/-- `read_header_section`. -/
def readHeaderSectionHeld (intake : Intake UInt8) : List Held :=
  ⟨[], intake.buffered⟩ ::
    match position crlfCrlf intake.buffered with
    | some _ => []
    | none =>
        if maxResponseHeaders ≤ intake.buffered.length then []
        else
          match _hread : intake.stream.read readBufferSize with
          | .read piece stream =>
              let intake := intake.extend piece stream
              if maxResponseHeaders < intake.buffered.length ∧
                  position crlfCrlf intake.buffered = none then
                [⟨[], intake.buffered⟩]
              else readHeaderSectionHeld intake
          | _ => []
termination_by intake.stream.bytes.length
decreasing_by exact ByteStream.length_read (m := readBufferSize) (by decide) _hread

/-- The loop over the heads. -/
def readHeadsHeld (room : ℕ) (intake : Intake UInt8) : List Held :=
  readHeaderSectionHeld intake ++ (readOneHead intake).heldAfter fun (statusCode, _) intake =>
    ⟨[], intake.buffered⟩ ::
      if 100 ≤ statusCode ∧ statusCode < 200 ∧ statusCode ≠ 101 then
        match room with
        | 0 => []
        | room + 1 => readHeadsHeld room intake
      else []

/-- The loop of `read_fixed_body`. -/
def readRemainingHeld (contentLength : ℕ) (body : List UInt8) (intake : Intake UInt8) :
    List Held :=
  ⟨body, intake.buffered⟩ ::
    if _hlt : body.length < contentLength then
      match _hread : intake.stream.read (min (contentLength - body.length) readBufferSize) with
      | .read piece stream =>
          readRemainingHeld contentLength (body ++ piece) { intake with stream := stream }
      | _ => []
    else []
termination_by intake.stream.bytes.length
decreasing_by
  have hpos : 0 < readBufferSize := by decide
  exact ByteStream.length_read (by omega) _hread

/-- `read_fixed_body`. -/
def readFixedBodyHeld (contentLength maxBodyBytes : ℕ) (intake : Intake UInt8) : List Held :=
  if maxBodyBytes < contentLength then []
  else readRemainingHeld contentLength (intake.take contentLength).1 (intake.take contentLength).2

/-- `read_line_crlf`. -/
def readLineCrlfHeld (body : List UInt8) (intake : Intake UInt8) : List Held :=
  match position crlf intake.buffered with
  | some position =>
      [⟨body, (intake.take position).2.buffered⟩,
        ⟨body, ((intake.take position).2.take 2).2.buffered⟩]
  | none =>
      if maxResponseHeaders < intake.buffered.length then []
      else
        ensureBufferedHeld body (intake.buffered.length + 1) intake ++
          match _hensure : ensureBuffered (intake.buffered.length + 1) intake with
          | .done _ intake => readLineCrlfHeld body intake
          | _ => []
termination_by intake.stream.bytes.length
decreasing_by exact (ensureBuffered_done _hensure).2.2.2.2 (by omega)

/-- The trailer lines. -/
def readTrailersHeld (body : List UInt8) (intake : Intake UInt8) : List Held :=
  readLineCrlfHeld body intake ++
    match _hline : readLineCrlf intake with
    | .done line intake => if line.isEmpty then [] else readTrailersHeld body intake
    | _ => []
termination_by intake.bytes.length
decreasing_by
  have hbytes := congrArg List.length (readLineCrlf_done _hline).1
  simp only [List.length_append, crlf, List.length_cons] at hbytes
  omega

/-- The loop of `read_chunked_body`. -/
def readChunksHeld (maxBodyBytes : ℕ) (body : List UInt8) (intake : Intake UInt8) : List Held :=
  readLineCrlfHeld body intake ++
    match _hline : readLineCrlf intake with
    | .done line intake =>
        match parseChunkSize line with
        | .error _ => []
        | .ok size =>
            if size = 0 then readTrailersHeld body intake
            else if maxBodyBytes - body.length < size then []
            else
              ensureBufferedHeld body size intake ++
                match _hdata : ensureBuffered size intake with
                | .done _ intake =>
                    let body := body ++ (intake.take size).1
                    ensureBufferedHeld body 2 (intake.take size).2 ++
                      match _hend : ensureBuffered 2 (intake.take size).2 with
                      | .done _ intake' =>
                          ⟨body, (intake'.take 2).2.buffered⟩ ::
                            if (intake'.take 2).1 ≠ crlf then []
                            else readChunksHeld maxBodyBytes body (intake'.take 2).2
                      | _ => []
                | _ => []
    | _ => []
termination_by intake.bytes.length
decreasing_by
  have hbytes := congrArg List.length (readLineCrlf_done _hline).1
  rw [← (ensureBuffered_done _hdata).1] at hbytes
  have hend := congrArg List.length (ensureBuffered_done _hend).1
  simp only [Intake.take, Intake.bytes, List.length_append, List.length_drop, crlf,
    List.length_cons] at hbytes hend ⊢
  omega

/-- The loop of `read_close_delimited_body`. -/
def readToEndHeld (maxBodyBytes : ℕ) (body : List UInt8) (intake : Intake UInt8) : List Held :=
  ⟨body, intake.buffered⟩ ::
    match _hread : intake.stream.read readBufferSize with
    | .read piece stream =>
        if maxBodyBytes - body.length < piece.length then []
        else readToEndHeld maxBodyBytes (body ++ piece) { intake with stream := stream }
    | _ => []
termination_by intake.stream.bytes.length
decreasing_by exact ByteStream.length_read (m := readBufferSize) (by decide) _hread

/-- `read_close_delimited_body`: the buffer becomes the body. -/
def readCloseDelimitedBodyHeld (maxBodyBytes : ℕ) (intake : Intake UInt8) : List Held :=
  if maxBodyBytes < intake.buffered.length then [⟨intake.buffered, []⟩]
  else readToEndHeld maxBodyBytes intake.buffered { intake with buffered := [] }

/-- The body behind the final head. -/
def readBodyHeld (method : Method) (maxBodyBytes statusCode : ℕ)
    (headers : List (String × String)) (intake : Intake UInt8) : List Held :=
  if responseHasNoBody method statusCode then []
  else
    match transferCodings headers with
    | [] =>
        match parseContentLength headers with
        | .error _ => []
        | .ok (some contentLength) => readFixedBodyHeld contentLength maxBodyBytes intake
        | .ok none => readCloseDelimitedBodyHeld maxBodyBytes intake
    | [coding] =>
        if Text.eqIgnoreAsciiCase (String.ofList coding) "chunked" then
          readChunksHeld maxBodyBytes [] intake
        else []
    | _ => []

/-- `read_http_response`: the body and the buffer at every point of a run. -/
def readHttpResponseHeld (method : Method) (maxBodyBytes : ℕ) (stream : ByteStream UInt8) :
    List Held :=
  readHeadsHeld maxInformationalResponses ⟨[], stream⟩ ++
    (readHeads maxInformationalResponses ⟨[], stream⟩).heldAfter fun (statusCode, headers) intake =>
      readBodyHeld method maxBodyBytes statusCode headers intake

/-! ### What is held is bounded -/

variable {intake intake' : Intake UInt8} {body : List UInt8} {bound maxBodyBytes : ℕ}

theorem ensureBufferedHeld_le (required : ℕ)
    (hnow : body.length + intake.buffered.length ≤ bound)
    (hroom : body.length + required + readBufferSize ≤ bound + 1) :
    ∀ held ∈ ensureBufferedHeld body required intake, held.length ≤ bound := by
  fun_induction ensureBuffered required intake with
  | case1 intake hlt hread | case2 intake hlt hread | case3 intake hlt hread =>
      rw [ensureBufferedHeld, if_pos hlt, hread, List.forall_mem_singleton]
      exact hnow
  | case4 intake hlt piece stream hread ih =>
      have hpiece := (ByteStream.read_spec (m := readBufferSize) (by decide) hread).2.1
      rw [ensureBufferedHeld, if_pos hlt, hread, List.forall_mem_cons]
      refine ⟨hnow, ih ?_⟩
      rw [Intake.extend, List.length_append]
      omega
  | case5 intake hnlt =>
      rw [ensureBufferedHeld, if_neg hnlt, List.forall_mem_singleton]
      exact hnow

/-- The buffer it is done with is one of those it held. -/
theorem mem_ensureBufferedHeld {required : ℕ} {u : Unit} (body : List UInt8)
    (h : ensureBuffered required intake = .done u intake') :
    ⟨body, intake'.buffered⟩ ∈ ensureBufferedHeld body required intake := by
  fun_induction ensureBuffered required intake with
  | case1 => cases h
  | case2 => cases h
  | case3 => cases h
  | case4 intake hlt piece stream hread ih =>
      rw [ensureBufferedHeld, if_pos hlt, hread]
      exact List.mem_cons_of_mem _ (ih h)
  | case5 intake hnlt =>
      obtain ⟨-, rfl⟩ := Outcome.done.inj h
      rw [ensureBufferedHeld]
      exact List.mem_cons_self

theorem readHeaderSectionHeld_le (hnow : intake.buffered.length ≤ bound)
    (hroom : maxResponseHeaders + readBufferSize ≤ bound) :
    ∀ held ∈ readHeaderSectionHeld intake, held.length ≤ bound := by
  have hself (buffered : List UInt8) (hle : buffered.length ≤ bound) :
      (Held.mk [] buffered).length ≤ bound := by
    simpa [Held.length] using hle
  fun_induction readHeaderSection intake with
  | case1 intake n hpos hlong | case2 intake n hpos hfits =>
      rw [readHeaderSectionHeld, hpos, List.forall_mem_singleton]
      exact hself _ hnow
  | case3 intake hpos hlong =>
      rw [readHeaderSectionHeld, hpos]
      dsimp only
      rw [if_pos hlong, List.forall_mem_singleton]
      exact hself _ hnow
  | case4 intake hpos hshort hread | case5 intake hpos hshort hread
  | case6 intake hpos hshort hread =>
      rw [readHeaderSectionHeld, hpos]
      dsimp only
      rw [if_neg hshort, hread, List.forall_mem_singleton]
      exact hself _ hnow
  | case7 intake hpos hshort piece stream hread intake₁ hover =>
      have hpiece := (ByteStream.read_spec (m := readBufferSize) (by decide) hread).2.1
      have hlen : intake₁.buffered.length ≤ bound := by
        rw [show intake₁ = intake.extend piece stream from rfl, Intake.extend, List.length_append]
        omega
      rw [readHeaderSectionHeld, hpos]
      dsimp only
      rw [if_neg hshort, hread]
      dsimp only
      rw [if_pos hover, List.forall_mem_cons, List.forall_mem_singleton]
      exact ⟨hself _ hnow, hself _ hlen⟩
  | case8 intake hpos hshort piece stream hread intake₁ hfits ih =>
      have hpiece := (ByteStream.read_spec (m := readBufferSize) (by decide) hread).2.1
      rw [readHeaderSectionHeld, hpos]
      dsimp only
      rw [if_neg hshort, hread]
      dsimp only
      rw [if_neg hfits, List.forall_mem_cons]
      refine ⟨hself _ hnow, ih ?_⟩
      rw [show intake₁ = intake.extend piece stream from rfl, Intake.extend, List.length_append]
      omega

theorem mem_readHeaderSectionHeld {n : ℕ} (h : readHeaderSection intake = .done n intake') :
    ⟨[], intake'.buffered⟩ ∈ readHeaderSectionHeld intake := by
  fun_induction readHeaderSection intake with
  | case1 => cases h
  | case2 intake m hpos hfits =>
      obtain ⟨-, rfl⟩ := Outcome.done.inj h
      rw [readHeaderSectionHeld]
      exact List.mem_cons_self
  | case3 => cases h
  | case4 => cases h
  | case5 => cases h
  | case6 => cases h
  | case7 => cases h
  | case8 intake hpos hshort piece stream hread intake₁ hfits ih =>
      rw [readHeaderSectionHeld]
      refine List.mem_cons_of_mem _ ?_
      rw [hpos]
      dsimp only
      rw [if_neg hshort, hread]
      dsimp only
      rw [if_neg hfits]
      exact ih h

/-- The buffer behind a head was part of one it held. -/
theorem readOneHead_buffered {head : ℕ × List (String × String)}
    (hle : ∀ held ∈ readHeaderSectionHeld intake, held.length ≤ bound)
    (h : readOneHead intake = .done head intake') : intake'.buffered.length ≤ bound := by
  obtain ⟨n, intake₁, hsection, hhead⟩ := Outcome.bind_eq_done.1 h
  have hheld := hle _ (mem_readHeaderSectionHeld hsection)
  rw [Held.length, List.length_nil, Nat.zero_add] at hheld
  have hleft : intake' = (intake₁.take n).2 := by
    cases htext : Text.fromUtf8 (intake₁.take n).1 with
    | none =>
        rw [htext] at hhead
        cases hhead
    | some text =>
        rw [htext] at hhead
        dsimp only at hhead
        cases hparse : parseResponseHeaders text with
        | error error =>
            rw [hparse] at hhead
            cases hhead
        | ok head' =>
            rw [hparse] at hhead
            exact (Outcome.done.inj hhead).2.symm
  rw [hleft, Intake.take, List.length_drop]
  dsimp only at hheld ⊢
  omega

/-- **The heads** leave no more in the buffer than one read behind the limit. -/
theorem readHeadsHeld_le {room : ℕ} (hnow : intake.buffered.length ≤ bound)
    (hroom : maxResponseHeaders + readBufferSize ≤ bound) :
    (∀ held ∈ readHeadsHeld room intake, held.length ≤ bound) ∧
      ∀ head intake', readHeads room intake = .done head intake' →
        intake'.buffered.length ≤ bound := by
  have hself (buffered : List UInt8) (hle : buffered.length ≤ bound) :
      (Held.mk [] buffered).length ≤ bound := by
    simpa [Held.length] using hle
  have hsection := readHeaderSectionHeld_le hnow hroom
  induction room generalizing intake with
  | zero =>
      rw [readHeadsHeld, List.forall_mem_append, Outcome.forall_mem_heldAfter]
      refine ⟨⟨hsection, fun head intake₁ hone => ?_⟩, fun head intake' h => ?_⟩
      · have hleft := readOneHead_buffered hsection hone
        refine List.forall_mem_cons.2 ⟨hself _ hleft, ?_⟩
        split <;> nofun
      · rw [readHeads] at h
        obtain ⟨head₁, intake₁, hone, h⟩ := Outcome.bind_eq_done.1 h
        dsimp only at h
        split at h
        · cases h
        · obtain ⟨-, rfl⟩ := Outcome.done.inj h
          exact readOneHead_buffered hsection hone
  | succ room ih =>
      rw [readHeadsHeld, List.forall_mem_append, Outcome.forall_mem_heldAfter]
      refine ⟨⟨hsection, fun head intake₁ hone => ?_⟩, fun head intake' h => ?_⟩
      · have hleft := readOneHead_buffered hsection hone
        refine List.forall_mem_cons.2 ⟨hself _ hleft, ?_⟩
        split
        · exact (ih hleft (readHeaderSectionHeld_le hleft hroom)).1
        · nofun
      · rw [readHeads] at h
        obtain ⟨head₁, intake₁, hone, h⟩ := Outcome.bind_eq_done.1 h
        have hleft := readOneHead_buffered hsection hone
        dsimp only at h
        split at h
        · exact (ih hleft (readHeaderSectionHeld_le hleft hroom)).2 head intake' h
        · obtain ⟨-, rfl⟩ := Outcome.done.inj h
          exact hleft

/-! ### Bodies -/

theorem readRemainingHeld_le {contentLength : ℕ}
    (hnow : body.length + intake.buffered.length ≤ bound)
    (hroom : contentLength + intake.buffered.length ≤ bound) :
    ∀ held ∈ readRemainingHeld contentLength body intake, held.length ≤ bound := by
  fun_induction readRemaining contentLength body intake with
  | case1 body intake hlt hread | case2 body intake hlt hread | case3 body intake hlt hread =>
      rw [readRemainingHeld, dif_pos hlt, hread, List.forall_mem_singleton]
      exact hnow
  | case4 body intake hlt piece stream hread ih =>
      have hmax : 0 < min (contentLength - body.length) readBufferSize := by
        have hpos : 0 < readBufferSize := by decide
        omega
      have hpiece := (ByteStream.read_spec hmax hread).2.1
      rw [readRemainingHeld, dif_pos hlt, hread, List.forall_mem_cons]
      refine ⟨hnow, ih ?_ hroom⟩
      rw [List.length_append]
      dsimp only
      omega
  | case5 body intake hnlt =>
      rw [readRemainingHeld, dif_neg hnlt, List.forall_mem_singleton]
      exact hnow

theorem readFixedBodyHeld_le {contentLength : ℕ} (hnow : intake.buffered.length ≤ bound)
    (hmax : maxBodyBytes ≤ bound) :
    ∀ held ∈ readFixedBodyHeld contentLength maxBodyBytes intake, held.length ≤ bound := by
  rw [readFixedBodyHeld]
  split
  · nofun
  · refine readRemainingHeld_le ?_ ?_
    · simp only [Intake.take, List.length_take, List.length_drop]
      omega
    · simp only [Intake.take, List.length_drop]
      omega

theorem readLineCrlfHeld_le (hnow : body.length + intake.buffered.length ≤ bound)
    (hroom : body.length + (maxResponseHeaders + readBufferSize) ≤ bound) :
    (∀ held ∈ readLineCrlfHeld body intake, held.length ≤ bound) ∧
      ∀ line intake', readLineCrlf intake = .done line intake' →
        body.length + intake'.buffered.length ≤ bound := by
  fun_induction readLineCrlf intake with
  | case1 intake n hpos line intake₁ htake =>
      obtain ⟨-, rfl⟩ := Prod.mk.inj htake
      rw [readLineCrlfHeld, hpos, List.forall_mem_cons, List.forall_mem_singleton]
      simp only [Held.length, Intake.take, List.length_drop]
      refine ⟨⟨by omega, by omega⟩, fun line' intake' h => ?_⟩
      obtain ⟨-, rfl⟩ := Outcome.done.inj h
      simp only [List.length_drop]
      omega
  | case2 intake hpos hlong =>
      rw [readLineCrlfHeld, hpos]
      dsimp only
      rw [if_pos hlong]
      exact ⟨List.forall_mem_nil _, fun _ _ h => by cases h⟩
  | case3 intake hpos hshort hensure | case4 intake hpos hshort error hensure =>
      rw [readLineCrlfHeld, hpos]
      dsimp only
      rw [if_neg hshort, hensure, List.append_nil]
      exact ⟨ensureBufferedHeld_le _ hnow (by omega), fun _ _ h => by cases h⟩
  | case5 intake hpos hshort u intake₁ hensure ih =>
      have hheld := ensureBufferedHeld_le (intake.buffered.length + 1) hnow (by omega)
      obtain ⟨hlater, hdone⟩ := ih (hheld _ (mem_ensureBufferedHeld body hensure))
      rw [readLineCrlfHeld, hpos]
      dsimp only
      rw [if_neg hshort, hensure, List.forall_mem_append]
      exact ⟨⟨hheld, hlater⟩, hdone⟩

theorem readTrailersHeld_le (hnow : body.length + intake.buffered.length ≤ bound)
    (hroom : body.length + (maxResponseHeaders + readBufferSize) ≤ bound) :
    ∀ held ∈ readTrailersHeld body intake, held.length ≤ bound := by
  fun_induction readTrailers intake with
  | case1 intake hline | case2 intake error hline =>
      rw [readTrailersHeld, hline, List.append_nil]
      exact (readLineCrlfHeld_le hnow hroom).1
  | case3 intake line intake₁ hline hempty =>
      rw [readTrailersHeld, hline]
      dsimp only
      rw [if_pos hempty, List.append_nil]
      exact (readLineCrlfHeld_le hnow hroom).1
  | case4 intake line intake₁ hline hmore ih =>
      obtain ⟨hheld, hleft⟩ := readLineCrlfHeld_le hnow hroom
      rw [readTrailersHeld, hline]
      dsimp only
      rw [if_neg hmore, List.forall_mem_append]
      exact ⟨hheld, ih (hleft line intake₁ hline)⟩

/-- **Chunks** are decoded only as far as the limit, and buffered one read ahead. -/
theorem readChunksHeld_le (hmax : body.length ≤ maxBodyBytes)
    (hnow : body.length + intake.buffered.length ≤ bound)
    (hroom : maxBodyBytes + (maxResponseHeaders + readBufferSize) ≤ bound) :
    ∀ held ∈ readChunksHeld maxBodyBytes body intake, held.length ≤ bound := by
  induction hn : intake.bytes.length using Nat.strongRecOn generalizing body intake with
  | ind n ih =>
      obtain ⟨hheld, hleft⟩ := readLineCrlfHeld_le hnow (by omega)
      have hlimits : 2 ≤ maxResponseHeaders := by decide
      rw [readChunksHeld, List.forall_mem_append]
      refine ⟨hheld, ?_⟩
      split
      · rename_i line intake₁ hline
        have hnow₁ := hleft line intake₁ hline
        have hbytes := congrArg List.length (readLineCrlf_done hline).1
        simp only [List.length_append, crlf, List.length_cons, List.length_nil] at hbytes
        split
        · exact List.forall_mem_nil _
        · rename_i size hsize
          split
          · exact readTrailersHeld_le hnow₁ (by omega)
          · split
            · exact List.forall_mem_nil _
            · rename_i hfits
              have hdataHeld := ensureBufferedHeld_le size hnow₁ (by omega)
              rw [List.forall_mem_append]
              refine ⟨hdataHeld, ?_⟩
              split
              · rename_i u intake₂ hdata
                have hnow₂ := hdataHeld _ (mem_ensureBufferedHeld body hdata)
                obtain ⟨hbytes₂, -, hlen₂, -⟩ := ensureBuffered_done hdata
                have hbody : (body ++ (intake₂.take size).1).length = body.length + size := by
                  rw [List.length_append, Intake.take, List.length_take]
                  omega
                have hnow₃ : (body ++ (intake₂.take size).1).length +
                    (intake₂.take size).2.buffered.length ≤ bound := by
                  rw [hbody, Intake.take, List.length_drop]
                  rw [Held.length] at hnow₂
                  dsimp only at hnow₂ ⊢
                  omega
                have hendHeld := ensureBufferedHeld_le 2 hnow₃ (by omega)
                rw [List.forall_mem_append]
                refine ⟨hendHeld, ?_⟩
                split
                · rename_i v intake₃ hend
                  have hnow₄ := hendHeld _ (mem_ensureBufferedHeld _ hend)
                  have hafter : (body ++ (intake₂.take size).1).length +
                      (intake₃.take 2).2.buffered.length ≤ bound := by
                    have hdrop : (intake₃.take 2).2.buffered.length =
                        intake₃.buffered.length - 2 := List.length_drop
                    rw [Held.length] at hnow₄
                    dsimp only at hnow₄
                    omega
                  rw [List.forall_mem_cons]
                  refine ⟨hafter, ?_⟩
                  split
                  · exact List.forall_mem_nil _
                  · refine ih _ ?_ (by omega) hafter rfl
                    have hbytes₃ := congrArg List.length (ensureBuffered_done hend).1
                    have hbytes₄ := congrArg List.length hbytes₂
                    simp only [Intake.take, Intake.bytes, List.length_append, List.length_drop]
                      at hbytes hbytes₃ hbytes₄ hn ⊢
                    omega
                · exact List.forall_mem_nil _
              · exact List.forall_mem_nil _
      · exact List.forall_mem_nil _

theorem readToEndHeld_le (hnow : body.length + intake.buffered.length ≤ bound)
    (hmax : body.length ≤ maxBodyBytes) (hroom : maxBodyBytes + intake.buffered.length ≤ bound) :
    ∀ held ∈ readToEndHeld maxBodyBytes body intake, held.length ≤ bound := by
  fun_induction readToEnd maxBodyBytes body intake with
  | case1 body intake hread | case2 body intake hread | case3 body intake hread =>
      rw [readToEndHeld, hread, List.forall_mem_singleton]
      exact hnow
  | case4 body intake piece stream hread hover =>
      rw [readToEndHeld, hread]
      dsimp only
      rw [if_pos hover, List.forall_mem_singleton]
      exact hnow
  | case5 body intake piece stream hread hfits ih =>
      rw [readToEndHeld, hread]
      dsimp only
      rw [if_neg hfits, List.forall_mem_cons]
      refine ⟨hnow, ih ?_ ?_ hroom⟩
      · rw [List.length_append]
        dsimp only
        omega
      · rw [List.length_append]
        omega

/-- **What is held for a response.**  The decoded body and the undecoded buffer
are within the limit, a header section and a read. -/
theorem held_le (method : Method) (maxBodyBytes : ℕ) (stream : ByteStream UInt8) :
    ∀ held ∈ readHttpResponseHeld method maxBodyBytes stream,
      held.length ≤ maxBodyBytes + (maxResponseHeaders + readBufferSize) := by
  have hheads := @readHeadsHeld_le ⟨[], stream⟩ (maxResponseHeaders + readBufferSize)
    maxInformationalResponses (Nat.zero_le _) (Nat.le_refl _)
  rw [readHttpResponseHeld, List.forall_mem_append, Outcome.forall_mem_heldAfter]
  refine ⟨fun held hheld => Nat.le_trans (hheads.1 held hheld) (Nat.le_add_left _ _), ?_⟩
  intro head intake hdone
  have hnow := hheads.2 head intake hdone
  obtain ⟨statusCode, headers⟩ := head
  dsimp only [readBodyHeld]
  split
  · nofun
  · split
    · split
      · nofun
      · exact readFixedBodyHeld_le (by omega) (by omega)
      · rw [readCloseDelimitedBodyHeld]
        split
        · rw [List.forall_mem_singleton, Held.length, List.length_nil]
          dsimp only
          omega
        · refine readToEndHeld_le ?_ (by omega) ?_
          · rw [List.length_nil]
            omega
          · rw [List.length_nil]
            omega
    · split
      · refine readChunksHeld_le (Nat.zero_le _) ?_ (Nat.le_refl _)
        rw [List.length_nil]
        omega
      · nofun
    · nofun

end Rgrok
