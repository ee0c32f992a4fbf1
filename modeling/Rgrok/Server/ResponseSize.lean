/-
# Rejected for its size

A body is returned only within the limit (`length_body_le`), and a well-formed
one is rejected for its size just when it is longer.  Well-formed bodies are
those of `ResponseWire` with chunk-size and trailer lines of any length; a line
of more than 65,535 bytes may be rejected before the size is known, and so is a
length that is no `usize` (`WellFormedResponse.cases`).
-/

import Rgrok.Server.ResponseLimits

namespace Rgrok

/-- A body that is too long. -/
def sizeError : ResponseError :=
  .bail "response body exceeds configured limit"

/-- A chunk-size or trailer line that is too long. -/
def lineError : ResponseError :=
  .bail "response chunk line too large"

variable {intake intake' : Intake UInt8} {body rest : List UInt8} {maxBodyBytes : ℕ}

/-! ### A body that is returned -/

theorem readChunks_length {body' : List UInt8} (hle : body.length ≤ maxBodyBytes)
    (h : readChunks maxBodyBytes body intake = .done body' intake') :
    body'.length ≤ maxBodyBytes := by
  induction hn : intake.bytes.length using Nat.strongRecOn generalizing body intake with
  | ind n ih =>
      rw [readChunks_eq] at h
      obtain ⟨line, intake₁, hline, h⟩ := Outcome.bind_eq_done.1 h
      have hlen := congrArg List.length (readLineCrlf_done hline).1
      simp only [List.length_append, crlf, List.length_cons] at hlen
      cases hsize : parseChunkSize line with
      | error error =>
          rw [hsize] at h
          cases h
      | ok size =>
          rw [hsize, Outcome.ofExcept, Outcome.done_bind] at h
          split at h
          · obtain ⟨u, intake₃, -, h⟩ := Outcome.bind_eq_done.1 h
            obtain ⟨rfl, -⟩ := Outcome.done.inj h
            exact hle
          · split at h
            · cases h
            · obtain ⟨u, intake₃, hdata, h⟩ := Outcome.bind_eq_done.1 h
              obtain ⟨v, intake₄, hend, h⟩ := Outcome.bind_eq_done.1 h
              obtain ⟨hfront, hback⟩ := take_of_ensureBuffered hdata
              split at h
              · cases h
              · refine ih _ ?_ ?_ h rfl
                · rw [(take_of_ensureBuffered hend).2, hback, List.length_drop, List.length_drop]
                  omega
                · rw [hfront, List.length_append, List.length_take]
                  omega

theorem readToEnd_length {body' : List UInt8} (hle : body.length ≤ maxBodyBytes)
    (h : readToEnd maxBodyBytes body intake = .done body' intake') :
    body'.length ≤ maxBodyBytes := by
  fun_induction readToEnd maxBodyBytes body intake with
  | case1 => cases h
  | case2 body intake hread =>
      obtain ⟨rfl, -⟩ := Outcome.done.inj h
      exact hle
  | case3 => cases h
  | case4 => cases h
  | case5 body intake piece stream hread hfits ih =>
      refine ih ?_ h
      rw [List.length_append]
      omega

theorem readBody_length {method : Method} {statusCode : ℕ} {headers : List (String × String)}
    (h : readBody method maxBodyBytes statusCode headers intake = .done body intake') :
    body.length ≤ maxBodyBytes := by
  rw [readBody] at h
  split at h
  · obtain ⟨rfl, -⟩ := Outcome.done.inj h
    exact Nat.zero_le _
  · split at h
    · obtain ⟨length, intake₁, -, h⟩ := Outcome.bind_eq_done.1 h
      cases length with
      | some contentLength =>
          dsimp only at h
          have hfits : contentLength ≤ maxBodyBytes := by
            rw [readFixedBody] at h
            split at h
            · cases h
            · omega
          rw [readFixedBody_done h, List.length_take]
          omega
      | none =>
          dsimp only at h
          rw [readCloseDelimitedBody] at h
          split at h
          · cases h
          · exact readToEnd_length (by omega) h
    · split at h
      · exact readChunks_length (Nat.zero_le _) h
      · cases h
    · cases h

/-- **A body that is returned is within the limit.** -/
theorem length_body_le {method : Method} {stream : ByteStream UInt8} {parsed : ParsedHttpResponse}
    (h : readHttpResponse method maxBodyBytes stream = .done parsed intake') :
    parsed.body.length ≤ maxBodyBytes := by
  obtain ⟨head, intake₁, -, h⟩ := Outcome.bind_eq_done.1 h
  obtain ⟨body, intake₂, hbody, h⟩ := Outcome.bind_eq_done.1 h
  obtain ⟨rfl, -⟩ := Outcome.done.inj h
  exact readBody_length hbody

/-! ### Well-formed bodies -/

/-- A chunk-size line, of any length. -/
def SpellsSize (line : List UInt8) (size : ℕ) : Prop :=
  ¬ crlf <:+: line ∧ ∃ digits blanks extensions, Text.Spells 16 digits size ∧
    blanks.all isBlank = true ∧ (extensions = [] ∨ ∃ tail, extensions = 59 :: tail) ∧
    line = Text.utf8 (String.ofList (digits ++ blanks)) ++ extensions

/-- A body and its chunked coding, with the lines of the coding. -/
inductive ChunkedLines : List (List UInt8) → List UInt8 → List UInt8 → Prop
  | last {line : List UInt8} {trailers : List (List UInt8)} (hline : SpellsSize line 0)
      (htrailers : ∀ trailer ∈ trailers, trailer ≠ [] ∧ ¬ crlf <:+: trailer) :
      ChunkedLines (line :: trailers) []
        (line ++ crlf ++ ((trailers.flatMap fun trailer => trailer ++ crlf) ++ crlf))
  | chunk {lines : List (List UInt8)} {line data body wire : List UInt8}
      (hline : SpellsSize line data.length) (hdata : data ≠ [])
      (hbody : ChunkedLines lines body wire) :
      ChunkedLines (line :: lines) (data ++ body) (line ++ crlf ++ (data ++ (crlf ++ wire)))

/-- What follows the final head, the body it stands for, and the chunk-size and
trailer lines in it. -/
inductive WellFormed (method : Method) (head : ResponseHead) :
    Framing → List (List UInt8) → List UInt8 → List UInt8 → Prop
  | empty (hempty : responseHasNoBody method head.statusCode = true) :
      WellFormed method head .empty [] [] []
  | contentLength {body : List UInt8}
      (hbody : responseHasNoBody method head.statusCode = false)
      (hcodings : headerValues head.headers "transfer-encoding" = [])
      (hlength : headerValues head.headers "content-length" ≠ [] ∧
        ∀ value ∈ headerValues head.headers "content-length",
          Text.Spells 10 value.toList body.length) :
      WellFormed method head .contentLength [] body body
  | chunked {lines : List (List UInt8)} {body wire : List UInt8} {value : String}
      (hbody : responseHasNoBody method head.statusCode = false)
      (hcodings : headerValues head.headers "transfer-encoding" = [value])
      (hvalue : Text.eqIgnoreAsciiCase value "chunked" = true)
      (hchunked : ChunkedLines lines body wire) :
      WellFormed method head .chunked lines body wire
  | close {body : List UInt8}
      (hbody : responseHasNoBody method head.statusCode = false)
      (hcodings : headerValues head.headers "transfer-encoding" = [])
      (hlength : headerValues head.headers "content-length" = []) :
      WellFormed method head .close [] body body

/-- A response as it is sent to a request with this method. -/
structure WellFormedResponse (method : Method) where
  informational : List ResponseHead
  head : ResponseHead
  framing : Framing
  lines : List (List UInt8)
  body : List UInt8
  wire : List UInt8
  informational_of : ∀ head ∈ informational, head.IsInformational
  count : informational.length ≤ 16
  final : ¬ head.IsInformational
  sections : ∀ head' ∈ informational ++ [head], head'.bytes.length ≤ 65536
  framed : WellFormed method head framing lines body wire

/-- The stream begins with the response; when the end of the stream is the end of
the body, that is all there is. -/
def WellFormedResponse.SentOn {method : Method} (response : WellFormedResponse method)
    (stream : ByteStream UInt8) : Prop :=
  ∃ rest, stream.bytes = response.informational.flatMap ResponseHead.bytes ++
      (response.head.bytes ++ (response.wire ++ rest)) ∧
    (response.framing = .close → rest = [] ∧ stream.ending = .eof)

/-! ### What becomes of them -/

/-- What may become of a body: it is returned, rejected for its size, or for a
number or a line in it. -/
def Outcome.Judges (outcome : Outcome (List UInt8)) (maxBodyBytes : ℕ)
    (lines : List (List UInt8)) (body result : List UInt8) : Prop :=
  (result.length ≤ maxBodyBytes ∧ ∃ intake, outcome = .done result intake) ∨
    (maxBodyBytes < result.length ∧ outcome = .failed sizeError) ∨
    (maxBodyBytes < result.length ∧ usizeBound ≤ body.length ∧ outcome = .failed .parseInt) ∨
    ((∃ line ∈ lines, 65535 < line.length) ∧ outcome = .failed lineError)

/-- A line is read, or rejected for its length. -/
theorem readLineCrlf_cases {line : List UInt8} (hline : ¬ crlf <:+: line)
    (h : intake.bytes = line ++ crlf ++ rest) :
    (readLineCrlf intake).Leaves line rest intake.stream.ending ∨
      (65535 < line.length ∧ readLineCrlf intake = .failed lineError) := by
  rcases Nat.lt_or_ge line.length maxResponseHeaders with hlt | hge
  · exact Or.inl (readLineCrlf_of_isLine (isLine_of_noCrlf hline) hlt h)
  · have hpos : position crlf intake.bytes = some line.length := by
      rw [h, position_append (isLine_of_noCrlf hline)]
    have hresult : (∃ line' intake', readLineCrlf intake = .done line' intake') ∨
        readLineCrlf intake = .failed lineError := by
      clear h
      fun_induction readLineCrlf intake with
      | case1 => exact Or.inl ⟨_, _, rfl⟩
      | case2 => exact Or.inr rfl
      | case3 intake hnone hshort hensure | case4 intake hnone hshort error hensure =>
          have hlonger : intake.buffered.length + 1 ≤ intake.bytes.length := by
            have hbegins : intake.buffered <+: intake.bytes := List.prefix_append _ _
            obtain ⟨hin, -⟩ | ⟨-, hlen⟩ := position_of_prefix hpos hbegins
            · rw [hnone] at hin
              cases hin
            · obtain ⟨before, after, hbytes, hbefore⟩ := position_spec hpos
              rw [hbytes, List.length_append, List.length_append, hbefore]
              omega
          obtain ⟨intake', hdone⟩ := ensureBuffered_of_le hlonger
          rw [hdone] at hensure
          cases hensure
      | case5 intake hnone hshort u intake₁ hensure ih =>
          exact ih ((ensureBuffered_done hensure).1 ▸ hpos)
    rcases hresult with ⟨line', intake', hdone⟩ | hfailed
    · have hsame : line'.length = line.length := by
        have hfirst := position_of_readLineCrlf hdone
        rw [hpos, Option.some_inj] at hfirst
        exact hfirst.symm
      obtain ⟨hbytes, hending⟩ := readLineCrlf_done hdone
      rw [h, List.append_assoc, List.append_assoc] at hbytes
      obtain ⟨rfl, hrest⟩ := List.append_inj hbytes hsame.symm
      exact Or.inl ⟨intake', hdone, (List.append_cancel_left hrest).symm, hending⟩
    · exact Or.inr ⟨hge, hfailed⟩

theorem readTrailers_cases {trailers : List (List UInt8)}
    (htrailers : ∀ trailer ∈ trailers, trailer ≠ [] ∧ ¬ crlf <:+: trailer)
    (h : intake.bytes = (trailers.flatMap fun trailer => trailer ++ crlf) ++ crlf ++ rest) :
    (∃ intake', readTrailers intake = .done () intake') ∨
      ((∃ line ∈ trailers, 65535 < line.length) ∧ readTrailers intake = .failed lineError) := by
  induction trailers generalizing intake with
  | nil =>
      obtain ⟨intake', hline, -⟩ := readLineCrlf_of_isLine isLine_nil (by decide) h
      rw [readTrailers_eq, hline]
      exact Or.inl ⟨intake', rfl⟩
  | cons trailer trailers ih =>
      obtain ⟨⟨hne, hline⟩, hothers⟩ := List.forall_mem_cons.1 htrailers
      have hbytes : intake.bytes = trailer ++ crlf ++
          ((trailers.flatMap fun trailer => trailer ++ crlf) ++ crlf ++ rest) := by
        rw [h, List.flatMap_cons]
        simp only [List.append_assoc]
      rw [readTrailers_eq]
      rcases readLineCrlf_cases hline hbytes with hleaves | ⟨hlong, hfailed⟩
      · obtain ⟨intake', hbind, hrest, -⟩ := hleaves.bind
        rw [hbind, if_neg (by rw [List.isEmpty_iff]; exact hne)]
        rcases ih hothers hrest with hdone | ⟨⟨line, hmem, hlong⟩, hfailed⟩
        · exact Or.inl hdone
        · exact Or.inr ⟨⟨line, List.mem_cons_of_mem _ hmem, hlong⟩, hfailed⟩
      · rw [hfailed]
        exact Or.inr ⟨⟨trailer, List.mem_cons_self, hlong⟩, rfl⟩

/-- **What becomes of chunks.** -/
theorem readChunks_cases {lines : List (List UInt8)} {wire acc : List UInt8}
    (hchunked : ChunkedLines lines body wire) (husize : maxBodyBytes < usizeBound)
    (hacc : acc.length ≤ maxBodyBytes) (h : intake.bytes = wire ++ rest) :
    (readChunks maxBodyBytes acc intake).Judges maxBodyBytes lines body (acc ++ body) := by
  induction hchunked generalizing acc intake with
  | @last line trailers hline htrailers =>
      obtain ⟨hplain, digits, blanks, extensions, hspelled, hblanks, hextensions, hspells⟩ := hline
      have hsize : parseChunkSize line = .ok 0 := by
        rw [hspells, parseChunkSize_spells hspelled hblanks hextensions, if_pos (by decide)]
      rw [List.append_assoc] at h
      rw [readChunks_eq, List.append_nil]
      rcases readLineCrlf_cases hplain h with hleaves | ⟨hlong, hfailed⟩
      · obtain ⟨intake₁, hbind, hbytes₁, -⟩ := hleaves.bind
        rw [hbind, hsize, Outcome.ofExcept, Outcome.done_bind, if_pos rfl]
        rcases readTrailers_cases htrailers hbytes₁ with ⟨intake₂, hdone⟩ | ⟨hlong, hfailed⟩
        · rw [hdone]
          exact Or.inl ⟨hacc, intake₂, rfl⟩
        · obtain ⟨trailer, hmem, hlong⟩ := hlong
          rw [hfailed]
          exact Or.inr (Or.inr (Or.inr ⟨⟨trailer, List.mem_cons_of_mem _ hmem, hlong⟩, rfl⟩))
      · rw [hfailed]
        exact Or.inr (Or.inr (Or.inr ⟨⟨line, List.mem_cons_self, hlong⟩, rfl⟩))
  | @chunk lines line data body wire hline hdata hbody ih =>
      obtain ⟨hplain, digits, blanks, extensions, hspelled, hblanks, hextensions, hspells⟩ := hline
      have hpos := List.length_pos_iff.2 hdata
      have h₀ : intake.bytes = line ++ crlf ++ (data ++ (crlf ++ (wire ++ rest))) := by
        rw [h]
        simp only [List.append_assoc]
      rw [readChunks_eq]
      rcases readLineCrlf_cases hplain h₀ with hleaves | ⟨hlong, hfailed⟩
      · obtain ⟨intake₁, hbind, hbytes₁, -⟩ := hleaves.bind
        rw [hbind, hspells, parseChunkSize_spells hspelled hblanks hextensions]
        split
        · rename_i hnumber
          rw [Outcome.ofExcept, Outcome.done_bind, if_neg (by omega)]
          split
          · refine Or.inr (Or.inl ⟨?_, rfl⟩)
            rw [List.length_append, List.length_append]
            omega
          · rename_i hfits
            obtain ⟨intake₂, hensure, hfront, hback, -⟩ := ensureBuffered_of_bytes hbytes₁
            obtain ⟨intake₃, hend, hcrlf, htail, -⟩ := ensureBuffered_of_bytes hback
            rw [show crlf.length = 2 from rfl] at hend hcrlf htail
            rw [hensure, Outcome.done_bind, hend, Outcome.done_bind, hcrlf, hfront,
              if_neg (by simp), ← List.append_assoc]
            have hacc' : (acc ++ data).length ≤ maxBodyBytes := by
              rw [List.length_append]
              omega
            rcases ih hacc' htail with hdone | hsized | ⟨hsized, hlarge, hfailed⟩ |
              ⟨⟨line', hmem, hlong⟩, hfailed⟩
            · exact Or.inl hdone
            · exact Or.inr (Or.inl hsized)
            · refine Or.inr (Or.inr (Or.inl ⟨hsized, ?_, hfailed⟩))
              rw [List.length_append]
              omega
            · exact Or.inr (Or.inr (Or.inr ⟨⟨line', List.mem_cons_of_mem _ hmem, hlong⟩, hfailed⟩))
        · rename_i hnumber
          refine Or.inr (Or.inr (Or.inl ⟨?_, ?_, rfl⟩))
          · rw [List.length_append, List.length_append]
            omega
          · rw [List.length_append]
            omega
      · rw [hfailed]
        exact Or.inr (Or.inr (Or.inr ⟨⟨line, List.mem_cons_self, hlong⟩, rfl⟩))

/-- **What becomes of a body.** -/
theorem readBody_cases {method : Method} {head : ResponseHead} {framing : Framing}
    {lines : List (List UInt8)} {wire : List UInt8}
    (hframed : WellFormed method head framing lines body wire)
    (husize : maxBodyBytes < usizeBound) (h : intake.bytes = wire ++ rest)
    (hclose : framing = .close → rest = [] ∧ intake.stream.ending = .eof) :
    (readBody method maxBodyBytes head.statusCode head.headers intake).Judges maxBodyBytes lines
      body body := by
  cases hframed with
  | empty hempty =>
      rw [readBody, hempty]
      exact Or.inl ⟨Nat.zero_le _, intake, rfl⟩
  | contentLength hbody hcodings hlength =>
      rw [readBody, hbody, transferCodings_of_nil hcodings]
      rcases Nat.lt_or_ge body.length usizeBound with hlt | hge
      · rw [parseContentLength_of_spells hlength.1 hlength.2 hlt]
        rcases Nat.lt_or_ge maxBodyBytes body.length with hlong | hfits
        · refine Or.inr (Or.inl ⟨hlong, ?_⟩)
          show readFixedBody body.length maxBodyBytes intake = _
          rw [readFixedBody, if_pos hlong]
          rfl
        · obtain ⟨intake', hdone, -⟩ := readFixedBody_of_bytes h hfits
          exact Or.inl ⟨hfits, intake', hdone⟩
      · rw [parseContentLength_of_large hlength.1 hlength.2 hge]
        exact Or.inr (Or.inr (Or.inl ⟨by omega, hge, rfl⟩))
  | @chunked lines body wire value hbody hcodings hvalue hchunked =>
      rw [readBody, hbody, transferCodings_of_chunked hcodings hvalue]
      simp only [Bool.false_eq_true, if_false, String.ofList_toList, hvalue, if_true,
        readChunkedBody]
      have hcases := @readChunks_cases intake body rest maxBodyBytes lines wire [] hchunked husize
        (Nat.zero_le _) h
      rwa [List.nil_append] at hcases
  | close hbody hcodings hlength =>
      obtain ⟨rfl, hending⟩ := hclose rfl
      rw [List.append_nil] at h
      rw [readBody, hbody, transferCodings_of_nil hcodings, parseContentLength_of_nil hlength, ← h]
      rcases Nat.lt_or_ge maxBodyBytes intake.bytes.length with hlong | hfits
      · exact Or.inr (Or.inl ⟨hlong, readCloseDelimitedBody_long hlong⟩)
      · obtain ⟨intake', hdone⟩ := readCloseDelimitedBody_of_eof hfits hending
        exact Or.inl ⟨hfits, intake', hdone⟩

/-- **What becomes of a well-formed response.**  Behind its heads the body is
judged. -/
theorem WellFormedResponse.cases {method : Method} (response : WellFormedResponse method)
    (husize : maxBodyBytes < usizeBound) {stream : ByteStream UInt8} (h : response.SentOn stream) :
    ∃ intake : Intake UInt8,
      readHttpResponse method maxBodyBytes stream =
          (readBody method maxBodyBytes response.head.statusCode response.head.headers intake).bind
            (fun body intake =>
              .done ⟨response.head.statusCode, response.head.headers, body⟩ intake) ∧
        (readBody method maxBodyBytes response.head.statusCode response.head.headers
          intake).Judges maxBodyBytes response.lines response.body response.body := by
  obtain ⟨rest, hbytes, hclose⟩ := h
  have hheads := @readHeads_of_bytes response.head ⟨[], stream⟩ _ response.informational
    maxInformationalResponses response.informational_of response.count response.final
    response.sections hbytes
  obtain ⟨intake, hbind, hleft, hending⟩ := hheads.bind
  refine ⟨intake, ?_, readBody_cases response.framed husize hleft fun he => ?_⟩
  · rw [readHttpResponse, hbind]
  · rw [hending]
    exact hclose he

/-- **Response limits hold against any peer.**  Whatever is sent and however it is
cut: a body that is returned has at most `maxBodyBytes` bytes, and body and
buffer together never hold more than 128 KiB beyond it.  A well-formed body is
rejected for its size only if it is longer, and then it is rejected; when its
chunk-size and trailer lines are within 65,535 bytes it is rejected just then,
and for its size if that is a `usize`. -/
theorem response_limits (method : Method) (husize : maxBodyBytes < usizeBound) :
    (∀ stream parsed intake, readHttpResponse method maxBodyBytes stream = .done parsed intake →
      parsed.body.length ≤ maxBodyBytes) ∧
    (∀ stream, ∀ held ∈ readHttpResponseHeld method maxBodyBytes stream,
      held.body.length + held.buffered.length ≤ maxBodyBytes + 128 * 1024) ∧
    ∀ (response : WellFormedResponse method) (stream : ByteStream UInt8), response.SentOn stream →
      (readHttpResponse method maxBodyBytes stream = .failed sizeError →
        maxBodyBytes < response.body.length) ∧
      (maxBodyBytes < response.body.length →
        (readHttpResponse method maxBodyBytes stream).Rejects) ∧
      ((∀ line ∈ response.lines, line.length ≤ 65535) →
        ((readHttpResponse method maxBodyBytes stream).Rejects ↔
          maxBodyBytes < response.body.length) ∧
        (response.body.length < usizeBound →
          (readHttpResponse method maxBodyBytes stream = .failed sizeError ↔
            maxBodyBytes < response.body.length))) := by
  refine ⟨fun _ _ _ h => length_body_le h, fun stream held hheld => ?_, ?_⟩
  · have hle := held_le method maxBodyBytes stream held hheld
    have hlimits : maxResponseHeaders + readBufferSize ≤ 128 * 1024 := by decide
    rw [Held.length] at hle
    omega
  · intro response stream hsent
    obtain ⟨intake, hread, hjudged⟩ := response.cases husize hsent
    rw [hread]
    rcases hjudged with ⟨hfits, intake', hdone⟩ | ⟨hlong, hfailed⟩ | ⟨hlong, hlarge, hfailed⟩ |
      ⟨⟨line, hmem, hline⟩, hfailed⟩
    · rw [hdone, Outcome.done_bind]
      refine ⟨(by intro h; cases h), fun hlong => by omega, fun _ => ⟨⟨fun h => ?_, fun hlong => ?_⟩,
        fun _ => ⟨(by intro h; cases h), fun hlong => by omega⟩⟩⟩
      · obtain ⟨reason, hrejected⟩ := h
        cases hrejected
      · omega
    · rw [hfailed]
      refine ⟨fun _ => hlong, fun _ => ⟨_, rfl⟩, fun _ => ⟨⟨fun _ => hlong, fun _ => ⟨_, rfl⟩⟩, ?_⟩⟩
      exact fun _ => ⟨fun _ => hlong, fun _ => rfl⟩
    · rw [hfailed]
      refine ⟨(by intro h; cases h), fun _ => ⟨_, rfl⟩,
        fun _ => ⟨⟨fun _ => hlong, fun _ => ⟨_, rfl⟩⟩, ?_⟩⟩
      exact fun husize' => absurd hlarge (by omega)
    · rw [hfailed]
      refine ⟨fun h => ?_, fun _ => ⟨_, rfl⟩, fun hshort => ?_⟩
      · exact absurd (Outcome.failed.inj h) (by decide)
      · exact absurd (hshort line hmem) (by omega)

/-- The response of `chunkedWire`. -/
def chunkedResponse : WellFormedResponse .GET where
  informational := [continueHead]
  head := chunkedHead
  framing := .chunked
  lines := [Text.utf8 "2;a", Text.utf8 "0", Text.utf8 "x: y"]
  body := Text.utf8 "hi" ++ []
  wire := chunkedWire
  informational_of := List.forall_mem_singleton.2 (by decide)
  count := by decide
  final := by decide
  sections := by decide +kernel
  framed := by
    have hzero : SpellsSize (Text.utf8 "0") 0 := by
      refine ⟨by decide +kernel, ['0'], [], [], ⟨by decide, [0], by decide, rfl⟩, rfl, Or.inl rfl, ?_⟩
      decide +kernel
    have htwo : SpellsSize (Text.utf8 "2;a") (Text.utf8 "hi").length := by
      refine ⟨by decide +kernel, ['2'], [], Text.utf8 ";a", ⟨by decide, [2], by decide, ?_⟩, rfl,
        Or.inr ⟨[97], by decide +kernel⟩, ?_⟩
      · decide +kernel
      · decide +kernel
    have hcoding : headerValues chunkedHead.headers "transfer-encoding" = ["chunked"] := by
      decide +kernel
    refine .chunked rfl hcoding (by decide +kernel)
      (.chunk htwo (by decide +kernel) (.last hzero ?_))
    rw [List.forall_mem_singleton]
    exact ⟨by decide +kernel, by decide +kernel⟩

/-- Two bytes are too many for a limit of one. -/
theorem response_limits_chunked :
    readHttpResponse .GET 1
      ⟨[continueHead.bytes ++ chunkedHead.bytes, chunkedWire], .silent, by decide +kernel⟩ =
        .failed sizeError := by
  refine ((((response_limits .GET (show 1 < usizeBound by decide)).2.2 chunkedResponse
    ⟨[continueHead.bytes ++ chunkedHead.bytes, chunkedWire], .silent, by decide +kernel⟩
    ⟨[], ?_, nofun⟩).2.2 ?_).2 ?_).2 ?_
  · decide +kernel
  · decide +kernel
  · decide +kernel
  · decide +kernel

end Rgrok
