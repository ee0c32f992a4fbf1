/-
# Reading one HTTP response

`read_http_response` in `crates/rgrok-server/src/proxy.rs` and what it calls.

The functions share one buffer of bytes that were read from the stream and not
taken yet, the `Intake`.  A reader waits when the stream is silent, fails, or is
done with a value and the intake that is left.
-/

import Rgrok.Http.Headers
import Rgrok.Http.Lines

namespace Rgrok

def maxResponseHeaders : ℕ := 65536

def maxInformationalResponses : ℕ := 16

def readBufferSize : ℕ := 8192

/-- `usize::MAX + 1`. -/
def usizeBound : ℕ := 2 ^ 64

/-- Why a response is rejected: the function's own words, bytes that are not
UTF-8, a number that does not parse, or an error of the stream. -/
inductive ResponseError
  | bail (message : String)
  | utf8
  | parseInt
  | io
deriving DecidableEq

/-- What a reader comes to. -/
inductive Outcome (α : Type)
  | waiting
  | failed (error : ResponseError)
  | done (value : α) (intake : Intake UInt8)

namespace Outcome

variable {α β : Type}

/-- `?` and `.await`. -/
def bind (outcome : Outcome α) (next : α → Intake UInt8 → Outcome β) : Outcome β :=
  match outcome with
  | .waiting => .waiting
  | .failed error => .failed error
  | .done value intake => next value intake

def ofExcept (result : Except ResponseError α) (intake : Intake UInt8) : Outcome α :=
  match result with
  | .error error => .failed error
  | .ok value => .done value intake

/-- The function returned an error. -/
def isFailed : Outcome α → Bool
  | .failed _ => true
  | _ => false

end Outcome

/-- `ParsedHttpResponse`. -/
structure ParsedHttpResponse where
  statusCode : ℕ
  headers : List (String × String)
  body : List UInt8
deriving DecidableEq

/-! ### The buffer -/

/-- `ensure_buffered`. -/
def ensureBuffered (required : ℕ) (intake : Intake UInt8) : Outcome Unit :=
  if intake.buffered.length < required then
    match _hread : intake.stream.read readBufferSize with
    | .waiting => .waiting
    | .ended => .failed (.bail "response ended before body completed")
    | .broken => .failed .io
    | .read piece stream => ensureBuffered required (intake.extend piece stream)
  else
    .done () intake
termination_by intake.stream.bytes.length
decreasing_by exact ByteStream.length_read (m := readBufferSize) (by decide) _hread

/-- **What `ensure_buffered` does.**  It reads, once at least if it has to. -/
theorem ensureBuffered_done {required : ℕ} {intake intake' : Intake UInt8} {u : Unit}
    (h : ensureBuffered required intake = .done u intake') :
    intake'.bytes = intake.bytes ∧ intake'.stream.ending = intake.stream.ending ∧
      required ≤ intake'.buffered.length ∧
      intake'.stream.bytes.length ≤ intake.stream.bytes.length ∧
      (intake.buffered.length < required →
        intake'.stream.bytes.length < intake.stream.bytes.length) := by
  fun_induction ensureBuffered required intake with
  | case1 => cases h
  | case2 => cases h
  | case3 => cases h
  | case4 intake hlt piece stream hread ih =>
      obtain ⟨hbytes, hending, hlen, hle, -⟩ := ih h
      have hshorter := ByteStream.length_read (m := readBufferSize) (by decide) hread
      have hspec := ByteStream.read_spec (m := readBufferSize) (by decide) hread
      refine ⟨?_, hending.trans hspec.2.2.2, hlen, ?_, fun _ => ?_⟩
      · rw [hbytes, Intake.bytes_extend (m := readBufferSize) (by decide) hread]
      · exact Nat.le_trans hle (Nat.le_of_lt hshorter)
      · exact Nat.lt_of_le_of_lt hle hshorter
  | case5 intake hnlt =>
      obtain ⟨-, rfl⟩ := Outcome.done.inj h
      exact ⟨rfl, rfl, by omega, Nat.le_refl _, fun hlt => absurd hlt hnlt⟩

/-! ### The header section -/

/-- `read_header_section`: the length of the section in the buffer. -/
def readHeaderSection (intake : Intake UInt8) : Outcome ℕ :=
  match position crlfCrlf intake.buffered with
  | some position =>
      if maxResponseHeaders < position + 4 then .failed (.bail "response headers too large")
      else .done (position + 4) intake
  | none =>
      if maxResponseHeaders ≤ intake.buffered.length then
        .failed (.bail "response headers too large")
      else
        match _hread : intake.stream.read readBufferSize with
        | .waiting => .waiting
        | .ended => .failed (.bail "response ended before headers")
        | .broken => .failed .io
        | .read piece stream =>
            let intake := intake.extend piece stream
            if maxResponseHeaders < intake.buffered.length ∧
                position crlfCrlf intake.buffered = none then
              .failed (.bail "response headers too large")
            else
              readHeaderSection intake
termination_by intake.stream.bytes.length
decreasing_by exact ByteStream.length_read (m := readBufferSize) (by decide) _hread

/-- The lines behind the status line, up to the empty one. -/
def parseHeaderLines : List (List Char) → Except ResponseError (List (String × String))
  | [] => .ok []
  | line :: lines =>
      if line.isEmpty then .ok []
      else
        match Text.breakOn ':' line with
        | none => .error (.bail "invalid response header")
        | some (name, value) =>
            if (Text.trimChars name).isEmpty then .error (.bail "empty response header name")
            else
              (parseHeaderLines lines).map fun headers =>
                (String.ofList (Text.trimChars name), String.ofList (Text.trimChars value)) ::
                  headers

/-- The status code in a status line. -/
def parseStatusLine (statusLine : List Char) : Except ResponseError ℕ :=
  let statusParts := Text.splitWhitespace statusLine
  if (Text.dropPrefix "HTTP/".toList (statusParts.headD [])).isNone then
    .error (.bail "invalid HTTP status line")
  else
    match statusParts.tail.head? with
    | none => .error (.bail "missing response status")
    | some code =>
        match Text.parseUnsigned 10 65536 code with
        | none => .error .parseInt
        | some statusCode => .ok statusCode

/-- `parse_response_headers`. -/
def parseResponseHeaders (headerText : String) :
    Except ResponseError (ℕ × List (String × String)) :=
  match Text.splitCrlf headerText.toList with
  | [] => .error (.bail "missing status line")
  | statusLine :: lines =>
      match parseStatusLine statusLine with
      | .error error => .error error
      | .ok statusCode => (parseHeaderLines lines).map fun headers => (statusCode, headers)

/-- `header_values`. -/
def headerValues (headers : List (String × String)) (name : String) : List String :=
  (headers.filter fun header => Text.eqIgnoreAsciiCase header.1 name).map Prod.snd

theorem headerValues_append (fields fields' : List (String × String)) (name : String) :
    headerValues (fields ++ fields') name =
      headerValues fields name ++ headerValues fields' name := by
  rw [headerValues, List.filter_append, List.map_append]
  rfl

/-- The items between the commas of the values. -/
def listItems (values : List String) : List (List Char) :=
  values.flatMap fun value => (value.toList.splitOn ',').map Text.trimChars

/-- One item of `parse_content_length`'s loop. -/
def addContentLength (parsed : Option ℕ) (item : List Char) : Except ResponseError (Option ℕ) :=
  match Text.parseUnsigned 10 usizeBound item, parsed with
  | none, _ => .error .parseInt
  | some length, none => .ok (some length)
  | some length, some previous =>
      if previous ≠ length then .error (.bail "conflicting Content-Length values")
      else .ok (some previous)

/-- `parse_content_length`. -/
def parseContentLength (headers : List (String × String)) : Except ResponseError (Option ℕ) :=
  (listItems (headerValues headers "content-length")).foldlM addContentLength none

/-- `transfer_codings`. -/
def transferCodings (headers : List (String × String)) : List (List Char) :=
  (listItems (headerValues headers "transfer-encoding")).filter fun item => !item.isEmpty

/-- `response_has_no_body`. -/
def responseHasNoBody (method : Method) (statusCode : ℕ) : Bool :=
  method == .HEAD || (100 ≤ statusCode && statusCode < 200) || statusCode == 204 ||
    statusCode == 304

/-! ### The body -/

/-- The loop of `read_fixed_body`. -/
def readRemaining (contentLength : ℕ) (body : List UInt8) (intake : Intake UInt8) :
    Outcome (List UInt8) :=
  if _hlt : body.length < contentLength then
    match _hread : intake.stream.read (min (contentLength - body.length) readBufferSize) with
    | .waiting => .waiting
    | .ended => .failed (.bail "response ended before Content-Length bytes were read")
    | .broken => .failed .io
    | .read piece stream =>
        readRemaining contentLength (body ++ piece) { intake with stream := stream }
  else
    .done body intake
termination_by intake.stream.bytes.length
decreasing_by
  have hpos : 0 < readBufferSize := by decide
  exact ByteStream.length_read (by omega) _hread

/-- `read_fixed_body`. -/
def readFixedBody (contentLength maxBodyBytes : ℕ) (intake : Intake UInt8) :
    Outcome (List UInt8) :=
  if maxBodyBytes < contentLength then
    .failed (.bail "response body exceeds configured limit")
  else
    let (body, intake) := intake.take contentLength
    readRemaining contentLength body intake

/-- `read_line_crlf`. -/
def readLineCrlf (intake : Intake UInt8) : Outcome (List UInt8) :=
  match position crlf intake.buffered with
  | some position =>
      let (line, intake) := intake.take position
      .done line (intake.take 2).2
  | none =>
      if maxResponseHeaders < intake.buffered.length then
        .failed (.bail "response chunk line too large")
      else
        match _hensure : ensureBuffered (intake.buffered.length + 1) intake with
        | .waiting => .waiting
        | .failed error => .failed error
        | .done _ intake => readLineCrlf intake
termination_by intake.stream.bytes.length
decreasing_by exact (ensureBuffered_done _hensure).2.2.2.2 (by omega)

/-- **What `read_line_crlf` does.**  It takes a line and its end. -/
theorem readLineCrlf_done {intake intake' : Intake UInt8} {line : List UInt8}
    (h : readLineCrlf intake = .done line intake') :
    intake.bytes = line ++ crlf ++ intake'.bytes ∧
      intake'.stream.ending = intake.stream.ending := by
  fun_induction readLineCrlf intake with
  | case1 intake position hpos line' intake₁ htake =>
      obtain ⟨rfl, rfl⟩ := Outcome.done.inj h
      obtain ⟨before, after, hbuffered, rfl⟩ := position_spec hpos
      obtain ⟨rfl, rfl⟩ := Prod.mk.inj htake
      refine ⟨?_, rfl⟩
      simp only [Intake.bytes, Intake.take, hbuffered, crlf]
      simp [List.append_assoc]
  | case2 => cases h
  | case3 => cases h
  | case4 => cases h
  | case5 intake _ _ _ intake₁ hensure ih =>
      obtain ⟨hbytes, hending, -⟩ := ensureBuffered_done hensure
      rw [hbytes, hending] at ih
      exact ih h

/-- The trailer lines, up to the empty one. -/
def readTrailers (intake : Intake UInt8) : Outcome Unit :=
  match _hline : readLineCrlf intake with
  | .waiting => .waiting
  | .failed error => .failed error
  | .done line intake => if line.isEmpty then .done () intake else readTrailers intake
termination_by intake.bytes.length
decreasing_by
  have hbytes := congrArg List.length (readLineCrlf_done _hline).1
  simp only [List.length_append, crlf, List.length_cons] at hbytes
  omega

/-- The size in a chunk-size line. -/
def parseChunkSize (line : List UInt8) : Except ResponseError ℕ :=
  match Text.fromUtf8 ((line.splitOn 59).headD []) with
  | none => .error .utf8
  | some sizeText =>
      match Text.parseUnsigned 16 usizeBound (Text.trimChars sizeText.toList) with
      | none => .error .parseInt
      | some size => .ok size

/-- The loop of `read_chunked_body`. -/
def readChunks (maxBodyBytes : ℕ) (body : List UInt8) (intake : Intake UInt8) :
    Outcome (List UInt8) :=
  match _hline : readLineCrlf intake with
  | .waiting => .waiting
  | .failed error => .failed error
  | .done line intake =>
      match parseChunkSize line with
      | .error error => .failed error
      | .ok size =>
          if size = 0 then
            (readTrailers intake).bind fun _ intake => .done body intake
          else if maxBodyBytes - body.length < size then
            .failed (.bail "response body exceeds configured limit")
          else
            match _hdata : ensureBuffered size intake with
            | .waiting => .waiting
            | .failed error => .failed error
            | .done _ intake =>
                match _hend : ensureBuffered 2 (intake.take size).2 with
                | .waiting => .waiting
                | .failed error => .failed error
                | .done _ intake' =>
                    if (intake'.take 2).1 ≠ crlf then
                      .failed (.bail "missing CRLF after response chunk")
                    else
                      readChunks maxBodyBytes (body ++ (intake.take size).1) (intake'.take 2).2
termination_by intake.bytes.length
decreasing_by
  have hbytes := congrArg List.length (readLineCrlf_done _hline).1
  rw [← (ensureBuffered_done _hdata).1] at hbytes
  have hend := congrArg List.length (ensureBuffered_done _hend).1
  simp only [Intake.take, Intake.bytes, List.length_append, List.length_drop, crlf,
    List.length_cons] at hbytes hend ⊢
  omega

/-- `read_chunked_body`. -/
def readChunkedBody (maxBodyBytes : ℕ) (intake : Intake UInt8) : Outcome (List UInt8) :=
  readChunks maxBodyBytes [] intake

/-- The loop of `read_close_delimited_body`; a silent stream times out. -/
def readToEnd (maxBodyBytes : ℕ) (body : List UInt8) (intake : Intake UInt8) :
    Outcome (List UInt8) :=
  match _hread : intake.stream.read readBufferSize with
  | .waiting => .failed (.bail "close-delimited response timed out")
  | .ended => .done body intake
  | .broken => .failed .io
  | .read piece stream =>
      if maxBodyBytes - body.length < piece.length then
        .failed (.bail "response body exceeds configured limit")
      else
        readToEnd maxBodyBytes (body ++ piece) { intake with stream := stream }
termination_by intake.stream.bytes.length
decreasing_by exact ByteStream.length_read (m := readBufferSize) (by decide) _hread

/-- `read_close_delimited_body`. -/
def readCloseDelimitedBody (maxBodyBytes : ℕ) (intake : Intake UInt8) : Outcome (List UInt8) :=
  if maxBodyBytes < intake.buffered.length then
    .failed (.bail "response body exceeds configured limit")
  else
    readToEnd maxBodyBytes intake.buffered { intake with buffered := [] }

/-! ### The response -/

/-- One turn of the loop over the heads: the status and the headers. -/
def readOneHead (intake : Intake UInt8) : Outcome (ℕ × List (String × String)) :=
  (readHeaderSection intake).bind fun headerEnd intake =>
    match Text.fromUtf8 (intake.take headerEnd).1 with
    | none => .failed .utf8
    | some headerText => .ofExcept (parseResponseHeaders headerText) (intake.take headerEnd).2

/-- The loop over the heads, with room for `room` more informational responses. -/
def readHeads (room : ℕ) (intake : Intake UInt8) : Outcome (ℕ × List (String × String)) :=
  (readOneHead intake).bind fun (statusCode, headers) intake =>
    if 100 ≤ statusCode ∧ statusCode < 200 ∧ statusCode ≠ 101 then
      match room with
      | 0 => .failed (.bail "too many informational responses")
      | room + 1 => readHeads room intake
    else
      .done (statusCode, headers) intake

/-- The body behind the final head. -/
def readBody (method : Method) (maxBodyBytes statusCode : ℕ) (headers : List (String × String))
    (intake : Intake UInt8) : Outcome (List UInt8) :=
  if responseHasNoBody method statusCode then .done [] intake
  else
    match transferCodings headers with
    | [] =>
        (Outcome.ofExcept (parseContentLength headers) intake).bind fun
          | some contentLength => readFixedBody contentLength maxBodyBytes
          | none => readCloseDelimitedBody maxBodyBytes
    | [coding] =>
        if Text.eqIgnoreAsciiCase (String.ofList coding) "chunked" then
          readChunkedBody maxBodyBytes intake
        else
          .failed (.bail "unsupported Transfer-Encoding")
    | _ => .failed (.bail "unsupported Transfer-Encoding")

/-- `read_http_response`. -/
def readHttpResponse (method : Method) (maxBodyBytes : ℕ) (stream : ByteStream UInt8) :
    Outcome ParsedHttpResponse :=
  (readHeads maxInformationalResponses ⟨[], stream⟩).bind fun (statusCode, headers) intake =>
    (readBody method maxBodyBytes statusCode headers intake).bind fun body intake =>
      .done { statusCode, headers, body } intake

end Rgrok
