/-
# A response as a function of its bytes

What `read_http_response` makes of a stream that ends, read off the bytes alone:
`decodeResponse` knows no buffer and no reads.  The two agree
(`readHttpResponse_gives`) as long as no line of a chunked body is so long that
it depends on the reads whether it is found in the buffer; so where the reads
are cut makes no difference (`readHttpResponse_same`).
-/

import Rgrok.Server.ResponseUnique

namespace Rgrok

/-! ### Lines -/

/-- The first line, and what is behind its end. -/
def lineOf (bytes : List UInt8) : Option (List UInt8 × List UInt8) :=
  (position crlf bytes).map fun n => (bytes.take n, bytes.drop (n + 2))

theorem lineOf_eq_some {bytes line rest : List UInt8} (h : lineOf bytes = some (line, rest)) :
    bytes = line ++ crlf ++ rest ∧ IsLine line := by
  obtain ⟨n, hpos, heq⟩ := Option.map_eq_some_iff.1 h
  obtain ⟨rfl, rfl⟩ := Prod.mk.inj heq
  obtain ⟨before, after, rfl, rfl⟩ := position_spec hpos
  have hrest : (before ++ crlf ++ after).drop (before.length + 2) = after := by
    have hlen : before.length + 2 = (before ++ crlf).length := by
      rw [List.length_append]
      rfl
    rw [hlen]
    exact List.drop_left
  have hline : (before ++ crlf ++ after).take before.length = before := by
    rw [List.append_assoc]
    exact List.take_left
  rw [hrest, hline]
  refine ⟨rfl, ?_⟩
  obtain ⟨hin, -⟩ | ⟨-, hlen⟩ := position_of_prefix hpos (List.prefix_append (before ++ crlf) after)
  · exact hin
  · rw [List.length_append] at hlen
    omega

theorem length_of_lineOf {bytes line rest : List UInt8} (h : lineOf bytes = some (line, rest)) :
    rest.length < bytes.length := by
  have hlen := congrArg List.length (lineOf_eq_some h).1
  simp only [List.length_append, crlf, List.length_cons, List.length_nil] at hlen
  omega

/-! ### Heads -/

/-- The first head, and what is behind it. -/
def headOf (bytes : List UInt8) : Option ((ℕ × List (String × String)) × List UInt8) :=
  match position crlfCrlf bytes with
  | none => none
  | some n =>
      if maxResponseHeaders < n + 4 then none
      else
        match Text.fromUtf8 (bytes.take (n + 4)) with
        | none => none
        | some text =>
            match parseResponseHeaders text with
            | .error _ => none
            | .ok head => some (head, bytes.drop (n + 4))

/-- The final head, with room for `room` more informational responses. -/
def headsOf (room : ℕ) (bytes : List UInt8) :
    Option ((ℕ × List (String × String)) × List UInt8) :=
  (headOf bytes).bind fun ((statusCode, headers), rest) =>
    if 100 ≤ statusCode ∧ statusCode < 200 ∧ statusCode ≠ 101 then
      match room with
      | 0 => none
      | room + 1 => headsOf room rest
    else some ((statusCode, headers), rest)

/-! ### Bodies -/

/-- The lines of the trailers. -/
def trailerLines (bytes : List UInt8) : List (List UInt8) :=
  match _hline : lineOf bytes with
  | none => []
  | some (line, rest) => line :: if line.isEmpty then [] else trailerLines rest
termination_by bytes.length
decreasing_by exact length_of_lineOf _hline

/-- There is an empty line behind the trailers. -/
def trailersOf (bytes : List UInt8) : Option Unit :=
  match _hline : lineOf bytes with
  | none => none
  | some (line, rest) => if line.isEmpty then some () else trailersOf rest
termination_by bytes.length
decreasing_by exact length_of_lineOf _hline

/-- A chunk of `size` bytes and its end stand here. -/
def HasChunk (size : ℕ) (bytes : List UInt8) : Prop :=
  size ≤ bytes.length ∧ 2 ≤ (bytes.drop size).length ∧ (bytes.drop size).take 2 = crlf

instance (size : ℕ) (bytes : List UInt8) : Decidable (HasChunk size bytes) :=
  inferInstanceAs (Decidable (_ ∧ _ ∧ _))

/-- The chunk-size and trailer lines of a chunked body. -/
def chunkLines (bytes : List UInt8) : List (List UInt8) :=
  match _hline : lineOf bytes with
  | none => []
  | some (line, rest) =>
      line :: match parseChunkSize line with
        | .error _ => []
        | .ok size =>
            if size = 0 then trailerLines rest
            else if HasChunk size rest then chunkLines ((rest.drop size).drop 2)
            else []
termination_by bytes.length
decreasing_by
  have hlt := length_of_lineOf _hline
  simp only [List.length_drop]
  omega

/-- The chunks, joined. -/
def chunksOf (maxBodyBytes : ℕ) (body bytes : List UInt8) : Option (List UInt8) :=
  match _hline : lineOf bytes with
  | none => none
  | some (line, rest) =>
      match parseChunkSize line with
      | .error _ => none
      | .ok size =>
          if size = 0 then (trailersOf rest).map fun _ => body
          else if maxBodyBytes - body.length < size then none
          else if HasChunk size rest then
            chunksOf maxBodyBytes (body ++ rest.take size) ((rest.drop size).drop 2)
          else none
termination_by bytes.length
decreasing_by
  have hlt := length_of_lineOf _hline
  simp only [List.length_drop]
  omega

/-- A body of so many bytes. -/
def fixedOf (contentLength maxBodyBytes : ℕ) (bytes : List UInt8) : Option (List UInt8) :=
  if contentLength ≤ maxBodyBytes ∧ contentLength ≤ bytes.length then
    some (bytes.take contentLength)
  else none

/-- All that is left. -/
def closeOf (maxBodyBytes : ℕ) (bytes : List UInt8) : Option (List UInt8) :=
  if bytes.length ≤ maxBodyBytes then some bytes else none

/-- The one transfer coding is `chunked`. -/
def IsChunked (headers : List (String × String)) : Prop :=
  ∃ coding, transferCodings headers = [coding] ∧
    Text.eqIgnoreAsciiCase (String.ofList coding) "chunked" = true

/-- The body behind the final head. -/
def decodeBody (method : Method) (maxBodyBytes statusCode : ℕ) (headers : List (String × String))
    (bytes : List UInt8) : Option (List UInt8) :=
  if responseHasNoBody method statusCode then some []
  else
    match transferCodings headers with
    | [] =>
        match parseContentLength headers with
        | .error _ => none
        | .ok (some contentLength) => fixedOf contentLength maxBodyBytes bytes
        | .ok none => closeOf maxBodyBytes bytes
    | [coding] =>
        if Text.eqIgnoreAsciiCase (String.ofList coding) "chunked" then
          chunksOf maxBodyBytes [] bytes
        else none
    | _ => none

/-- The response the bytes stand for. -/
def decodeResponse (method : Method) (maxBodyBytes : ℕ) (bytes : List UInt8) :
    Option ParsedHttpResponse :=
  match headsOf maxInformationalResponses bytes with
  | none => none
  | some ((statusCode, headers), rest) =>
      (decodeBody method maxBodyBytes statusCode headers rest).map fun body =>
        { statusCode, headers, body }

/-- Every chunk-size and every trailer line has at most 65,535 bytes. -/
def ShortLines (method : Method) (bytes : List UInt8) : Prop :=
  ∀ statusCode headers rest,
    headsOf maxInformationalResponses bytes = some ((statusCode, headers), rest) →
      responseHasNoBody method statusCode = false → IsChunked headers →
        ∀ line ∈ chunkLines rest, line.length ≤ 65535

/-! ### Agreement -/

namespace Outcome

variable {α β : Type} {outcome : Outcome α} {ending : Ending}

/-- The reader is done with the value and leaves the rest, or returns an error
when there is none. -/
def Agrees (outcome : Outcome α) (ending : Ending) : Option (α × List UInt8) → Prop
  | some (value, rest) => outcome.Leaves value rest ending
  | none => outcome.Rejects

/-- The reader is done with the value, or returns an error when there is none. -/
def Gives (outcome : Outcome α) : Option α → Prop
  | some value => ∃ intake, outcome = .done value intake
  | none => outcome.Rejects

theorem Agrees.bind {found : Option (α × List UInt8)} {next : α → Intake UInt8 → Outcome β}
    {after : α × List UInt8 → Option (β × List UInt8)} (h : outcome.Agrees ending found)
    (hnext : ∀ value (intake : Intake UInt8), found = some (value, intake.bytes) →
      intake.stream.ending = ending →
        (next value intake).Agrees ending (after (value, intake.bytes))) :
    (outcome.bind next).Agrees ending (found.bind after) := by
  cases found with
  | none => exact Rejects.bind h
  | some head =>
      obtain ⟨value, rest⟩ := head
      obtain ⟨intake, hbind, rfl, hending⟩ := @Leaves.bind _ _ _ _ _ _ next h
      rw [hbind]
      exact hnext value intake rfl hending

end Outcome

variable {intake : Intake UInt8}

/-- A line is read, unless it is too long. -/
theorem readLineCrlf_agrees (hending : intake.stream.ending ≠ .silent)
    (hle : ∀ line rest, lineOf intake.bytes = some (line, rest) → line.length ≤ 65535) :
    (readLineCrlf intake).Agrees intake.stream.ending (lineOf intake.bytes) := by
  cases hline : lineOf intake.bytes with
  | none => exact readLineCrlf_short (Option.map_eq_none_iff.1 hline) hending
  | some found =>
      obtain ⟨line, rest⟩ := found
      obtain ⟨hbytes, hfirst⟩ := lineOf_eq_some hline
      exact readLineCrlf_of_isLine hfirst (Nat.lt_succ_of_le (hle line rest hline)) hbytes

/-! ### Heads -/

/-- A section that is too long is rejected, wherever its end comes. -/
theorem readHeaderSection_long {n : ℕ} (h : position crlfCrlf intake.bytes = some n)
    (hlong : maxResponseHeaders < n + 4) (hending : intake.stream.ending ≠ .silent) :
    (readHeaderSection intake).Rejects := by
  fun_induction readHeaderSection intake with
  | case1 => exact ⟨_, rfl⟩
  | case2 intake m hpos hfits =>
      have hsame : m = n := by
        rw [Intake.bytes, position_append hpos] at h
        exact Option.some.inj h
      omega
  | case3 => exact ⟨_, rfl⟩
  | case4 intake hpos hshort hread => exact absurd (ByteStream.ending_of_waiting hread) hending
  | case5 => exact ⟨_, rfl⟩
  | case6 => exact ⟨_, rfl⟩
  | case7 => exact ⟨_, rfl⟩
  | case8 intake hpos hshort piece stream hread intake₁ hfits ih =>
      have hspec := ByteStream.read_spec (m := readBufferSize) (by decide) hread
      refine ih ?_ fun hsilent => hending (hspec.2.2.2.symm.trans hsilent)
      rwa [Intake.bytes_extend (m := readBufferSize) (by decide) hread]

/-- **A head** is read as the bytes say. -/
theorem readOneHead_agrees (hending : intake.stream.ending ≠ .silent) :
    (readOneHead intake).Agrees intake.stream.ending (headOf intake.bytes) := by
  rw [headOf]
  split
  · rename_i hpos
    exact (readHeaderSection_short hpos hending).bind
  · rename_i n hpos
    split
    · rename_i hlong
      exact (readHeaderSection_long hpos hlong hending).bind
    · rename_i hle
      obtain ⟨intake', hsection, hbytes, hsame, hlen⟩ :=
        readHeaderSection_of_position hpos (Nat.le_of_not_lt hle)
      have hsplit : intake'.bytes = intake.bytes.take (n + 4) ++ intake.bytes.drop (n + 4) := by
        rw [hbytes, List.take_append_drop]
      have hlen' : (intake.bytes.take (n + 4)).length = n + 4 := by
        rw [← hbytes, List.length_take, Intake.bytes, List.length_append]
        omega
      obtain ⟨hfront, hback⟩ := Intake.take_of_bytes hsplit (by omega)
      rw [hlen'] at hfront hback
      rw [readOneHead, hsection, Outcome.done_bind, hfront]
      cases Text.fromUtf8 (intake.bytes.take (n + 4)) with
      | none => exact ⟨_, rfl⟩
      | some text =>
          dsimp only
          cases parseResponseHeaders text with
          | error error => exact ⟨error, rfl⟩
          | ok head => exact ⟨(intake'.take (n + 4)).2, rfl, hback, hsame⟩

/-- **The heads** are read as the bytes say. -/
theorem readHeads_agrees {room : ℕ} (hending : intake.stream.ending ≠ .silent) :
    (readHeads room intake).Agrees intake.stream.ending (headsOf room intake.bytes) := by
  induction room generalizing intake with
  | zero =>
      rw [readHeads, headsOf]
      refine (readOneHead_agrees hending).bind fun head intake' _ hsame => ?_
      dsimp only
      split
      · exact ⟨_, rfl⟩
      · exact ⟨intake', rfl, rfl, hsame⟩
  | succ room ih =>
      rw [readHeads, headsOf]
      refine (readOneHead_agrees hending).bind fun head intake' _ hsame => ?_
      dsimp only
      split
      · rw [← hsame]
        exact ih (hsame ▸ hending)
      · exact ⟨intake', rfl, rfl, hsame⟩

/-! ### Chunks -/

theorem readTrailers_gives (hending : intake.stream.ending ≠ .silent)
    (hlines : ∀ line ∈ trailerLines intake.bytes, line.length ≤ 65535) :
    (readTrailers intake).Gives (trailersOf intake.bytes) := by
  induction hn : intake.bytes.length using Nat.strongRecOn generalizing intake with
  | ind n ih =>
      rw [trailerLines] at hlines
      rw [readTrailers_eq, trailersOf]
      have hfirst := readLineCrlf_agrees hending fun line rest hline => by
        rw [hline] at hlines
        exact (List.forall_mem_cons.1 hlines).1
      split
      · rename_i hline
        rw [hline] at hfirst
        exact Outcome.Rejects.bind hfirst
      · rename_i line rest hline
        rw [hline] at hlines hfirst
        obtain ⟨-, hlater⟩ := List.forall_mem_cons.1 hlines
        obtain ⟨intake', hbind, hbytes, hsame⟩ := Outcome.Leaves.bind hfirst
        rw [hbind]
        split
        · exact ⟨intake', rfl⟩
        · rename_i hmore
          rw [if_neg hmore] at hlater
          have hlt := length_of_lineOf hline
          rw [← hbytes]
          exact ih _ (by rw [hbytes]; omega) (hsame ▸ hending) (hbytes ▸ hlater) rfl

/-- What is required is taken off the bytes, or they are too few. -/
theorem ensureBuffered_take (required : ℕ) (hending : intake.stream.ending ≠ .silent) :
    (required ≤ intake.bytes.length ∧ ∃ intake', ensureBuffered required intake = .done () intake' ∧
        (intake'.take required).1 = intake.bytes.take required ∧
        (intake'.take required).2.bytes = intake.bytes.drop required ∧
        (intake'.take required).2.stream.ending = intake.stream.ending) ∨
      (intake.bytes.length < required ∧ (ensureBuffered required intake).Rejects) := by
  rcases Nat.lt_or_ge intake.bytes.length required with hlt | hge
  · exact Or.inr ⟨hlt, ensureBuffered_short hlt hending⟩
  · obtain ⟨intake', hdone⟩ := ensureBuffered_of_le hge
    obtain ⟨hfront, hback⟩ := take_of_ensureBuffered hdone
    exact Or.inl ⟨hge, intake', hdone, hfront, hback, (ensureBuffered_done hdone).2.1⟩

/-- **The chunks** are read as the bytes say. -/
theorem readChunks_gives {maxBodyBytes : ℕ} {body : List UInt8}
    (hending : intake.stream.ending ≠ .silent)
    (hlines : ∀ line ∈ chunkLines intake.bytes, line.length ≤ 65535) :
    (readChunks maxBodyBytes body intake).Gives (chunksOf maxBodyBytes body intake.bytes) := by
  induction hn : intake.bytes.length using Nat.strongRecOn generalizing body intake with
  | ind n ih =>
      rw [chunkLines] at hlines
      rw [readChunks_eq, chunksOf]
      have hfirst := readLineCrlf_agrees hending fun line rest hline => by
        rw [hline] at hlines
        exact (List.forall_mem_cons.1 hlines).1
      split
      · rename_i hline
        rw [hline] at hfirst
        exact Outcome.Rejects.bind hfirst
      · rename_i line rest hline
        rw [hline] at hlines hfirst
        obtain ⟨-, hlater⟩ := List.forall_mem_cons.1 hlines
        have hlt := length_of_lineOf hline
        obtain ⟨intake₁, hbind, rfl, hsame⟩ := Outcome.Leaves.bind hfirst
        have hending₁ : intake₁.stream.ending ≠ .silent := hsame ▸ hending
        rw [hbind]
        cases hsize : parseChunkSize line with
        | error error => exact ⟨error, rfl⟩
        | ok size =>
            rw [hsize] at hlater
            rw [Outcome.ofExcept, Outcome.done_bind]
            dsimp only at hlater ⊢
            split
            · rename_i hzero
              rw [if_pos hzero] at hlater
              have htrailers := readTrailers_gives hending₁ hlater
              cases hfound : trailersOf intake₁.bytes with
              | none =>
                  rw [hfound] at htrailers
                  exact Outcome.Rejects.bind htrailers
              | some u =>
                  rw [hfound] at htrailers
                  obtain ⟨intake₂, hdone⟩ := htrailers
                  rw [hdone]
                  exact ⟨intake₂, rfl⟩
            · rename_i hzero
              rw [if_neg hzero] at hlater
              split
              · exact ⟨_, rfl⟩
              · rcases ensureBuffered_take size hending₁ with
                  ⟨hle, intake₂, hdata, hfront, hback, hsame₂⟩ | ⟨hshort, hreject⟩
                · rw [hdata, Outcome.done_bind]
                  have hending₂ : (intake₂.take size).2.stream.ending ≠ .silent := by
                    rw [hsame₂]
                    exact hending₁
                  rcases ensureBuffered_take 2 hending₂ with
                    ⟨hle', intake₃, hend, hfront', hback', hsame₃⟩ | ⟨hshort, hreject⟩
                  · rw [hend, Outcome.done_bind, hfront', hback]
                    rw [hback] at hback' hle'
                    split
                    · rename_i hne
                      rw [if_neg fun h : HasChunk size intake₁.bytes => hne h.2.2]
                      exact ⟨_, rfl⟩
                    · rename_i hcrlf
                      have hchunk : HasChunk size intake₁.bytes :=
                        ⟨hle, hle', not_not.1 hcrlf⟩
                      rw [if_pos hchunk] at hlater ⊢
                      rw [hfront, ← hback']
                      refine ih _ ?_ ?_ (hback' ▸ hlater) rfl
                      · rw [hback', List.length_drop, List.length_drop]
                        omega
                      · rw [hsame₃, hsame₂]
                        exact hending₁
                  · rw [hback] at hshort
                    rw [if_neg fun h : HasChunk size intake₁.bytes => by have := h.2.1; omega]
                    exact hreject.bind
                · rw [if_neg fun h : HasChunk size intake₁.bytes => by have := h.1; omega]
                  exact hreject.bind

/-! ### Bodies and responses -/

variable {method : Method} {maxBodyBytes statusCode : ℕ} {headers : List (String × String)}

theorem readFixedBody_gives {contentLength : ℕ} (hending : intake.stream.ending ≠ .silent) :
    (readFixedBody contentLength maxBodyBytes intake).Gives
      (fixedOf contentLength maxBodyBytes intake.bytes) := by
  rw [fixedOf]
  split
  · rename_i hfits
    have hlen : (intake.bytes.take contentLength).length = contentLength := by
      rw [List.length_take]
      omega
    have hread := @readFixedBody_of_bytes intake (intake.bytes.drop contentLength) maxBodyBytes
      (intake.bytes.take contentLength) (List.take_append_drop contentLength intake.bytes).symm
      (by omega)
    rw [hlen] at hread
    obtain ⟨intake', hdone, -, -⟩ := hread
    exact ⟨intake', hdone⟩
  · rename_i hbad
    rcases Nat.lt_or_ge maxBodyBytes contentLength with hlt | hge
    · rw [readFixedBody, if_pos hlt]
      exact ⟨_, rfl⟩
    · exact readFixedBody_short (by omega) hending

theorem readToEnd_long {body : List UInt8}
    (hlong : maxBodyBytes < body.length + intake.stream.bytes.length)
    (hle : body.length ≤ maxBodyBytes) :
    readToEnd maxBodyBytes body intake = .failed (.bail "response body exceeds configured limit") := by
  fun_induction readToEnd maxBodyBytes body intake with
  | case1 body intake hread | case2 body intake hread | case3 body intake hread =>
      have hnil := ByteStream.bytes_eq_nil intake.stream readBufferSize (by simp [hread])
      rw [hnil, List.length_nil] at hlong
      omega
  | case4 => rfl
  | case5 body intake piece stream hread hfits ih =>
      obtain ⟨-, -, hbytes, -⟩ := ByteStream.read_spec (m := readBufferSize) (by decide) hread
      rw [hbytes, List.length_append] at hlong
      refine ih ?_ ?_
      · rw [List.length_append]
        dsimp only
        omega
      · rw [List.length_append]
        omega

/-- A body that is too long is rejected for its size. -/
theorem readCloseDelimitedBody_long (hlong : maxBodyBytes < intake.bytes.length) :
    readCloseDelimitedBody maxBodyBytes intake =
      .failed (.bail "response body exceeds configured limit") := by
  rw [Intake.bytes, List.length_append] at hlong
  rw [readCloseDelimitedBody]
  split
  · rfl
  · exact readToEnd_long hlong (by omega)

theorem readCloseDelimitedBody_gives (hending : intake.stream.ending = .eof) :
    (readCloseDelimitedBody maxBodyBytes intake).Gives (closeOf maxBodyBytes intake.bytes) := by
  rw [closeOf]
  split
  · rename_i hle
    exact readCloseDelimitedBody_of_eof hle hending
  · rename_i hlong
    exact ⟨_, readCloseDelimitedBody_long (by omega)⟩

/-- **The body** is read as the bytes say. -/
theorem readBody_gives (hending : intake.stream.ending = .eof)
    (hlines : responseHasNoBody method statusCode = false → IsChunked headers →
      ∀ line ∈ chunkLines intake.bytes, line.length ≤ 65535) :
    (readBody method maxBodyBytes statusCode headers intake).Gives
      (decodeBody method maxBodyBytes statusCode headers intake.bytes) := by
  have hloud : intake.stream.ending ≠ .silent := by
    rw [hending]
    nofun
  rw [readBody, decodeBody]
  split
  · exact ⟨intake, rfl⟩
  · rename_i hbody
    rw [Bool.not_eq_true] at hbody
    cases hcodings : transferCodings headers with
    | nil =>
        dsimp only
        cases parseContentLength headers with
        | error error => exact ⟨error, rfl⟩
        | ok length =>
            rw [Outcome.ofExcept, Outcome.done_bind]
            cases length with
            | some contentLength => exact readFixedBody_gives hloud
            | none => exact readCloseDelimitedBody_gives hending
    | cons coding codings =>
        cases codings with
        | nil =>
            dsimp only
            split
            · rename_i hchunked
              exact readChunks_gives hloud (hlines hbody ⟨coding, hcodings, hchunked⟩)
            · exact ⟨_, rfl⟩
        | cons _ _ => exact ⟨_, rfl⟩

/-- **The response** is read as the bytes say. -/
theorem readHttpResponse_gives {stream : ByteStream UInt8} (heof : stream.ending = .eof)
    (hlines : ShortLines method stream.bytes) :
    (readHttpResponse method maxBodyBytes stream).Gives
      (decodeResponse method maxBodyBytes stream.bytes) := by
  have hheads := @readHeads_agrees ⟨[], stream⟩ maxInformationalResponses (by
    rw [heof]
    nofun)
  rw [readHttpResponse, decodeResponse]
  cases hfound : headsOf maxInformationalResponses stream.bytes with
  | none =>
      rw [show (Intake.mk [] stream).bytes = stream.bytes from rfl, hfound] at hheads
      exact Outcome.Rejects.bind hheads
  | some found =>
      obtain ⟨⟨statusCode, headers⟩, rest⟩ := found
      rw [show (Intake.mk [] stream).bytes = stream.bytes from rfl, hfound] at hheads
      obtain ⟨intake, hbind, rfl, hsame⟩ := Outcome.Leaves.bind hheads
      rw [hbind]
      have hbody := @readBody_gives intake method maxBodyBytes statusCode headers
        (hsame.trans heof) (hlines statusCode headers intake.bytes hfound)
      dsimp only
      cases hdecoded : decodeBody method maxBodyBytes statusCode headers intake.bytes with
      | none =>
          rw [hdecoded] at hbody
          exact Outcome.Rejects.bind hbody
      | some body =>
          rw [hdecoded] at hbody
          obtain ⟨intake', hdone⟩ := hbody
          rw [hdone]
          exact ⟨intake', rfl⟩

/-- **Read boundaries never change the outcome.**  However the bytes are cut into
reads, a response is decoded to the same status, headers and body, or rejected
both times. -/
theorem readHttpResponse_same (method : Method) (maxBodyBytes : ℕ) (stream other : ByteStream UInt8)
    (hbytes : stream.bytes = other.bytes) (heof : stream.ending = .eof)
    (heof' : other.ending = .eof) (hlines : ShortLines method stream.bytes) :
    (∃ parsed intake intake', readHttpResponse method maxBodyBytes stream = .done parsed intake ∧
        readHttpResponse method maxBodyBytes other = .done parsed intake') ∨
      ((readHttpResponse method maxBodyBytes stream).Rejects ∧
        (readHttpResponse method maxBodyBytes other).Rejects) := by
  have hgives := @readHttpResponse_gives method maxBodyBytes stream heof hlines
  have hgives' := @readHttpResponse_gives method maxBodyBytes other heof' (hbytes ▸ hlines)
  rw [← hbytes] at hgives'
  cases hdecoded : decodeResponse method maxBodyBytes stream.bytes with
  | none =>
      rw [hdecoded] at hgives hgives'
      exact Or.inr ⟨hgives, hgives'⟩
  | some parsed =>
      rw [hdecoded] at hgives hgives'
      obtain ⟨intake, hdone⟩ := hgives
      obtain ⟨intake', hdone'⟩ := hgives'
      exact Or.inl ⟨parsed, intake, intake', hdone, hdone'⟩

/-- A chunked response. -/
def chunkedBytes : List UInt8 :=
  Text.utf8 "HTTP/1.1 200 OK\r\nTransfer-Encoding: chunked\r\n\r\n1\r\nx\r\n0\r\n\r\n"

theorem shortLines_chunkedBytes : ShortLines .GET chunkedBytes := by
  intro statusCode headers rest h _ _
  have hrest : (headsOf maxInformationalResponses chunkedBytes).map Prod.snd =
      some (Text.utf8 "1\r\nx\r\n0\r\n\r\n") := by
    decide +kernel
  rw [h, Option.map_some, Option.some_inj] at hrest
  obtain rfl := hrest
  decide +kernel

/-- It is read at once, and in two parts. -/
theorem readHttpResponse_same_chunked :
    (∃ parsed intake intake',
        readHttpResponse .GET 8 ⟨[chunkedBytes], .eof, by decide +kernel⟩ = .done parsed intake ∧
        readHttpResponse .GET 8
          ⟨[chunkedBytes.take 47, chunkedBytes.drop 47], .eof, by decide +kernel⟩ =
            .done parsed intake') ∨
      ((readHttpResponse .GET 8 ⟨[chunkedBytes], .eof, by decide +kernel⟩).Rejects ∧
        (readHttpResponse .GET 8
          ⟨[chunkedBytes.take 47, chunkedBytes.drop 47], .eof, by decide +kernel⟩).Rejects) :=
  readHttpResponse_same .GET 8 _ _ (by decide +kernel) rfl rfl (by
    rw [show (ByteStream.mk [chunkedBytes] .eof (by decide +kernel)).bytes = chunkedBytes by
      decide +kernel]
    exact shortLines_chunkedBytes)

end Rgrok
