/-
# The response reader stops

A reader that waits has read all that arrived (`readHttpResponse_waiting`), so
that on a stream that ends, and on an endless one, `read_http_response` returns
after as many bytes as `ResponseReads` counts.  These are bounded just when the
trailers behind the last chunk are (`response_reader_stops_iff`), which nothing in
the loop over them sees to.
-/

import Mathlib.Data.ENat.Basic
import Rgrok.Server.ResponseReads

namespace Rgrok

variable {intake intake' : Intake UInt8} {body : List UInt8} {maxBodyBytes : ℕ}

/-! ### A reader that waits -/

/-- So many bytes are all there are on a stream that went silent. -/
def Exhausts (consumed : ℕ) (intake : Intake UInt8) : Prop :=
  intake.stream.ending = .silent ∧ consumed = intake.stream.bytes.length

/-- What was read before counts too. -/
theorem Exhausts.add {first later : ℕ} (h : Exhausts later intake')
    (hending : intake'.stream.ending = intake.stream.ending)
    (hfirst : first + intake'.stream.bytes.length = intake.stream.bytes.length) :
    Exhausts (first + later) intake := by
  obtain ⟨hsilent, rfl⟩ := h
  exact ⟨hending.symm.trans hsilent, hfirst⟩

theorem ensureBuffered_waiting {required : ℕ} (h : ensureBuffered required intake = .waiting) :
    Exhausts (ensureBufferedConsumed required intake) intake := by
  fun_induction ensureBuffered required intake with
  | case1 intake hlt hread =>
      refine ⟨ByteStream.ending_of_waiting hread, ?_⟩
      rw [ensureBufferedConsumed, if_pos hlt, hread,
        ByteStream.bytes_eq_nil _ readBufferSize (by simp [hread])]
      rfl
  | case2 => cases h
  | case3 => cases h
  | case4 intake hlt piece stream hread ih =>
      obtain ⟨-, -, hbytes, hending⟩ :=
        ByteStream.read_spec (m := readBufferSize) (by decide) hread
      rw [ensureBufferedConsumed, if_pos hlt, hread]
      refine (ih h).add hending ?_
      rw [hbytes, List.length_append]
      rfl
  | case5 => cases h

theorem readHeaderSection_waiting (h : readHeaderSection intake = .waiting) :
    Exhausts (readHeaderSectionConsumed intake) intake := by
  fun_induction readHeaderSection intake with
  | case1 => cases h
  | case2 => cases h
  | case3 => cases h
  | case4 intake hpos hshort hread =>
      refine ⟨ByteStream.ending_of_waiting hread, ?_⟩
      rw [readHeaderSectionConsumed, hpos]
      dsimp only
      rw [if_neg hshort, hread, ByteStream.bytes_eq_nil _ readBufferSize (by simp [hread])]
      rfl
  | case5 => cases h
  | case6 => cases h
  | case7 => cases h
  | case8 intake hpos hshort piece stream hread intake₁ hfits ih =>
      obtain ⟨-, -, hbytes, hending⟩ :=
        ByteStream.read_spec (m := readBufferSize) (by decide) hread
      rw [readHeaderSectionConsumed, hpos]
      dsimp only
      rw [if_neg hshort, hread]
      dsimp only
      rw [if_neg hfits]
      refine (ih h).add hending ?_
      rw [hbytes, List.length_append]
      rfl

/-- One of the two readers waits. -/
theorem Outcome.bind_eq_waiting {α β : Type} {outcome : Outcome α}
    {next : α → Intake UInt8 → Outcome β} :
    outcome.bind next = .waiting ↔
      outcome = .waiting ∨ ∃ value intake, outcome = .done value intake ∧
        next value intake = .waiting := by
  cases outcome with
  | waiting => exact ⟨fun _ => Or.inl rfl, fun _ => rfl⟩
  | failed error =>
      constructor
      · intro h
        cases h
      · rintro (h | ⟨value, intake, h, -⟩) <;> cases h
  | done value intake =>
      constructor
      · exact fun h => Or.inr ⟨value, intake, rfl, h⟩
      · rintro (h | ⟨value', intake', h, hnext⟩)
        · cases h
        · obtain ⟨rfl, rfl⟩ := Outcome.done.inj h
          exact hnext

theorem Outcome.ofExcept_ne_waiting {α : Type} (result : Except ResponseError α) :
    Outcome.ofExcept result intake ≠ .waiting := by
  cases result <;> intro h <;> cases h

theorem readOneHead_waiting (h : readOneHead intake = .waiting) :
    Exhausts (readHeaderSectionConsumed intake) intake := by
  obtain hsection | ⟨n, intake₁, -, h⟩ := Outcome.bind_eq_waiting.1 h
  · exact readHeaderSection_waiting hsection
  · split at h
    · cases h
    · exact absurd h (Outcome.ofExcept_ne_waiting _)

/-- The heads. -/
theorem readHeads_waiting {room : ℕ} (h : readHeads room intake = .waiting) :
    Exhausts (readHeadsConsumed room intake) intake := by
  induction room generalizing intake with
  | zero =>
      rw [readHeads] at h
      obtain hone | ⟨⟨statusCode, headers⟩, intake₁, -, hnext⟩ := Outcome.bind_eq_waiting.1 h
      · rw [readHeadsConsumed, hone]
        exact readOneHead_waiting hone
      · dsimp only at hnext
        split at hnext <;> cases hnext
  | succ room ih =>
      rw [readHeads] at h
      obtain hone | ⟨⟨statusCode, headers⟩, intake₁, hone, hnext⟩ := Outcome.bind_eq_waiting.1 h
      · rw [readHeadsConsumed, hone]
        exact readOneHead_waiting hone
      · obtain ⟨-, -, -, -, -, -, hending⟩ := readOneHead_done hone
        rw [readHeadsConsumed, hone, Outcome.consumedAfter]
        dsimp only at hnext ⊢
        split at hnext
        · rename_i hinformational
          rw [if_pos hinformational]
          exact (ih hnext).add hending (readOneHead_consumed hone)
        · cases hnext

theorem ending_of_readHeads {intake intake' : Intake UInt8} {room : ℕ}
    {head : ℕ × List (String × String)}
    (h : readHeads room intake = .done head intake') :
    intake'.stream.ending = intake.stream.ending := by
  obtain ⟨first, intake₁, hone, hcases⟩ := readHeads_cases h
  obtain ⟨-, -, -, -, -, -, hending⟩ := readOneHead_done hone
  rcases hcases with ⟨room', rfl, -, hnext⟩ | ⟨-, -, rfl⟩
  · exact (ending_of_readHeads hnext).trans hending
  · exact hending

/-! ### Bodies -/

theorem readRemaining_waiting {contentLength : ℕ}
    (h : readRemaining contentLength body intake = .waiting) :
    Exhausts (readRemainingConsumed contentLength body intake) intake := by
  fun_induction readRemaining contentLength body intake with
  | case1 body intake hlt hread =>
      refine ⟨ByteStream.ending_of_waiting hread, ?_⟩
      rw [readRemainingConsumed, dif_pos hlt, hread,
        ByteStream.bytes_eq_nil _ (min (contentLength - body.length) readBufferSize)
          (by simp [hread])]
      rfl
  | case2 => cases h
  | case3 => cases h
  | case4 body intake hlt piece stream hread ih =>
      have hmax : 0 < min (contentLength - body.length) readBufferSize := by
        have hpos : 0 < readBufferSize := by decide
        omega
      obtain ⟨-, -, hbytes, hending⟩ := ByteStream.read_spec hmax hread
      rw [readRemainingConsumed, dif_pos hlt, hread]
      refine (ih h).add hending ?_
      rw [hbytes, List.length_append]
  | case5 => cases h

theorem readToEnd_ne_waiting : readToEnd maxBodyBytes body intake ≠ .waiting := by
  intro h
  fun_induction readToEnd maxBodyBytes body intake with
  | case1 | case2 | case3 | case4 => cases h
  | case5 body intake piece stream hread hfits ih => exact ih h

theorem readLineCrlf_waiting (h : readLineCrlf intake = .waiting) :
    Exhausts (readLineCrlfConsumed intake) intake := by
  fun_induction readLineCrlf intake with
  | case1 => cases h
  | case2 => cases h
  | case3 intake hpos hshort hensure =>
      rw [readLineCrlfConsumed, hpos]
      dsimp only
      rw [if_neg hshort, hensure]
      exact ensureBuffered_waiting hensure
  | case4 => cases h
  | case5 intake hpos hshort u intake₁ hensure ih =>
      rw [readLineCrlfConsumed, hpos]
      dsimp only
      rw [if_neg hshort, hensure]
      exact (ih h).add (ensureBuffered_done hensure).2.1 (ensureBufferedConsumed_done hensure)

theorem readTrailers_waiting (h : readTrailers intake = .waiting) :
    Exhausts (readTrailersConsumed intake) intake := by
  fun_induction readTrailers intake with
  | case1 intake hline =>
      rw [readTrailersConsumed, hline]
      exact readLineCrlf_waiting hline
  | case2 => cases h
  | case3 => cases h
  | case4 intake line intake₁ hline hmore ih =>
      rw [readTrailersConsumed, hline]
      dsimp only
      rw [if_neg hmore]
      exact (ih h).add (readLineCrlf_done hline).2 (readLineCrlfConsumed_done hline)

/-- The chunks. -/
theorem readChunks_waiting (h : readChunks maxBodyBytes body intake = .waiting) :
    Exhausts (readChunksConsumed maxBodyBytes body intake) intake := by
  induction hn : intake.bytes.length using Nat.strongRecOn generalizing body intake with
  | ind n ih =>
      rw [readChunks_eq] at h
      rw [readChunksConsumed]
      obtain hline | ⟨line, intake₁, hline, h⟩ := Outcome.bind_eq_waiting.1 h
      · rw [hline]
        exact readLineCrlf_waiting hline
      · have hlen := congrArg List.length (readLineCrlf_done hline).1
        simp only [List.length_append, crlf, List.length_cons] at hlen
        rw [hline]
        dsimp only
        refine Exhausts.add ?_ (readLineCrlf_done hline).2 (readLineCrlfConsumed_done hline)
        cases hsize : parseChunkSize line with
        | error error =>
            rw [hsize] at h
            cases h
        | ok size =>
            rw [hsize, Outcome.ofExcept, Outcome.done_bind] at h
            dsimp only
            split at h
            · rename_i hlast
              rw [if_pos hlast]
              obtain htrailers | ⟨u, intake₂, -, hnext⟩ := Outcome.bind_eq_waiting.1 h
              · exact readTrailers_waiting htrailers
              · cases hnext
            · rename_i hpositive
              rw [if_neg hpositive]
              split at h
              · cases h
              · rename_i hfits
                rw [if_neg hfits]
                obtain hdata | ⟨u, intake₂, hdata, h⟩ := Outcome.bind_eq_waiting.1 h
                · rw [hdata]
                  exact ensureBuffered_waiting hdata
                · rw [hdata]
                  dsimp only
                  refine Exhausts.add ?_ (ensureBuffered_done hdata).2.1
                    (ensureBufferedConsumed_done hdata)
                  obtain hend | ⟨v, intake₃, hend, h⟩ := Outcome.bind_eq_waiting.1 h
                  · rw [hend]
                    exact ensureBuffered_waiting hend
                  · rw [hend]
                    dsimp only
                    split at h
                    · cases h
                    · rename_i hcrlf
                      rw [if_neg hcrlf]
                      obtain ⟨-, hrest, -⟩ :=
                        hasChunk_of_ensureBuffered hdata hend (not_not.1 hcrlf)
                      have hshorter : (intake₃.take 2).2.bytes.length < n := by
                        rw [hrest, List.length_drop, List.length_drop]
                        omega
                      have hconsumed := ensureBufferedConsumed_done hend
                      exact (ih _ hshorter h rfl).add (ensureBuffered_done hend).2.1 hconsumed

/-- The body. -/
theorem readBody_waiting {method : Method} {statusCode : ℕ} {headers : List (String × String)}
    (h : readBody method maxBodyBytes statusCode headers intake = .waiting) :
    Exhausts (readBodyConsumed method maxBodyBytes statusCode headers intake) intake := by
  rw [readBody] at h
  rw [readBodyConsumed]
  split at h
  · cases h
  · rename_i hbody
    rw [if_neg hbody]
    cases hcodings : transferCodings headers with
    | nil =>
        rw [hcodings] at h
        dsimp only at h ⊢
        cases hlength : parseContentLength headers with
        | error error =>
            rw [hlength] at h
            cases h
        | ok contentLength =>
            rw [hlength, Outcome.ofExcept, Outcome.done_bind] at h
            cases contentLength with
            | none =>
                dsimp only at h
                rw [readCloseDelimitedBody] at h
                split at h
                · cases h
                · exact absurd h readToEnd_ne_waiting
            | some contentLength =>
                dsimp only at h ⊢
                rw [readFixedBody] at h
                rw [readFixedBodyConsumed]
                split at h
                · cases h
                · rename_i hfits
                  rw [if_neg hfits]
                  exact readRemaining_waiting h
    | cons coding codings =>
        rw [hcodings] at h
        cases codings with
        | nil =>
            dsimp only at h ⊢
            split at h
            · rename_i hchunked
              rw [if_pos hchunked]
              exact readChunks_waiting h
            · cases h
        | cons next codings => cases h

/-- **A reader that waits** has read all there is, and the stream is silent. -/
theorem readHttpResponse_waiting {method : Method} {stream : ByteStream UInt8}
    (h : readHttpResponse method maxBodyBytes stream = .waiting) :
    stream.ending = .silent ∧
      readHttpResponseConsumed method maxBodyBytes stream = stream.bytes.length := by
  rw [readHttpResponse] at h
  rw [readHttpResponseConsumed]
  obtain hheads | ⟨⟨statusCode, headers⟩, intake, hheads, h⟩ := Outcome.bind_eq_waiting.1 h
  · rw [hheads]
    exact readHeads_waiting hheads
  · rw [hheads]
    obtain hbody | ⟨body, intake', -, hnext⟩ := Outcome.bind_eq_waiting.1 h
    · have hconsumed : readHeadsConsumed maxInformationalResponses ⟨[], stream⟩ +
          intake.stream.bytes.length = stream.bytes.length := readHeadsConsumed_done hheads
      exact @Exhausts.add ⟨[], stream⟩ intake _ _ (readBody_waiting hbody)
        (ending_of_readHeads hheads) hconsumed
    · cases hnext

/-! ### Streams -/

/-- All that a peer ever sends: a stream that ends, or pieces without end. -/
inductive PeerStream
  | finite (stream : ByteStream UInt8) (hends : stream.ending ≠ .silent)
  | endless (piece : ℕ → List UInt8) (hpiece : ∀ n, piece n ≠ [])

namespace PeerStream

/-- The first `n` pieces of an endless stream; no more have arrived. -/
def upTo (piece : ℕ → List UInt8) (hpiece : ∀ n, piece n ≠ []) (n : ℕ) : ByteStream UInt8 where
  arrivals := (List.range n).map piece
  ending := .silent
  nonempty := by
    intro p hp
    obtain ⟨k, -, rfl⟩ := List.mem_map.1 hp
    exact hpiece k

theorem le_length_upTo (piece : ℕ → List UInt8) (hpiece : ∀ n, piece n ≠ []) (n : ℕ) :
    n ≤ (upTo piece hpiece n).bytes.length := by
  induction n with
  | zero => exact Nat.zero_le _
  | succ n ih =>
      have hpos := List.length_pos_iff.2 (hpiece n)
      have hbytes : (upTo piece hpiece (n + 1)).bytes =
          (upTo piece hpiece n).bytes ++ piece n := by
        have harrivals : (List.range (n + 1)).map piece = (List.range n).map piece ++ [piece n] := by
          rw [List.range_succ, List.map_append, List.map_singleton]
        refine (congrArg List.flatten harrivals).trans ?_
        rw [List.flatten_append, List.flatten_singleton]
        rfl
      rw [hbytes, List.length_append]
      omega

/-- The trailer lines have no more bytes than the limit, if there is one. -/
def TrailersWithin (method : Method) (limit : ℕ∞) : PeerStream → Prop
  | .finite stream _ => (responseTrailersLength method stream.bytes : ℕ∞) ≤ limit
  | .endless piece hpiece =>
      ∀ n, (responseTrailersLength method (upTo piece hpiece n).bytes : ℕ∞) ≤ limit

/-- `read_http_response` returns, and has read at most `bound` bytes.  On an
endless stream it does so when some of what has arrived is not read yet. -/
def StopsWithin (method : Method) (maxBodyBytes bound : ℕ) : PeerStream → Prop
  | .finite stream _ =>
      readHttpResponse method maxBodyBytes stream ≠ .waiting ∧
        readHttpResponseConsumed method maxBodyBytes stream ≤ bound
  | .endless piece hpiece => ∃ n,
      readHttpResponse method maxBodyBytes (upTo piece hpiece n) ≠ .waiting ∧
        readHttpResponseConsumed method maxBodyBytes (upTo piece hpiece n) <
          (upTo piece hpiece n).bytes.length ∧
        readHttpResponseConsumed method maxBodyBytes (upTo piece hpiece n) ≤ bound

/-- **With a limit on the trailers** the reader stops. -/
theorem stopsWithin_of_trailersWithin {method : Method} {limit : ℕ} {stream : PeerStream}
    (h : stream.TrailersWithin method limit) :
    stream.StopsWithin method maxBodyBytes (consumptionBound maxBodyBytes + limit) := by
  have hbound : ∀ s : ByteStream UInt8, (responseTrailersLength method s.bytes : ℕ∞) ≤ limit →
      readHttpResponseConsumed method maxBodyBytes s ≤ consumptionBound maxBodyBytes + limit := by
    intro s hs
    have hconsumed := readHttpResponseConsumed_le method maxBodyBytes s
    have hlimit : responseTrailersLength method s.bytes ≤ limit := ENat.natCast_le_natCast.1 hs
    omega
  cases stream with
  | finite s hends =>
      exact ⟨fun hwaiting => hends (readHttpResponse_waiting hwaiting).1, hbound s h⟩
  | endless piece hpiece =>
      -- more pieces than bytes can be read
      have hconsumed := hbound _ (h (consumptionBound maxBodyBytes + limit + 1))
      have hlength := le_length_upTo piece hpiece (consumptionBound maxBodyBytes + limit + 1)
      refine ⟨consumptionBound maxBodyBytes + limit + 1, fun hwaiting => ?_, by omega, hconsumed⟩
      have hall := (readHttpResponse_waiting hwaiting).2
      omega

end PeerStream

/-! ### Trailers without end -/

/-- `n` trailer lines behind the last chunk. -/
def trailerFlood (n : ℕ) : List UInt8 :=
  Text.utf8 "0" ++ crlf ++ (((List.replicate n [97]).flatMap fun trailer => trailer ++ crlf) ++ crlf)

/-- A chunked response without data, and `n` trailer lines. -/
def floodResponse (n : ℕ) : ByteStream UInt8 :=
  ByteStream.oneByOne (chunkedHead.bytes ++ trailerFlood n) .eof

theorem bytes_oneByOne (bytes : List UInt8) (ending : Ending) :
    (ByteStream.oneByOne bytes ending).bytes = bytes := by
  have hflatten : (bytes.map fun b => [b]).flatten = bytes := by
    induction bytes with
    | nil => rfl
    | cons b bytes ih => rw [List.map_cons, List.flatten_cons, ih, List.singleton_append]
  exact hflatten

theorem isBodyLine_singleton (b : UInt8) : IsBodyLine [b] := by
  refine ⟨fun h => ?_, Nat.le_of_ble_eq_true rfl⟩
  have hlen : 2 ≤ 1 := h.length_le
  omega

/-- The flood is read to its end. -/
theorem consumed_floodResponse (maxBodyBytes n : ℕ) :
    readHttpResponseConsumed .GET maxBodyBytes (floodResponse n) =
      (chunkedHead.bytes ++ trailerFlood n).length := by
  have hbytes : (floodResponse n).bytes = chunkedHead.bytes ++ trailerFlood n :=
    bytes_oneByOne _ _
  have hcoding : transferCodings chunkedHead.headers = ["chunked".toList] := by
    decide +kernel
  have hsize : parseChunkSize (Text.utf8 "0") = .ok 0 := by
    decide +kernel
  obtain ⟨intake₁, hheads, hleft₁, -⟩ := @readHeads_of_bytes chunkedHead ⟨[], floodResponse n⟩
    (trailerFlood n) [] maxInformationalResponses (List.forall_mem_nil _) (Nat.zero_le _) (by decide)
    (List.forall_mem_singleton.2 (by decide +kernel)) hbytes
  have hline : IsBodyLine (Text.utf8 "0") := by
    rw [show Text.utf8 "0" = [48] by decide +kernel]
    exact isBodyLine_singleton 48
  obtain ⟨intake₂, hread, hleft₂, -⟩ := readLineCrlf_of_isLine (isLine_of_noCrlf hline.1)
    (Nat.lt_succ_of_le hline.2) hleft₁
  have htrailers : ∀ trailer ∈ List.replicate n ([97] : List UInt8),
      trailer ≠ [] ∧ IsBodyLine trailer := by
    intro trailer htrailer
    rw [List.eq_of_mem_replicate htrailer]
    exact ⟨List.cons_ne_nil _ _, isBodyLine_singleton 97⟩
  rw [← List.append_nil (_ ++ crlf)] at hleft₂
  obtain ⟨intake₃, hdone, hleft₃, -⟩ := readTrailers_of_bytes htrailers hleft₂
  have hconsumed₁ : readHeadsConsumed maxInformationalResponses ⟨[], floodResponse n⟩ +
      intake₁.stream.bytes.length = (floodResponse n).bytes.length := readHeadsConsumed_done hheads
  have hconsumed₂ := readLineCrlfConsumed_done hread
  have hconsumed₃ := readTrailersConsumed_done hdone
  have hend : intake₃.stream.bytes = [] := (List.append_eq_nil_iff.1 hleft₃).2
  rw [hend, List.length_nil] at hconsumed₃
  rw [← hbytes, readHttpResponseConsumed, hheads, Outcome.consumedAfter]
  dsimp only
  rw [readBodyConsumed, if_neg (by decide), hcoding]
  dsimp only
  rw [if_pos (by decide +kernel), readChunksConsumed, hread]
  dsimp only
  rw [hsize]
  dsimp only
  rw [if_pos rfl]
  omega

/-- No bound is enough for all trailers. -/
theorem exists_not_stopsWithin (maxBodyBytes bound : ℕ) :
    ∃ stream : PeerStream, ¬stream.StopsWithin .GET maxBodyBytes bound := by
  refine ⟨.finite (floodResponse (bound + 1)) Ending.noConfusion, fun h => ?_⟩
  have hconsumed := h.2
  have hlength : bound + 1 ≤ (trailerFlood (bound + 1)).length := by
    simp only [trailerFlood, List.length_append, List.length_flatMap, List.map_replicate,
      List.sum_replicate_nat, crlf, List.length_cons, List.length_nil]
    omega
  rw [consumed_floodResponse, List.length_append] at hconsumed
  omega

/-- **The response reader stops** within a bound just when the trailers have a limit. -/
theorem response_reader_stops_iff (maxBodyBytes : ℕ) (limit : ℕ∞) :
    (∃ bound, ∀ (method : Method) (stream : PeerStream), stream.TrailersWithin method limit →
      stream.StopsWithin method maxBodyBytes bound) ↔ limit ≠ ⊤ := by
  constructor
  · rintro ⟨bound, hbound⟩ rfl
    obtain ⟨stream, hstream⟩ := exists_not_stopsWithin maxBodyBytes bound
    refine hstream (hbound .GET stream ?_)
    cases stream with
    | finite s hends => exact le_top
    | endless piece hpiece => exact fun n => le_top
  · intro hlimit
    obtain ⟨most, rfl⟩ := ENat.ne_top_iff_exists.1 hlimit
    exact ⟨consumptionBound maxBodyBytes + most, fun method stream h =>
      PeerStream.stopsWithin_of_trailersWithin h⟩

theorem response_reader_never_stops :
    ¬∀ maxBodyBytes, ∃ bound, ∀ (method : Method) (stream : PeerStream),
      stream.StopsWithin method maxBodyBytes bound := by
  intro h
  obtain ⟨bound, hbound⟩ := h 0
  obtain ⟨stream, hstream⟩ := exists_not_stopsWithin 0 bound
  exact hstream (hbound .GET stream)

end Rgrok
