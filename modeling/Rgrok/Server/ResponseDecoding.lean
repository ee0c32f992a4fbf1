/-
# Responses are decoded exactly

What `readHttpResponse` returns for a response on the wire, however it is cut:
the status and the headers of the final head, and the body.  A message that is
cut short is rejected, if its framing tells its end.
-/

import Rgrok.Server.ResponseReaders
import Rgrok.Server.ResponseWire

namespace Rgrok

/-! ### Characters -/

theorem isWhitespace_of_isBlank {c : Char} (h : isBlank c = true) : Text.isWhitespace c = true := by
  rw [isBlank, Bool.or_eq_true, beq_iff_eq, beq_iff_eq] at h
  rcases h with rfl | rfl <;> decide

theorem all_isWhitespace_of_isBlank {s : List Char} (h : s.all isBlank = true) :
    s.all Text.isWhitespace = true :=
  List.all_eq_true.2 fun c hc => isWhitespace_of_isBlank (List.all_eq_true.1 h c hc)

theorem not_isWhitespace_of_isAlphanum {c : Char} (h : c.isAlphanum = true) :
    Text.isWhitespace c = false := by
  have hrange := Text.toNat_of_isAlphanum h
  exact Text.not_isWhitespace (by omega) (by omega)

/-- A character of a token is no white space, no colon and no line end. -/
theorem isTokenChar_plain {c : Char} (h : isTokenChar c = true) :
    Text.isWhitespace c = false ∧ c ≠ ':' ∧ c ≠ '\n' := by
  obtain ⟨hlow, hhigh, hcolon⟩ := isTokenChar_range h
  refine ⟨Text.not_isWhitespace (by omega) (by omega), hcolon, ?_⟩
  rintro rfl
  exact absurd hlow (by decide)

section Spells

variable {radix n : ℕ} {digits : List Char} {c : Char}

theorem isAlphanum_of_spells (h : Text.Spells radix digits n) (hc : c ∈ digits) :
    c.isAlphanum = true := by
  obtain ⟨-, ds, hmap, -⟩ := h
  obtain ⟨d, hd⟩ := Text.toDigit_of_mapM hmap hc
  exact Text.alphanum_of_toDigit hd

/-- Digits are no white space. -/
theorem not_isWhitespace_of_spells (h : Text.Spells radix digits n) :
    ∀ c ∈ digits, Text.isWhitespace c = false :=
  fun _ hc => not_isWhitespace_of_isAlphanum (isAlphanum_of_spells h hc)

theorem not_mem_of_spells (h : Text.Spells radix digits n) (hc : c.isAlphanum = false) :
    c ∉ digits := by
  intro hmem
  rw [isAlphanum_of_spells h hmem] at hc
  cases hc

end Spells

/-! ### One head -/

variable {head : ResponseHead}

theorem FieldLine.lineFeed_not_mem_text (field : FieldLine) : '\n' ∉ field.text := by
  intro hmem
  rw [FieldLine.text, List.mem_append, List.mem_cons, List.mem_append, List.mem_append] at hmem
  rcases hmem with hname | hcolon | (hbefore | hvalue) | hafter
  · exact (isTokenChar_plain (List.all_eq_true.1 field.token.2 _ hname)).2.2 rfl
  · exact absurd hcolon (by decide)
  · exact absurd (List.all_eq_true.1 field.blank.1 _ hbefore) (by decide)
  · exact field.plain.2 hvalue
  · exact absurd (List.all_eq_true.1 field.blank.2 _ hafter) (by decide)

theorem ResponseHead.lineFeed_not_mem_lines (head : ResponseHead) :
    ∀ line ∈ head.lines, line ≠ [] ∧ '\n' ∉ line := by
  intro line hline
  rw [ResponseHead.lines, List.mem_cons, List.mem_map] at hline
  rcases hline with rfl | ⟨field, -, rfl⟩
  · constructor
    · simp [ResponseHead.statusLine]
    · have hcode := not_mem_of_spells head.spelled (c := '\n') rfl
      simp only [ResponseHead.statusLine, List.mem_append, List.mem_cons, not_or]
      exact ⟨by decide, by decide, hcode, by decide, head.plain.2⟩
  · exact ⟨by simp [FieldLine.text], field.lineFeed_not_mem_text⟩

/-- The first empty line is the last of the section. -/
theorem ResponseHead.position_bytes (head : ResponseHead) :
    ∃ n, position crlfCrlf head.bytes = some n ∧ n + 4 = head.bytes.length :=
  position_sectionText (List.cons_ne_nil _ _) head.lineFeed_not_mem_lines

theorem splitCrlf_lines {lines : List (List Char)}
    (h : ∀ line ∈ lines, ¬ ['\r', '\n'] <:+: line) :
    Text.splitCrlf ((lines.flatMap fun line => line ++ ['\r', '\n']) ++ ['\r', '\n']) =
      lines ++ [[], []] := by
  induction lines with
  | nil => rfl
  | cons line lines ih =>
      obtain ⟨hline, hlines⟩ := List.forall_mem_cons.1 h
      rw [List.flatMap_cons, List.append_assoc, List.append_assoc, List.cons_append,
        List.cons_append, List.nil_append, Text.splitCrlf_line hline, ih hlines, List.cons_append]

/-- The field lines give the header list. -/
theorem parseHeaderLines_fields (fields : List FieldLine) (rest : List (List Char)) :
    parseHeaderLines (fields.map FieldLine.text ++ [] :: rest) =
      .ok (fields.map fun field => (field.name, field.value)) := by
  induction fields with
  | nil => rfl
  | cons field fields ih =>
      have hname : ∀ c ∈ field.name.toList, isTokenChar c = true :=
        List.all_eq_true.1 field.token.2
      have hbreak : Text.breakOn ':' field.text =
          some (field.name.toList, field.before ++ field.value.toList ++ field.after) :=
        Text.breakOn_eq_some.2 ⟨rfl, fun hmem => (isTokenChar_plain (hname _ hmem)).2.1 rfl⟩
      have htrim : Text.trimChars field.name.toList = field.name.toList :=
        Text.trimChars_of_all fun c hc => (isTokenChar_plain (hname c hc)).1
      have hvalue : String.ofList (Text.trimChars
          (field.before ++ field.value.toList ++ field.after)) = field.value := by
        rw [Text.trimChars_pad (all_isWhitespace_of_isBlank field.blank.1)
          (all_isWhitespace_of_isBlank field.blank.2)]
        exact field.trimmed
      have hne : field.text.isEmpty = false := by
        simp [FieldLine.text]
      have hne' : field.name.toList.isEmpty = false := by
        rw [← Bool.not_eq_true, List.isEmpty_iff]
        exact field.token.1
      rw [List.map_cons, List.cons_append, parseHeaderLines, hne, hbreak, ih]
      simp only [Bool.false_eq_true, if_false, htrim, hne', hvalue, String.ofList_toList,
        Except.map, List.map_cons]

theorem parseStatusLine_statusLine (head : ResponseHead) :
    parseStatusLine head.statusLine = .ok head.statusCode := by
  have hwords : Text.splitWhitespace head.statusLine =
      ['H', 'T', 'T', 'P', '/', '1', '.', '1'] :: head.code ::
        Text.splitWhitespace head.reason := by
    have hall : ['H', 'T', 'T', 'P', '/', '1', '.', '1'].all (!Text.isWhitespace ·) = true := by
      decide
    have hword : ∀ c ∈ ['H', 'T', 'T', 'P', '/', '1', '.', '1'], Text.isWhitespace c = false := by
      simpa using List.all_eq_true.1 hall
    have hcode := not_isWhitespace_of_spells head.spelled
    have hspace : Text.isWhitespace ' ' = true := by decide
    rw [ResponseHead.statusLine, Text.splitWhitespace_word (by simp) hword hspace,
      Text.splitWhitespace_word head.spelled.1 hcode hspace]
  have hversion : (Text.dropPrefix "HTTP/".toList
      ['H', 'T', 'T', 'P', '/', '1', '.', '1']).isNone = false := by
    decide
  have hstatus : Text.parseUnsigned 10 65536 head.code = some head.statusCode := by
    have hlt := Text.lt_of_spells head.spelled
    rw [head.three] at hlt
    exact Text.parseUnsigned_of_spells head.spelled (by omega)
  rw [parseStatusLine, hwords]
  simp only [List.headD_cons, hversion, Bool.false_eq_true, if_false, List.tail_cons,
    List.head?_cons, hstatus]

/-- **A head is parsed as it was meant.** -/
theorem parseResponseHeaders_text (head : ResponseHead) :
    parseResponseHeaders (String.ofList head.text) = .ok (head.statusCode, head.headers) := by
  have hsplit : Text.splitCrlf head.text =
      head.statusLine :: (head.fields.map FieldLine.text ++ [[], []]) :=
    splitCrlf_lines fun line hline hend =>
      (head.lineFeed_not_mem_lines line hline).2 (hend.subset (by decide))
  rw [parseResponseHeaders, String.toList_ofList, hsplit]
  simp only [parseStatusLine_statusLine, parseHeaderLines_fields, Except.map,
    ResponseHead.headers]

/-! ### The heads -/

variable {intake : Intake UInt8} {rest : List UInt8}

/-- A head is read, and what follows it is left. -/
theorem readOneHead_of_bytes (h : intake.bytes = head.bytes ++ rest)
    (hle : head.bytes.length ≤ maxResponseHeaders) :
    (readOneHead intake).Leaves (head.statusCode, head.headers) rest intake.stream.ending := by
  obtain ⟨n, hpos, hn⟩ := head.position_bytes
  have hpos' : position crlfCrlf intake.bytes = some n := by
    rw [h]
    exact position_append hpos
  obtain ⟨intake', hsection, hbytes, hending, hlen⟩ :=
    readHeaderSection_of_position hpos' (by omega)
  rw [h] at hbytes
  rw [hn] at hlen hsection
  obtain ⟨hfront, hback⟩ := Intake.take_of_bytes hbytes hlen
  refine ⟨(intake'.take head.bytes.length).2, ?_, hback, hending⟩
  rw [readOneHead, hsection]
  simp only [Outcome.bind, hfront]
  rw [ResponseHead.bytes, Text.fromUtf8_utf8]
  simp only [parseResponseHeaders_text, Outcome.ofExcept]

/-- A head that is cut short is rejected. -/
theorem readOneHead_short (h : CutShort intake.bytes head.bytes)
    (hending : intake.stream.ending ≠ .silent) : (readOneHead intake).Rejects := by
  obtain ⟨n, hpos, hn⟩ := head.position_bytes
  refine (readHeaderSection_short ?_ hending).bind
  obtain ⟨-, hlen⟩ | ⟨hnone, -⟩ := position_of_prefix hpos h.1
  · have hlt := h.length_lt
    rw [show crlfCrlf.length = 4 from rfl] at hlen
    omega
  · exact hnone

/-- **The heads.**  Informational ones are skipped, up to `room` of them. -/
theorem readHeads_of_bytes {informational : List ResponseHead} {room : ℕ}
    (hinformational : ∀ head ∈ informational, head.IsInformational)
    (hroom : informational.length ≤ room) (hfinal : ¬ head.IsInformational)
    (hle : ∀ head' ∈ informational ++ [head], head'.bytes.length ≤ maxResponseHeaders)
    (h : intake.bytes = informational.flatMap ResponseHead.bytes ++ (head.bytes ++ rest)) :
    (readHeads room intake).Leaves (head.statusCode, head.headers) rest intake.stream.ending := by
  induction informational generalizing room intake with
  | nil =>
      have hone := readOneHead_of_bytes h (hle head (List.mem_append_right _ List.mem_cons_self))
      obtain ⟨intake', hdone, hbytes, hending⟩ := hone.bind
      rw [readHeads, hdone]
      exact ⟨intake', if_neg hfinal, hbytes, hending⟩
  | cons first informational ih =>
      obtain ⟨hfirst, hothers⟩ := List.forall_mem_cons.1 hinformational
      rw [ResponseHead.IsInformational] at hfirst
      obtain ⟨hlefirst, hleothers⟩ := List.forall_mem_cons.1 hle
      rw [List.flatMap_cons, List.append_assoc] at h
      cases room with
      | zero => exact absurd hroom (by simp)
      | succ room =>
          obtain ⟨intake', hdone, hbytes, hending⟩ := (readOneHead_of_bytes h hlefirst).bind
          rw [readHeads, hdone]
          dsimp only
          rw [if_pos hfirst, ← hending]
          exact ih hothers (Nat.le_of_succ_le_succ hroom) hleothers hbytes

/-- Heads that are cut short are rejected. -/
theorem readHeads_short {informational : List ResponseHead} {room : ℕ}
    (hinformational : ∀ head ∈ informational, head.IsInformational)
    (hle : ∀ head' ∈ informational, head'.bytes.length ≤ maxResponseHeaders)
    (h : CutShort intake.bytes (informational.flatMap ResponseHead.bytes ++ head.bytes))
    (hending : intake.stream.ending ≠ .silent) : (readHeads room intake).Rejects := by
  induction informational generalizing room intake with
  | nil =>
      rw [readHeads]
      exact (readOneHead_short h hending).bind
  | cons first informational ih =>
      obtain ⟨hfirst, hothers⟩ := List.forall_mem_cons.1 hinformational
      rw [ResponseHead.IsInformational] at hfirst
      obtain ⟨hlefirst, hleothers⟩ := List.forall_mem_cons.1 hle
      rw [List.flatMap_cons, List.append_assoc] at h
      obtain hcut | ⟨bytes, hbytes, hcut⟩ := h.append
      · rw [readHeads]
        exact (readOneHead_short hcut hending).bind
      · obtain ⟨intake', hdone, hbytes', hending'⟩ := (readOneHead_of_bytes hbytes hlefirst).bind
        rw [readHeads, hdone]
        dsimp only
        rw [if_pos hfirst]
        cases room with
        | zero => exact ⟨_, rfl⟩
        | succ room => exact ih hothers hleothers (hbytes' ▸ hcut) (hending' ▸ hending)

/-! ### Chunks -/

theorem IsBodyLine.isLine {line : List UInt8} (h : IsBodyLine line) : IsLine line :=
  isLine_of_noCrlf h.1

theorem IsBodyLine.length_lt {line : List UInt8} (h : IsBodyLine line) :
    line.length < maxResponseHeaders :=
  Nat.lt_succ_of_le h.2

/-- What is before the extensions. -/
theorem headD_splitOn_size {digits blanks : List Char} {extensions : List UInt8} {size : ℕ}
    (hspelled : Text.Spells 16 digits size) (hblanks : blanks.all isBlank = true)
    (hextensions : extensions = [] ∨ ∃ tail, extensions = 59 :: tail) :
    ((Text.utf8 (String.ofList (digits ++ blanks)) ++ extensions).splitOn 59).headD [] =
      Text.utf8 (String.ofList (digits ++ blanks)) := by
  have hsemicolon : 59 ∉ Text.utf8 (String.ofList (digits ++ blanks)) := by
    intro hmem
    obtain ⟨c, hc, hnat⟩ := Text.mem_of_mem_utf8 hmem (by decide)
    rw [String.toList_ofList, List.mem_append] at hc
    obtain rfl : c = ';' := Char.toNat_inj.1 hnat
    rcases hc with hc | hc
    · exact not_mem_of_spells hspelled rfl hc
    · exact absurd (List.all_eq_true.1 hblanks _ hc) (by decide)
  rcases hextensions with rfl | ⟨tail, rfl⟩
  · rw [List.append_nil, List.splitOn_eq_singleton hsemicolon, List.headD_cons]
  · rw [List.splitOn_append_cons_self_of_not_mem hsemicolon, List.headD_cons]

/-- The size is the number before the extensions, if it is a `usize`. -/
theorem parseChunkSize_spells {digits blanks : List Char} {extensions : List UInt8} {size : ℕ}
    (hspelled : Text.Spells 16 digits size) (hblanks : blanks.all isBlank = true)
    (hextensions : extensions = [] ∨ ∃ tail, extensions = 59 :: tail) :
    parseChunkSize (Text.utf8 (String.ofList (digits ++ blanks)) ++ extensions) =
      if size < usizeBound then .ok size else .error .parseInt := by
  have hfirst := headD_splitOn_size hspelled hblanks hextensions
  have htrim : Text.trimChars (digits ++ blanks) = digits := by
    have hpad := @Text.trimChars_pad [] digits _ rfl (all_isWhitespace_of_isBlank hblanks)
    rw [List.nil_append] at hpad
    rw [hpad, Text.trimChars_of_all (not_isWhitespace_of_spells hspelled)]
  rw [parseChunkSize, hfirst, Text.fromUtf8_utf8]
  simp only [String.toList_ofList, htrim, Text.parseUnsigned_spells hspelled]
  split
  · rename_i hnone
    rw [if_neg fun hlt => by rw [if_pos hlt] at hnone; cases hnone]
  · rename_i n hsome
    rw [Option.ite_none_right_eq_some, Option.some_inj] at hsome
    rw [if_pos hsome.1, hsome.2]

theorem parseChunkSize_of_isSizeLine {line : List UInt8} {size : ℕ} (h : IsSizeLine line size)
    (hsize : size < usizeBound) : parseChunkSize line = .ok size := by
  obtain ⟨-, digits, blanks, extensions, hspelled, hblanks, hextensions, rfl⟩ := h
  rw [parseChunkSize_spells hspelled hblanks hextensions, if_pos hsize]

/-- The trailers are read up to the empty line. -/
theorem readTrailers_of_bytes {trailers : List (List UInt8)}
    (htrailers : ∀ trailer ∈ trailers, trailer ≠ [] ∧ IsBodyLine trailer)
    (h : intake.bytes = (trailers.flatMap fun trailer => trailer ++ crlf) ++ crlf ++ rest) :
    (readTrailers intake).Leaves () rest intake.stream.ending := by
  induction trailers generalizing intake with
  | nil =>
      have hline := readLineCrlf_of_isLine isLine_nil (by decide) h
      obtain ⟨intake', hdone, hbytes, hending⟩ := hline.bind
      rw [readTrailers_eq, hdone]
      exact ⟨intake', rfl, hbytes, hending⟩
  | cons trailer trailers ih =>
      obtain ⟨⟨hne, hbody⟩, hothers⟩ := List.forall_mem_cons.1 htrailers
      rw [List.flatMap_cons, List.append_assoc, List.append_assoc (trailer ++ crlf)] at h
      obtain ⟨intake', hdone, hbytes, hending⟩ :=
        (readLineCrlf_of_isLine hbody.isLine hbody.length_lt h).bind
      have hempty : trailer.isEmpty = false := by
        rwa [← Bool.not_eq_true, List.isEmpty_iff]
      rw [readTrailers_eq, hdone, hempty, ← hending]
      exact ih hothers (by rw [hbytes, List.append_assoc])

/-- Trailers that are cut short are rejected. -/
theorem readTrailers_short {trailers : List (List UInt8)}
    (htrailers : ∀ trailer ∈ trailers, trailer ≠ [] ∧ IsBodyLine trailer)
    (h : CutShort intake.bytes ((trailers.flatMap fun trailer => trailer ++ crlf) ++ crlf))
    (hending : intake.stream.ending ≠ .silent) : (readTrailers intake).Rejects := by
  induction trailers generalizing intake with
  | nil =>
      rw [readTrailers_eq]
      exact (readLineCrlf_cutShort isLine_nil h hending).bind
  | cons trailer trailers ih =>
      obtain ⟨⟨hne, hbody⟩, hothers⟩ := List.forall_mem_cons.1 htrailers
      rw [List.flatMap_cons, List.append_assoc] at h
      obtain hcut | ⟨bytes, hbytes, hcut⟩ := h.append
      · rw [readTrailers_eq]
        exact (readLineCrlf_cutShort hbody.isLine hcut hending).bind
      · obtain ⟨intake', hdone, hbytes', hending'⟩ :=
          (readLineCrlf_of_isLine hbody.isLine hbody.length_lt hbytes).bind
        have hempty : trailer.isEmpty = false := by
          rwa [← Bool.not_eq_true, List.isEmpty_iff]
        rw [readTrailers_eq, hdone, hempty]
        exact ih hothers (hbytes' ▸ hcut) (hending' ▸ hending)

variable {method : Method} {maxBodyBytes : ℕ} {body wire : List UInt8}

/-- **Chunks are joined.** -/
theorem readChunks_of_chunked (hchunked : Chunked body wire) (husize : maxBodyBytes < usizeBound)
    {acc : List UInt8} (hmax : acc.length + body.length ≤ maxBodyBytes)
    (h : intake.bytes = wire ++ rest) :
    (readChunks maxBodyBytes acc intake).Leaves (acc ++ body) rest intake.stream.ending := by
  induction hchunked generalizing acc intake with
  | @last line trailers hline htrailers =>
      rw [List.append_assoc] at h
      obtain ⟨intake₁, hread, hbytes₁, hending₁⟩ :=
        (readLineCrlf_of_isLine hline.1.isLine hline.1.length_lt h).bind
      obtain ⟨intake₂, hdone, hbytes₂, hending₂⟩ := (readTrailers_of_bytes htrailers hbytes₁).bind
      have hsize := parseChunkSize_of_isSizeLine hline (by decide)
      rw [readChunks_eq, hread, hsize]
      simp only [Outcome.ofExcept, Outcome.bind, if_true]
      refine ⟨intake₂, ?_, hbytes₂, hending₂.trans hending₁⟩
      rw [List.append_nil]
      exact hdone
  | @chunk line data body wire hline hdata hbody ih =>
      rw [List.length_append] at hmax
      have hpos := List.length_pos_iff.2 hdata
      have h₀ : intake.bytes = line ++ crlf ++ (data ++ (crlf ++ (wire ++ rest))) := by
        rw [h]
        simp only [List.append_assoc]
      obtain ⟨intake₁, hread, hbytes₁, hending₁⟩ :=
        (readLineCrlf_of_isLine hline.1.isLine hline.1.length_lt h₀).bind
      obtain ⟨intake₂, hensure, hfront, hback, hending₂⟩ := ensureBuffered_of_bytes hbytes₁
      obtain ⟨intake₃, hend, hcrlf, htail, hending₃⟩ := ensureBuffered_of_bytes hback
      have hsize := parseChunkSize_of_isSizeLine hline (by omega)
      rw [show crlf.length = 2 from rfl] at hend hcrlf htail hending₃
      rw [readChunks_eq, hread, hsize]
      simp only [Outcome.ofExcept, Outcome.bind]
      rw [if_neg (by omega), if_neg (by omega), hensure]
      dsimp only
      rw [hend]
      dsimp only
      rw [hcrlf, hfront, if_neg (by simp)]
      have hrest := @ih _ (acc ++ data) (by rw [List.length_append]; omega) htail
      rwa [hending₃, hending₂, hending₁, List.append_assoc] at hrest

/-- Chunks that are cut short are rejected. -/
theorem readChunks_short (hchunked : Chunked body wire) (husize : maxBodyBytes < usizeBound)
    {acc : List UInt8} (hmax : acc.length + body.length ≤ maxBodyBytes)
    (h : CutShort intake.bytes wire) (hending : intake.stream.ending ≠ .silent) :
    (readChunks maxBodyBytes acc intake).Rejects := by
  induction hchunked generalizing acc intake with
  | @last line trailers hline htrailers =>
      obtain hcut | ⟨bytes₁, hbytes, hcut⟩ := h.append
      · rw [readChunks_eq]
        exact (readLineCrlf_cutShort hline.1.isLine hcut hending).bind
      · obtain ⟨intake₁, hread, hbytes₁, hending₁⟩ :=
          (readLineCrlf_of_isLine hline.1.isLine hline.1.length_lt hbytes).bind
        have hsize := parseChunkSize_of_isSizeLine hline (by decide)
        rw [readChunks_eq, hread, hsize]
        simp only [Outcome.ofExcept, Outcome.bind, if_true]
        exact (readTrailers_short htrailers (hbytes₁ ▸ hcut) (hending₁ ▸ hending)).bind
  | @chunk line data body wire hline hdata hbody ih =>
      rw [List.length_append] at hmax
      have hpos := List.length_pos_iff.2 hdata
      rw [readChunks_eq]
      obtain hcut | ⟨bytes₁, hbytes, hcut⟩ := h.append
      · exact (readLineCrlf_cutShort hline.1.isLine hcut hending).bind
      obtain ⟨intake₁, hread, hbytes₁, hending₁⟩ :=
        (readLineCrlf_of_isLine hline.1.isLine hline.1.length_lt hbytes).bind
      have hsize := parseChunkSize_of_isSizeLine hline (by omega)
      rw [hread, hsize]
      simp only [Outcome.ofExcept, Outcome.bind]
      rw [if_neg (by omega), if_neg (by omega)]
      rw [← hbytes₁] at hcut
      rw [← hending₁] at hending
      obtain hcut | ⟨bytes₂, hbytes, hcut⟩ := hcut.append
      · exact (ensureBuffered_short hcut.length_lt hending).bind
      obtain ⟨intake₂, hensure, hfront, hback, hending₂⟩ := ensureBuffered_of_bytes hbytes
      rw [hensure]
      dsimp only
      rw [← hback] at hcut
      rw [← hending₂] at hending
      obtain hcut | ⟨bytes₃, hbytes, hcut⟩ := hcut.append
      · exact (ensureBuffered_short hcut.length_lt hending).bind
      obtain ⟨intake₃, hend, hcrlf, htail, hending₃⟩ := ensureBuffered_of_bytes hbytes
      rw [show crlf.length = 2 from rfl] at hend hcrlf htail hending₃
      rw [hend]
      dsimp only
      rw [hcrlf, hfront, if_neg (by simp)]
      refine ih ?_ (htail ▸ hcut) (hending₃ ▸ hending)
      rw [List.length_append]
      omega

/-! ### The framing fields -/

theorem isAlphanum_of_chunked {value : String}
    (hvalue : Text.eqIgnoreAsciiCase value "chunked" = true) :
    ∀ c ∈ value.toList, c.isAlphanum = true :=
  Text.isAlphanum_of_eqIgnoreAsciiCase (by decide) hvalue

/-- Letters and digits are one item of a list. -/
theorem listItems_of_alphanum {value : String} (h : ∀ c ∈ value.toList, c.isAlphanum = true) :
    listItems [value] = [value.toList] := by
  have hcomma : ',' ∉ value.toList := fun hmem => absurd (h _ hmem) (by decide)
  have htrim : Text.trimChars value.toList = value.toList :=
    Text.trimChars_of_all fun c hc => not_isWhitespace_of_isAlphanum (h c hc)
  rw [listItems, List.flatMap_cons, List.flatMap_nil, List.append_nil,
    List.splitOn_eq_singleton hcomma, List.map_cons, List.map_nil, htrim]

/-- One coding, and it is `chunked`. -/
theorem transferCodings_of_chunked {headers : List (String × String)} {value : String}
    (hcodings : headerValues headers "transfer-encoding" = [value])
    (hvalue : Text.eqIgnoreAsciiCase value "chunked" = true) :
    transferCodings headers = [value.toList] := by
  have hne : value.toList.isEmpty = false := by
    rw [← Bool.not_eq_true, List.isEmpty_iff]
    intro hnil
    obtain rfl := String.toList_eq_nil_iff.1 hnil
    exact absurd hvalue (by decide)
  rw [transferCodings, hcodings, listItems_of_alphanum (isAlphanum_of_chunked hvalue)]
  simp only [List.filter_cons, hne, Bool.not_false, if_true, List.filter_nil]

theorem transferCodings_of_nil {headers : List (String × String)}
    (hcodings : headerValues headers "transfer-encoding" = []) : transferCodings headers = [] := by
  rw [transferCodings, hcodings]
  rfl

theorem parseContentLength_of_nil {headers : List (String × String)}
    (hlength : headerValues headers "content-length" = []) :
    parseContentLength headers = .ok none := by
  rw [parseContentLength, hlength]
  rfl

theorem addContentLength_of_spells {item : List Char} {parsed : Option ℕ} {n : ℕ}
    (h : Text.Spells 10 item n) (hn : n < usizeBound) (hparsed : parsed = none ∨ parsed = some n) :
    addContentLength parsed item = .ok (some n) := by
  have hparse := Text.parseUnsigned_of_spells h hn
  unfold addContentLength
  rcases hparsed with rfl | rfl
  · rw [hparse]
  · simp only [hparse, ne_eq, not_true_eq_false, if_false]

/-- Equal lengths are one length. -/
theorem parseContentLength_of_spells {headers : List (String × String)} {n : ℕ}
    (hne : headerValues headers "content-length" ≠ [])
    (h : ∀ value ∈ headerValues headers "content-length", Text.Spells 10 value.toList n)
    (hn : n < usizeBound) : parseContentLength headers = .ok (some n) := by
  rw [parseContentLength]
  generalize headerValues headers "content-length" = values at hne h
  cases values with
  | nil => exact absurd rfl hne
  | cons value values =>
      obtain ⟨hvalue, hothers⟩ := List.forall_mem_cons.1 h
      have hitems (value : String) (h : Text.Spells 10 value.toList n) :
          listItems [value] = [value.toList] :=
        listItems_of_alphanum fun c hc => isAlphanum_of_spells h hc
      have hcons (value : String) (values : List String) :
          listItems (value :: values) = listItems [value] ++ listItems values := by
        simp only [listItems, List.flatMap_cons, List.flatMap_nil, List.append_nil]
      have hloop : ∀ values : List String, (∀ value ∈ values, Text.Spells 10 value.toList n) →
          (listItems values).foldlM addContentLength (some n) = .ok (some n) := by
        intro values hvalues
        induction values with
        | nil => rfl
        | cons value values ih =>
            obtain ⟨hvalue, hothers⟩ := List.forall_mem_cons.1 hvalues
            rw [hcons, hitems value hvalue, List.singleton_append, List.foldlM_cons,
              addContentLength_of_spells hvalue hn (Or.inr rfl)]
            exact ih hothers
      rw [hcons, hitems value hvalue, List.singleton_append, List.foldlM_cons,
        addContentLength_of_spells hvalue hn (Or.inl rfl)]
      exact hloop values hothers

/-- A length that is no `usize` is not parsed. -/
theorem parseContentLength_of_large {headers : List (String × String)} {n : ℕ}
    (hne : headerValues headers "content-length" ≠ [])
    (h : ∀ value ∈ headerValues headers "content-length", Text.Spells 10 value.toList n)
    (hn : usizeBound ≤ n) : parseContentLength headers = .error .parseInt := by
  rw [parseContentLength]
  generalize headerValues headers "content-length" = values at hne h
  cases values with
  | nil => exact absurd rfl hne
  | cons value values =>
      obtain ⟨hvalue, -⟩ := List.forall_mem_cons.1 h
      have hfirst : listItems (value :: values) = value.toList :: listItems values := by
        have hitems := listItems_of_alphanum fun c hc => isAlphanum_of_spells hvalue hc
        simp only [listItems, List.flatMap_cons, List.flatMap_nil, List.append_nil] at hitems ⊢
        rw [hitems, List.singleton_append]
      have hnone : Text.parseUnsigned 10 usizeBound value.toList = none := by
        rw [Text.parseUnsigned_spells hvalue, if_neg (by omega)]
      have hadd : addContentLength none value.toList = .error .parseInt := by
        unfold addContentLength
        rw [hnone]
      rw [hfirst, List.foldlM_cons, hadd]
      rfl

/-! ### The whole response -/

variable {framing : Framing}

/-- The body behind the final head is decoded. -/
theorem readBody_of_framed (hframed : Framed method head framing body wire)
    (husize : maxBodyBytes < usizeBound) (hmax : body.length ≤ maxBodyBytes)
    (h : intake.bytes = wire ++ rest)
    (hclose : framing = .close → rest = [] ∧ intake.stream.ending = .eof) :
    ∃ intake', readBody method maxBodyBytes head.statusCode head.headers intake =
      .done body intake' := by
  cases hframed with
  | empty hempty =>
      rw [readBody, hempty]
      exact ⟨intake, rfl⟩
  | contentLength hbody hcodings hlength =>
      rw [readBody, hbody, transferCodings_of_nil hcodings,
        parseContentLength_of_spells hlength.1 hlength.2 (by omega)]
      obtain ⟨intake', hdone, -⟩ := readFixedBody_of_bytes h hmax
      exact ⟨intake', hdone⟩
  | @chunked body wire value hbody hcodings hvalue hchunked =>
      have hacc : ([] : List UInt8).length + body.length ≤ maxBodyBytes := by
        rw [List.length_nil]
        omega
      obtain ⟨intake', hdone, -⟩ := readChunks_of_chunked hchunked husize hacc h
      rw [readBody, hbody, transferCodings_of_chunked hcodings hvalue]
      simp only [Bool.false_eq_true, if_false, String.ofList_toList, hvalue, if_true,
        readChunkedBody]
      exact ⟨intake', hdone⟩
  | close hbody hcodings hlength =>
      obtain ⟨rfl, hending⟩ := hclose rfl
      rw [List.append_nil] at h
      rw [readBody, hbody, transferCodings_of_nil hcodings, parseContentLength_of_nil hlength, ← h]
      exact readCloseDelimitedBody_of_eof (h ▸ hmax) hending

/-- A body that is cut short is rejected. -/
theorem readBody_short (hframed : Framed method head framing body wire)
    (husize : maxBodyBytes < usizeBound) (hmax : body.length ≤ maxBodyBytes)
    (hclose : framing ≠ .close) (h : CutShort intake.bytes wire)
    (hending : intake.stream.ending ≠ .silent) :
    (readBody method maxBodyBytes head.statusCode head.headers intake).Rejects := by
  cases hframed with
  | empty hempty => exact absurd h.length_lt (by simp)
  | contentLength hbody hcodings hlength =>
      rw [readBody, hbody, transferCodings_of_nil hcodings,
        parseContentLength_of_spells hlength.1 hlength.2 (by omega)]
      exact readFixedBody_short h.length_lt hending
  | @chunked body wire value hbody hcodings hvalue hchunked =>
      have hacc : ([] : List UInt8).length + body.length ≤ maxBodyBytes := by
        rw [List.length_nil]
        omega
      rw [readBody, hbody, transferCodings_of_chunked hcodings hvalue]
      simp only [Bool.false_eq_true, if_false, String.ofList_toList, hvalue, if_true,
        readChunkedBody]
      exact readChunks_short hchunked husize hacc h hending
  | close => exact absurd rfl hclose

/-- **Responses are decoded exactly.**  For every request method, every sequence
of at most 16 informational responses and a final one, each with a header
section of at most 65,536 bytes, and every body of at most `maxBodyBytes` in any
framing, the function returns the final status, the header list and the body:
however the bytes are cut into reads, and whatever follows a message that tells
its own end.  When the stream ends inside such a message, it returns an error. -/
theorem readHttpResponse_exact (method : Method) {maxBodyBytes : ℕ}
    (husize : maxBodyBytes < usizeBound) {informational : List ResponseHead} {head : ResponseHead}
    {framing : Framing} {body wire : List UInt8}
    (hinformational : ∀ head ∈ informational, head.IsInformational)
    (hcount : informational.length ≤ 16) (hfinal : ¬ head.IsInformational)
    (hsections : ∀ head' ∈ informational ++ [head], head'.bytes.length ≤ 65536)
    (hframed : Framed method head framing body wire) (hmax : body.length ≤ maxBodyBytes) :
    (∀ (stream : ByteStream UInt8) (rest : List UInt8),
      stream.bytes =
        informational.flatMap ResponseHead.bytes ++ (head.bytes ++ (wire ++ rest)) →
      (framing = .close → rest = [] ∧ stream.ending = .eof) →
      ∃ intake, readHttpResponse method maxBodyBytes stream =
        .done { statusCode := head.statusCode, headers := head.headers, body } intake) ∧
    (framing ≠ .close → ∀ stream : ByteStream UInt8,
      CutShort stream.bytes
        (informational.flatMap ResponseHead.bytes ++ (head.bytes ++ wire)) →
      stream.ending ≠ .silent →
      ∃ error, readHttpResponse method maxBodyBytes stream = .failed error) := by
  constructor
  · intro stream rest hbytes hclose
    have hheads := @readHeads_of_bytes head ⟨[], stream⟩ _ informational maxInformationalResponses
      hinformational hcount hfinal hsections hbytes
    obtain ⟨intake, hdone, hleft, hending⟩ := hheads.bind
    rw [readHttpResponse, hdone]
    obtain ⟨intake', hbody⟩ :=
      readBody_of_framed hframed husize hmax hleft fun he => hending ▸ hclose he
    dsimp only
    exact ⟨intake', by rw [hbody]; rfl⟩
  · intro hclose stream hcut hending
    rw [← List.append_assoc] at hcut
    rw [readHttpResponse]
    obtain hcut | ⟨bytes, hbytes, hcut⟩ := hcut.append
    · have hothers : ∀ head' ∈ informational, head'.bytes.length ≤ maxResponseHeaders :=
        fun head' hhead' => hsections head' (List.mem_append_left _ hhead')
      exact (@readHeads_short head ⟨[], stream⟩ informational _ hinformational hothers hcut
        hending).bind
    · rw [List.append_assoc] at hbytes
      have hheads := @readHeads_of_bytes head ⟨[], stream⟩ _ informational
        maxInformationalResponses hinformational hcount hfinal hsections hbytes
      obtain ⟨intake, hdone, hleft, hending'⟩ := hheads.bind
      rw [hdone]
      dsimp only
      exact (readBody_short hframed husize hmax hclose (hleft ▸ hcut) (hending' ▸ hending)).bind

/-- `100 Continue`. -/
def continueHead : ResponseHead where
  statusCode := 100
  code := ['1', '0', '0']
  reason := ['C', 'o', 'n', 't', 'i', 'n', 'u', 'e']
  fields := []
  three := rfl
  spelled := ⟨by decide, [1, 0, 0], by decide, rfl⟩
  plain := by decide

/-- A response in chunked coding. -/
def chunkedHead : ResponseHead where
  statusCode := 200
  code := ['2', '0', '0']
  reason := ['O', 'K']
  fields :=
    [{ name := "Transfer-Encoding"
       before := [' ']
       value := "chunked"
       after := []
       token := by decide +kernel
       blank := by decide
       plain := by decide +kernel
       trimmed := by decide +kernel }]
  three := rfl
  spelled := ⟨by decide, [2, 0, 0], by decide, rfl⟩
  plain := by decide

/-- The two bytes `hi` as a chunk with an extension, and a trailer. -/
def chunkedWire : List UInt8 :=
  Text.utf8 "2;a" ++ crlf ++ (Text.utf8 "hi" ++ (crlf ++
    (Text.utf8 "0" ++ crlf ++ (([Text.utf8 "x: y"].flatMap fun trailer => trailer ++ crlf) ++
      crlf))))

theorem chunked_chunkedWire : Chunked (Text.utf8 "hi" ++ []) chunkedWire := by
  refine .chunk ⟨⟨by decide +kernel, by decide +kernel⟩, ['2'], [], Text.utf8 ";a",
    ⟨by decide, [2], by decide, rfl⟩, rfl, Or.inr ⟨[97], by decide +kernel⟩, by decide +kernel⟩
    (by decide +kernel) (.last ⟨⟨by decide +kernel, by decide +kernel⟩, ['0'], [], [],
      ⟨by decide, [0], by decide, rfl⟩, rfl, Or.inl rfl, by decide +kernel⟩ ?_)
  rw [List.forall_mem_singleton]
  exact ⟨by decide +kernel, by decide +kernel, by decide +kernel⟩

/-- Bytes that arrive one at a time. -/
def ByteStream.oneByOne (bytes : List UInt8) (ending : Ending) : ByteStream UInt8 where
  arrivals := bytes.map fun b => [b]
  ending := ending
  nonempty := by
    intro piece hpiece
    obtain ⟨b, -, rfl⟩ := List.mem_map.1 hpiece
    exact List.cons_ne_nil b []

/-- A chunked response behind a `100 Continue`, a byte at a time: with the next
response behind it on an open connection, and without its last byte. -/
theorem readHttpResponse_exact_chunked :
    (∃ intake, readHttpResponse .GET 1024 (ByteStream.oneByOne
        (continueHead.bytes ++ chunkedHead.bytes ++ chunkedWire ++ Text.utf8 "HTTP/1.1") .silent) =
      .done { statusCode := 200, headers := [("Transfer-Encoding", "chunked")],
              body := Text.utf8 "hi" } intake) ∧
    ∃ error, readHttpResponse .GET 1024 (ByteStream.oneByOne
      (continueHead.bytes ++ chunkedHead.bytes ++ chunkedWire).dropLast .eof) = .failed error := by
  have hcoding : headerValues chunkedHead.headers "transfer-encoding" = ["chunked"] := by
    decide +kernel
  have hsections : ∀ head ∈ [continueHead] ++ [chunkedHead], head.bytes.length ≤ 65536 :=
    List.forall_mem_cons.2 ⟨by decide +kernel, List.forall_mem_singleton.2 (by decide +kernel)⟩
  have h := @readHttpResponse_exact .GET 1024 (by decide) _ _ _ _ _
    (List.forall_mem_singleton.2 (by decide : continueHead.IsInformational)) (by decide)
    (by decide) hsections
    (.chunked (by decide +kernel) hcoding (by decide +kernel) chunked_chunkedWire)
    (by decide +kernel)
  exact ⟨h.1 _ (Text.utf8 "HTTP/1.1") (by decide +kernel) (by simp),
    h.2 (by simp) _ ⟨List.isPrefixOf_iff_prefix.1 (by decide +kernel), by decide +kernel⟩
      (by decide)⟩

end Rgrok
