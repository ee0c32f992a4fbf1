/-
# Two readings of a response head

The server reads a response with `read_http_response`; the client keeps a copy of
its bytes, and reads the head in it with `parse_response_status` and
`parse_response_headers`.  The client ends a line at every line feed and a name
at the first `": "`, does not trim, and takes the first head for the response.
So both read the same just when the final head comes first, its status stands
before any line feed, and its fields, but for the secret ones, are written as
`name: value` (`inspected_head_iff`).
-/

import Rgrok.Client.CaptureBodies
import Rgrok.Server.FramingNumbers

namespace Rgrok

/-! ### Heads that are read alike -/

/-- A field as `name: value`. -/
def fieldText (field : List Char × List Char) : List Char :=
  field.1 ++ [':', ' '] ++ Text.trimChars field.2

/-- The fields of a head that are no secrets, each as `name: value`. -/
def plainFields (text : String) : List (List Char) :=
  ((rawFields (Text.splitCrlf text.toList).tail).filter fun field =>
    !isSensitiveHeader (String.ofList field.1)).map fieldText

/-- A name that is no secret stands in front of a `": "`. -/
def showsField (piece : List Char) : Bool :=
  (Text.splitOnceAt [':', ' '] piece).any fun field => !isSensitiveHeader (String.ofList field.1)

/-- What of a head is taken for a field that is no secret, when it is cut at the
line feeds and ends with the first empty piece. -/
def shownPieces (text : String) : List (List Char) :=
  ((Text.lines text.toList).tail.takeWhile fun piece => !piece.isEmpty).filter showsField

/-- The final head comes first, its status code stands before any line feed, and
the pieces that are taken for fields are its fields, as `name: value`. -/
def HeadReadAlike (bytes : List UInt8) : Prop :=
  ∃ text rest, headTextOf bytes = some (text, rest) ∧
    finalHeadText maxInformationalResponses bytes = some (text, rest) ∧
    2 ≤ (Text.splitWhitespace ((Text.lines text.toList).headD [])).length ∧
    shownPieces text = plainFields text

/-! ### The fields -/

/-- The field in a line: the trimmed name, and what is behind the colon. -/
def lineField (line : List Char) : List Char × List Char :=
  ((Text.breakOn ':' line).map fun (name, value) => (Text.trimChars name, value)).getD ([], [])

theorem lineField_eq {line name value : List Char} (h : Text.breakOn ':' line = some (name, value)) :
    lineField line = (Text.trimChars name, value) := by
  rw [lineField, h]
  rfl

theorem rawFields_eq_map {lines : List (List Char)} {headers : List (String × String)}
    (h : parseHeaderLines lines = .ok headers) :
    rawFields lines = (lines.takeWhile fun line => !line.isEmpty).map lineField := by
  induction lines generalizing headers with
  | nil => rfl
  | cons line lines ih =>
      rw [parseHeaderLines] at h
      rw [rawFields]
      cases hempty : line.isEmpty with
      | true =>
          rw [List.takeWhile_cons_of_neg (by rw [hempty]; decide), if_pos rfl, List.map_nil]
      | false =>
          rw [hempty, if_neg Bool.false_ne_true] at h
          rw [List.takeWhile_cons_of_pos (by rw [hempty]; rfl), if_neg Bool.false_ne_true]
          cases hbreak : Text.breakOn ':' line with
          | none =>
              rw [hbreak] at h
              cases h
          | some field =>
              rw [hbreak] at h
              dsimp only at h ⊢
              split at h
              · cases h
              · cases hlines : parseHeaderLines lines with
                | error error =>
                    rw [hlines] at h
                    cases h
                | ok headers' => rw [ih hlines, List.map_cons, lineField_eq hbreak]

/-- The name of a line is trimmed, and has no colon. -/
theorem lineField_name (line : List Char) :
    ':' ∉ (lineField line).1 ∧ Text.trimChars (lineField line).1 = (lineField line).1 := by
  cases hbreak : Text.breakOn ':' line with
  | none =>
      rw [lineField, hbreak]
      exact ⟨List.not_mem_nil, rfl⟩
  | some field =>
      obtain ⟨name, value⟩ := field
      rw [lineField_eq hbreak]
      refine ⟨fun hmem => ?_, Text.trimChars_trimChars name⟩
      obtain ⟨before, after, hname, -, -⟩ := Text.exists_trimChars name
      refine (Text.breakOn_eq_some.1 hbreak).2 ?_
      rw [hname]
      exact List.mem_append_left _ (List.mem_append_right _ hmem)

/-- A field is separated where it was put together. -/
theorem splitOnceAt_fieldText {field : List Char × List Char} (h : ':' ∉ field.1) :
    Text.splitOnceAt [':', ' '] (fieldText field) = some (field.1, Text.trimChars field.2) :=
  Text.splitOnceAt_of_not_mem h [' '] _

/-- The field that a piece is taken for. -/
def pieceField (piece : List Char) : Option (String × String) :=
  (Text.splitOnceAt [':', ' '] piece).map fun (key, value) =>
    (String.ofList key, String.ofList value)

/-- A piece is put together again. -/
theorem eq_of_pieceField {piece : List Char} {field : String × String}
    (h : pieceField piece = some field) :
    piece = field.1.toList ++ [':', ' '] ++ field.2.toList := by
  obtain ⟨⟨key, value⟩, hsplit, rfl⟩ := Option.map_eq_some_iff.1 h
  rw [String.toList_ofList, String.toList_ofList]
  exact Text.splitOnceAt_eq_some hsplit

theorem unparse_pieces {pieces : List (List Char)} (h : ∀ piece ∈ pieces, showsField piece = true) :
    (pieces.filterMap pieceField).map (fun field => field.1.toList ++ [':', ' '] ++ field.2.toList) =
      pieces := by
  induction pieces with
  | nil => rfl
  | cons piece pieces ih =>
      obtain ⟨hpiece, hpieces⟩ := List.forall_mem_cons.1 h
      obtain ⟨parts, hsplit, -⟩ := (Option.any_eq_true _ _).1 hpiece
      have hfield : pieceField piece = some (String.ofList parts.1, String.ofList parts.2) := by
        rw [pieceField, hsplit, Option.map_some]
      rw [List.filterMap_cons_some hfield, List.map_cons, ← eq_of_pieceField hfield, ih hpieces]

/-- What the client keeps of some lines. -/
theorem sanitizeHeaders_captureFields (lines : List (List Char)) :
    sanitizeHeaders (captureFields lines) =
      ((lines.takeWhile fun piece => !piece.isEmpty).filter showsField).filterMap pieceField := by
  induction lines with
  | nil => rfl
  | cons line lines ih =>
      rw [captureFields]
      cases hempty : line.isEmpty with
      | true =>
          rw [if_pos rfl, List.takeWhile_cons_of_neg (by rw [hempty]; decide)]
          rfl
      | false =>
          rw [if_neg Bool.false_ne_true, List.takeWhile_cons_of_pos (by rw [hempty]; rfl)]
          cases hsplit : Text.splitOnceAt [':', ' '] line with
          | none =>
              rw [List.filter_cons_of_neg (by rw [showsField, hsplit]; decide)]
              exact ih
          | some field =>
              dsimp only
              rw [sanitizeHeaders, List.filter_cons]
              cases hsecret : isSensitiveHeader (String.ofList field.1) with
              | true =>
                  rw [List.filter_cons_of_neg (by simp [showsField, hsplit, hsecret])]
                  exact ih
              | false =>
                  rw [List.filter_cons_of_pos (by simp [showsField, hsplit, hsecret]),
                    List.filterMap_cons_some (b := (String.ofList field.1, String.ofList field.2))
                      (by rw [pieceField, hsplit]; rfl), ← ih]
                  rfl

/-- **The fields are read alike** just when the pieces are the fields. -/
theorem fields_eq_iff {text : String} {headers : List (String × String)}
    (h : parseHeaderLines (Text.splitCrlf text.toList).tail = .ok headers) :
    sanitizeHeaders (captureFields (Text.lines text.toList).tail) = sanitizeHeaders headers ↔
      shownPieces text = plainFields text := by
  have hheaders : sanitizeHeaders headers =
      ((rawFields (Text.splitCrlf text.toList).tail).filter fun field =>
        !isSensitiveHeader (String.ofList field.1)).map fun field =>
          (String.ofList field.1, String.ofList (Text.trimChars field.2)) := by
    rw [parseHeaderLines_eq_ok h, sanitizeHeaders, List.filter_map, Function.comp_def]
  rw [hheaders, sanitizeHeaders_captureFields, shownPieces, plainFields]
  generalize hkept : ((rawFields (Text.splitCrlf text.toList).tail).filter fun field =>
    !isSensitiveHeader (String.ofList field.1)) = kept
  constructor
  · intro heq
    rw [← unparse_pieces fun piece hpiece => (List.mem_filter.1 hpiece).2, heq, List.map_map]
    refine List.map_congr_left fun field _ => ?_
    rw [Function.comp_apply, String.toList_ofList, String.toList_ofList, fieldText]
  · intro heq
    rw [heq, List.filterMap_map]
    refine List.filterMap_eq_map_iff_forall_eq_some.2 fun field hfield => ?_
    rw [← hkept, rawFields_eq_map h] at hfield
    obtain ⟨line, -, rfl⟩ := List.mem_map.1 (List.mem_filter.1 hfield).1
    rw [Function.comp_apply, pieceField, splitOnceAt_fieldText (lineField_name line).1]
    rfl

/-! ### The text of a head -/

/-- A head ends with the first empty line. -/
theorem headTextOf_eq_some {bytes rest : List UInt8} {text : String}
    (h : headTextOf bytes = some (text, rest)) : bytes = Text.utf8 text ++ rest ∧
      ∃ front, text.toList = front ++ ['\r', '\n', '\r', '\n'] := by
  rw [headTextOf] at h
  split at h
  · cases h
  · rename_i n hpos
    obtain ⟨text', htext, heq⟩ := Option.map_eq_some_iff.1 h
    obtain ⟨rfl, rfl⟩ := Prod.mk.inj heq
    have hutf8 := Text.utf8_of_fromUtf8 htext
    refine ⟨by rw [hutf8, List.take_append_drop], ?_⟩
    obtain ⟨before, after, rfl, rfl⟩ := position_spec hpos
    have hlen : before.length + 4 = (before ++ crlfCrlf).length := by
      rw [List.length_append]
      rfl
    rw [hlen, List.take_left, Text.utf8_eq_flatMap] at hutf8
    obtain ⟨front, t, hfront, -, ht⟩ := Text.split_of_utf8 (c := '\r') rfl (by decide) hutf8
    obtain ⟨t₁, rfl, ht₁⟩ := Text.cons_of_utf8 (c := '\n') rfl (by decide) ht
    obtain ⟨t₂, rfl, ht₂⟩ := Text.cons_of_utf8 (c := '\r') rfl (by decide) ht₁
    obtain ⟨t₃, rfl, ht₃⟩ := Text.cons_of_utf8 (c := '\n') rfl (by decide) ht₂
    cases t₃ with
    | nil => exact ⟨front, hfront⟩
    | cons c t₃ =>
        rw [List.flatMap_cons, List.append_eq_nil_iff] at ht₃
        exact absurd ht₃.1 String.utf8EncodeChar_ne_nil

section HeadText

variable {text : String} {front : List Char}

/-- The lines of a head: that of the status, and others up to an empty one. -/
theorem splitCrlf_head (h : text.toList = front ++ ['\r', '\n', '\r', '\n']) :
    Text.splitCrlf text.toList = Text.splitCrlf front ++ [[], []] := by
  rw [h]
  exact Text.splitCrlf_append front ['\r', '\n']

theorem lines_head (h : text.toList = front ++ ['\r', '\n', '\r', '\n']) (s : List Char) :
    ∃ first pieces, Text.lines text.toList = first :: pieces ++ [[]] ∧
      Text.lines (text.toList ++ s) = Text.lines text.toList ++ Text.lines s := by
  have hend (s : List Char) : Text.lines (text.toList ++ s) =
      Text.lines (front ++ ['\r', '\n']) ++ [] :: Text.lines s := by
    have hsplit : text.toList ++ s = (front ++ ['\r']) ++ '\n' :: ('\r' :: '\n' :: s) := by
      rw [h]
      simp only [List.append_assoc, List.cons_append, List.nil_append]
    have hempty : Text.lines ('\r' :: '\n' :: s) = [] :: Text.lines s :=
      @Text.lines_cons ['\r'] s (by decide)
    rw [hsplit, Text.lines, Text.linesFrom_append, hempty, List.append_assoc]
    rfl
  have hnil := hend []
  rw [List.append_nil] at hnil
  have hne : Text.lines (front ++ ['\r', '\n']) ≠ [] :=
    Text.linesFrom_ne_nil (Or.inr (by simp))
  obtain ⟨first, pieces, hpieces⟩ := List.exists_cons_of_ne_nil hne
  refine ⟨first, pieces, ?_, ?_⟩
  · rw [hnil, hpieces]
    rfl
  · rw [hend, hnil, List.append_assoc]
    rfl

/-- The first piece begins the status line, and no word is cut. -/
theorem splitWhitespace_statusLine {statusLine : List Char} {others : List (List Char)}
    (h : text.toList = front ++ ['\r', '\n', '\r', '\n'])
    (hlines : Text.splitCrlf text.toList = statusLine :: others) :
    ∃ more, Text.splitWhitespace statusLine =
      Text.splitWhitespace ((Text.lines text.toList).headD []) ++ more := by
  -- what stands behind the status line
  obtain ⟨after, hafter⟩ : ∃ after, text.toList = statusLine ++ '\r' :: '\n' :: after := by
    have hfront := splitCrlf_head h
    rw [hlines] at hfront
    cases hsplit : Text.splitCrlf front with
    | nil => exact absurd hsplit (Text.splitCrlf_ne_nil front)
    | cons line lines =>
        rw [hsplit] at hfront
        obtain ⟨rfl, -⟩ := List.cons.inj hfront
        have hflat := Text.flatMap_splitCrlf front
        rw [hsplit, List.flatMap_cons] at hflat
        refine ⟨(lines.flatMap fun line => line ++ ['\r', '\n']) ++ ['\r', '\n'], ?_⟩
        have htext : text.toList = (front ++ ['\r', '\n']) ++ ['\r', '\n'] := by
          rw [h, List.append_assoc]
          rfl
        rw [htext, ← hflat]
        simp only [List.append_assoc, List.cons_append, List.nil_append]
  have hnot : ¬ ['\r', '\n'] <:+: statusLine :=
    Text.not_infix_of_mem_splitCrlf (hlines ▸ List.mem_cons_self)
  by_cases hfeed : '\n' ∈ statusLine
  · obtain ⟨piece, tail, rfl, hpiece⟩ := List.eq_append_cons_of_mem hfeed
    have hfirst : (Text.lines text.toList).headD [] = piece := by
      rw [hafter, List.append_assoc, List.cons_append, Text.lines_cons hpiece, List.headD_cons,
        Text.stripCr, if_neg]
      intro hlast
      obtain ⟨piece', rfl⟩ := List.getLast?_eq_some_iff.1 hlast
      exact hnot ⟨piece', tail, by simp only [List.append_assoc, List.cons_append, List.nil_append]⟩
    rw [hfirst, Text.splitWhitespace_append rfl]
    exact ⟨_, rfl⟩
  · have hfirst : (Text.lines text.toList).headD [] = statusLine := by
      have hend : text.toList = (statusLine ++ ['\r']) ++ '\n' :: after := by
        rw [hafter, List.append_assoc]
        rfl
      have hfeed' : '\n' ∉ statusLine ++ ['\r'] := by
        rw [List.mem_append, not_or]
        exact ⟨hfeed, by decide⟩
      rw [hend, Text.lines_cons hfeed', List.headD_cons, Text.stripCr_concat]
    rw [hfirst]
    exact ⟨[], (List.append_nil _).symm⟩

end HeadText

/-! ### The copy of the client -/

/-- The status code is the second word of the status line. -/
theorem parseStatusLine_eq_ok {statusLine : List Char} {statusCode : ℕ}
    (h : parseStatusLine statusLine = .ok statusCode) :
    ∃ version code others, Text.splitWhitespace statusLine = version :: code :: others ∧
      Text.parseUnsigned 10 65536 code = some statusCode := by
  unfold parseStatusLine at h
  dsimp only at h
  split at h
  · cases h
  · cases hwords : Text.splitWhitespace statusLine with
    | nil =>
        rw [hwords] at h
        cases h
    | cons version words =>
        rw [hwords] at h
        cases words with
        | nil => cases h
        | cons code others =>
            dsimp only [List.tail_cons, List.head?_cons] at h
            cases hcode : Text.parseUnsigned 10 65536 code with
            | none =>
                rw [hcode] at h
                cases h
            | some statusCode' =>
                rw [hcode] at h
                obtain rfl := Except.ok.inj h
                exact ⟨version, code, others, rfl, hcode⟩

theorem parseResponseHeaders_eq_ok {text : String} {statusCode : ℕ}
    {headers : List (String × String)}
    (h : parseResponseHeaders text = .ok (statusCode, headers)) :
    ∃ statusLine lines, Text.splitCrlf text.toList = statusLine :: lines ∧
      parseStatusLine statusLine = .ok statusCode ∧ parseHeaderLines lines = .ok headers := by
  rw [parseResponseHeaders] at h
  split at h
  · cases h
  · rename_i statusLine lines hlines
    split at h
    · cases h
    · rename_i statusCode' hstatus
      cases hfields : parseHeaderLines lines with
      | error error =>
          rw [hfields] at h
          cases h
      | ok headers' =>
          rw [hfields] at h
          obtain ⟨rfl, rfl⟩ := Prod.mk.inj (Except.ok.inj h)
          exact ⟨statusLine, lines, hlines, hstatus, hfields⟩

section Copy

variable {bytes rest : List UInt8} {text : String} {statusCode limit : ℕ}
  {headers : List (String × String)}

/-- The lines of a copy that has the whole head. -/
theorem lines_copy (h : headTextOf bytes = some (text, rest))
    (hfits : (Text.utf8 text).length ≤ limit) :
    ∃ first pieces others, Text.lines text.toList = first :: pieces ++ [[]] ∧
      Text.lines (Text.fromUtf8Lossy (bytes.take limit)) = first :: pieces ++ [[]] ++ others := by
  obtain ⟨rfl, front, hfront⟩ := headTextOf_eq_some h
  obtain ⟨first, pieces, hlines, happend⟩ :=
    lines_head hfront (Text.fromUtf8Lossy (rest.take (limit - (Text.utf8 text).length)))
  refine ⟨first, pieces,
    Text.lines (Text.fromUtf8Lossy (rest.take (limit - (Text.utf8 text).length))), hlines, ?_⟩
  rw [List.take_append, List.take_of_length_le hfits, Text.fromUtf8Lossy_utf8_append, happend, hlines]

/-- **The fields of the copy** are those of the first head. -/
theorem parseCapturedHeaders_copy (h : headTextOf bytes = some (text, rest))
    (hfits : (Text.utf8 text).length ≤ limit) :
    parseCapturedHeaders (bytes.take limit) =
      sanitizeHeaders (captureFields (Text.lines text.toList).tail) := by
  obtain ⟨first, pieces, others, hlines, hcopy⟩ := lines_copy h hfits
  rw [parseCapturedHeaders, hcopy, hlines, List.cons_append, List.cons_append, List.tail_cons,
    List.tail_cons, captureFields_append, if_pos (List.mem_append_right _ List.mem_cons_self)]

/-- **The status of the copy** is that of the first head, if it stands before any
line feed. -/
theorem parseResponseStatus_copy (h : headTextOf bytes = some (text, rest))
    (hfits : (Text.utf8 text).length ≤ limit)
    (hparse : parseResponseHeaders text = .ok (statusCode, headers)) :
    (parseResponseStatus (bytes.take limit)).map UInt16.toNat =
      if 2 ≤ (Text.splitWhitespace ((Text.lines text.toList).headD [])).length then some statusCode
      else none := by
  obtain ⟨first, pieces, others, hlines, hcopy⟩ := lines_copy h hfits
  obtain ⟨-, front, hfront⟩ := headTextOf_eq_some h
  obtain ⟨statusLine, fields, hsplit, hstatus, -⟩ := parseResponseHeaders_eq_ok hparse
  obtain ⟨more, hmore⟩ := splitWhitespace_statusLine hfront hsplit
  obtain ⟨version, code, words, hwords, hcode⟩ := parseStatusLine_eq_ok hstatus
  rw [hwords] at hmore
  rw [hlines, List.cons_append, List.headD_cons] at hmore ⊢
  rw [parseResponseStatus, hcopy, List.cons_append, List.cons_append]
  dsimp only
  cases hfirst : Text.splitWhitespace first with
  | nil => rfl
  | cons version' words' =>
      rw [hfirst] at hmore
      cases words' with
      | nil => rfl
      | cons code' words' =>
          obtain ⟨-, htail⟩ := List.cons.inj hmore
          obtain ⟨rfl, -⟩ := List.cons.inj htail
          dsimp only
          have hlt := Text.parseUnsigned_lt hcode
          rw [if_pos (by simp), hcode, Option.map_some, Option.map_some, UInt16.toNat_ofNat',
            Nat.mod_eq_of_lt hlt]

end Copy

/-! ### The first head and the final one -/

theorem length_rest_headTextOf {bytes rest : List UInt8} {text : String}
    (h : headTextOf bytes = some (text, rest)) : rest.length < bytes.length := by
  obtain ⟨rfl, front, hfront⟩ := headTextOf_eq_some h
  have hne : Text.utf8 text ≠ [] := by
    rw [← @String.ofList_toList text]
    exact utf8_ne_nil (by rw [hfront]; simp)
  have hpos := List.length_pos_iff.2 hne
  rw [List.length_append]
  omega

theorem length_rest_finalHeadText {room : ℕ} {bytes rest : List UInt8} {text : String}
    (h : finalHeadText room bytes = some (text, rest)) : rest.length < bytes.length := by
  rw [finalHeadText.eq_def] at h
  obtain ⟨⟨first, behind⟩, hfirst, hnext⟩ := Option.bind_eq_some_iff.1 h
  have hshort := length_rest_headTextOf hfirst
  dsimp only at hnext
  split at hnext
  · cases hnext
  · split at hnext
    · cases room with
      | zero => cases hnext
      | succ room => exact Nat.lt_trans (length_rest_finalHeadText hnext) hshort
    · obtain ⟨-, rfl⟩ := Prod.mk.inj (Option.some.inj hnext)
      exact hshort

/-- The status of the final head is final. -/
theorem final_of_readHeads {intake intake' : Intake UInt8} {room : ℕ}
    {head : ℕ × List (String × String)} (h : readHeads room intake = .done head intake') :
    ¬ (100 ≤ head.1 ∧ head.1 < 200 ∧ head.1 ≠ 101) := by
  obtain ⟨first, intake₁, -, ⟨room', rfl, -, hnext⟩ | ⟨hfinal, rfl, -⟩⟩ := readHeads_cases h
  · exact final_of_readHeads hnext
  · exact hfinal

/-- **The first head** of a response: the final one, or an informational one with
another status. -/
theorem firstHead_cases {intake intake' : Intake UInt8} {room : ℕ}
    {head : ℕ × List (String × String)} (h : readHeads room intake = .done head intake') :
    ∃ text rest first, headTextOf intake.bytes = some (text, rest) ∧
      (Text.utf8 text).length ≤ maxResponseHeaders ∧ parseResponseHeaders text = .ok first ∧
      ((first.1 ≠ head.1 ∧ finalHeadText room intake.bytes ≠ some (text, rest)) ∨
        (first = head ∧ finalHeadText room intake.bytes = some (text, rest))) := by
  obtain ⟨first, intake₁, hone, hcases⟩ := readHeads_cases h
  obtain ⟨text, htext, hparse⟩ := headTextOf_of_readOneHead hone
  have hlen : (Text.utf8 text).length ≤ maxResponseHeaders := by
    obtain ⟨n, intake₂, hsection, -⟩ := Outcome.bind_eq_done.1 hone
    obtain ⟨m, hpos, rfl, -⟩ := readHeaderSection_done hsection
    have hle := readHeaderSection_le hsection
    rw [headTextOf, hpos] at htext
    obtain ⟨text', hutf8, heq⟩ := Option.map_eq_some_iff.1 htext
    obtain ⟨rfl, -⟩ := Prod.mk.inj heq
    rw [Text.utf8_of_fromUtf8 hutf8, List.length_take]
    omega
  refine ⟨text, intake₁.bytes, first, htext, hlen, hparse, ?_⟩
  rw [finalHeadText.eq_def, htext, Option.bind_some]
  dsimp only
  rw [hparse]
  dsimp only
  rcases hcases with ⟨room', rfl, hinformational, hnext⟩ | ⟨hnot, rfl, -⟩
  · refine Or.inl ⟨fun he => final_of_readHeads hnext (he ▸ hinformational), ?_⟩
    rw [if_pos hinformational]
    exact fun he => absurd (length_rest_finalHeadText he) (Nat.lt_irrefl _)
  · rw [if_neg hnot]
    exact Or.inr ⟨rfl, rfl⟩

/-- What the copy of a response gives, and what the server read. -/
theorem readings_eq_iff {intake intake' : Intake UInt8} {statusCode limit : ℕ}
    {headers : List (String × String)} (hlimit : maxResponseHeaders ≤ limit)
    (h : readHeads maxInformationalResponses intake = .done (statusCode, headers) intake') :
    ((parseResponseStatus (intake.bytes.take limit)).map UInt16.toNat = some statusCode ∧
        parseCapturedHeaders (intake.bytes.take limit) = sanitizeHeaders headers) ↔
      HeadReadAlike intake.bytes := by
  obtain ⟨text, rest, ⟨first, fields⟩, htext, hlen, hparse, hcases⟩ := firstHead_cases h
  have hfits := Nat.le_trans hlen hlimit
  rw [parseResponseStatus_copy htext hfits hparse, parseCapturedHeaders_copy htext hfits]
  constructor
  · rintro ⟨hstatus, hfields⟩
    rw [Option.ite_none_right_eq_some] at hstatus
    obtain ⟨hword, hsame⟩ := hstatus
    rcases hcases with ⟨hother, -⟩ | ⟨heq, hfinal⟩
    · exact absurd (Option.some.inj hsame) hother
    · obtain ⟨rfl, rfl⟩ := Prod.mk.inj heq
      obtain ⟨statusLine, lines, hsplit, -, hlines⟩ := parseResponseHeaders_eq_ok hparse
      refine ⟨text, rest, htext, hfinal, hword, (fields_eq_iff ?_).1 hfields⟩
      rw [hsplit]
      exact hlines
  · rintro ⟨text', rest', htext', hfinal, hword, hpieces⟩
    obtain ⟨rfl, rfl⟩ := Prod.mk.inj (Option.some.inj (htext.symm.trans htext'))
    rcases hcases with ⟨-, hother⟩ | ⟨heq, -⟩
    · exact absurd hfinal hother
    · obtain ⟨rfl, rfl⟩ := Prod.mk.inj heq
      obtain ⟨statusLine, lines, hsplit, -, hlines⟩ := parseResponseHeaders_eq_ok hparse
      refine ⟨if_pos hword, (fields_eq_iff ?_).2 hpieces⟩
      rw [hsplit]
      exact hlines

/-! ### Heads without bare line feeds -/

/-- The lines of the fields of a head. -/
def fieldLines (text : String) : List (List Char) :=
  (Text.splitCrlf text.toList).tail.takeWhile fun line => !line.isEmpty

def isPlainLine (line : List Char) : Bool :=
  !isSensitiveHeader (String.ofList (lineField line).1)

/-- A line of a field that is no secret is `name: value`, and any other is not
taken for such a field. -/
def LineReadAlike (line : List Char) : Prop :=
  if isPlainLine line = true then line = fieldText (lineField line) else showsField line = false

/-- The pieces that are kept are the fields that are kept, each written anew, just
when every line is kept as it is or not at all. -/
theorem filter_eq_map_filter_iff {α : Type} {shown plain : α → Bool} {write : α → α} {lines : List α}
    (hplain : ∀ piece line, shown piece = true → piece = write line → plain piece = true)
    (hshown : ∀ line ∈ lines, plain line = true → line = write line → shown line = true) :
    lines.filter shown = (lines.filter plain).map write ↔
      ∀ line ∈ lines, if plain line = true then line = write line else shown line = false := by
  constructor
  · intro heq
    have hsame : lines.filter shown = lines.filter plain := by
      have hall : (lines.filter shown).filter plain = lines.filter shown := by
        refine List.filter_eq_self.2 fun piece hpiece => ?_
        have hkept := hpiece
        rw [heq] at hpiece
        obtain ⟨line, -, rfl⟩ := List.mem_map.1 hpiece
        exact hplain _ line (List.mem_filter.1 hkept).2 rfl
      have hsub : (lines.filter shown).Sublist (lines.filter plain) := by
        rw [← hall, List.filter_comm]
        exact List.filter_sublist
      refine hsub.eq_of_length ?_
      rw [heq, List.length_map]
    intro line hline
    split
    · rename_i hkept
      have hmap : (lines.filter plain).map write = (lines.filter plain).map id := by
        rw [← heq, hsame, List.map_id]
      exact (List.map_inj_left.1 hmap line (List.mem_filter.2 ⟨hline, hkept⟩)).symm
    · rename_i hsecret
      by_contra hshow
      rw [Bool.not_eq_false] at hshow
      have hmem := List.mem_filter.2 ⟨hline, hshow⟩
      rw [hsame] at hmem
      exact hsecret (List.mem_filter.1 hmem).2
  · intro hlines
    have hiff : lines.filter shown = lines.filter plain := by
      refine List.filter_congr fun line hline => ?_
      have hone := hlines line hline
      split at hone
      · rename_i hkept
        rw [hshown line hline hkept hone, hkept]
      · rename_i hsecret
        rw [hone, Bool.eq_false_iff.2 hsecret]
    rw [hiff]
    refine (List.map_id _).symm.trans (List.map_congr_left fun line hline => ?_)
    obtain ⟨hmem, hkept⟩ := List.mem_filter.1 hline
    have hone := hlines line hmem
    rw [if_pos hkept] at hone
    exact hone

/-- A field that was written anew has the same name. -/
theorem showsField_fieldText (line : List Char) :
    showsField (fieldText (lineField line)) = isPlainLine line ∧
      isPlainLine (fieldText (lineField line)) = isPlainLine line := by
  obtain ⟨hcolon, htrim⟩ := lineField_name line
  have hbreak : Text.breakOn ':' (fieldText (lineField line)) =
      some ((lineField line).1, ' ' :: Text.trimChars (lineField line).2) := by
    rw [Text.breakOn_eq_some, fieldText, List.append_assoc]
    exact ⟨rfl, hcolon⟩
  constructor
  · rw [showsField, splitOnceAt_fieldText hcolon, Option.any_some, isPlainLine]
  · rw [isPlainLine, lineField_eq hbreak, htrim, isPlainLine]

/-- **A head without bare line feeds** is read alike just when each of its lines is. -/
theorem shownPieces_eq_iff {bytes rest : List UInt8} {text : String} {statusCode : ℕ}
    {headers : List (String × String)} (h : headTextOf bytes = some (text, rest))
    (hparse : parseResponseHeaders text = .ok (statusCode, headers))
    (hfeed : ∀ line ∈ Text.splitCrlf text.toList, '\n' ∉ line) :
    shownPieces text = plainFields text ↔ ∀ line ∈ fieldLines text, LineReadAlike line := by
  obtain ⟨-, front, hfront⟩ := headTextOf_eq_some h
  obtain ⟨statusLine, lines, hsplit, -, hlines⟩ := parseResponseHeaders_eq_ok hparse
  have hraw := rawFields_eq_map hlines
  have hhead := splitCrlf_head hfront
  -- the pieces are the lines
  have hpieces : (Text.lines text.toList).tail.takeWhile (fun piece => !piece.isEmpty) =
      fieldLines text := by
    have htext : text.toList =
        (Text.splitCrlf front ++ [[]]).flatMap fun line => line ++ ['\r', '\n'] := by
      rw [List.flatMap_append, Text.flatMap_splitCrlf, hfront, List.append_assoc]
      rfl
    have hnone : ∀ line ∈ Text.splitCrlf front ++ [[]], '\n' ∉ line := by
      intro line hline
      refine hfeed line ?_
      rw [hhead]
      rcases List.mem_append.1 hline with hline | hline
      · exact List.mem_append_left _ hline
      · exact List.mem_append_right _ (List.mem_cons.2 (Or.inl (List.mem_singleton.1 hline)))
    obtain ⟨first, others, hfirst⟩ := List.exists_cons_of_ne_nil (Text.splitCrlf_ne_nil front)
    rw [fieldLines, hhead]
    conv_lhs => rw [htext, Text.lines_flatMap hnone]
    rw [hfirst, List.cons_append, List.cons_append, List.tail_cons, List.tail_cons,
      List.takeWhile_append, List.takeWhile_append]
    split <;> rfl
  have hfields : fieldLines text = lines.takeWhile fun line => !line.isEmpty := by
    rw [fieldLines, hsplit, List.tail_cons]
  have hplain : plainFields text = ((fieldLines text).filter isPlainLine).map fun line =>
      fieldText (lineField line) := by
    have hkept : isPlainLine = fun line =>
        !isSensitiveHeader (String.ofList (lineField line).1) := funext fun line => by
      rw [isPlainLine]
    rw [plainFields, hsplit, List.tail_cons, hraw, hfields, List.filter_map, List.map_map, hkept,
      Function.comp_def, Function.comp_def]
  rw [shownPieces, hpieces, hplain]
  refine filter_eq_map_filter_iff ?_ ?_
  · rintro piece line hshown rfl
    rw [(showsField_fieldText line).2, ← (showsField_fieldText line).1]
    exact hshown
  · intro line _ hkept heq
    rw [heq, (showsField_fieldText line).1]
    exact hkept

/-! ### The bridge -/

namespace Bridge

variable {maxBodyBytes : UInt64} {bridge : Bridge} {stamp : CaptureStamp}
  {capture : CapturedRequest}

/-- The head of the response in a capture. -/
theorem capture_head (h : bridge.capture stamp maxBodyBytes = some capture)
    (hne : bridge.response.capture.bytes ≠ []) :
    capture.respStatus = parseResponseStatus bridge.response.capture.bytes ∧
      capture.respHeaders = some (parseCapturedHeaders bridge.response.capture.bytes) := by
  obtain ⟨parsed, -, rfl⟩ := Option.map_eq_some_iff.1 h
  rw [CapturedRequest.answered, if_neg (by rw [List.isEmpty_iff]; exact hne)]
  exact ⟨rfl, rfl⟩

/-- A space behind the colon. -/
def spacedAnswer : ByteStream UInt8 :=
  ⟨[Text.utf8 "HTTP/1.1 200 OK\r\nX-Id: 1\r\n", Text.utf8 "\r\nhi"], .eof, by decide +kernel⟩

theorem readHeads_of_eof {stream : ByteStream UInt8} {head : ℕ × List (String × String)}
    {rest : List UInt8} (heof : stream.ending = .eof)
    (h : headsOf maxInformationalResponses stream.bytes = some (head, rest)) :
    ∃ intake, readHeads maxInformationalResponses ⟨[], stream⟩ = .done head intake := by
  have hagrees := @readHeads_agrees ⟨[], stream⟩ maxInformationalResponses (by
    rw [heof]
    decide)
  have hbytes : (Intake.mk [] stream).bytes = stream.bytes := rfl
  rw [hbytes, h] at hagrees
  obtain ⟨intake, hdone, -⟩ := hagrees
  exact ⟨intake, hdone⟩

/-- No space behind the colon. -/
def tightAnswer : ByteStream UInt8 :=
  ⟨[Text.utf8 "HTTP/1.1 200 OK\r\nX-Id:1\r\n", Text.utf8 "\r\nhi"], .eof, by decide +kernel⟩

end Bridge

end Rgrok
