/-
# The request on the tunnel

Whether what is written to the tunnel, head and body, is one HTTP/1.1 request
for a reader that knows the grammar of messages only (`parseRequest`).  The head
is put together from strings: every piece is a line of its own, but for a
`host_header` with an end of a line in it.
-/

import Rgrok.Server.ForwardedFields

namespace Rgrok

/-! ### Messages -/

/-- A field line: a token, a colon, and a value between blanks. -/
def parseFieldLine (line : List Char) : Option (String × String) :=
  match Text.breakOn ':' line with
  | none => none
  | some (name, value) =>
      if isToken (String.ofList name) && (Text.utf8 (String.ofList value)).all isHeaderByte then
        some (String.ofList name, String.ofList (trimBlanks value))
      else none

/-- A request line: a token, a target without blanks, and the version. -/
def parseRequestLine (line : List Char) : Option (String × String) :=
  match line.splitOn ' ' with
  | [method, target, version] =>
      if isToken (String.ofList method) && !target.isEmpty && target.all (fun c => 32 < c.toNat) &&
          version == ['H', 'T', 'T', 'P', '/', '1', '.', '1'] then
        some (String.ofList method, String.ofList target)
      else none
  | _ => none

/-- A head, without the empty line. -/
def parseHead (head : List Char) : Option ((String × String) × List (String × String)) :=
  match Text.splitCrlf head with
  | [] => none
  | requestLine :: lines =>
      match parseRequestLine requestLine, lines.mapM parseFieldLine with
      | some start, some fields => some (start, fields)
      | _, _ => none

/-- The length of the body, by the one `Content-Length` field. -/
def messageLength (fields : List (String × String)) : Option ℕ :=
  match headerValues fields "transfer-encoding", headerValues fields "content-length" with
  | [], [value] =>
      if !value.toList.isEmpty && value.toList.all Char.isDigit then
        some (Nat.ofDigitChars 10 value.toList 0)
      else none
  | _, _ => none

/-- A request. -/
structure RequestMessage where
  method : String
  target : String
  fields : List (String × String)
  body : List UInt8
deriving DecidableEq

/-- The one request that all the bytes are. -/
def parseRequest (bytes : List UInt8) : Option RequestMessage :=
  match position crlfCrlf bytes with
  | none => none
  | some n =>
      match Text.fromUtf8 (bytes.take n) with
      | none => none
      | some head =>
          match parseHead head.toList with
          | none => none
          | some ((method, target), fields) =>
              if messageLength fields = some (bytes.drop (n + 4)).length then
                some { method, target, fields, body := bytes.drop (n + 4) }
              else none

/-! ### Lines of a head -/

/-- A field on its line. -/
def fieldLine (field : String × String) : List Char :=
  field.1.toList ++ ':' :: ' ' :: field.2.toList

/-- The request line. -/
def SentHead.requestLine (head : SentHead) : List Char :=
  head.method.toList ++ ' ' :: (head.target.toList ++
    [' ', 'H', 'T', 'T', 'P', '/', '1', '.', '1'])

/-- The field that counts the body. -/
def SentHead.lengthField (head : SentHead) : String × String :=
  ("Content-Length", toString head.contentLength)

/-- The head without the empty line. -/
def SentHead.chars (head : SentHead) : List Char :=
  ((head.requestLine :: head.fields.map fieldLine).flatMap fun line => line ++ ['\r', '\n']) ++
    fieldLine head.lengthField

theorem SentHead.toList_text (head : SentHead) :
    head.text.toList = head.chars ++ ['\r', '\n', '\r', '\n'] := by
  have hversion : " HTTP/1.1\r\n".toList =
      [' ', 'H', 'T', 'T', 'P', '/', '1', '.', '1', '\r', '\n'] := rfl
  have hlength : "Content-Length: ".toList = "Content-Length".toList ++ [':', ' '] := rfl
  have hfields : (head.fields.map fun field =>
      field.1 ++ ": " ++ field.2 ++ "\r\n").flatMap String.toList =
      (head.fields.map fieldLine).flatMap fun line => line ++ ['\r', '\n'] := by
    rw [List.flatMap_map, List.flatMap_map]
    congr 1
    funext field
    rw [fieldLine, String.toList_append, String.toList_append, String.toList_append,
      show ": ".toList = [':', ' '] from rfl, show "\r\n".toList = ['\r', '\n'] from rfl,
      List.append_assoc, List.append_assoc, List.append_assoc]
    rfl
  rw [SentHead.text, chars, List.flatMap_cons, fieldLine, lengthField, requestLine]
  simp only [String.toList_append, String.toList_join]
  rw [hversion, hlength, show " ".toList = [' '] from rfl,
    show "\r\n\r\n".toList = ['\r', '\n', '\r', '\n'] from rfl, hfields]
  simp only [List.append_assoc, List.cons_append, List.nil_append]

/-- The lines of a head. -/
theorem SentHead.splitCrlf_chars (head : SentHead) :
    Text.splitCrlf head.chars = Text.splitCrlf head.requestLine ++
      (head.fields.flatMap fun field => Text.splitCrlf (fieldLine field)) ++
      Text.splitCrlf (fieldLine head.lengthField) := by
  have hlines (lines : List (List Char)) (last : List Char) :
      Text.splitCrlf ((lines.flatMap fun line => line ++ ['\r', '\n']) ++ last) =
        lines.flatMap Text.splitCrlf ++ Text.splitCrlf last := by
    induction lines with
    | nil => rfl
    | cons line lines ih =>
        rw [List.flatMap_cons, List.append_assoc, List.append_assoc, List.cons_append,
          List.cons_append, List.nil_append, Text.splitCrlf_append, ih, List.flatMap_cons,
          List.append_assoc]
  rw [SentHead.chars, hlines, List.flatMap_cons, List.flatMap_map]

/-! ### Pieces on lines of their own -/

/-- The value of a field between blanks. -/
def trimmedField (field : String × String) : String × String :=
  (field.1, String.ofList (trimBlanks field.2.toList))

/-- **A token and a header value make one field line.** -/
theorem parse_fieldLine {field : String × String} (hname : isToken field.1 = true)
    (hvalue : (Text.utf8 field.2).all isHeaderByte = true) :
    Text.splitCrlf (fieldLine field) = [fieldLine field] ∧
      parseFieldLine (fieldLine field) = some (trimmedField field) := by
  obtain ⟨hne, hchars⟩ := isToken_forall hname
  constructor
  · have hfeed : '\n' ∉ fieldLine field := by
      rw [fieldLine, List.mem_append, List.mem_cons, List.mem_cons, not_or, not_or, not_or]
      refine ⟨fun hmem => ?_, by decide, by decide, fun hmem => ?_⟩
      · have hrange := isTokenChar_range (hchars _ hmem)
        have hnat : '\n'.toNat = 10 := rfl
        omega
      · have hbyte := List.all_eq_true.1 hvalue 10 (mem_utf8_of_mem hmem rfl)
        exact absurd hbyte (by decide)
    exact Text.splitCrlf_of_not_infix fun hin => hfeed (hin.subset (by decide))
  · have hcolon : ':' ∉ field.1.toList := fun hmem => (isTokenChar_range (hchars _ hmem)).2.2 rfl
    have hbreak : Text.breakOn ':' (fieldLine field) = some (field.1.toList, ' ' :: field.2.toList) :=
      Text.breakOn_eq_some.2 ⟨rfl, hcolon⟩
    have hspace : (Text.utf8 (String.ofList (' ' :: field.2.toList))).all isHeaderByte = true := by
      have hone : Text.utf8 (String.ofList (' ' :: field.2.toList)) = 32 :: Text.utf8 field.2 := by
        rw [Text.utf8_eq_flatMap, String.toList_ofList, List.flatMap_cons, Text.utf8_eq_flatMap]
        rfl
      rw [hone, List.all_cons, hvalue]
      rfl
    rw [parseFieldLine, hbreak]
    dsimp only
    rw [String.ofList_toList, hname, hspace]
    rfl

/-- A method and a target make one request line. -/
theorem parse_requestLine {head : SentHead} (hmethod : isToken head.method = true)
    (htarget : head.target ≠ "" ∧ ∀ c ∈ head.target.toList, 32 < c.toNat) :
    Text.splitCrlf head.requestLine = [head.requestLine] ∧
      parseRequestLine head.requestLine = some (head.method, head.target) := by
  obtain ⟨-, hchars⟩ := isToken_forall hmethod
  obtain ⟨hne, hvisible⟩ := htarget
  constructor
  · have hfeed : '\n' ∉ head.requestLine := by
      have hnat : '\n'.toNat = 10 := rfl
      rw [SentHead.requestLine, List.mem_append, List.mem_cons, List.mem_append, not_or, not_or,
        not_or]
      refine ⟨fun hmem => ?_, by decide, fun hmem => ?_, by decide⟩
      · have hrange := isTokenChar_range (hchars _ hmem)
        omega
      · have hrange := hvisible _ hmem
        omega
    exact Text.splitCrlf_of_not_infix fun hin => hfeed (hin.subset (by decide))
  · have hspace : ' '.toNat = 32 := rfl
    have hsplit : head.requestLine.splitOn ' ' =
        [head.method.toList, head.target.toList, ['H', 'T', 'T', 'P', '/', '1', '.', '1']] := by
      rw [SentHead.requestLine, List.splitOn_eq_splitOnP,
        List.splitOnP_append_cons_of_forall_mem _ ' ' (by decide),
        List.splitOnP_append_cons_of_forall_mem _ ' ' (by decide)]
      · rfl
      · intro c hc
        have hrange := hvisible c hc
        rw [beq_eq_false_iff_ne]
        rintro rfl
        omega
      · intro c hc
        have hrange := isTokenChar_range (hchars c hc)
        rw [beq_eq_false_iff_ne]
        rintro rfl
        omega
    have hall : head.target.toList.all (fun c => 32 < c.toNat) = true := by
      simpa using hvisible
    have hempty : head.target.toList.isEmpty = false := by
      rw [← Bool.not_eq_true, List.isEmpty_iff]
      exact fun hnil => hne (String.toList_inj.1 hnil)
    rw [parseRequestLine, hsplit]
    dsimp only
    rw [String.ofList_toList, String.ofList_toList, hmethod, hempty, hall]
    rfl

theorem trimBlanks_of_forall {s : List Char} (h : ∀ c ∈ s, isBlank c = false) :
    trimBlanks s = s := by
  have hdrop : ∀ t : List Char, (∀ c ∈ t, isBlank c = false) → t.dropWhile isBlank = t := by
    intro t ht
    cases t with
    | nil => rfl
    | cons c t =>
        rw [List.dropWhile_cons_of_neg]
        rw [ht c List.mem_cons_self]
        exact Bool.false_ne_true
  rw [trimBlanks, hdrop s h, hdrop s.reverse, List.reverse_reverse]
  exact fun c hc => h c (List.mem_reverse.1 hc)

/-- The field that counts the body is one line. -/
theorem parse_lengthField (head : SentHead) :
    Text.splitCrlf (fieldLine head.lengthField) = [fieldLine head.lengthField] ∧
      parseFieldLine (fieldLine head.lengthField) =
        some ("Content-Length", toString head.contentLength) := by
  obtain ⟨value, hvalue⟩ := HeaderValue.fromStr_toString head.contentLength
  have hvalid : (Text.utf8 (toString head.contentLength)).all isHeaderByte = true := by
    rw [← HeaderValue.bytes_of_fromStr hvalue]
    exact value.valid
  have hname : isToken head.lengthField.1 = true :=
    show isToken "Content-Length" = true by decide +kernel
  obtain ⟨hsplit, hparse⟩ := parse_fieldLine hname hvalid
  obtain ⟨-, hdigits, -⟩ := Text.digits_toString head.contentLength
  refine ⟨hsplit, hparse.trans ?_⟩
  have hblank : ∀ c ∈ (toString head.contentLength).toList, isBlank c = false := by
    intro c hc
    have hdigit := hdigits c hc
    rw [isBlank, Bool.or_eq_false_iff, beq_eq_false_iff_ne, beq_eq_false_iff_ne]
    constructor
    · rintro rfl
      exact absurd hdigit (by decide)
    · rintro rfl
      exact absurd hdigit (by decide)
  rw [trimmedField, SentHead.lengthField, trimBlanks_of_forall hblank, String.ofList_toList]

/-! ### The whole head -/

/-- A head of one request line, and fields that are tokens and values behind some
first ones. -/
structure SentHead.Plain (head : SentHead) (first rest : List (String × String)) : Prop where
  method : isToken head.method = true
  target : head.target ≠ "" ∧ ∀ c ∈ head.target.toList, 32 < c.toNat
  fields : head.fields = first ++ rest
  rest : ∀ field ∈ rest, isToken field.1 = true ∧ (Text.utf8 field.2).all isHeaderByte = true

/-- The lines of some fields. -/
def linesOf (fields : List (String × String)) : List (List Char) :=
  fields.flatMap fun field => Text.splitCrlf (fieldLine field)

theorem linesOf_rest {rest : List (String × String)} (h : ∀ field ∈ rest,
    isToken field.1 = true ∧ (Text.utf8 field.2).all isHeaderByte = true) :
    linesOf rest = rest.map fieldLine ∧
      (linesOf rest).mapM parseFieldLine = some (rest.map trimmedField) := by
  induction rest with
  | nil => exact ⟨rfl, rfl⟩
  | cons field rest ih =>
      obtain ⟨hfield, hrest⟩ := List.forall_mem_cons.1 h
      obtain ⟨hlines, hparse⟩ := ih hrest
      obtain ⟨hline, hone⟩ := parse_fieldLine hfield.1 hfield.2
      have hall : linesOf (field :: rest) = fieldLine field :: linesOf rest := by
        rw [linesOf, List.flatMap_cons, hline]
        rfl
      rw [hall]
      refine ⟨by rw [hlines]; rfl, ?_⟩
      rw [List.mapM_cons, hone, hparse]
      rfl

/-- **What a reader makes of a head**: the fields of the first lines, those that
were forwarded, and the one that counts the body. -/
theorem parseHead_chars {head : SentHead} {first rest : List (String × String)}
    (h : head.Plain first rest) :
    parseHead head.chars = ((linesOf first).mapM parseFieldLine).map fun fields =>
      ((head.method, head.target),
        fields ++ rest.map trimmedField ++ [("Content-Length", toString head.contentLength)]) := by
  obtain ⟨hstart, hstart'⟩ := parse_requestLine h.method h.target
  obtain ⟨-, hrest⟩ := linesOf_rest h.rest
  obtain ⟨hlength, hlength'⟩ := parse_lengthField head
  have hlines : Text.splitCrlf head.chars =
      head.requestLine :: (linesOf first ++ linesOf rest ++ [fieldLine head.lengthField]) := by
    rw [head.splitCrlf_chars, hstart, hlength, h.fields, List.flatMap_append]
    rfl
  rw [parseHead, hlines]
  dsimp only
  rw [hstart', List.mapM_append, List.mapM_append, hrest]
  cases (linesOf first).mapM parseFieldLine with
  | none => rfl
  | some fields =>
      rw [List.mapM_cons, hlength']
      rfl

theorem exists_of_mapM {α β : Type} {f : α → Option β} {l : List α} {l' : List β}
    (h : l.mapM f = some l') : ∀ a ∈ l, ∃ b, f a = some b := by
  induction l generalizing l' with
  | nil => exact nofun
  | cons a l ih =>
      rw [List.mapM_cons] at h
      cases ha : f a with
      | none =>
          rw [ha] at h
          cases h
      | some b =>
          cases hl : l.mapM f with
          | none =>
              rw [ha, hl] at h
              cases h
          | some bs => exact List.forall_mem_cons.2 ⟨⟨b, ha⟩, ih hl⟩

/-- A head that is read has no empty line. -/
theorem ne_nil_of_parseHead {chars : List Char} {message : (String × String) × List (String × String)}
    (h : parseHead chars = some message) : ∀ line ∈ Text.splitCrlf chars, line ≠ [] := by
  rw [parseHead] at h
  cases hlines : Text.splitCrlf chars with
  | nil => exact nofun
  | cons requestLine lines =>
      rw [hlines] at h
      dsimp only at h
      split at h
      · rename_i start fields hstart hfields
        refine List.forall_mem_cons.2 ⟨?_, fun line hline => ?_⟩
        · rintro rfl
          cases hstart
        · rintro rfl
          obtain ⟨field, hfield⟩ := exists_of_mapM hfields [] hline
          cases hfield
      · cases h

/-- The bytes of a head end with its first empty line. -/
theorem position_head {chars : List Char} (h : ∀ line ∈ Text.splitCrlf chars, line ≠ [])
    (body : List UInt8) :
    position crlfCrlf (Text.utf8 (String.ofList (chars ++ ['\r', '\n', '\r', '\n'])) ++ body) =
      some (Text.utf8 (String.ofList chars)).length := by
  have hbytes : Text.utf8 (String.ofList (chars ++ ['\r', '\n', '\r', '\n'])) =
      (((Text.splitCrlf chars).map fun line => Text.utf8 (String.ofList line)).flatMap
        fun line => line ++ crlf) ++ crlf := by
    rw [← utf8_lines, Text.flatMap_splitCrlf, ← utf8_crlf, ← utf8_ofList_append,
      List.append_assoc]
    rfl
  have hlines : (Text.splitCrlf chars).map (fun line => Text.utf8 (String.ofList line)) ≠ [] := by
    simpa using Text.splitCrlf_ne_nil chars
  obtain ⟨n, hpos, hlen⟩ := position_section hlines (by
      intro line hline
      obtain ⟨text, htext, rfl⟩ := List.mem_map.1 hline
      exact ⟨utf8_ne_nil (h text htext), not_crlf_infix_utf8 (Text.not_infix_of_mem_splitCrlf htext)⟩)
  rw [← hbytes] at hpos hlen
  have hcrlf : (Text.utf8 (String.ofList ['\r', '\n', '\r', '\n'])).length = 4 := by decide
  rw [utf8_ofList_append, List.length_append, hcrlf] at hlen
  obtain rfl : n = (Text.utf8 (String.ofList chars)).length := by omega
  exact position_append hpos

/-- **What a reader makes of a head and what follows it.** -/
theorem parseRequest_head {chars : List Char} {body : List UInt8}
    (hpos : position crlfCrlf (Text.utf8 (String.ofList (chars ++ ['\r', '\n', '\r', '\n'])) ++ body) =
      some (Text.utf8 (String.ofList chars)).length) :
    parseRequest (Text.utf8 (String.ofList (chars ++ ['\r', '\n', '\r', '\n'])) ++ body) =
      (parseHead chars).bind fun head =>
        if messageLength head.2 = some body.length then
          some ⟨head.1.1, head.1.2, head.2, body⟩
        else none := by
  have hcrlf : (Text.utf8 (String.ofList ['\r', '\n', '\r', '\n'])).length = 4 := by decide
  rw [parseRequest, hpos]
  dsimp only
  rw [utf8_ofList_append, List.append_assoc, List.take_left, ← List.append_assoc,
    List.drop_append_of_le_length (by rw [List.length_append, hcrlf]),
    List.drop_eq_nil_of_le (by rw [List.length_append, hcrlf]), List.nil_append,
    Text.fromUtf8_utf8]
  dsimp only
  rw [String.toList_ofList]
  cases parseHead chars with
  | none => rfl
  | some head => rfl

/-! ### One request -/

/-- A hop-by-hop name, by the list or by a `Connection` field; `Host` and
`Content-Length` are in every request. -/
def HeaderMap.MustNotPass (headers : HeaderMap) (name : HeaderName) : Prop :=
  (hopByHopHeaders.contains name.name = true ∨ headers.Listed name) ∧ name ≠ .host ∧
    name ≠ .contentLength

variable {Uri : Type} (uris : UriCrate Uri)

/-- What is written to the tunnel for a request. -/
def sentBytes (request : PreparedRequest Uri) (customHost : Option String) : List UInt8 :=
  Text.utf8 (serializeHttpRequest uris request request.body.length customHost) ++ request.body

/-- What is written is this request, and it is the one that was made. -/
structure IsSentAs (request : PreparedRequest Uri) (customHost : Option String)
    (message : RequestMessage) : Prop where
  parsed : parseRequest (sentBytes uris request customHost) = some message
  emptyLine : ∃ n, position crlfCrlf (sentBytes uris request customHost) = some n ∧
    n + 4 = (Text.utf8 (serializeHttpRequest uris request request.body.length customHost)).length
  method : message.method = request.method.name
  target : message.target =
    ((uris.pathAndQuery request.uri).map PathAndQuery.asStr).getD "/"
  body : message.body = request.body
  host : (headerValues message.fields "host").length = 1
  contentLength : headerValues message.fields "content-length" = [toString request.body.length]
  hopByHop : ∀ name, request.headers.MustNotPass name → headerValues message.fields name.name = []

/-- The `Host` of the head: without an override the one `Host` field of visible
ASCII, which no `Connection` field removes; with one, a value, and behind ends of
lines only further fields that may pass. -/
def HostIsPlain (headers : HeaderMap) : Option String → Prop
  | none => ¬ headers.ListedVisibly .host ∧
      ((headers.getAll .host).filter fun value => value.toStr.isSome).length = 1
  | some host => ∃ fields, (linesOf [("Host", host)]).mapM parseFieldLine = some fields ∧
      (headerValues fields "host").length = 1 ∧ headerValues fields "content-length" = [] ∧
      ∀ name, headers.MustNotPass name → headerValues fields name.name = []

variable {uris} {request : PreparedRequest Uri} {customHost : Option String}

/-- The fields that were forwarded. -/
def forwardedFields (headers : HeaderMap) (customHost : Option String) : List (String × String) :=
  headers.iter.filterMap (forwardField customHost.isSome headers.hopByHop)

theorem length_headerValues (fields : List (String × String)) (name : String) :
    (headerValues fields name).length =
      (fields.map Prod.fst).countP fun s => Text.eqIgnoreAsciiCase s name := by
  rw [headerValues, List.length_map, List.countP_map, List.countP_eq_length_filter]
  rfl

/-- How many forwarded fields have a name. -/
theorem length_headerValues_forwarded (headers : HeaderMap) (customHost : Option String)
    (name : HeaderName) :
    (headerValues ((forwardedFields headers customHost).map trimmedField) name.name).length =
      ((headers.iter.filter fun field => field.1 == name).filter
        (IsForwarded headers customHost.isSome)).length := by
  have hnames : ((forwardedFields headers customHost).map trimmedField).map Prod.fst =
      (headers.iter.filter (IsForwarded headers customHost.isSome)).map fun field =>
        field.1.name := by
    have hbytes := filterMap_map_eq (forwardField_eq headers customHost.isSome) headers.iter
    have hfst := congrArg (List.map Prod.fst) hbytes
    rw [List.map_map, List.map_map] at hfst
    rw [List.map_map]
    exact hfst
  rw [length_headerValues, hnames, List.countP_map, List.countP_eq_length_filter,
    List.filter_filter, List.filter_filter]
  congr 1
  refine List.filter_congr fun field _ => ?_
  rw [Bool.and_comm, Function.comp_apply, Text.eqIgnoreAsciiCase, field.1.lower, name.lower]
  congr 1
  rw [Bool.eq_iff_iff, beq_iff_eq, beq_iff_eq]
  exact ⟨fun h => HeaderName.name_inj h, fun h => congrArg HeaderName.name h⟩

/-- What the head is made of is plain. -/
theorem plain_sentHead (hpaths : uris.Printable) (request : PreparedRequest Uri)
    (customHost : Option String) :
    (sentHead uris request request.body.length customHost).Plain
      (customHost.toList.map fun host => ("Host", host))
      (forwardedFields request.headers customHost) where
  method := request.method.valid
  target := by
    have hroot : ∀ c ∈ "/".toList, 32 < c.toNat := by simp
    rw [sentHead]
    dsimp only
    cases hpath : uris.pathAndQuery request.uri with
    | none => exact ⟨by decide, hroot⟩
    | some path =>
        rw [Option.map_some, Option.getD_some, PathAndQuery.asStr]
        split
        · exact ⟨by decide, hroot⟩
        · rename_i hne
          exact ⟨hne, hpaths _ _ hpath⟩
  fields := rfl
  rest := by
    intro field hfield
    obtain ⟨⟨name, value⟩, -, hforward⟩ := List.mem_filterMap.1 hfield
    rw [forwardField] at hforward
    split at hforward
    · cases hforward
    · split at hforward
      · cases hforward
      · obtain ⟨s, hstr, rfl⟩ := Option.map_eq_some_iff.1 hforward
        refine ⟨name.valid, ?_⟩
        rw [← HeaderValue.bytes_of_toStr hstr]
        exact value.valid

theorem headerValues_forwarded_eq_nil (headers : HeaderMap) (customHost : Option String)
    (name : HeaderName) :
    headerValues ((forwardedFields headers customHost).map trimmedField) name.name = [] ↔
      ∀ field ∈ headers.iter, IsForwarded headers customHost.isSome field → field.1 ≠ name := by
  rw [← List.length_eq_zero_iff, length_headerValues_forwarded, List.length_eq_zero_iff,
    List.filter_eq_nil_iff]
  constructor
  · rintro hnone field hfield hforwarded rfl
    exact hnone field (List.mem_filter.2 ⟨hfield, beq_self_eq_true _⟩) (decide_eq_true hforwarded)
  · intro hall field hfield hforwarded
    obtain ⟨hfield, hname⟩ := List.mem_filter.1 hfield
    exact hall field hfield (of_decide_eq_true hforwarded) (eq_of_beq hname)

/-- `Content-Length` is never forwarded, nor is an overridden `Host`. -/
theorem contentLength_not_forwarded (headers : HeaderMap) (customHost : Option String) :
    headerValues ((forwardedFields headers customHost).map trimmedField) "content-length" = [] := by
  refine (headerValues_forwarded_eq_nil headers customHost .contentLength).2 ?_
  rintro field - ⟨hreplaced, -⟩ hname
  rw [hname, isReplaced, Bool.or_eq_false_iff, Bool.or_eq_false_iff] at hreplaced
  exact absurd hreplaced.1.2 (by decide +kernel)

theorem host_not_forwarded (headers : HeaderMap) (host : String) :
    headerValues ((forwardedFields headers (some host)).map trimmedField) "host" = [] := by
  refine (headerValues_forwarded_eq_nil headers (some host) .host).2 ?_
  rintro field - ⟨hreplaced, -⟩ hname
  rw [hname] at hreplaced
  exact absurd (show isReplaced true .host = false from hreplaced) (by decide +kernel)

/-- Without an override the `Host` fields that are forwarded are the visible ones,
or none. -/
theorem host_forwarded_iff (headers : HeaderMap) :
    (headerValues ((forwardedFields headers none).map trimmedField) "host").length = 1 ↔
      HostIsPlain headers none := by
  have hreplaced : isReplaced false .host = false := by decide +kernel
  have hcount := length_headerValues_forwarded headers none .host
  rw [show HeaderName.host.name = "host" from rfl] at hcount
  rw [hcount, HostIsPlain]
  by_cases hlisted : headers.ListedVisibly .host
  · have hnone : (headers.iter.filter fun field => field.1 == .host).filter
        (IsForwarded headers (none : Option String).isSome) = [] := by
      rw [List.filter_eq_nil_iff]
      intro field hfield hforwarded
      obtain ⟨-, hname⟩ := List.mem_filter.1 hfield
      obtain ⟨-, hnot, -⟩ := of_decide_eq_true hforwarded
      rw [eq_of_beq hname] at hnot
      exact hnot hlisted
    rw [hnone]
    exact ⟨fun h => absurd h (by decide), fun h => absurd hlisted h.1⟩
  · have hvisible : (headers.iter.filter fun field => field.1 == .host).filter
        (IsForwarded headers (none : Option String).isSome) =
        (headers.iter.filter fun field => field.1 == .host).filter fun field =>
          field.2.toStr.isSome := by
      refine List.filter_congr fun field hfield => ?_
      obtain ⟨-, hname⟩ := List.mem_filter.1 hfield
      rw [Bool.eq_iff_iff, decide_eq_true_eq, IsForwarded, eq_of_beq hname]
      exact ⟨fun h => h.2.2, fun h => ⟨hreplaced, hlisted, h⟩⟩
    rw [hvisible, HeaderMap.getAll, List.filter_map, List.length_map]
    exact ⟨fun h => ⟨hlisted, h⟩, fun h => h.2⟩

/-- The text of a head and the body. -/
theorem sentBytes_eq (request : PreparedRequest Uri) (customHost : Option String) :
    sentBytes uris request customHost =
      Text.utf8 (String.ofList ((sentHead uris request request.body.length customHost).chars ++
        ['\r', '\n', '\r', '\n'])) ++ request.body := by
  rw [sentBytes, serializeHttpRequest, ← SentHead.toList_text, String.ofList_toList]

theorem length_serialized (request : PreparedRequest Uri) (customHost : Option String) :
    (Text.utf8 (serializeHttpRequest uris request request.body.length customHost)).length =
      (Text.utf8 (String.ofList
        (sentHead uris request request.body.length customHost).chars)).length + 4 := by
  have hcrlf : (Text.utf8 (String.ofList ['\r', '\n', '\r', '\n'])).length = 4 := by decide
  rw [serializeHttpRequest, ← String.ofList_toList (s := SentHead.text _), SentHead.toList_text,
    utf8_ofList_append, List.length_append, hcrlf]

/-- The fields of the request, for the fields that the first lines make. -/
def messageFields (request : PreparedRequest Uri) (customHost : Option String)
    (first : List (String × String)) : List (String × String) :=
  first ++ (forwardedFields request.headers customHost).map trimmedField ++
    [("Content-Length", toString request.body.length)]

/-- The values of a name in the request. -/
theorem headerValues_messageFields (request : PreparedRequest Uri) (customHost : Option String)
    (first : List (String × String)) (name : String) :
    headerValues (messageFields request customHost first) name =
      headerValues first name ++
        headerValues ((forwardedFields request.headers customHost).map trimmedField) name ++
        if Text.eqIgnoreAsciiCase "Content-Length" name then [toString request.body.length]
        else [] := by
  rw [messageFields, headerValues_append, headerValues_append]
  congr 1
  rw [headerValues, List.filter_cons]
  cases Text.eqIgnoreAsciiCase "Content-Length" name with
  | true => rfl
  | false => rfl

/-- Two names are the same if one is written in any case. -/
theorem eqIgnoreAsciiCase_contentLength {name : HeaderName} (h : name ≠ .contentLength) :
    Text.eqIgnoreAsciiCase "Content-Length" name.name = false := by
  rw [Text.eqIgnoreAsciiCase, name.lower, beq_eq_false_iff_ne]
  intro heq
  refine h (HeaderName.name_inj (heq.symm.trans ?_))
  decide +kernel

/-- The request that is read, from the fields of the first lines. -/
theorem parseRequest_sent (hpaths : uris.Printable)
    (hpos : position crlfCrlf (sentBytes uris request customHost) = some (Text.utf8
      (String.ofList (sentHead uris request request.body.length customHost).chars)).length) :
    parseRequest (sentBytes uris request customHost) =
      ((linesOf (customHost.toList.map fun host => ("Host", host))).mapM parseFieldLine).bind
        fun first =>
          if messageLength (messageFields request customHost first) = some request.body.length then
            some ⟨request.method.name,
              ((uris.pathAndQuery request.uri).map PathAndQuery.asStr).getD "/",
              messageFields request customHost first, request.body⟩
          else none := by
  rw [sentBytes_eq] at hpos ⊢
  rw [parseRequest_head hpos, parseHead_chars (plain_sentHead hpaths request customHost),
    Option.bind_map]
  rfl

/-- What the first lines are to make. -/
structure FirstFields (headers : HeaderMap) (customHost : Option String)
    (first : List (String × String)) : Prop where
  parsed : (linesOf (customHost.toList.map fun host => ("Host", host))).mapM parseFieldLine =
    some first
  host : (headerValues first "host").length +
    (headerValues ((forwardedFields headers customHost).map trimmedField) "host").length = 1
  contentLength : headerValues first "content-length" = []
  hopByHop : ∀ name, headers.MustNotPass name → headerValues first name.name = []

/-- With an override or without, this is a plain `Host`. -/
theorem firstFields_iff (headers : HeaderMap) (customHost : Option String) :
    (∃ first, FirstFields headers customHost first) ↔ HostIsPlain headers customHost := by
  cases customHost with
  | none =>
      rw [← host_forwarded_iff]
      constructor
      · rintro ⟨first, hparsed, hhost, -, -⟩
        obtain rfl := Option.some.inj hparsed
        exact (Nat.zero_add _).symm.trans hhost
      · intro hhost
        exact ⟨[], rfl, (Nat.zero_add _).trans hhost, rfl, fun _ _ => rfl⟩
  | some host =>
      have hnone := host_not_forwarded headers host
      constructor
      · rintro ⟨first, hparsed, hhost, hlength, hhop⟩
        rw [hnone] at hhost
        exact ⟨first, hparsed, hhost, hlength, hhop⟩
      · rintro ⟨first, hparsed, hhost, hlength, hhop⟩
        refine ⟨first, hparsed, ?_, hlength, hhop⟩
        rw [hnone]
        exact hhost

/-- No forwarded field has a name that must not pass. -/
theorem forwarded_pass_iff (headers : HeaderMap) (customHost : Option String) :
    (∀ name, headers.MustNotPass name →
      headerValues ((forwardedFields headers customHost).map trimmedField) name.name = []) ↔
      ∀ field ∈ headers.iter, IsForwarded headers customHost.isSome field →
        headers.Listed field.1 → field.1 = .host := by
  simp only [headerValues_forwarded_eq_nil]
  constructor
  · intro hall field hfield hforwarded hlisted
    by_contra hne
    refine hall field.1 ⟨Or.inr hlisted, hne, ?_⟩ field hfield hforwarded rfl
    exact (headerValues_forwarded_eq_nil headers customHost .contentLength).1
      (contentLength_not_forwarded headers customHost) field hfield hforwarded
  · rintro hall name ⟨hname, hhost, -⟩ field hfield hforwarded rfl
    rcases hname with hstandard | hlisted
    · obtain ⟨hreplaced, -⟩ := hforwarded
      rw [isReplaced, hstandard] at hreplaced
      cases hreplaced
    · exact hhost (hall field hfield hforwarded hlisted)

/-- The value `example.com`. -/
def HeaderValue.exampleCom : HeaderValue where
  bytes := Text.utf8 "example.com"
  valid := by decide +kernel

/-- `/` is the one target. -/
def rootOnly : UriCrate PathAndQuery where
  parse s := if s = "/" then some ⟨"/"⟩ else none
  pathAndQuery _ := some ⟨"/"⟩

theorem rootOnly_printable : rootOnly.Printable := by
  rintro uri path hpath
  obtain rfl := Option.some.inj hpath
  simp

end Rgrok
