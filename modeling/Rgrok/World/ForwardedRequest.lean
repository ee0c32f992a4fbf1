/-
# A forwarded request in the client's inspector

The server writes a request to the tunnel from strings, and the client takes it apart again
with a parser of its own: lines that end with a line feed, words between white space of any
alphabet, fields with a colon and a space.  Of a head that fits the copy the two agree on the
method and the fields, and on a target without white space; and a replay sends the same
request to the local service (`forwarded_request_captured`).
-/

import Rgrok.Client.CaptureBodies
import Rgrok.Client.Inspector
import Rgrok.Lib.Uri
import Rgrok.Server.RequestHead

namespace Rgrok

/-! ### The head as lines -/

/-- The lines of a head up to the empty one. -/
def SentHead.written (head : SentHead) : List (List Char) :=
  head.requestLine :: (head.fields ++ [head.lengthField]).map fieldLine

theorem SentHead.toList_text_written (head : SentHead) :
    head.text.toList = (head.written ++ [[]]).flatMap fun line => line ++ ['\r', '\n'] := by
  rw [toList_text, chars, written, List.map_append, List.flatMap_append, List.flatMap_cons,
    List.flatMap_cons, List.flatMap_append]
  simp only [List.map_cons, List.map_nil, List.flatMap_cons, List.flatMap_nil, List.append_assoc,
    List.append_nil, List.cons_append, List.nil_append]

/-- Every line is a line of its own. -/
def SentHead.OneLined (head : SentHead) : Prop :=
  ∀ line ∈ head.written, '\n' ∉ line

section

variable {head : SentHead}

/-- The lines of a head and of what follows it. -/
theorem SentHead.lines_text (h : head.OneLined) (body : List UInt8) :
    Text.lines (Text.fromUtf8Lossy (Text.utf8 head.text ++ body)) =
      head.written ++ [] :: Text.lines (Text.fromUtf8Lossy body) := by
  have hall : ∀ line ∈ head.written ++ [[]], '\n' ∉ line :=
    List.forall_mem_append.2 ⟨h, List.forall_mem_singleton.2 List.not_mem_nil⟩
  rw [Text.fromUtf8Lossy_utf8_append, head.toList_text_written, Text.lines_flatMap_append hall,
    List.append_assoc]
  rfl

/-- The body begins behind the first empty line. -/
theorem SentHead.findBodyOffset_text (h : head.OneLined) (body : List UInt8) :
    findBodyOffset (Text.utf8 head.text ++ body) = some (Text.utf8 head.text).length := by
  have hlines : Text.splitCrlf head.chars = head.written := by
    have hone {line : List Char} (hline : line ∈ head.written) : Text.splitCrlf line = [line] :=
      Text.splitCrlf_of_not_infix fun hin => h line hline (hin.subset (by decide))
    have hfields : (head.fields.flatMap fun field => Text.splitCrlf (fieldLine field)) =
        head.fields.map fieldLine := by
      rw [List.map_eq_flatMap]
      refine List.flatMap_congr fun field hfield => hone (List.mem_cons_of_mem _ ?_)
      exact List.mem_map_of_mem (List.mem_append_left _ hfield)
    rw [head.splitCrlf_chars, hfields, hone List.mem_cons_self,
      hone (List.mem_cons_of_mem _ (List.mem_map_of_mem (List.mem_append_right _
        List.mem_cons_self))), written, List.map_append]
    rfl
  have hne : ∀ line ∈ Text.splitCrlf head.chars, line ≠ [] := by
    rw [hlines]
    refine List.forall_mem_cons.2 ⟨List.append_ne_nil_of_right_ne_nil _ (List.cons_ne_nil _ _), ?_⟩
    intro line hline
    obtain ⟨field, -, rfl⟩ := List.mem_map.1 hline
    exact List.append_ne_nil_of_right_ne_nil _ (List.cons_ne_nil _ _)
  have hpos := position_head hne body
  have htext : head.text = String.ofList (head.chars ++ ['\r', '\n', '\r', '\n']) := by
    rw [← head.toList_text, String.ofList_toList]
  rw [findBodyOffset, htext, hpos, Option.map_some, utf8_ofList_append, List.length_append]
  rfl

/-- Fields whose names have no colon are the fields of their lines. -/
theorem captureFields_fieldLine {fields : List (String × String)}
    (h : ∀ field ∈ fields, ':' ∉ field.1.toList) (more : List (List Char)) :
    captureFields (fields.map fieldLine ++ [] :: more) = fields := by
  induction fields with
  | nil => rfl
  | cons field fields ih =>
      obtain ⟨hfield, hfields⟩ := List.forall_mem_cons.1 h
      have hempty : (fieldLine field).isEmpty = false := by
        rw [fieldLine]
        cases field.1.toList <;> rfl
      have hline : fieldLine field = field.1.toList ++ [':', ' '] ++ field.2.toList := by
        rw [List.append_assoc]
        rfl
      have hsplit : Text.splitOnceAt [':', ' '] (fieldLine field) =
          some (field.1.toList, field.2.toList) := by
        rw [hline]
        exact Text.splitOnceAt_of_not_mem hfield [' '] _
      rw [List.map_cons, List.cons_append, captureFields, hempty, if_neg Bool.false_ne_true, hsplit]
      dsimp only
      rw [String.ofList_toList, String.ofList_toList, ih hfields]

/-- There is no white space in a word. -/
theorem not_isWhitespace_of_mem_splitWhitespace {s word : List Char}
    (h : word ∈ Text.splitWhitespace s) : ∀ c ∈ word, Text.isWhitespace c = false := by
  replace h := (List.mem_filter.1 h).1
  induction s generalizing word with
  | nil =>
      obtain rfl : word = [] := by simpa using h
      exact List.forall_mem_nil _
  | cons d s ih =>
      rw [List.splitOnP_cons_eq_if_modifyHead] at h
      split at h
      · rcases List.mem_cons.1 h with rfl | h
        · exact List.forall_mem_nil _
        · exact ih h
      · rename_i hd
        obtain ⟨first, words, hwords⟩ := List.exists_cons_of_ne_nil
          (List.splitOnP_ne_nil Text.isWhitespace s)
        rw [hwords] at h ih
        rcases List.mem_cons.1 h with rfl | h
        · exact List.forall_mem_cons.2 ⟨Bool.of_not_eq_true hd, ih List.mem_cons_self⟩
        · exact ih (List.mem_cons_of_mem _ h)

/-- The words of a request line: the method, those of the target and the version. -/
theorem SentHead.splitWhitespace_requestLine (hmethod : isToken head.method = true) :
    Text.splitWhitespace head.requestLine =
      head.method.toList :: (Text.splitWhitespace head.target.toList ++
        [['H', 'T', 'T', 'P', '/', '1', '.', '1']]) := by
  obtain ⟨hne, hchars⟩ := isToken_forall hmethod
  have hword : ∀ c ∈ head.method.toList, Text.isWhitespace c = false := by
    intro c hc
    have hrange := isTokenChar_range (hchars c hc)
    exact Text.not_isWhitespace (by omega) (by omega)
  have hversion : Text.splitWhitespace ['H', 'T', 'T', 'P', '/', '1', '.', '1'] =
      [['H', 'T', 'T', 'P', '/', '1', '.', '1']] := by
    decide
  rw [requestLine, Text.splitWhitespace_word hne hword (by decide),
    Text.splitWhitespace_append (by decide), hversion]

/-- What a capture shows of a request: its method and its fields without the secrets, the body
or its first bytes, and the target if it has no white space. -/
structure Shows (head : SentHead) (content : List UInt8) (maxBodyBytes : UInt64)
    (capture : CapturedRequest) : Prop where
  method : capture.reqMethod = head.method
  target : capture.reqUrl = head.target ↔ ∀ c ∈ head.target.toList, Text.isWhitespace c = false
  headers : capture.reqHeaders = sanitizeHeaders (head.fields ++ [head.lengthField])
  body : capture.reqBody.getD [] = content.take maxBodyBytes.toNat
  truncated : capture.reqBodyTruncated = true ↔ maxBodyBytes.toNat < content.length

/-- What the client reads of a head. -/
theorem parseRequest_written (h : head.OneLined) (hmethod : isToken head.method = true)
    (htarget : head.target ≠ "") (hnames : ∀ field ∈ head.fields, ':' ∉ field.1.toList)
    (stamp : CaptureStamp) (body : List UInt8) (maxBodyBytes : UInt64) :
    ∃ capture, parseRequestForCapture stamp (Text.utf8 head.text ++ body) maxBodyBytes =
        some capture ∧
      capture.reqMethod = head.method ∧
      (capture.reqUrl = head.target ↔ ∀ c ∈ head.target.toList, Text.isWhitespace c = false) ∧
      capture.reqHeaders = sanitizeHeaders (head.fields ++ [head.lengthField]) := by
  have hfields : captureFields ((head.fields ++ [head.lengthField]).map fieldLine ++
      [] :: Text.lines (Text.fromUtf8Lossy body)) = head.fields ++ [head.lengthField] := by
    refine captureFields_fieldLine (List.forall_mem_append.2 ⟨hnames, ?_⟩) _
    exact List.forall_mem_singleton.2 (show ':' ∉ "Content-Length".toList by decide)
  obtain ⟨url, words, hwords⟩ : ∃ url words, Text.splitWhitespace head.target.toList ++
      [['H', 'T', 'T', 'P', '/', '1', '.', '1']] = url :: words :=
    List.exists_cons_of_ne_nil (List.append_ne_nil_of_right_ne_nil _ (List.cons_ne_nil _ _))
  have hline := SentHead.splitWhitespace_requestLine hmethod
  rw [hwords] at hline
  rw [parseRequestForCapture, SentHead.lines_text h, SentHead.written, List.cons_append]
  dsimp only
  rw [hline, hfields]
  refine ⟨_, rfl, String.ofList_toList, ?_, rfl⟩
  show String.ofList url = head.target ↔ _
  constructor
  · rintro heq
    have hmem : url ∈ Text.splitWhitespace head.requestLine := by
      rw [hline]
      exact List.mem_cons_of_mem _ List.mem_cons_self
    rw [← heq, String.toList_ofList]
    exact not_isWhitespace_of_mem_splitWhitespace hmem
  · intro hplain
    have hone : Text.splitWhitespace head.target.toList = [head.target.toList] := by
      rw [Text.splitWhitespace, List.splitOnP_eq_singleton hplain, List.filter_cons_of_pos]
      · rfl
      · rw [Bool.not_eq_true', ← Bool.not_eq_true, List.isEmpty_iff]
        exact fun hnil => htarget (String.toList_inj.1 hnil)
    rw [hone] at hwords
    obtain ⟨rfl, -⟩ := List.cons.inj hwords
    exact String.ofList_toList

/-- The body that is kept behind a head, in a copy with room for the head. -/
theorem captureBody_written (h : head.OneLined) (body : List UInt8) (maxBodyBytes : UInt64)
    (hhead : (Text.utf8 head.text).length ≤ headerCaptureAllowance)
    (hlength : (Text.utf8 head.text ++ body).length < 2 ^ 64) :
    (captureBody ((Text.utf8 head.text ++ body).take (CaptureBuffer.limitFor maxBodyBytes))
        maxBodyBytes).getD [] = body.take maxBodyBytes.toNat ∧
      (captureTruncated ((Text.utf8 head.text ++ body).take (CaptureBuffer.limitFor maxBodyBytes))
        (UInt64.ofNat (Text.utf8 head.text ++ body).length) maxBodyBytes = true ↔
          maxBodyBytes.toNat < body.length) := by
  have htotal : (UInt64.ofNat (Text.utf8 head.text ++ body).length).toNat =
      (Text.utf8 head.text).length + body.length := by
    rw [UInt64.toNat_ofNat', Nat.mod_eq_of_lt hlength, List.length_append]
  rw [List.length_append] at hlength
  have hroom : (Text.utf8 head.text).length ≤ CaptureBuffer.limitFor maxBodyBytes ∧
      min maxBodyBytes.toNat body.length ≤
        CaptureBuffer.limitFor maxBodyBytes - (Text.utf8 head.text).length := by
    rw [CaptureBuffer.limitFor]
    omega
  rw [List.take_append, List.take_of_length_le hroom.1, captureBody, captureTruncated,
    SentHead.findBodyOffset_text h, htotal]
  dsimp only
  constructor
  · have hkept : (body.take (CaptureBuffer.limitFor maxBodyBytes -
        (Text.utf8 head.text).length)).take maxBodyBytes.toNat = body.take maxBodyBytes.toNat := by
      rw [List.take_take, List.take_eq_take_iff]
      omega
    split
    · rw [List.drop_left, Option.getD_some, hkept]
    · rename_i hend
      rw [List.length_append] at hend
      rw [← hkept, List.eq_nil_of_length_eq_zero (l := body.take _) (by omega), List.take_nil]
      rfl
  · rw [decide_eq_true_iff]
    omega

/-! ### The head of a forwarded request -/

theorem lineFeed_not_mem_fieldLine {field : String × String} (hname : isToken field.1 = true)
    (hvalue : '\n' ∉ field.2.toList) : '\n' ∉ fieldLine field := by
  rw [fieldLine, List.mem_append, List.mem_cons, List.mem_cons, not_or, not_or, not_or]
  refine ⟨fun hmem => ?_, by decide, by decide, hvalue⟩
  have hrange := isTokenChar_range ((isToken_forall hname).2 _ hmem)
  have hnat : '\n'.toNat = 10 := rfl
  omega

/-- What a forwarded request is written as is on lines of its own, if an override of its
`Host` is. -/
theorem SentHead.Plain.oneLined {first rest : List (String × String)}
    (h : head.Plain first rest)
    (hfirst : ∀ field ∈ first, isToken field.1 = true ∧ '\n' ∉ field.2.toList) :
    head.OneLined := by
  have hnat : '\n'.toNat = 10 := rfl
  refine List.forall_mem_cons.2 ⟨?_, fun line hline => ?_⟩
  · rw [requestLine, List.mem_append, List.mem_cons, List.mem_append, not_or, not_or, not_or]
    refine ⟨fun hmem => ?_, by decide, fun hmem => ?_, by decide⟩
    · have hrange := isTokenChar_range ((isToken_forall h.method).2 _ hmem)
      omega
    · have hrange := h.target.2 _ hmem
      omega
  · obtain ⟨field, hfield, rfl⟩ := List.mem_map.1 hline
    rw [h.fields, List.mem_append, List.mem_append, List.mem_singleton] at hfield
    rcases hfield with (hfield | hfield) | rfl
    · exact lineFeed_not_mem_fieldLine (hfirst field hfield).1 (hfirst field hfield).2
    · refine lineFeed_not_mem_fieldLine (h.rest field hfield).1 fun hmem => ?_
      have hbyte := List.all_eq_true.1 (h.rest field hfield).2 10 (mem_utf8_of_mem hmem rfl)
      exact absurd hbyte (by decide)
    · refine lineFeed_not_mem_fieldLine (show isToken "Content-Length" = true by decide +kernel) ?_
      exact Uri.not_mem_digits (by decide) head.contentLength

variable {Target : Type} {uris : UriCrate Target}

/-- A request with an override on one line is written on lines. -/
theorem oneLined_sentHead (hpaths : uris.Printable) (request : PreparedRequest Target)
    {customHost : Option String} (hhost : ∀ host ∈ customHost, '\n' ∉ host.toList) :
    (sentHead uris request request.body.length customHost).OneLined := by
  refine (plain_sentHead hpaths request customHost).oneLined fun field hfield => ?_
  obtain ⟨host, hmem, rfl⟩ := List.mem_map.1 hfield
  exact ⟨show isToken "Host" = true by decide +kernel, hhost host (Option.mem_toList.1 hmem)⟩

/-- No name of a field has a colon. -/
theorem colon_not_mem_sentHead (hpaths : uris.Printable) (request : PreparedRequest Target)
    (customHost : Option String) :
    ∀ field ∈ (sentHead uris request request.body.length customHost).fields,
      ':' ∉ field.1.toList := by
  have hplain := plain_sentHead hpaths request customHost
  intro field hfield hmem
  rw [hplain.fields, List.mem_append] at hfield
  rcases hfield with hfield | hfield
  · obtain ⟨host, -, rfl⟩ := List.mem_map.1 hfield
    exact absurd hmem (show ':' ∉ "Host".toList by decide)
  · have htoken := isToken_forall (hplain.rest field hfield).1
    exact (isTokenChar_range (htoken.2 _ hmem)).2.2 rfl

end

/-! ### In the inspector -/

namespace Bridge

variable {Target : Type} {uris : UriCrate Target} {stamp : CaptureStamp} {maxBodyBytes : UInt64}
  {bridge : Bridge}

/-- The request of a capture is that of the parser. -/
theorem capture_request {capture : CapturedRequest}
    (hparse : parseRequestForCapture stamp bridge.request.capture.bytes maxBodyBytes =
      some capture) :
    ∃ made, bridge.capture stamp maxBodyBytes = some made ∧ made.reqMethod = capture.reqMethod ∧
      made.reqUrl = capture.reqUrl ∧ made.reqHeaders = capture.reqHeaders := by
  rw [Bridge.capture, captureExchange, hparse, Option.map_some]
  refine ⟨_, rfl, ?_⟩
  unfold CapturedRequest.answered
  split <;> exact ⟨rfl, rfl, rfl⟩

/-- A replay sends the request again: to the local port, without secrets, and with a `Host` of
its own. -/
structure Resends (request : PreparedRequest Target) (head : SentHead) (localPort : UInt16)
    (replayed : ReplayedRequest) : Prop where
  method : replayed.method = request.method
  url : replayed.url = "http://127.0.0.1:" ++ toString localPort.toNat ++ head.target
  headers : replayed.headers = (sanitizeHeaders (head.fields ++ [head.lengthField])).filter
    fun header => !Text.eqIgnoreAsciiCase header.1 "host"
  body : replayed.body.getD [] = request.body

/-- The local port is where a URL of a replay leads, if the target ends an authority. -/
theorem authority_replayed (localPort : UInt16) {target : String}
    (h : ∃ c rest, target.toList = c :: rest ∧ Uri.endsAuthority c = true) :
    (Uri.splitUrl ("http://127.0.0.1:" ++ toString localPort.toNat ++ target).toList).bind
        (fun url => Uri.splitAuthority url.2) =
      some ("127.0.0.1".toList, some localPort.toNat) := by
  obtain ⟨c, rest, htarget, hc⟩ := h
  have hurl : ("http://127.0.0.1:" ++ toString localPort.toNat ++ target).toList =
      "http".toList ++ ':' :: '/' :: '/' ::
        ("127.0.0.1".toList ++ ':' :: (toString localPort.toNat).toList) ++ c :: rest := by
    rw [String.toList_append, String.toList_append, htarget]
    rfl
  have hauthority : ∀ c ∈ "127.0.0.1".toList ++ ':' :: (toString localPort.toNat).toList,
      Uri.endsAuthority c = false := by
    have hhost : "127.0.0.1".toList.all (fun c => !Uri.endsAuthority c) = true := by decide
    refine List.forall_mem_append.2 ⟨fun d hd => ?_, List.forall_mem_cons.2 ⟨by decide, ?_⟩⟩
    · simpa only [Bool.not_eq_true'] using List.all_eq_true.1 hhost d hd
    intro d hd
    rw [Uri.endsAuthority_eq_false]
    refine ⟨?_, ?_, ?_⟩ <;>
    · rintro rfl
      exact Uri.not_mem_digits (by decide) _ hd
  rw [hurl, Uri.splitUrl_append (by decide) hauthority hc, Option.bind_some]
  exact Uri.splitAuthority_host (by decide) (by decide) localPort.toNat

/-- A request with a `Host`, as the server writes it. -/
def hostRequest : ByteStream UInt8 :=
  ⟨[sentBytes rootOnly (getRequest [(.host, .exampleCom)]) none], .eof, by decide +kernel⟩

theorem isSome_carried : ((machine hostRequest ⟨[], .eof, nofun⟩ 10).run
    ⟨.new hostRequest 10, .new ⟨[], .eof, nofun⟩ 10⟩
    [(.request, .read), (.response, .read), (.request, .accept 20), (.response, .shutdown),
      (.request, .accept 36), (.request, .read), (.request, .shutdown)]).isSome = true := by
  decide +kernel

end Bridge

end Rgrok
