/-
# Secret fields and what inspection shows

`proxy_request_to_tunnel` in `crates/rgrok-server/src/proxy.rs`, run twice on
requests and responses that differ in the values of secret fields only.

A secret value is in no capture, but it is read with the rest of its head, and a
head that is not UTF-8 or too long makes `read_http_response` fail.  So what
inspection shows of the two runs is the same just when the response is read in both
or in neither; what it shows of the requests is the same anyway
(`secrets_do_not_show_iff`).
-/

import Mathlib.Data.List.Forall2
import Rgrok.Proto.InspectJson
import Rgrok.Server.Inspection
import Rgrok.Server.Replay
import Rgrok.Server.ResponseBytes
import Rgrok.Server.ResponseDecoding
import Rgrok.Server.ResponseUnique
import Rgrok.Server.StoreInvariant

namespace Rgrok

/-! ### Messages that differ in secrets -/

/-- Fields with one name; the values are the same unless the name is secret. -/
def SameHeader (field field' : String × String) : Prop :=
  field'.1 = field.1 ∧ (field'.2 = field.2 ∨ isSensitiveHeader field.1 = true)

/-- Lines of a head: the same, or a secret field with two values. -/
inductive AlikeLine : List UInt8 → List UInt8 → Prop
  | same (line : List UInt8) : AlikeLine line line
  | secret (name : String) (value value' : List UInt8) (hname : isSensitiveHeader name = true)
      (hcolon : ':' ∉ name.toList) :
      AlikeLine (Text.utf8 name ++ 58 :: value) (Text.utf8 name ++ 58 :: value')

/-- The lines of a head with their ends, and the empty line. -/
def headBytes (lines : List (List UInt8)) : List UInt8 :=
  (lines.flatMap fun line => line ++ crlf) ++ crlf

/-- No line of a head is empty or contains its end. -/
def AreHeadLines (lines : List (List UInt8)) : Prop :=
  ∀ line ∈ lines, line ≠ [] ∧ ¬ crlf <:+: line

/-- The status line of a response that another one follows. -/
def IsInformationalLine (line : List UInt8) : Prop :=
  ∃ text status, Text.fromUtf8 line = some text ∧ parseStatusLine text.toList = .ok status ∧
    100 ≤ status ∧ status < 200 ∧ status ≠ 101

/-- Responses that differ in the values of secret fields, if at all: heads line by line,
and the same body. -/
inductive AlikeResponse : List UInt8 → List UInt8 → Prop
  | same (bytes : List UInt8) : AlikeResponse bytes bytes
  | head (status : List UInt8) (fields fields' : List (List UInt8)) (rest rest' : List UInt8)
      (hlines : AreHeadLines (status :: fields)) (hlines' : AreHeadLines (status :: fields'))
      (hfields : List.Forall₂ AlikeLine fields fields') (hrest : AlikeResponse rest rest')
      (hbody : IsInformationalLine status ∨ rest' = rest) :
      AlikeResponse (headBytes (status :: fields) ++ rest) (headBytes (status :: fields') ++ rest')

variable {Uri : Type}

/-- Requests that differ in the values of secret fields, if at all. -/
structure PreparedRequest.Alike (request request' : PreparedRequest Uri) : Prop where
  method : request'.method = request.method
  uri : request'.uri = request.uri
  headers : List.Forall₂ (fun field field' => field'.1 = field.1 ∧
    (field'.2 = field.2 ∨ isSensitiveHeader field.1.name = true)) request.headers.iter
      request'.headers.iter
  body : request'.body = request.body

/-- Surroundings with the same ids and clock, and alike responses. -/
structure Exchange.Alike (x x' : Exchange) : Prop where
  newId : x'.newId = x.newId
  capturedAt : x'.capturedAt = x.capturedAt
  durationMs : x'.durationMs = x.durationMs
  streamOpened : x'.streamOpened = x.streamOpened
  headWritten : x'.headWritten = x.headWritten
  bodyWritten : x'.bodyWritten = x.bodyWritten
  response : AlikeResponse x.response.bytes x'.response.bytes

/-! ### Fields -/

section Fields

variable {headers headers' : List (String × String)}

/-- The case of a name does not matter. -/
theorem isSensitiveHeader_congr {s t : String} (h : Text.eqIgnoreAsciiCase s t = true) :
    isSensitiveHeader s = isSensitiveHeader t := by
  rw [Text.eqIgnoreAsciiCase, beq_iff_eq] at h
  rw [isSensitiveHeader, isSensitiveHeader, Text.toAsciiLowercase_trim, Text.toAsciiLowercase_trim,
    h]

/-- What is captured of alike fields is the same. -/
theorem sanitizeHeaders_alike (h : List.Forall₂ SameHeader headers headers') :
    sanitizeHeaders headers' = sanitizeHeaders headers := by
  induction h with
  | nil => rfl
  | cons hfield _ ih =>
      obtain ⟨hname, hvalue⟩ := hfield
      rw [sanitizeHeaders, List.filter_cons, sanitizeHeaders, List.filter_cons, hname]
      split
      · rename_i hkept
        have hsame := hvalue.resolve_right (by simpa using hkept)
        exact congr (congrArg _ (Prod.ext hname hsame)) ih
      · exact ih

/-- The values of a name that is not secret are the same. -/
theorem headerValues_alike {name : String} (hname : isSensitiveHeader name = false)
    (h : List.Forall₂ SameHeader headers headers') :
    headerValues headers' name = headerValues headers name := by
  induction h with
  | nil => rfl
  | @cons field field' fields fields' hfield _ ih =>
      obtain ⟨hsame, hvalue⟩ := hfield
      rw [headerValues, List.filter_cons, headerValues, List.filter_cons, hsame]
      split
      · rename_i heq
        have hplain := hvalue.resolve_right (by
          rw [isSensitiveHeader_congr heq, hname]
          exact Bool.false_ne_true)
        rw [List.map_cons, List.map_cons, hplain]
        exact congrArg _ ih
      · exact ih

/-- The request part of a capture has no secrets. -/
theorem capturedFields_alike {fields fields' : List (HeaderName × HeaderValue)}
    (h : List.Forall₂ (fun field field' => field'.1 = field.1 ∧
      (field'.2 = field.2 ∨ isSensitiveHeader field.1.name = true)) fields fields') :
    capturedFields fields' = capturedFields fields := by
  induction h with
  | nil => rfl
  | @cons field field' fields fields' hfield _ ih =>
      obtain ⟨name, value⟩ := field
      obtain ⟨name', value'⟩ := field'
      obtain ⟨rfl, hvalue⟩ := hfield
      rw [capturedFields_cons, capturedFields_cons, ih]
      rcases hvalue with rfl | hsecret
      · rfl
      · rw [if_pos hsecret, if_pos hsecret]

end Fields

/-! ### Heads -/

section Heads

variable {status : List UInt8} {fields : List (List UInt8)} {rest : List UInt8}

/-- The lines of a head that is UTF-8. -/
theorem exists_lines_of_utf8 {lines : List (List UInt8)} {chars : List Char}
    (h : Text.utf8 (String.ofList chars) = headBytes lines) :
    ∃ texts : List (List Char), lines = texts.map (fun text => Text.utf8 (String.ofList text)) ∧
      chars = sectionText texts := by
  rw [Text.utf8_eq_flatMap, String.toList_ofList] at h
  induction lines generalizing chars with
  | nil =>
      obtain ⟨t, rfl, ht⟩ := Text.cons_of_utf8 (c := '\r') rfl (by decide) h
      obtain ⟨t', rfl, ht'⟩ := Text.cons_of_utf8 (c := '\n') rfl (by decide) ht
      cases t' with
      | nil => exact ⟨[], rfl, rfl⟩
      | cons c t' =>
          rw [List.flatMap_cons, List.append_eq_nil_iff] at ht'
          exact absurd ht'.1 String.utf8EncodeChar_ne_nil
  | cons line lines ih =>
      rw [headBytes, List.flatMap_cons, List.append_assoc, List.append_assoc] at h
      obtain ⟨text, t, rfl, hline, ht⟩ := Text.split_of_utf8 (c := '\r') rfl (by decide) h
      obtain ⟨t', rfl, ht'⟩ := Text.cons_of_utf8 (c := '\n') rfl (by decide) ht
      obtain ⟨texts, rfl, rfl⟩ := ih ht'
      refine ⟨text :: texts, ?_, ?_⟩
      · rw [List.map_cons, Text.utf8_eq_flatMap, String.toList_ofList, hline]
      · rw [sectionText, sectionText, List.flatMap_cons, List.append_assoc, List.append_assoc]
        rfl

/-- What a head is read as: its status, and its fields. -/
theorem readOneHead_headBytes {intake intake' : Intake UInt8} {head : ℕ × List (String × String)}
    (hlines : AreHeadLines (status :: fields))
    (hbytes : intake.bytes = headBytes (status :: fields) ++ rest)
    (h : readOneHead intake = .done head intake') :
    ∃ (statusLine : List Char) (lines : List (List Char)),
      status = Text.utf8 (String.ofList statusLine) ∧
      fields = lines.map (fun text => Text.utf8 (String.ofList text)) ∧
      parseStatusLine statusLine = .ok head.1 ∧
      parseHeaderLines (lines ++ [[], []]) = .ok head.2 ∧ intake'.bytes = rest := by
  obtain ⟨n, text, hpos, htext, hparse, hrest, -⟩ := readOneHead_done h
  obtain ⟨m, hm, hlen⟩ := position_section (List.cons_ne_nil _ _) hlines
  have hlen' : m + 4 = (headBytes (status :: fields)).length := hlen
  rw [hbytes, position_append (show position crlfCrlf (headBytes (status :: fields)) = some m
    from hm)] at hpos
  obtain rfl := Option.some.inj hpos
  rw [hbytes, hlen', List.take_left] at htext
  rw [hbytes, hlen', List.drop_left] at hrest
  have hutf8 : Text.utf8 (String.ofList text.toList) = headBytes (status :: fields) := by
    rw [String.ofList_toList]
    exact Text.utf8_of_fromUtf8 htext
  obtain ⟨texts, htexts, hchars⟩ := exists_lines_of_utf8 hutf8
  cases texts with
  | nil => cases htexts
  | cons statusLine lines =>
      obtain ⟨rfl, rfl⟩ := List.cons.inj htexts
      have hends : ∀ line ∈ statusLine :: lines, ¬ ['\r', '\n'] <:+: line := by
        rintro line hline ⟨before, after, hinfix⟩
        have hmem : Text.utf8 (String.ofList line) ∈
            (statusLine :: lines).map fun text => Text.utf8 (String.ofList text) :=
          List.mem_map_of_mem hline
        refine (hlines _ hmem).2
          ⟨Text.utf8 (String.ofList before), Text.utf8 (String.ofList after), ?_⟩
        rw [← utf8_crlf, ← utf8_ofList_append, ← utf8_ofList_append, hinfix]
      rw [parseResponseHeaders, hchars, sectionText, splitCrlf_lines hends,
        List.cons_append] at hparse
      dsimp only at hparse
      cases hstatus : parseStatusLine statusLine with
      | error error =>
          rw [hstatus] at hparse
          cases hparse
      | ok code =>
          rw [hstatus] at hparse
          cases hfields : parseHeaderLines (lines ++ [[], []]) with
          | error error =>
              rw [hfields] at hparse
              cases hparse
          | ok headers =>
              rw [hfields] at hparse
              obtain rfl := Except.ok.inj hparse
              exact ⟨statusLine, lines, rfl, rfl, hstatus, hfields, hrest⟩

/-- A secret field is a name, a colon and a value. -/
theorem breakOn_of_utf8 {line : List Char} {name : String} {value : List UInt8}
    (hcolon : ':' ∉ name.toList)
    (h : Text.utf8 (String.ofList line) = Text.utf8 name ++ 58 :: value) :
    ∃ text, Text.breakOn ':' line = some (name.toList, text) := by
  rw [Text.utf8_eq_flatMap, String.toList_ofList] at h
  obtain ⟨before, text, rfl, hname, -⟩ := Text.split_of_utf8 (c := ':') rfl (by decide) h
  have hsame : String.ofList before = name := Text.utf8_inj (by
    rw [Text.utf8_eq_flatMap, String.toList_ofList, hname])
  refine ⟨text, Text.breakOn_eq_some.2 ⟨?_, hcolon⟩⟩
  rw [← hsame, String.toList_ofList]

/-- The first line is the end, or a field in front of the others. -/
theorem parseHeaderLines_cons_eq_ok {line : List Char} {lines : List (List Char)}
    {headers : List (String × String)} (h : parseHeaderLines (line :: lines) = .ok headers) :
    line = [] ∧ headers = [] ∨ ∃ name value headers', Text.breakOn ':' line = some (name, value) ∧
      parseHeaderLines lines = .ok headers' ∧
      headers = (String.ofList (Text.trimChars name), String.ofList (Text.trimChars value)) ::
        headers' := by
  rw [parseHeaderLines] at h
  split at h
  · rename_i hempty
    exact Or.inl ⟨List.isEmpty_iff.1 hempty, (Except.ok.inj h).symm⟩
  · cases hbreak : Text.breakOn ':' line with
    | none =>
        rw [hbreak] at h
        cases h
    | some field =>
        obtain ⟨name, value⟩ := field
        rw [hbreak] at h
        dsimp only at h
        split at h
        · cases h
        · cases hlines : parseHeaderLines lines with
          | error error =>
              rw [hlines] at h
              cases h
          | ok headers' =>
              rw [hlines] at h
              exact Or.inr ⟨name, value, headers', rfl, rfl, (Except.ok.inj h).symm⟩

theorem isSensitiveHeader_trim (name : String) :
    isSensitiveHeader (String.ofList (Text.trimChars name.toList)) = isSensitiveHeader name := by
  have htrim : Text.trim (String.ofList (Text.trimChars name.toList)) = Text.trim name := by
    rw [Text.trim, Text.trim, String.toList_ofList, Text.trimChars_trimChars]
  rw [isSensitiveHeader, isSensitiveHeader, htrim]

/-- Alike lines are both empty, or begin with one name; the values are the same, or the
name is secret. -/
theorem AlikeLine.sameHeader {line line' name name' value value' : List Char}
    (h : AlikeLine (Text.utf8 (String.ofList line)) (Text.utf8 (String.ofList line')))
    (hbreak : Text.breakOn ':' line = some (name, value))
    (hbreak' : Text.breakOn ':' line' = some (name', value')) :
    SameHeader (String.ofList (Text.trimChars name), String.ofList (Text.trimChars value))
      (String.ofList (Text.trimChars name'), String.ofList (Text.trimChars value')) := by
  generalize hbytes : Text.utf8 (String.ofList line) = bytes at h
  generalize hbytes' : Text.utf8 (String.ofList line') = bytes' at h
  cases h with
  | same =>
      have hline : line = line' := String.ofList_inj.1 (Text.utf8_inj (hbytes.trans hbytes'.symm))
      rw [hline, hbreak'] at hbreak
      obtain ⟨rfl, rfl⟩ := Prod.mk.inj (Option.some.inj hbreak)
      exact ⟨rfl, Or.inl rfl⟩
  | secret text value₁ value₂ hname hcolon =>
      obtain ⟨rest, hrest⟩ := breakOn_of_utf8 hcolon hbytes
      obtain ⟨rest', hrest'⟩ := breakOn_of_utf8 hcolon hbytes'
      rw [hrest] at hbreak
      rw [hrest'] at hbreak'
      obtain ⟨rfl, rfl⟩ := Prod.mk.inj (Option.some.inj hbreak)
      obtain ⟨rfl, rfl⟩ := Prod.mk.inj (Option.some.inj hbreak')
      exact ⟨rfl, Or.inr ((isSensitiveHeader_trim text).trans hname)⟩

theorem AlikeLine.eq_nil {line line' : List UInt8} (h : AlikeLine line line') :
    line = [] ↔ line' = [] := by
  cases h with
  | same => exact Iff.rfl
  | secret => simp

/-- Alike lines are read as alike fields. -/
theorem parseHeaderLines_alike {lines lines' : List (List Char)}
    {headers headers' : List (String × String)}
    (hlines : List.Forall₂ AlikeLine
      (lines.map fun text => Text.utf8 (String.ofList text))
      (lines'.map fun text => Text.utf8 (String.ofList text)))
    (h : parseHeaderLines (lines ++ [[], []]) = .ok headers)
    (h' : parseHeaderLines (lines' ++ [[], []]) = .ok headers') :
    List.Forall₂ SameHeader headers headers' := by
  induction lines generalizing lines' headers headers' with
  | nil =>
      cases lines' with
      | nil =>
          obtain rfl := Except.ok.inj h
          obtain rfl := Except.ok.inj h'
          exact .nil
      | cons line' lines' => cases hlines
  | cons line lines ih =>
      cases lines' with
      | nil => cases hlines
      | cons line' lines' =>
          obtain ⟨hline, hrest⟩ := List.forall₂_cons.1 hlines
          have hnil : ∀ text : List Char, Text.utf8 (String.ofList text) = [] ↔ text = [] := by
            intro text
            refine ⟨fun hempty => ?_, fun hempty => by rw [hempty]; rfl⟩
            by_contra hne
            exact utf8_ne_nil hne hempty
          have hempty : line = [] ↔ line' = [] := by
            rw [← hnil line, ← hnil line']
            exact hline.eq_nil
          rcases parseHeaderLines_cons_eq_ok h with ⟨hend, rfl⟩ |
            ⟨name, value, others, hbreak, hothers, rfl⟩
          · rcases parseHeaderLines_cons_eq_ok h' with ⟨-, rfl⟩ | ⟨name', value', _, hbreak', -, -⟩
            · exact .nil
            · rw [hempty.1 hend] at hbreak'
              cases hbreak'
          · rcases parseHeaderLines_cons_eq_ok h' with ⟨hend', -⟩ |
              ⟨name', value', others', hbreak', hothers', rfl⟩
            · rw [hempty.2 hend'] at hbreak
              cases hbreak
            · exact .cons (hline.sameHeader hbreak hbreak') (ih hrest hothers hothers')

/-- **Alike responses have alike heads**, and as long as one follows, alike rests. -/
theorem readOneHead_alike {intake intake' other other' : Intake UInt8}
    {head head' : ℕ × List (String × String)} (halike : AlikeResponse intake.bytes other.bytes)
    (h : readOneHead intake = .done head intake') (h' : readOneHead other = .done head' other') :
    head'.1 = head.1 ∧ List.Forall₂ SameHeader head.2 head'.2 ∧
      AlikeResponse intake'.bytes other'.bytes ∧
      (¬ (100 ≤ head.1 ∧ head.1 < 200 ∧ head.1 ≠ 101) → other'.bytes = intake'.bytes) := by
  generalize hbytes : intake.bytes = bytes at halike
  generalize hbytes' : other.bytes = bytes' at halike
  cases halike with
  | same =>
      obtain ⟨n, text, hpos, htext, hparse, hrest, -⟩ := readOneHead_done h
      obtain ⟨n', text', hpos', htext', hparse', hrest', -⟩ := readOneHead_done h'
      rw [hbytes] at hpos htext hrest
      rw [hbytes'] at hpos' htext' hrest'
      obtain rfl := Option.some.inj (hpos.symm.trans hpos')
      obtain rfl := Option.some.inj (htext.symm.trans htext')
      obtain rfl := Except.ok.inj (hparse.symm.trans hparse')
      have hsame : other'.bytes = intake'.bytes := hrest'.trans hrest.symm
      refine ⟨rfl, List.forall₂_same.2 fun field _ => ⟨rfl, Or.inl rfl⟩, ?_, fun _ => hsame⟩
      rw [hsame]
      exact .same _
  | head status fields fields' rest rest' hlines hlines' hfields hrest hbody =>
      obtain ⟨statusLine, lines, rfl, rfl, hstatus, hheaders, hleft⟩ :=
        readOneHead_headBytes hlines hbytes h
      obtain ⟨statusLine', lines', hsame, rfl, hstatus', hheaders', hleft'⟩ :=
        readOneHead_headBytes hlines' hbytes' h'
      obtain rfl := String.ofList_inj.1 (Text.utf8_inj hsame)
      have hcode : head'.1 = head.1 := Except.ok.inj (hstatus'.symm.trans hstatus)
      refine ⟨hcode, parseHeaderLines_alike hfields hheaders hheaders', ?_, fun hfinal => ?_⟩
      · rw [hleft, hleft']
        exact hrest
      · rw [hleft, hleft']
        refine hbody.resolve_left ?_
        rintro ⟨text, code, htext, hparse, hinformational⟩
        rw [Text.fromUtf8_utf8] at htext
        obtain rfl := Option.some.inj htext
        rw [String.toList_ofList, hstatus] at hparse
        obtain rfl := Except.ok.inj hparse
        exact hfinal hinformational

/-- The final heads are alike, and the bodies behind them the same. -/
theorem readHeads_alike {room : ℕ} {intake intake' other other' : Intake UInt8}
    {head head' : ℕ × List (String × String)} (halike : AlikeResponse intake.bytes other.bytes)
    (h : readHeads room intake = .done head intake')
    (h' : readHeads room other = .done head' other') :
    head'.1 = head.1 ∧ List.Forall₂ SameHeader head.2 head'.2 ∧
      other'.bytes = intake'.bytes := by
  induction room using Nat.strongRecOn generalizing intake other with
  | ind room ih =>
      obtain ⟨first, intake₁, hone, hcases⟩ := readHeads_cases h
      obtain ⟨first', other₁, hone', hcases'⟩ := readHeads_cases h'
      obtain ⟨hcode, hfields, hrest, hbody⟩ := readOneHead_alike halike hone hone'
      rcases hcases with ⟨room', rfl, hmore, hnext⟩ | ⟨hfinal, rfl, rfl⟩
      · rcases hcases' with ⟨room'', hroom, -, hnext'⟩ | ⟨hfinal', -, -⟩
        · obtain rfl := Nat.succ.inj hroom
          exact ih room' (Nat.lt_succ_self _) hrest hnext hnext'
        · rw [hcode] at hfinal'
          exact absurd hmore hfinal'
      · rcases hcases' with ⟨_, -, hmore', -⟩ | ⟨-, rfl, rfl⟩
        · rw [hcode] at hmore'
          exact absurd hmore' hfinal
        · exact ⟨hcode, hfields, hbody hfinal⟩

end Heads

/-! ### Responses -/

/-- **Alike responses that are read** have the same status and body, and alike fields. -/
theorem readHttpResponse_alike {method : Method} {maxBodyBytes : ℕ}
    {stream stream' : ByteStream UInt8} {parsed parsed' : ParsedHttpResponse}
    {intake intake' : Intake UInt8} (halike : AlikeResponse stream.bytes stream'.bytes)
    (h : readHttpResponse method maxBodyBytes stream = .done parsed intake)
    (h' : readHttpResponse method maxBodyBytes stream' = .done parsed' intake') :
    parsed'.statusCode = parsed.statusCode ∧
      List.Forall₂ SameHeader parsed.headers parsed'.headers ∧ parsed'.body = parsed.body := by
  obtain ⟨⟨status, headers⟩, intake₁, hheads, h⟩ := Outcome.bind_eq_done.1 h
  obtain ⟨⟨status', headers'⟩, intake₁', hheads', h'⟩ := Outcome.bind_eq_done.1 h'
  obtain ⟨body, intake₂, hbody, h⟩ := Outcome.bind_eq_done.1 h
  obtain ⟨body', intake₂', hbody', h'⟩ := Outcome.bind_eq_done.1 h'
  obtain ⟨rfl, -⟩ := Outcome.done.inj h
  obtain ⟨rfl, -⟩ := Outcome.done.inj h'
  have hstart : AlikeResponse (Intake.mk [] stream).bytes (Intake.mk [] stream').bytes := halike
  obtain ⟨hcode, hfields, hrest⟩ := readHeads_alike hstart hheads hheads'
  have hcode : status' = status := hcode
  have hlength := @headerValues_alike _ _ "content-length" (by decide +kernel) hfields
  have hcodings := @headerValues_alike _ _ "transfer-encoding" (by decide +kernel) hfields
  rw [hcode] at hbody'
  refine ⟨hcode, hfields, (readBody_unique ?_ ?_ hrest.symm hbody hbody').symm⟩
  · rw [transferCodings, transferCodings, hcodings]
  · rw [parseContentLength, parseContentLength, hlength]

/-! ### What is shown -/

/-- The request part of a capture. -/
def CapturedRequest.withoutResponse (capture : CapturedRequest) : CapturedRequest :=
  { capture with
    durationMs := none
    respStatus := none
    respHeaders := none
    respBody := none
    respBodyTruncated := false }

def InspectEvent.isNewRequest : InspectEvent → Bool
  | .newRequest _ => true
  | .requestCompleted _ _ _ => false

/-- What a replay of the capture sends into the tunnel. -/
def replayText (uris : UriCrate Uri) (tunnel : TunnelSession) (capture : CapturedRequest) :
    Except StatusCode String :=
  (prepareReplay uris capture).map fun request =>
    serializeHttpRequest uris request request.body.length
      (customHost tunnel.options tunnel.subdomain true)

/-- Two runs show the same of their requests. -/
structure SameRequests (uris : UriCrate Uri) (f f' : Forwarded) : Prop where
  captures : ∀ name,
    (f'.state.captures.lookup name).map (List.map CapturedRequest.withoutResponse) =
      (f.state.captures.lookup name).map (List.map CapturedRequest.withoutResponse)
  events : f'.events.filter InspectEvent.isNewRequest = f.events.filter InspectEvent.isNewRequest
  replayed : ∀ tunnel name,
    (f'.state.captures.lookup name).map (List.map (replayText uris tunnel)) =
      (f.state.captures.lookup name).map (List.map (replayText uris tunnel))

/-- Two runs show the same: the captures and the events, as JSON, and read back and
written again. -/
structure SameShown (dates : Dates) (f f' : Forwarded) : Prop where
  captures : f'.state.captures = f.state.captures
  events : f'.events = f.events
  captureJson : ∀ name,
    (f'.state.captures.lookup name).map (List.map (CapturedRequest.toJson dates)) =
      (f.state.captures.lookup name).map (List.map (CapturedRequest.toJson dates))
  eventJson : f'.events.map (InspectEvent.toJson dates) = f.events.map (InspectEvent.toJson dates)
  captureRoundTrip : ∀ name,
    (f'.state.captures.lookup name).map (List.map fun capture =>
        (CapturedRequest.fromJson dates (capture.toJson dates)).map fun read =>
          read.toJson dates) =
      (f.state.captures.lookup name).map (List.map fun capture =>
        (CapturedRequest.fromJson dates (capture.toJson dates)).map fun read =>
          read.toJson dates)
  eventRoundTrip :
    (f'.events.map fun event =>
        (InspectEvent.fromJson dates (event.toJson dates)).map fun read => read.toJson dates) =
      f.events.map fun event =>
        (InspectEvent.fromJson dates (event.toJson dates)).map fun read => read.toJson dates

theorem SameShown.of_eq {dates : Dates} {f f' : Forwarded}
    (hcaptures : f'.state.captures = f.state.captures) (hevents : f'.events = f.events) :
    SameShown dates f f' where
  captures := hcaptures
  events := hevents
  captureJson name := by rw [hcaptures]
  eventJson := by rw [hevents]
  captureRoundTrip name := by rw [hcaptures]
  eventRoundTrip := by rw [hevents]

/-- The id the request is captured under, if it is. -/
def Exchange.captureId (x : Exchange) (tunnel : TunnelSession) (captureId : Option String) :
    Option String :=
  if x.streamOpened && (tunnel.options.inspect || captureId.isSome) then
    some (captureId.getD x.newId)
  else none

/-- The response that is read, if one is. -/
def Exchange.responseTo (x : Exchange) (request : PreparedRequest Uri) (maxBodyBytes : ℕ) :
    Option ParsedHttpResponse :=
  if x.streamOpened && x.headWritten && (request.body.isEmpty || x.bodyWritten) then
    match readHttpResponse request.method maxBodyBytes x.response with
    | .done parsed _ => some parsed
    | _ => none
  else none

/-- The captures and events behind those of the request, when the response is there. -/
def captureAfter (before : ServerState × List InspectEvent) (subdomain : String)
    (captureId : Option String) (durationMs : ℕ) :
    Option ParsedHttpResponse → ServerState × List InspectEvent
  | none => before
  | some parsed =>
      ((captureResponse before.1 subdomain captureId durationMs parsed).1,
        before.2 ++ (captureResponse before.1 subdomain captureId durationMs parsed).2)

section Runs

variable {uris : UriCrate Uri} {s : ServerState} {subdomain : String} {tunnel : TunnelSession}
  {captureId : Option String} {request request' : PreparedRequest Uri} {x x' : Exchange}

theorem config_captureRequest (uris : UriCrate Uri) (s : ServerState)
    (subdomain tunnelId : String) (captureId : Option String) (isReplay : Bool)
    (request : PreparedRequest Uri) (x : Exchange) :
    (captureRequest uris s subdomain tunnelId captureId isReplay request x).1.config =
      s.config := by
  unfold captureRequest ServerState.storeCapture
  split
  · split <;> rfl
  · rfl

/-- **What a run shows**: the capture of its request, and the response to it. -/
theorem proxyRequestToTunnel_shows (uris : UriCrate Uri) (s : ServerState) (subdomain : String)
    (tunnel : TunnelSession) (captureId : Option String) (request : PreparedRequest Uri)
    (x : Exchange) :
    ((proxyRequestToTunnel uris s subdomain tunnel captureId request x).state,
        (proxyRequestToTunnel uris s subdomain tunnel captureId request x).events) =
      captureAfter (captureRequest uris s subdomain tunnel.id (x.captureId tunnel captureId)
        captureId.isSome request x) subdomain (x.captureId tunnel captureId) x.durationMs
        (x.responseTo request s.config.server.maxResponseBodyBytes) := by
  rw [proxyRequestToTunnel, Exchange.captureId, Exchange.responseTo]
  cases x.streamOpened with
  | false => rfl
  | true =>
      simp only [Bool.not_true, Bool.false_eq_true, if_false, Bool.true_and]
      generalize (if (tunnel.options.inspect || captureId.isSome) = true then
        some (captureId.getD x.newId) else none) = id
      rw [config_captureRequest]
      generalize readHttpResponse request.method s.config.server.maxResponseBodyBytes x.response =
        outcome
      cases x.headWritten with
      | false => rfl
      | true =>
          cases hbody : request.body.isEmpty with
          | true =>
              simp only [Bool.not_true, Bool.false_eq_true, if_false, Bool.false_and, Bool.true_and,
                Bool.true_or, if_true]
              cases outcome <;> rfl
          | false =>
              cases x.bodyWritten with
              | false => rfl
              | true =>
                  simp only [Bool.not_true, Bool.not_false, Bool.false_eq_true, if_false,
                    Bool.and_false, Bool.true_and, Bool.false_or, if_true]
                  cases outcome <;> rfl

theorem state_proxyRequestToTunnel (uris : UriCrate Uri) (s : ServerState) (subdomain : String)
    (tunnel : TunnelSession) (captureId : Option String) (request : PreparedRequest Uri)
    (x : Exchange) :
    (proxyRequestToTunnel uris s subdomain tunnel captureId request x).state =
      (captureAfter (captureRequest uris s subdomain tunnel.id (x.captureId tunnel captureId)
        captureId.isSome request x) subdomain (x.captureId tunnel captureId) x.durationMs
        (x.responseTo request s.config.server.maxResponseBodyBytes)).1 :=
  congrArg Prod.fst (proxyRequestToTunnel_shows uris s subdomain tunnel captureId request x)

theorem events_proxyRequestToTunnel (uris : UriCrate Uri) (s : ServerState) (subdomain : String)
    (tunnel : TunnelSession) (captureId : Option String) (request : PreparedRequest Uri)
    (x : Exchange) :
    (proxyRequestToTunnel uris s subdomain tunnel captureId request x).events =
      (captureAfter (captureRequest uris s subdomain tunnel.id (x.captureId tunnel captureId)
        captureId.isSome request x) subdomain (x.captureId tunnel captureId) x.durationMs
        (x.responseTo request s.config.server.maxResponseBodyBytes)).2 :=
  congrArg Prod.snd (proxyRequestToTunnel_shows uris s subdomain tunnel captureId request x)

/-- What is stored and announced of a capture has no secrets. -/
theorem storeCapture_congr {capture capture' : CapturedRequest}
    (h : capture'.sanitize = capture.sanitize) (s : ServerState) (subdomain : String) :
    s.storeCapture subdomain capture' = s.storeCapture subdomain capture := by
  rw [ServerState.storeCapture, ServerState.storeCapture, h]

/-- Alike requests are captured alike. -/
theorem captureRequest_alike (hrequest : request.Alike request') (hx : x.Alike x')
    (uris : UriCrate Uri) (s : ServerState) (subdomain tunnelId : String)
    (captureId : Option String) (isReplay : Bool) :
    captureRequest uris s subdomain tunnelId captureId isReplay request' x' =
      captureRequest uris s subdomain tunnelId captureId isReplay request x := by
  cases captureId with
  | none => rfl
  | some id =>
      refine storeCapture_congr ?_ s subdomain
      have hfields := capturedFields_alike hrequest.headers
      rw [capturedFields, capturedFields] at hfields
      simp only [CapturedRequest.sanitize, captureOf, hfields, hrequest.method, hrequest.uri,
        hrequest.body, hx.capturedAt]

theorem captureId_alike (hx : x.Alike x') (tunnel : TunnelSession)
    (captureId : Option String) : x'.captureId tunnel captureId = x.captureId tunnel captureId := by
  rw [Exchange.captureId, Exchange.captureId, hx.streamOpened, hx.newId]

/-- The response part of a capture has no secrets either. -/
theorem completionOf_alike {parsed parsed' : ParsedHttpResponse}
    (hcode : parsed'.statusCode = parsed.statusCode)
    (hfields : List.Forall₂ SameHeader parsed.headers parsed'.headers)
    (hbody : parsed'.body = parsed.body) (durationMs : ℕ) :
    completionOf durationMs parsed' = completionOf durationMs parsed := by
  rw [completionOf, completionOf, hcode, sanitizeHeaders_alike hfields, hbody]

/-- Responses that are read in both runs are shown alike. -/
theorem captureResponse_alike (hrequest : request.Alike request') (hx : x.Alike x')
    {maxBodyBytes : ℕ} {parsed parsed' : ParsedHttpResponse}
    (h : x.responseTo request maxBodyBytes = some parsed)
    (h' : x'.responseTo request' maxBodyBytes = some parsed') (s : ServerState)
    (subdomain : String) (captureId : Option String) (durationMs : ℕ) :
    captureResponse s subdomain captureId durationMs parsed' =
      captureResponse s subdomain captureId durationMs parsed := by
  have hdone : ∀ {x : Exchange} {request : PreparedRequest Uri} {parsed : ParsedHttpResponse},
      x.responseTo request maxBodyBytes = some parsed →
        ∃ intake, readHttpResponse request.method maxBodyBytes x.response =
          .done parsed intake := by
    intro x request parsed h
    rw [Exchange.responseTo, Option.ite_none_right_eq_some] at h
    obtain ⟨-, h⟩ := h
    cases hread : readHttpResponse request.method maxBodyBytes x.response with
    | waiting =>
        rw [hread] at h
        cases h
    | failed error =>
        rw [hread] at h
        cases h
    | done parsed₁ intake =>
        rw [hread] at h
        obtain rfl := Option.some.inj h
        exact ⟨intake, rfl⟩
  obtain ⟨intake, hread⟩ := hdone h
  obtain ⟨intake', hread'⟩ := hdone h'
  rw [hrequest.method] at hread'
  obtain ⟨hcode, hfields, hbody⟩ := readHttpResponse_alike hx.response hread hread'
  cases captureId with
  | none => rfl
  | some id =>
      rw [captureResponse, captureResponse, completionOf_alike hcode hfields hbody, hcode]

/-- A response changes the response part of a capture. -/
theorem map_completeNewest {α : Type} {f : CapturedRequest → α}
    (hf : ∀ capture completion, f (CapturedRequest.complete capture completion) = f capture)
    (id : String) (completion : Completion) (queue : List CapturedRequest) :
    (completeNewest id completion queue).map f = queue.map f := by
  induction queue with
  | nil => rfl
  | cons capture queue ih =>
      rw [completeNewest]
      split
      · rw [List.map_cons, List.map_cons, ih]
      · split
        · rw [List.map_cons, List.map_cons, hf]
        · rfl

theorem map_captureAfter {α : Type} {f : CapturedRequest → α}
    (hf : ∀ capture completion, f (CapturedRequest.complete capture completion) = f capture)
    (before : ServerState × List InspectEvent) (subdomain : String) (captureId : Option String)
    (durationMs : ℕ) (response : Option ParsedHttpResponse) (name : String) :
    ((captureAfter before subdomain captureId durationMs response).1.captures.lookup name).map
        (List.map f) = (before.1.captures.lookup name).map (List.map f) := by
  cases response with
  | none => rfl
  | some parsed =>
      cases captureId with
      | none => rfl
      | some id =>
          dsimp only [captureAfter, captureResponse]
          rw [ServerState.completeCapture]
          cases hlookup : before.1.captures.lookup subdomain with
          | none => rfl
          | some queue =>
              dsimp only
              rw [AList.lookup_insert_ite]
              split
              · rename_i heq
                rw [heq, hlookup, Option.map_some, Option.map_some, map_completeNewest hf]
              · rfl

theorem filter_captureAfter (before : ServerState × List InspectEvent) (subdomain : String)
    (captureId : Option String) (durationMs : ℕ) (response : Option ParsedHttpResponse) :
    (captureAfter before subdomain captureId durationMs response).2.filter
        InspectEvent.isNewRequest = before.2.filter InspectEvent.isNewRequest := by
  cases response with
  | none => rfl
  | some parsed =>
      cases captureId with
      | none => exact congrArg _ (List.append_nil _)
      | some id =>
          dsimp only [captureAfter, captureResponse]
          rw [List.filter_append]
          exact List.append_nil _

/-- Without a capture a response does not show, with one it does. -/
theorem captureAfter_none (before : ServerState × List InspectEvent) (subdomain : String)
    (durationMs : ℕ) (response : Option ParsedHttpResponse) :
    captureAfter before subdomain none durationMs response = before := by
  cases response with
  | none => rfl
  | some parsed => exact Prod.ext rfl (List.append_nil _)

theorem length_captureAfter (before : ServerState × List InspectEvent) (subdomain id : String)
    (durationMs : ℕ) (response : Option ParsedHttpResponse) :
    (captureAfter before subdomain (some id) durationMs response).2.length =
      before.2.length + response.toList.length := by
  cases response with
  | none => rfl
  | some parsed => exact List.length_append

/-- **Secret values do not show**: for any two runs on requests and responses that differ in
them only, what is shown of the requests, and what a replay sends, is the same; and all
is the same just when the response is read in both runs or in neither, if there is a
capture at all. -/
theorem secrets_do_not_show_iff (uris : UriCrate Uri) (dates : Dates) (s : ServerState)
    (subdomain : String) (tunnel : TunnelSession) (captureId : Option String)
    (hrequest : request.Alike request') (hx : x.Alike x') :
    SameRequests uris (proxyRequestToTunnel uris s subdomain tunnel captureId request x)
        (proxyRequestToTunnel uris s subdomain tunnel captureId request' x') ∧
      (SameShown dates (proxyRequestToTunnel uris s subdomain tunnel captureId request x)
          (proxyRequestToTunnel uris s subdomain tunnel captureId request' x') ↔
        (x.captureId tunnel captureId ≠ none →
          (x'.responseTo request' s.config.server.maxResponseBodyBytes).isSome =
            (x.responseTo request s.config.server.maxResponseBodyBytes).isSome)) := by
  have hstate := state_proxyRequestToTunnel uris s subdomain tunnel captureId request x
  have hevents := events_proxyRequestToTunnel uris s subdomain tunnel captureId request x
  have hstate' := state_proxyRequestToTunnel uris s subdomain tunnel captureId request' x'
  have hevents' := events_proxyRequestToTunnel uris s subdomain tunnel captureId request' x'
  rw [captureId_alike hx, captureRequest_alike hrequest hx, hx.durationMs] at hstate' hevents'
  constructor
  · refine ⟨fun name => ?_, ?_, fun tunnel' name => ?_⟩
    · rw [hstate, hstate', map_captureAfter fun _ _ => rfl, map_captureAfter fun _ _ => rfl]
    · rw [hevents, hevents', filter_captureAfter, filter_captureAfter]
    · rw [hstate, hstate', map_captureAfter fun _ _ => rfl, map_captureAfter fun _ _ => rfl]
  · cases hid : x.captureId tunnel captureId with
    | none =>
        rw [hid, captureAfter_none] at hstate hevents hstate' hevents'
        refine ⟨fun _ hne => absurd rfl hne, fun _ => .of_eq ?_ (hevents'.trans hevents.symm)⟩
        rw [hstate, hstate']
    | some id =>
        rw [hid] at hstate hevents hstate' hevents'
        constructor
        · intro hsame _
          have hlen := congrArg List.length hsame.events
          rw [hevents, hevents', length_captureAfter, length_captureAfter] at hlen
          have hcount : ∀ response : Option ParsedHttpResponse,
              response.toList.length = if response.isSome then 1 else 0 := by
            intro response
            cases response <;> rfl
          rw [hcount, hcount] at hlen
          cases hread : (x.responseTo request s.config.server.maxResponseBodyBytes).isSome <;>
            cases hread' : (x'.responseTo request' s.config.server.maxResponseBodyBytes).isSome <;>
              simp [hread, hread'] at hlen ⊢
        · intro hread
          have hread := hread (Option.some_ne_none id)
          have hsame : captureAfter (captureRequest uris s subdomain tunnel.id (some id)
              captureId.isSome request x) subdomain (some id) x.durationMs
                (x'.responseTo request' s.config.server.maxResponseBodyBytes) =
              captureAfter (captureRequest uris s subdomain tunnel.id (some id)
                captureId.isSome request x) subdomain (some id) x.durationMs
                  (x.responseTo request s.config.server.maxResponseBodyBytes) := by
            cases h : x.responseTo request s.config.server.maxResponseBodyBytes with
            | none =>
                rw [h] at hread
                have hnone : x'.responseTo request' s.config.server.maxResponseBodyBytes = none :=
                  Option.not_isSome_iff_eq_none.1 (by rw [hread]; decide)
                rw [hnone]
            | some parsed =>
                rw [h] at hread
                obtain ⟨parsed', h'⟩ := Option.isSome_iff_exists.1 hread
                rw [h', captureAfter, captureAfter, captureResponse_alike hrequest hx h h']
          rw [hsame] at hstate' hevents'
          refine .of_eq ?_ (hevents'.trans hevents.symm)
          rw [hstate, hstate']

end Runs

/-! ### One cookie -/

/-- `204 No Content` with a cookie. -/
def noContent (cookie : List UInt8) : List UInt8 :=
  headBytes [Text.utf8 "HTTP/1.1 204 No Content", Text.utf8 "Set-Cookie" ++ 58 :: cookie]

/-- The client opens a stream, takes the request and sends this response. -/
def cookieExchange (cookie : List UInt8) : Exchange where
  newId := "capture"
  capturedAt := 0
  durationMs := 1
  streamOpened := true
  headWritten := true
  bodyWritten := true
  response := ⟨[noContent cookie], .eof, by simp [noContent, headBytes]⟩

/-- A session that is inspected. -/
def inspectedSession : TunnelSession :=
  { makeTestSession "web" "id" 0 with
    options := { hostHeader := none, inspect := true, responseHeader := [] } }

/-- The server with its tunnel. -/
def inspectedServer : ServerState :=
  (StoreOp.registerTunnel inspectedSession).apply (.new .default)

def decimalDates : Dates where
  render time := toString time
  parse s := s.toNat?

theorem cookieExchange_alike {cookie cookie' : List UInt8} (h : ¬ 13 ∈ cookie)
    (h' : ¬ 13 ∈ cookie') : (cookieExchange cookie).Alike (cookieExchange cookie') := by
  refine ⟨rfl, rfl, rfl, rfl, rfl, rfl, ?_⟩
  have hlines : ∀ cookie : List UInt8, ¬ 13 ∈ cookie →
      AreHeadLines
        [Text.utf8 "HTTP/1.1 204 No Content", Text.utf8 "Set-Cookie" ++ 58 :: cookie] := by
    intro cookie hcookie line hline
    rcases List.mem_cons.1 hline with rfl | hline
    · exact ⟨by decide, fun hin => absurd (hin.subset (show 13 ∈ crlf by decide)) (by decide)⟩
    · obtain rfl := List.mem_singleton.1 hline
      refine ⟨by simp, fun hin => ?_⟩
      have hmem := hin.subset (show 13 ∈ crlf by decide)
      rcases List.mem_append.1 hmem with hname | hvalue
      · exact absurd hname (by decide)
      · rcases List.mem_cons.1 hvalue with heq | hvalue
        · exact absurd heq (by decide)
        · exact hcookie hvalue
  have halike := AlikeResponse.head _ _ _ [] [] (hlines cookie h) (hlines cookie' h')
    (.cons (.secret "Set-Cookie" cookie cookie' (by decide +kernel) (by decide)) .nil) (.same [])
    (Or.inr rfl)
  exact halike

theorem getRequest_alike : (getRequest []).Alike (getRequest []) :=
  ⟨rfl, rfl, List.Forall₂.nil, rfl⟩

/-- What is read of a response without a body. -/
theorem responseTo_cookieExchange {cookie : List UInt8} (maxBodyBytes : ℕ)
    (h : ((headsOf maxInformationalResponses (noContent cookie)).all fun head =>
      head.1.1 == 204) = true) :
    (cookieExchange cookie).responseTo (getRequest []) maxBodyBytes =
      decodeResponse .GET maxBodyBytes (noContent cookie) := by
  have hbytes : (cookieExchange cookie).response.bytes = noContent cookie := List.append_nil _
  have hgives := @readHttpResponse_gives .GET maxBodyBytes (cookieExchange cookie).response rfl (by
    intro statusCode headers rest hheads hbody
    rw [hbytes] at hheads
    rw [hheads, Option.all_some, beq_iff_eq] at h
    obtain rfl : statusCode = 204 := h
    cases hbody)
  have hwritten : ((cookieExchange cookie).streamOpened && (cookieExchange cookie).headWritten &&
      ((getRequest []).body.isEmpty || (cookieExchange cookie).bodyWritten)) = true := rfl
  have hmethod : (getRequest []).method = .GET := rfl
  rw [hbytes] at hgives
  rw [Exchange.responseTo, if_pos hwritten, hmethod]
  cases hdecoded : decodeResponse .GET maxBodyBytes (noContent cookie) with
  | none =>
      rw [hdecoded] at hgives
      obtain ⟨error, herror⟩ := hgives
      rw [herror]
  | some parsed =>
      rw [hdecoded] at hgives
      obtain ⟨intake, hdone⟩ := hgives
      rw [hdone]

theorem responseTo_a (maxBodyBytes : ℕ) :
    ((cookieExchange [97]).responseTo (getRequest []) maxBodyBytes).isSome = true := by
  rw [responseTo_cookieExchange maxBodyBytes (by decide +kernel)]
  rfl

theorem responseTo_b (maxBodyBytes : ℕ) :
    ((cookieExchange [98]).responseTo (getRequest []) maxBodyBytes).isSome = true := by
  rw [responseTo_cookieExchange maxBodyBytes (by decide +kernel)]
  rfl

/-- A byte that is not UTF-8. -/
theorem responseTo_255 (maxBodyBytes : ℕ) :
    (cookieExchange [255]).responseTo (getRequest []) maxBodyBytes = none := by
  rw [responseTo_cookieExchange maxBodyBytes (by decide +kernel)]
  rfl

/-- The cookies `a` and `b`. -/
theorem secrets_do_not_show_iff_cookie :
    SameShown decimalDates
      (proxyRequestToTunnel originForm inspectedServer "web" inspectedSession none
        (getRequest []) (cookieExchange [97]))
      (proxyRequestToTunnel originForm inspectedServer "web" inspectedSession none
        (getRequest []) (cookieExchange [98])) := by
  have hx := @cookieExchange_alike [97] [98] (by decide) (by decide)
  refine (secrets_do_not_show_iff originForm decimalDates inspectedServer "web" inspectedSession
    none getRequest_alike hx).2.2 fun _ => ?_
  rw [responseTo_a, responseTo_b]

/-- A cookie that is not UTF-8 shows: the response to its request is not there. -/
theorem cookie_shows :
    (getRequest []).Alike (getRequest []) ∧ (cookieExchange [97]).Alike (cookieExchange [255]) ∧
      ¬SameShown decimalDates
        (proxyRequestToTunnel originForm inspectedServer "web" inspectedSession none
          (getRequest []) (cookieExchange [97]))
        (proxyRequestToTunnel originForm inspectedServer "web" inspectedSession none
          (getRequest []) (cookieExchange [255])) := by
  have hx := @cookieExchange_alike [97] [255] (by decide) (by decide)
  refine ⟨getRequest_alike, hx, fun hsame => ?_⟩
  have hlen := congrArg List.length hsame.events
  have hid : (cookieExchange [97]).captureId inspectedSession none = some "capture" := rfl
  rw [events_proxyRequestToTunnel, events_proxyRequestToTunnel, captureId_alike hx,
    captureRequest_alike getRequest_alike hx, hid, length_captureAfter, length_captureAfter,
    responseTo_255] at hlen
  obtain ⟨parsed, hparsed⟩ := Option.isSome_iff_exists.1
    (responseTo_a inspectedServer.config.server.maxResponseBodyBytes)
  rw [hparsed, Option.toList_some, Option.toList_none, List.length_singleton] at hlen
  exact absurd hlen (by simp)

end Rgrok
