/-
# The relayed response

What `proxy_request_to_tunnel` hands to the public connection, next to the
response it read.  The local response's fields are filtered and the framing is
written anew; the fields of `response_header` are appended as they are.
-/

import Rgrok.Server.Inspection
import Rgrok.Server.ResponseUnique

namespace Rgrok

/-! ### The builder -/

/-- One field, parsed. -/
def parseField (field : String × String) : Option (HeaderName × HeaderValue) :=
  match HeaderName.parse field.1, HeaderValue.fromStr field.2 with
  | some name, some value => some (name, value)
  | _, _ => none

theorem addHeader_eq (headers : Option HeaderMap) (field : String × String) :
    addHeader headers field = headers.bind fun headers =>
      (parseField field).map fun parsed => headers.append parsed.1 parsed.2 := by
  unfold addHeader parseField
  cases headers with
  | none => rfl
  | some headers =>
      cases HeaderName.parse field.1 with
      | none => rfl
      | some name =>
          cases HeaderValue.fromStr field.2 with
          | none => rfl
          | some value => rfl

theorem foldl_addHeader_none (fields : List (String × String)) :
    fields.foldl addHeader none = none := by
  induction fields with
  | nil => rfl
  | cons field fields ih =>
      rw [List.foldl_cons, addHeader_eq]
      exact ih

/-- **What the builder made.**  Every field was parsed, and the map has them all. -/
theorem foldl_addHeader {fields : List (String × String)} {headers headers' : HeaderMap}
    (h : fields.foldl addHeader (some headers) = some headers') :
    ∃ parsed, List.Forall₂ (fun field parsed => parseField field = some parsed) fields parsed ∧
      headers'.iter.Perm (headers.iter ++ parsed) := by
  induction fields generalizing headers with
  | nil =>
      obtain rfl := Option.some.inj h
      exact ⟨[], List.Forall₂.nil, by rw [List.append_nil]⟩
  | cons field fields ih =>
      rw [List.foldl_cons, addHeader_eq, Option.bind_some] at h
      cases hparse : parseField field with
      | none =>
          rw [hparse, Option.map_none, foldl_addHeader_none] at h
          cases h
      | some parsed =>
          rw [hparse, Option.map_some] at h
          obtain ⟨later, hlater, hperm⟩ := ih h
          refine ⟨parsed :: later, List.Forall₂.cons hparse hlater, ?_⟩
          have hone : (headers.append parsed.1 parsed.2).iter.Perm (headers.iter ++ [parsed]) :=
            headers.entries.iter_append_perm parsed.1 parsed.2
          refine hperm.trans ?_
          have happend := hone.append_right later
          rwa [List.append_assoc, List.singleton_append] at happend

theorem parseField_eq_some {field : String × String} {parsed : HeaderName × HeaderValue}
    (h : parseField field = some parsed) :
    parsed.1.name = Text.toAsciiLowercase field.1 ∧ parsed.2.bytes = Text.utf8 field.2 := by
  rw [parseField] at h
  split at h
  · rename_i name value hname hvalue
    obtain rfl := Option.some.inj h
    exact ⟨HeaderName.name_of_parse hname, HeaderValue.bytes_of_fromStr hvalue⟩
  · cases h

/-- A property of the names is one of the fields the map was made of. -/
theorem forall_iter_iff {fields : List (String × String)}
    {parsed iterated : List (HeaderName × HeaderValue)} {p : String → Prop}
    (h : List.Forall₂ (fun field parsed => parseField field = some parsed) fields parsed)
    (hperm : iterated.Perm parsed) :
    (∀ field ∈ iterated, p field.1.name) ↔ ∀ field ∈ fields, p (Text.toAsciiLowercase field.1) := by
  have hmem : (∀ field ∈ iterated, p field.1.name) ↔ ∀ field ∈ parsed, p field.1.name :=
    forall_congr' fun field => imp_congr_left hperm.mem_iff
  rw [hmem]
  clear hmem hperm
  induction h with
  | nil => exact ⟨fun _ => nofun, fun _ => nofun⟩
  | cons hparse _ ih =>
      rw [List.forall_mem_cons, List.forall_mem_cons, (parseField_eq_some hparse).1]
      exact and_congr_right' ih

/-! ### Framing -/

/-- What a relayed response is to be, next to the local one: one `Content-Length`
that counts the body, and no hop-by-hop field; for `HEAD`, at most one
`Content-Length` and no `Transfer-Encoding`. -/
def WellFramed (method : Method) (parsed : ParsedHttpResponse) (response : PublicResponse) :
    Prop :=
  if method = .HEAD then
    (response.headers.getAll .contentLength).length ≤ 1 ∧
      response.headers.getAll .transferEncoding = []
  else
    (∃ value, response.headers.getAll .contentLength = [value] ∧
      value.bytes = Text.utf8 (toString response.body.length)) ∧
    ∀ field ∈ response.headers.iter,
      isHopByHop field.1.name (hopByHopHeaderNames parsed.headers) = false

/-- The fields of `response_header` add nothing to the framing, and the local
response's `Connection` fields do not name what the proxy adds. -/
def LeavesFraming (method : Method) (parsed : ParsedHttpResponse) (options : TunnelOptions) :
    Prop :=
  if method = .HEAD then
    (headerValues options.responseHeader "content-length").length +
        (headerValues parsed.headers "content-length").head?.toList.length ≤ 1 ∧
      headerValues options.responseHeader "transfer-encoding" = []
  else
    headerValues options.responseHeader "content-length" = [] ∧
      (∀ field ∈ options.responseHeader,
        isHopByHop field.1 (hopByHopHeaderNames parsed.headers) = false) ∧
      "content-length" ∉ connectionNamed parsed.headers ∧
      "strict-transport-security" ∉ connectionNamed parsed.headers

/-- The values of a name, in the map and in the fields it was made of. -/
theorem getAll_perm {fields : List (String × String)} {headers : HeaderMap} (name : HeaderName)
    (h : fields.foldl addHeader (some .new) = some headers) :
    ((headers.getAll name).map HeaderValue.bytes).Perm
      ((headerValues fields name.name).map Text.utf8) := by
  obtain ⟨parsed, hparsed, hperm⟩ := foldl_addHeader h
  have hall := ((hperm.filter fun field => field.1 == name).map Prod.snd).map HeaderValue.bytes
  refine hall.trans (List.Perm.of_eq ?_)
  rw [show HeaderMap.new.iter = [] from rfl, List.nil_append]
  clear hall hperm h
  induction hparsed with
  | nil => rfl
  | @cons field parsed fields parsedFields hparse _ ih =>
      obtain ⟨hname, hvalue⟩ := parseField_eq_some hparse
      have hmatch : (parsed.1 == name) = Text.eqIgnoreAsciiCase field.1 name.name := by
        rw [Text.eqIgnoreAsciiCase, name.lower, ← hname, Bool.eq_iff_iff, beq_iff_eq, beq_iff_eq]
        constructor
        · rintro rfl
          rfl
        · exact HeaderName.name_inj
      rw [List.filter_cons, hmatch, headerValues, List.filter_cons]
      cases Text.eqIgnoreAsciiCase field.1 name.name with
      | true =>
          simp only [if_true, List.map_cons]
          exact congrArg₂ List.cons hvalue ih
      | false => exact ih

/-- What `Content-Length` the proxy writes. -/
def writtenLength (method : Method) (parsed : ParsedHttpResponse) : List String :=
  if method = .HEAD then (headerValues parsed.headers "content-length").head?.toList
  else if responseHasNoBody method parsed.statusCode then ["0"]
  else [toString parsed.body.length]

/-- The local response's fields that are relayed. -/
def endToEndFields (parsed : ParsedHttpResponse) : List (String × String) :=
  parsed.headers.filter fun header =>
    !(isHopByHop header.1 (hopByHopHeaderNames parsed.headers) ||
      Text.eqIgnoreAsciiCase header.1 "content-length")

theorem responseFields_eq (method : Method) (options : TunnelOptions)
    (parsed : ParsedHttpResponse) :
    responseFields method options parsed =
      endToEndFields parsed ++
        ((writtenLength method parsed).map fun length => ("Content-Length", length)) ++
        [("Strict-Transport-Security", "max-age=31536000")] ++ options.responseHeader := by
  rw [List.append_assoc, List.singleton_append]
  rfl

/-- A filtered name has no value among the relayed fields. -/
theorem headerValues_endToEndFields {parsed : ParsedHttpResponse} {name : String}
    (h : isHopByHop name (hopByHopHeaderNames parsed.headers) = true ∨ name = "content-length") :
    headerValues (endToEndFields parsed) name = [] := by
  rw [headerValues, List.map_eq_nil_iff, List.filter_eq_nil_iff]
  intro field hfield hmatch
  have hkept := (List.mem_filter.1 hfield).2
  rw [Bool.not_eq_true', Bool.or_eq_false_iff] at hkept
  rcases h with hhop | rfl
  · rw [isHopByHop, ← eq_of_beq hmatch, ← isHopByHop, hkept.1] at hhop
    cases hhop
  · rw [hmatch] at hkept
    cases hkept.2

/-- The values of a name that is filtered, in the new response. -/
theorem headerValues_responseFields (options : TunnelOptions) (parsed : ParsedHttpResponse)
    (method : Method) (name : String)
    (h : isHopByHop name (hopByHopHeaderNames parsed.headers) = true ∨ name = "content-length")
    (hname : Text.eqIgnoreAsciiCase "Strict-Transport-Security" name = false) :
    headerValues (responseFields method options parsed) name =
      (if Text.eqIgnoreAsciiCase "Content-Length" name then writtenLength method parsed else []) ++
        headerValues options.responseHeader name := by
  have hsecurity : headerValues [("Strict-Transport-Security", "max-age=31536000")] name = [] := by
    rw [headerValues, List.filter_cons, hname]
    rfl
  have hlength (lengths : List String) :
      headerValues (lengths.map fun length => ("Content-Length", length)) name =
        if Text.eqIgnoreAsciiCase "Content-Length" name then lengths else [] := by
    induction lengths with
    | nil => exact (ite_self _).symm
    | cons length lengths ih =>
        rw [List.map_cons, headerValues, List.filter_cons]
        cases hmatch : Text.eqIgnoreAsciiCase "Content-Length" name with
        | true =>
            rw [hmatch, if_pos rfl] at ih
            exact congrArg (List.cons length) ih
        | false =>
            rw [hmatch] at ih
            exact ih
  rw [responseFields_eq, headerValues_append, headerValues_append, headerValues_append,
    headerValues_endToEndFields h, hlength, hsecurity, List.nil_append, List.append_nil]

theorem isHopByHop_toAsciiLowercase (name : String) (hopByHop : List String) :
    isHopByHop (Text.toAsciiLowercase name) hopByHop = isHopByHop name hopByHop := by
  rw [isHopByHop, Text.toAsciiLowercase_idem, isHopByHop]

/-- A name the standard list does not have is hop-by-hop when it is listed. -/
theorem isHopByHop_listed {name : String} {headers : List (String × String)}
    (h : Text.toAsciiLowercase name ∉ hopByHopHeaders) :
    isHopByHop name (hopByHopHeaderNames headers) = false ↔
      Text.toAsciiLowercase name ∉ connectionNamed headers := by
  rw [isHopByHop, hopByHopHeaderNames, ← Bool.not_eq_true, List.contains_iff_mem, List.mem_append,
    or_iff_right h]

/-- No field of the new response is hop-by-hop. -/
theorem forall_responseFields_iff {method : Method} (hmethod : method ≠ .HEAD)
    (options : TunnelOptions) (parsed : ParsedHttpResponse) :
    (∀ field ∈ responseFields method options parsed,
        isHopByHop field.1 (hopByHopHeaderNames parsed.headers) = false) ↔
      (∀ field ∈ options.responseHeader,
        isHopByHop field.1 (hopByHopHeaderNames parsed.headers) = false) ∧
      "content-length" ∉ connectionNamed parsed.headers ∧
      "strict-transport-security" ∉ connectionNamed parsed.headers := by
  have hendToEnd : ∀ field ∈ endToEndFields parsed,
      isHopByHop field.1 (hopByHopHeaderNames parsed.headers) = false := by
    intro field hfield
    have hkept := (List.mem_filter.1 hfield).2
    rw [Bool.not_eq_true', Bool.or_eq_false_iff] at hkept
    exact hkept.1
  have hlength : isHopByHop "Content-Length" (hopByHopHeaderNames parsed.headers) = false ↔
      "content-length" ∉ connectionNamed parsed.headers :=
    isHopByHop_listed (by decide +kernel)
  have hsecurity : isHopByHop "Strict-Transport-Security" (hopByHopHeaderNames parsed.headers) =
      false ↔ "strict-transport-security" ∉ connectionNamed parsed.headers :=
    isHopByHop_listed (by decide +kernel)
  obtain ⟨length, hwritten⟩ : ∃ length, writtenLength method parsed = [length] := by
    rw [writtenLength, if_neg hmethod]
    split
    · exact ⟨_, rfl⟩
    · exact ⟨_, rfl⟩
  rw [responseFields_eq, hwritten, List.map_singleton, List.forall_mem_append,
    List.forall_mem_append, List.forall_mem_append, List.forall_mem_singleton,
    List.forall_mem_singleton, hlength, hsecurity]
  constructor
  · rintro ⟨⟨⟨-, h₁⟩, h₂⟩, h₃⟩
    exact ⟨h₃, h₁, h₂⟩
  · rintro ⟨h₃, h₁, h₂⟩
    exact ⟨⟨⟨hendToEnd, h₁⟩, h₂⟩, h₃⟩

/-! ### The relayed response -/

variable {method : Method} {options : TunnelOptions} {parsed : ParsedHttpResponse}
  {response : PublicResponse}

theorem publicResponse_ok (h : publicResponse method options parsed = .ok response) :
    (responseFields method options parsed).foldl addHeader (some .new) = some response.headers ∧
      response.body = parsed.body := by
  rw [publicResponse] at h
  split at h
  · rename_i headers hheaders
    split at h
    · obtain rfl := Except.ok.inj h
      exact ⟨hheaders, rfl⟩
    · cases h
  · cases h

/-- The `Content-Length` values of the new response. -/
theorem contentLengths_perm (h : publicResponse method options parsed = .ok response) :
    ((response.headers.getAll .contentLength).map HeaderValue.bytes).Perm
      ((writtenLength method parsed ++
        headerValues options.responseHeader "content-length").map Text.utf8) := by
  have hperm := getAll_perm .contentLength (publicResponse_ok h).1
  have hvalues := headerValues_responseFields options parsed method "content-length"
    (Or.inr rfl) (by decide +kernel)
  rw [if_pos (by decide +kernel)] at hvalues
  rwa [show HeaderName.contentLength.name = "content-length" from rfl, hvalues] at hperm

/-- The `Transfer-Encoding` values are those of the extra fields. -/
theorem transferEncodings_length (h : publicResponse method options parsed = .ok response) :
    (response.headers.getAll .transferEncoding).length =
      (headerValues options.responseHeader "transfer-encoding").length := by
  have hperm := getAll_perm .transferEncoding (publicResponse_ok h).1
  have hlisted : isHopByHop "transfer-encoding" (hopByHopHeaderNames parsed.headers) = true := by
    rw [isHopByHop, List.contains_iff_mem]
    exact List.mem_append_left _ (by decide +kernel)
  have hvalues := headerValues_responseFields options parsed method _ (Or.inl hlisted)
    (by decide +kernel)
  rw [if_neg (by decide +kernel), List.nil_append] at hvalues
  rw [show HeaderName.transferEncoding.name = "transfer-encoding" from rfl, hvalues] at hperm
  simpa only [List.length_map] using hperm.length_eq

/-- One `Content-Length`, the proxy's own. -/
theorem contentLength_iff {length : String} (hwritten : writtenLength method parsed = [length])
    (h : publicResponse method options parsed = .ok response) :
    (∃ value, response.headers.getAll .contentLength = [value] ∧ value.bytes = Text.utf8 length) ↔
      headerValues options.responseHeader "content-length" = [] := by
  have hperm := contentLengths_perm h
  rw [hwritten] at hperm
  constructor
  · rintro ⟨value, hall, -⟩
    have hlen := hperm.length_eq
    rw [hall, List.length_map, List.length_map, List.length_append, List.length_singleton,
      List.length_singleton] at hlen
    exact List.length_eq_zero_iff.1 (by omega)
  · intro hnone
    rw [hnone, List.append_nil, List.map_singleton, List.perm_singleton, List.map_eq_singleton_iff]
      at hperm
    exact hperm

/-- **When a relayed response is well framed.**  For the response the builder
makes of a local one: exactly when the extra fields leave the framing. -/
theorem wellFramed_iff (hbody : responseHasNoBody method parsed.statusCode = true →
      parsed.body = [])
    (h : publicResponse method options parsed = .ok response) :
    WellFramed method parsed response ↔ LeavesFraming method parsed options := by
  obtain ⟨hheaders, hsame⟩ := publicResponse_ok h
  rw [WellFramed, LeavesFraming]
  split
  · rename_i hhead
    have hlen := (contentLengths_perm h).length_eq
    have hcodings := transferEncodings_length h
    rw [writtenLength, if_pos hhead, List.length_map, List.length_map, List.length_append] at hlen
    rw [← List.length_eq_zero_iff, hcodings, List.length_eq_zero_iff, hlen, Nat.add_comm]
  · rename_i hmethod
    have hwritten : writtenLength method parsed = [toString response.body.length] := by
      rw [writtenLength, if_neg hmethod, hsame]
      split
      · rename_i hempty
        rw [hbody hempty]
        rfl
      · rfl
    obtain ⟨fields, hfields, hperm⟩ := foldl_addHeader hheaders
    have hnames := forall_iter_iff (p := fun name =>
      isHopByHop name (hopByHopHeaderNames parsed.headers) = false) hfields hperm
    rw [contentLength_iff hwritten h, hnames]
    simp only [isHopByHop_toAsciiLowercase]
    rw [forall_responseFields_iff hmethod]

/-- A response that has no body is decoded with none. -/
theorem body_of_readHttpResponse {maxBodyBytes : ℕ} {stream : ByteStream UInt8}
    {intake : Intake UInt8}
    (h : readHttpResponse method maxBodyBytes stream = .done parsed intake)
    (hempty : responseHasNoBody method parsed.statusCode = true) : parsed.body = [] := by
  obtain ⟨⟨statusCode, headers⟩, intake₁, -, h⟩ := Outcome.bind_eq_done.1 h
  obtain ⟨body, intake₂, hbody, h⟩ := Outcome.bind_eq_done.1 h
  obtain ⟨rfl, rfl⟩ := Outcome.done.inj h
  rw [readBody, if_pos hempty] at hbody
  exact (Outcome.done.inj hbody).1.symm

variable {Uri : Type} {uris : UriCrate Uri}

theorem captureRequest_config (s : ServerState) (subdomain tunnelId : String)
    (captureId : Option String) (isReplay : Bool) (request : PreparedRequest Uri) (x : Exchange) :
    (captureRequest uris s subdomain tunnelId captureId isReplay request x).1.config =
      s.config := by
  cases captureId with
  | none => rfl
  | some id =>
      rw [captureRequest, ServerState.storeCapture]
      split
      · rfl
      · rfl

/-- **A run that returns a response** read one, and made it of that. -/
theorem proxyRequestToTunnel_ok {s : ServerState} {subdomain : String} {tunnel : TunnelSession}
    {captureId : Option String} {request : PreparedRequest Uri} {x : Exchange}
    (h : (proxyRequestToTunnel uris s subdomain tunnel captureId request x).result =
      some (.ok response)) :
    ∃ parsed intake,
      readHttpResponse request.method s.config.server.maxResponseBodyBytes x.response =
        .done parsed intake ∧
      publicResponse request.method tunnel.options parsed = .ok response := by
  unfold proxyRequestToTunnel at h
  dsimp only at h
  rw [captureRequest_config] at h
  split at h
  · cases h
  · split at h
    · cases h
    · split at h
      · cases h
      · split at h
        · cases h
        · cases h
        · rename_i parsed intake hread
          exact ⟨parsed, intake, hread, Option.some.inj h⟩

/-- **When a relayed response has unambiguous framing.**  Whenever a run returns a
response: exactly when the extra fields of the tunnel are no framing fields and
are not hop-by-hop, and no `Connection` field of the local response names what
the proxy adds itself. -/
theorem relayed_framing_iff (s : ServerState) (subdomain : String) (tunnel : TunnelSession)
    (captureId : Option String) (request : PreparedRequest Uri) (x : Exchange)
    (h : (proxyRequestToTunnel uris s subdomain tunnel captureId request x).result =
      some (.ok response)) :
    ∃ parsed intake,
      readHttpResponse request.method s.config.server.maxResponseBodyBytes x.response =
        .done parsed intake ∧
      (WellFramed request.method parsed response ↔
        LeavesFraming request.method parsed tunnel.options) := by
  obtain ⟨parsed, intake, hread, hresponse⟩ := proxyRequestToTunnel_ok h
  exact ⟨parsed, intake, hread, wellFramed_iff (body_of_readHttpResponse hread) hresponse⟩

/-- What the local service answers: `hi`. -/
def helloStream : ByteStream UInt8 where
  arrivals := [Text.utf8 "HTTP/1.1 200 OK\r\nContent-Length: 2\r\n\r\nhi"]
  ending := .eof
  nonempty := by decide +kernel

/-- Everything works, and the local service answers `hi`. -/
def helloExchange : Exchange where
  newId := "id"
  capturedAt := 0
  durationMs := 0
  streamOpened := true
  headWritten := true
  bodyWritten := true
  response := helloStream

/-- `GET /` through a tunnel with these extra fields. -/
def helloRun (extra : List (String × String)) : Forwarded :=
  let session := makeTestSession "sub" "tunnel" 0
  proxyRequestToTunnel originForm (ServerState.new Config.default) "sub"
    { session with options := { session.options with responseHeader := extra } } none
    (getRequest []) helloExchange

/-- The fields of the response that was read, if one was. -/
def Outcome.headers : Outcome ParsedHttpResponse → List (String × String)
  | .done parsed _ => parsed.headers
  | _ => []

/-- The `Content-Length` values a run relays. -/
def Forwarded.contentLengths (run : Forwarded) : Option (List (List UInt8)) :=
  match run.result with
  | some (.ok response) => some ((response.headers.getAll .contentLength).map HeaderValue.bytes)
  | _ => none

theorem exists_response {run : Forwarded} {lengths : List (List UInt8)}
    (h : run.contentLengths = some lengths) :
    ∃ response, run.result = some (.ok response) ∧
      (response.headers.getAll .contentLength).map HeaderValue.bytes = lengths := by
  unfold Forwarded.contentLengths at h
  split at h
  · rename_i response hresult
    exact ⟨response, hresult, Option.some.inj h⟩
  · cases h

/-- Without extra fields the relayed response is well framed. -/
theorem relayed_framing_plain : ∃ response parsed, (helloRun []).result = some (.ok response) ∧
    WellFramed .GET parsed response := by
  obtain ⟨response, hresult, -⟩ := exists_response
    (show (helloRun []).contentLengths = some [Text.utf8 "2"] by decide +kernel)
  obtain ⟨parsed, intake, hread, hiff⟩ := relayed_framing_iff _ _ _ _ _ _ hresult
  have hheaders : (readHttpResponse .GET Config.default.server.maxResponseBodyBytes
      helloStream).headers = [("Content-Length", "2")] := by
    decide +kernel
  refine ⟨response, parsed, hresult, hiff.2 ?_⟩
  rw [show readHttpResponse .GET Config.default.server.maxResponseBodyBytes helloStream =
    .done parsed intake from hread, Outcome.headers] at hheaders
  rw [LeavesFraming, hheaders]
  exact by decide +kernel

/-- An extra `Content-Length` is relayed next to the one that counts the body. -/
theorem relayed_two_lengths : ∃ response,
    (helloRun [("Content-Length", "5")]).result = some (.ok response) ∧
      ∀ parsed, ¬ WellFramed .GET parsed response := by
  obtain ⟨response, hresult, hlengths⟩ := exists_response
    (show (helloRun [("Content-Length", "5")]).contentLengths =
      some [Text.utf8 "2", Text.utf8 "5"] by decide +kernel)
  refine ⟨response, hresult, fun parsed hframed => ?_⟩
  rw [WellFramed, if_neg (by decide)] at hframed
  obtain ⟨⟨value, hone, -⟩, -⟩ := hframed
  rw [hone] at hlengths
  exact absurd (congrArg List.length hlengths) (by simp)

end Rgrok
