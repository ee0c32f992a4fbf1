/-
# Replay against the original request

What `replay_http_request` sends, next to what was sent when the request was
captured.  A replay sends the fields the original filter would have kept, and
those a `Connection` field named: the captured `Connection` field is dropped
before the names it lists are looked up.
-/

import Rgrok.Server.Forwarding

namespace Rgrok

variable {Uri : Type} {uris : UriCrate Uri} {request : PreparedRequest Uri}

/-! ### What replay keeps -/

/-- A captured field that the replay filter keeps. -/
def isReplayed (field : HeaderName × HeaderValue) : Bool :=
  field.2.toStr.isSome && !isSensitiveHeader field.1.name && isSafeReplayHeader field.1.name &&
    field.1.name != "content-length"

/-- A field the replay sends: it is kept, and not hop-by-hop by its own name. -/
def isSentAgain (field : HeaderName × HeaderValue) : Bool :=
  isReplayed field && !hopByHopHeaders.contains field.1.name

/-- The fields that are captured. -/
def capturedFields (fields : List (HeaderName × HeaderValue)) : List (String × String) :=
  sanitizeHeaders (fields.filterMap fun (name, value) =>
    value.toStr.map fun value => (name.name, value))

/-- What is captured of one field. -/
theorem capturedFields_cons (name : HeaderName) (value : HeaderValue)
    (fields : List (HeaderName × HeaderValue)) :
    capturedFields ((name, value) :: fields) =
      (if isSensitiveHeader name.name then []
        else value.toStr.toList.map fun value => (name.name, value)) ++ capturedFields fields := by
  rw [capturedFields, List.filterMap_cons]
  dsimp only
  cases value.toStr with
  | none => simp only [Option.map_none, Option.toList_none, List.map_nil, ite_self, List.nil_append,
      capturedFields]
  | some s =>
      simp only [Option.map_some, sanitizeHeaders, List.filter_cons, capturedFields,
        Option.toList_some, List.map_cons, List.map_nil]
      cases isSensitiveHeader name.name with
      | true => rfl
      | false => rfl

/-- One captured field is read back, if it is kept. -/
theorem replayHeader_captured {name : HeaderName} {value : HeaderValue} {s : String}
    (hstr : value.toStr = some s) (hsensitive : isSensitiveHeader name.name = false)
    (headers : HeaderMap) (hadContentLength : Bool) :
    ∃ hadContentLength', replayHeader (headers, hadContentLength) (name.name, s) =
      .ok (if isReplayed (name, value) then headers.append name value else headers,
        hadContentLength') := by
  rw [replayHeader, isReplayed, hstr, hsensitive]
  dsimp only
  cases isSafeReplayHeader name.name with
  | false => exact ⟨hadContentLength, rfl⟩
  | true =>
      rw [HeaderName.parse_name, HeaderValue.fromStr_toStr hstr, bne]
      simp only [Bool.not_true, Bool.false_eq_true, if_false]
      cases name.name == "content-length" with
      | true => exact ⟨true, rfl⟩
      | false => exact ⟨hadContentLength, rfl⟩

/-- The captured fields are read back. -/
theorem foldlM_replayHeader (fields : List (HeaderName × HeaderValue)) (headers : HeaderMap)
    (hadContentLength : Bool) :
    ∃ hadContentLength', (capturedFields fields).foldlM replayHeader (headers, hadContentLength) =
      .ok ((fields.filter isReplayed).foldl (fun headers field => headers.append field.1 field.2)
        headers, hadContentLength') := by
  induction fields generalizing headers hadContentLength with
  | nil => exact ⟨hadContentLength, rfl⟩
  | cons field fields ih =>
      obtain ⟨name, value⟩ := field
      rw [capturedFields_cons, List.foldlM_append, List.filter_cons]
      cases hsensitive : isSensitiveHeader name.name with
      | true =>
          have hdrop : isReplayed (name, value) = false := by
            simp only [isReplayed, hsensitive, Bool.not_true, Bool.and_false, Bool.false_and]
          rw [hdrop]
          exact ih headers hadContentLength
      | false =>
          cases hstr : value.toStr with
          | none =>
              have hdrop : isReplayed (name, value) = false := by
                simp only [isReplayed, hstr, Option.isSome_none, Bool.false_and]
              rw [hdrop]
              exact ih headers hadContentLength
          | some s =>
              obtain ⟨had, hone⟩ := replayHeader_captured hstr hsensitive headers hadContentLength
              obtain ⟨had', hrest⟩ := ih (if isReplayed (name, value) then
                headers.append name value else headers) had
              refine ⟨had', ?_⟩
              simp only [Bool.false_eq_true, if_false, Option.toList_some, List.map_cons,
                List.map_nil, List.foldlM_cons, List.foldlM_nil, hone]
              refine hrest.trans ?_
              cases isReplayed (name, value) with
              | true => rfl
              | false => rfl

/-! ### The prepared replay -/

/-- The request part of a capture is the request's. -/
structure IsCaptureOf (uris : UriCrate Uri) (request : PreparedRequest Uri)
    (capture : CapturedRequest) : Prop where
  method : capture.reqMethod = request.method.name
  url : capture.reqUrl = ((uris.pathAndQuery request.uri).map PathAndQuery.display).getD "/"
  headers : capture.reqHeaders = capturedFields request.headers.iter
  body : capture.reqBody =
    if request.body.isEmpty then none else some (request.body.take maxInspectionBody)
  truncated : capture.reqBodyTruncated = decide (maxInspectionBody < request.body.length)

theorem isCaptureOf_captureOf (uris : UriCrate Uri) (request : PreparedRequest Uri) (id : String)
    (capturedAt : ℕ) (tunnelId : String) (isReplay : Bool) :
    IsCaptureOf uris request (captureOf uris id capturedAt tunnelId isReplay request).sanitize where
  method := rfl
  url := rfl
  headers := rfl
  body := rfl
  truncated := rfl

/-- The response does not touch the request part. -/
theorem IsCaptureOf.complete {capture : CapturedRequest} (h : IsCaptureOf uris request capture)
    (completion : Completion) : IsCaptureOf uris request (capture.complete completion) where
  method := h.method
  url := h.url
  headers := h.headers
  body := h.body
  truncated := h.truncated

/-- The captured target is parsed back. -/
theorem parse_reqUrl (hlaws : uris.Lawful) {target : String}
    (htarget : uris.parse target = some request.uri) {capture : CapturedRequest}
    (h : IsCaptureOf uris request capture) :
    ∃ uri, uris.parse capture.reqUrl = some uri ∧
      uris.pathAndQuery uri = some ⟨capture.reqUrl⟩ := by
  rw [h.url]
  cases hpath : uris.pathAndQuery request.uri with
  | none => exact hlaws.root
  | some path => exact hlaws.display target request.uri path htarget hpath

/-- **A replay is prepared.**  It has the method and the body of the request, the
captured target, and the fields the filter keeps, and perhaps a length. -/
theorem prepareReplay_spec (hlaws : uris.Lawful) {target : String}
    (htarget : uris.parse target = some request.uri) {capture : CapturedRequest}
    (h : IsCaptureOf uris request capture) (hbody : request.body.length ≤ maxInspectionBody) :
    ∃ replayed extra, prepareReplay uris capture = .ok replayed ∧
      replayed.method = request.method ∧
      uris.pathAndQuery replayed.uri = some ⟨capture.reqUrl⟩ ∧ replayed.body = request.body ∧
      replayed.headers.iter = request.headers.iter.filter isReplayed ++ extra ∧
      ∀ field ∈ extra, field.1 = .contentLength := by
  obtain ⟨uri, hparse, hpath⟩ := parse_reqUrl hlaws htarget h
  obtain ⟨had, hloop⟩ := foldlM_replayHeader request.headers.iter .new false
  have hfields := request.headers.iter_foldl_append isReplayed
  have htruncated : capture.reqBodyTruncated = false := by
    rw [h.truncated]
    exact decide_eq_false (by omega)
  have hbody' : capture.reqBody.getD [] = request.body := by
    rw [h.body]
    split
    · rename_i hempty
      exact (List.isEmpty_iff.1 hempty).symm
    · rw [Option.getD_some, List.take_of_length_le hbody]
  rw [← h.headers] at hloop
  rw [prepareReplay, htruncated, h.method, Method.fromBytes_name, hparse, hloop, hbody']
  dsimp only
  generalize (request.headers.iter.filter isReplayed).foldl
    (fun headers field => headers.append field.1 field.2) HeaderMap.new = headers at hfields ⊢
  obtain ⟨length, hlength⟩ := HeaderValue.fromStr_toString request.body.length
  rw [if_neg Bool.false_ne_true]
  split
  · have hnew : ∀ field ∈ headers.iter, field.1 ≠ .contentLength := by
      intro field hfield heq
      rw [hfields, List.mem_filter, isReplayed, heq] at hfield
      simp [HeaderName.contentLength] at hfield
    rw [hlength]
    refine ⟨_, [(.contentLength, length)], rfl, rfl, hpath, rfl, ?_, ?_⟩
    · rw [headers.iter_insert length hnew, hfields]
    · exact List.forall_mem_singleton.2 rfl
  · refine ⟨_, [], rfl, rfl, hpath, rfl, ?_, List.forall_mem_nil _⟩
    rw [hfields, List.append_nil]

/-! ### The two heads -/

/-- The fields of a head but `Host`. -/
def SentHead.endToEnd (head : SentHead) : List (String × String) :=
  head.fields.filter fun field => !Text.eqIgnoreAsciiCase field.1 "host"

/-- A replay of `request` from its capture sends the same method, target and
body, a `Content-Length` that is the body's length, and of the original fields
some in their order, none of which was hop-by-hop. -/
def ReplayAgrees (uris : UriCrate Uri) (request : PreparedRequest Uri) (capture : CapturedRequest)
    (originalHost : Option String) (replayHost : String) : Prop :=
  ∃ replayed, prepareReplay uris capture = .ok replayed ∧ replayed.body = request.body ∧
    let original := sentHead uris request request.body.length originalHost
    let replay := sentHead uris replayed replayed.body.length (some replayHost)
    replay.method = original.method ∧ replay.target = original.target ∧
      replay.contentLength = request.body.length ∧
      replay.endToEnd.Sublist original.endToEnd ∧
      ∀ field ∈ replay.endToEnd, isHopByHop field.1 request.headers.hopByHop = false

/-- A field as it is written. -/
def visibleField (field : HeaderName × HeaderValue) : Option (String × String) :=
  field.2.toStr.map fun value => (field.1.name, value)

theorem HeaderName.eqIgnoreAsciiCase_iff (name : HeaderName) {s : String}
    (hs : Text.toAsciiLowercase s = s) : Text.eqIgnoreAsciiCase name.name s = (name.name == s) := by
  rw [Text.eqIgnoreAsciiCase, name.lower, hs]

/-- The fields of a head but `Host` come from the map. -/
theorem endToEnd_sentHead (parts : PreparedRequest Uri) (bodyLength : ℕ)
    (customHost : Option String) :
    (sentHead uris parts bodyLength customHost).endToEnd = parts.headers.iter.filterMap fun field =>
      if field.1.name == "host" || isHopByHop field.1.name parts.headers.hopByHop ||
        field.1.name == "content-length" then none else visibleField field := by
  have hhost : ((customHost.toList.map fun host => ("Host", host)).filter fun field =>
      !Text.eqIgnoreAsciiCase field.1 "host") = [] := by
    rw [List.filter_eq_nil_iff]
    intro field hfield
    obtain ⟨host, -, rfl⟩ := List.mem_map.1 hfield
    have hmatch : Text.eqIgnoreAsciiCase "Host" "host" = true := by decide +kernel
    rw [hmatch]
    exact Bool.false_ne_true
  rw [SentHead.endToEnd, sentHead, List.filter_append, hhost, List.nil_append,
    List.filter_filterMap]
  congr 1
  funext field
  obtain ⟨name, value⟩ := field
  have hname := name.eqIgnoreAsciiCase_iff (s := "host") (by decide +kernel)
  rw [forwardField, visibleField]
  dsimp only
  cases hhost : name.name == "host" with
  | true =>
      rw [hhost] at hname
      cases customHost.isSome with
      | true => rfl
      | false =>
          cases (isHopByHop name.name parts.headers.hopByHop || name.name == "content-length") with
          | true => rfl
          | false =>
              cases value.toStr with
              | none => rfl
              | some s => simp only [Bool.false_and, Bool.false_eq_true, if_false, Option.map_some,
                  Option.filter_some, hname, Bool.not_true, Bool.true_or, if_true]
  | false =>
      rw [hhost] at hname
      rw [Bool.and_false, Bool.false_or]
      cases (isHopByHop name.name parts.headers.hopByHop || name.name == "content-length") with
      | true => rfl
      | false =>
          cases value.toStr with
          | none => rfl
          | some s => simp only [Bool.false_eq_true, if_false, Option.map_some, Option.filter_some,
              hname, Bool.not_false, if_true]

/-- What the replay filter keeps is none of the fields it names. -/
theorem isReplayed_name {field : HeaderName × HeaderValue} (h : isReplayed field = true) :
    field.1.name ≠ "host" ∧ field.1.name ≠ "connection" ∧ field.1.name ≠ "content-length" := by
  simp only [isReplayed, Bool.and_eq_true, bne_iff_ne] at h
  obtain ⟨⟨-, hsafe⟩, hlength⟩ := h
  rw [isSafeReplayHeader, field.1.lower, Bool.not_eq_true'] at hsafe
  refine ⟨?_, ?_, hlength⟩
  · intro heq
    rw [heq] at hsafe
    exact absurd hsafe (by decide)
  · intro heq
    rw [heq] at hsafe
    exact absurd hsafe (by decide)

/-- A replay names no hop-by-hop fields of its own. -/
theorem hopByHop_of_replayed {headers : HeaderMap} {fields extra : List (HeaderName × HeaderValue)}
    (h : headers.iter = fields.filter isReplayed ++ extra)
    (hextra : ∀ field ∈ extra, field.1 = .contentLength) : headers.hopByHop = hopByHopHeaders := by
  have hnone : connectionNamed headers.asStrings = [] := by
    rw [connectionNamed, List.flatMap_eq_nil_iff, HeaderMap.asStrings, h]
    intro pair hpair
    obtain ⟨field, hfield, rfl⟩ := List.mem_map.1 hpair
    have hname := field.1.eqIgnoreAsciiCase_iff (s := "connection") (by decide +kernel)
    have hne : (field.1.name == "connection") = false := by
      rw [beq_eq_false_iff_ne]
      rcases List.mem_append.1 hfield with hfield | hfield
      · exact (isReplayed_name (List.mem_filter.1 hfield).2).2.1
      · rw [hextra field hfield]
        decide
    exact if_neg (by rw [hname, hne]; exact Bool.false_ne_true)
  rw [HeaderMap.hopByHop, hopByHopHeaderNames, hnone, List.append_nil]

theorem isHopByHop_iff (name : HeaderName) (hopByHop : List String) :
    isHopByHop name.name hopByHop = true ↔ name.name ∈ hopByHop := by
  rw [isHopByHop, name.lower, List.contains_iff_mem]

/-- **What a replay sends.** -/
theorem endToEnd_replayed {replayed : PreparedRequest Uri}
    {fields extra : List (HeaderName × HeaderValue)}
    (h : replayed.headers.iter = fields.filter isReplayed ++ extra)
    (hextra : ∀ field ∈ extra, field.1 = .contentLength) (bodyLength : ℕ) (host : String) :
    (sentHead uris replayed bodyLength (some host)).endToEnd =
      fields.filterMap fun field => if isSentAgain field then visibleField field else none := by
  rw [endToEnd_sentHead, hopByHop_of_replayed h hextra, h, List.filterMap_append]
  have hnil : (extra.filterMap fun field =>
      if field.1.name == "host" || isHopByHop field.1.name hopByHopHeaders ||
        field.1.name == "content-length" then none else visibleField field) = [] := by
    rw [List.filterMap_eq_nil_iff]
    intro field hfield
    rw [hextra field hfield]
    exact if_pos (by decide +kernel)
  rw [hnil, List.append_nil, List.filterMap_filter]
  congr 1
  funext field
  rw [isSentAgain]
  cases hkeep : isReplayed field with
  | false => rfl
  | true =>
      obtain ⟨hhost, -, hlength⟩ := isReplayed_name hkeep
      have hhost : (field.1.name == "host") = false := beq_eq_false_iff_ne.2 hhost
      have hlength : (field.1.name == "content-length") = false := beq_eq_false_iff_ne.2 hlength
      rw [hhost, hlength, isHopByHop, field.1.lower, Bool.false_or, Bool.or_false, Bool.true_and]
      cases hopByHopHeaders.contains field.1.name with
      | true => rfl
      | false => rfl

/-- What one filter keeps as the other does, comes in the other's order. -/
theorem filterMap_sublist {α β : Type} {f g : α → Option β} {l : List α}
    (h : ∀ a ∈ l, ∀ b, f a = some b → g a = some b) :
    (l.filterMap f).Sublist (l.filterMap g) := by
  induction l with
  | nil => exact List.Sublist.refl _
  | cons a l ih =>
      obtain ⟨ha, hl⟩ := List.forall_mem_cons.1 h
      rw [List.filterMap_cons, List.filterMap_cons]
      cases hf : f a with
      | some b =>
          rw [ha b hf]
          exact (ih hl).cons_cons b
      | none =>
          cases g a with
          | some b => exact (ih hl).cons b
          | none => exact ih hl

/-! ### When they agree -/

/-- The captured target is the one that was sent. -/
theorem target_eq_iff {capture : CapturedRequest} (h : IsCaptureOf uris request capture) :
    PathAndQuery.asStr ⟨capture.reqUrl⟩ =
      ((uris.pathAndQuery request.uri).map PathAndQuery.asStr).getD "/" ↔
      ∀ path, uris.pathAndQuery request.uri = some path → path.data = "" ∨ path.Rooted := by
  rw [h.url]
  cases uris.pathAndQuery request.uri with
  | none => exact ⟨fun _ path hpath => (by cases hpath), fun _ => rfl⟩
  | some path =>
      rw [Option.map_some, Option.map_some, Option.getD_some, Option.getD_some,
        PathAndQuery.asStr_display, path.display_eq_asStr]
      constructor
      · rintro hpath path' hpath'
        obtain rfl := Option.some.inj hpath'
        exact hpath
      · exact fun hall => hall path rfl

/-- The capture of a public request in the queue, without its response or with it. -/
def queuedCapture (uris : UriCrate Uri) (request : PreparedRequest Uri) (id : String)
    (capturedAt : ℕ) (tunnelId : String) (completion : Option Completion) : CapturedRequest :=
  let stored := (captureOf uris id capturedAt tunnelId false request).sanitize
  completion.elim stored stored.complete

theorem isCaptureOf_queuedCapture (uris : UriCrate Uri) (request : PreparedRequest Uri)
    (id : String) (capturedAt : ℕ) (tunnelId : String) (completion : Option Completion) :
    IsCaptureOf uris request (queuedCapture uris request id capturedAt tunnelId completion) := by
  have hstored := isCaptureOf_captureOf uris request id capturedAt tunnelId false
  cases completion with
  | none => exact hstored
  | some completion => exact hstored.complete completion

/-- **When a replay agrees with the original forwarding.**  For every public
request with a body of at most 1 MiB, and its capture with or without the
response: exactly when the target's path is empty or begins with `/` or `*`, and
no field the replay sends is one that the request's `Connection` fields name. -/
theorem replay_agrees_iff (hlaws : uris.Lawful) (request : PreparedRequest Uri) {target : String}
    (htarget : uris.parse target = some request.uri)
    (hbody : request.body.length ≤ maxInspectionBody) (id : String) (capturedAt : ℕ)
    (tunnelId : String) (completion : Option Completion) (originalHost : Option String)
    (replayHost : String) :
    ReplayAgrees uris request (queuedCapture uris request id capturedAt tunnelId completion)
        originalHost replayHost ↔
      (∀ path, uris.pathAndQuery request.uri = some path → path.data = "" ∨ path.Rooted) ∧
      ∀ field ∈ request.headers.iter, isSentAgain field = true →
        field.1.name ∉ connectionNamed request.headers.asStrings := by
  have hcapture := isCaptureOf_queuedCapture uris request id capturedAt tunnelId completion
  generalize queuedCapture uris request id capturedAt tunnelId completion = capture at hcapture ⊢
  obtain ⟨replayed, extra, hreplayed, hmethod, hpath, hsame, hfields, hextra⟩ :=
    prepareReplay_spec hlaws htarget hcapture hbody
  have hsent := @endToEnd_replayed _ uris _ _ _ hfields hextra
  have htargets := target_eq_iff hcapture
  constructor
  · rintro ⟨replayed', hreplayed', -, -, htarget', -, -, hhop⟩
    obtain rfl := Except.ok.inj (hreplayed.symm.trans hreplayed')
    refine ⟨htargets.1 ?_, ?_⟩
    · simpa only [sentHead, hpath, Option.map_some, Option.getD_some] using htarget'
    · intro field hfield hagain hnamed
      have hvisible : field.2.toStr.isSome = true := by
        simp only [isSentAgain, isReplayed, Bool.and_eq_true] at hagain
        exact hagain.1.1.1.1
      obtain ⟨value, hvalue⟩ := Option.isSome_iff_exists.1 hvisible
      have hmem : (field.1.name, value) ∈ (sentHead uris replayed replayed.body.length
          (some replayHost)).endToEnd := by
        rw [hsent, List.mem_filterMap]
        exact ⟨field, hfield, by rw [if_pos hagain, visibleField, hvalue, Option.map_some]⟩
      have hnot := hhop _ hmem
      rw [← Bool.not_eq_true, isHopByHop_iff] at hnot
      exact hnot (List.mem_append_right _ hnamed)
  · rintro ⟨hrooted, hnamed⟩
    have hhop : ∀ field ∈ request.headers.iter, isSentAgain field = true →
        isHopByHop field.1.name request.headers.hopByHop = false := by
      intro field hfield hagain
      rw [← Bool.not_eq_true, isHopByHop_iff]
      intro hmem
      rcases List.mem_append.1 hmem with hmem | hmem
      · simp only [isSentAgain, Bool.and_eq_true, Bool.not_eq_true', ← Bool.not_eq_true,
          List.contains_iff_mem] at hagain
        exact hagain.2 hmem
      · exact hnamed field hfield hagain hmem
    refine ⟨replayed, hreplayed, hsame, congrArg Method.name hmethod, ?_, ?_, ?_, ?_⟩
    · simpa only [sentHead, hpath, Option.map_some, Option.getD_some] using htargets.2 hrooted
    · exact congrArg List.length hsame
    · rw [hsent, endToEnd_sentHead]
      refine filterMap_sublist fun field hfield sent hfield' => ?_
      split at hfield'
      · rename_i hagain
        have hkeep : isReplayed field = true := by
          rw [isSentAgain, Bool.and_eq_true] at hagain
          exact hagain.1
        obtain ⟨hhost, -, hlength⟩ := isReplayed_name hkeep
        rw [hhop field hfield hagain, beq_eq_false_iff_ne.2 hhost, beq_eq_false_iff_ne.2 hlength]
        exact hfield'
      · cases hfield'
    · intro sent hmem
      rw [hsent, List.mem_filterMap] at hmem
      obtain ⟨field, hfield, hfield'⟩ := hmem
      split at hfield'
      · rename_i hagain
        obtain ⟨value, -, rfl⟩ := Option.map_eq_some_iff.1 hfield'
        exact hhop field hfield hagain
      · cases hfield'

def HeaderName.connection : HeaderName where
  name := "connection"
  valid := by decide +kernel
  lower := by decide +kernel

def HeaderName.xInternal : HeaderName where
  name := "x-internal"
  valid := by decide +kernel
  lower := by decide +kernel

/-- The value `x-internal`. -/
def HeaderValue.xInternal : HeaderValue where
  bytes := Text.utf8 "x-internal"
  valid := by decide +kernel

/-- A request without a `Connection` field. -/
def plainRequest : PreparedRequest PathAndQuery :=
  getRequest [(.xInternal, .xInternal), (.xInternal, .xInternal)]

/-- A request whose `Connection` field names another of its fields. -/
def namingRequest : PreparedRequest PathAndQuery :=
  getRequest [(.connection, .xInternal), (.xInternal, .xInternal)]

/-- A replay of a request without a `Connection` field agrees. -/
theorem replay_agrees_plain : ReplayAgrees originForm plainRequest
    (queuedCapture originForm plainRequest "id" 0 "tunnel" none) none "sub" := by
  have htarget : originForm.parse "/" = some plainRequest.uri := by decide +kernel
  refine (replay_agrees_iff originForm_lawful plainRequest htarget (by decide) "id" 0 "tunnel"
    none none "sub").2 ⟨?_, ?_⟩
  · rintro path hpath
    obtain rfl := Option.some.inj hpath
    exact Or.inr (by decide +kernel)
  · intro field hfield _
    have hnone : connectionNamed plainRequest.headers.asStrings = [] := by decide +kernel
    rw [hnone]
    exact List.not_mem_nil

/-- A field the `Connection` field names is not forwarded the first time, and is
sent by the replay. -/
theorem replay_sends_connection_named : ¬ ReplayAgrees originForm namingRequest
    (queuedCapture originForm namingRequest "id" 0 "tunnel" none) none "sub" := by
  rintro ⟨replayed, hreplayed, -, -, -, -, -, hhop⟩
  have hsent : (match prepareReplay originForm
        (queuedCapture originForm namingRequest "id" 0 "tunnel" none) with
      | .ok replayed => (sentHead originForm replayed replayed.body.length (some "sub")).endToEnd
      | .error _ => []) = [("x-internal", "x-internal")] := by
    decide +kernel
  rw [hreplayed] at hsent
  dsimp only at hsent
  have hnamed : isHopByHop "x-internal" namingRequest.headers.hopByHop = true := by
    decide +kernel
  rw [hsent, List.forall_mem_singleton, hnamed] at hhop
  cases hhop

end Rgrok
