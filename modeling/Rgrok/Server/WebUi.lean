/-
# The inspection UI's doors

`crates/rgrok-server/src/web_ui.rs`: whether the UI is served at all, what a
request has to carry, and which handler it then reaches.

The paths a route stands for are matched by `axum`; the matching is a parameter.
-/

import Rgrok.Http.Headers
import Rgrok.Lib.Base64
import Rgrok.Server.BasicAuth
import Rgrok.Server.Config

namespace Rgrok

/-- `AUTHORIZATION`. -/
def HeaderName.authorization : HeaderName where
  name := "authorization"
  valid := by decide +kernel
  lower := by decide +kernel

/-- `COOKIE`. -/
def HeaderName.cookie : HeaderName where
  name := "cookie"
  valid := by decide +kernel
  lower := by decide +kernel

/-- `x-rgrok-csrf`. -/
def HeaderName.csrf : HeaderName where
  name := "x-rgrok-csrf"
  valid := by decide +kernel
  lower := by decide +kernel

/-- `headers.get(name)` and `to_str`. -/
def HeaderMap.getStr (headers : HeaderMap) (name : HeaderName) : Option String :=
  (headers.getAll name).head?.bind HeaderValue.toStr

/-- What a request to the UI has that the code looks at. -/
structure UiRequest where
  method : Method
  path : String
  headers : HeaderMap

/-- The handlers of `serve`'s router. -/
inductive UiHandler
  | dashboard
  | listRequests
  | clearRequests
  | getRequest
  | replayRequest
  | eventStream
  | serverStatus
deriving DecidableEq

/-- The routes of `serve`'s router. -/
def uiRoutes : List (String × Method × UiHandler) :=
  [("/", .GET, .dashboard), ("/api/requests", .GET, .listRequests),
    ("/api/requests", .DELETE, .clearRequests), ("/api/requests/{id}", .GET, .getRequest),
    ("/api/requests/{id}/replay", .POST, .replayRequest), ("/api/stream", .GET, .eventStream),
    ("/api/status", .GET, .serverStatus)]

/-- The handler of a request; a `get` route is one for `HEAD` too. -/
def routeOf (pathMatches : String → String → Bool) (request : UiRequest) : Option UiHandler :=
  (uiRoutes.find? fun route => pathMatches route.1 request.path &&
    (route.2.1 == request.method || (route.2.1 == .GET && request.method == .HEAD))).map
      fun route => route.2.2

/-- `UiSecurity`. -/
structure UiSecurity where
  authToken : Option String
  csrfToken : String
  requireLoopbackHost : Bool

/-- `UiSecurity::new`; the CSRF token is drawn by the `uuid` crate. -/
def UiSecurity.new (csrfToken : String) (authToken : Option String) (requireLoopbackHost : Bool) :
    UiSecurity where
  authToken := authToken.filter fun token => !(Text.trim token).isEmpty
  csrfToken := csrfToken
  requireLoopbackHost := requireLoopbackHost

/-- `serve` up to its listener: nothing if the UI is disabled. -/
def uiServe (config : Config) (csrfToken : String) : Except String (Option UiSecurity) :=
  if config.inspect.uiPort == 0 then .ok none
  else if !isLoopbackBind config.inspect.uiBind &&
      ((config.inspect.uiAuthToken.map Text.trim).filter fun token => !token.isEmpty).isNone then
    .error "refusing non-loopback inspection UI without inspect.ui_auth_token"
  else
    .ok (some (.new csrfToken config.inspect.uiAuthToken (isLoopbackBind config.inspect.uiBind)))

/-- What becomes of a request to the UI. -/
inductive UiOutcome
  | misdirected
  | unauthorized
  | forbidden
  | noRoute (setCookie : Option HeaderValue)
  | handled (handler : UiHandler) (setCookie : Option HeaderValue)

/-- `is_mutating`. -/
def isMutating (method : Method) : Bool :=
  method == .POST || method == .PUT || method == .PATCH || method == .DELETE

/-- `csrf_header_valid`. -/
def csrfHeaderValid (headers : HeaderMap) (expected : String) : Bool :=
  (headers.getStr .csrf).any fun value => value == expected

/-- `cookie_value`. -/
def cookieValue (cookies name : String) : Option String :=
  (cookies.toList.splitOn ';').findSome? fun part =>
    match Text.splitOnce '=' (Text.trim (String.ofList part)) with
    | some (key, value) => if key == name then some value else none
    | none => none

/-- `loopback_host_valid`. -/
def loopbackHostValid (headers : HeaderMap) : Bool :=
  (headers.getStr .host).any isLoopbackAuthority

/-- The `Set-Cookie` value `inspect_security` adds to the handler's response. -/
def csrfCookie (headers : HeaderMap) (csrfToken : String) : Option HeaderValue :=
  if (headers.getStr .cookie).any fun value => (cookieValue value "rgrok_csrf").isSome then none
  else HeaderValue.fromStr ("rgrok_csrf=" ++ csrfToken ++ "; Path=/; SameSite=Strict")

section

variable {Digest : Type*} [DecidableEq Digest] (crates : AuthCrates Digest)

/-- `tokens_equal`. -/
def tokensEqual (candidate expected : String) : Bool :=
  crates.sha256 (Text.utf8 candidate) = crates.sha256 (Text.utf8 expected)

/-- `authorized_header`. -/
def authorizedHeader (value token : String) : Bool :=
  (Text.stripPrefix "Bearer " value).any (fun candidate => tokensEqual crates candidate token) ||
    (crates.parseBasicAuthHeader value).any fun (user, password) =>
      user == "rgrok" && tokensEqual crates password token

/-- `inspect_security`, and the router behind it. -/
def inspectSecurity (pathMatches : String → String → Bool) (security : UiSecurity)
    (request : UiRequest) : UiOutcome :=
  if security.requireLoopbackHost && !loopbackHostValid request.headers then .misdirected
  else if security.authToken.any fun token =>
      !(request.headers.getStr .authorization).any fun value =>
        authorizedHeader crates value token then .unauthorized
  else if isMutating request.method && !csrfHeaderValid request.headers security.csrfToken then
    .forbidden
  else
    match routeOf pathMatches request with
    | none => .noRoute (csrfCookie request.headers security.csrfToken)
    | some handler => .handled handler (csrfCookie request.headers security.csrfToken)

/-- A request carries a token: as `Bearer`, or as the password of `rgrok`. -/
def UiRequest.Carries (request : UiRequest) (token : String) : Prop :=
  ∃ value, request.headers.getStr .authorization = some value ∧
    (value = "Bearer " ++ token ∨
      value = "Basic " ++ crates.base64Encode (Text.utf8 ("rgrok:" ++ token)))

/-- No other text has the digest of the token. -/
def NoCollision (token : String) : Prop :=
  ∀ candidate, crates.sha256 (Text.utf8 candidate) = crates.sha256 (Text.utf8 token) →
    candidate = token

variable {crates} {pathMatches : String → String → Bool} {security : UiSecurity}
  {request : UiRequest} {handler : UiHandler} {config : Config} {token value : String}

theorem tokensEqual_eq_true (hsha : NoCollision crates token) {candidate : String} :
    tokensEqual crates candidate token = true ↔ candidate = token := by
  rw [tokensEqual, decide_eq_true_eq]
  constructor
  · exact hsha candidate
  · rintro rfl
    rfl

/-- **Which `Authorization` values pass** for a token. -/
theorem authorizedHeader_eq_true (hdoc : crates.Documented) (hsha : NoCollision crates token) :
    authorizedHeader crates value token = true ↔
      value = "Bearer " ++ token ∨
        value = "Basic " ++ crates.base64Encode (Text.utf8 ("rgrok:" ++ token)) := by
  rw [authorizedHeader, Bool.or_eq_true, Option.any_eq_true, Option.any_eq_true]
  constructor
  · rintro (⟨candidate, hprefixed, hequal⟩ | ⟨⟨user, password⟩, hparsed, hequal⟩)
    · obtain rfl := (tokensEqual_eq_true hsha).1 hequal
      exact Or.inl (Text.stripPrefix_eq_some.1 hprefixed)
    · rw [Bool.and_eq_true, beq_iff_eq] at hequal
      obtain ⟨rfl, hequal⟩ := hequal
      obtain rfl := (tokensEqual_eq_true hsha).1 hequal
      obtain ⟨text, rfl, hsplit⟩ := (AuthCrates.parseBasicAuthHeader_eq_some hdoc).1 hparsed
      rw [(Text.splitOnce_eq_some.1 hsplit).1]
      exact Or.inr rfl
  · rintro (rfl | rfl)
    · exact Or.inl ⟨token, Text.stripPrefix_eq_some.2 rfl, (tokensEqual_eq_true hsha).2 rfl⟩
    · refine Or.inr ⟨("rgrok", token), ?_, ?_⟩
      · exact (AuthCrates.parseBasicAuthHeader_eq_some hdoc).2
          ⟨_, rfl, Text.splitOnce_eq_some.2 ⟨rfl, by decide⟩⟩
      · rw [Bool.and_eq_true, beq_iff_eq]
        exact ⟨rfl, (tokensEqual_eq_true hsha).2 rfl⟩

/-- **When a handler runs**: the three checks pass, and there is a route. -/
theorem inspectSecurity_handled :
    (∃ setCookie, inspectSecurity crates pathMatches security request =
        .handled handler setCookie) ↔
      (security.requireLoopbackHost = true → loopbackHostValid request.headers = true) ∧
      (∀ token, security.authToken = some token → ∃ value,
        request.headers.getStr .authorization = some value ∧
          authorizedHeader crates value token = true) ∧
      (isMutating request.method = true →
        csrfHeaderValid request.headers security.csrfToken = true) ∧
      routeOf pathMatches request = some handler := by
  have htoken : (security.authToken.any fun token =>
      !(request.headers.getStr .authorization).any fun value =>
        authorizedHeader crates value token) = false ↔
      ∀ token, security.authToken = some token → ∃ value,
        request.headers.getStr .authorization = some value ∧
          authorizedHeader crates value token = true := by
    rw [Option.any_eq_false]
    simp only [Bool.not_eq_false', Option.any_eq_true]
  rw [← htoken, inspectSecurity]
  constructor
  · rintro ⟨setCookie, h⟩
    split_ifs at h with hhost hauth hcsrf
    split at h
    · cases h
    · rename_i found hroute
      obtain ⟨rfl, -⟩ := UiOutcome.handled.inj h
      refine ⟨fun hrequire => ?_, Bool.of_not_eq_true hauth, fun hmutating => ?_, hroute⟩
      · simpa [hrequire] using hhost
      · simpa [hmutating] using hcsrf
  · rintro ⟨hhost, hauth, hcsrf, hroute⟩
    rw [if_neg, if_neg (Bool.not_eq_true _ ▸ hauth), if_neg, hroute]
    · exact ⟨_, rfl⟩
    · rw [Bool.and_eq_true, Bool.not_eq_true']
      rintro ⟨hmutating, hinvalid⟩
      rw [hcsrf hmutating] at hinvalid
      cases hinvalid
    · rw [Bool.and_eq_true, Bool.not_eq_true']
      rintro ⟨hrequire, hinvalid⟩
      rw [hhost hrequire] at hinvalid
      cases hinvalid

theorem isMutating_eq_true {method : Method} :
    isMutating method = true ↔ method ∈ [Method.POST, .PUT, .PATCH, .DELETE] := by
  simp only [isMutating, Bool.or_eq_true, beq_iff_eq, List.mem_cons, List.not_mem_nil, or_false,
    or_assoc]

/-- What `validate` says about the UI. -/
theorem validateInspect_of_validate (h : config.validate = .ok ()) :
    config.validateInspect = .ok () := by
  unfold Config.validate at h
  split_ifs at h
  all_goals
    split at h
    · cases h
    · first
      | exact h
      | cases h

/-- A token that `validate` wants is there, and not blank. -/
theorem uiAuthToken_of_validate (h : config.validate = .ok ()) (hport : config.inspect.uiPort ≠ 0)
    (hbind : isLoopbackBind config.inspect.uiBind = false) :
    ∃ token, config.inspect.uiAuthToken = some token ∧ (Text.trim token).isEmpty = false := by
  have hinspect := validateInspect_of_validate h
  rw [Config.validateInspect, hbind, Bool.or_false, beq_eq_false_iff_ne.2 hport,
    if_neg Bool.false_ne_true] at hinspect
  split at hinspect
  · cases hinspect
  · rename_i trimmed hsome
    obtain ⟨hmap, hne⟩ := Option.filter_eq_some_iff.1 hsome
    obtain ⟨token, htoken, rfl⟩ := Option.map_eq_some_iff.1 hmap
    exact ⟨token, htoken, Bool.not_eq_true' _ ▸ hne⟩

/-- An accepted configuration with a UI port is served. -/
theorem uiServe_of_validate (h : config.validate = .ok ()) (hport : config.inspect.uiPort ≠ 0)
    (csrfToken : String) : uiServe config csrfToken =
      .ok (some (.new csrfToken config.inspect.uiAuthToken
        (isLoopbackBind config.inspect.uiBind))) := by
  rw [uiServe, if_neg (by rwa [beq_iff_eq]), if_neg]
  rw [Bool.and_eq_true, Bool.not_eq_true']
  rintro ⟨hbind, hnone⟩
  obtain ⟨token, htoken, hne⟩ := uiAuthToken_of_validate h hport hbind
  rw [htoken, Option.map_some, Option.filter_some, if_pos (by rw [hne]; rfl)] at hnone
  cases hnone

/-- **The inspection UI fails closed.**  A handler runs only behind a loopback
bind for a loopback `Host`, or for the configured token; with a token that is
not blank only for that token; and for a mutating method only with the CSRF
token. -/
theorem inspection_ui_fails_closed (h : config.validate = .ok ()) (hport : config.inspect.uiPort ≠ 0)
    (hdoc : crates.Documented)
    (hsha : ∀ token, config.inspect.uiAuthToken = some token → NoCollision crates token)
    (csrfToken : String) :
    ∃ security, uiServe config csrfToken = .ok (some security) ∧
      ∀ pathMatches request handler setCookie,
        inspectSecurity crates pathMatches security request = .handled handler setCookie →
        ((isLoopbackBind config.inspect.uiBind = true ∧ ∃ authority,
            request.headers.getStr .host = some authority ∧
              isLoopbackAuthority authority = true) ∨
          ∃ token, config.inspect.uiAuthToken = some token ∧ request.Carries crates token) ∧
        (∀ token, config.inspect.uiAuthToken = some token → Text.trim token ≠ "" →
          request.Carries crates token) ∧
        (request.method ∈ [Method.POST, .PUT, .PATCH, .DELETE] →
          request.headers.getStr .csrf = some csrfToken) ∧
        (isLoopbackBind config.inspect.uiBind = false → ∃ token,
          config.inspect.uiAuthToken = some token ∧ Text.trim token ≠ "" ∧
            request.Carries crates token) := by
  refine ⟨_, uiServe_of_validate h hport csrfToken,
    fun pathMatches request handler setCookie hrun => ?_⟩
  obtain ⟨hhost, hauth, hcsrf, -⟩ := inspectSecurity_handled.1 ⟨setCookie, hrun⟩
  have hcarries (token : String) (htoken : config.inspect.uiAuthToken = some token)
      (hne : Text.trim token ≠ "") : request.Carries crates token := by
    obtain ⟨value, hvalue, hauthorized⟩ := hauth token (by
      rw [UiSecurity.new, htoken, Option.filter_some, if_pos]
      simpa using hne)
    exact ⟨value, hvalue, (authorizedHeader_eq_true hdoc (hsha token htoken)).1 hauthorized⟩
  have hexposed (hbind : isLoopbackBind config.inspect.uiBind = false) : ∃ token,
      config.inspect.uiAuthToken = some token ∧ Text.trim token ≠ "" ∧
        request.Carries crates token := by
    obtain ⟨token, htoken, hne⟩ := uiAuthToken_of_validate h hport hbind
    have hblank : Text.trim token ≠ "" := by simpa using hne
    exact ⟨token, htoken, hblank, hcarries token htoken hblank⟩
  refine ⟨?_, hcarries, fun hmutating => ?_, hexposed⟩
  · cases hbind : isLoopbackBind config.inspect.uiBind with
    | true =>
        obtain ⟨authority, hauthority, hloopback⟩ := (Option.any_eq_true _ _).1 (hhost hbind)
        exact Or.inl ⟨rfl, authority, hauthority, hloopback⟩
    | false =>
        obtain ⟨token, htoken, -, hcarried⟩ := hexposed hbind
        exact Or.inr ⟨token, htoken, hcarried⟩
  · obtain ⟨value, hvalue, hequal⟩ := (Option.any_eq_true _ _).1
      (hcsrf (isMutating_eq_true.2 hmutating))
    rw [hvalue, beq_iff_eq.1 hequal]
    rfl

end

/-! ### A UI on every address -/

/-- The UI on all addresses, with a token. -/
def exposedConfig : Config :=
  { Config.default with
    inspect :=
      { uiPort := 4041
        uiBind := "0.0.0.0"
        bufferSize := 100
        uiAuthToken := some "ui-secret" } }

/-- The libraries as they answer for `ui-secret`. -/
def uiCrates : AuthCrates (List UInt8) where
  bcryptHash _ _ _ := .error "no salt"
  bcryptVerify _ _ := .ok false
  base64Encode bytes := String.ofList (Base64.encode bytes)
  base64Decode text := Base64.decode text.toList
  sha256 bytes :=
    if bytes = Text.utf8 "ui-secret" then
      [168, 146, 248, 175, 113, 249, 202, 87, 236, 65, 207, 84, 159, 137, 236, 175, 123, 209, 123,
       222, 7, 194, 113, 55, 20, 242, 218, 189, 187, 202, 151, 30]
    else List.replicate 32 0

theorem uiCrates_documented : uiCrates.Documented where
  verify_hash salt password cost hash h := by cases h
  decode_encode bytes := by
    simp only [uiCrates, String.toList_ofList, Base64.decode_encode]
  encode_decode text bytes h := by
    simp only [uiCrates, Base64.encode_of_decode h, String.ofList_toList]

theorem uiCrates_noCollision : NoCollision uiCrates "ui-secret" := by
  intro candidate hequal
  simp only [uiCrates, if_true] at hequal
  split_ifs at hequal with hsame
  · exact Text.utf8_inj hsame
  · exact absurd hequal (by decide)

/-- `GET /api/requests` with the token. -/
def listRequest : UiRequest where
  method := .GET
  path := "/api/requests"
  headers := HeaderMap.new.append .authorization
    { bytes := Text.utf8 "Bearer ui-secret"
      valid := by decide +kernel }

/-- The token opens the exposed UI, and nothing else does. -/
theorem inspection_ui_exposed : ∃ security, uiServe exposedConfig "csrf" = .ok (some security) ∧
    (∃ setCookie, inspectSecurity uiCrates (fun pattern path => pattern == path) security
      listRequest = .handled .listRequests setCookie) ∧
    ∀ pathMatches request handler setCookie,
      inspectSecurity uiCrates pathMatches security request = .handled handler setCookie →
        request.Carries uiCrates "ui-secret" := by
  have hvalid : exposedConfig.validate = .ok () := by decide +kernel
  obtain ⟨security, hserve, hclosed⟩ := inspection_ui_fails_closed hvalid (by decide)
    uiCrates_documented (fun token htoken => Option.some.inj htoken ▸ uiCrates_noCollision) "csrf"
  rw [uiServe_of_validate hvalid (by decide)] at hserve
  obtain rfl := Option.some.inj (Except.ok.inj hserve)
  refine ⟨_, uiServe_of_validate hvalid (by decide) "csrf", ?_, ?_⟩
  · rw [inspectSecurity_handled]
    decide +kernel
  · intro pathMatches request handler setCookie hrun
    exact (hclosed _ _ _ _ hrun).2.1 "ui-secret" rfl (by decide +kernel)

end Rgrok
