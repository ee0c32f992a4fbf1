/-
# Requests on their way into the tunnel

`serialize_http_request`, the capture `proxy_request_to_tunnel` makes, and
`replay_http_request` in `crates/rgrok-server/src/proxy.rs`.

A `SentHead` is what `serialize_http_request` writes, before it is one string.
-/

import Rgrok.Http.Headers
import Rgrok.Http.Target
import Rgrok.Server.Captures
import Rgrok.Server.HttpResponse

namespace Rgrok

def maxInspectionBody : ℕ := 1048576

def hopByHopHeaders : List String :=
  ["connection", "keep-alive", "proxy-authenticate", "proxy-authorization", "proxy-connection",
    "te", "trailer", "transfer-encoding", "upgrade"]

/-- `PreparedRequest`, without the permit its body holds. -/
structure PreparedRequest (Uri : Type) where
  method : Method
  uri : Uri
  headers : HeaderMap
  body : List UInt8

/-- `GET /` with these fields. -/
def getRequest (fields : List (HeaderName × HeaderValue)) : PreparedRequest PathAndQuery where
  method := .GET
  uri := ⟨"/"⟩
  headers := fields.foldl (fun headers field => headers.append field.1 field.2) .new
  body := []

/-! ### Serialization -/

/-- The header names a `Connection` value lists. -/
def connectionTokens (value : String) : List String :=
  ((listItems [value]).filter fun token => !token.isEmpty).map fun token =>
    Text.toAsciiLowercase (String.ofList token)

/-- The header names the `Connection` fields list. -/
def connectionNamed (headers : List (String × String)) : List String :=
  headers.flatMap fun (name, value) =>
    if Text.eqIgnoreAsciiCase name "connection" then connectionTokens value else []

/-- `hop_by_hop_header_names`; a list stands for the set. -/
def hopByHopHeaderNames (headers : List (String × String)) : List String :=
  hopByHopHeaders ++ connectionNamed headers

/-- `is_hop_by_hop`. -/
def isHopByHop (name : String) (hopByHop : List String) : Bool :=
  hopByHop.contains (Text.toAsciiLowercase name)

/-- The fields of a map as strings, a value that is not visible ASCII as `""`. -/
def HeaderMap.asStrings (headers : HeaderMap) : List (String × String) :=
  headers.iter.map fun (name, value) => (name.name, value.toStrOrEmpty)

/-- The names that are hop-by-hop in a request. -/
def HeaderMap.hopByHop (headers : HeaderMap) : List String :=
  hopByHopHeaderNames headers.asStrings

/-- What is written of one header of the request. -/
def forwardField (hostWritten : Bool) (hopByHop : List String) :
    HeaderName × HeaderValue → Option (String × String)
  | (name, value) =>
      if hostWritten && name.name == "host" then none
      else if isHopByHop name.name hopByHop || name.name == "content-length" then none
      else value.toStr.map fun value => (name.name, value)

/-- The head of a forwarded request. -/
structure SentHead where
  method : String
  target : String
  fields : List (String × String)
  contentLength : ℕ
deriving DecidableEq

def SentHead.text (head : SentHead) : String :=
  head.method ++ " " ++ head.target ++ " HTTP/1.1\r\n" ++
    String.join (head.fields.map fun (name, value) => name ++ ": " ++ value ++ "\r\n") ++
    "Content-Length: " ++ toString head.contentLength ++ "\r\n\r\n"

variable {Uri : Type} (uris : UriCrate Uri)

/-- The head `serialize_http_request` writes. -/
def sentHead (parts : PreparedRequest Uri) (bodyLength : ℕ) (customHost : Option String) :
    SentHead where
  method := parts.method.name
  target := ((uris.pathAndQuery parts.uri).map PathAndQuery.asStr).getD "/"
  fields := (customHost.toList.map fun host => ("Host", host)) ++
    parts.headers.iter.filterMap (forwardField customHost.isSome parts.headers.hopByHop)
  contentLength := bodyLength

/-- `serialize_http_request`. -/
def serializeHttpRequest (parts : PreparedRequest Uri) (bodyLength : ℕ)
    (customHost : Option String) : String :=
  (sentHead uris parts bodyLength customHost).text

/-- `host_header` in `proxy_request_to_tunnel`. -/
def customHost (options : TunnelOptions) (subdomain : String) (isReplay : Bool) : Option String :=
  options.hostHeader.or (if isReplay then some subdomain else none)

/-! ### Captures -/

/-- The capture of a request, as `proxy_request_to_tunnel` hands it to
`store_capture`. -/
def captureOf (id : String) (capturedAt : ℕ) (tunnelId : String) (isReplay : Bool)
    (request : PreparedRequest Uri) : CapturedRequest where
  id := id
  capturedAt := capturedAt
  durationMs := none
  tunnelId := tunnelId
  reqMethod := request.method.name
  reqUrl := ((uris.pathAndQuery request.uri).map PathAndQuery.display).getD "/"
  reqHeaders := request.headers.iter.filterMap fun (name, value) =>
    value.toStr.map fun value => (name.name, value)
  reqBody := if request.body.isEmpty then none else some (request.body.take maxInspectionBody)
  reqBodyTruncated := maxInspectionBody < request.body.length
  respStatus := none
  respHeaders := none
  respBody := none
  respBodyTruncated := false
  remoteAddr := if isReplay then "replay" else ""
  tlsVersion := none

/-! ### Replay -/

/-- `is_safe_replay_header`. -/
def isSafeReplayHeader (name : String) : Bool :=
  !(["host", "connection", "keep-alive", "proxy-authenticate", "proxy-authorization", "te",
    "trailer", "transfer-encoding", "upgrade", "authorization", "cookie", "set-cookie",
    "x-api-key", "x-auth-token", "x-access-token"].contains (Text.toAsciiLowercase name))

/-- `StatusCode`, the ones the proxy answers with itself. -/
inductive StatusCode
  | badRequest
  | payloadTooLarge
  | internalServerError
  | badGateway
  | gatewayTimeout
deriving DecidableEq

/-- One turn of the loop over the captured headers; the flag is
`had_content_length`. -/
def replayHeader (acc : HeaderMap × Bool) (field : String × String) :
    Except StatusCode (HeaderMap × Bool) :=
  if !isSafeReplayHeader field.1 then .ok acc
  else
    match HeaderName.parse field.1, HeaderValue.fromStr field.2 with
    | some name, some value =>
        if name.name == "content-length" then .ok (acc.1, true)
        else .ok (acc.1.append name value, acc.2)
    | _, _ => .error .badRequest

/-- The request `replay_http_request` prepares. -/
def prepareReplay (capture : CapturedRequest) : Except StatusCode (PreparedRequest Uri) :=
  if capture.reqBodyTruncated then .error .payloadTooLarge
  else
    match Method.fromBytes capture.reqMethod, uris.parse capture.reqUrl with
    | some method, some uri =>
        let body := capture.reqBody.getD []
        match capture.reqHeaders.foldlM replayHeader (.new, false) with
        | .error error => .error error
        | .ok (headers, hadContentLength) =>
            if hadContentLength || !body.isEmpty then
              match HeaderValue.fromStr (toString body.length) with
              | some length =>
                  .ok { method, uri, headers := headers.insert .contentLength length, body }
              | none => .error .badRequest
            else
              .ok { method, uri, headers, body }
    | _, _ => .error .badRequest

end Rgrok
