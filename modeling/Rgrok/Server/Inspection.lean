/-
# One request through the tunnel

`proxy_request_to_tunnel` in `crates/rgrok-server/src/proxy.rs`, from the
request to the answer, with the captures and the events it leaves behind.

What the function gets from elsewhere is an `Exchange`: the id and the times it
reads, whether the client opened a stream and took the request, and what came
back on the stream.
-/

import Rgrok.Server.Forwarding

namespace Rgrok

/-- What one run gets from its surroundings. -/
structure Exchange where
  newId : String
  capturedAt : ℕ
  durationMs : ℕ
  streamOpened : Bool
  headWritten : Bool
  bodyWritten : Bool
  response : ByteStream UInt8

/-- The response handed to the public connection. -/
structure PublicResponse where
  statusCode : ℕ
  headers : HeaderMap
  body : List UInt8

/-- What a run leaves; `result` is `none` while the function waits. -/
structure Forwarded where
  state : ServerState
  events : List InspectEvent
  sent : Option String
  result : Option (Except StatusCode PublicResponse)

/-- `Builder::header`; an error stays. -/
def addHeader (headers : Option HeaderMap) (field : String × String) : Option HeaderMap :=
  match headers, HeaderName.parse field.1, HeaderValue.fromStr field.2 with
  | some headers, some name, some value => some (headers.append name value)
  | _, _, _ => none

/-- The fields of the new response, in the order they are added. -/
def responseFields (method : Method) (options : TunnelOptions) (parsed : ParsedHttpResponse) :
    List (String × String) :=
  let hopByHop := hopByHopHeaderNames parsed.headers
  let endToEnd := parsed.headers.filter fun header =>
    !(isHopByHop header.1 hopByHop || Text.eqIgnoreAsciiCase header.1 "content-length")
  let contentLength :=
    if method = .HEAD then (headerValues parsed.headers "content-length").head?.toList
    else if responseHasNoBody method parsed.statusCode then ["0"]
    else [toString parsed.body.length]
  endToEnd ++ (contentLength.map fun length => ("Content-Length", length)) ++
    ("Strict-Transport-Security", "max-age=31536000") :: options.responseHeader

/-- The response `builder` makes. -/
def publicResponse (method : Method) (options : TunnelOptions) (parsed : ParsedHttpResponse) :
    Except StatusCode PublicResponse :=
  match (responseFields method options parsed).foldl addHeader (some .new) with
  | some headers =>
      if 100 ≤ parsed.statusCode ∧ parsed.statusCode < 1000 then
        .ok { statusCode := parsed.statusCode, headers, body := parsed.body }
      else .error .internalServerError
  | none => .error .internalServerError

/-- The response part of the capture. -/
def completionOf (durationMs : ℕ) (parsed : ParsedHttpResponse) : Completion where
  durationMs := durationMs
  respStatus := UInt16.ofNat parsed.statusCode
  respHeaders := sanitizeHeaders parsed.headers
  respBody := if parsed.body.isEmpty then none else some (parsed.body.take maxInspectionBody)
  respBodyTruncated := maxInspectionBody < parsed.body.length

variable {Uri : Type} (uris : UriCrate Uri)

/-- The capture of the request, and the event, if the tunnel is inspected. -/
def captureRequest (s : ServerState) (subdomain tunnelId : String) (captureId : Option String)
    (isReplay : Bool) (request : PreparedRequest Uri) (x : Exchange) :
    ServerState × List InspectEvent :=
  match captureId with
  | some id => s.storeCapture subdomain (captureOf uris id x.capturedAt tunnelId isReplay request)
  | none => (s, [])

/-- The update of the capture, and the event. -/
def captureResponse (s : ServerState) (subdomain : String) (captureId : Option String)
    (durationMs : ℕ) (parsed : ParsedHttpResponse) : ServerState × List InspectEvent :=
  match captureId with
  | some id =>
      (s.completeCapture subdomain id (completionOf durationMs parsed),
        [.requestCompleted id durationMs (UInt16.ofNat parsed.statusCode)])
  | none => (s, [])

/-- `proxy_request_to_tunnel`. -/
def proxyRequestToTunnel (s : ServerState) (subdomain : String) (tunnel : TunnelSession)
    (captureId : Option String) (request : PreparedRequest Uri) (x : Exchange) : Forwarded :=
  let isReplay := captureId.isSome
  if !x.streamOpened then ⟨s, [], none, some (.error .gatewayTimeout)⟩
  else
    let inspect := tunnel.options.inspect || captureId.isSome
    let captureId := if inspect then some (captureId.getD x.newId) else none
    let (s, events) := captureRequest uris s subdomain tunnel.id captureId isReplay request x
    let rawRequest := serializeHttpRequest uris request request.body.length
      (customHost tunnel.options tunnel.subdomain isReplay)
    if !x.headWritten then ⟨s, events, none, some (.error .badGateway)⟩
    else if !request.body.isEmpty && !x.bodyWritten then
      ⟨s, events, some rawRequest, some (.error .badGateway)⟩
    else
      match readHttpResponse request.method s.config.server.maxResponseBodyBytes x.response with
      | .waiting => ⟨s, events, some rawRequest, none⟩
      | .failed _ => ⟨s, events, some rawRequest, some (.error .badGateway)⟩
      | .done parsed _ =>
          let (s, completed) := captureResponse s subdomain captureId x.durationMs parsed
          ⟨s, events ++ completed, some rawRequest,
            some (publicResponse request.method tunnel.options parsed)⟩

end Rgrok
