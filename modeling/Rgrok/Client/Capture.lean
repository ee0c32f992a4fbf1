/-
# What the client captures of an exchange

`crates/rgrok-client/src/local_proxy.rs`: the capture `bridge_with_capture`
makes of the two buffers and totals when both pumps have returned, and
`store_capture` in `inspect.rs`.
-/

import Rgrok.Client.Bridge
import Rgrok.Http.Lines
import Rgrok.Lib.LossyText
import Rgrok.Proto.Inspect

namespace Rgrok

/-- `find_body_offset`. -/
def findBodyOffset (data : List UInt8) : Option ℕ :=
  (position crlfCrlf data).map (· + 4)

/-- The fields of the lines up to the first empty one; a line without `": "` is
passed over. -/
def captureFields : List (List Char) → List (String × String)
  | [] => []
  | line :: lines =>
      if line.isEmpty then []
      else
        match Text.splitOnceAt [':', ' '] line with
        | some (key, value) => (String.ofList key, String.ofList value) :: captureFields lines
        | none => captureFields lines

/-- An empty line ends the fields. -/
theorem captureFields_append (lines more : List (List Char)) :
    captureFields (lines ++ more) =
      if [] ∈ lines then captureFields lines else captureFields lines ++ captureFields more := by
  induction lines with
  | nil => rfl
  | cons line lines ih =>
      rw [List.cons_append, captureFields, captureFields]
      cases line with
      | nil => rw [List.isEmpty_nil, if_pos rfl, if_pos rfl, if_pos List.mem_cons_self]
      | cons c line =>
          have hmem : [] ∈ (c :: line) :: lines ↔ [] ∈ lines := by simp
          rw [List.isEmpty_cons, if_neg Bool.false_ne_true, if_neg Bool.false_ne_true,
            if_congr hmem rfl rfl, ih]
          split <;> split <;> simp [*]

/-- The body that is captured, if there is one. -/
def captureBody (data : List UInt8) (maxBodyBytes : UInt64) : Option (List UInt8) :=
  match findBodyOffset data with
  | none => none
  | some offset =>
      if offset < data.length then some ((data.drop offset).take maxBodyBytes.toNat) else none

/-- The body was longer than what may be kept of it. -/
def captureTruncated (data : List UInt8) (total maxBodyBytes : UInt64) : Bool :=
  match findBodyOffset data with
  | none => false
  | some offset => maxBodyBytes.toNat < total.toNat - offset

/-- What a capture is given from elsewhere: the id and the times. -/
structure CaptureStamp where
  newId : String
  capturedAt : ℕ
  durationMs : ℕ

/-- `parse_request_for_capture`. -/
def parseRequestForCapture (stamp : CaptureStamp) (data : List UInt8) (maxBodyBytes : UInt64) :
    Option CapturedRequest :=
  match Text.lines (Text.fromUtf8Lossy data) with
  | [] => none
  | requestLine :: lines =>
      match Text.splitWhitespace requestLine with
      | method :: url :: _ =>
          some {
            id := stamp.newId
            capturedAt := stamp.capturedAt
            durationMs := none
            tunnelId := ""
            reqMethod := String.ofList method
            reqUrl := String.ofList url
            reqHeaders := sanitizeHeaders (captureFields lines)
            reqBody := captureBody data maxBodyBytes
            reqBodyTruncated := false
            respStatus := none
            respHeaders := none
            respBody := none
            respBodyTruncated := false
            remoteAddr := ""
            tlsVersion := none }
      | _ => none

/-- `parse_response_status`. -/
def parseResponseStatus (data : List UInt8) : Option UInt16 :=
  match Text.lines (Text.fromUtf8Lossy data) with
  | [] => none
  | firstLine :: _ =>
      match Text.splitWhitespace firstLine with
      | _ :: code :: _ => (Text.parseUnsigned 10 65536 code).map UInt16.ofNat
      | _ => none

/-- `parse_response_headers`. -/
def parseCapturedHeaders (data : List UInt8) : List (String × String) :=
  sanitizeHeaders (captureFields (Text.lines (Text.fromUtf8Lossy data)).tail)

/-- The headers of a capture are those that are no secret. -/
theorem sanitizeHeaders_captured (data : List UInt8) :
    sanitizeHeaders (parseCapturedHeaders data) = parseCapturedHeaders data :=
  sanitizeHeaders_idem _

/-- The response, if there is one. -/
def CapturedRequest.answered (capture : CapturedRequest) (data : List UInt8)
    (bytesOut maxBodyBytes : UInt64) : CapturedRequest :=
  if data.isEmpty then capture
  else
    { capture with
      respStatus := parseResponseStatus data
      respHeaders := some (parseCapturedHeaders data)
      respBody := captureBody data maxBodyBytes
      respBodyTruncated := captureTruncated data bytesOut maxBodyBytes }

/-- What is captured of two buffers and totals. -/
def captureExchange (stamp : CaptureStamp) (maxBodyBytes : UInt64)
    (request response : List UInt8) (bytesIn bytesOut : UInt64) : Option CapturedRequest :=
  (parseRequestForCapture stamp request maxBodyBytes).map fun capture =>
    { ({ capture with
        reqBodyTruncated := captureTruncated request bytesIn maxBodyBytes }.answered response
          bytesOut maxBodyBytes) with durationMs := some stamp.durationMs }

/-- `InspectState`, as far as a bridge uses it. -/
structure InspectState where
  captures : List CapturedRequest
  maxCaptures : ℕ
  maxBodyBytes : UInt64

namespace InspectState

/-- `store_capture`, and the event it sends. -/
def storeCapture (inspect : InspectState) (capture : CapturedRequest) :
    InspectState × List InspectEvent :=
  let queue :=
    if inspect.maxCaptures ≤ inspect.captures.length then inspect.captures.tail
    else inspect.captures
  ({ inspect with captures := queue ++ [capture.sanitize] }, [.newRequest capture.sanitize])

end InspectState

namespace Bridge

/-- The capture of a bridge whose pumps have returned. -/
def capture (stamp : CaptureStamp) (maxBodyBytes : UInt64) (bridge : Bridge) :
    Option CapturedRequest :=
  captureExchange stamp maxBodyBytes bridge.request.capture.bytes bridge.response.capture.bytes
    bridge.request.total bridge.response.total

/-- The end of `bridge_with_capture`. -/
def finish (stamp : CaptureStamp) (inspect : InspectState) (bridge : Bridge) :
    InspectState × List InspectEvent :=
  match bridge.capture stamp inspect.maxBodyBytes with
  | some capture => inspect.storeCapture capture
  | none => (inspect, [])

end Bridge

/-- `parse_request_for_capture_with_body`. -/
example : ((parseRequestForCapture ⟨"id", 0, 0⟩
    (Text.utf8 "POST /submit HTTP/1.1\r\nContent-Length: 11\r\n\r\nhello world") 1048576).map
      fun capture => (capture.reqMethod, capture.reqUrl, capture.reqHeaders, capture.reqBody)) =
    some ("POST", "/submit", [("Content-Length", "11")], some (Text.utf8 "hello world")) := by
  decide +kernel

end Rgrok
