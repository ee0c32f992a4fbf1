/-
# Captured requests as JSON

The `Serialize` and `Deserialize` instances of `CapturedRequest` and `InspectEvent`
in `crates/rgrok-proto/src/inspect.rs`.  Headers are sanitized on the way out and
on the way in, so that a capture comes back without its secret fields
(`CapturedRequest.fromJson_toJson`).

A value of `serde_json` is a `Json`; how `chrono` writes a time is a parameter.
-/

import Rgrok.Lib.Base64
import Rgrok.Proto.Inspect

namespace Rgrok

/-- `serde_json::Value`; the numbers here are natural. -/
inductive Json
  | null
  | bool (b : Bool)
  | number (n : ℕ)
  | string (s : String)
  | array (items : List Json)
  | object (fields : List (String × Json))

namespace Json

def asBool : Json → Option Bool
  | .bool b => some b
  | _ => none

def asString : Json → Option String
  | .string s => some s
  | _ => none

/-- A number below the bound of its type. -/
def asNumber (bound : ℕ) : Json → Option ℕ
  | .number n => if n < bound then some n else none
  | _ => none

def asU64 : Json → Option ℕ :=
  asNumber (2 ^ 64)

def asU16 (json : Json) : Option UInt16 :=
  (json.asNumber (2 ^ 16)).map UInt16.ofNat

def asArray : Json → Option (List Json)
  | .array items => some items
  | _ => none

/-- `Option<T>`. -/
def asOption {α : Type} (read : Json → Option α) : Json → Option (Option α)
  | .null => some none
  | json => (read json).map some

def ofOption {α : Type} (write : α → Json) : Option α → Json
  | none => .null
  | some a => write a

/-- The value under a key, if there is one; a key that is there twice is an error. -/
def field (name : String) (fields : List (String × Json)) : Option (Option Json) :=
  match fields.filter fun field => field.1 == name with
  | [] => some none
  | [(_, json)] => some (some json)
  | _ => none

/-- A field that has to be there. -/
def required {α : Type} (name : String) (read : Json → Option α) (fields : List (String × Json)) :
    Option α :=
  (field name fields).bind fun json => json.bind read

/-- A field with a default. -/
def withDefault {α : Type} (name : String) (default : α) (read : Json → Option α)
    (fields : List (String × Json)) : Option α :=
  (field name fields).bind fun
    | none => some default
    | some json => read json

/-- An option that was written is read back. -/
theorem asOption_ofOption {α β : Type} (read : Json → Option β) (write : α → Json) (f : α → β)
    {o : Option α} (hnull : ∀ a ∈ o, write a ≠ .null)
    (h : ∀ a ∈ o, read (write a) = some (f a)) :
    asOption read (ofOption write o) = some (o.map f) := by
  cases o with
  | none => rfl
  | some a =>
      have hread := h a rfl
      have hne := hnull a rfl
      rw [ofOption, asOption]
      · rw [hread, Option.map_some, Option.map_some]
      · exact hne

end Json

/-- `DateTime<Utc>` as a string. -/
structure Dates where
  render : ℕ → String
  parse : String → Option ℕ

/-- A time that was written is read back. -/
def Dates.Lawful (dates : Dates) : Prop :=
  ∀ time, dates.parse (dates.render time) = some time

/-! ### Headers and bodies -/

/-- `serialize_headers`. -/
def serializeHeaders (headers : List (String × String)) : Json :=
  .array ((sanitizeHeaders headers).map fun header => .array [.string header.1, .string header.2])

/-- A pair of strings. -/
def deserializeHeader : Json → Option (String × String)
  | .array [.string name, .string value] => some (name, value)
  | _ => none

/-- `deserialize_headers`. -/
def deserializeHeaders (json : Json) : Option (List (String × String)) :=
  (json.asArray.bind fun items => items.mapM deserializeHeader).map sanitizeHeaders

/-- `serialize_opt_bytes`. -/
def serializeOptBytes (bytes : Option (List UInt8)) : Json :=
  .ofOption (fun bytes => .string (String.ofList (Base64.encode bytes))) bytes

/-- `deserialize_opt_bytes`. -/
def deserializeOptBytes (json : Json) : Option (Option (List UInt8)) :=
  json.asOption fun json => json.asString.bind fun s => Base64.decode s.toList

theorem sanitizeHeaders_sanitizeHeaders (headers : List (String × String)) :
    sanitizeHeaders (sanitizeHeaders headers) = sanitizeHeaders headers := by
  rw [sanitizeHeaders, sanitizeHeaders, List.filter_filter]
  simp only [Bool.and_self]

theorem deserializeHeaders_serializeHeaders (headers : List (String × String)) :
    deserializeHeaders (serializeHeaders headers) = some (sanitizeHeaders headers) := by
  have hitems : ∀ fields : List (String × String),
      (fields.map fun header => Json.array [.string header.1, .string header.2]).mapM
        deserializeHeader = some fields := by
    intro fields
    induction fields with
    | nil => rfl
    | cons field fields ih =>
        rw [List.map_cons, List.mapM_cons, ih]
        rfl
  rw [deserializeHeaders, serializeHeaders, Json.asArray, Option.bind_some, hitems,
    Option.map_some, sanitizeHeaders_sanitizeHeaders]

theorem deserializeOptBytes_serializeOptBytes (bytes : Option (List UInt8)) :
    deserializeOptBytes (serializeOptBytes bytes) = some bytes := by
  have h := Json.asOption_ofOption (fun json => json.asString.bind fun s => Base64.decode s.toList)
    (fun bytes => .string (String.ofList (Base64.encode bytes))) (fun bytes => bytes) (o := bytes)
    (fun _ _ => nofun) fun bytes _ => by
      rw [Json.asString, Option.bind_some, String.toList_ofList, Base64.decode_encode]
  rwa [Option.map_id'] at h

/-! ### Captures and events -/

namespace CapturedRequest

/-- `Serialize for CapturedRequest`. -/
def toJson (dates : Dates) (capture : CapturedRequest) : Json :=
  .object [
    ("id", .string capture.id),
    ("captured_at", .string (dates.render capture.capturedAt)),
    ("duration_ms", .ofOption .number capture.durationMs),
    ("tunnel_id", .string capture.tunnelId),
    ("req_method", .string capture.reqMethod),
    ("req_url", .string capture.reqUrl),
    ("req_headers", serializeHeaders capture.reqHeaders),
    ("req_body", serializeOptBytes capture.reqBody),
    ("req_body_truncated", .bool capture.reqBodyTruncated),
    ("resp_status", .ofOption (fun status => .number status.toNat) capture.respStatus),
    ("resp_headers", .ofOption serializeHeaders capture.respHeaders),
    ("resp_body", serializeOptBytes capture.respBody),
    ("resp_body_truncated", .bool capture.respBodyTruncated),
    ("remote_addr", .string capture.remoteAddr),
    ("tls_version", .ofOption .string capture.tlsVersion)]

/-- The fields of a `CapturedRequest`. -/
def ofFields (dates : Dates) (fields : List (String × Json)) : Option CapturedRequest := do
  let id ← Json.required "id" Json.asString fields
  let capturedAt ← Json.required "captured_at" (fun json => json.asString.bind dates.parse) fields
  let durationMs ← Json.withDefault "duration_ms" none (Json.asOption Json.asU64) fields
  let tunnelId ← Json.required "tunnel_id" Json.asString fields
  let reqMethod ← Json.required "req_method" Json.asString fields
  let reqUrl ← Json.required "req_url" Json.asString fields
  let reqHeaders ← Json.required "req_headers" deserializeHeaders fields
  let reqBody ← Json.required "req_body" deserializeOptBytes fields
  let reqBodyTruncated ← Json.withDefault "req_body_truncated" false Json.asBool fields
  let respStatus ← Json.withDefault "resp_status" none (Json.asOption Json.asU16) fields
  let respHeaders ← Json.required "resp_headers" (Json.asOption deserializeHeaders) fields
  let respBody ← Json.required "resp_body" deserializeOptBytes fields
  let respBodyTruncated ← Json.required "resp_body_truncated" Json.asBool fields
  let remoteAddr ← Json.required "remote_addr" Json.asString fields
  let tlsVersion ← Json.withDefault "tls_version" none (Json.asOption Json.asString) fields
  some {
    id, capturedAt, durationMs, tunnelId, reqMethod, reqUrl, reqHeaders, reqBody, reqBodyTruncated,
    respStatus, respHeaders, respBody, respBodyTruncated, remoteAddr, tlsVersion }

/-- `Deserialize for CapturedRequest`. -/
def fromJson (dates : Dates) : Json → Option CapturedRequest
  | .object fields => ofFields dates fields
  | _ => none

/-- **A capture comes back without its secrets**, and with all the rest. -/
theorem fromJson_toJson {dates : Dates} (hdates : dates.Lawful) {capture : CapturedRequest}
    (hduration : ∀ n ∈ capture.durationMs, n < 2 ^ 64) :
    fromJson dates (capture.toJson dates) = some capture.sanitize := by
  have hnumber : (Json.ofOption .number capture.durationMs).asOption Json.asU64 =
      some capture.durationMs := by
    have h := Json.asOption_ofOption Json.asU64 .number (fun n => n)
      (fun _ _ => nofun) fun n hn => if_pos (hduration n hn)
    rwa [Option.map_id'] at h
  have hstatus : (Json.ofOption (fun status => .number status.toNat) capture.respStatus).asOption
      Json.asU16 = some capture.respStatus := by
    have h := Json.asOption_ofOption Json.asU16 (fun status : UInt16 => .number status.toNat)
      (fun status => status) (o := capture.respStatus) (fun _ _ => nofun) fun status _ => by
        rw [Json.asU16, Json.asNumber, if_pos status.toNat_lt, Option.map_some,
          UInt16.ofNat_toNat]
    rwa [Option.map_id'] at h
  have hheaders : (Json.ofOption serializeHeaders capture.respHeaders).asOption
      deserializeHeaders = some (capture.respHeaders.map sanitizeHeaders) :=
    Json.asOption_ofOption deserializeHeaders serializeHeaders sanitizeHeaders (fun _ _ => nofun)
      fun headers _ => deserializeHeaders_serializeHeaders headers
  have htls : (Json.ofOption .string capture.tlsVersion).asOption Json.asString =
      some capture.tlsVersion := by
    have h := Json.asOption_ofOption Json.asString .string (fun s => s)
      (o := capture.tlsVersion) (fun _ _ => nofun) fun _ _ => rfl
    rwa [Option.map_id'] at h
  simp [fromJson, toJson, ofFields, Json.required, Json.withDefault, Json.field, Json.asString,
    Json.asBool, hnumber, hstatus, hheaders, htls, hdates capture.capturedAt,
    deserializeHeaders_serializeHeaders, deserializeOptBytes_serializeOptBytes, sanitize]

end CapturedRequest

namespace InspectEvent

/-- `Serialize for InspectEvent`. -/
def toJson (dates : Dates) : InspectEvent → Json
  | .newRequest request =>
      .object [("event", .string "new_request"), ("request", request.toJson dates)]
  | .requestCompleted id durationMs respStatus =>
      .object [("event", .string "request_completed"), ("id", .string id),
        ("duration_ms", .number durationMs), ("resp_status", .number respStatus.toNat)]

/-- The fields of an `InspectEvent`. -/
def ofFields (dates : Dates) (fields : List (String × Json)) : Option InspectEvent := do
  let event ← Json.required "event" Json.asString fields
  if event = "new_request" then
    let request ← Json.required "request" (CapturedRequest.fromJson dates) fields
    some (.newRequest request)
  else if event = "request_completed" then
    let id ← Json.required "id" Json.asString fields
    let durationMs ← Json.required "duration_ms" Json.asU64 fields
    let respStatus ← Json.required "resp_status" Json.asU16 fields
    some (.requestCompleted id durationMs respStatus)
  else none

/-- `Deserialize for InspectEvent`. -/
def fromJson (dates : Dates) : Json → Option InspectEvent
  | .object fields => ofFields dates fields
  | _ => none

end InspectEvent

end Rgrok
