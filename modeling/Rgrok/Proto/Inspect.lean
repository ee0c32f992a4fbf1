/-
# Captured requests

`crates/rgrok-proto/src/inspect.rs`: the record an inspected request leaves in
its tunnel's capture queue, the events about it, and the headers that are not
recorded.
-/

import Rgrok.Lib.Text

namespace Rgrok

/-- `CapturedRequest`; times are milliseconds and bodies are byte lists. -/
structure CapturedRequest where
  id : String
  capturedAt : ℕ
  durationMs : Option ℕ
  tunnelId : String
  reqMethod : String
  reqUrl : String
  reqHeaders : List (String × String)
  reqBody : Option (List UInt8)
  reqBodyTruncated : Bool
  respStatus : Option UInt16
  respHeaders : Option (List (String × String))
  respBody : Option (List UInt8)
  respBodyTruncated : Bool
  remoteAddr : String
  tlsVersion : Option String
deriving DecidableEq

/-- `InspectEvent`. -/
inductive InspectEvent
  | newRequest (request : CapturedRequest)
  | requestCompleted (id : String) (durationMs : ℕ) (respStatus : UInt16)
deriving DecidableEq

/-- `is_sensitive_header`. -/
def isSensitiveHeader (name : String) : Bool :=
  let name := Text.toAsciiLowercase (Text.trim name)
  ["authorization", "proxy-authorization", "cookie", "set-cookie", "x-api-key", "api-key",
    "x-auth-token", "x-csrf-token", "sec-websocket-key"].contains name ||
  ["api-key", "apikey", "token", "secret", "password", "credential"].any fun marker =>
    Text.contains marker name

/-- `sanitize_headers`. -/
def sanitizeHeaders (headers : List (String × String)) : List (String × String) :=
  headers.filter fun header => !isSensitiveHeader header.1

/-! ### Secret names with more behind them -/

/-- A text with a colon in it is a secret name for a word in it. -/
theorem isSensitiveHeader_colon {s : List Char} (hcolon : ':' ∈ Text.trimChars s) :
    isSensitiveHeader (String.ofList s) = true ↔
      ∃ marker ∈ ["api-key", "apikey", "token", "secret", "password", "credential"],
        marker.toList <:+: (Text.trimChars s).map Char.toLower := by
  have hlower : (Text.toAsciiLowercase (Text.trim (String.ofList s))).toList =
      (Text.trimChars s).map Char.toLower := by
    rw [Text.toAsciiLowercase, Text.trim, String.toList_ofList, String.toList_ofList,
      String.toList_ofList]
  have hexact : Text.toAsciiLowercase (Text.trim (String.ofList s)) ∉
      ["authorization", "proxy-authorization", "cookie", "set-cookie", "x-api-key", "api-key",
        "x-auth-token", "x-csrf-token", "sec-websocket-key"] := by
    intro hmem
    have hnames : ∀ name ∈ ["authorization", "proxy-authorization", "cookie", "set-cookie",
        "x-api-key", "api-key", "x-auth-token", "x-csrf-token", "sec-websocket-key"],
        ':' ∉ name.toList := by
      decide
    refine hnames _ hmem ?_
    rw [hlower]
    exact List.mem_map.2 ⟨':', hcolon, rfl⟩
  rw [isSensitiveHeader, Bool.or_eq_true, List.any_eq_true, List.contains_iff_mem]
  constructor
  · intro h
    obtain ⟨marker, hmem, hmarker⟩ := h.resolve_left hexact
    rw [Text.contains_eq_true, hlower] at hmarker
    exact ⟨marker, hmem, hmarker⟩
  · rintro ⟨marker, hmem, hmarker⟩
    refine Or.inr ⟨marker, hmem, ?_⟩
    rw [Text.contains_eq_true, hlower]
    exact hmarker

theorem colon_mem_trimChars (s t : List Char) : ':' ∈ Text.trimChars (s ++ ':' :: t) := by
  refine (Text.trimChars_prefix (by decide) t).subset ?_
  rw [Text.trimChars_concat s (by decide)]
  exact List.mem_append_right _ List.mem_cons_self

/-- **A name that is secret with a colon behind it** is so whatever follows. -/
theorem isSensitiveHeader_append {s : List Char}
    (h : isSensitiveHeader (String.ofList (s ++ [':'])) = true) (t : List Char) :
    isSensitiveHeader (String.ofList (s ++ ':' :: t)) = true := by
  rw [isSensitiveHeader_colon (colon_mem_trimChars s _)] at h ⊢
  obtain ⟨marker, hmem, hmarker⟩ := h
  have hbegins := (Text.trimChars_prefix (s := s) (c := ':') (by decide) t).map Char.toLower
  exact ⟨marker, hmem, hmarker.trans hbegins.isInfix⟩

/-- A word that is in a text, and in front of what has no letter of it. -/
theorem infix_of_infix_append {m s t : List Char} (hne : m ≠ []) (ht : ∀ c ∈ t, c ∉ m)
    (h : m <:+: s ++ t) : m <:+: s := by
  obtain ⟨before, after, heq⟩ := h
  rcases List.append_eq_append_iff.1 heq with ⟨rest, hs, -⟩ | ⟨rest, hs, ht'⟩
  · exact ⟨before, rest, hs.symm⟩
  · rcases List.eq_nil_or_concat rest with rfl | ⟨init, last, rfl⟩
    · exact ⟨before, [], by rw [List.append_nil, hs, List.append_nil]⟩
    · refine absurd ?_ (ht last (by rw [ht', List.concat_eq_append]; simp))
      have hlast := congrArg List.getLast? hs
      rw [List.getLast?_append_of_ne_nil _ hne, List.concat_eq_append, ← List.append_assoc,
        List.getLast?_concat] at hlast
      exact List.mem_of_getLast? hlast

/-- **A name that is no secret with a colon behind it** does not become one
through blanks and colons. -/
theorem isSensitiveHeader_of_append {s t : List Char}
    (ht : ∀ c ∈ t, c = ' ' ∨ c = '\t' ∨ c = ':')
    (h : isSensitiveHeader (String.ofList (s ++ ':' :: t)) = true) :
    isSensitiveHeader (String.ofList (s ++ [':'])) = true := by
  rw [isSensitiveHeader_colon (colon_mem_trimChars s _)] at h ⊢
  obtain ⟨marker, hmem, hmarker⟩ := h
  have hwords : ∀ marker ∈ ["api-key", "apikey", "token", "secret", "password", "credential"],
      marker.toList ≠ [] ∧ ' ' ∉ marker.toList ∧ '\t' ∉ marker.toList ∧ ':' ∉ marker.toList := by
    decide
  have hword := hwords marker hmem
  refine ⟨marker, hmem, ?_⟩
  -- what is trimmed behind does not matter
  have hfront : Text.trimChars (s ++ ':' :: t) <+: Text.trimChars (s ++ [':']) ++ t := by
    rw [Text.trimChars_concat s (by decide), List.append_assoc, List.singleton_append,
      ← Text.dropWhile_append_cons s (by decide)]
    exact Text.trimChars_prefix_dropWhile _
  refine infix_of_infix_append (t := t.map Char.toLower) hword.1 ?_ ?_
  · intro c hc
    obtain ⟨d, hd, rfl⟩ := List.mem_map.1 hc
    rcases ht d hd with rfl | rfl | rfl
    · exact hword.2.1
    · exact hword.2.2.1
    · exact hword.2.2.2
  · rw [← List.map_append]
    exact hmarker.trans (hfront.map Char.toLower).isInfix

theorem sanitizeHeaders_idem (headers : List (String × String)) :
    sanitizeHeaders (sanitizeHeaders headers) = sanitizeHeaders headers := by
  rw [sanitizeHeaders, sanitizeHeaders, List.filter_filter]
  simp only [Bool.and_self]

/-- `sensitive_headers_are_removed_from_captures_and_json`, its first part. -/
example : sanitizeHeaders [("Authorization", "Bearer secret"), ("Cookie", "session=secret"),
    ("X-Api-Key", "secret"), ("Accept", "text/plain")] = [("Accept", "text/plain")] := by
  decide +kernel

/-- What `store_capture` makes of a capture first, on either side. -/
def CapturedRequest.sanitize (capture : CapturedRequest) : CapturedRequest :=
  { capture with
    reqHeaders := sanitizeHeaders capture.reqHeaders
    respHeaders := capture.respHeaders.map sanitizeHeaders }

end Rgrok
