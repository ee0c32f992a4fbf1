/-
# The redirect on port 80

`handle_http_connection` in `crates/rgrok-server/src/proxy.rs` and what it calls.
It reads once, looks for a line that begins with `Host: ` or `host: `, and writes
what is behind it into the `Location` of its answer.  So a request head is
answered as it should be just when that read brings its host, and the host is
text that survives the way (`redirect_iff`).
-/

import Mathlib.Data.Bool.AllAny
import Mathlib.Data.List.TakeWhile
import Rgrok.Lib.LossyText
import Rgrok.Server.ResponseDecoding

namespace Rgrok

/-! ### The handler -/

/-- What is behind `Host: ` or `host: `. -/
def hostValue (line : List Char) : Option (List Char) :=
  (Text.dropPrefix "Host: ".toList line).or (Text.dropPrefix "host: ".toList line)

/-- The host on a line. -/
def lineHost (line : List Char) : Option (List Char) :=
  (hostValue line).map fun value => (Text.trimChars value).takeWhile (· ≠ ':')

/-- `extract_host_header`. -/
def extractHostHeader (request : List Char) : Option (List Char) :=
  (Text.lines request).findSome? lineHost

/-- `extract_request_path`. -/
def extractRequestPath (request : List Char) : List Char :=
  match Text.lines request with
  | [] => ['/']
  | firstLine :: _ =>
      match Text.splitWhitespace firstLine with
      | _ :: path :: _ => path
      | _ => ['/']

/-- The answer to a request without a host. -/
def missingHostResponse : String :=
  "HTTP/1.1 400 Bad Request\r\nContent-Length: 16\r\n\r\nMissing Host header"

/-- The answer with a `Location`. -/
def redirectResponse (location : List Char) : List Char :=
  "HTTP/1.1 301 Moved Permanently\r\nLocation: ".toList ++ location ++
    ("\r\nStrict-Transport-Security: max-age=31536000\r\nContent-Length: 0\r\n" ++
      "Connection: close\r\n\r\n").toList

/-- What comes of a connection: it is silent, it breaks, or it is closed after
some bytes were written. -/
inductive HttpConnection
  | waiting
  | failed
  | closed (written : List UInt8)
deriving DecidableEq

/-- `handle_http_connection`. -/
def handleHttpConnection (incoming : ByteStream UInt8) : HttpConnection :=
  match incoming.read 8192 with
  | .waiting => .waiting
  | .broken => .failed
  | .ended => .closed []
  | .read piece _ =>
      let requestData := Text.fromUtf8Lossy piece
      match extractHostHeader requestData with
      | none => .closed (Text.utf8 missingHostResponse)
      | some host =>
          let redirectUrl := "https://".toList ++ host ++ extractRequestPath requestData
          .closed (Text.utf8 (String.ofList (redirectResponse redirectUrl)))

/-! ### Request heads -/

/-- A space or a tab. -/
def isBlankByte (b : UInt8) : Bool :=
  b == 32 || b == 9

/-- The bytes of a value without the blanks around it. -/
def trimBlankBytes (s : List UInt8) : List UInt8 :=
  ((s.dropWhile isBlankByte).reverse.dropWhile isBlankByte).reverse

/-- The host in front of a port: an address in brackets, or what has no colon. -/
def hostPart (value : List UInt8) : List UInt8 :=
  match value, Text.breakOn 93 value with
  | 91 :: _, some (address, rest) =>
      if rest.head?.all (· == 58) then address ++ [93] else value.takeWhile (· ≠ 58)
  | _, _ => value.takeWhile (· ≠ 58)

/-- A field of a request, with all that is between the colon and the end of its
line. -/
structure RequestField where
  name : String
  content : List UInt8
  token : isToken name = true
  line : 10 ∉ content

namespace RequestField

variable (field : RequestField)

/-- The line without its end. -/
def bytes : List UInt8 :=
  Text.utf8 field.name ++ 58 :: field.content

def value : List UInt8 :=
  trimBlankBytes field.content

/-- Names are the same in any case. -/
def isHost : Bool :=
  Text.eqIgnoreAsciiCase field.name "host"

/-- The host of a `Host` field. -/
def host : List UInt8 :=
  hostPart field.value

end RequestField

/-- A request up to its empty line: a method, a target of visible characters, and
fields, one of them at most with the host. -/
structure RequestHead where
  method : String
  target : String
  fields : List RequestField
  token : isToken method = true
  visible : target.toList ≠ [] ∧ ∀ c ∈ target.toList, 32 < c.toNat ∧ c.toNat < 127
  unique : (fields.filter RequestField.isHost).length ≤ 1

namespace RequestHead

variable (head : RequestHead)

def requestLine : List UInt8 :=
  Text.utf8 head.method ++ 32 :: (Text.utf8 head.target ++ 32 :: Text.utf8 "HTTP/1.1")

def lines : List (List UInt8) :=
  head.requestLine :: head.fields.map RequestField.bytes

def bytes : List UInt8 :=
  (head.lines.flatMap fun line => line ++ crlf) ++ crlf

/-- What stands in front of a field. -/
def before (front : List RequestField) : List UInt8 :=
  (head.requestLine :: front.map RequestField.bytes).flatMap fun line => line ++ crlf

/-- The host that was asked for. -/
def host : Option (List UInt8) :=
  (head.fields.find? RequestField.isHost).map RequestField.host

/-- **The answer that a request is due**: one response, as long as it says, that
redirects to the host and the target, or says that there is no host. -/
structure IsAnsweredBy (written : List UInt8) (response : ResponseHead) (body : List UInt8) :
    Prop where
  written : written = response.bytes ++ body
  wellFormed : ∀ field ∈ response.headers, (Text.utf8 field.2).all isHeaderByte = true
  unencoded : headerValues response.headers "transfer-encoding" = []
  length : ∃ value, headerValues response.headers "content-length" = [value] ∧
    Text.Spells 10 value.toList body.length
  redirects : ∀ host ∈ head.host, response.statusCode = 301 ∧ ∃ location,
    headerValues response.headers "location" = [location] ∧
      Text.utf8 location = Text.utf8 "https://" ++ host ++ Text.utf8 head.target ∧
        ∀ c ∈ location.toList, c ≠ '\r' ∧ c ≠ '\n' ∧ c ≠ ' '
  refuses : head.host = none → response.statusCode = 400

end RequestHead

/-! ### Heads that are answered -/

/-- What was read of a value, without the blanks in front, shows the host: it is
text without a colon that begins with no white space, and all of it was read (of a
replacement character at the end the first byte will do); there is no white space
at its end either, unless a colon was read behind it. -/
structure ShowsHost (host seen : List UInt8) (text : String) : Prop where
  bytes : Text.utf8 text = host
  plain : ∀ b ∈ host, b ≠ 58 ∧ b ≠ 32 ∧ isHeaderByte b = true
  whole : Text.fromUtf8Lossy (seen.take host.length) = text.toList
  start : ∀ c ∈ text.toList.head?, Text.isWhitespace c = false
  stop : host ++ [58] <+: seen ∨ ∀ c ∈ text.toList.getLast?, Text.isWhitespace c = false

/-- The first read brings a line that begins with `Host: ` or `host: `, and enough
of it to show the host. -/
def RequestHead.IsShownIn (head : RequestHead) (piece : List UInt8) : Prop :=
  ∃ front field back seen text, head.fields = front ++ field :: back ∧
    (field.name = "Host" ∨ field.name = "host") ∧ field.content.head? = some 32 ∧
    piece = head.before front ++ (Text.utf8 field.name ++ 58 :: 32 :: seen) ∧
    ShowsHost field.host (seen.dropWhile isBlankByte) text

/-! ### Lines -/

/-- The host in what was read. -/
def hostIn (piece : List UInt8) : Option (List Char) :=
  extractHostHeader (Text.fromUtf8Lossy piece)

/-- No part of the line is taken for the host's. -/
def IsQuiet (line : List UInt8) : Prop :=
  10 ∉ line ∧ ∀ part, part <+: line ++ [13] → lineHost (Text.fromUtf8Lossy part) = none

theorem hostIn_part {line : List UInt8} (h : 10 ∉ line) (hne : line ≠ []) :
    hostIn line = lineHost (Text.fromUtf8Lossy line) := by
  rw [hostIn, extractHostHeader, Text.lines_lossy_of_not_mem h, if_neg hne, List.findSome?_cons]
  cases lineHost (Text.fromUtf8Lossy line) with
  | none => rfl
  | some host => rfl

theorem hostIn_line {line : List UInt8} (h : 10 ∉ line) (rest : List UInt8) :
    hostIn (line ++ crlf ++ rest) =
      (lineHost (Text.fromUtf8Lossy line)).or (hostIn rest) := by
  have hsplit : line ++ crlf ++ rest = (line ++ [13]) ++ 10 :: rest := by
    rw [crlf, List.append_assoc, List.append_assoc]
    rfl
  have hend : (line ++ [13]) ++ [10] = line ++ [13, 10] := List.append_assoc ..
  rw [hostIn, extractHostHeader, hsplit, Text.lines_lossy_append, hend, Text.lines_lossy_crlf h,
    List.findSome?_append, List.findSome?_cons, hostIn, extractHostHeader]
  cases lineHost (Text.fromUtf8Lossy line) with
  | none => rfl
  | some host => rfl

/-- A part of a line and what follows ends within the line, or goes on behind it. -/
theorem part_of_line {line rest part : List UInt8} (h : part <+: line ++ crlf ++ rest) :
    part <+: line ++ [13] ∨ ∃ part', part = line ++ crlf ++ part' ∧ part' <+: rest := by
  by_cases hle : part.length ≤ (line ++ [13]).length
  · refine Or.inl (List.prefix_of_prefix_length_le h ⟨10 :: rest, ?_⟩ hle)
    rw [crlf, List.append_assoc, List.append_assoc]
    rfl
  · have hlen : (line ++ crlf).length ≤ part.length := by
      rw [List.length_append, List.length_singleton] at hle
      rw [List.length_append, crlf, List.length_cons, List.length_singleton]
      omega
    obtain ⟨part', rfl⟩ := List.prefix_of_prefix_length_le ⟨rest, rfl⟩ h hlen
    exact Or.inr ⟨part', rfl, (List.prefix_append_right_inj _).1 h⟩

/-- Lines that are quiet are skipped. -/
theorem hostIn_lines {lines : List (List UInt8)} (hlines : ∀ line ∈ lines, IsQuiet line)
    (part : List UInt8) : hostIn ((lines.flatMap fun line => line ++ crlf) ++ part) = hostIn part := by
  induction lines with
  | nil => rfl
  | cons line lines ih =>
      obtain ⟨⟨hfeed, hquiet⟩, hlines⟩ := List.forall_mem_cons.1 hlines
      rw [List.flatMap_cons, List.append_assoc, hostIn_line hfeed,
        hquiet line (List.prefix_append _ _), Option.none_or, ih hlines]

/-- What ends within quiet lines has no host. -/
theorem hostIn_skip {lines : List (List UInt8)} (hlines : ∀ line ∈ lines, IsQuiet line)
    {rest piece : List UInt8} (h : piece <+: (lines.flatMap fun line => line ++ crlf) ++ rest) :
    hostIn piece = none ∨
      ∃ part, piece = (lines.flatMap fun line => line ++ crlf) ++ part ∧ part <+: rest := by
  induction lines generalizing piece with
  | nil => exact Or.inr ⟨piece, rfl, h⟩
  | cons line lines ih =>
      obtain ⟨⟨hfeed, hquiet⟩, hlines⟩ := List.forall_mem_cons.1 hlines
      rw [List.flatMap_cons, List.append_assoc] at h
      rcases part_of_line h with hpart | ⟨piece, rfl, hpiece⟩
      · refine Or.inl ?_
        by_cases hne : piece = []
        · rw [hne]
          rfl
        · rw [hostIn_part (fun hmem => ?_) hne, hquiet piece hpart]
          rcases List.mem_append.1 (hpart.subset hmem) with hmem | hmem
          · exact hfeed hmem
          · exact absurd hmem (by decide)
      · rcases ih hlines hpiece with hnone | ⟨part, rfl, hpart⟩
        · refine Or.inl ?_
          rw [hostIn_line hfeed, hquiet line (List.prefix_append _ _), Option.none_or, hnone]
        · refine Or.inr ⟨part, ?_, hpart⟩
          rw [List.flatMap_cons, List.append_assoc (line ++ crlf)]

/-! ### The line with the host -/

/-- A host's line begins with the name, the colon and a space. -/
theorem hostValue_eq_some {part : List UInt8} {value : List Char} :
    hostValue (Text.fromUtf8Lossy part) = some value ↔ ∃ name seen,
      (name = "Host" ∨ name = "host") ∧ part = Text.utf8 name ++ 58 :: 32 :: seen ∧
        value = Text.fromUtf8Lossy seen := by
  rw [hostValue, Option.or_eq_some_iff, Text.dropPrefix_eq_some]
  constructor
  · rintro (h | ⟨-, h⟩)
    · obtain ⟨seen, rfl, hvalue⟩ := Text.prefix_of_fromUtf8Lossy (p := "Host: ") (by decide) h
      exact ⟨"Host", seen, Or.inl rfl, rfl, hvalue⟩
    · obtain ⟨seen, rfl, hvalue⟩ := Text.prefix_of_fromUtf8Lossy (p := "host: ") (by decide)
        (Text.dropPrefix_eq_some.1 h)
      exact ⟨"host", seen, Or.inr rfl, rfl, hvalue⟩
  · rintro ⟨name, seen, rfl | rfl, rfl, rfl⟩
    · exact Or.inl (Text.fromUtf8Lossy_utf8_append "Host: " seen)
    · have hlower := Text.fromUtf8Lossy_utf8_append "host: " seen
      refine Or.inr ⟨?_, Text.dropPrefix_eq_some.2 hlower⟩
      rw [show Text.utf8 "host" ++ 58 :: 32 :: seen = Text.utf8 "host: " ++ seen from rfl, hlower]
      rfl

theorem token_bytes {name : String} (h : isToken name = true) {b : UInt8} (hb : b.toNat ≤ 32 ∨ b = 58) :
    b ∉ Text.utf8 name := by
  rw [isToken, Bool.and_eq_true] at h
  intro hmem
  have hascii : b.toNat < 128 := by
    rcases hb with hb | rfl
    · omega
    · decide
  obtain ⟨c, hc, hnat⟩ := Text.mem_of_mem_utf8 hmem hascii
  obtain ⟨hlow, -, hcolon⟩ := isTokenChar_range (List.all_eq_true.1 h.2 c hc)
  rcases hb with hb | rfl
  · omega
  · exact hcolon (Char.toNat_inj.1 hnat)

namespace RequestField

variable {field : RequestField}

theorem lineFeed_not_mem_bytes (field : RequestField) : 10 ∉ field.bytes := by
  rw [bytes, List.mem_append, List.mem_cons, not_or, not_or]
  exact ⟨token_bytes field.token (Or.inl (by decide)), by decide, field.line⟩

/-- A part of a field's line that begins like a host's. -/
theorem name_of_part {name : String} {seen : List UInt8} (hname : 58 ∉ Text.utf8 name)
    (h : Text.utf8 name ++ 58 :: 32 :: seen <+: field.bytes ++ [13]) :
    field.name = name ∧ ∃ content, field.content = 32 :: content ∧ seen <+: content ++ [13] := by
  obtain ⟨rest, hrest⟩ := h
  have hfield : Text.breakOn 58 (field.bytes ++ [13]) =
      some (Text.utf8 field.name, field.content ++ [13]) := by
    rw [Text.breakOn_eq_some, bytes, List.append_assoc]
    exact ⟨rfl, token_bytes field.token (Or.inr rfl)⟩
  have hpart : Text.breakOn 58 (field.bytes ++ [13]) =
      some (Text.utf8 name, 32 :: (seen ++ rest)) := by
    rw [Text.breakOn_eq_some, ← hrest, List.append_assoc]
    exact ⟨rfl, hname⟩
  obtain ⟨hsame, hcontent⟩ := Prod.mk.inj (Option.some.inj (hfield.symm.trans hpart))
  refine ⟨Text.utf8_inj hsame, ?_⟩
  cases hlist : field.content with
  | nil =>
      rw [hlist] at hcontent
      exact absurd (List.cons.inj hcontent).1 (by decide)
  | cons b content =>
      rw [hlist] at hcontent
      obtain ⟨rfl, -⟩ := List.cons.inj hcontent
      exact ⟨content, rfl, rest, (List.cons.inj hcontent.symm).2⟩

theorem isHost_of_name (h : field.name = "Host" ∨ field.name = "host") : field.isHost = true := by
  rcases h with h | h
  all_goals
    rw [isHost, h]
    decide +kernel

/-- Only the line of a `Host` field is taken for one. -/
theorem quiet (h : field.isHost = false) : IsQuiet field.bytes := by
  refine ⟨field.lineFeed_not_mem_bytes, fun part hpart => ?_⟩
  rw [lineHost, Option.map_eq_none_iff, Option.eq_none_iff_forall_ne_some]
  intro value hvalue
  obtain ⟨name, seen, hname, rfl, -⟩ := hostValue_eq_some.1 hvalue
  obtain ⟨hfield, -⟩ := name_of_part (by rcases hname with rfl | rfl <;> decide) hpart
  rw [isHost_of_name (hfield ▸ hname)] at h
  cases h

end RequestField

/-- The request line is not taken for a field. -/
theorem RequestHead.quiet (head : RequestHead) : IsQuiet head.requestLine := by
  constructor
  · have htarget : 10 ∉ Text.utf8 head.target := by
      intro hmem
      obtain ⟨c, hc, hnat⟩ := Text.mem_of_mem_utf8 hmem (by decide)
      have := (head.visible.2 c hc).1
      rw [hnat] at this
      exact absurd this (by decide)
    simp only [requestLine, List.mem_append, List.mem_cons, not_or]
    exact ⟨token_bytes head.token (Or.inl (by decide)), by decide, htarget, by decide, by decide⟩
  · intro part hpart
    rw [lineHost, Option.map_eq_none_iff, Option.eq_none_iff_forall_ne_some]
    intro value hvalue
    obtain ⟨name, seen, hname, rfl, -⟩ := hostValue_eq_some.1 hvalue
    obtain ⟨rest, hrest⟩ := hpart
    rw [requestLine, List.append_assoc, List.append_assoc] at hrest
    rcases List.append_eq_append_iff.1 hrest with ⟨more, hmore, hrest⟩ | ⟨more, hmore, hrest⟩
    · cases more with
      | nil => exact absurd (List.cons.inj hrest).1 (by decide)
      | cons b more =>
          obtain ⟨rfl, -⟩ := List.cons.inj hrest
          refine token_bytes head.token (b := 58) (Or.inr rfl) ?_
          rw [hmore]
          exact List.mem_append_right _ List.mem_cons_self
    · cases more with
      | nil => exact absurd (List.cons.inj hrest).1 (by decide)
      | cons b more =>
          obtain ⟨rfl, -⟩ := List.cons.inj hrest
          have hmem : 32 ∈ Text.utf8 name := hmore ▸ List.mem_append_right _ List.mem_cons_self
          rcases hname with rfl | rfl <;> exact absurd hmem (by decide)

/-! ### What is shown of a value -/

/-- The text of a value, as far as the port. -/
def hostText (value : List UInt8) : List Char :=
  (Text.trimChars (Text.fromUtf8Lossy value)).takeWhile (· ≠ ':')

theorem isWhitespace_of_isBlankByte {b : UInt8} (h : isBlankByte b = true ∨ b = 13) :
    b.toNat < 128 ∧ Text.isWhitespace (Char.ofNat b.toNat) = true := by
  rw [isBlankByte, Bool.or_eq_true, beq_iff_eq, beq_iff_eq] at h
  rcases h with (rfl | rfl) | rfl <;> decide

/-- Blanks behind a value are trimmed off its text. -/
theorem trim_lossy_append (s : List UInt8) {pad : List UInt8}
    (h : ∀ b ∈ pad, isBlankByte b = true ∨ b = 13) :
    Text.trimChars (Text.fromUtf8Lossy (s ++ pad)) = Text.trimChars (Text.fromUtf8Lossy s) := by
  cases pad with
  | nil => rw [List.append_nil]
  | cons b pad =>
      obtain ⟨hb, hpad⟩ := List.forall_mem_cons.1 h
      have hascii : ∀ b ∈ pad, b.toNat < 128 := fun b hb =>
        (isWhitespace_of_isBlankByte (hpad b hb)).1
      have htext : Text.fromUtf8Lossy (s ++ b :: pad) = [] ++ Text.fromUtf8Lossy s ++
          (b :: pad).map fun b => Char.ofNat b.toNat := by
        rw [Text.fromUtf8Lossy_append s (isWhitespace_of_isBlankByte hb).1,
          Text.fromUtf8Lossy_ascii hascii, List.nil_append, List.map_cons]
      rw [htext, Text.trimChars_pad rfl]
      rw [List.all_eq_true]
      rintro c hc
      obtain ⟨b', hb', rfl⟩ := List.mem_map.1 hc
      exact (isWhitespace_of_isBlankByte (h b' hb')).2

/-- Blanks in front of a value are trimmed off its text. -/
theorem trim_lossy_dropWhile (s : List UInt8) :
    Text.trimChars (Text.fromUtf8Lossy s) =
      Text.trimChars (Text.fromUtf8Lossy (s.dropWhile isBlankByte)) := by
  induction s with
  | nil => rfl
  | cons b s ih =>
      cases hb : isBlankByte b with
      | false => rw [List.dropWhile_cons_of_neg (by rw [hb]; exact Bool.false_ne_true)]
      | true =>
          obtain ⟨hascii, hspace⟩ := isWhitespace_of_isBlankByte (Or.inl hb)
          have htext : Text.fromUtf8Lossy (b :: s) =
              [Char.ofNat b.toNat] ++ Text.fromUtf8Lossy s ++ [] := by
            rw [List.append_nil]
            exact Text.fromUtf8Lossy_append [] hascii s
          rw [List.dropWhile_cons_of_pos hb, ← ih, htext,
            Text.trimChars_pad (by rw [List.all_cons, hspace]; rfl) rfl]

/-- The rest of a line is the value and blanks. -/
theorem exists_blanks (content : List UInt8) : ∃ blanks,
    content.dropWhile isBlankByte = trimBlankBytes content ++ blanks ∧
      ∀ b ∈ blanks, isBlankByte b = true := by
  refine ⟨((content.dropWhile isBlankByte).reverse.takeWhile isBlankByte).reverse, ?_, ?_⟩
  · rw [trimBlankBytes, ← List.reverse_append, List.takeWhile_append_dropWhile,
      List.reverse_reverse]
  · intro b hb
    exact List.all_eq_true.1 List.all_takeWhile b (List.mem_reverse.1 hb)

theorem dropWhile_blank_append (content : List UInt8) (rest : List UInt8) :
    (content ++ 13 :: rest).dropWhile isBlankByte = content.dropWhile isBlankByte ++ 13 :: rest := by
  rw [List.dropWhile_append]
  split
  · rename_i hnil
    rw [List.isEmpty_iff.1 hnil, List.dropWhile_cons_of_neg (by decide)]
    rfl
  · rfl

theorem dropWhile_prefix {s t : List UInt8} (h : s <+: t) :
    s.dropWhile isBlankByte <+: t.dropWhile isBlankByte := by
  obtain ⟨rest, rfl⟩ := h
  rw [List.dropWhile_append]
  split
  · rename_i hnil
    rw [List.isEmpty_iff.1 hnil]
    exact List.nil_prefix
  · exact List.prefix_append _ _

/-- **What a part of the line shows** is a part of the value, or all of it, behind
which no colon stands. -/
theorem shown_of_line {content seen shown : List UInt8}
    (h : shown = seen ∧ seen <+: content ++ [13] ∨ shown = content ∧ content ++ [13] <+: seen) :
    ∃ part, part <+: trimBlankBytes content ∧ hostText shown = hostText part ∧
      (seen.dropWhile isBlankByte = part ∨ part = trimBlankBytes content ∧ ∃ b rest, b ≠ 58 ∧
        seen.dropWhile isBlankByte = part ++ b :: rest) := by
  obtain ⟨blanks, hcontent, hblanks⟩ := exists_blanks content
  rcases h with ⟨rfl, hseen⟩ | ⟨rfl, rest, rfl⟩
  · have hshown := dropWhile_prefix hseen
    rw [dropWhile_blank_append, hcontent, List.append_assoc] at hshown
    have htext : hostText shown = hostText (shown.dropWhile isBlankByte) := by
      rw [hostText, trim_lossy_dropWhile]
      rfl
    rw [htext]
    rcases List.prefix_or_prefix_of_prefix hshown (List.prefix_append _ _) with hpart | ⟨pad, hpad⟩
    · exact ⟨_, hpart, rfl, Or.inl rfl⟩
    · rw [← hpad] at hshown ⊢
      have hends : ∀ b ∈ pad, isBlankByte b = true ∨ b = 13 := by
        intro b hb
        have hmem := ((List.prefix_append_right_inj _).1 hshown).subset hb
        exact (List.mem_append.1 hmem).imp (hblanks b) List.mem_singleton.1
      refine ⟨_, List.prefix_rfl, by rw [hostText, trim_lossy_append _ hends]; rfl, ?_⟩
      cases pad with
      | nil => exact Or.inl (List.append_nil _)
      | cons b pad =>
          refine Or.inr ⟨rfl, b, pad, ?_, rfl⟩
          rintro rfl
          exact absurd (hends 58 List.mem_cons_self) (by decide)
  · refine ⟨trimBlankBytes shown, List.prefix_rfl, ?_, Or.inr ⟨rfl, ?_⟩⟩
    · rw [hostText, trim_lossy_dropWhile, hcontent, trim_lossy_append _ fun b hb => Or.inl (hblanks b hb)]
      rfl
    · rw [List.append_assoc, List.singleton_append, dropWhile_blank_append, hcontent, List.append_assoc]
      cases blanks with
      | nil => exact ⟨13, rest, by decide, rfl⟩
      | cons b blanks =>
          refine ⟨b, blanks ++ 13 :: rest, ?_, rfl⟩
          rintro rfl
          exact absurd (hblanks 58 List.mem_cons_self) (by decide)

/-- A value begins with its host, and nothing or a colon stands behind it. -/
theorem hostPart_append (value : List UInt8) : ∃ rest, value = hostPart value ++ rest ∧
    (rest = [] ∨ ∃ port, rest = 58 :: port) := by
  have hplain : ∃ rest, value = value.takeWhile (· ≠ 58) ++ rest ∧
      (rest = [] ∨ ∃ port, rest = 58 :: port) := by
    refine ⟨value.dropWhile (· ≠ 58), List.takeWhile_append_dropWhile.symm, ?_⟩
    cases hrest : value.dropWhile (· ≠ 58) with
    | nil => exact Or.inl rfl
    | cons b rest =>
        have hnot := List.head?_dropWhile_not (fun b : UInt8 => decide (b ≠ 58)) value
        rw [hrest] at hnot
        exact Or.inr ⟨rest, by simpa using hnot⟩
  unfold hostPart
  split
  · rename_i address rest hbreak
    split
    · rename_i hcolon
      refine ⟨rest, ?_, ?_⟩
      · rw [(Text.breakOn_eq_some.1 hbreak).1, List.append_assoc]
        rfl
      · cases rest with
        | nil => exact Or.inl rfl
        | cons b rest => exact Or.inr ⟨rest, by simpa using hcolon⟩
    · exact hplain
  · exact hplain

theorem colon_mem_of_lossy {s : List UInt8} (h : ':' ∈ Text.fromUtf8Lossy s) : 58 ∈ s := by
  obtain ⟨before, after, h⟩ := List.append_of_mem h
  obtain ⟨s', b, t, rfl, hb, -⟩ := Text.split_of_fromUtf8Lossy (by decide) (by decide) h
  obtain rfl : b = 58 := UInt8.toNat_inj.1 hb
  exact List.mem_append_right _ List.mem_cons_self

section Host

variable {host part : List UInt8} {text : String}

/-- The colon of a port ends the host's text. -/
theorem hostText_colon (h : 58 ∉ host) (rest : List UInt8) :
    hostText (host ++ 58 :: rest) = (Text.fromUtf8Lossy host).dropWhile Text.isWhitespace := by
  rw [hostText, Text.fromUtf8Lossy_append host (by decide)]
  exact Text.takeWhile_trimChars (by decide) (mt colon_mem_of_lossy h) _

theorem hostText_within (h : 58 ∉ host) (hpart : part <+: host) :
    hostText part = Text.trimChars (Text.fromUtf8Lossy part) := by
  rw [hostText, List.takeWhile_eq_self_iff]
  intro c hc
  obtain ⟨before, after, htext, -, -⟩ := Text.exists_trimChars (Text.fromUtf8Lossy part)
  refine decide_eq_true ?_
  rintro rfl
  refine h (hpart.subset (colon_mem_of_lossy ?_))
  rw [htext]
  exact List.mem_append_left _ (List.mem_append_right _ hc)

/-- A part of a value ends within the host, or brings the colon of the port. -/
theorem part_of_value {rest : List UInt8} (hrest : rest = [] ∨ ∃ port, rest = 58 :: port)
    (h : part <+: host ++ rest) (hcolon : ¬ host ++ [58] <+: part) : part <+: host := by
  rcases List.prefix_or_prefix_of_prefix h (List.prefix_append _ _) with hpart | ⟨more, rfl⟩
  · exact hpart
  · have hmore := (List.prefix_append_right_inj _).1 h
    cases more with
    | nil => rw [List.append_nil]
    | cons b more =>
        rcases hrest with rfl | ⟨port, rfl⟩
        · exact absurd (List.prefix_nil.1 hmore) (List.cons_ne_nil _ _)
        · obtain ⟨rfl, -⟩ := List.cons_prefix_cons.1 hmore
          exact absurd ⟨more, by rw [List.append_assoc]; rfl⟩ hcolon

/-- The host that is shown is the text that is found. -/
theorem ShowsHost.hostText_eq {value : List UInt8} (h : ShowsHost (hostPart value) part text)
    (hpart : part <+: value) : hostText part = text.toList := by
  obtain ⟨rest, hvalue, hrest⟩ := hostPart_append value
  have hcolon : 58 ∉ hostPart value := fun hmem => (h.plain 58 hmem).1 rfl
  rw [hvalue] at hpart
  by_cases hshown : hostPart value ++ [58] <+: part
  · obtain ⟨port, rfl⟩ := hshown
    rw [List.append_assoc, List.singleton_append, hostText_colon hcolon, ← h.bytes,
      Text.fromUtf8Lossy_utf8]
    cases htext : text.toList with
    | nil => rfl
    | cons c chars =>
        rw [List.dropWhile_cons_of_neg]
        rw [h.start c (by rw [htext]; rfl)]
        exact Bool.false_ne_true
  · have hhost := part_of_value hrest hpart hshown
    have hwhole := h.whole
    rw [List.take_of_length_le hhost.length_le] at hwhole
    rw [hostText_within hcolon hhost, hwhole]
    exact Text.trimChars_of_ends h.start (h.stop.resolve_left hshown)

/-- A text that is the host is shown. -/
theorem showsHost_of_hostText {value : List UInt8} (hpart : part <+: value)
    (hplain : ∀ b ∈ hostPart value, b ≠ 58 ∧ b ≠ 32 ∧ isHeaderByte b = true)
    (h : Text.utf8 (String.ofList (hostText part)) = hostPart value) :
    ShowsHost (hostPart value) part (String.ofList (hostText part)) := by
  obtain ⟨rest, hvalue, hrest⟩ := hostPart_append value
  have hcolon : 58 ∉ hostPart value := fun hmem => (hplain 58 hmem).1 rfl
  have hlossy : Text.fromUtf8Lossy (hostPart value) = hostText part := by
    rw [← h, Text.fromUtf8Lossy_utf8, String.toList_ofList]
  rw [hvalue] at hpart
  by_cases hshown : hostPart value ++ [58] <+: part
  · refine ⟨h, hplain, ?_, ?_, Or.inl hshown⟩
    · obtain ⟨port, rfl⟩ := hshown
      rw [List.append_assoc, List.take_left, String.toList_ofList, hlossy, List.append_assoc]
    · obtain ⟨port, rfl⟩ := hshown
      rw [String.toList_ofList, List.append_assoc, List.singleton_append, hostText_colon hcolon]
      exact fun c hc => Text.head_dropWhile hc
  · have hhost := part_of_value hrest hpart hshown
    have htrim := hostText_within hcolon hhost
    have hle := Text.length_fromUtf8Lossy_le hhost
    rw [hlossy, htrim] at hle
    have hwhole := Text.trimChars_of_length hle
    obtain ⟨hstart, hstop⟩ := Text.ends_trimChars (Text.fromUtf8Lossy part)
    refine ⟨h, hplain, ?_, ?_, Or.inr ?_⟩
    · rw [List.take_of_length_le hhost.length_le, String.toList_ofList, htrim, hwhole]
    · rw [String.toList_ofList, htrim]
      exact hstart
    · rw [String.toList_ofList, htrim]
      exact hstop

/-- What stands behind the value makes no difference. -/
theorem showsHost_append {b : UInt8} (hb : b ≠ 58) {value rest : List UInt8} :
    ShowsHost (hostPart value) (value ++ b :: rest) text ↔ ShowsHost (hostPart value) value text := by
  obtain ⟨port, hvalue, -⟩ := hostPart_append value
  have hle : (hostPart value).length ≤ value.length := by
    rw [congrArg List.length hvalue, List.length_append]
    exact Nat.le_add_right _ _
  have hcolon : hostPart value ++ [58] <+: value ++ b :: rest ↔ hostPart value ++ [58] <+: value := by
    refine ⟨fun h => ?_, fun h => h.trans (List.prefix_append _ _)⟩
    conv at h => rhs; rw [hvalue, List.append_assoc]
    conv => rhs; rw [hvalue]
    rw [List.prefix_append_right_inj] at h ⊢
    cases port with
    | nil => exact absurd (List.cons_prefix_cons.1 h).1.symm hb
    | cons c port => exact List.cons_prefix_cons.2 ⟨(List.cons_prefix_cons.1 h).1, List.nil_prefix⟩
  have htake : (value ++ b :: rest).take (hostPart value).length =
      value.take (hostPart value).length := List.take_append_of_le_length hle
  constructor
  · rintro ⟨hbytes, hplain, hwhole, hstart, hstop⟩
    exact ⟨hbytes, hplain, htake ▸ hwhole, hstart, hstop.imp_left hcolon.1⟩
  · rintro ⟨hbytes, hplain, hwhole, hstart, hstop⟩
    exact ⟨hbytes, hplain, htake ▸ hwhole, hstart, hstop.imp_left hcolon.2⟩

end Host

/-! ### The host that is found -/

section Line

variable {field : RequestField} {rest part : List UInt8}

/-- The line of the host is found by its beginning, whether it was read to its end
or not. -/
theorem hostIn_of_field {content seen : List UInt8} (hcontent : field.content = 32 :: content)
    (hname : field.name = "Host" ∨ field.name = "host")
    (hpart : Text.utf8 field.name ++ 58 :: 32 :: seen <+: field.bytes ++ crlf ++ rest) :
    ∃ shown, (shown = seen ∧ seen <+: content ++ [13] ∨ shown = content ∧ content ++ [13] <+: seen) ∧
      hostIn (Text.utf8 field.name ++ 58 :: 32 :: seen) = some (hostText shown) := by
  have hline (shown : List UInt8) : lineHost (Text.fromUtf8Lossy
      (Text.utf8 field.name ++ 58 :: 32 :: shown)) = some (hostText shown) := by
    rw [lineHost, hostValue_eq_some.2 ⟨field.name, shown, hname, rfl, rfl⟩]
    rfl
  have hbytes : field.bytes = Text.utf8 field.name ++ 58 :: 32 :: content := by
    rw [RequestField.bytes, hcontent]
  rcases part_of_line hpart with hshort | ⟨after, hwhole, -⟩
  · refine ⟨seen, Or.inl ⟨rfl, ?_⟩, ?_⟩
    · rw [hbytes, List.append_assoc, List.prefix_append_right_inj] at hshort
      exact (List.cons_prefix_cons.1 (List.cons_prefix_cons.1 hshort).2).2
    · rw [hostIn_part (fun hmem => ?_) (by simp), hline]
      rcases List.mem_append.1 (hshort.subset hmem) with hmem | hmem
      · exact field.lineFeed_not_mem_bytes hmem
      · exact absurd hmem (by decide)
  · refine ⟨content, Or.inr ⟨rfl, 10 :: after, ?_⟩, ?_⟩
    · rw [hbytes, List.append_assoc, List.append_assoc] at hwhole
      have hseen := (List.cons.inj (List.cons.inj (List.append_cancel_left hwhole)).2).2
      rw [hseen, List.append_assoc]
      rfl
    · rw [hwhole, hostIn_line field.lineFeed_not_mem_bytes, hbytes, hline, Option.some_or]

theorem field_of_hostIn {host : List Char} (hrest : ∀ part, part <+: rest → hostIn part = none)
    (hpart : part <+: field.bytes ++ crlf ++ rest) (h : hostIn part = some host) :
    (field.name = "Host" ∨ field.name = "host") ∧ ∃ content seen, field.content = 32 :: content ∧
      part = Text.utf8 field.name ++ 58 :: 32 :: seen := by
  have hline {line : List UInt8} (hbegins : line <+: field.bytes ++ [13])
      (hsome : lineHost (Text.fromUtf8Lossy line) = some host) :
      (field.name = "Host" ∨ field.name = "host") ∧ ∃ content seen, field.content = 32 :: content ∧
        line = Text.utf8 field.name ++ 58 :: 32 :: seen := by
    obtain ⟨value, hvalue, -⟩ := Option.map_eq_some_iff.1 hsome
    obtain ⟨name, seen, hname, rfl, -⟩ := hostValue_eq_some.1 hvalue
    obtain ⟨rfl, content, hcontent, -⟩ :=
      RequestField.name_of_part (by rcases hname with rfl | rfl <;> decide) hbegins
    exact ⟨hname, content, seen, hcontent, rfl⟩
  rcases part_of_line hpart with hshort | ⟨after, rfl, hafter⟩
  · by_cases hne : part = []
    · rw [hne] at h
      cases h
    · rw [hostIn_part (fun hmem => ?_) hne] at h
      · exact hline hshort h
      · rcases List.mem_append.1 (hshort.subset hmem) with hmem | hmem
        · exact field.lineFeed_not_mem_bytes hmem
        · exact absurd hmem (by decide)
  · rw [hostIn_line field.lineFeed_not_mem_bytes, hrest after hafter, Option.or_none] at h
    obtain ⟨hname, content, seen, hcontent, hbytes⟩ := hline (List.prefix_append _ _) h
    refine ⟨hname, content, seen ++ crlf ++ after, hcontent, ?_⟩
    rw [hbytes, List.append_assoc, List.append_assoc, List.append_assoc]
    rfl

end Line

namespace RequestHead

variable {head : RequestHead} {front back : List RequestField} {field : RequestField}
  {piece : List UInt8}

theorem bytes_eq (hfields : head.fields = front ++ field :: back) :
    head.bytes = head.before front ++ (field.bytes ++ crlf ++
      (((back.map RequestField.bytes).flatMap fun line => line ++ crlf) ++ crlf)) := by
  rw [bytes, lines, hfields, List.map_append, List.map_cons, before, ← List.cons_append,
    List.flatMap_append]
  simp only [List.flatMap_cons, List.append_assoc]

/-- Only one field is a `Host` field. -/
theorem not_isHost (hfields : head.fields = front ++ field :: back) (h : field.isHost = true) :
    (∀ other ∈ front, other.isHost = false) ∧ ∀ other ∈ back, other.isHost = false := by
  have hunique := head.unique
  rw [hfields, List.filter_append, List.filter_cons_of_pos h, List.length_append,
    List.length_cons] at hunique
  have hnone {fields : List RequestField} (hlen : (fields.filter RequestField.isHost).length = 0) :
      ∀ other ∈ fields, other.isHost = false := fun other hother =>
    Bool.eq_false_iff.2 (List.filter_eq_nil_iff.1 (List.length_eq_zero_iff.1 hlen) other hother)
  exact ⟨hnone (by omega), hnone (by omega)⟩

theorem quiet_fields {fields : List RequestField} (h : ∀ field ∈ fields, field.isHost = false) :
    ∀ line ∈ fields.map RequestField.bytes, IsQuiet line := by
  intro line hline
  obtain ⟨field, hfield, rfl⟩ := List.mem_map.1 hline
  exact RequestField.quiet (h field hfield)

/-- There is no host in fields that are none. -/
theorem hostIn_eq_none {lines : List (List UInt8)} (hlines : ∀ line ∈ lines, IsQuiet line)
    {part : List UInt8} (h : part <+: (lines.flatMap fun line => line ++ crlf) ++ crlf) :
    hostIn part = none := by
  rcases hostIn_skip hlines h with hnone | ⟨rest, rfl, hrest⟩
  · exact hnone
  · rw [hostIn_lines hlines]
    have hempty : ∀ rest ∈ crlf.inits, hostIn rest = none := by decide
    exact hempty rest ((List.mem_inits _ _).2 hrest)

theorem host_eq (hfields : head.fields = front ++ field :: back) (h : field.isHost = true) :
    head.host = some field.host := by
  have hfront : front.find? RequestField.isHost = none :=
    List.find?_eq_none.2 fun other hother => by
      rw [(not_isHost hfields h).1 other hother]
      exact Bool.false_ne_true
  rw [host, hfields, List.find?_append, hfront, List.find?_cons_of_pos h]
  rfl

/-- **Where a host is found.** -/
theorem found_of_hostIn {text : List Char} (hpiece : piece <+: head.bytes)
    (h : hostIn piece = some text) : ∃ front field back content seen,
      head.fields = front ++ field :: back ∧ (field.name = "Host" ∨ field.name = "host") ∧
        field.content = 32 :: content ∧
          piece = head.before front ++ (Text.utf8 field.name ++ 58 :: 32 :: seen) := by
  cases hfind : head.fields.find? RequestField.isHost with
  | none =>
      have hfields := List.find?_eq_none.1 hfind
      have hquiet : ∀ line ∈ head.lines, IsQuiet line :=
        List.forall_mem_cons.2 ⟨head.quiet, quiet_fields fun field hfield =>
          Bool.eq_false_iff.2 (hfields field hfield)⟩
      rw [hostIn_eq_none hquiet hpiece] at h
      cases h
  | some field =>
      obtain ⟨hhost, front, back, hfields, -⟩ := List.find?_eq_some_iff_append.1 hfind
      obtain ⟨hfront, hback⟩ := not_isHost hfields hhost
      rw [bytes_eq hfields] at hpiece
      have hquiet := List.forall_mem_cons.2 ⟨head.quiet, quiet_fields hfront⟩
      rcases hostIn_skip hquiet hpiece with hnone | ⟨part, rfl, hpart⟩
      · rw [hnone] at h
        cases h
      · rw [hostIn_lines hquiet] at h
        obtain ⟨hname, content, seen, hcontent, rfl⟩ :=
          field_of_hostIn (fun part => hostIn_eq_none (quiet_fields hback)) hpart h
        exact ⟨front, field, back, content, seen, hfields, hname, hcontent, rfl⟩

/-- The first line is the request line. -/
theorem extractRequestPath_eq (head : RequestHead) (front : List RequestField) (part : List UInt8) :
    extractRequestPath (Text.fromUtf8Lossy (head.before front ++ part)) = head.target.toList := by
  have hsplit : head.before front ++ part = head.requestLine ++ [13] ++ 10 ::
      (((front.map RequestField.bytes).flatMap fun line => line ++ crlf) ++ part) := by
    rw [before, List.flatMap_cons]
    simp only [crlf, List.append_assoc, List.cons_append, List.nil_append]
  have hend : head.requestLine ++ [13] ++ [10] = head.requestLine ++ [13, 10] :=
    List.append_assoc ..
  have hspace (s : List UInt8) : Text.fromUtf8Lossy (32 :: s) = ' ' :: Text.fromUtf8Lossy s :=
    Text.fromUtf8Lossy_append [] (by decide) s
  have hmethod := isToken_forall head.token
  have htext : Text.fromUtf8Lossy head.requestLine =
      head.method.toList ++ ' ' :: (head.target.toList ++ ' ' :: "HTTP/1.1".toList) := by
    rw [requestLine, Text.fromUtf8Lossy_utf8_append, hspace, Text.fromUtf8Lossy_utf8_append, hspace,
      Text.fromUtf8Lossy_utf8]
  have hwords : Text.splitWhitespace (Text.fromUtf8Lossy head.requestLine) =
      head.method.toList :: head.target.toList :: Text.splitWhitespace "HTTP/1.1".toList := by
    rw [htext, Text.splitWhitespace_word hmethod.1 _ (by decide),
      Text.splitWhitespace_word head.visible.1 _ (by decide)]
    · intro c hc
      have hrange := head.visible.2 c hc
      exact Text.not_isWhitespace (by omega) (by omega)
    · exact fun c hc => (isTokenChar_plain (hmethod.2 c hc)).1
  rw [extractRequestPath, hsplit, Text.lines_lossy_append, hend,
    Text.lines_lossy_crlf head.quiet.1, List.singleton_append]
  dsimp only
  rw [hwords]

end RequestHead

/-! ### The answers as responses -/

/-- A section is read in one way. -/
theorem section_unique {lines lines' : List (List Char)} {body body' : List UInt8}
    (hne : lines ≠ []) (hne' : lines' ≠ []) (hlines : ∀ line ∈ lines, line ≠ [] ∧ '\n' ∉ line)
    (hlines' : ∀ line ∈ lines', line ≠ [] ∧ '\n' ∉ line)
    (h : Text.utf8 (String.ofList (sectionText lines)) ++ body =
      Text.utf8 (String.ofList (sectionText lines')) ++ body') : lines = lines' ∧ body = body' := by
  have hsplit {lines : List (List Char)} (hlines : ∀ line ∈ lines, line ≠ [] ∧ '\n' ∉ line) :
      Text.splitCrlf (sectionText lines) = lines ++ [[], []] :=
    splitCrlf_lines fun line hline hin => (hlines line hline).2 (hin.subset (by decide))
  obtain ⟨n, hpos, hlen⟩ := position_sectionText hne hlines
  obtain ⟨n', hpos', hlen'⟩ := position_sectionText hne' hlines'
  have hsame : n = n' := by
    have hall := position_append (t := body) hpos
    rw [h, position_append (t := body') hpos'] at hall
    exact (Option.some.inj hall).symm
  obtain ⟨hbytes, hbody⟩ := List.append_inj h (by omega)
  have htext := congrArg String.toList (Text.utf8_inj hbytes)
  rw [String.toList_ofList, String.toList_ofList] at htext
  have happend : lines ++ [[], []] = lines' ++ [[], []] := by
    rw [← hsplit hlines, htext, hsplit hlines']
  exact ⟨List.append_cancel_right happend, hbody⟩

/-- A response of some lines has the status and the fields in them. -/
theorem response_of_lines {response : ResponseHead} {statusLine : List Char}
    {lines : List (List Char)} {body body' : List UInt8}
    (hlines : ∀ line ∈ statusLine :: lines, line ≠ [] ∧ '\n' ∉ line)
    (h : Text.utf8 (String.ofList (sectionText (statusLine :: lines))) ++ body =
      response.bytes ++ body') :
    parseStatusLine statusLine = .ok response.statusCode ∧
      parseHeaderLines (lines ++ [[]]) = .ok response.headers ∧ body = body' := by
  obtain ⟨heq, hbody⟩ := @section_unique _ response.lines _ _ (List.cons_ne_nil _ _)
    (List.cons_ne_nil _ _) hlines response.lineFeed_not_mem_lines h
  obtain ⟨rfl, rfl⟩ := List.cons.inj heq
  exact ⟨parseStatusLine_statusLine response, parseHeaderLines_fields response.fields [], hbody⟩

/-- The lines of the answer with a `Location`. -/
def redirectLines (location : List Char) : List (List Char) :=
  ["Location: ".toList ++ location, "Strict-Transport-Security: max-age=31536000".toList,
    "Content-Length: 0".toList, "Connection: close".toList]

theorem redirectResponse_eq (location : List Char) : redirectResponse location =
    sectionText ("HTTP/1.1 301 Moved Permanently".toList :: redirectLines location) := by
  have hfront : "HTTP/1.1 301 Moved Permanently\r\nLocation: ".toList =
      "HTTP/1.1 301 Moved Permanently".toList ++ (['\r', '\n'] ++ "Location: ".toList) := by
    decide +kernel
  have hback : ("\r\nStrict-Transport-Security: max-age=31536000\r\nContent-Length: 0\r\n" ++
      "Connection: close\r\n\r\n").toList = ['\r', '\n'] ++
        ("Strict-Transport-Security: max-age=31536000".toList ++ (['\r', '\n'] ++
          ("Content-Length: 0".toList ++ (['\r', '\n'] ++
            ("Connection: close".toList ++ (['\r', '\n'] ++ ['\r', '\n'])))))) := by
    decide +kernel
  refine (congrArg₂ (fun front back => front ++ location ++ back) hfront hback).trans ?_
  rw [sectionText, redirectLines]
  simp only [List.flatMap_cons, List.flatMap_nil, List.append_assoc, List.nil_append]

/-- The header list of a redirect. -/
def redirectHeaders (location : String) : List (String × String) :=
  [("Location", location), ("Strict-Transport-Security", "max-age=31536000"),
    ("Content-Length", "0"), ("Connection", "close")]

theorem headerValues_redirect (location : String) :
    headerValues (redirectHeaders location) "transfer-encoding" = [] ∧
      headerValues (redirectHeaders location) "content-length" = ["0"] ∧
        headerValues (redirectHeaders location) "location" = [location] := by
  have hnames (name : String) : headerValues (redirectHeaders location) name =
      (if Text.eqIgnoreAsciiCase "Location" name then [location] else []) ++
        headerValues (redirectHeaders location).tail name := by
    rw [headerValues, redirectHeaders, List.filter_cons]
    split <;> rfl
  have htail (name : String) : headerValues (redirectHeaders location).tail name =
      headerValues [("Strict-Transport-Security", "max-age=31536000"), ("Content-Length", "0"),
        ("Connection", "close")] name := rfl
  refine ⟨?_, ?_, ?_⟩
  all_goals
    rw [hnames, htail]
  · rw [if_neg (by decide +kernel)]
    decide +kernel
  · rw [if_neg (by decide +kernel)]
    decide +kernel
  · rw [if_pos (by decide +kernel)]
    have hrest : headerValues [("Strict-Transport-Security", "max-age=31536000"),
        ("Content-Length", "0"), ("Connection", "close")] "location" = [] := by
      decide +kernel
    rw [hrest, List.append_nil]

theorem parseHeaderLines_redirect {location : List Char}
    (htrim : Text.trimChars location = location) :
    parseHeaderLines (redirectLines location ++ [[]]) =
      .ok (redirectHeaders (String.ofList location)) := by
  have hbreak : Text.breakOn ':' ("Location: ".toList ++ location) =
      some ("Location".toList, ' ' :: location) :=
    Text.breakOn_eq_some.2 ⟨rfl, by decide⟩
  have hvalue : Text.trimChars (' ' :: location) = location := by
    have hpad := @Text.trimChars_pad [' '] location [] (by decide) rfl
    rwa [List.append_nil, List.singleton_append, htrim] at hpad
  have hrest : parseHeaderLines ["Strict-Transport-Security: max-age=31536000".toList,
      "Content-Length: 0".toList, "Connection: close".toList, []] =
        .ok [("Strict-Transport-Security", "max-age=31536000"), ("Content-Length", "0"),
          ("Connection", "close")] := by
    rfl
  rw [redirectLines, List.cons_append, parseHeaderLines, hbreak, if_neg (by simp)]
  dsimp only [List.cons_append, List.nil_append]
  rw [hrest, hvalue, if_neg (by decide)]
  rfl

theorem all_isBlank_space : [' '].all isBlank = true ∧ ([] : List Char).all isBlank = true := by
  decide

/-- The redirect as a head. -/
def redirectHead (location : String) (plain : '\r' ∉ location.toList ∧ '\n' ∉ location.toList)
    (trimmed : Text.trim location = location) : ResponseHead where
  statusCode := 301
  code := ['3', '0', '1']
  reason := "Moved Permanently".toList
  fields :=
    [⟨"Location", [' '], location, [], by decide +kernel, all_isBlank_space, plain, trimmed⟩,
      ⟨"Strict-Transport-Security", [' '], "max-age=31536000", [], by decide +kernel,
        all_isBlank_space, by decide +kernel, by decide +kernel⟩,
      ⟨"Content-Length", [' '], "0", [], by decide +kernel, all_isBlank_space, by decide +kernel,
        by decide +kernel⟩,
      ⟨"Connection", [' '], "close", [], by decide +kernel, all_isBlank_space, by decide +kernel,
        by decide +kernel⟩]
  three := rfl
  spelled := ⟨by decide, [3, 0, 1], by decide, rfl⟩
  plain := by decide

theorem redirectHead_text {location : String}
    (plain : '\r' ∉ location.toList ∧ '\n' ∉ location.toList)
    (trimmed : Text.trim location = location) :
    (redirectHead location plain trimmed).text = redirectResponse location.toList := by
  rw [redirectResponse_eq, ResponseHead.text, sectionText]
  have hlocation : "Location".toList ++ ':' :: ([' '] ++ location.toList ++ []) =
      "Location: ".toList ++ location.toList := by
    rw [List.append_nil]
    rfl
  rw [ResponseHead.lines, redirectHead, redirectLines, List.map_cons, FieldLine.text, hlocation]
  rfl

/-- The head of the other answer. -/
def missingHostLines : List (List Char) :=
  ["HTTP/1.1 400 Bad Request".toList, "Content-Length: 16".toList]

theorem missingHostResponse_eq : Text.utf8 missingHostResponse =
    Text.utf8 (String.ofList (sectionText missingHostLines)) ++ Text.utf8 "Missing Host header" := by
  rw [← Text.utf8_append]
  congr 1

/-- **The answer without a host** is no response of the length it states. -/
theorem missingHost_length {response : ResponseHead} {body : List UInt8}
    (h : Text.utf8 missingHostResponse = response.bytes ++ body) {value : String}
    (hvalue : headerValues response.headers "content-length" = [value]) :
    ¬ Text.Spells 10 value.toList body.length := by
  rw [missingHostResponse_eq] at h
  obtain ⟨-, hheaders, rfl⟩ := response_of_lines (by decide +kernel) h
  have hparsed : parseHeaderLines (["Content-Length: 16".toList] ++ [[]]) =
      .ok [("Content-Length", "16")] := rfl
  rw [hparsed] at hheaders
  rw [← Except.ok.inj hheaders] at hvalue
  have hsixteen : headerValues [("Content-Length", "16")] "content-length" = ["16"] := by
    decide +kernel
  rw [hsixteen] at hvalue
  obtain rfl := (List.cons.inj hvalue).1
  rintro ⟨-, ds, hmap, hlen⟩
  have hds : "16".toList.mapM (Text.toDigit 10) = some [1, 6] := by decide
  rw [hds] at hmap
  obtain rfl := Option.some.inj hmap
  exact absurd hlen (by decide +kernel)

/-! ### What is answered -/

section Answers

variable {head : RequestHead} {piece : List UInt8}

/-- What is shown of a host is its text, and no line feed is in it. -/
theorem lineFeed_not_mem_hostText {shown : List UInt8} (h : 10 ∉ shown) :
    '\n' ∉ hostText shown := by
  intro hmem
  refine h (Text.lineFeed_mem_of_lossy ?_)
  obtain ⟨before, after, htext, -, -⟩ := Text.exists_trimChars (Text.fromUtf8Lossy shown)
  rw [htext]
  exact List.mem_append_left _ (List.mem_append_right _ ((List.takeWhile_prefix _).subset hmem))

theorem colon_not_mem_hostText (shown : List UInt8) : ':' ∉ hostText shown := by
  intro hmem
  exact absurd (List.mem_takeWhile_imp hmem) (by decide)

/-- **What is found of the host** is the text of what is shown. -/
theorem RequestHead.hostIn_eq {front back : List RequestField} {field : RequestField}
    {content seen : List UInt8} (hfields : head.fields = front ++ field :: back)
    (hname : field.name = "Host" ∨ field.name = "host") (hcontent : field.content = 32 :: content)
    (hpiece : head.before front ++ (Text.utf8 field.name ++ 58 :: 32 :: seen) <+: head.bytes) :
    ∃ part, part <+: field.value ∧ '\n' ∉ hostText part ∧
      hostIn (head.before front ++ (Text.utf8 field.name ++ 58 :: 32 :: seen)) =
        some (hostText part) ∧
      ∀ text, ShowsHost field.host (seen.dropWhile isBlankByte) text ↔
        ShowsHost field.host part text := by
  have hvalue : field.value = trimBlankBytes content := by
    rw [RequestField.value, trimBlankBytes, hcontent, List.dropWhile_cons_of_pos (by decide)]
    rfl
  have hfeed : 10 ∉ content := by
    have hline := field.line
    rw [hcontent, List.mem_cons, not_or] at hline
    exact hline.2
  rw [bytes_eq hfields] at hpiece
  have hquiet := List.forall_mem_cons.2
    ⟨head.quiet, quiet_fields (not_isHost hfields (RequestField.isHost_of_name hname)).1⟩
  have hpart := (List.prefix_append_right_inj _).1 hpiece
  obtain ⟨shown, hshown, hfound⟩ := hostIn_of_field hcontent hname hpart
  obtain ⟨part, hprefix, htext, hseen⟩ := shown_of_line hshown
  have hshownFeed : 10 ∉ shown := by
    rcases hshown with ⟨rfl, hline⟩ | ⟨rfl, -⟩
    · intro hmem
      rcases List.mem_append.1 (hline.subset hmem) with hmem | hmem
      · exact hfeed hmem
      · exact absurd hmem (by decide)
    · exact hfeed
  refine ⟨part, hvalue ▸ hprefix, htext ▸ lineFeed_not_mem_hostText hshownFeed, ?_, ?_⟩
  · rw [before, hostIn_lines hquiet, hfound, htext]
  · intro text
    rw [RequestField.host, hvalue]
    rcases hseen with hsame | ⟨rfl, b, rest, hb, hsame⟩
    · rw [hsame]
    · rw [hsame]
      exact showsHost_append hb

/-- The target is what the head says, and visible at its end. -/
theorem trim_location {host target : List Char} (hne : target ≠ [])
    (hvisible : ∀ c ∈ target, 32 < c.toNat ∧ c.toNat < 127) :
    Text.trimChars ("https://".toList ++ host ++ target) = "https://".toList ++ host ++ target := by
  refine Text.trimChars_of_ends (fun c hc => ?_) fun c hc => ?_
  · rw [List.append_assoc] at hc
    obtain rfl : 'h' = c := Option.some.inj hc
    decide
  · rw [List.getLast?_append_of_ne_nil _ hne] at hc
    have hrange := hvisible c (List.mem_of_getLast? hc)
    exact Text.not_isWhitespace (by omega) (by omega)

/-- The bytes of an answer's `Location`. -/
theorem utf8_location (host target : List Char) :
    Text.utf8 (String.ofList ("https://".toList ++ host ++ target)) =
      Text.utf8 "https://" ++ Text.utf8 (String.ofList host) ++ Text.utf8 (String.ofList target) := by
  rw [utf8_ofList_append, utf8_ofList_append, String.ofList_toList]

/-- Visible characters are header bytes. -/
theorem visible_bytes {target : String}
    (hvisible : ∀ c ∈ target.toList, 32 < c.toNat ∧ c.toNat < 127) :
    ∀ b ∈ Text.utf8 target, b ≠ 32 ∧ isHeaderByte b = true := by
  intro b hb
  rw [Text.utf8_of_ascii fun c hc => Nat.lt_of_lt_of_le (hvisible c hc).2 (by decide)] at hb
  obtain ⟨c, hc, rfl⟩ := List.mem_map.1 hb
  obtain ⟨hlow, hhigh⟩ := hvisible c hc
  have hnat : (UInt8.ofNat c.toNat).toNat = c.toNat := UInt8.toNat_ofNat_of_lt' (Nat.lt_trans hhigh (by decide))
  have hne (n : ℕ) (hn : n < 256) (hc : c.toNat ≠ n) : UInt8.ofNat c.toNat ≠ UInt8.ofNat n := by
    intro heq
    rw [← UInt8.toNat_inj, hnat, UInt8.toNat_ofNat_of_lt' hn] at heq
    exact hc heq
  refine ⟨hne 32 (by decide) (by omega), ?_⟩
  rw [isHeaderByte, Bool.or_eq_true, Bool.and_eq_true, bne_iff_ne, decide_eq_true_eq,
    UInt8.le_iff_toNat_le, hnat]
  exact Or.inl ⟨Nat.le_of_lt hlow, hne 127 (by decide) (by omega)⟩

/-- **A host that is shown is answered** with a redirect to it. -/
theorem answered_of_shown {host : List UInt8} {text : String} (hhost : head.host = some host)
    (hbytes : Text.utf8 text = host) (hplain : ∀ b ∈ host, b ≠ 58 ∧ b ≠ 32 ∧ isHeaderByte b = true) :
    ∃ response body, head.IsAnsweredBy (Text.utf8 (String.ofList (redirectResponse
      ("https://".toList ++ text.toList ++ head.target.toList)))) response body := by
  obtain ⟨location, hlocation⟩ : ∃ location : String,
      location.toList = "https://".toList ++ text.toList ++ head.target.toList :=
    ⟨_, String.toList_ofList⟩
  have hutf8 : Text.utf8 location = Text.utf8 "https://" ++ host ++ Text.utf8 head.target := by
    rw [← String.ofList_toList (s := location), hlocation, utf8_location, String.ofList_toList, hbytes, String.ofList_toList]
  have hbyte : ∀ b ∈ Text.utf8 location, b ≠ 32 ∧ isHeaderByte b = true := by
    have hscheme : ∀ b ∈ Text.utf8 "https://", b ≠ 32 ∧ isHeaderByte b = true := by
      decide +kernel
    intro b hb
    rw [hutf8] at hb
    rcases List.mem_append.1 hb with hb | hb
    · rcases List.mem_append.1 hb with hb | hb
      · exact hscheme b hb
      · exact (hplain b hb).2
    · exact visible_bytes head.visible.2 b hb
  have hchar : ∀ c ∈ location.toList, c ≠ '\r' ∧ c ≠ '\n' ∧ c ≠ ' ' := by
    intro c hc
    refine ⟨?_, ?_, ?_⟩
    · rintro rfl
      exact absurd (hbyte 13 (mem_utf8_of_mem hc rfl)).2 (by decide)
    · rintro rfl
      exact absurd (hbyte 10 (mem_utf8_of_mem hc rfl)).2 (by decide)
    · rintro rfl
      exact (hbyte 32 (mem_utf8_of_mem hc rfl)).1 rfl
  have hplain' : '\r' ∉ location.toList ∧ '\n' ∉ location.toList :=
    ⟨fun hmem => (hchar _ hmem).1 rfl, fun hmem => (hchar _ hmem).2.1 rfl⟩
  have htrim : Text.trim location = location := by
    rw [Text.trim, hlocation, trim_location head.visible.1 head.visible.2, ← hlocation,
      String.ofList_toList]
  have hheaders : (redirectHead location hplain' htrim).headers = redirectHeaders location := rfl
  obtain ⟨hencoded, hlength, hvalues⟩ := headerValues_redirect location
  refine ⟨redirectHead location hplain' htrim, [], ?_, ?_, ?_, ?_, ?_, ?_⟩
  · rw [List.append_nil, ResponseHead.bytes, redirectHead_text, hlocation]
  · rw [hheaders, redirectHeaders, List.forall_mem_cons]
    refine ⟨List.all_eq_true.2 fun b hb => (hbyte b hb).2, ?_⟩
    decide +kernel
  · rw [hheaders, hencoded]
  · rw [hheaders]
    exact ⟨"0", hlength, by decide, [0], by decide, rfl⟩
  · intro other hother
    obtain rfl := Option.some.inj (hhost.symm.trans hother)
    rw [hheaders]
    exact ⟨rfl, location, hvalues, hutf8, hchar⟩
  · intro hnone
    rw [hhost] at hnone
    cases hnone

/-- **A redirect that answers** shows the host. -/
theorem host_of_answered {host : List UInt8} {text : List Char} (hhost : head.host = some host)
    (hfeed : '\n' ∉ text) {response : ResponseHead} {body : List UInt8}
    (h : head.IsAnsweredBy (Text.utf8 (String.ofList (redirectResponse
      ("https://".toList ++ text ++ head.target.toList)))) response body) :
    Text.utf8 (String.ofList text) = host ∧ ∀ b ∈ host, b ≠ 32 ∧ isHeaderByte b = true := by
  have hwritten := h.written
  rw [redirectResponse_eq, ← List.append_nil (Text.utf8 _)] at hwritten
  have hlines : ∀ line ∈ "HTTP/1.1 301 Moved Permanently".toList ::
      redirectLines ("https://".toList ++ text ++ head.target.toList), line ≠ [] ∧ '\n' ∉ line := by
    have htarget : '\n' ∉ head.target.toList := fun hmem =>
      absurd (head.visible.2 _ hmem).1 (by decide)
    refine List.forall_mem_cons.2 ⟨by decide +kernel, List.forall_mem_cons.2 ⟨⟨by simp, ?_⟩,
      by decide +kernel⟩⟩
    rw [List.mem_append, List.mem_append, List.mem_append, not_or, not_or, not_or]
    exact ⟨by decide, ⟨by decide, hfeed⟩, htarget⟩
  obtain ⟨-, hheaders, -⟩ := response_of_lines hlines hwritten
  rw [parseHeaderLines_redirect (trim_location head.visible.1 head.visible.2)] at hheaders
  have hheaders' := Except.ok.inj hheaders
  obtain ⟨-, location, hvalues, hutf8, hchar⟩ := h.redirects host hhost
  rw [← hheaders', (headerValues_redirect _).2.2] at hvalues
  obtain rfl := (List.cons.inj hvalues).1
  have hbytes : Text.utf8 (String.ofList text) = host := by
    rw [utf8_location, String.ofList_toList] at hutf8
    exact List.append_cancel_left (List.append_cancel_right hutf8)
  refine ⟨hbytes, fun b hb => ⟨?_, ?_⟩⟩
  · rintro rfl
    rw [← hbytes] at hb
    obtain ⟨c, hc, hnat⟩ := Text.mem_of_mem_utf8 hb (by decide)
    obtain rfl : c = ' ' := Char.toNat_inj.1 hnat
    rw [String.toList_ofList] at hc
    refine (hchar ' ' ?_).2.2 rfl
    rw [String.toList_ofList]
    exact List.mem_append_left _ (List.mem_append_right _ hc)
  · have hwell := h.wellFormed ("Location", _) (by rw [← hheaders']; exact List.mem_cons_self)
    rw [hutf8] at hwell
    exact List.all_eq_true.1 hwell b (List.mem_append_left _ (List.mem_append_right _ hb))

end Answers

/-- **The redirect answers a request head**, however it arrives, just when the
first read brings its host: the host is in a field written `Host: ` or `host: `,
it is visible text without a colon that begins with no white space, and it was
read to its end. -/
theorem redirect_iff (head : RequestHead) (incoming : ByteStream UInt8)
    (h : incoming.bytes = head.bytes) :
    (∃ written response body, handleHttpConnection incoming = .closed written ∧
        head.IsAnsweredBy written response body) ↔
      ∃ piece rest, incoming.read 8192 = .read piece rest ∧ head.IsShownIn piece := by
  constructor
  · rintro ⟨written, response, body, hclosed, hanswered⟩
    rw [handleHttpConnection] at hclosed
    split at hclosed
    · cases hclosed
    · cases hclosed
    · obtain rfl := HttpConnection.closed.inj hclosed
      have hnil := congrArg List.length hanswered.written
      obtain ⟨n, -, hlen⟩ := response.position_bytes
      rw [List.length_append, List.length_nil] at hnil
      omega
    · rename_i piece rest hread
      obtain ⟨-, -, hbytes, -⟩ := ByteStream.read_spec (m := 8192) (by decide) hread
      have hpiece : piece <+: head.bytes := ⟨rest.bytes, by rw [← h, hbytes]⟩
      refine ⟨piece, rest, hread, ?_⟩
      dsimp only at hclosed
      split at hclosed
      · rename_i hnone
        obtain rfl := HttpConnection.closed.inj hclosed
        obtain ⟨value, hvalue, hspells⟩ := hanswered.length
        exact absurd hspells (missingHost_length hanswered.written hvalue)
      · rename_i host hsome
        obtain rfl := HttpConnection.closed.inj hclosed
        obtain ⟨front, field, back, content, seen, hfields, hname, hcontent, rfl⟩ :=
          RequestHead.found_of_hostIn hpiece hsome
        obtain ⟨part, hpart, hfeed, hfound, hshows⟩ :=
          RequestHead.hostIn_eq hfields hname hcontent hpiece
        obtain rfl : hostText part = host := Option.some.inj (hfound.symm.trans hsome)
        rw [RequestHead.extractRequestPath_eq] at hanswered
        obtain ⟨hhost, hplain⟩ := host_of_answered
          (RequestHead.host_eq hfields (RequestField.isHost_of_name hname)) hfeed hanswered
        refine ⟨front, field, back, seen, String.ofList (hostText part), hfields, hname,
          by rw [hcontent]; rfl, rfl, (hshows _).2 ?_⟩
        refine showsHost_of_hostText hpart (fun b hb => ⟨?_, hplain b hb⟩) hhost
        rintro rfl
        rw [← RequestField.host, ← hhost] at hb
        obtain ⟨c, hc, hnat⟩ := Text.mem_of_mem_utf8 hb (by decide)
        obtain rfl : c = ':' := Char.toNat_inj.1 hnat
        rw [String.toList_ofList] at hc
        exact colon_not_mem_hostText part hc
  · rintro ⟨piece, rest, hread, front, field, back, seen, text, hfields, hname, hspace, rfl, hshows⟩
    obtain ⟨content, hcontent⟩ := List.head?_eq_some_iff.1 hspace
    obtain ⟨-, -, hbytes, -⟩ := ByteStream.read_spec (m := 8192) (by decide) hread
    have hpiece : head.before front ++ (Text.utf8 field.name ++ 58 :: 32 :: seen) <+: head.bytes :=
      ⟨rest.bytes, by rw [← h, hbytes]⟩
    obtain ⟨part, hpart, -, hfound, hshown⟩ := RequestHead.hostIn_eq hfields hname hcontent hpiece
    have hpartShows := (hshown text).1 hshows
    obtain ⟨response, body, hanswered⟩ := answered_of_shown
      (RequestHead.host_eq hfields (RequestField.isHost_of_name hname)) hshows.bytes hshows.plain
    refine ⟨_, response, body, ?_, hanswered⟩
    rw [handleHttpConnection, hread]
    dsimp only
    rw [show extractHostHeader _ = _ from hfound, hpartShows.hostText_eq hpart,
      RequestHead.extractRequestPath_eq]

/-- A request for `/foo` at `example.com`. -/
def exampleHead : RequestHead where
  method := "GET"
  target := "/foo"
  fields := [⟨"Host", 32 :: Text.utf8 "example.com", by decide +kernel, by decide +kernel⟩]
  token := Method.GET.valid
  visible := ⟨by decide +kernel, List.all_iff_forall_prop.1 (by decide +kernel)⟩
  unique := by decide +kernel

/-- The request arrives as a whole. -/
def exampleRequest : ByteStream UInt8 where
  arrivals := [exampleHead.bytes]
  ending := .silent
  nonempty := by decide +kernel

theorem redirect_iff_example : exampleRequest.bytes = exampleHead.bytes ∧
    ∃ written response body, handleHttpConnection exampleRequest = .closed written ∧
      exampleHead.IsAnsweredBy written response body := by
  have hbytes : exampleRequest.bytes = exampleHead.bytes := by
    decide +kernel
  refine ⟨hbytes, (redirect_iff exampleHead exampleRequest hbytes).2
    ⟨exampleHead.bytes, ⟨[], .silent, fun _ hmem => absurd hmem List.not_mem_nil⟩, ?_, [], _, [], Text.utf8 "example.com\r\n\r\n",
      "example.com", rfl, Or.inl rfl, rfl, by decide +kernel, ?_⟩⟩
  · rfl
  · refine ⟨by decide +kernel, by decide +kernel, by decide +kernel, ?_, Or.inr ?_⟩
    · intro c hc
      obtain rfl : 'e' = c := Option.some.inj hc
      decide
    · intro c hc
      obtain rfl : 'm' = c := Option.some.inj hc
      decide

/-- A request without a host. -/
def hostlessHead : RequestHead where
  method := "GET"
  target := "/"
  fields := []
  token := Method.GET.valid
  visible := ⟨by decide +kernel, List.all_iff_forall_prop.1 (by decide +kernel)⟩
  unique := by decide +kernel

def hostlessRequest : ByteStream UInt8 where
  arrivals := [hostlessHead.bytes]
  ending := .silent
  nonempty := by decide +kernel

/-- **A request without a host is not answered right**: the body has three bytes
more than the answer says. -/
theorem missing_host_answer_too_long :
    ¬ ∀ (head : RequestHead) (incoming : ByteStream UInt8), head.bytes.length ≤ 8192 →
      incoming.bytes = head.bytes →
        ∃ written response body, handleHttpConnection incoming = .closed written ∧
          head.IsAnsweredBy written response body := by
  intro h
  obtain ⟨written, response, body, hclosed, hanswered⟩ :=
    h hostlessHead hostlessRequest (by decide +kernel) (by decide +kernel)
  have hwritten : handleHttpConnection hostlessRequest = .closed (Text.utf8 missingHostResponse) := by
    decide +kernel
  obtain rfl := HttpConnection.closed.inj (hwritten.symm.trans hclosed)
  obtain ⟨value, hvalue, hspells⟩ := hanswered.length
  exact missingHost_length hanswered.written hvalue hspells

end Rgrok
