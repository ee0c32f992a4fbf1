/-
# Responses on the wire

What a local service sends for one response: heads, each a status line and
field lines of tokens and values, and behind the final one the body in one of
three framings.  None of this is read off the proxy; it is what the proxy is
meant to understand.
-/

import Rgrok.Server.HttpResponse

namespace Rgrok

/-! ### Lines and heads -/

/-- A header field as it is sent, with blanks around its value. -/
structure FieldLine where
  name : String
  before : List Char
  value : String
  after : List Char
  token : name.toList ≠ [] ∧ name.toList.all isTokenChar = true
  blank : before.all isBlank = true ∧ after.all isBlank = true
  plain : '\r' ∉ value.toList ∧ '\n' ∉ value.toList
  trimmed : Text.trim value = value

def FieldLine.text (field : FieldLine) : List Char :=
  field.name.toList ++ ':' :: (field.before ++ field.value.toList ++ field.after)

/-- A response up to its empty line. -/
structure ResponseHead where
  statusCode : ℕ
  code : List Char
  reason : List Char
  fields : List FieldLine
  three : code.length = 3
  spelled : Text.Spells 10 code statusCode
  plain : '\r' ∉ reason ∧ '\n' ∉ reason

namespace ResponseHead

variable (head : ResponseHead)

/-- `HTTP/1.1`, the code and the reason. -/
def statusLine : List Char :=
  ['H', 'T', 'T', 'P', '/', '1', '.', '1'] ++ ' ' :: (head.code ++ ' ' :: head.reason)

def lines : List (List Char) :=
  head.statusLine :: head.fields.map FieldLine.text

/-- The header list. -/
def headers : List (String × String) :=
  head.fields.map fun field => (field.name, field.value)

def text : List Char :=
  (head.lines.flatMap fun line => line ++ ['\r', '\n']) ++ ['\r', '\n']

/-- The header section. -/
def bytes : List UInt8 :=
  Text.utf8 (String.ofList head.text)

/-- `1xx`, but for `101 Switching Protocols`. -/
def IsInformational : Prop :=
  100 ≤ head.statusCode ∧ head.statusCode < 200 ∧ head.statusCode ≠ 101

instance : Decidable head.IsInformational :=
  inferInstanceAs (Decidable (_ ∧ _ ∧ _))

end ResponseHead

/-! ### Bodies -/

/-- A line of at most 65,535 bytes that does not contain its end. -/
def IsBodyLine (line : List UInt8) : Prop :=
  ¬ crlf <:+: line ∧ line.length ≤ 65535

/-- A chunk-size line: hexadecimal digits, blanks, and extensions behind a
semicolon. -/
def IsSizeLine (line : List UInt8) (size : ℕ) : Prop :=
  IsBodyLine line ∧ ∃ digits blanks extensions, Text.Spells 16 digits size ∧
    blanks.all isBlank = true ∧ (extensions = [] ∨ ∃ tail, extensions = 59 :: tail) ∧
    line = Text.utf8 (String.ofList (digits ++ blanks)) ++ extensions

/-- A body and its chunked coding. -/
inductive Chunked : List UInt8 → List UInt8 → Prop
  | last {line : List UInt8} {trailers : List (List UInt8)} (hline : IsSizeLine line 0)
      (htrailers : ∀ trailer ∈ trailers, trailer ≠ [] ∧ IsBodyLine trailer) :
      Chunked [] (line ++ crlf ++ ((trailers.flatMap fun trailer => trailer ++ crlf) ++ crlf))
  | chunk {line data body wire : List UInt8} (hline : IsSizeLine line data.length)
      (hdata : data ≠ []) (hbody : Chunked body wire) :
      Chunked (data ++ body) (line ++ crlf ++ (data ++ (crlf ++ wire)))

/-- How the end of a response is found. -/
inductive Framing
  | empty
  | contentLength
  | chunked
  | close
deriving DecidableEq

/-- What follows the final head of the response to a request, and the body it
stands for.  The framing fields are those of the framing. -/
inductive Framed (method : Method) (head : ResponseHead) :
    Framing → List UInt8 → List UInt8 → Prop
  | empty (hempty : responseHasNoBody method head.statusCode = true) :
      Framed method head .empty [] []
  | contentLength {body : List UInt8}
      (hbody : responseHasNoBody method head.statusCode = false)
      (hcodings : headerValues head.headers "transfer-encoding" = [])
      (hlength : headerValues head.headers "content-length" ≠ [] ∧
        ∀ value ∈ headerValues head.headers "content-length",
          Text.Spells 10 value.toList body.length) :
      Framed method head .contentLength body body
  | chunked {body wire : List UInt8} {value : String}
      (hbody : responseHasNoBody method head.statusCode = false)
      (hcodings : headerValues head.headers "transfer-encoding" = [value])
      (hvalue : Text.eqIgnoreAsciiCase value "chunked" = true) (hchunked : Chunked body wire) :
      Framed method head .chunked body wire
  | close {body : List UInt8}
      (hbody : responseHasNoBody method head.statusCode = false)
      (hcodings : headerValues head.headers "transfer-encoding" = [])
      (hlength : headerValues head.headers "content-length" = []) :
      Framed method head .close body body

end Rgrok
