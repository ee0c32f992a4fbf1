/-
# Length-prefixed frames, read a piece at a time

A frame is the length of its body in four bytes, most significant first, and
the body.  A `Reader` is somewhere inside a frame: it has taken some bytes of
the length, or the length and some bytes of the body.  Nothing it has taken is
in the stream any more, so a reader that is given up takes `Reader.taken` with
it.
-/

import Rgrok.Lib.BigEndian

namespace Framing

/-- The body behind its length, which is taken modulo `2 ^ 32`. -/
def frame (body : List UInt8) : List UInt8 :=
  (UInt32.ofNat body.length).toBeBytes ++ body

theorem frame_ne_nil (body : List UInt8) : frame body ≠ [] := by
  intro h
  have hlen := congrArg List.length h
  rw [frame, List.length_append, UInt32.length_toBeBytes, List.length_nil] at hlen
  omega

/-- How far a frame has been read. -/
inductive Reader
  | length (bytes : List UInt8)
  | body (len : UInt32) (bytes : List UInt8)
deriving DecidableEq

namespace Reader

/-- Before the first byte. -/
def start : Reader :=
  .length []

/-- The bytes taken from the stream since the frame began. -/
def taken : Reader → List UInt8
  | .length bytes => bytes
  | .body len bytes => len.toBeBytes ++ bytes

/-- Take one byte, unless the part being read is complete. -/
def push : Reader → UInt8 → Option Reader
  | .length bytes, b => if bytes.length < 4 then some (.length (bytes ++ [b])) else none
  | .body len bytes, b =>
      if bytes.length < len.toNat then some (.body len (bytes ++ [b])) else none

theorem taken_push {r r' : Reader} {b : UInt8} (h : r.push b = some r') :
    r'.taken = r.taken ++ [b] := by
  cases r with
  | length bytes =>
      rw [push, Option.ite_none_right_eq_some] at h
      obtain ⟨-, h⟩ := h
      obtain rfl := Option.some.inj h
      rfl
  | body len bytes =>
      rw [push, Option.ite_none_right_eq_some] at h
      obtain ⟨-, h⟩ := h
      obtain rfl := Option.some.inj h
      rw [taken, taken, List.append_assoc]

/-- Going on to the body takes nothing. -/
theorem taken_body_nil {bytes : List UInt8} (h : bytes.length = 4) :
    (body (UInt32.ofBeBytes bytes) []).taken = bytes := by
  rw [taken, UInt32.toBeBytes_ofBeBytes h, List.append_nil]

end Reader

/-- **A complete body is the frame's.**  When as many bytes as the length says
were taken from a stream that begins with a frame, they are the frame's body
and the stream goes on behind it. -/
theorem body_eq_of_append_eq {len : UInt32} {bytes rest body rest' : List UInt8}
    (hlen : bytes.length = len.toNat) (hbody : body.length < 2 ^ 32)
    (h : (Reader.body len bytes).taken ++ rest = frame body ++ rest') :
    bytes = body ∧ rest = rest' := by
  rw [Reader.taken, frame, List.append_assoc, List.append_assoc] at h
  obtain ⟨hbegins, h⟩ := List.append_inj h (by
    rw [UInt32.length_toBeBytes, UInt32.length_toBeBytes])
  have heq : len = UInt32.ofNat body.length := by
    rw [← UInt32.ofBeBytes_toBeBytes len, hbegins, UInt32.ofBeBytes_toBeBytes]
  refine List.append_inj h ?_
  rw [hlen, heq, UInt32.toNat_ofNat', Nat.mod_eq_of_lt hbody]

end Framing
