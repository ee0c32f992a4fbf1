/-
# Base64

The standard alphabet with padding, in both directions.  Decoding is strict: it
asks for the padding and for zero bits behind the last byte, so that every byte
string has one encoding (`Base64.decode_encode`, `Base64.encode_of_decode`).
-/

import Mathlib.Algebra.Order.Ring.Nat
import Mathlib.Data.List.Basic

namespace Base64

/-- The sixty-four digits. -/
def alphabet : List Char :=
  "ABCDEFGHIJKLMNOPQRSTUVWXYZabcdefghijklmnopqrstuvwxyz0123456789+/".toList

/-- The digit for `n`. -/
def digit (n : ℕ) : Char :=
  alphabet[n]?.getD '='

/-- What a digit stands for. -/
def value (c : Char) : Option ℕ :=
  alphabet.idxOf? c

theorem length_alphabet : alphabet.length = 64 := by
  decide +kernel

theorem pad_not_mem_alphabet : '=' ∉ alphabet := by
  decide +kernel

theorem value_digit {n : ℕ} (h : n < 64) : value (digit n) = some n := by
  have hall : ∀ m : Fin 64, value (digit m) = some m.val := by decide +kernel
  exact hall ⟨n, h⟩

/-- A character with a value is its digit. -/
theorem digit_of_value {c : Char} {n : ℕ} (h : value c = some n) : n < 64 ∧ digit n = c := by
  rw [value, List.idxOf?_eq_some_iff] at h
  obtain ⟨hlt, hget, -⟩ := h
  refine ⟨length_alphabet ▸ hlt, ?_⟩
  rw [digit, List.getElem?_eq_getElem hlt, Option.getD_some, hget]

theorem digit_ne_pad {n : ℕ} (h : n < 64) : digit n ≠ '=' := by
  rw [digit, List.getElem?_eq_getElem (length_alphabet ▸ h), Option.getD_some]
  exact fun he => pad_not_mem_alphabet (he ▸ List.getElem_mem _)

/-! ### Groups -/

/-- The last group of one byte. -/
def encodeOne (a : UInt8) : List Char :=
  [digit (a.toNat / 4), digit (a.toNat % 4 * 16), '=', '=']

/-- The last group of two bytes. -/
def encodeTwo (a b : UInt8) : List Char :=
  [digit (a.toNat / 4), digit (a.toNat % 4 * 16 + b.toNat / 16), digit (b.toNat % 16 * 4), '=']

/-- The digits of three bytes. -/
def encodeThree (a b c : UInt8) : List Char :=
  [digit (a.toNat / 4), digit (a.toNat % 4 * 16 + b.toNat / 16),
    digit (b.toNat % 16 * 4 + c.toNat / 64), digit (c.toNat % 64)]

def encode : List UInt8 → List Char
  | [] => []
  | [a] => encodeOne a
  | [a, b] => encodeTwo a b
  | a :: b :: c :: rest => encodeThree a b c ++ encode rest

/-- One byte and four zero bits. -/
def decodeOne (w x : ℕ) : Option (List UInt8) :=
  if x % 16 = 0 then some [UInt8.ofNat (w * 4 + x / 16)] else none

/-- Two bytes and two zero bits. -/
def decodeTwo (w x y : ℕ) : Option (List UInt8) :=
  if y % 4 = 0 then
    some [UInt8.ofNat (w * 4 + x / 16), UInt8.ofNat (x % 16 * 16 + y / 4)]
  else
    none

/-- Three bytes. -/
def decodeThree (w x y z : ℕ) : List UInt8 :=
  [UInt8.ofNat (w * 4 + x / 16), UInt8.ofNat (x % 16 * 16 + y / 4), UInt8.ofNat (y % 4 * 64 + z)]

def decode : List Char → Option (List UInt8)
  | [] => some []
  | w :: x :: y :: z :: rest =>
      if z = '=' then
        if rest ≠ [] then
          none
        else if y = '=' then
          (value w).bind fun w => (value x).bind fun x => decodeOne w x
        else
          (value w).bind fun w => (value x).bind fun x => (value y).bind fun y => decodeTwo w x y
      else
        (value w).bind fun w => (value x).bind fun x => (value y).bind fun y =>
          (value z).bind fun z => (decode rest).map fun bytes => decodeThree w x y z ++ bytes
  | _ => none

/-! ### Round trips -/

theorem ofNat_eq {a : UInt8} {n : ℕ} (h : n = a.toNat) : UInt8.ofNat n = a := by
  rw [h, UInt8.ofNat_toNat]

theorem toNat_ofNat {n : ℕ} (h : n < 256) : (UInt8.ofNat n).toNat = n := by
  rw [UInt8.toNat_ofNat', Nat.mod_eq_of_lt h]

theorem decode_encodeOne (a : UInt8) : decode (encodeOne a) = some [a] := by
  have ha := a.toNat_lt
  rw [encodeOne, decode, if_pos rfl, if_neg (by simp), if_pos rfl, value_digit (by omega),
    value_digit (by omega), Option.bind_some, Option.bind_some, decodeOne, if_pos (by omega),
    ofNat_eq (a := a) (by omega)]

theorem decode_encodeTwo (a b : UInt8) : decode (encodeTwo a b) = some [a, b] := by
  have ha := a.toNat_lt
  have hb := b.toNat_lt
  rw [encodeTwo, decode, if_pos rfl, if_neg (by simp), if_neg (digit_ne_pad (by omega)),
    value_digit (by omega), value_digit (by omega), value_digit (by omega), Option.bind_some,
    Option.bind_some, Option.bind_some, decodeTwo, if_pos (by omega), ofNat_eq (a := a) (by omega),
    ofNat_eq (a := b) (by omega)]

theorem decode_encodeThree (a b c : UInt8) (rest : List Char) :
    decode (encodeThree a b c ++ rest) = (decode rest).map fun bytes => a :: b :: c :: bytes := by
  have ha := a.toNat_lt
  have hb := b.toNat_lt
  have hc := c.toNat_lt
  simp only [encodeThree, List.cons_append, List.nil_append]
  rw [decode, if_neg (digit_ne_pad (by omega)), value_digit (by omega), value_digit (by omega),
    value_digit (by omega), value_digit (by omega), Option.bind_some, Option.bind_some,
    Option.bind_some, Option.bind_some, decodeThree, ofNat_eq (a := a) (by omega),
    ofNat_eq (a := b) (by omega), ofNat_eq (a := c) (by omega)]
  rfl

/-- **Decoding undoes encoding.** -/
theorem decode_encode (bytes : List UInt8) : decode (encode bytes) = some bytes := by
  induction bytes using encode.induct with
  | case1 => rfl
  | case2 a => exact decode_encodeOne a
  | case3 a b => exact decode_encodeTwo a b
  | case4 a b c rest ih => rw [encode, decode_encodeThree, ih, Option.map_some]

theorem encode_of_decodeOne {w x : ℕ} {bytes : List UInt8} (hw : w < 64) (hx : x < 64)
    (h : decodeOne w x = some bytes) : encode bytes = [digit w, digit x, '=', '='] := by
  rw [decodeOne, Option.ite_none_right_eq_some] at h
  obtain ⟨hzero, h⟩ := h
  obtain rfl := Option.some.inj h
  rw [encode, encodeOne, toNat_ofNat (by omega), show (w * 4 + x / 16) / 4 = w by omega, show (w * 4 + x / 16) % 4 * 16 = x by omega]

theorem encode_of_decodeTwo {w x y : ℕ} {bytes : List UInt8} (hw : w < 64) (hx : x < 64)
    (hy : y < 64) (h : decodeTwo w x y = some bytes) :
    encode bytes = [digit w, digit x, digit y, '='] := by
  rw [decodeTwo, Option.ite_none_right_eq_some] at h
  obtain ⟨hzero, h⟩ := h
  obtain rfl := Option.some.inj h
  rw [encode, encodeTwo, toNat_ofNat (by omega), toNat_ofNat (by omega),
    show (w * 4 + x / 16) / 4 = w by omega,
    show (w * 4 + x / 16) % 4 * 16 + (x % 16 * 16 + y / 4) / 16 = x by omega,
    show (x % 16 * 16 + y / 4) % 16 * 4 = y by omega]

theorem encode_decodeThree {w x y z : ℕ} (bytes : List UInt8) (hw : w < 64) (hx : x < 64)
    (hy : y < 64) (hz : z < 64) :
    encode (decodeThree w x y z ++ bytes) =
      [digit w, digit x, digit y, digit z] ++ encode bytes := by
  simp only [decodeThree, List.cons_append, List.nil_append]
  rw [encode, encodeThree, toNat_ofNat (by omega), toNat_ofNat (by omega),
    toNat_ofNat (by omega),
    show (w * 4 + x / 16) / 4 = w by omega,
    show (w * 4 + x / 16) % 4 * 16 + (x % 16 * 16 + y / 4) / 16 = x by omega,
    show (x % 16 * 16 + y / 4) % 16 * 4 + (y % 4 * 64 + z) / 64 = y by omega,
    show (y % 4 * 64 + z) % 64 = z by omega]
  rfl

/-- **A text that decodes is the encoding of what it decodes to.** -/
theorem encode_of_decode {text : List Char} {bytes : List UInt8} (h : decode text = some bytes) :
    encode bytes = text := by
  induction text using decode.induct generalizing bytes with
  | case1 =>
      obtain rfl := Option.some.inj h
      rfl
  | case2 w x y rest hrest =>
      rw [decode, if_pos rfl, if_pos hrest] at h
      cases h
  | case3 w x rest hrest =>
      obtain rfl := not_not.1 hrest
      rw [decode, if_pos rfl, if_neg hrest, if_pos rfl] at h
      simp only [Option.bind_eq_some_iff] at h
      obtain ⟨wv, hwv, xv, hxv, h⟩ := h
      obtain ⟨hw, rfl⟩ := digit_of_value hwv
      obtain ⟨hx, rfl⟩ := digit_of_value hxv
      exact encode_of_decodeOne hw hx h
  | case4 w x y rest hrest hy =>
      obtain rfl := not_not.1 hrest
      rw [decode, if_pos rfl, if_neg hrest, if_neg hy] at h
      simp only [Option.bind_eq_some_iff] at h
      obtain ⟨wv, hwv, xv, hxv, yv, hyv, h⟩ := h
      obtain ⟨hw, rfl⟩ := digit_of_value hwv
      obtain ⟨hx, rfl⟩ := digit_of_value hxv
      obtain ⟨hy', rfl⟩ := digit_of_value hyv
      exact encode_of_decodeTwo hw hx hy' h
  | case5 w x y z rest hz ih =>
      rw [decode, if_neg hz] at h
      simp only [Option.bind_eq_some_iff, Option.map_eq_some_iff] at h
      obtain ⟨wv, hwv, xv, hxv, yv, hyv, zv, hzv, tail, htail, rfl⟩ := h
      obtain ⟨hw, rfl⟩ := digit_of_value hwv
      obtain ⟨hx, rfl⟩ := digit_of_value hxv
      obtain ⟨hy, rfl⟩ := digit_of_value hyv
      obtain ⟨hz', rfl⟩ := digit_of_value hzv
      rw [encode_decodeThree tail hw hx hy hz', ih htail]
      rfl
  | case6 text h1 h2 =>
      rw [decode] at h
      · cases h
      · exact h1
      · exact h2

end Base64
