/-
# Big-endian byte strings

A number below `256 ^ k` as `k` bytes, most significant first, and back.
`UInt32.toBeBytes` and `UInt32.ofBeBytes` are the four-byte case.
-/

import Mathlib.Algebra.Order.Ring.Nat
import Mathlib.Data.List.Induction
import Mathlib.Tactic.Ring

namespace BigEndian

/-- The last `k` base-256 digits of `n`, most significant first. -/
def toBytes : ℕ → ℕ → List UInt8
  | 0, _ => []
  | k + 1, n => toBytes k (n / 256) ++ [UInt8.ofNat n]

/-- The number a byte string denotes. -/
def ofBytes (bytes : List UInt8) : ℕ :=
  bytes.foldl (fun n b => n * 256 + b.toNat) 0

@[simp] theorem length_toBytes (k n : ℕ) : (toBytes k n).length = k := by
  induction k generalizing n with
  | zero => rfl
  | succ k ih => rw [toBytes, List.length_append, ih, List.length_singleton]

theorem ofBytes_append_singleton (bytes : List UInt8) (b : UInt8) :
    ofBytes (bytes ++ [b]) = ofBytes bytes * 256 + b.toNat := by
  rw [ofBytes, List.foldl_append, List.foldl_cons, List.foldl_nil, ofBytes]

theorem ofBytes_lt (bytes : List UInt8) : ofBytes bytes < 256 ^ bytes.length := by
  induction bytes using List.reverseRecOn with
  | nil => decide
  | append_singleton bytes b ih =>
      rw [ofBytes_append_singleton, List.length_append, List.length_singleton, pow_succ]
      have hb : b.toNat < 256 := b.toNat_lt
      omega

/-- Reading back what was written gives the number modulo the width. -/
theorem ofBytes_toBytes (k n : ℕ) : ofBytes (toBytes k n) = n % 256 ^ k := by
  induction k generalizing n with
  | zero => rw [pow_zero, Nat.mod_one]; rfl
  | succ k ih =>
      rw [toBytes, ofBytes_append_singleton, ih, UInt8.toNat_ofNat', pow_succ' 256 k, Nat.mod_mul]
      omega

theorem toBytes_ofBytes (bytes : List UInt8) : toBytes bytes.length (ofBytes bytes) = bytes := by
  induction bytes using List.reverseRecOn with
  | nil => rfl
  | append_singleton bytes b ih =>
      have hb : b.toNat < 256 := b.toNat_lt
      rw [ofBytes_append_singleton, List.length_append, List.length_singleton, toBytes]
      congr 1
      · rw [show (ofBytes bytes * 256 + b.toNat) / 256 = ofBytes bytes by omega, ih]
      · congr 1
        apply UInt8.toNat_inj.1
        rw [UInt8.toNat_ofNat']
        omega

end BigEndian

namespace UInt32

open BigEndian

/-- `u32::to_be_bytes`. -/
def toBeBytes (n : UInt32) : List UInt8 :=
  toBytes 4 n.toNat

/-- `u32::from_be_bytes`, of four bytes. -/
def ofBeBytes (bytes : List UInt8) : UInt32 :=
  UInt32.ofNat (ofBytes bytes)

@[simp] theorem length_toBeBytes (n : UInt32) : n.toBeBytes.length = 4 :=
  length_toBytes 4 _

@[simp] theorem ofBeBytes_toBeBytes (n : UInt32) : ofBeBytes n.toBeBytes = n := by
  have hlt : n.toNat < 256 ^ 4 := n.toNat_lt
  rw [ofBeBytes, toBeBytes, ofBytes_toBytes, Nat.mod_eq_of_lt hlt, UInt32.ofNat_toNat]

theorem toBeBytes_ofBeBytes {bytes : List UInt8} (h : bytes.length = 4) :
    (ofBeBytes bytes).toBeBytes = bytes := by
  have hlt : ofBytes bytes < 2 ^ 32 := by
    have := ofBytes_lt bytes
    rw [h] at this
    exact this
  rw [ofBeBytes, toBeBytes, UInt32.toNat_ofNat', Nat.mod_eq_of_lt hlt]
  have := toBytes_ofBytes bytes
  rwa [h] at this

end UInt32
