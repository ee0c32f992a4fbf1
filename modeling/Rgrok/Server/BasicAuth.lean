/-
# Basic authentication

`crates/rgrok-server/src/auth.rs`.

bcrypt, base64 and SHA-256 come from libraries; they are parameters here.
-/

import Mathlib.Data.Nat.Notation
import Rgrok.Lib.Text

namespace Rgrok

/-- What the authentication code calls: `bcrypt::hash` with a salt,
`bcrypt::verify`, base64 in both directions and SHA-256. -/
structure AuthCrates (Digest : Type*) where
  bcryptHash : List UInt8 → String → ℕ → Except String String
  bcryptVerify : String → String → Except String Bool
  base64Encode : List UInt8 → String
  base64Decode : String → Option (List UInt8)
  sha256 : List UInt8 → Digest

namespace AuthCrates

variable {Digest : Type*}

/-- What the libraries document: a password verifies against its own hash, and
base64 decoding undoes encoding and accepts nothing else. -/
structure Documented (crates : AuthCrates Digest) : Prop where
  verify_hash : ∀ salt password cost hash,
    crates.bcryptHash salt password cost = .ok hash → crates.bcryptVerify password hash = .ok true
  decode_encode : ∀ bytes, crates.base64Decode (crates.base64Encode bytes) = some bytes
  encode_decode : ∀ text bytes,
    crates.base64Decode text = some bytes → crates.base64Encode bytes = text

variable (crates : AuthCrates Digest)

/-- `hash_basic_auth_password`; the salt is drawn by bcrypt. -/
def hashBasicAuthPassword (salt : List UInt8) (password : String) : Except String String :=
  crates.bcryptHash salt password 10

/-- `verify_basic_auth_password`. -/
def verifyBasicAuthPassword (password hash : String) : Bool :=
  match crates.bcryptVerify password hash with
  | .ok verified => verified
  | .error _ => false

/-- `auth_header_fingerprint`. -/
def authHeaderFingerprint (headerValue : String) : Digest :=
  crates.sha256 (Text.utf8 headerValue)

/-- `parse_basic_auth_header`. -/
def parseBasicAuthHeader (headerValue : String) : Option (String × String) := do
  let encoded ← Text.stripPrefix "Basic " headerValue
  let decoded ← crates.base64Decode encoded
  let decodedStr ← Text.fromUtf8 decoded
  Text.splitOnce ':' decodedStr

/-- The blocking task of `verify_header`. -/
def verifyCredentials (headerValue expectedUsername hash : String) : Bool :=
  match crates.parseBasicAuthHeader headerValue with
  | some (user, pass) => user == expectedUsername && crates.verifyBasicAuthPassword pass hash
  | none => false

/-- `verify_header`, with or without a permit. -/
def verifyHeader (permit : Bool) (headerValue expectedUsername hash : String) : Bool :=
  permit && crates.verifyCredentials headerValue expectedUsername hash

variable {crates}

/-- A header parses exactly if it is the encoding of a text with a colon, and
the text is split at the first one. -/
theorem parseBasicAuthHeader_eq_some (h : crates.Documented) {headerValue user pass : String} :
    crates.parseBasicAuthHeader headerValue = some (user, pass) ↔
      ∃ text, headerValue = "Basic " ++ crates.base64Encode (Text.utf8 text) ∧
        Text.splitOnce ':' text = some (user, pass) := by
  simp only [parseBasicAuthHeader, Option.bind_eq_bind, Option.bind_eq_some_iff]
  constructor
  · rintro ⟨encoded, hencoded, decoded, hdecoded, text, htext, hsplit⟩
    refine ⟨text, ?_, hsplit⟩
    rw [Text.utf8_of_fromUtf8 htext, h.encode_decode encoded decoded hdecoded]
    exact Text.stripPrefix_eq_some.1 hencoded
  · rintro ⟨text, rfl, hsplit⟩
    exact ⟨_, Text.stripPrefix_eq_some.2 rfl, _, h.decode_encode _, text,
      Text.fromUtf8_utf8 text, hsplit⟩

theorem verifyCredentials_eq_true {headerValue username hash : String} :
    crates.verifyCredentials headerValue username hash = true ↔
      ∃ pass, crates.parseBasicAuthHeader headerValue = some (username, pass) ∧
        crates.bcryptVerify pass hash = .ok true := by
  have hverify (pass : String) : crates.verifyBasicAuthPassword pass hash = true ↔
      crates.bcryptVerify pass hash = .ok true := by
    rw [verifyBasicAuthPassword]
    split
    · rename_i verified hresult
      rw [hresult, Except.ok.injEq]
    · rename_i e hresult
      simp only [hresult, Bool.false_eq_true, reduceCtorEq]
  rw [verifyCredentials]
  split
  · rename_i user pass hparse
    rw [Bool.and_eq_true, beq_iff_eq, hverify, hparse]
    constructor
    · rintro ⟨rfl, hok⟩
      exact ⟨pass, rfl, hok⟩
    · rintro ⟨pass', heq, hok⟩
      obtain ⟨rfl, rfl⟩ := Prod.mk.inj (Option.some.inj heq)
      exact ⟨rfl, hok⟩
  · rename_i hparse
    simp only [hparse, reduceCtorEq, false_and, exists_false, Bool.false_eq_true]

end AuthCrates

end Rgrok
