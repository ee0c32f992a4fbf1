/-
# The lifetime of a token

`generate_token` in `crates/rgrok-server/src/auth.rs`, and how long
`validate_token` accepts what it returns.

The expiry is the sum of two `u64`, as a release build computes it: modulo
`2 ^ 64`.  `jsonwebtoken::encode` is a parameter like `decode`.
-/

import Rgrok.Server.Admission

namespace Rgrok

/-- `encode` with the default header, given the claims and the secret. -/
abbrev EncodeToken : Type :=
  TokenClaims → String → Except String String

/-- What the library documents: a token decodes to its claims under its own
secret, and begins with the encoding of a JSON object, its header. -/
structure JwtDocumented (encode : EncodeToken) (decode : DecodeToken) : Prop where
  decode_encode : ∀ claims secret token, encode claims secret = .ok token →
    decode token secret = .ok claims
  header : ∀ claims secret token, encode claims secret = .ok token → ∃ rest, token = "eyJ" ++ rest

/-- The claims `generate_token` signs at the second `now`. -/
def issuedClaims (now : UInt64) (jti label : String) (expiresIn : Option UInt64) : TokenClaims where
  sub := label
  iat := now.toNat
  exp := expiresIn.map fun d => (now + d).toNat
  jti := jti
  ver := 1

/-- `generate_token` at the second `now`; the id is drawn by the `uuid` crate. -/
def generateToken (encode : EncodeToken) (now : UInt64) (jti secret label : String)
    (expiresIn : Option UInt64) : Except String String :=
  match encode (issuedClaims now jti label expiresIn) secret with
  | .error e => .error e
  | .ok token => .ok ("rgrok_tok_" ++ token)

variable {encode : EncodeToken} {decode : DecodeToken} {now now' : UInt64}
  {jti secret label token presented : String} {expiresIn : Option UInt64}

/-- A token as it was returned, or without its prefix. -/
def IsPresentedAs (token presented : String) : Prop :=
  presented = token ∨ token = "rgrok_tok_" ++ presented

/-- The expiry is the issue time plus the lifetime; the token is accepted, with
the claims it was issued with, from the issue time on up to that second, and
rejected behind it. -/
structure LifetimeHonoured (decode : DecodeToken) (now : UInt64) (jti secret label : String)
    (expiresIn : Option UInt64) (token : String) : Prop where
  exact : ∀ d ∈ expiresIn, (now + d).toNat = now.toNat + d.toNat
  accepted : ∀ presented, IsPresentedAs token presented → ∀ now' : UInt64, now ≤ now' →
    (∀ d ∈ expiresIn, now'.toNat ≤ now.toNat + d.toNat) →
    validateToken decode now'.toNat presented secret = .ok (issuedClaims now jti label expiresIn)
  rejected : ∀ presented, IsPresentedAs token presented → ∀ now' : UInt64, ∀ d ∈ expiresIn,
    now.toNat + d.toNat < now'.toNat →
    ∃ e, validateToken decode now'.toNat presented secret = .error e

/-- A header is not the prefix. -/
theorem stripPrefix_header (rest : String) : Text.stripPrefix "rgrok_tok_" ("eyJ" ++ rest) = none := by
  rw [Option.eq_none_iff_forall_ne_some]
  intro raw hraw
  have hchars := congrArg String.toList (Text.stripPrefix_eq_some.1 hraw)
  rw [String.toList_append, String.toList_append] at hchars
  exact absurd (List.cons.inj hchars).1 (by decide)

/-- **What a presented token is validated to**: the claims that were signed,
unless the computed expiry has passed. -/
theorem validateToken_presented (hjwt : JwtDocumented encode decode)
    (h : generateToken encode now jti secret label expiresIn = .ok token)
    (hpresented : IsPresentedAs token presented) (now' : ℕ) :
    validateToken decode now' presented secret =
      if (issuedClaims now jti label expiresIn).exp.any fun exp => exp < now' then
        .error "token has expired"
      else .ok (issuedClaims now jti label expiresIn) := by
  rw [generateToken] at h
  split at h
  · cases h
  · rename_i raw hraw
    obtain rfl := Except.ok.inj h
    obtain ⟨rest, hrest⟩ := hjwt.header _ _ _ hraw
    have hstrip : (Text.stripPrefix "rgrok_tok_" presented).getD presented = raw := by
      rcases hpresented with rfl | hsame
      · rw [Text.stripPrefix_eq_some.2 rfl, Option.getD_some]
      · obtain rfl : raw = presented := by
          have hchars := congrArg String.toList hsame
          rw [String.toList_append, String.toList_append] at hchars
          exact String.toList_inj.1 (List.append_cancel_left hchars)
        rw [hrest, stripPrefix_header, Option.getD_none]
    rw [validateToken, hstrip, hjwt.decode_encode _ _ _ hraw]

/-- The computed expiry is the sum exactly if the sum is a `u64`. -/
theorem toNat_expiry (now d : UInt64) :
    (now + d).toNat = now.toNat + d.toNat ↔ now.toNat + d.toNat < 2 ^ 64 := by
  rw [UInt64.toNat_add]
  have hlt := Nat.mod_lt (now.toNat + d.toNat) (show 0 < 2 ^ 64 by decide)
  constructor
  · intro heq
    omega
  · exact Nat.mod_eq_of_lt

/-- A token whose expiry is no `u64` has expired when it is issued. -/
theorem expired_at_issue (hjwt : JwtDocumented encode decode) {d : UInt64}
    (h : generateToken encode now jti secret label (some d) = .ok token)
    (hpresented : IsPresentedAs token presented) (hlarge : 2 ^ 64 ≤ now.toNat + d.toNat)
    (hle : now ≤ now') :
    validateToken decode now'.toNat presented secret = .error "token has expired" := by
  rw [validateToken_presented hjwt h hpresented, if_pos]
  have hwrap : (now + d).toNat < now.toNat := by
    have hd := d.toNat_lt
    have hnow := now.toNat_lt
    rw [UInt64.toNat_add]
    omega
  rw [UInt64.le_iff_toNat_le] at hle
  rw [issuedClaims, Option.map_some, Option.any_some, decide_eq_true_eq]
  omega

/-- **A token lives as long as it was issued for, exactly if its expiry is a `u64`.** -/
theorem lifetime_honoured_iff (hjwt : JwtDocumented encode decode)
    (h : generateToken encode now jti secret label expiresIn = .ok token) :
    LifetimeHonoured decode now jti secret label expiresIn token ↔
      ∀ d ∈ expiresIn, now.toNat + d.toNat < 2 ^ 64 := by
  constructor
  · intro hhonoured d hd
    by_contra hlarge
    obtain rfl : expiresIn = some d := hd
    have haccepted := hhonoured.accepted token (Or.inl rfl) now (UInt64.le_refl now)
      (fun d' _ => by omega)
    rw [expired_at_issue hjwt h (Or.inl rfl) (by omega) (UInt64.le_refl now)] at haccepted
    cases haccepted
  · intro hlt
    have hexact : ∀ d ∈ expiresIn, (now + d).toNat = now.toNat + d.toNat :=
      fun d hd => (toNat_expiry now d).2 (hlt d hd)
    refine ⟨hexact, fun presented hpresented now' hfrom huntil => ?_,
      fun presented hpresented now' d hd hlate => ?_⟩
    · rw [validateToken_presented hjwt h hpresented, if_neg]
      cases expiresIn with
      | none => exact Bool.false_ne_true
      | some d =>
          have hsum := hexact d rfl
          have hin := huntil d rfl
          rw [issuedClaims, Option.map_some, Option.any_some, decide_eq_true_eq]
          omega
    · obtain rfl : expiresIn = some d := hd
      have hsum := hexact d rfl
      rw [validateToken_presented hjwt h hpresented, if_pos]
      · exact ⟨_, rfl⟩
      · rw [issuedClaims, Option.map_some, Option.any_some, decide_eq_true_eq]
        omega

/-! ### Two tokens of one second -/

/-- The second 1,700,000,000. -/
def issueSecond : UInt64 :=
  1700000000

def laptopSecret : String :=
  "0123456789abcdef0123456789abcdef"

/-- The claims of a token for a laptop. -/
def laptopIssued (d : UInt64) : TokenClaims :=
  issuedClaims issueSecond "jti" "laptop" (some d)

/-- A token for an hour, signed with `laptopSecret`. -/
def hourToken : String :=
  "eyJ" ++ ("0eXAiOiJKV1QiLCJhbGciOiJIUzI1NiJ9." ++
    "eyJzdWIiOiJsYXB0b3AiLCJpYXQiOjE3MDAwMDAwMDAsImV4cCI6MTcwMDAwMzYwMCwianRpIjoi" ++
    "anRpIiwidmVyIjoxfQ" ++ ".FB8bKq2lZgZ3_mXwntdFGr8h8P6nhoeOa8sqzehkN3s")

/-- A token for the longest lifetime; the expiry in it is the second before. -/
def longestToken : String :=
  "eyJ" ++ ("0eXAiOiJKV1QiLCJhbGciOiJIUzI1NiJ9." ++
    "eyJzdWIiOiJsYXB0b3AiLCJpYXQiOjE3MDAwMDAwMDAsImV4cCI6MTY5OTk5OTk5OSwianRpIjoi" ++
    "anRpIiwidmVyIjoxfQ" ++ ".whAeEPLnjJT1wNlb64mdONJACE7ARijR4Fay3ToGOpY")

/-- The library, asked to sign these claims under `laptopSecret`. -/
def encodeOnly (claims : TokenClaims) (token : String) : EncodeToken := fun claims' secret =>
  if claims' = claims ∧ secret = laptopSecret then .ok token else .error "InvalidKeyFormat"

def decodeOnly (claims : TokenClaims) (token : String) : DecodeToken := fun token' secret =>
  if token' = token ∧ secret = laptopSecret then .ok claims else .error "InvalidSignature"

theorem only_documented (claims : TokenClaims) {rest : String} (hheader : token = "eyJ" ++ rest) :
    JwtDocumented (encodeOnly claims token) (decodeOnly claims token) where
  decode_encode claims' secret token' h := by
    unfold encodeOnly at h
    split_ifs at h with hsame
    obtain rfl := Except.ok.inj h
    rw [decodeOnly, if_pos ⟨rfl, hsame.2⟩, hsame.1]
  header claims' secret token' h := by
    unfold encodeOnly at h
    split_ifs at h with hsame
    obtain rfl := Except.ok.inj h
    exact ⟨rest, hheader⟩

theorem generateToken_only (d : UInt64) (token : String) :
    generateToken (encodeOnly (laptopIssued d) token) issueSecond "jti" laptopSecret "laptop"
      (some d) = .ok ("rgrok_tok_" ++ token) := by
  rw [generateToken, encodeOnly, if_pos ⟨rfl, rfl⟩]

/-- An hour is honoured. -/
theorem lifetime_honoured_hour :
    LifetimeHonoured (decodeOnly (laptopIssued 3600) hourToken) issueSecond "jti" laptopSecret
      "laptop" (some 3600) ("rgrok_tok_" ++ hourToken) := by
  refine (lifetime_honoured_iff (only_documented _ rfl) (generateToken_only 3600 hourToken)).2
    fun d hd => ?_
  obtain rfl : 3600 = d := Option.some.inj hd
  decide

/-- The longest lifetime is over at once. -/
theorem longest_lifetime_not_honoured :
    ∃ encode decode token, JwtDocumented encode decode ∧
      generateToken encode issueSecond "jti" laptopSecret "laptop" (some 18446744073709551615) =
        .ok token ∧
      validateToken decode issueSecond.toNat token laptopSecret = .error "token has expired" ∧
      ¬ LifetimeHonoured decode issueSecond "jti" laptopSecret "laptop"
        (some 18446744073709551615) token := by
  have hdocumented := only_documented (laptopIssued 18446744073709551615)
    (show longestToken = "eyJ" ++ _ from rfl)
  have hgenerated := generateToken_only 18446744073709551615 longestToken
  have hlate := expired_at_issue hdocumented hgenerated (Or.inl rfl) (by decide)
    (UInt64.le_refl issueSecond)
  refine ⟨_, _, _, hdocumented, hgenerated, hlate, fun hhonoured => ?_⟩
  have haccepted := hhonoured.accepted _ (Or.inl rfl) issueSecond (UInt64.le_refl _)
    (fun d _ => Nat.le_add_right ..)
  rw [hlate] at haccepted
  cases haccepted

end Rgrok
