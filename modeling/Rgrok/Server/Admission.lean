/-
# Who may open a control connection

`validate_token` in `crates/rgrok-server/src/auth.rs` and the checks of
`handle_client` in `control.rs` on the first message, up to the blocklist.

The `jsonwebtoken` crate is the parameter `decode`: it checks the signature of a
raw token under a secret and gives back its claims.
-/

import Rgrok.Proto.Messages
import Rgrok.Server.Config

namespace Rgrok

/-- `CONTROL_PROTOCOL_VERSION`. -/
def controlProtocolVersion : String :=
  "0.1.0"

/-- `TokenClaims`. -/
structure TokenClaims where
  sub : String
  iat : ℕ
  exp : Option ℕ
  jti : String
  ver : ℕ
deriving DecidableEq

/-- `decode::<TokenClaims>`, given the raw token and the secret. -/
abbrev DecodeToken : Type :=
  String → String → Except String TokenClaims

/-- `validate_token` at the second `now`. -/
def validateToken (decode : DecodeToken) (now : ℕ) (token secret : String) :
    Except String TokenClaims :=
  match decode ((Text.stripPrefix "rgrok_tok_" token).getD token) secret with
  | .error e => .error e
  | .ok claims =>
      if claims.exp.any fun exp => exp < now then .error "token has expired" else .ok claims

/-- The checks on the first message: the claims of an accepted token, or the
message a turned away connection is closed with. -/
def authenticate (decode : DecodeToken) (config : Config) (now : ℕ) :
    ClientMsg → Except ServerMsg TokenClaims
  | .auth token version =>
      if version ≠ controlProtocolVersion then
        .error (.authErr ("protocol version mismatch: client=" ++ version ++ ", server=" ++
          controlProtocolVersion))
      else if !config.auth.tokens.isEmpty && !config.auth.tokens.contains token then
        .error (.authErr "token is not authorized")
      else
        match validateToken decode now token config.auth.secret with
        | .ok claims => .ok claims
        | .error _ => .error (.authErr "invalid auth token")
  | .tunnelRequest _ _ _ _ _ | .ping _ | .streamAck _ =>
      .error (.error 401 "first message must be Auth")

/-- The first message is an `Auth` of this protocol version with a valid token,
one of the configured ones if there are any. -/
def Admissible (decode : DecodeToken) (config : Config) (now : ℕ) (msg : ClientMsg)
    (claims : TokenClaims) : Prop :=
  ∃ token, msg = .auth token controlProtocolVersion ∧
    (config.auth.tokens = [] ∨ token ∈ config.auth.tokens) ∧
    validateToken decode now token config.auth.secret = .ok claims

variable {decode : DecodeToken} {config : Config} {now : ℕ} {msg : ClientMsg}
  {claims : TokenClaims}

/-- **The checks accept exactly the admissible messages.** -/
theorem authenticate_eq_ok :
    authenticate decode config now msg = .ok claims ↔ Admissible decode config now msg claims := by
  cases msg with
  | tunnelRequest | ping | streamAck =>
      constructor
      · intro h
        cases h
      · rintro ⟨token, hmsg, -⟩
        cases hmsg
  | auth token version =>
      rw [authenticate]
      by_cases hversion : version = controlProtocolVersion
      case neg =>
        rw [if_pos hversion]
        constructor
        · intro h
          cases h
        · rintro ⟨token', hmsg, -⟩
          exact absurd (ClientMsg.auth.inj hmsg).2 hversion
      subst hversion
      rw [if_neg (not_not_intro rfl)]
      have hlisted : (!config.auth.tokens.isEmpty && !config.auth.tokens.contains token) = false ↔
          config.auth.tokens = [] ∨ token ∈ config.auth.tokens := by
        rw [Bool.and_eq_false_iff, Bool.not_eq_false', Bool.not_eq_false', List.isEmpty_iff,
          List.contains_iff_mem]
      constructor
      · intro h
        split_ifs at h with hnot
        split at h
        · rename_i claims' hvalid
          obtain rfl := Except.ok.inj h
          exact ⟨token, rfl, hlisted.1 (Bool.of_not_eq_true hnot), hvalid⟩
        · cases h
      · rintro ⟨token', hmsg, hin, hvalid⟩
        obtain ⟨rfl, -⟩ := ClientMsg.auth.inj hmsg
        rw [hlisted.2 hin, if_neg Bool.false_ne_true, hvalid]

end Rgrok
