/-
# Command line arguments

`parse_basic_auth` in `crates/rgrok-client/src/cli.rs`.
-/

import Rgrok.Lib.Text
import Rgrok.Proto.Messages

namespace Rgrok

/-- `parse_basic_auth`: the name is before the first colon, the password is
everything behind it. -/
def parseBasicAuth (value : String) : Except String BasicAuthConfig :=
  match Text.splitOnce ':' value with
  | none => .error "basic auth must use USER:PASSWORD format (password may contain ':')"
  | some (username, password) =>
      if username.isEmpty then
        .error "basic auth username must not be empty"
      else if password.isEmpty then
        .error "basic auth password must not be empty"
      else
        .ok { username := username, password := password }

/-- An accepted argument splits at its first colon into the credentials. -/
theorem splitOnce_of_parseBasicAuth {value : String} {ba : BasicAuthConfig}
    (h : parseBasicAuth value = .ok ba) :
    Text.splitOnce ':' value = some (ba.username, ba.password) := by
  rw [parseBasicAuth] at h
  split at h
  · cases h
  · rename_i username password hsplit
    split_ifs at h
    obtain rfl := Except.ok.inj h
    exact hsplit

end Rgrok
