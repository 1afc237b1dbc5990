import PockCore.Lib.Outcome

namespace PockCore

/-- The errors of the crate. A `flow` error is one whose text the user sees verbatim. -/
inductive CoreError where
  | aead
  | kdf (msg : String)
  | kem
  | signature
  | decode (msg : String)
  | wrongKey
  | invalidInput (msg : String)
  | json (msg : String)
  | encoding (msg : String)
  | flow (msg : String)
  deriving Repr, DecidableEq

namespace CoreError

/-- `Display`. -/
def toText : CoreError → String
  | aead => "AEAD encryption/decryption failed"
  | kdf msg => "key derivation failed: " ++ msg
  | kem => "KEM operation failed"
  | signature => "signature verification failed"
  | decode msg => "decode failed: " ++ msg
  | wrongKey => "wrong key or corrupted ciphertext"
  | invalidInput msg => "invalid input: " ++ msg
  | json msg => "json: " ++ msg
  | encoding msg => "encoding: " ++ msg
  | flow msg => msg

/-- The texts of the `flow` errors that mean that the credential was wrong. -/
def wrongCredentialMessages : List String :=
  ["wrong passphrase or secret key", "wrong recovery code",
    "wrong passphrase or corrupted backup", "decrypt failed (wrong key or tampered)",
    "touch id unlock failed", "wrong namespace passphrase"]

end CoreError

abbrev Result (α : Type) := Outcome CoreError α

end PockCore
