import PockCore.Crypto.Asymmetric

/-!
# The Account Unlock Key and its wraps

The module `auk`. The AUK is wrapped once per unlock method, under a key-encryption key that
the method derives, and itself encrypts the identity and further secrets.
-/

namespace PockCore

abbrev Auk := AeadKey

/-- The "have" factor of a passphrase wrap. -/
abbrev SecretKey := ByteArr 16

namespace WrappedAuk

/-- The profile that the stored parameters are read as. -/
def profile (w : WrappedAuk) : KdfProfile :=
  if (w.mKib, w.t, w.p) = KdfProfile.native.params then .native else .constrained

end WrappedAuk

namespace Auk

variable (P : Primitives)

def skdInfo : Bytes := Bytes.ofString "pock/2skd/v1"

/-- Two-secret key derivation: the stretched passphrase, salted with the Secret Key. -/
def derivePassphraseKek (passphrase salt : Bytes) (secretKey : SecretKey)
    (profile : KdfProfile) : Result (ByteArr 32) := do
  let stretched ← Kdf.argon2id P passphrase salt profile
  .ok (Kdf.hkdfSha256 P stretched.toList secretKey.toList skdInfo)

/-- Panics where the derivation fails. -/
def wrapWithPassphrase (auk : Auk) (passphrase : Bytes) (secretKey : SecretKey)
    (profile : KdfProfile) (salt : ByteArr 16) (nonce : Nonce) : Result WrappedAuk := do
  let (m, t, p) := profile.params
  let kek ← (derivePassphraseKek P passphrase salt.toList secretKey profile).expect
  let blob := Aead.sealBlob P kek auk.toList nonce
  .ok { v := 1, method := "passphrase", salt := b64 salt.toList, mKib := m, t := t, p := p,
        blob := b64 blob }

def unwrapWithPassphrase (w : WrappedAuk) (passphrase : Bytes) (secretKey : SecretKey) :
    Result Auk :=
  if w.v ≠ 1 then .err (.decode s!"unsupported wrapped-auk version: {w.v}")
  else do
    let salt ← unb64 P w.salt
    let kek ← derivePassphraseKek P passphrase salt secretKey w.profile
    let blob ← unb64 P w.blob
    let aukBytes ← Aead.openBlob P kek blob
    Outcome.okOr (.decode "auk len") (Bytes.tryInto 32 aukBytes)

def wrapWithKek (auk : Auk) (kek : ByteArr 32) (method : String) (nonce : Nonce) : WrappedAuk :=
  let blob := Aead.sealBlob P kek auk.toList nonce
  { v := 1, method := method, salt := "", mKib := 0, t := 0, p := 0, blob := b64 blob }

def unwrapWithKek (w : WrappedAuk) (kek : ByteArr 32) : Result Auk :=
  if w.v ≠ 1 then .err (.decode s!"unsupported wrapped-auk version: {w.v}")
  else do
    let blob ← unb64 P w.blob
    let aukBytes ← Aead.openBlob P kek blob
    Outcome.okOr (.decode "auk len") (Bytes.tryInto 32 aukBytes)

def wrapIdentity (auk : Auk) (id : Identity) (nonce : Nonce) : String :=
  b64 (Aead.sealBlob P auk id.toSecretBytes nonce)

def unwrapIdentity (auk : Auk) (wrapped : String) : Result Identity := do
  let blob ← unb64 P wrapped
  let secret ← Aead.openBlob P auk blob
  Identity.fromSecretBytes secret

/-- Seal a further secret, such as the Account Master Key, under the AUK. -/
def wrapSecret (auk : Auk) (plaintext : Bytes) (nonce : Nonce) : String :=
  b64 (Aead.sealBlob P auk plaintext nonce)

def unwrapSecret (auk : Auk) (b64s : String) : Result Bytes := do
  let blob ← unb64 P b64s
  Aead.openBlob P auk blob

end Auk

end PockCore
