import PockCore.Lib.Text
import PockCore.Vault.Auk

/-!
# Vault flows

The flows of the module `flows` that create, unlock and re-wrap a vault. A flow takes and
returns the texts that the caller stores; the JSON object that it returns is a record of the
object's fields. The bytes that a flow draws at random are its last arguments.
-/

namespace PockCore

namespace Flows

variable (P : Primitives)

/-- The `unb64` of this module, whose error is of another kind than that of the others. -/
def unb64 (s : String) : Result Bytes := Outcome.ofExcept .encoding (P.urlSafeNoPad.decode s)

@[simp] lemma unb64_eq_ok {P : Primitives} {s : String} {b : Bytes} :
    unb64 P s = .ok b ↔ s = b64 b := by
  rw [unb64, Outcome.ofExcept_eq_ok, P.urlSafeNoPad.decode_eq_ok, b64]

@[simp] lemma unb64_of_b64 {P : Primitives} (b : Bytes) : unb64 P (b64 b) = .ok b :=
  unb64_eq_ok.mpr rfl

def readWrappedAuk (json : String) : Result WrappedAuk :=
  Outcome.ofExcept .json (P.wrappedAukJson.read json)

def recoveryInfo : Bytes := Bytes.ofString "pock/recovery/v1"

def prfInfo : Bytes := Bytes.ofString "pock/webauthn-prf/v1"

/-! ### Creation -/

/-- What `create_vault_profile` draws. -/
structure VaultDraws where
  signSeed : ByteArr 32
  kemSeed : ByteArr 32
  auk : ByteArr 32
  secretKey : ByteArr 16
  rb : ByteArr 20
  salt : ByteArr 16
  passphraseNonce : Nonce
  recoveryNonce : Nonce
  identityNonce : Nonce

structure CreatedVault where
  signPubkey : String
  kemPubkey : String
  wrappedIdentity : String
  secretKey : String
  recoveryCode : String
  wrappedAukPassphrase : WrappedAuk
  wrappedAukRecovery : WrappedAuk
  identitySecretB64 : String

/-- The profile of an id, which `create_vault_profile` matches first. -/
def kdfProfile (profileId : String) : Result KdfProfile :=
  match profileId with
  | "native" => .ok .native
  | "constrained" => .ok .constrained
  | other => .err (.invalidInput ("unknown kdf profile " ++ P.debugFormat other))

def createVaultProfile (passphrase profileId : String) (draws : VaultDraws) :
    Result CreatedVault := do
  let profile ← kdfProfile P profileId
  let identity := Identity.generate draws.signSeed draws.kemSeed
  let auk : Auk := draws.auk
  let secretKey : SecretKey := draws.secretKey
  let recoveryCode := b64 draws.rb.toList
  let wrappedPp ← Auk.wrapWithPassphrase P auk (Bytes.ofString passphrase) secretKey profile
    draws.salt draws.passphraseNonce
  let recoveryKek := Kdf.hkdfSha256 P (Bytes.ofString recoveryCode) [] recoveryInfo
  let wrappedRec := Auk.wrapWithKek P auk recoveryKek "recovery" draws.recoveryNonce
  let wrappedIdentity := Auk.wrapIdentity P auk identity draws.identityNonce
  let pubid := identity.public P
  .ok { signPubkey := b64 pubid.sign.toList
        kemPubkey := b64 pubid.kem.asBytes
        wrappedIdentity := wrappedIdentity
        secretKey := b64 secretKey.toList
        recoveryCode := recoveryCode
        wrappedAukPassphrase := wrappedPp
        wrappedAukRecovery := wrappedRec
        identitySecretB64 := b64 identity.toSecretBytes }

/-- `create_vault`: every surface but the native ones is pinned to the cheaper profile. -/
def createVault (passphrase : String) (draws : VaultDraws) : Result CreatedVault :=
  createVaultProfile P passphrase "constrained" draws

/-! ### The passphrase route -/

def parseSk (secretKeyB64 : String) : Result SecretKey := do
  let skBytes ← unb64 P secretKeyB64
  Outcome.okOr (.flow "bad secret key") (Bytes.tryInto 16 skBytes)

def unlockAuk (passphrase secretKeyB64 wrappedAukJson : String) : Result Auk := do
  let wrapped ← readWrappedAuk P wrappedAukJson
  let secretKey ← parseSk P secretKeyB64
  (Auk.unwrapWithPassphrase P wrapped (Bytes.ofString passphrase) secretKey).mapErr
    fun _ => .flow "wrong passphrase or secret key"

structure Unlocked where
  identitySecretB64 : String

def unlockVault (passphrase secretKeyB64 wrappedAukJson wrappedIdentityB64 : String) :
    Result Unlocked := do
  let secretKey ← parseSk P secretKeyB64
  let wrappedAuk ← readWrappedAuk P wrappedAukJson
  let auk ← (Auk.unwrapWithPassphrase P wrappedAuk (Bytes.ofString passphrase) secretKey).mapErr
    fun _ => .flow "wrong passphrase or secret key"
  let identity ← Auk.unwrapIdentity P auk wrappedIdentityB64
  .ok { identitySecretB64 := b64 identity.toSecretBytes }

structure ReWrapped where
  wrappedAukPassphrase : WrappedAuk

/-- Re-wraps the AUK under a new passphrase and the same Secret Key. -/
def changePassphrase (oldPassphrase secretKeyB64 wrappedAukJson newPassphrase : String)
    (salt : ByteArr 16) (nonce : Nonce) : Result ReWrapped := do
  let auk ← unlockAuk P oldPassphrase secretKeyB64 wrappedAukJson
  let secretKey ← parseSk P secretKeyB64
  let wrapped ← Auk.wrapWithPassphrase P auk (Bytes.ofString newPassphrase) secretKey
    .constrained salt nonce
  .ok { wrappedAukPassphrase := wrapped }

structure RotatedSecretKey where
  secretKey : String
  wrappedAukPassphrase : WrappedAuk

def rotateSecretKey (passphrase oldSecretKeyB64 wrappedAukJson : String) (newSk : ByteArr 16)
    (salt : ByteArr 16) (nonce : Nonce) : Result RotatedSecretKey := do
  let auk ← unlockAuk P passphrase oldSecretKeyB64 wrappedAukJson
  let wrapped ← Auk.wrapWithPassphrase P auk (Bytes.ofString passphrase) newSk .constrained salt
    nonce
  .ok { secretKey := b64 newSk.toList, wrappedAukPassphrase := wrapped }

structure RotatedRecoveryCode where
  recoveryCode : String
  wrappedAukRecovery : WrappedAuk

def rotateRecoveryCode (passphrase secretKeyB64 wrappedAukJson : String) (rb : ByteArr 20)
    (nonce : Nonce) : Result RotatedRecoveryCode := do
  let auk ← unlockAuk P passphrase secretKeyB64 wrappedAukJson
  let recoveryCode := b64 rb.toList
  let recoveryKek := Kdf.hkdfSha256 P (Bytes.ofString recoveryCode) [] recoveryInfo
  let wrapped := Auk.wrapWithKek P auk recoveryKek "recovery" nonce
  .ok { recoveryCode := recoveryCode, wrappedAukRecovery := wrapped }

structure RotatedIdentity where
  signPubkey : String
  kemPubkey : String
  wrappedIdentity : String
  identitySecretB64 : String
  oldIdentitySecretB64 : String
  publicBlob : PublicIdentityBlob

/-- A new identity under the same AUK. The old one is handed back as well. -/
def rotateIdentity (passphrase secretKeyB64 wrappedAukJson oldWrappedIdentityB64 : String)
    (signSeed kemSeed : ByteArr 32) (nonce : Nonce) : Result RotatedIdentity := do
  let auk ← unlockAuk P passphrase secretKeyB64 wrappedAukJson
  let old ← Auk.unwrapIdentity P auk oldWrappedIdentityB64
  let fresh := Identity.generate signSeed kemSeed
  let pubid := fresh.public P
  .ok { signPubkey := b64 pubid.sign.toList
        kemPubkey := b64 pubid.kem.asBytes
        wrappedIdentity := Auk.wrapIdentity P auk fresh nonce
        identitySecretB64 := b64 fresh.toSecretBytes
        oldIdentitySecretB64 := b64 old.toSecretBytes
        publicBlob := pubid.toBlob }

/-! ### The recovery route -/

def unlockRecovery (recoveryCode wrappedRecoveryJson wrappedIdentityB64 : String) :
    Result Unlocked := do
  let wrappedRec ← readWrappedAuk P wrappedRecoveryJson
  let recoveryKek :=
    Kdf.hkdfSha256 P (Bytes.ofString (Text.trim recoveryCode)) [] recoveryInfo
  let auk ← (Auk.unwrapWithKek P wrappedRec recoveryKek).mapErr
    fun _ => .flow "wrong recovery code"
  let identity ← Auk.unwrapIdentity P auk wrappedIdentityB64
  .ok { identitySecretB64 := b64 identity.toSecretBytes }

/-- After a recovery unlock, re-wraps the AUK under a new passphrase and the Secret Key. -/
def resetPassphrase (recoveryCode wrappedRecoveryJson secretKeyB64 newPassphrase : String)
    (salt : ByteArr 16) (nonce : Nonce) : Result ReWrapped := do
  let wrappedRec ← readWrappedAuk P wrappedRecoveryJson
  let recoveryKek :=
    Kdf.hkdfSha256 P (Bytes.ofString (Text.trim recoveryCode)) [] recoveryInfo
  let auk ← (Auk.unwrapWithKek P wrappedRec recoveryKek).mapErr
    fun _ => .flow "wrong recovery code"
  let secretKey ← parseSk P secretKeyB64
  let wrappedPp ← Auk.wrapWithPassphrase P auk (Bytes.ofString newPassphrase) secretKey
    .constrained salt nonce
  .ok { wrappedAukPassphrase := wrappedPp }

/-! ### The passkey route -/

def prfKek (prfSecretB64 : String) : Result (ByteArr 32) := do
  let secret ← unb64 P prfSecretB64
  .ok (Kdf.hkdfSha256 P secret [] prfInfo)

/-- Returns the text of the new wrap. -/
def enrollPrf (passphrase secretKeyB64 wrappedAukJson prfSecretB64 : String) (nonce : Nonce) :
    Result String := do
  let secretKey ← parseSk P secretKeyB64
  let wrappedAuk ← readWrappedAuk P wrappedAukJson
  let auk ← (Auk.unwrapWithPassphrase P wrappedAuk (Bytes.ofString passphrase) secretKey).mapErr
    fun _ => .flow "wrong passphrase or secret key"
  let kek ← prfKek P prfSecretB64
  let wrappedPrf := Auk.wrapWithKek P auk kek "webauthn-prf" nonce
  .ok (P.wrappedAukJson.write wrappedPrf)

def unlockPrf (prfSecretB64 wrappedAukPrfJson wrappedIdentityB64 : String) :
    Result Unlocked := do
  let wrappedPrf ← readWrappedAuk P wrappedAukPrfJson
  let kek ← prfKek P prfSecretB64
  let auk ← (Auk.unwrapWithKek P wrappedPrf kek).mapErr fun _ => .flow "touch id unlock failed"
  let identity ← Auk.unwrapIdentity P auk wrappedIdentityB64
  .ok { identitySecretB64 := b64 identity.toSecretBytes }

def aukFromPrf (prfSecretB64 wrappedAukPrfJson : String) : Result Auk := do
  let wrappedPrf ← readWrappedAuk P wrappedAukPrfJson
  let kek ← prfKek P prfSecretB64
  (Auk.unwrapWithKek P wrappedPrf kek).mapErr fun _ => .flow "touch id unlock failed"

/-! ### The Account Master Key -/

/-- Create the AMK where there is none yet, else load it. -/
def amkEnsureFromAuk (auk : Auk) (existingWrappedAmk : String) (seed : ByteArr 32)
    (nonce : Nonce) : Result (SignSecret × String) :=
  if existingWrappedAmk = "" then
    let s : SignSecret := seed
    .ok (s, Auk.wrapSecret P auk s.toBytes.toList nonce)
  else do
    let bytes ← Auk.unwrapSecret P auk existingWrappedAmk
    let arr ← Outcome.okOr (.flow "bad amk length") (Bytes.tryInto 32 bytes)
    let s ← SignSecret.fromBytes arr
    .ok (s, existingWrappedAmk)

def amkSignFromAuk (auk : Auk) (wrappedAmk : String) (msg : Bytes) : Result String := do
  let bytes ← Auk.unwrapSecret P auk wrappedAmk
  let arr ← Outcome.okOr (.flow "bad amk length") (Bytes.tryInto 32 bytes)
  let s ← SignSecret.fromBytes arr
  .ok (b64 (s.sign P msg).toList)

structure EnsuredAmk where
  amkPub : String
  wrappedAmk : String

def amkEnsure (passphrase secretKeyB64 wrappedAukJson existingWrappedAmk : String)
    (seed : ByteArr 32) (nonce : Nonce) : Result EnsuredAmk := do
  let auk ← unlockAuk P passphrase secretKeyB64 wrappedAukJson
  let (amkSecret, wrappedAmk) ← amkEnsureFromAuk P auk existingWrappedAmk seed nonce
  .ok { amkPub := b64 (amkSecret.public P).toList, wrappedAmk := wrappedAmk }

def amkSign (passphrase secretKeyB64 wrappedAukJson wrappedAmk : String) (msg : Bytes) :
    Result String := do
  let auk ← unlockAuk P passphrase secretKeyB64 wrappedAukJson
  amkSignFromAuk P auk wrappedAmk msg

def amkEnsurePrf (prfSecretB64 wrappedAukPrfJson existingWrappedAmk : String)
    (seed : ByteArr 32) (nonce : Nonce) : Result EnsuredAmk := do
  let auk ← aukFromPrf P prfSecretB64 wrappedAukPrfJson
  let (amkSecret, wrappedAmk) ← amkEnsureFromAuk P auk existingWrappedAmk seed nonce
  .ok { amkPub := b64 (amkSecret.public P).toList, wrappedAmk := wrappedAmk }

def amkSignPrf (prfSecretB64 wrappedAukPrfJson wrappedAmk : String) (msg : Bytes) :
    Result String := do
  let auk ← aukFromPrf P prfSecretB64 wrappedAukPrfJson
  amkSignFromAuk P auk wrappedAmk msg

end Flows

end PockCore
