import PockCore.Backup.Basic
import PockCore.Item.Flows
import PockCore.KeyLog.Basic
import PockCore.Nscrypto.Generated
import PockCore.Share.Basic
import PockCore.UniffiApi

/-!
# The calls of the binding surfaces

`uniffi_api` and `wasm` export the same calls, each of which forwards to the flow of its name. A
call is its arguments, and what the flow draws at random. The surfaces differ in what they make of
an error.
-/

namespace PockCore

inductive ApiCall where
  | generateIdentity (signSeed kemSeed : ByteArr 32)
  | encryptItem (value recipientPubBlobsJson : String) (dek : AeadKey) (nonce : Nonce)
      (draws : ℕ → Item.WrapDraws)
  | decryptItem (itemJson identitySecretB64 : String)
  | encryptShare (bundleJson cipherId : String) (draws : Share.ShareDraws)
  | decryptShare (envelopeB64 keyBlob : String)
  | createVault (passphrase : String) (draws : Flows.VaultDraws)
  | createVaultProfile (passphrase profileId : String) (draws : Flows.VaultDraws)
  | unlockVault (passphrase secretKeyB64 wrappedAukJson wrappedIdentityB64 : String)
  | unlockRecovery (recoveryCode wrappedRecoveryJson wrappedIdentityB64 : String)
  | resetPassphrase (recoveryCode wrappedRecoveryJson secretKeyB64 newPassphrase : String)
      (salt : ByteArr 16) (nonce : Nonce)
  | changePassphrase (oldPassphrase secretKeyB64 wrappedAukJson newPassphrase : String)
      (salt : ByteArr 16) (nonce : Nonce)
  | rotateSecretKey (passphrase oldSecretKeyB64 wrappedAukJson : String) (newSk salt : ByteArr 16)
      (nonce : Nonce)
  | rotateRecoveryCode (passphrase secretKeyB64 wrappedAukJson : String) (rb : ByteArr 20)
      (nonce : Nonce)
  | rotateIdentity (passphrase secretKeyB64 wrappedAukJson oldWrappedIdentityB64 : String)
      (signSeed kemSeed : ByteArr 32) (nonce : Nonce)
  | generateSymmetricKey (key : AeadKey)
  | sealSymmetric (keyB64 : String) (plaintext aad : Bytes) (nonce : Nonce)
  | openSymmetric (keyB64 : String) (blob aad : Bytes)
  | signMessage (identitySecretB64 : String) (msg : Bytes)
  | verifyMessage (signPubkeyB64 : String) (msg : Bytes) (sigB64 : String)
  | exportBackup (json passphrase : String) (salt : ByteArr 16) (nonce : Nonce)
  | importBackup (data : Bytes) (passphrase : String)
  | enrollPrf (passphrase secretKeyB64 wrappedAukJson prfSecretB64 : String) (nonce : Nonce)
  | unlockPrf (prfSecretB64 wrappedAukPrfJson wrappedIdentityB64 : String)
  | amkEnsure (passphrase secretKeyB64 wrappedAukJson existingWrappedAmk : String)
      (seed : ByteArr 32) (nonce : Nonce)
  | amkSign (passphrase secretKeyB64 wrappedAukJson wrappedAmk : String) (msg : Bytes)
  | amkEnsurePrf (prfSecretB64 wrappedAukPrfJson existingWrappedAmk : String)
      (seed : ByteArr 32) (nonce : Nonce)
  | amkSignPrf (prfSecretB64 wrappedAukPrfJson wrappedAmk : String) (msg : Bytes)
  | messageDigest (aad ct : Bytes)
  | nsRandomNk (nk : ByteArr 32)
  | nsRandomSalt (salt : ByteArr 16)
  | nsRandomRecoveryCode (b : ByteArr 10)
  | nsWrapNk (nkB64 passphrase saltB64 : String) (iv : ByteArr 12)
  | nsUnwrapNk (wrapped passphrase saltB64 : String)
  | nsProtectValue (nkB64 value : String) (iv : ByteArr 12)
  | nsUnprotectValue (nkB64 blob : String)
  | nsNkHash (nkB64 : String)
  | nsIsProtected (blob : String)
  | certBytes (certJson : String)
  | leafBytes (leafJson : String)
  | sthMessage (sthJson : String)
  | verifyCert (certJson sigsJson custodiansJson : String) (threshold : UInt32)

namespace ApiCall

/-- What the call returns, before it is written as JSON. -/
def Out : ApiCall → Type
  | generateIdentity .. => Flows.GeneratedIdentity
  | encryptShare .. => Flows.EncryptedShare
  | createVault .. | createVaultProfile .. => Flows.CreatedVault
  | unlockVault .. | unlockRecovery .. | unlockPrf .. => Flows.Unlocked
  | resetPassphrase .. | changePassphrase .. => Flows.ReWrapped
  | rotateSecretKey .. => Flows.RotatedSecretKey
  | rotateRecoveryCode .. => Flows.RotatedRecoveryCode
  | rotateIdentity .. => Flows.RotatedIdentity
  | amkEnsure .. | amkEnsurePrf .. => Flows.EnsuredAmk
  | sealSymmetric .. | openSymmetric .. | exportBackup .. | messageDigest .. | certBytes ..
  | leafBytes .. | sthMessage .. => Bytes
  | verifyMessage .. | nsIsProtected .. | verifyCert .. => Bool
  | _ => String

variable (P : Primitives) (leafFromJson : String → Except String LeafJson)
  (sthFromJson : String → Except String SthJson)

def run : (c : ApiCall) → Result c.Out
  | generateIdentity signSeed kemSeed => .ok (Flows.generateIdentity P signSeed kemSeed)
  | encryptItem value json dek nonce draws => Flows.encryptItem P value json dek nonce draws
  | decryptItem json secret => Flows.decryptItem P json secret
  | encryptShare json cipherId draws => Flows.encryptShare P json cipherId draws
  | decryptShare envelope keyBlob => Flows.decryptShare P envelope keyBlob
  | createVault p draws => Flows.createVault P p draws
  | createVaultProfile p profileId draws => Flows.createVaultProfile P p profileId draws
  | unlockVault p sk json wid => Flows.unlockVault P p sk json wid
  | unlockRecovery code json wid => Flows.unlockRecovery P code json wid
  | resetPassphrase code json sk new salt nonce =>
    Flows.resetPassphrase P code json sk new salt nonce
  | changePassphrase old sk json new salt nonce =>
    Flows.changePassphrase P old sk json new salt nonce
  | rotateSecretKey p sk json newSk salt nonce => Flows.rotateSecretKey P p sk json newSk salt nonce
  | rotateRecoveryCode p sk json rb nonce => Flows.rotateRecoveryCode P p sk json rb nonce
  | rotateIdentity p sk json wid signSeed kemSeed nonce =>
    Flows.rotateIdentity P p sk json wid signSeed kemSeed nonce
  | generateSymmetricKey key => .ok (Flows.generateSymmetricKey key)
  | sealSymmetric key plaintext aad nonce => Flows.sealSymmetric P key plaintext aad nonce
  | openSymmetric key blob aad => Flows.openSymmetric P key blob aad
  | signMessage secret msg => Flows.signMessage P secret msg
  | verifyMessage pubkey msg sig => Flows.verifyMessage P pubkey msg sig
  | exportBackup json p salt nonce => Flows.exportBackup P json p salt nonce
  | importBackup data p => Flows.importBackup P data p
  | enrollPrf p sk json secret nonce => Flows.enrollPrf P p sk json secret nonce
  | unlockPrf secret json wid => Flows.unlockPrf P secret json wid
  | amkEnsure p sk json existing seed nonce => Flows.amkEnsure P p sk json existing seed nonce
  | amkSign p sk json amk msg => Flows.amkSign P p sk json amk msg
  | amkEnsurePrf secret json existing seed nonce =>
    Flows.amkEnsurePrf P secret json existing seed nonce
  | amkSignPrf secret json amk msg => Flows.amkSignPrf P secret json amk msg
  | messageDigest aad ct => .ok (Flows.messageDigest P aad ct)
  | nsRandomNk nk => .ok (Flows.nsRandomNk nk)
  | nsRandomSalt salt => .ok (Flows.nsRandomSalt salt)
  | nsRandomRecoveryCode b => Flows.nsRandomRecoveryCode b
  | nsWrapNk nk p salt iv => Flows.nsWrapNk P nk p salt iv
  | nsUnwrapNk wrapped p salt => Flows.nsUnwrapNk P wrapped p salt
  | nsProtectValue nk value iv => Flows.nsProtectValue P nk value iv
  | nsUnprotectValue nk blob => Flows.nsUnprotectValue P nk blob
  | nsNkHash nk => Flows.nsNkHash P nk
  | nsIsProtected blob => .ok (Flows.nsIsProtected blob)
  | certBytes json => Flows.certBytesJson P json
  | leafBytes json => Flows.leafBytesJson leafFromJson json
  | sthMessage json => Flows.sthMessageJson sthFromJson json
  | verifyCert json sigs custodians threshold =>
    Flows.verifyCertJson P json sigs custodians threshold

/-- The call on the surface `uniffi_api`. -/
def uniffi (c : ApiCall) : Outcome PockCoreError c.Out :=
  (c.run P leafFromJson sthFromJson).mapErr PockCoreError.ofCoreError

/-- The call on the surface `wasm`, where an error is its text. -/
def wasm (c : ApiCall) : Outcome String c.Out :=
  (c.run P leafFromJson sthFromJson).mapErr CoreError.toText

end ApiCall

end PockCore
