import PockCore.Api.Calls
import PockCore.Api.Categories
import PockCore.Share.RoundTrip

/-!
# Errors of the binding surfaces

Within the limits of the primitives no call of a binding surface panics, and each has the
categories that its arguments give rise to: only what is opened is reported as a wrong credential.
-/

namespace PockCore

variable {P : Primitives}

open Outcome

/-- The categories of a flow that opens a wrap which is read as JSON. -/
def Category.opening : List Category := [.json, .encoding, .invalidInput, .wrongCredential]

namespace Flows

lemma within_encryptItem (value json : String) (dek : AeadKey) (nonce : Nonce)
    (draws : ℕ → Item.WrapDraws) :
    Within (Reports P [.json, .encoding, .invalidInput])
      (encryptItem P value json dek nonce draws) := by
  refine (within_ofExcept (reports_json (by decide)) _).bind fun blobs _ => ?_
  refine (within_readRecipients (by decide) blobs).bind fun recipients _ => ?_
  refine Within.bind ?_ fun item _ => within_ok _
  unfold Item.encryptItem
  split_ifs
  · exact within_err (reports_invalidInput (by decide) _)
  · exact within_ok _

lemma within_decryptItem (json secret : String) :
    Within (Reports P Category.opening) (decryptItem P json secret) := by
  refine (within_ofExcept (reports_json (by decide)) _).bind fun item _ => ?_
  refine (within_unb64 (by decide) secret).bind fun bytes _ => ?_
  refine (Identity.within_fromSecretBytes (by decide) bytes).bind fun id _ => ?_
  refine (Item.within_decryptItem (by decide) (by decide) _ _ _).bind fun plaintext _ => ?_
  exact within_okOr (reports_utf8 (by decide) (by decide) _) _

lemma within_encryptShare (json cipherId : String) (draws : Share.ShareDraws) :
    Within (Reports P [.json, .invalidInput]) (encryptShare P json cipherId draws) := by
  refine (within_ofExcept (reports_json (by decide)) _).bind fun bundle _ => ?_
  refine (within_okOr (reports_malformed (by decide) (by decide)) _).bind fun cipher _ => ?_
  refine Within.bind ?_ fun parts _ => within_ok _
  cases cipher with
  | xchacha => exact within_ok _
  | xwing =>
    have hshare := Share.encryptShare_xwing (P := P) bundle draws
    rw [hshare]
    exact within_ok _

lemma within_decryptShare (envelopeB64 keyBlob : String) :
    Within (Reports P [.encoding, .wrongCredential]) (decryptShare P envelopeB64 keyBlob) := by
  refine (within_unb64 (by decide) envelopeB64).bind fun envelope _ => ?_
  refine (Share.within_decryptShare (by decide) (by decide) _ _).bind fun bundle _ => ?_
  exact within_ok _

/-- Once the profile is known, a new vault cannot fail. -/
lemma exists_createVaultProfile (hK : Kdf.Accepts P) {passphrase profileId : String}
    (hlen : (Bytes.ofString passphrase).length < 2 ^ 32) {profile : KdfProfile}
    (hprofile : kdfProfile P profileId = .ok profile) (draws : VaultDraws) :
    ∃ out, createVaultProfile P passphrase profileId draws = .ok out := by
  obtain ⟨w, hw⟩ := Auk.exists_wrapWithPassphrase hK hlen draws.auk draws.secretKey profile
    draws.salt draws.passphraseNonce
  rw [createVaultProfile, hprofile, Outcome.ok_bind]
  dsimp only
  rw [hw]
  exact ⟨_, rfl⟩

lemma within_createVault (hK : Kdf.Accepts P) {passphrase : String}
    (hlen : (Bytes.ofString passphrase).length < 2 ^ 32) (draws : VaultDraws) :
    Within (Reports P []) (createVault P passphrase draws) := by
  obtain ⟨out, hout⟩ := exists_createVaultProfile hK hlen
    (rfl : kdfProfile P "constrained" = .ok .constrained) draws
  rw [createVault, hout]
  exact within_ok _

lemma within_createVaultProfile (hK : Kdf.Accepts P) {passphrase : String}
    (hlen : (Bytes.ofString passphrase).length < 2 ^ 32) (profileId : String)
    (draws : VaultDraws) :
    Within (Reports P [.invalidInput]) (createVaultProfile P passphrase profileId draws) := by
  have hprofile : Within (Reports P [.invalidInput]) (kdfProfile P profileId) := by
    unfold kdfProfile
    split
    · exact within_ok _
    · exact within_ok _
    · exact within_err (reports_invalidInput (by decide) _)
  refine hprofile.bind fun profile hp => ?_
  obtain ⟨out, hout⟩ := exists_createVaultProfile hK hlen hp draws
  rw [createVaultProfile, hp, Outcome.ok_bind] at hout
  rw [hout]
  exact within_ok _

lemma within_unlockVault (p sk json wid : String) :
    Within (Reports P Category.opening) (unlockVault P p sk json wid) := by
  refine (within_parseSk (by decide) (by decide) sk).bind fun key _ => ?_
  refine (within_readWrappedAuk (by decide) json).bind fun w _ => ?_
  refine Within.bind ?_ fun auk _ => ?_
  · exact within_mapErr Auk.unwrapWithPassphrase_ne_panic fun _ =>
      reports_wrong (by decide) (by decide)
  · exact (within_unwrapIdentity (by decide) (by decide) auk wid).bind fun id _ => within_ok _

lemma within_unlockRecovery (code json wid : String) :
    Within (Reports P [.json, .encoding, .wrongCredential]) (unlockRecovery P code json wid) := by
  refine (within_readWrappedAuk (by decide) json).bind fun w _ => ?_
  refine Within.bind ?_ fun auk _ => ?_
  · exact within_mapErr Auk.unwrapWithKek_ne_panic fun _ => reports_wrong (by decide) (by decide)
  · exact (within_unwrapIdentity (by decide) (by decide) auk wid).bind fun id _ => within_ok _

lemma within_unlockPrf (secret json wid : String) :
    Within (Reports P [.json, .encoding, .wrongCredential]) (unlockPrf P secret json wid) := by
  refine (within_readWrappedAuk (by decide) json).bind fun w _ => ?_
  refine ((within_unb64 (by decide) secret).bind fun s _ => within_ok _).bind fun kek _ => ?_
  refine Within.bind ?_ fun auk _ => ?_
  · exact within_mapErr Auk.unwrapWithKek_ne_panic fun _ => reports_wrong (by decide) (by decide)
  · exact (within_unwrapIdentity (by decide) (by decide) auk wid).bind fun id _ => within_ok _

lemma within_resetPassphrase (hK : Kdf.Accepts P) {new : String}
    (hlen : (Bytes.ofString new).length < 2 ^ 32) (code json sk : String) (salt : ByteArr 16)
    (nonce : Nonce) :
    Within (Reports P Category.opening) (resetPassphrase P code json sk new salt nonce) := by
  refine (within_readWrappedAuk (by decide) json).bind fun w _ => ?_
  refine Within.bind ?_ fun auk _ => ?_
  · exact within_mapErr Auk.unwrapWithKek_ne_panic fun _ => reports_wrong (by decide) (by decide)
  · refine (within_parseSk (by decide) (by decide) sk).bind fun key _ => ?_
    obtain ⟨wpp, hwpp⟩ := Auk.exists_wrapWithPassphrase hK hlen auk key .constrained salt nonce
    rw [hwpp]
    exact within_ok _

lemma within_changePassphrase (hK : Kdf.Accepts P) {new : String}
    (hlen : (Bytes.ofString new).length < 2 ^ 32) (old sk json : String) (salt : ByteArr 16)
    (nonce : Nonce) :
    Within (Reports P Category.opening) (changePassphrase P old sk json new salt nonce) := by
  refine (within_unlockAuk (by decide) (by decide) (by decide) (by decide) old sk json).bind
    fun auk _ => ?_
  refine (within_parseSk (by decide) (by decide) sk).bind fun key _ => ?_
  obtain ⟨w, hw⟩ := Auk.exists_wrapWithPassphrase hK hlen auk key .constrained salt nonce
  rw [hw]
  exact within_ok _

lemma within_rotateSecretKey (hK : Kdf.Accepts P) {p : String}
    (hlen : (Bytes.ofString p).length < 2 ^ 32) (sk json : String) (newSk salt : ByteArr 16)
    (nonce : Nonce) :
    Within (Reports P Category.opening) (rotateSecretKey P p sk json newSk salt nonce) := by
  refine (within_unlockAuk (by decide) (by decide) (by decide) (by decide) p sk json).bind
    fun auk _ => ?_
  obtain ⟨w, hw⟩ := Auk.exists_wrapWithPassphrase hK hlen auk newSk .constrained salt nonce
  rw [hw]
  exact within_ok _

lemma within_rotateRecoveryCode (p sk json : String) (rb : ByteArr 20) (nonce : Nonce) :
    Within (Reports P Category.opening) (rotateRecoveryCode P p sk json rb nonce) :=
  (within_unlockAuk (by decide) (by decide) (by decide) (by decide) p sk json).bind
    fun _ _ => within_ok _

lemma within_rotateIdentity (p sk json wid : String) (signSeed kemSeed : ByteArr 32)
    (nonce : Nonce) :
    Within (Reports P Category.opening)
      (rotateIdentity P p sk json wid signSeed kemSeed nonce) := by
  refine (within_unlockAuk (by decide) (by decide) (by decide) (by decide) p sk json).bind
    fun auk _ => ?_
  exact (within_unwrapIdentity (by decide) (by decide) auk wid).bind fun old _ => within_ok _

lemma within_enrollPrf (p sk json secret : String) (nonce : Nonce) :
    Within (Reports P Category.opening) (enrollPrf P p sk json secret nonce) := by
  refine (within_parseSk (by decide) (by decide) sk).bind fun key _ => ?_
  refine (within_readWrappedAuk (by decide) json).bind fun w _ => ?_
  refine Within.bind ?_ fun auk _ => ?_
  · exact within_mapErr Auk.unwrapWithPassphrase_ne_panic fun _ =>
      reports_wrong (by decide) (by decide)
  · refine ((within_unb64 (by decide) secret).bind fun s _ => within_ok _).bind fun kek _ => ?_
    exact within_ok _

lemma within_amkEnsure (p sk json existing : String) (seed : ByteArr 32) (nonce : Nonce) :
    Within (Reports P Category.opening) (amkEnsure P p sk json existing seed nonce) := by
  refine (within_unlockAuk (by decide) (by decide) (by decide) (by decide) p sk json).bind
    fun auk _ => ?_
  exact (within_amkEnsureFromAuk (by decide) (by decide) (by decide) auk existing seed nonce).bind
    fun amk _ => within_ok _

lemma within_amkSign (p sk json amk : String) (msg : Bytes) :
    Within (Reports P Category.opening) (amkSign P p sk json amk msg) :=
  (within_unlockAuk (by decide) (by decide) (by decide) (by decide) p sk json).bind
    fun auk _ => within_amkSignFromAuk (by decide) (by decide) (by decide) auk amk msg

lemma within_amkEnsurePrf (secret json existing : String) (seed : ByteArr 32) (nonce : Nonce) :
    Within (Reports P Category.opening) (amkEnsurePrf P secret json existing seed nonce) := by
  refine (within_aukFromPrf (by decide) (by decide) (by decide) secret json).bind fun auk _ => ?_
  exact (within_amkEnsureFromAuk (by decide) (by decide) (by decide) auk existing seed nonce).bind
    fun amk _ => within_ok _

lemma within_amkSignPrf (secret json amk : String) (msg : Bytes) :
    Within (Reports P Category.opening) (amkSignPrf P secret json amk msg) :=
  (within_aukFromPrf (by decide) (by decide) (by decide) secret json).bind
    fun auk _ => within_amkSignFromAuk (by decide) (by decide) (by decide) auk amk msg

lemma within_sealSymmetric (key : String) (plaintext aad : Bytes) (nonce : Nonce) :
    Within (Reports P [.encoding, .invalidInput]) (sealSymmetric P key plaintext aad nonce) :=
  (within_aeadKey (by decide) (by decide) key).bind fun _ _ => within_ok _

lemma within_openSymmetric (key : String) (blob aad : Bytes) :
    Within (Reports P [.encoding, .invalidInput, .wrongCredential])
      (openSymmetric P key blob aad) :=
  (within_aeadKey (by decide) (by decide) key).bind fun _ _ =>
    within_mapErr Aead.openAad_ne_panic fun _ => reports_wrong (by decide) (by decide)

lemma within_signMessage (secret : String) (msg : Bytes) :
    Within (Reports P [.encoding]) (signMessage P secret msg) := by
  refine (within_unb64 (by decide) secret).bind fun bytes _ => ?_
  exact (Identity.within_fromSecretBytes (by decide) bytes).bind fun id _ => within_ok _

/-- A signature that does not verify is no error. -/
lemma within_verifyMessage (pk : String) (msg : Bytes) (sig : String) :
    Within (Reports P [.encoding, .invalidInput]) (verifyMessage P pk msg sig) := by
  refine (within_unb64 (by decide) pk).bind fun pkBytes _ => ?_
  refine (within_okOr (reports_malformed (by decide) (by decide)) _).bind fun pkArr _ => ?_
  refine (within_unb64 (by decide) sig).bind fun sigBytes _ => ?_
  refine (within_okOr (reports_malformed (by decide) (by decide)) _).bind fun sigArr _ => ?_
  cases h : SignPublic.verify P pkArr msg sigArr with
  | ok u => exact within_ok _
  | err e => exact within_ok _
  | panic =>
    refine absurd h (Outcome.bind_ne_panic Outcome.okOr_ne_panic fun vk _ => ?_)
    split_ifs
    · exact Outcome.ok_ne_panic
    · exact Outcome.err_ne_panic

lemma within_exportBackup (hK : Kdf.Accepts P) {p : String}
    (hlen : (Bytes.ofString p).length < 2 ^ 32) (json : String) (salt : ByteArr 16)
    (nonce : Nonce) : Within (Reports P []) (exportBackup P json p salt nonce) := by
  obtain ⟨d, hd⟩ := hK .constrained (Bytes.ofString p) salt hlen
  rw [exportBackup, Backup.exportBackup]
  dsimp only
  rw [Backup.deriveKek, hd]
  exact within_ok _

/-- Whatever is wrong with a backup is reported as a wrong passphrase. -/
lemma within_importBackup (data : Bytes) (p : String) :
    Within (Reports P [.invalidInput, .wrongCredential]) (importBackup P data p) := by
  refine Within.bind ?_ fun pt _ => ?_
  · exact within_mapErr Backup.importBackup_ne_panic fun _ =>
      reports_wrong (by decide) (by decide)
  · exact within_okOr (reports_utf8 (by decide) (by decide) _) _

lemma within_nsWrapNk (hA : P.AesGcmSeals) {nkB64 : String}
    (hlen : ∀ nk, nsUnb64 P nkB64 = .ok nk → nk.length ≤ 2 ^ 36) (p salt : String)
    (iv : ByteArr 12) : Within (Reports P [.encoding]) (nsWrapNk P nkB64 p salt iv) := by
  refine (within_nsUnb64 (by decide) nkB64).bind fun nk hnk => ?_
  refine (within_deriveKey (by decide) p salt).bind fun key _ => ?_
  exact Nscrypto.within_aesEncrypt hA (hlen nk hnk) key iv

lemma within_nsUnwrapNk (wrapped p salt : String) :
    Within (Reports P [.encoding, .invalidInput, .wrongCredential])
      (nsUnwrapNk P wrapped p salt) := by
  refine Within.bind ?_ fun nk _ => within_ok _
  refine (within_deriveKey (by decide) p salt).bind fun key _ => ?_
  exact Nscrypto.within_aesDecrypt (by decide) (by decide) (by decide) key wrapped

lemma within_nsProtectValue (hA : P.AesGcmSeals) {value : String}
    (hlen : (Bytes.ofString value).length ≤ 2 ^ 36) (nkB64 : String) (iv : ByteArr 12) :
    Within (Reports P [.encoding, .invalidInput]) (nsProtectValue P nkB64 value iv) := by
  refine (within_nsUnb64 (by decide) nkB64).bind fun nk _ => ?_
  refine (within_nkKey (by decide) nk).bind fun key _ => ?_
  exact (Nscrypto.within_aesEncrypt hA hlen key iv).bind fun blob _ => within_ok _

lemma within_nsUnprotectValue (nkB64 blob : String) :
    Within (Reports P [.encoding, .invalidInput, .wrongCredential])
      (nsUnprotectValue P nkB64 blob) := by
  refine (within_nsUnb64 (by decide) nkB64).bind fun nk _ => ?_
  refine (within_nkKey (by decide) nk).bind fun key _ => ?_
  refine (Nscrypto.within_aesDecrypt (by decide) (by decide) (by decide) _ _).bind fun pt _ => ?_
  exact within_okOr (reports_utf8 (by decide) (by decide) _) _

lemma within_verifyCertJson (json sigs custodians : String) (threshold : UInt32) :
    Within (Reports P [.json]) (verifyCertJson P json sigs custodians threshold) := by
  refine Within.bind ?_ fun bytes _ => ?_
  · exact (within_ofExcept (reports_json (by decide)) _).bind fun cert _ => within_ok _
  · refine (within_ofExcept (reports_json (by decide)) _).bind fun sigs _ => ?_
    exact (within_ofExcept (reports_json (by decide)) _).bind fun custodians _ => within_ok _

end Flows

namespace ApiCall

/-- The categories of the errors of a call. A new vault and an export cannot fail, and what is
signed, sealed or encrypted is never a wrong credential. -/
def categories : ApiCall → List Category
  | createVaultProfile .. => [.invalidInput]
  | signMessage .. | nsWrapNk .. | nsNkHash .. => [.encoding]
  | certBytes .. | leafBytes .. | sthMessage .. | verifyCert .. => [.json]
  | encryptShare .. => [.json, .invalidInput]
  | encryptItem .. => [.json, .encoding, .invalidInput]
  | sealSymmetric .. | verifyMessage .. | nsProtectValue .. => [.encoding, .invalidInput]
  | decryptShare .. => [.encoding, .wrongCredential]
  | importBackup .. => [.invalidInput, .wrongCredential]
  | unlockRecovery .. | unlockPrf .. => [.json, .encoding, .wrongCredential]
  | openSymmetric .. | nsUnwrapNk .. | nsUnprotectValue .. =>
    [.encoding, .invalidInput, .wrongCredential]
  | decryptItem .. | unlockVault .. | resetPassphrase .. | changePassphrase ..
  | rotateSecretKey .. | rotateRecoveryCode .. | rotateIdentity .. | enrollPrf .. | amkEnsure ..
  | amkSign .. | amkEnsurePrf .. | amkSignPrf .. =>
    [.json, .encoding, .invalidInput, .wrongCredential]
  | _ => []

/-- A new passphrase has less than 4 GiB, and what AES-GCM seals at most 64 GiB. -/
def InLimits (P : Primitives) : ApiCall → Prop
  | createVault p _ | createVaultProfile p _ _ | rotateSecretKey p _ _ _ _ _
  | exportBackup _ p _ _ | resetPassphrase _ _ _ p _ _ | changePassphrase _ _ _ p _ _ =>
    (Bytes.ofString p).length < 2 ^ 32
  | nsWrapNk nkB64 _ _ _ => ∀ nk, Flows.nsUnb64 P nkB64 = .ok nk → nk.length ≤ 2 ^ 36
  | nsProtectValue _ value _ => (Bytes.ofString value).length ≤ 2 ^ 36
  | _ => True

variable {leafFromJson : String → Except String LeafJson}
  {sthFromJson : String → Except String SthJson}

lemma within_run (hK : Kdf.Accepts P) (hA : P.AesGcmSeals) {c : ApiCall} (hc : c.InLimits P) :
    Within (Reports P c.categories) (c.run P leafFromJson sthFromJson) := by
  cases c with
  | generateIdentity => exact within_ok _
  | encryptItem => exact Flows.within_encryptItem _ _ _ _ _
  | decryptItem => exact Flows.within_decryptItem _ _
  | encryptShare => exact Flows.within_encryptShare _ _ _
  | decryptShare => exact Flows.within_decryptShare _ _
  | createVault => exact Flows.within_createVault hK hc _
  | createVaultProfile => exact Flows.within_createVaultProfile hK hc _ _
  | unlockVault => exact Flows.within_unlockVault _ _ _ _
  | unlockRecovery => exact Flows.within_unlockRecovery _ _ _
  | resetPassphrase => exact Flows.within_resetPassphrase hK hc _ _ _ _ _
  | changePassphrase => exact Flows.within_changePassphrase hK hc _ _ _ _ _
  | rotateSecretKey => exact Flows.within_rotateSecretKey hK hc _ _ _ _ _
  | rotateRecoveryCode => exact Flows.within_rotateRecoveryCode _ _ _ _ _
  | rotateIdentity => exact Flows.within_rotateIdentity _ _ _ _ _ _ _
  | generateSymmetricKey => exact within_ok _
  | sealSymmetric => exact Flows.within_sealSymmetric _ _ _ _
  | openSymmetric => exact Flows.within_openSymmetric _ _ _
  | signMessage => exact Flows.within_signMessage _ _
  | verifyMessage => exact Flows.within_verifyMessage _ _ _
  | exportBackup => exact Flows.within_exportBackup hK hc _ _ _
  | importBackup => exact Flows.within_importBackup _ _
  | enrollPrf => exact Flows.within_enrollPrf _ _ _ _ _
  | unlockPrf => exact Flows.within_unlockPrf _ _ _
  | amkEnsure => exact Flows.within_amkEnsure _ _ _ _ _ _
  | amkSign => exact Flows.within_amkSign _ _ _ _ _
  | amkEnsurePrf => exact Flows.within_amkEnsurePrf _ _ _ _ _
  | amkSignPrf => exact Flows.within_amkSignPrf _ _ _ _
  | messageDigest => exact within_ok _
  | nsRandomNk => exact within_ok _
  | nsRandomSalt => exact within_ok _
  | nsRandomRecoveryCode b =>
    obtain ⟨gs, -, hgs, hflat⟩ := Nscrypto.exists_groups b
    show Within _ (Nscrypto.randomNsRecoveryCode b)
    rw [Nscrypto.randomNsRecoveryCode_eq hgs hflat]
    exact within_ok _
  | nsWrapNk => exact Flows.within_nsWrapNk hA hc _ _ _
  | nsUnwrapNk => exact Flows.within_nsUnwrapNk _ _ _
  | nsProtectValue => exact Flows.within_nsProtectValue hA hc _ _
  | nsUnprotectValue => exact Flows.within_nsUnprotectValue _ _
  | nsNkHash nk =>
    exact (Flows.within_nsUnb64 List.mem_cons_self nk).bind fun bytes _ => within_ok _
  | nsIsProtected => exact within_ok _
  | certBytes =>
    exact (within_ofExcept (reports_json List.mem_cons_self) _).bind fun cert _ => within_ok _
  | leafBytes =>
    exact (within_ofExcept (reports_json List.mem_cons_self) _).bind fun leaf _ => within_ok _
  | sthMessage =>
    exact (within_ofExcept (reports_json List.mem_cons_self) _).bind fun sth _ => within_ok _
  | verifyCert => exact Flows.within_verifyCertJson _ _ _ _

/-- No error is of the category that stands for a failure of a primitive. -/
lemma other_notMem_categories (c : ApiCall) : .other ∉ c.categories := by
  cases c <;> simp [categories]

/-- Within the limits of the primitives no call panics, on either surface. An error of `uniffi_api`
is of a category of the call, never of the one for failing primitives, and an error of `wasm` is
the message of that error. -/
theorem surfaces_total (hK : Kdf.Accepts P) (hA : P.AesGcmSeals) {c : ApiCall}
    (hc : c.InLimits P) :
    c.uniffi P leafFromJson sthFromJson ≠ .panic ∧
      (∀ e, c.uniffi P leafFromJson sthFromJson = .err e →
        e.category ∈ c.categories ∧ e.category ≠ .other) ∧
      (∀ e, c.run P leafFromJson sthFromJson = .err e → e.Raised P) ∧
      c.wasm P leafFromJson sthFromJson =
        (c.uniffi P leafFromJson sthFromJson).mapErr PockCoreError.message := by
  have hrun : Within (Reports P c.categories) (c.run P leafFromJson sthFromJson) :=
    within_run hK hA hc
  refine ⟨mapErr_ne_panic.mpr hrun.ne_panic, fun e he => ?_, fun e he => (hrun.errIn e he).1, ?_⟩
  · obtain ⟨e', he', rfl⟩ := mapErr_eq_err.mp he
    have hmem := (hrun.errIn e' he').2
    exact ⟨hmem, fun hother => c.other_notMem_categories (hother ▸ hmem)⟩
  · rw [wasm, uniffi]
    cases c.run P leafFromJson sthFromJson with
    | ok a => rfl
    | err e => rw [mapErr_err, mapErr_err, mapErr_err, PockCoreError.message_ofCoreError]
    | panic => rfl

end ApiCall

namespace Reference

lemma accepts : Kdf.Accepts primitives := by
  intro profile password salt hlen
  have hsalt : ¬salt.toList.length < 8 := by simp
  have hargon : ∀ m t p, primitives.argon2id m t p password salt.toList =
      .ok (fit 32 (password ++ salt.toList)) := fun _ _ _ => if_neg hsalt
  refine ⟨fit 32 (password ++ salt.toList), ?_⟩
  show Outcome.ofExcept CoreError.kdf (primitives.argon2id _ _ _ password salt.toList) = _
  rw [hargon, Outcome.ofExcept_ok]

/-- A profile that is not known is malformed input. -/
theorem createVaultProfile_turbo : ∃ e,
    (ApiCall.createVaultProfile "pw" "turbo" draws).uniffi primitives (fun _ => .error "")
      (fun _ => .error "") = .err e ∧ e.category = .invalidInput := by
  have hlen : (ApiCall.createVaultProfile "pw" "turbo" draws).InLimits primitives := by
    show (Bytes.ofString "pw").length < 2 ^ 32
    decide
  obtain ⟨-, hcategory, -⟩ := @ApiCall.surfaces_total primitives (fun _ => .error "")
    (fun _ => .error "") accepts aesGcmSeals _ hlen
  refine ⟨_, rfl, ?_⟩
  exact List.mem_singleton.mp (hcategory _ rfl).1

end Reference

end PockCore
