import PockCore.Backup.Exact
import PockCore.Decoders
import PockCore.Item.Access
import PockCore.Item.Flows
import PockCore.Nscrypto.Rewrap
import PockCore.Share.RoundTrip
import PockCore.Vault.Malformed

/-!
# Wrong credentials

Whatever is sealed is refused under every other key, and every flow that opens something reports
the refusal as a wrong credential, through whichever error it has for it.
-/

namespace PockCore

variable {P : Primitives}

/-! ### Wraps of the AUK -/

namespace Flows

variable {json : String} {w : WrappedAuk}

lemma WrapCall.isWrongCredential (hw : readWrappedAuk P json = .ok w) {call : WrapCall}
    (hwf : call.credential.WellFormed P) (h : (call.credential.unwrap P w).IsErr) :
    IsWrongCredential (call.run P json) := by
  obtain ⟨e, he⟩ := h
  rw [call.run_of_unwrap hw hwf he]
  exact .of_flow call.credential.message_mem

/-! ### Symmetric keys, backups and namespace keys -/

lemma aeadKey_eq_ok {keyB64 : String} {key : AeadKey} :
    aeadKey P keyB64 = .ok key ↔ keyB64 = b64 key.toList := by
  simp [aeadKey, Outcome.bind_eq_ok, Bytes.tryInto_eq_some]

lemma openSymmetric_sealAad (hX : P.XchachaCommits) {key key' : AeadKey} (hne : key' ≠ key)
    (plaintext aad : Bytes) (nonce : Nonce) :
    IsWrongCredential
      (openSymmetric P (b64 key'.toList) (Aead.sealAad P key plaintext aad nonce) aad) := by
  have hrefused : P.xchachaDecrypt key' nonce (P.xchachaEncrypt key nonce plaintext aad) aad =
      none := by
    rw [Option.eq_none_iff_forall_ne_some]
    exact fun msg hmsg => hne (hX _ _ _ _ _ _ hmsg)
  rw [openSymmetric, aeadKey_eq_ok.mpr rfl, Outcome.ok_bind, Aead.sealAad, Aead.openAad_append,
    hrefused, Outcome.okOr_none, Outcome.mapErr_err]
  exact .of_flow (by decide)

lemma importBackup_of_ne (hC : P.XchachaCorrect) (hT : P.XchachaTagged) (hX : P.XchachaCommits)
    {plaintext passphrase passphrase' : String} {salt : ByteArr 16} {nonce : Nonce} {data : Bytes}
    {kek : ByteArr 32}
    (h : exportBackup P plaintext passphrase salt nonce = .ok data)
    (hkek : Backup.deriveKek P (Bytes.ofString passphrase) salt.toList .constrained = .ok kek)
    (hne : Backup.deriveKek P (Bytes.ofString passphrase') salt.toList .constrained ≠ .ok kek) :
    IsWrongCredential (importBackup P data passphrase') := by
  have hdata : data = BackupFile.toBytes
      ⟨salt, .constrained, Aead.sealBlob P kek (Bytes.ofString plaintext) nonce⟩ := by
    rw [exportBackup, Backup.exportBackup] at h
    simp only [hkek, Outcome.ok_bind] at h
    cases h
    rfl
  have herr : (Backup.importBackup P data (Bytes.ofString passphrase')).IsErr := by
    apply Outcome.isErr_of_ne Backup.importBackup_ne_panic
    intro pt hok
    rw [hdata, Backup.importBackup_toBytes _ (Aead.length_le_of_openBlob hT
      (Aead.openBlob_sealBlob hC kek _ nonce))] at hok
    obtain ⟨kek', hkek', hopen⟩ := Outcome.bind_eq_ok.mp hok
    have hkek_ne : kek' ≠ kek := by
      rintro rfl
      exact hne hkek'
    rw [Aead.openBlob_sealBlob_of_ne hX hkek_ne, Outcome.mapErr_err] at hopen
    cases hopen
  obtain ⟨e, he⟩ := herr
  rw [importBackup, he, Outcome.mapErr_err]
  exact .bind (.of_flow (by decide)) _

end Flows

/-! ### Namespace keys -/

/-- A blob that is opened under another key is reported as a wrong passphrase. -/
lemma Nscrypto.isWrongCredential_aesDecrypt (hA : P.AesGcmCommits) {key key' : ByteArr 32}
    (hne : key' ≠ key) {data : Bytes} {iv : ByteArr 12} {blob : String}
    (h : aesEncrypt P key data iv = .ok blob) : IsWrongCredential (aesDecrypt P key' blob) := by
  simp only [aesEncrypt, Outcome.bind_eq_ok, Outcome.okOr_eq_ok, Outcome.ok.injEq] at h
  obtain ⟨ct, hct, rfl⟩ := h
  have hrefused : P.aesGcmDecrypt key' iv ct [] = none := by
    rw [Option.eq_none_iff_forall_ne_some]
    exact fun msg hmsg => hne (hA _ _ _ _ _ _ _ hct hmsg)
  have hopen := aesDecrypt_body (P := P) key' iv ct
  rw [hrefused, Outcome.okOr_none] at hopen
  rw [show b64std iv.toList ++ "." ++ b64std ct = body iv (b64std ct) from rfl, hopen]
  exact .of_flow (by decide)

namespace Flows

lemma nsUnwrapNk_of_ne (hA : P.AesGcmCommits) {nkB64 passphrase saltB64 wrapped : String}
    {iv : ByteArr 12} (h : nsWrapNk P nkB64 passphrase saltB64 iv = .ok wrapped)
    {key' : ByteArr 32} {passphrase' saltB64' : String}
    (hkey' : Nscrypto.deriveKey P passphrase' saltB64' = .ok key')
    (hne : Nscrypto.deriveKey P passphrase saltB64 ≠ .ok key') :
    IsWrongCredential (nsUnwrapNk P wrapped passphrase' saltB64') := by
  obtain ⟨nk, -, hwrap⟩ := Outcome.bind_eq_ok.mp h
  obtain ⟨key, hkey, henc⟩ := Outcome.bind_eq_ok.mp hwrap
  have hkey_ne : key' ≠ key := by
    rintro rfl
    exact hne hkey
  rw [nsUnwrapNk, Nscrypto.unwrapNk, hkey', Outcome.ok_bind]
  exact (Nscrypto.isWrongCredential_aesDecrypt hA hkey_ne henc).bind _

lemma nsUnprotectValue_of_ne (hA : P.AesGcmCommits) {nkB64 nkB64' value blob : String}
    {iv : ByteArr 12} (h : nsProtectValue P nkB64 value iv = .ok blob) {nk' : ByteArr 32}
    (hnk' : nsUnb64 P nkB64' = .ok nk'.toList) (hne : nsUnb64 P nkB64 ≠ .ok nk'.toList) :
    IsWrongCredential (nsUnprotectValue P nkB64' blob) := by
  obtain ⟨nk, hnk, hprotect⟩ := Outcome.bind_eq_ok.mp h
  obtain ⟨key, hkey, hblob⟩ := Outcome.bind_eq_ok.mp hprotect
  obtain ⟨body, henc, hok⟩ := Outcome.bind_eq_ok.mp hblob
  cases hok
  have hkey_ne : nk' ≠ key := by
    rintro rfl
    rw [Nscrypto.nkKey, Outcome.okOr_eq_ok, Bytes.tryInto_eq_some] at hkey
    rw [hkey] at hnk
    exact hne hnk
  have hnkKey : Nscrypto.nkKey nk'.toList = .ok nk' := by
    rw [Nscrypto.nkKey, Bytes.tryInto_toList, Outcome.okOr_some]
  rw [nsUnprotectValue, hnk', Outcome.ok_bind, Nscrypto.unprotectValue, hnkKey, Outcome.ok_bind,
    Text.stripPrefix_append, Option.getD_some]
  exact (Nscrypto.isWrongCredential_aesDecrypt hA hkey_ne henc).bind _

end Flows

/-! ### Items and shares -/

namespace Flows

/-- An identity that is not a recipient cannot read. -/
lemma decryptItem_of_notMem (hS : Item.Sound P) {value : Bytes} {s : Item.Shared P}
    (h : (Item.machine P value).Reachable s) {id : Identity}
    (hid : KemSecret.encapsulationKey P id.kem ∉ s.recipients) {json : String}
    (hread : P.itemJson.read json = .ok s.item) :
    IsWrongCredential (decryptItem P json (b64 id.toSecretBytes)) := by
  obtain ⟨-, -, -, dek, hinv⟩ := (Item.simulates hS value).reachable h
  have hrefused : Item.decryptItem s.item id.kem (KemSecret.encapsulationKey P id.kem) =
      .err .wrongKey := hinv.decryptItem_of_not hS fun hno => hid hno.2
  rw [decryptItem, hread, Outcome.ofExcept_ok, Outcome.ok_bind, unb64_of_b64, Outcome.ok_bind,
    Identity.fromSecretBytes_toSecretBytes, Outcome.ok_bind]
  show IsWrongCredential
    (Item.decryptItem s.item id.kem (KemSecret.encapsulationKey P id.kem) >>= _)
  rw [hrefused]
  exact IsWrongCredential.wrongKey.bind _

end Flows

namespace Share

/-- The key is one of the cipher, but not the one that was drawn. -/
def OtherKey (P : Primitives) (draws : ShareDraws) (key : ByteArr 32) : ShareCipher → Prop
  | .xchacha => key ≠ draws.key
  | .xwing => KemSecret.encapsulationKey P key ≠ KemSecret.encapsulationKey P draws.kemSeed

/-- The payload of a share is not opened with such a key. -/
lemma exists_payload_of_otherKey (hS : Item.Sound P) (bundle : Bundle) {c : ShareCipher}
    {draws : ShareDraws} {key : ByteArr 32} (hkey : OtherKey P draws key c) :
    ∃ payload text, encryptShare P bundle c draws = .ok (frame c payload, text) ∧
      openPayload P c key.toList payload = .err .wrongKey := by
  cases c with
  | xchacha =>
    refine ⟨_, _, rfl, ?_⟩
    rw [openPayload_xchacha, Aead.openBlob_sealBlob_of_ne hS.commits hkey]
  | xwing =>
    refine ⟨_, _, encryptShare_xwing bundle draws, ?_⟩
    have hopen := openPayload_xwing (P := P) key
    rw [show KemSecret.toBytes key = key.toList from rfl] at hopen
    rw [hopen]
    exact Envelope.openWith_sealTo_of_ne hS.commits hS.rejects hS.keyInj hkey _ _ _

lemma decryptShare_of_otherKey (hS : Item.Sound P) {bundle : Bundle} {c : ShareCipher}
    {draws : ShareDraws} {share : Bytes × String} (h : encryptShare P bundle c draws = .ok share)
    {key : ByteArr 32} (hkey : OtherKey P draws key c) {text : String}
    (htext : parseKeyBlob P text = .ok (c, key.toList)) :
    decryptShare P share.1 text = .err .wrongKey := by
  obtain ⟨payload, own, henc, hopen⟩ := exists_payload_of_otherKey hS bundle hkey
  rw [henc, Outcome.ok.injEq] at h
  subst h
  have hframe : unframe (frame c payload) = .ok (c, 6) := unframe_eq_ok.mpr ⟨rfl, payload, rfl⟩
  have hpayload : (Bytes.sliceFrom (frame c payload) 6 : Result Bytes) = .ok payload :=
    Bytes.sliceFrom_append (by simp [magic_length])
  simp only [decryptShare, hframe, htext, Outcome.ok_bind, hpayload, hopen, ne_eq,
    not_true_eq_false, if_false, Outcome.err_bind]

end Share

/-- So does the flow. -/
lemma Flows.decryptShare_of_otherKey (hS : Item.Sound P) {json cipherId : String}
    {draws : Share.ShareDraws} {share : EncryptedShare}
    (h : encryptShare P json cipherId draws = .ok share) {c : ShareCipher}
    (hc : ShareCipher.fromId cipherId = some c) {key : ByteArr 32}
    (hkey : Share.OtherKey P draws key c) {text : String}
    (htext : Share.parseKeyBlob P text = .ok (c, key.toList)) :
    IsWrongCredential (decryptShare P share.envelopeB64 text) := by
  obtain ⟨bundle, -, h⟩ := Outcome.bind_eq_ok.mp h
  obtain ⟨c', hc', h⟩ := Outcome.bind_eq_ok.mp h
  obtain ⟨parts, hparts, hok⟩ := Outcome.bind_eq_ok.mp h
  cases hok
  rw [hc, Outcome.okOr_some, Outcome.ok.injEq] at hc'
  subst hc'
  rw [decryptShare, unb64_of_b64, Outcome.ok_bind,
    Share.decryptShare_of_otherKey hS hparts hkey htext]
  exact IsWrongCredential.wrongKey.bind _

/-! ### Every flow -/

/-- Each artifact, opened with a credential of the right shape that is not its own. -/
structure ReportsWrongCredentials (P : Primitives) : Prop where
  /-- A passphrase or a Secret Key: the wrap is opened by eight flows. -/
  passphraseWrap : ∀ auk passphrase secretKey profile salt nonce w json p' sk' secretKey'
    (call : Flows.WrapCall),
    Auk.wrapWithPassphrase P auk passphrase secretKey profile salt nonce = .ok w →
    Flows.readWrappedAuk P json = .ok w →
    call.credential = .passphrase p' sk' → Flows.parseSk P sk' = .ok secretKey' →
    Auk.derivePassphraseKek P (Bytes.ofString p') salt.toList secretKey' profile ≠
      Auk.derivePassphraseKek P passphrase salt.toList secretKey profile →
    IsWrongCredential (call.run P json)
  /-- A recovery code. -/
  recoveryWrap : ∀ auk code method nonce json code' (call : Flows.WrapCall),
    Flows.readWrappedAuk P json = .ok (Auk.wrapWithKek P auk
      (Kdf.hkdfSha256 P code [] Flows.recoveryInfo) method nonce) →
    call.credential = .recovery code' →
    Kdf.hkdfSha256 P (Bytes.ofString (Text.trim code')) [] Flows.recoveryInfo ≠
      Kdf.hkdfSha256 P code [] Flows.recoveryInfo →
    IsWrongCredential (call.run P json)
  /-- A secret of a passkey. -/
  prfWrap : ∀ auk kek method nonce json s' kek' (call : Flows.WrapCall),
    Flows.readWrappedAuk P json = .ok (Auk.wrapWithKek P auk kek method nonce) →
    call.credential = .prf s' → Flows.prfKek P s' = .ok kek' → kek' ≠ kek →
    IsWrongCredential (call.run P json)
  symmetric : ∀ keyB64 plaintext aad nonce blob keyB64' key',
    Flows.sealSymmetric P keyB64 plaintext aad nonce = .ok blob →
    Flows.aeadKey P keyB64' = .ok key' → Flows.aeadKey P keyB64 ≠ .ok key' →
    IsWrongCredential (Flows.openSymmetric P keyB64' blob aad)
  backup : ∀ plaintext passphrase passphrase' salt nonce data,
    Flows.exportBackup P plaintext passphrase salt nonce = .ok data →
    Backup.deriveKek P (Bytes.ofString passphrase') salt.toList .constrained ≠
      Backup.deriveKek P (Bytes.ofString passphrase) salt.toList .constrained →
    IsWrongCredential (Flows.importBackup P data passphrase')
  nsWrap : ∀ nkB64 passphrase saltB64 iv wrapped passphrase' saltB64' key',
    Flows.nsWrapNk P nkB64 passphrase saltB64 iv = .ok wrapped →
    Nscrypto.deriveKey P passphrase' saltB64' = .ok key' →
    Nscrypto.deriveKey P passphrase saltB64 ≠ .ok key' →
    IsWrongCredential (Flows.nsUnwrapNk P wrapped passphrase' saltB64')
  nsValue : ∀ nkB64 value iv blob nkB64' (nk' : ByteArr 32),
    Flows.nsProtectValue P nkB64 value iv = .ok blob →
    Flows.nsUnb64 P nkB64' = .ok nk'.toList → Flows.nsUnb64 P nkB64 ≠ .ok nk'.toList →
    IsWrongCredential (Flows.nsUnprotectValue P nkB64' blob)
  /-- An identity that the item was neither encrypted for nor granted to. -/
  item : ∀ value s json (id : Identity), (Item.machine P value).Reachable s →
    P.itemJson.read json = .ok s.item →
    KemSecret.encapsulationKey P id.kem ∉ s.recipients →
    IsWrongCredential (Flows.decryptItem P json (b64 id.toSecretBytes))
  share : ∀ json cipherId draws share c (key : ByteArr 32) text,
    Flows.encryptShare P json cipherId draws = .ok share →
    ShareCipher.fromId cipherId = some c → Share.OtherKey P draws key c →
    Share.parseKeyBlob P text = .ok (c, key.toList) →
    IsWrongCredential (Flows.decryptShare P share.envelopeB64 text)

/-- Whatever is opened with a wrong credential, the error says so. -/
theorem reportsWrongCredentials (hS : Item.Sound P) (hT : P.XchachaTagged) (hA : P.AesGcmCommits) :
    ReportsWrongCredentials P where
  passphraseWrap auk passphrase secretKey profile salt nonce w json p' sk' secretKey' call hw hread
      hcall hsk hne := by
    obtain ⟨key, hkey, rfl⟩ := Auk.wrapWithPassphrase_eq_ok.mp hw
    have hkey : Auk.derivePassphraseKek P passphrase salt.toList secretKey profile = .ok key := hkey
    rw [hkey] at hne
    have hwf : call.credential.WellFormed P := by
      rw [hcall]
      exact ⟨secretKey', hsk⟩
    refine Flows.WrapCall.isWrongCredential hread hwf ?_
    rw [hcall, Flows.Credential.unwrap, hsk, Outcome.ok_bind]
    rw [Auk.isErr_unwrapWithPassphrase_iff hS.correct hS.commits rfl rfl rfl,
      Auk.profile_of_params rfl]
    exact hne
  recoveryWrap auk code method nonce json code' call hread hcall hne := by
    have hwf : call.credential.WellFormed P := by
      rw [hcall]
      exact trivial
    refine Flows.WrapCall.isWrongCredential hread hwf ?_
    rw [hcall, Flows.Credential.unwrap, Auk.unwrapWithKek_of_ne hS.commits rfl rfl hne]
    exact Outcome.isErr_err _
  prfWrap auk kek method nonce json s' kek' call hread hcall hkek hne := by
    have hwf : call.credential.WellFormed P := by
      rw [hcall]
      obtain ⟨secret, hsecret, -⟩ := Outcome.bind_eq_ok.mp hkek
      exact ⟨secret, hsecret⟩
    refine Flows.WrapCall.isWrongCredential hread hwf ?_
    rw [hcall, Flows.Credential.unwrap, hkek, Outcome.ok_bind,
      Auk.unwrapWithKek_of_ne hS.commits rfl rfl hne]
    exact Outcome.isErr_err _
  symmetric keyB64 plaintext aad nonce blob keyB64' key' h hkey' hne := by
    obtain ⟨key, hkey, hok⟩ := Outcome.bind_eq_ok.mp h
    cases hok
    have hkey_ne : key' ≠ key := by
      rintro rfl
      exact hne hkey
    obtain rfl := Flows.aeadKey_eq_ok.mp hkey'
    exact Flows.openSymmetric_sealAad hS.commits hkey_ne plaintext aad nonce
  backup plaintext passphrase passphrase' salt nonce data h hne := by
    obtain ⟨kek, hkek, -⟩ := Outcome.bind_eq_ok.mp h
    rw [hkek] at hne
    exact Flows.importBackup_of_ne hS.correct hT hS.commits h hkek hne
  nsWrap _ _ _ _ _ _ _ _ h hkey' hne := Flows.nsUnwrapNk_of_ne hA h hkey' hne
  nsValue _ _ _ _ _ _ h hnk' hne := Flows.nsUnprotectValue_of_ne hA h hnk' hne
  item _ _ _ _ hreach hread hid := Flows.decryptItem_of_notMem hS hreach hid hread
  share _ _ _ _ _ _ _ h hc hkey htext := Flows.decryptShare_of_otherKey hS h hc hkey htext

/-- A blob of the stand-in primitives, opened with another key. -/
theorem Reference.openSymmetric_other :
    IsWrongCredential (Flows.openSymmetric primitives (b64 (fit 32 [1]).toList)
      (Aead.sealAad primitives (fit 32 [2]) [104, 105] [] (fit 24 [])) []) := by
  have hkey : ∀ key : ByteArr 32, Flows.aeadKey primitives (b64 key.toList) = .ok key :=
    fun key => Flows.aeadKey_eq_ok.mpr rfl
  have hseal : Flows.sealSymmetric primitives (b64 (fit 32 [2]).toList) [104, 105] [] (fit 24 []) =
      .ok (Aead.sealAad primitives (fit 32 [2]) [104, 105] [] (fit 24 [])) := by
    rw [Flows.sealSymmetric, hkey, Outcome.ok_bind]
  refine (reportsWrongCredentials sound xchachaTagged aesGcmCommits).symmetric _ _ _ _ _ _ _ hseal
    (hkey (fit 32 [1])) ?_
  rw [hkey]
  decide

end PockCore
