import PockCore.Decoders
import PockCore.Item.Access
import PockCore.Item.Flows
import PockCore.Share.RoundTrip
import PockCore.Vault.Calls

/-!
# Version markers

Seven kinds of artifacts carry a marker of their version. Whoever reads one of six of them refuses
every marker but the one it knows; the version of a share's bundle is read and not looked at.
-/

namespace PockCore

variable {P : Primitives}

/-! ### Artifacts and their readers -/

/-- What carries a version marker, honestly made or not. -/
inductive Artifact where
  | publicIdentityBlob (blob : PublicIdentityBlob)
  | envelope (env : Envelope)
  | encryptedItem (item : EncryptedItem)
  | wrappedAuk (w : WrappedAuk)
  | shareFrame (frame : Bytes)
  | shareBundle (bundle : Bundle)
  | backup (data : Bytes)

/-- The share holds this bundle for the holder of the key blob. -/
def Share.Carries (P : Primitives) (envelope : Bytes) (keyBlobStr : String) (bundle : Bundle) :
    Prop :=
  ∃ c payload key data, envelope = frame c payload ∧ parseKeyBlob P keyBlobStr = .ok (c, key) ∧
    openPayload P c key payload = .ok data ∧ P.bundleBytes.read data = .ok bundle

/-- The wrap that an item has for a public key is in this envelope. -/
def Item.WrapsIn (item : EncryptedItem) (pub : KemPublic P) (env : Envelope) : Prop :=
  ∃ w, item.wrappedDeks.find? (fun w => w.recipient = recipientId pub) = some w ∧ w.env = env

namespace Artifact

/-- The marker is the one that the crate writes. -/
def Supported : Artifact → Prop
  | publicIdentityBlob blob => blob.v = 1
  | envelope env => env.v = 1
  | encryptedItem item => item.v = 1
  | wrappedAuk w => w.v = 1
  | shareFrame frame => frame[4]? = some 2
  | shareBundle bundle => bundle.v = 1
  | backup data => Backup.magic <+: data

/-- Every reader of the artifact, and every flow above it, returns an error, with any keys. -/
def Rejected (P : Primitives) : Artifact → Prop
  | publicIdentityBlob blob =>
    (PublicIdentity.fromBlob P blob).IsErr ∧
    ∀ value json blobs dek nonce draws, P.pubBlobsJson.read json = .ok blobs → blob ∈ blobs →
      (Flows.encryptItem P value json dek nonce draws).IsErr
  | envelope env =>
    (∀ secret, (Envelope.openWith P secret env).IsErr) ∧
    ∀ item secret (pub : KemPublic P), Item.WrapsIn item pub env →
      (Item.decryptItem item secret pub).IsErr ∧
      (∀ new draws, (Item.grant item secret pub new draws).1.IsErr) ∧
      ∀ json (id : Identity), P.itemJson.read json = .ok item → (id.public P).kem = pub →
        (Flows.decryptItem P json (b64 id.toSecretBytes)).IsErr
  | encryptedItem item =>
    (∀ secret (pub : KemPublic P), (Item.decryptItem item secret pub).IsErr ∧
      ∀ new draws, (Item.grant item secret pub new draws).1.IsErr) ∧
    ∀ json secretB64, P.itemJson.read json = .ok item → (Flows.decryptItem P json secretB64).IsErr
  | wrappedAuk w =>
    (∀ passphrase secretKey, (Auk.unwrapWithPassphrase P w passphrase secretKey).IsErr) ∧
    (∀ kek, (Auk.unwrapWithKek P w kek).IsErr) ∧
    ∀ json, Flows.readWrappedAuk P json = .ok w → ∀ call : Flows.WrapCall, (call.run P json).IsErr
  | shareFrame frame => ∀ keyBlobStr,
    (Share.decryptShare P frame keyBlobStr).IsErr ∧
    (Flows.decryptShare P (b64 frame) keyBlobStr).IsErr
  | shareBundle bundle => ∀ frame keyBlobStr, Share.Carries P frame keyBlobStr bundle →
    (Share.decryptShare P frame keyBlobStr).IsErr ∧
    (Flows.decryptShare P (b64 frame) keyBlobStr).IsErr
  | backup data =>
    (∀ passphrase, (Backup.importBackup P data passphrase).IsErr) ∧
    ∀ passphrase, (Flows.importBackup P data passphrase).IsErr

end Artifact

/-! ### Identities -/

lemma PublicIdentity.isErr_fromBlob {blob : PublicIdentityBlob} (hv : blob.v ≠ 1) :
    (fromBlob P blob).IsErr := by
  rw [fromBlob, if_pos hv]
  exact Outcome.isErr_err _

lemma Flows.readRecipients_ne_panic {blobs : List PublicIdentityBlob} :
    readRecipients P blobs ≠ .panic := by
  induction blobs with
  | nil => exact Outcome.ok_ne_panic
  | cons b blobs ih =>
    apply Outcome.bind_ne_panic PublicIdentity.fromBlob_ne_panic
    intro pubid _
    apply Outcome.bind_ne_panic ih
    intro recipients _
    exact Outcome.ok_ne_panic

lemma Flows.isErr_encryptItem {value json : String} {blobs : List PublicIdentityBlob}
    {dek : AeadKey} {nonce : Nonce} {draws : ℕ → Item.WrapDraws}
    (hread : P.pubBlobsJson.read json = .ok blobs) {blob : PublicIdentityBlob}
    (hblob : blob ∈ blobs) (h : (PublicIdentity.fromBlob P blob).IsErr) :
    (encryptItem P value json dek nonce draws).IsErr := by
  have hrecipients : (readRecipients P blobs).IsErr := by
    apply Outcome.isErr_of_ne readRecipients_ne_panic
    intro recipients hok
    obtain ⟨pubid, hpubid, -⟩ := mem_readRecipients hok hblob
    exact h.ne_ok pubid hpubid
  rw [encryptItem, hread, Outcome.ofExcept_ok, Outcome.ok_bind]
  exact hrecipients.bind _

/-! ### Items and envelopes -/

lemma Envelope.isErr_openWith {env : Envelope} (hv : env.v ≠ 1) (secret : KemSecret) :
    (openWith P secret env).IsErr := by
  rw [openWith, if_pos hv]
  exact Outcome.isErr_err _

namespace Item

variable {item : EncryptedItem} {secret : KemSecret} {pub : KemPublic P}

lemma isErr_grant (h : (recoverDek item secret pub).IsErr) (new : KemPublic P)
    (draws : WrapDraws) : (grant item secret pub new draws).1.IsErr := by
  obtain ⟨e, he⟩ := h
  simp only [grant, he]
  exact Outcome.isErr_err _

lemma isErr_recoverDek_of_item (hv : item.v ≠ 1) : (recoverDek item secret pub).IsErr := by
  rw [recoverDek, if_pos hv]
  exact Outcome.isErr_err _

lemma isErr_recoverDek_of_envelope {env : Envelope} (hv : env.v ≠ 1)
    (h : WrapsIn item pub env) : (recoverDek item secret pub).IsErr := by
  obtain ⟨w, hw, rfl⟩ := h
  unfold recoverDek
  split_ifs
  · exact Outcome.isErr_err _
  · simp only [hw, Outcome.okOr_some, Outcome.ok_bind]
    exact (Envelope.isErr_openWith hv secret).bind _

/-- A flow that cannot recover the data key fails. -/
lemma isErr_flow {json : String} {id : Identity} (hread : P.itemJson.read json = .ok item)
    (h : (recoverDek item id.kem (id.public P).kem).IsErr) :
    (Flows.decryptItem P json (b64 id.toSecretBytes)).IsErr := by
  rw [Flows.decryptItem, hread, Outcome.ofExcept_ok, Outcome.ok_bind, Flows.unb64_of_b64,
    Outcome.ok_bind, Identity.fromSecretBytes_toSecretBytes, Outcome.ok_bind]
  exact (h.bind _).bind _

end Item

/-! ### Wraps -/

lemma Auk.isErr_unwrapWithKek {w : WrappedAuk} (hv : w.v ≠ 1) (kek : ByteArr 32) :
    (unwrapWithKek P w kek).IsErr := by
  rw [unwrapWithKek, if_pos hv]
  exact Outcome.isErr_err _

lemma Auk.isErr_unwrapWithPassphrase {w : WrappedAuk} (hv : w.v ≠ 1) (passphrase : Bytes)
    (secretKey : SecretKey) : (unwrapWithPassphrase P w passphrase secretKey).IsErr := by
  rw [unwrapWithPassphrase, if_pos hv]
  exact Outcome.isErr_err _

/-- No credential opens a wrap of another version. -/
lemma not_opens_of_version {json : String} {w : WrappedAuk}
    (hw : Flows.readWrappedAuk P json = .ok w) (hv : w.v ≠ 1) (i : KekInput) (auk : Auk) :
    ¬Opens P json i auk := by
  rintro ⟨kek, -, ho⟩
  rw [openWrap, hw, Outcome.ok_bind] at ho
  exact hv (Auk.unwrapWithKek_eq_ok.mp ho).1

/-! ### Shares -/

namespace Share

lemma isErr_unframe {envelope : Bytes} (hv : envelope[4]? ≠ some 2) :
    (unframe envelope).IsErr := by
  apply Outcome.isErr_of_ne unframe_ne_panic
  rintro ⟨c, off⟩ hok
  obtain ⟨-, payload, rfl⟩ := unframe_eq_ok.mp hok
  exact hv (by simp [frame, version, magic_length])

/-- A bundle is returned as it is, whatever its version. -/
lemma decryptShare_of_carries {envelope : Bytes} {keyBlobStr : String} {bundle : Bundle}
    (h : Carries P envelope keyBlobStr bundle) :
    decryptShare P envelope keyBlobStr = .ok bundle := by
  obtain ⟨c, payload, key, data, rfl, hkey, hopen, hread⟩ := h
  have hframe : unframe (frame c payload) = .ok (c, 6) := unframe_eq_ok.mpr ⟨rfl, payload, rfl⟩
  have hpayload : (Bytes.sliceFrom (frame c payload) 6 : Result Bytes) = .ok payload :=
    Bytes.sliceFrom_append (by simp [magic_length])
  simp only [decryptShare, hframe, hkey, Outcome.ok_bind, hpayload, ne_eq, not_true_eq_false,
    if_false, hopen, hread, Outcome.ofExcept_ok]

/-- Every bundle is carried by a share. -/
lemma exists_carries (hC : P.XchachaCorrect) (bundle : Bundle) :
    ∃ envelope keyBlobStr, Carries P envelope keyBlobStr bundle := by
  let key : AeadKey := ⟨List.replicate 32 0, rfl⟩
  let nonce : Nonce := ⟨List.replicate 24 0, rfl⟩
  have hkey : parseKeyBlob P (keyBlob .xchacha key.toList) = .ok (.xchacha, key.toList) := by
    have hblank : Text.IsBlank "" := by decide
    simpa using parseKeyBlob_keyBlob (P := P) hblank hblank
  have hopen := openPayload_xchacha (P := P) key
    (Aead.sealBlob P key (P.bundleBytes.write bundle) nonce)
  rw [Aead.openBlob_sealBlob hC] at hopen
  exact ⟨_, _, .xchacha, _, _, _, rfl, hkey, hopen, P.bundleBytes.read_write bundle⟩

end Share

/-! ### Backups -/

lemma Backup.isErr_importBackup {data : Bytes} (hv : ¬magic <+: data) (passphrase : Bytes) :
    (importBackup P data passphrase).IsErr := by
  by_cases hlen : data.length < headerLen + 24 + 16
  · rw [importBackup, if_pos hlen]
    exact Outcome.isErr_err _
  · have hslice : (Bytes.slice data 0 8 : Result Bytes) = .ok (data.take 8) :=
      Bytes.slice_of_le (Nat.zero_le _) (by rw [headerLen] at hlen; omega)
    have hmagic : data.take 8 ≠ magic := fun h => hv (h ▸ List.take_prefix 8 data)
    rw [importBackup, if_neg hlen, hslice, Outcome.ok_bind, if_pos hmagic]
    exact Outcome.isErr_err _

/-! ### What is rejected -/

namespace Artifact

/-- Every reader refuses every unknown version, except of a bundle. -/
lemma rejected_of_not_supported {a : Artifact} (hv : ¬a.Supported)
    (ha : ∀ bundle, a ≠ .shareBundle bundle) : a.Rejected P := by
  cases a with
  | publicIdentityBlob blob =>
    have herr := PublicIdentity.isErr_fromBlob (P := P) hv
    exact ⟨herr, fun _ _ _ _ _ _ hread hmem => Flows.isErr_encryptItem hread hmem herr⟩
  | envelope env =>
    refine ⟨Envelope.isErr_openWith hv, fun item secret pub hwraps => ⟨?_, fun new draws => ?_, ?_⟩⟩
    · exact (Item.isErr_recoverDek_of_envelope hv hwraps).bind _
    · exact Item.isErr_grant (Item.isErr_recoverDek_of_envelope hv hwraps) new draws
    · rintro json id hread rfl
      exact Item.isErr_flow hread (Item.isErr_recoverDek_of_envelope hv hwraps)
  | encryptedItem item =>
    refine ⟨fun secret pub => ⟨(Item.isErr_recoverDek_of_item hv).bind _, fun new draws => ?_⟩,
      fun json secretB64 hread => ?_⟩
    · exact Item.isErr_grant (Item.isErr_recoverDek_of_item hv) new draws
    · rw [Flows.decryptItem, hread, Outcome.ofExcept_ok, Outcome.ok_bind]
      refine Outcome.isErr_bind Outcome.ofExcept_ne_panic fun secret _ => ?_
      refine Outcome.isErr_bind Identity.fromSecretBytes_ne_panic fun id _ => ?_
      exact ((Item.isErr_recoverDek_of_item hv).bind _).bind _
  | wrappedAuk w =>
    exact ⟨Auk.isErr_unwrapWithPassphrase hv, Auk.isErr_unwrapWithKek hv,
      fun json hread call => call.isErr_run (not_opens_of_version hread hv)⟩
  | shareFrame envelope =>
    intro keyBlobStr
    have herr : (Share.decryptShare P envelope keyBlobStr).IsErr :=
      (Share.isErr_unframe hv).bind _
    refine ⟨herr, ?_⟩
    rw [Flows.decryptShare, Flows.unb64_of_b64, Outcome.ok_bind]
    exact herr.bind _
  | shareBundle bundle => exact absurd rfl (ha bundle)
  | backup data =>
    refine ⟨Backup.isErr_importBackup hv, fun passphrase => ?_⟩
    exact (Outcome.isErr_mapErr.mpr (Backup.isErr_importBackup hv _)).bind _

/-- No bundle is rejected: the holder of a share of it gets it. -/
lemma not_rejected_shareBundle (hC : P.XchachaCorrect) (bundle : Bundle) :
    ¬(shareBundle bundle).Rejected P := by
  intro h
  obtain ⟨frame, keyBlobStr, hcarries⟩ := Share.exists_carries hC bundle
  exact (h frame keyBlobStr hcarries).1.ne_ok bundle (Share.decryptShare_of_carries hcarries)

/-- Whoever reads an artifact rejects it if its version is unknown, exactly if the artifact is not
a share's bundle of an unknown version. -/
theorem rejected_iff (hC : P.XchachaCorrect) (a : Artifact) :
    (¬a.Supported → a.Rejected P) ↔ ∀ bundle, a = .shareBundle bundle → bundle.v = 1 := by
  constructor
  · rintro h bundle rfl
    by_contra hv
    exact not_rejected_shareBundle hC bundle (h hv)
  · intro h hv
    apply rejected_of_not_supported hv
    rintro bundle rfl
    exact hv (h bundle rfl)

end Artifact

namespace Reference

/-- An item that its recipient reads is rejected once its version is 2. -/
theorem rejected_item :
    Item.decryptItem item.item (fit 32 [1]) (reader (fit 32 [1])) = .ok [104, 105] ∧
      (Artifact.encryptedItem { item.item with v := 2 }).Rejected primitives := by
  constructor
  · have hinit : Item.encryptItem [104, 105] item.recipients (fit 32 [7]) (fit 24 [])
        (fun _ => wrapDraws) = .ok item.item := by
      simp [Item.encryptItem, item]
    exact (Item.Shared.Inv.init hinit).2.decryptItem_of_mem xchachaCorrect kemCorrect
      kemKeyRoundTrip (List.mem_singleton_self _)
  · have hv : ¬(2 : UInt8) = 1 := by decide
    refine (Artifact.rejected_iff xchachaCorrect _).mpr (fun bundle h => ?_) hv
    cases h

/-- A bundle of version 2 is shared, and returned to the holder of the share. -/
theorem decryptShare_versionTwo :
    let bundle : Bundle := ⟨2, [⟨".env", "KEY=1"⟩], none, none⟩
    (∃ share, Share.encryptShare primitives bundle .xchacha ⟨fit 32 [], fit 32 [], [], fit 24 []⟩ =
        .ok share ∧
      Share.decryptShare primitives share.1 share.2 = .ok bundle) ∧
    ¬(¬(Artifact.shareBundle bundle).Supported →
      (Artifact.shareBundle bundle).Rejected primitives) := by
  intro bundle
  constructor
  · obtain ⟨payload, key, hencrypt, hopen⟩ := Share.encryptShare_eq xchachaCorrect kemCorrect bundle
      .xchacha ⟨fit 32 [], fit 32 [], [], fit 24 []⟩
    have hblank : Text.IsBlank "" := by decide
    have hdecrypt : Share.decryptShare primitives (Share.frame .xchacha payload)
        ("" ++ Share.keyBlob .xchacha key ++ "") = .ok bundle := by
      rw [Share.decryptShare_frame hblank hblank, hopen, Outcome.ok_bind,
        primitives.bundleBytes.read_write, Outcome.ofExcept_ok]
    rw [String.empty_append, String.append_empty] at hdecrypt
    exact ⟨_, hencrypt, hdecrypt⟩
  · intro h
    exact Artifact.not_rejected_shareBundle xchachaCorrect bundle
      (h (show ¬(2 : UInt8) = 1 by decide))

end Reference

end PockCore
