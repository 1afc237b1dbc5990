import PockCore.Item.Basic
import PockCore.Vault.Flows

/-!
# Flows of an identity and of a symmetric key

The flows of the module `flows` that use an identity outside of its vault, to read items and to
sign messages, and those that use a symmetric key. An identity is handed over as the base64 text of
its secret bytes.
-/

namespace PockCore

namespace Flows

variable (P : Primitives)

/-- What `generate_identity` returns as JSON. -/
structure GeneratedIdentity where
  secretB64 : String
  «public» : PublicIdentityBlob

/-- The two seeds are drawn. -/
def generateIdentity (signSeed kemSeed : ByteArr 32) : GeneratedIdentity :=
  let id := Identity.generate signSeed kemSeed
  { secretB64 := b64 id.toSecretBytes, «public» := (id.public P).toBlob }

/-! ### Items -/

/-- The encapsulation keys of the recipients; the first blob that is not valid stops the flow. -/
def readRecipients : List PublicIdentityBlob → Result (List (KemPublic P))
  | [] => .ok []
  | b :: blobs => do
    let pubid ← PublicIdentity.fromBlob P b
    let recipients ← readRecipients blobs
    .ok (pubid.kem :: recipients)

def encryptItem (value recipientPubBlobsJson : String) (dek : AeadKey) (nonce : Nonce)
    (draws : ℕ → Item.WrapDraws) : Result String := do
  let blobs ← Outcome.ofExcept .json (P.pubBlobsJson.read recipientPubBlobsJson)
  let recipients ← readRecipients P blobs
  let item ← Item.encryptItem (Bytes.ofString value) recipients dek nonce draws
  .ok (P.itemJson.write item)

def decryptItem (itemJson identitySecretB64 : String) : Result String := do
  let item ← Outcome.ofExcept .json (P.itemJson.read itemJson)
  let secret ← unb64 P identitySecretB64
  let id ← Identity.fromSecretBytes secret
  let pubKem := (id.public P).kem
  let plaintext ← Item.decryptItem item id.kem pubKem
  Outcome.okOr (.flow (P.fromUtf8Error plaintext)) (Bytes.toString? plaintext)

/-! ### Messages -/

def signMessage (identitySecretB64 : String) (msg : Bytes) : Result String := do
  let secret ← unb64 P identitySecretB64
  let id ← Identity.fromSecretBytes secret
  .ok (b64 (id.sign.sign P msg).toList)

/-- A signature that does not verify is a result, not an error. -/
def verifyMessage (signPubkeyB64 : String) (msg : Bytes) (sigB64 : String) : Result Bool := do
  let pkBytes ← unb64 P signPubkeyB64
  let pkArr ← Outcome.okOr (.flow "bad sign pubkey length") (Bytes.tryInto 32 pkBytes)
  let sigBytes ← unb64 P sigB64
  let sigArr ← Outcome.okOr (.flow "bad signature length") (Bytes.tryInto 64 sigBytes)
  match SignPublic.verify P pkArr msg sigArr with
  | .ok _ => .ok true
  | .err _ => .ok false
  | .panic => .panic

/-- The bytes that the signature of a chat message covers. -/
def messageDigest (aad ct : Bytes) : Bytes := (P.sha256 (aad ++ ct)).toList

/-! ### Symmetric keys -/

/-- The key is drawn. -/
def generateSymmetricKey (key : AeadKey) : String := b64 key.toList

def aeadKey (keyB64 : String) : Result AeadKey := do
  let kb ← unb64 P keyB64
  Outcome.okOr (.flow "bad symmetric key length") (Bytes.tryInto 32 kb)

def sealSymmetric (keyB64 : String) (plaintext aad : Bytes) (nonce : Nonce) : Result Bytes := do
  let key ← aeadKey P keyB64
  .ok (Aead.sealAad P key plaintext aad nonce)

def openSymmetric (keyB64 : String) (blob aad : Bytes) : Result Bytes := do
  let key ← aeadKey P keyB64
  (Aead.openAad P key blob aad).mapErr fun _ => .flow "decrypt failed (wrong key or tampered)"

variable {P}

/-! ### What the flows return -/

/-- An honest signature verifies under the public key of the seed. -/
lemma verifyMessage_sign (hE : P.Ed25519Correct) (seed : SignSecret) (msg : Bytes) :
    verifyMessage P (b64 (seed.public P).toList) msg (b64 (seed.sign P msg).toList) =
      .ok true := by
  obtain ⟨vk, hvk, hverify⟩ := hE seed
  have hok : SignPublic.verify P (seed.public P) msg (seed.sign P msg) = .ok () := by
    rw [SignPublic.verify, SignSecret.public, hvk, Outcome.okOr_some, Outcome.ok_bind,
      SignSecret.sign, hverify, if_pos rfl]
  simp only [verifyMessage, unb64_of_b64, Outcome.ok_bind, Bytes.tryInto_toList,
    Outcome.okOr_some, hok]

lemma signMessage_eq (id : Identity) (msg : Bytes) :
    signMessage P (b64 id.toSecretBytes) msg = .ok (b64 (id.sign.sign P msg).toList) := by
  rw [signMessage, unb64_of_b64, Outcome.ok_bind, Identity.fromSecretBytes_toSecretBytes,
    Outcome.ok_bind]

/-- The recipients are those of the blobs, one for one. -/
lemma mem_readRecipients {blobs : List PublicIdentityBlob} {recipients : List (KemPublic P)}
    (h : readRecipients P blobs = .ok recipients) {b : PublicIdentityBlob} (hb : b ∈ blobs) :
    ∃ pubid, PublicIdentity.fromBlob P b = .ok pubid ∧ pubid.kem ∈ recipients := by
  induction blobs generalizing recipients with
  | nil => simp at hb
  | cons b' blobs ih =>
    simp only [readRecipients, Outcome.bind_eq_ok, Outcome.ok.injEq] at h
    obtain ⟨pubid, hpubid, rest, hrest, rfl⟩ := h
    rcases List.mem_cons.mp hb with rfl | hb
    · exact ⟨pubid, hpubid, List.mem_cons_self⟩
    · obtain ⟨pubid', hpubid', hmem⟩ := ih hrest hb
      exact ⟨pubid', hpubid', List.mem_cons_of_mem _ hmem⟩

/-- Valid blobs are all read. -/
lemma exists_readRecipients {blobs : List PublicIdentityBlob}
    (h : ∀ b ∈ blobs, ∃ pubid, PublicIdentity.fromBlob P b = .ok pubid) :
    ∃ recipients, readRecipients P blobs = .ok recipients := by
  induction blobs with
  | nil => exact ⟨[], rfl⟩
  | cons b blobs ih =>
    obtain ⟨pubid, hpubid⟩ := h b List.mem_cons_self
    obtain ⟨recipients, hrecipients⟩ := ih fun b hb => h b (List.mem_cons_of_mem _ hb)
    exact ⟨pubid.kem :: recipients, by simp [readRecipients, hpubid, hrecipients]⟩

/-- The item of the flow is one for the recipients of its list. -/
lemma encryptItem_eq_ok {value json itemJson : String} {dek : AeadKey} {nonce : Nonce}
    {draws : ℕ → Item.WrapDraws} :
    encryptItem P value json dek nonce draws = .ok itemJson ↔
      ∃ blobs recipients item, P.pubBlobsJson.read json = .ok blobs ∧
        readRecipients P blobs = .ok recipients ∧
        Item.encryptItem (Bytes.ofString value) recipients dek nonce draws = .ok item ∧
        itemJson = P.itemJson.write item := by
  simp only [encryptItem, Outcome.bind_eq_ok, Outcome.ofExcept_eq_ok, Outcome.ok.injEq]
  constructor
  · rintro ⟨blobs, hblobs, recipients, hrecipients, item, hitem, rfl⟩
    exact ⟨blobs, recipients, item, hblobs, hrecipients, hitem, rfl⟩
  · rintro ⟨blobs, recipients, item, hblobs, hrecipients, hitem, rfl⟩
    exact ⟨blobs, hblobs, recipients, hrecipients, item, hitem, rfl⟩

/-- An identity reads an item with its own pair of keys. -/
lemma decryptItem_write (item : EncryptedItem) (id : Identity) :
    decryptItem P (P.itemJson.write item) (b64 id.toSecretBytes) =
      Item.decryptItem item id.kem (KemSecret.encapsulationKey P id.kem) >>= fun plaintext =>
        Outcome.okOr (.flow (P.fromUtf8Error plaintext)) (Bytes.toString? plaintext) := by
  simp only [decryptItem, P.itemJson.read_write, Outcome.ofExcept_ok, Outcome.ok_bind, unb64_of_b64,
    Identity.fromSecretBytes_toSecretBytes]
  rfl

end Flows

end PockCore
