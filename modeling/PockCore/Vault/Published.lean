import PockCore.Item.Access
import PockCore.Vault.MasterKey

/-!
# The published keys of an account

The public half of an identity is handed out when the identity is made, and its secret half is
sealed. What is published belongs to what the vault opens to, so messages signed with the one
verify under the other, and items encrypted to the one are read with the other.
-/

namespace PockCore

variable {P : Primitives} {I : Set KekInput}

/-! ### Items for a list of blobs -/

namespace Flows

variable {value json itemJson : String} {blobs : List PublicIdentityBlob} {dek : AeadKey}
  {nonce : Nonce} {draws : ℕ → Item.WrapDraws} {id : Identity}

/-- An item is read by the identity of every blob of its list. -/
lemma decryptItem_encryptItem (hC : P.XchachaCorrect) (hK : P.KemCorrect)
    (hR : P.KemKeyRoundTrip) (hread : P.pubBlobsJson.read json = .ok blobs)
    (hmem : (id.public P).toBlob ∈ blobs)
    (h : encryptItem P value json dek nonce draws = .ok itemJson) :
    decryptItem P itemJson (b64 id.toSecretBytes) = .ok value := by
  obtain ⟨blobs', recipients, item, hread', hrecipients, hitem, rfl⟩ := encryptItem_eq_ok.mp h
  obtain rfl : blobs = blobs' := Except.ok.inj (hread.symm.trans hread')
  obtain ⟨pubid, hpubid, hrecipient⟩ := mem_readRecipients hrecipients hmem
  rw [PublicIdentity.fromBlob_toBlob hR, Outcome.ok.injEq] at hpubid
  subst hpubid
  have hinv := (Item.Shared.Inv.init hitem).2
  rw [decryptItem_write, hinv.decryptItem_of_mem hC hK hR hrecipient, Outcome.ok_bind,
    Bytes.toString?_ofString, Outcome.okOr_some]

/-- Every text can be encrypted to valid blobs, if there is one. -/
lemma exists_encryptItem (hread : P.pubBlobsJson.read json = .ok blobs) (hne : blobs ≠ [])
    (hvalid : ∀ b ∈ blobs, ∃ pubid, PublicIdentity.fromBlob P b = .ok pubid) (value : String)
    (dek : AeadKey) (nonce : Nonce) (draws : ℕ → Item.WrapDraws) :
    ∃ itemJson, encryptItem P value json dek nonce draws = .ok itemJson := by
  obtain ⟨recipients, hrecipients⟩ := exists_readRecipients hvalid
  obtain ⟨b, hb⟩ := List.exists_mem_of_ne_nil _ hne
  obtain ⟨pubid, -, hmem⟩ := mem_readRecipients hrecipients hb
  have hnonempty : recipients ≠ [] := List.ne_nil_of_mem hmem
  simp [encryptItem, hread, hrecipients, Item.encryptItem, hnonempty]

end Flows

/-! ### What is published -/

namespace Account

/-- The account publishes the public half of this identity, whose secret half it returned. -/
structure Publishes (P : Primitives) (a : Account) (id : Identity) : Prop where
  identitySecret : a.identitySecretB64 = b64 id.toSecretBytes
  signPubkey : a.signPubkey = b64 (id.public P).sign.toList
  kemPubkey : a.kemPubkey = b64 (id.public P).kem.asBytes

/-- The blob of the published keys. -/
def publicBlob (a : Account) : PublicIdentityBlob where
  v := 1
  sign := a.signPubkey
  kem := a.kemPubkey

namespace Publishes

variable {a : Account} {id : Identity}

lemma publicBlob_eq (h : a.Publishes P id) : a.publicBlob = (id.public P).toBlob := by
  rw [publicBlob, h.signPubkey, h.kemPubkey]
  rfl

lemma created {passphrase profileId : String} {draws : Flows.VaultDraws}
    {out : Flows.CreatedVault}
    (hout : Flows.createVaultProfile P passphrase profileId draws = .ok out) :
    (Account.created P passphrase out).Publishes P
      (Identity.generate draws.signSeed draws.kemSeed) := by
  obtain ⟨profile, w, -, -, rfl⟩ := createVaultProfile_eq_ok hout
  exact ⟨rfl, rfl, rfl⟩

lemma valid (hR : P.KemKeyRoundTrip) (h : a.Publishes P id) :
    ∃ pubid, PublicIdentity.fromBlob P a.publicBlob = .ok pubid := by
  rw [h.publicBlob_eq]
  exact ⟨_, PublicIdentity.fromBlob_toBlob hR _⟩

/-- Every text can be encrypted to what is published. -/
lemma exists_encryptItem (hR : P.KemKeyRoundTrip) (h : a.Publishes P id) (value : String)
    (dek : AeadKey) (nonce : Nonce) (draws : ℕ → Item.WrapDraws) :
    ∃ itemJson, Flows.encryptItem P value (P.pubBlobsJson.write [a.publicBlob]) dek nonce draws =
      .ok itemJson :=
  Flows.exists_encryptItem (P.pubBlobsJson.read_write _) (List.cons_ne_nil _ _)
    (List.forall_mem_singleton.mpr (h.valid hR)) value dek nonce draws

/-- Only a rotation of the identity touches the published keys, and it replaces them all. -/
lemma step (h : a.Publishes P id) (op : Op) : ∃ id', (a.step P op).Publishes P id' := by
  have hsame : ∀ b : Account, b.identitySecretB64 = a.identitySecretB64 →
      b.signPubkey = a.signPubkey → b.kemPubkey = a.kemPubkey → ∃ id', b.Publishes P id' :=
    fun b hsecret hsign hkem => ⟨id, hsecret.trans h.identitySecret, hsign.trans h.signPubkey,
      hkem.trans h.kemPubkey⟩
  cases op with
  | rotateIdentity p sk signSeed kemSeed nonce =>
    simp only [Account.step]
    split
    · rename_i out hout
      obtain ⟨auk, old, -, -, rfl⟩ := Flows.rotateIdentity_eq_ok.mp hout
      exact ⟨Identity.generate signSeed kemSeed, rfl, rfl, rfl⟩
    · exact ⟨id, h⟩
  | amkEnsurePrf i s seed nonce =>
    simp only [Account.step]
    split
    · exact ⟨id, h⟩
    · split <;> exact hsame _ rfl rfl rfl
  | _ =>
    simp only [Account.step]
    split <;> exact hsame _ rfl rfl rfl

lemma of_reachable (h : (machine P I).Reachable a) : ∃ id, a.Publishes P id := by
  refine Machine.Reachable.of_step (p := fun a => ∃ id, a.Publishes P id) ?_ ?_ h
  · rintro a ⟨passphrase, profileId, draws, out, hout, -, rfl⟩
    exact ⟨_, .created hout⟩
  · rintro a op a' ⟨id, hid⟩ ⟨-, rfl⟩
    exact hid.step op

end Publishes

/-! ### What the published keys are good for -/

/-- The assumptions on the primitives that published keys rest on. -/
structure KeysSound (P : Primitives) : Prop where
  correct : P.XchachaCorrect
  commits : P.XchachaCommits
  kem : P.KemCorrect
  ed25519 : P.Ed25519Correct
  roundTrip : P.KemKeyRoundTrip

/-- What was encrypted to the published keys, among others, is read with the secret. -/
def ReadBy (P : Primitives) (a : Account) (identitySecretB64 : String) : Prop :=
  ∀ value json blobs dek nonce draws itemJson, P.pubBlobsJson.read json = .ok blobs →
    a.publicBlob ∈ blobs → Flows.encryptItem P value json dek nonce draws = .ok itemJson →
    Flows.decryptItem P itemJson identitySecretB64 = .ok value

/-- The published keys belong to the identity that the vault opens to. -/
structure KeysMatch (P : Primitives) (I : Set KekInput) (a : Account) : Prop where
  /-- The secret that the other clauses speak of is what the vault opens to. -/
  unlocks : Flows.unlockVault P a.passphrase a.secretKey a.wrappedAukPassphrase
    a.wrappedIdentity = .ok ⟨a.identitySecretB64⟩
  signs : ∀ msg, ∃ sig, Flows.signMessage P a.identitySecretB64 msg = .ok sig ∧
    Flows.verifyMessage P a.signPubkey msg sig = .ok true
  /-- Every text can be encrypted to the published keys, among other valid ones. -/
  encrypts : ∀ value json blobs dek nonce draws, P.pubBlobsJson.read json = .ok blobs →
    (∀ b ∈ blobs, ∃ pubid, PublicIdentity.fromBlob P b = .ok pubid) → a.publicBlob ∈ blobs →
    ∃ itemJson, Flows.encryptItem P value json dek nonce draws = .ok itemJson
  reads : a.ReadBy P a.identitySecretB64
  /-- A rotation returns the blob of the keys that it publishes. -/
  publicBlob : ∀ p sk signSeed kemSeed nonce out,
    Flows.rotateIdentity P p sk a.wrappedAukPassphrase a.wrappedIdentity signSeed kemSeed nonce =
      .ok out →
    out.publicBlob = ⟨1, out.signPubkey, out.kemPubkey⟩ ∧
      (a.step P (.rotateIdentity p sk signSeed kemSeed nonce)).publicBlob = out.publicBlob
  /-- The old secret that a rotation returns reads what was encrypted to the keys before. -/
  oldReads : ∀ p sk signSeed kemSeed nonce out,
    a.inputs P (.rotateIdentity p sk signSeed kemSeed nonce) ⊆ I →
    Flows.rotateIdentity P p sk a.wrappedAukPassphrase a.wrappedIdentity signSeed kemSeed nonce =
      .ok out →
    a.ReadBy P out.oldIdentitySecretB64

lemma Publishes.readBy (hS : KeysSound P) {a : Account} {id : Identity} (h : a.Publishes P id) :
    a.ReadBy P a.identitySecretB64 := by
  intro value json blobs dek nonce draws itemJson hread hmem henc
  rw [h.publicBlob_eq] at hmem
  rw [h.identitySecret]
  exact Flows.decryptItem_encryptItem hS.correct hS.kem hS.roundTrip hread hmem henc

/-- A rotation hands back the secret that the account had. -/
lemma Inv.oldIdentitySecret (hC : P.XchachaCorrect) (hI : KekInput.CollisionFree P I)
    {a : Account} {auk : Auk} {c : Credentials} (h : a.Inv P I auk c) {p sk : String}
    {signSeed kemSeed : ByteArr 32} {nonce : Nonce} {out : Flows.RotatedIdentity}
    (hin : Flows.passphraseInputs P p sk a.wrappedAukPassphrase ⊆ I)
    (hout : Flows.rotateIdentity P p sk a.wrappedAukPassphrase a.wrappedIdentity signSeed kemSeed
      nonce = .ok out) : out.oldIdentitySecretB64 = a.identitySecretB64 := by
  obtain ⟨auk', old, hauk, hold, rfl⟩ := Flows.rotateIdentity_eq_ok.mp hout
  obtain ⟨-, -, rfl⟩ := (h.unlockAuk_eq_ok hI hin).mp hauk
  rw [h.unwrapIdentity hC, Outcome.ok.injEq] at hold
  rw [h.identitySecret, hold]

/-- In every account reached, the published keys belong to the identity that the vault opens to:
its signatures verify, it reads what is encrypted to them, and after a rotation the old secret
still reads what was encrypted before. -/
theorem keysMatch_of_reachable (hS : KeysSound P) (hI : KekInput.CollisionFree P I) {a : Account}
    (h : (machine P I).Reachable a) : a.KeysMatch P I := by
  obtain ⟨c, -, auk, hinv⟩ := (simulates hS.correct hS.commits hI).reachable h
  obtain ⟨id, hid⟩ := Publishes.of_reachable h
  refine ⟨(hinv.routesAgree hS.correct).unlockVault, fun msg => ?_, ?_, hid.readBy hS, ?_, ?_⟩
  · rw [hid.identitySecret, hid.signPubkey]
    exact ⟨_, Flows.signMessage_eq id msg, Flows.verifyMessage_sign hS.ed25519 id.sign msg⟩
  · intro value json blobs dek nonce draws hread hvalid hmem
    exact Flows.exists_encryptItem hread (List.ne_nil_of_mem hmem) hvalid value dek nonce draws
  · intro p sk signSeed kemSeed nonce out hout
    simp only [step, hout]
    obtain ⟨auk', old, -, -, rfl⟩ := Flows.rotateIdentity_eq_ok.mp hout
    exact ⟨rfl, rfl⟩
  · intro p sk signSeed kemSeed nonce out hin hout
    rw [hinv.oldIdentitySecret hS.correct hI hin hout]
    exact hid.readBy hS

end Account

/-! ### The stand-in primitives -/

namespace Reference

lemma keysSound : Account.KeysSound primitives where
  correct := xchachaCorrect
  commits := xchachaCommits
  kem := kemCorrect
  ed25519 := ed25519Correct
  roundTrip := kemKeyRoundTrip

/-- An item for the keys that a new vault publishes is read with the old secret after a rotation,
and one for the new keys with the new secret. -/
theorem decryptItem_rotated : ∃ out rotated old new,
    Flows.createVaultProfile primitives "pw" "constrained" draws = .ok out ∧
      Flows.encryptItem primitives "hi"
        (primitives.pubBlobsJson.write [⟨1, out.signPubkey, out.kemPubkey⟩]) (zeros 32) (zeros 24)
        (fun _ => wrapDraws) = .ok old ∧
      Flows.rotateIdentity primitives "pw" out.secretKey
        (primitives.wrappedAukJson.write out.wrappedAukPassphrase) out.wrappedIdentity (fit 32 [1])
        (fit 32 [1]) (zeros 24) = .ok rotated ∧
      Flows.encryptItem primitives "hi"
        (primitives.pubBlobsJson.write [⟨1, rotated.signPubkey, rotated.kemPubkey⟩]) (zeros 32)
        (zeros 24) (fun _ => wrapDraws) = .ok new ∧
      Flows.decryptItem primitives old rotated.oldIdentitySecretB64 = .ok "hi" ∧
      Flows.decryptItem primitives new rotated.identitySecretB64 = .ok "hi" := by
  obtain ⟨out, hout, hin, hcreated⟩ := exists_created
  have hreach := reachable_created hout hin
  obtain ⟨rotated, hcall, -, hstep, -⟩ := hcreated.rotateIdentity (fit 32 [1]) (fit 32 [1])
  have hkeys := Account.keysMatch_of_reachable keysSound collisionFree_inputs hreach
  have hkeys' := Account.keysMatch_of_reachable keysSound collisionFree_inputs (hreach.step hstep)
  obtain ⟨id, hid⟩ := Account.Publishes.of_reachable hreach
  obtain ⟨id', hid'⟩ := Account.Publishes.of_reachable (hreach.step hstep)
  obtain ⟨old, hold⟩ := hid.exists_encryptItem kemKeyRoundTrip "hi" (zeros 32) (zeros 24)
    fun _ => wrapDraws
  obtain ⟨new, hnew⟩ := hid'.exists_encryptItem kemKeyRoundTrip "hi" (zeros 32) (zeros 24)
    fun _ => wrapDraws
  exact ⟨out, rotated, old, new, hout, hold, hcall, hnew,
    hkeys.oldReads _ _ _ _ _ _ hstep.1 hcall _ _ _ _ _ _ _ (primitives.pubBlobsJson.read_write _)
      List.mem_cons_self hold,
    hkeys'.reads _ _ _ _ _ _ _ (primitives.pubBlobsJson.read_write _) List.mem_cons_self hnew⟩

end Reference

end PockCore
