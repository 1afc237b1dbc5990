import PockCore.Backup.Exact
import PockCore.Item.Flows
import PockCore.Vault.Calls

/-!
# What opens was sealed

An opener reads fields, offsets and encodings before it comes to a ciphertext that the AEAD
authenticates. It accepts what its sealer writes under the same key, with some nonce, up to what
nothing authenticates: the method of a wrap, and its salt and parameters as far as they do not go
into the key; how an envelope came by its KEM ciphertext; and the wraps of an item but for one.
Backups of the native profile are accepted as well, though none is exported.
-/

namespace PockCore

variable {P : Primitives}

/-! ### Blobs -/

namespace Aead

lemma openAad_eq_ok_iff (hC : P.XchachaCorrect) (hD : P.XchachaTidy) {key : AeadKey}
    {blob aad msg : Bytes} :
    openAad P key blob aad = .ok msg ↔ ∃ nonce, blob = sealAad P key msg aad nonce := by
  rw [openAad_eq_ok]
  constructor
  · rintro ⟨nonce, ct, rfl, hct⟩
    exact ⟨nonce, by rw [sealAad, ← hD _ _ _ _ _ hct]⟩
  · rintro ⟨nonce, rfl⟩
    exact ⟨nonce, _, rfl, hC _ _ _ _⟩

/-- The text is the base64 of a sealed blob. -/
def IsSealed (P : Primitives) (key : AeadKey) (msg : Bytes) (s : String) : Prop :=
  ∃ nonce, s = b64 (sealBlob P key msg nonce)

/-- Decoding and opening accepts the texts of sealed blobs. -/
lemma unb64_openBlob_eq_ok_iff (hC : P.XchachaCorrect) (hD : P.XchachaTidy) {key : AeadKey}
    {s : String} {msg : Bytes} :
    (∃ blob, unb64 P s = .ok blob ∧ openBlob P key blob = .ok msg) ↔ IsSealed P key msg s := by
  constructor
  · rintro ⟨blob, hblob, hopen⟩
    obtain ⟨nonce, rfl⟩ := (openAad_eq_ok_iff hC hD).mp hopen
    exact ⟨nonce, unb64_eq_ok.mp hblob⟩
  · rintro ⟨nonce, rfl⟩
    exact ⟨_, unb64_b64 _, (openAad_eq_ok_iff hC hD).mpr ⟨nonce, rfl⟩⟩

end Aead

/-! ### Wraps -/

/-- The two wraps have one version and one sealed blob. Their methods, salts and parameters may
differ. -/
def WrappedAuk.SameSeal (w w' : WrappedAuk) : Prop := w.v = w'.v ∧ w.blob = w'.blob

namespace Auk

variable {auk : Auk}

lemma unwrapSecret_eq_ok_iff (hC : P.XchachaCorrect) (hD : P.XchachaTidy) {s : String}
    {secret : Bytes} :
    unwrapSecret P auk s = .ok secret ↔ ∃ nonce, s = wrapSecret P auk secret nonce := by
  rw [unwrapSecret, Outcome.bind_eq_ok]
  exact Aead.unb64_openBlob_eq_ok_iff hC hD

lemma unwrapIdentity_eq_ok_iff (hC : P.XchachaCorrect) (hD : P.XchachaTidy) {s : String}
    {id : Identity} :
    unwrapIdentity P auk s = .ok id ↔ ∃ nonce, s = wrapIdentity P auk id nonce := by
  rw [show (∃ nonce, s = wrapIdentity P auk id nonce) ↔
    Aead.IsSealed P auk id.toSecretBytes s from Iff.rfl, ← Aead.unb64_openBlob_eq_ok_iff hC hD]
  simp only [unwrapIdentity, Outcome.bind_eq_ok, Identity.fromSecretBytes_eq_ok]
  constructor
  · rintro ⟨blob, hblob, secret, hsecret, rfl⟩
    exact ⟨blob, hblob, hsecret⟩
  · rintro ⟨blob, hblob, hsecret⟩
    exact ⟨blob, hblob, _, hsecret, rfl⟩

/-- Under a key a wrap opens whatever its method, its salt and its parameters are. -/
lemma unwrapWithKek_eq_ok_iff (hC : P.XchachaCorrect) (hD : P.XchachaTidy) {w : WrappedAuk}
    {kek : ByteArr 32} (method : String) :
    unwrapWithKek P w kek = .ok auk ↔
      ∃ nonce, w.SameSeal (wrapWithKek P auk kek method nonce) := by
  rw [unwrapWithKek_eq_ok]
  constructor
  · rintro ⟨hv, blob, hblob, hopen⟩
    obtain ⟨nonce, rfl⟩ := (Aead.openAad_eq_ok_iff hC hD).mp hopen
    exact ⟨nonce, hv, hblob⟩
  · rintro ⟨nonce, hv, hblob⟩
    exact ⟨hv, _, hblob, Aead.openBlob_sealBlob hC _ _ _⟩

/-- The passphrase route derives the key from the salt and the profile that it reads. -/
lemma unwrapWithPassphrase_eq_ok_iff (hC : P.XchachaCorrect) (hD : P.XchachaTidy)
    {w : WrappedAuk} {passphrase : Bytes} {secretKey : SecretKey} (method : String) :
    unwrapWithPassphrase P w passphrase secretKey = .ok auk ↔ ∃ salt kek nonce, w.salt = b64 salt ∧
      derivePassphraseKek P passphrase salt secretKey w.profile = .ok kek ∧
        w.SameSeal (wrapWithKek P auk kek method nonce) := by
  simp only [unwrapWithPassphrase_eq_ok, unwrapWithKek_eq_ok_iff hC hD method, unb64_eq_ok]
  constructor
  · rintro ⟨salt, kek, hsalt, hkek, nonce, hw⟩
    exact ⟨salt, kek, nonce, hsalt, hkek, hw⟩
  · rintro ⟨salt, kek, nonce, hsalt, hkek, hw⟩
    exact ⟨salt, kek, hsalt, hkek, nonce, hw⟩

/-- With a salt of the length that is drawn, version and blob are those of a wrap that the sealer
makes. -/
lemma unwrapWithPassphrase_eq_ok_iff_wrap (hC : P.XchachaCorrect) (hD : P.XchachaTidy)
    {w : WrappedAuk} {salt : ByteArr 16} (hsalt : w.salt = b64 salt.toList) {passphrase : Bytes}
    {secretKey : SecretKey} :
    unwrapWithPassphrase P w passphrase secretKey = .ok auk ↔ ∃ nonce w',
      wrapWithPassphrase P auk passphrase secretKey w.profile salt nonce = .ok w' ∧
        w.SameSeal w' := by
  rw [unwrapWithPassphrase_eq_ok_iff hC hD "passphrase"]
  constructor
  · rintro ⟨salt', kek, nonce, hsalt', hkek, hw⟩
    obtain rfl : salt.toList = salt' := b64_injective P (hsalt.symm.trans hsalt')
    exact ⟨nonce, _, wrapWithPassphrase_eq_ok.mpr ⟨kek, hkek, rfl⟩, hw⟩
  · rintro ⟨nonce, w', hw', hw⟩
    obtain ⟨kek, hkek, rfl⟩ := wrapWithPassphrase_eq_ok.mp hw'
    exact ⟨salt.toList, kek, nonce, hsalt, hkek, hw⟩

end Auk

/-! ### Items -/

namespace Envelope

variable {env : Envelope} {secret : KemSecret} {msg : Bytes}

/-- The envelope is of the one version, and its blob is the message sealed under the key of what
the secret makes of the KEM ciphertext. -/
def SealsFor (P : Primitives) (env : Envelope) (secret : KemSecret) (msg : Bytes) : Prop :=
  env.v = 1 ∧ ∃ ct, env.kemCt = b64 (KemCiphertext.asBytes ct) ∧
    Aead.IsSealed P (key P (secret.decapsulate P ct) ct) msg env.aead

lemma openWith_eq_ok_iff (hC : P.XchachaCorrect) (hD : P.XchachaTidy) :
    openWith P secret env = .ok msg ↔ env.SealsFor P secret msg := by
  unfold openWith SealsFor
  by_cases hv : env.v = 1
  · simp only [if_neg (not_not.mpr hv), ← Aead.unb64_openBlob_eq_ok_iff hC hD]
    simp [hv, Outcome.bind_eq_ok, KemCiphertext.fromBytes_eq_ok]
  · simp [hv]

/-- An envelope with a KEM ciphertext that was made for the secret opens if it was sealed to it, and
only then. -/
lemma openWith_eq_ok_iff_sealTo (hC : P.XchachaCorrect) (hD : P.XchachaTidy)
    (hK : P.KemCorrect) {coins : Bytes}
    (hct : env.kemCt = b64 ((secret.encapsulationKey P).encapsulate coins).1.asBytes) :
    openWith P secret env = .ok msg ↔
      ∃ nonce, env = sealTo P (secret.encapsulationKey P) msg coins nonce := by
  constructor
  · intro hopen
    obtain ⟨hv, ct, hct', nonce, haead⟩ := (openWith_eq_ok_iff hC hD).mp hopen
    obtain rfl : ct = _ := ByteArr.ext (b64_injective P (hct'.symm.trans hct))
    have hshared : secret.decapsulate P ((secret.encapsulationKey P).encapsulate coins).1 =
        ((secret.encapsulationKey P).encapsulate coins).2 := hK secret coins
    rw [hshared] at haead
    obtain ⟨v, kemCt, aead⟩ := env
    obtain rfl : v = 1 := hv
    subst hct haead
    exact ⟨nonce, rfl⟩
  · rintro ⟨nonce, rfl⟩
    exact openWith_sealTo hC hK secret msg coins nonce

end Envelope

namespace Item

variable {item : EncryptedItem} {secret : KemSecret} {pk : KemPublic P}

/-- The first wrap for the public key is an envelope of the data key for the secret. -/
def DekFor (item : EncryptedItem) (secret : KemSecret) (pk : KemPublic P) (dek : AeadKey) : Prop :=
  ∃ w, (item.wrappedDeks.find? fun w => w.recipient = recipientId pk) = some w ∧
    w.env.SealsFor P secret dek.toList

lemma recoverDek_eq_ok_iff (hC : P.XchachaCorrect) (hD : P.XchachaTidy) {dek : AeadKey} :
    recoverDek item secret pk = .ok dek ↔ item.v = 1 ∧ DekFor item secret pk dek := by
  unfold recoverDek DekFor
  by_cases hv : item.v = 1
  · simp only [if_neg (not_not.mpr hv), Outcome.bind_eq_ok, Outcome.okOr_eq_ok,
      Bytes.tryInto_eq_some, Envelope.openWith_eq_ok_iff hC hD]
    simp [hv]
  · simp [hv]

lemma decryptItem_eq_ok_iff (hC : P.XchachaCorrect) (hD : P.XchachaTidy) {value : Bytes} :
    decryptItem item secret pk = .ok value ↔ item.v = 1 ∧ ∃ dek, DekFor item secret pk dek ∧
      Aead.IsSealed P dek value item.ciphertext := by
  simp only [decryptItem, Outcome.bind_eq_ok, recoverDek_eq_ok_iff hC hD,
    ← Aead.unb64_openBlob_eq_ok_iff hC hD]
  constructor
  · rintro ⟨dek, ⟨hv, hdek⟩, hopen⟩
    exact ⟨hv, dek, hdek, hopen⟩
  · rintro ⟨hv, dek, hdek, hopen⟩
    exact ⟨dek, ⟨hv, hdek⟩, hopen⟩

end Item

/-! ### Every opener -/

/-- What each opener accepts, and what it makes of it. -/
structure OpensSealed (P : Primitives) : Prop where
  symmetric : ∀ keyB64 blob aad plaintext, Flows.openSymmetric P keyB64 blob aad = .ok plaintext ↔
    ∃ nonce, Flows.sealSymmetric P keyB64 plaintext aad nonce = .ok blob
  secret : ∀ auk s secret, Auk.unwrapSecret P auk s = .ok secret ↔
    ∃ nonce, s = Auk.wrapSecret P auk secret nonce
  identity : ∀ auk s id, Auk.unwrapIdentity P auk s = .ok id ↔
    ∃ nonce, s = Auk.wrapIdentity P auk id nonce
  /-- The method, the salt and the parameters do not matter. -/
  wrap : ∀ w kek auk method, Auk.unwrapWithKek P w kek = .ok auk ↔
    ∃ nonce, w.SameSeal (Auk.wrapWithKek P auk kek method nonce)
  /-- The method does not matter, and the parameters as far as they are read as one profile. -/
  passphraseWrap : ∀ w passphrase secretKey auk method,
    Auk.unwrapWithPassphrase P w passphrase secretKey = .ok auk ↔ ∃ salt kek nonce,
      w.salt = b64 salt ∧
      Auk.derivePassphraseKek P passphrase salt secretKey w.profile = .ok kek ∧
        w.SameSeal (Auk.wrapWithKek P auk kek method nonce)
  /-- So it is with the wraps that are made, whose salts have sixteen bytes. -/
  saltedWrap : ∀ w (salt : ByteArr 16) passphrase secretKey auk, w.salt = b64 salt.toList →
    (Auk.unwrapWithPassphrase P w passphrase secretKey = .ok auk ↔ ∃ nonce w',
      Auk.wrapWithPassphrase P auk passphrase secretKey w.profile salt nonce = .ok w' ∧
        w.SameSeal w')
  /-- Any bytes of the right number are a KEM ciphertext. -/
  envelope : ∀ env secret msg, Envelope.openWith P secret env = .ok msg ↔
    env.SealsFor P secret msg
  /-- With one that was made for the secret, the envelope was sealed to it. -/
  honestEnvelope : ∀ env (secret : KemSecret) msg coins,
    env.kemCt = b64 ((secret.encapsulationKey P).encapsulate coins).1.asBytes →
    (Envelope.openWith P secret env = .ok msg ↔
      ∃ nonce, env = Envelope.sealTo P (secret.encapsulationKey P) msg coins nonce)
  /-- Of the wraps for the key only the first one counts. -/
  item : ∀ json secretB64 value, Flows.decryptItem P json secretB64 = .ok value ↔
    ∃ item, P.itemJson.read json = .ok item ∧ item.v = 1 ∧
      ∃ id : Identity, secretB64 = b64 id.toSecretBytes ∧
        ∃ dek, Item.DekFor item id.kem (id.public P).kem dek ∧
          Aead.IsSealed P dek (Bytes.ofString value) item.ciphertext
  /-- The files of the native profile are opened and not made. -/
  backup : ∀ data passphrase json, Flows.importBackup P data passphrase = .ok json ↔
    (∃ salt nonce, Flows.exportBackup P json passphrase salt nonce = .ok data) ∨
      ∃ f : BackupFile, data = f.toBytes ∧ f.profile = .native ∧ ∃ kek nonce,
        f.HasKey P (Bytes.ofString passphrase) kek ∧
          f.blob = Aead.sealBlob P kek (Bytes.ofString json) nonce

theorem opensSealed (hC : P.XchachaCorrect) (hD : P.XchachaTidy) (hT : P.XchachaTagged)
    (hK : P.KemCorrect) : OpensSealed P where
  symmetric keyB64 blob aad plaintext := by
    simp only [Flows.openSymmetric, Flows.sealSymmetric, Outcome.bind_eq_ok, Outcome.mapErr_eq_ok,
      Aead.openAad_eq_ok_iff hC hD, Outcome.ok.injEq]
    constructor
    · rintro ⟨key, hkey, nonce, rfl⟩
      exact ⟨nonce, key, hkey, rfl⟩
    · rintro ⟨nonce, key, hkey, rfl⟩
      exact ⟨key, hkey, nonce, rfl⟩
  secret _ _ _ := Auk.unwrapSecret_eq_ok_iff hC hD
  identity _ _ _ := Auk.unwrapIdentity_eq_ok_iff hC hD
  wrap _ _ _ method := Auk.unwrapWithKek_eq_ok_iff hC hD method
  passphraseWrap _ _ _ _ method := Auk.unwrapWithPassphrase_eq_ok_iff hC hD method
  saltedWrap _ _ _ _ _ hsalt := Auk.unwrapWithPassphrase_eq_ok_iff_wrap hC hD hsalt
  envelope _ _ _ := Envelope.openWith_eq_ok_iff hC hD
  honestEnvelope _ _ _ _ hct := Envelope.openWith_eq_ok_iff_sealTo hC hD hK hct
  item json secretB64 value := by
    simp only [Flows.decryptItem, Outcome.bind_eq_ok, Outcome.ofExcept_eq_ok, Outcome.okOr_eq_ok,
      Bytes.toString?_eq_some, Flows.unb64_eq_ok, Identity.fromSecretBytes_eq_ok,
      Item.decryptItem_eq_ok_iff hC hD]
    constructor
    · rintro ⟨item, hitem, secret, rfl, id, rfl, plaintext, ⟨hv, hdek⟩, rfl⟩
      exact ⟨item, hitem, hv, id, rfl, hdek⟩
    · rintro ⟨item, hitem, hv, id, rfl, hdek⟩
      exact ⟨item, hitem, _, rfl, id, rfl, _, ⟨hv, hdek⟩, rfl⟩
  backup data passphrase json := by
    simp only [Flows.importBackup, Flows.exportBackup, Outcome.bind_eq_ok, Outcome.mapErr_eq_ok,
      Outcome.okOr_eq_ok, Bytes.toString?_eq_some, Backup.importBackup_eq_ok hT,
      Backup.exportBackup_eq_ok, BackupFile.OpensTo, Aead.openBlob,
      Aead.openAad_eq_ok_iff hC hD]
    constructor
    · rintro ⟨pt, ⟨⟨salt, profile, blob⟩, rfl, kek, hkek, nonce, hblob⟩, rfl⟩
      obtain rfl : blob = Aead.sealBlob P kek (Bytes.ofString json) nonce := hblob
      cases profile with
      | native => exact .inr ⟨_, rfl, rfl, kek, nonce, hkek, rfl⟩
      | constrained => exact .inl ⟨salt, nonce, kek, hkek, rfl⟩
    · rintro (⟨salt, nonce, kek, hkek, rfl⟩ | ⟨f, rfl, -, kek, nonce, hkek, hblob⟩)
      · exact ⟨_, ⟨_, rfl, kek, hkek, nonce, rfl⟩, rfl⟩
      · exact ⟨_, ⟨f, rfl, kek, hkek, nonce, hblob⟩, rfl⟩

theorem Reference.opensSealed_primitives : OpensSealed primitives :=
  opensSealed xchachaCorrect xchachaTidy xchachaTagged kemCorrect

end PockCore
