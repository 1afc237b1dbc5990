import PockCore.Lib.Lockbox
import PockCore.Vault.Flows

/-!
# What opens a wrap

Each unlock method derives a key-encryption key from its own input. Distinct inputs derive
distinct keys as far as the key derivation functions do not collide, so a wrap opens for the
input it was made for and for no other, of the same method or of another one.
-/

namespace PockCore

/-- What a key-encryption key is derived from. -/
inductive KekInput where
  | passphrase (passphrase salt : Bytes) (profile : KdfProfile) (secretKey : SecretKey)
  | recovery (code : Bytes)
  | prf (secret : Bytes)

namespace KekInput

variable (P : Primitives)

def kek : KekInput → Result (ByteArr 32)
  | passphrase pw salt profile secretKey => Auk.derivePassphraseKek P pw salt secretKey profile
  | recovery code => .ok (Kdf.hkdfSha256 P code [] Flows.recoveryInfo)
  | prf secret => .ok (Kdf.hkdfSha256 P secret [] Flows.prfInfo)

/-- The calls of key derivation functions in a derivation. -/
def queries : KekInput → Set Kdf.Query
  | passphrase pw salt profile secretKey =>
    {q | q = .argon2id pw salt profile ∨ ∃ stretched : ByteArr 32,
      Kdf.argon2id P pw salt profile = .ok stretched ∧
        q = .hkdf stretched.toList secretKey.toList Auk.skdInfo}
  | recovery code => {.hkdf code [] Flows.recoveryInfo}
  | prf secret => {.hkdf secret [] Flows.prfInfo}

/-- No two calls in the derivations from `I` collide. -/
def CollisionFree (I : Set KekInput) : Prop :=
  Kdf.CollisionFree P {q | ∃ i ∈ I, q ∈ i.queries P}

/-- The domain separation text of the method. -/
def info : KekInput → Bytes
  | passphrase .. => Auk.skdInfo
  | recovery _ => Flows.recoveryInfo
  | prf _ => Flows.prfInfo

variable {P}

lemma skdInfo_ne_recoveryInfo : Auk.skdInfo ≠ Flows.recoveryInfo :=
  fun h => absurd (Bytes.ofString_injective h) (by decide)

lemma skdInfo_ne_prfInfo : Auk.skdInfo ≠ Flows.prfInfo :=
  fun h => absurd (Bytes.ofString_injective h) (by decide)

lemma recoveryInfo_ne_prfInfo : Flows.recoveryInfo ≠ Flows.prfInfo :=
  fun h => absurd (Bytes.ofString_injective h) (by decide)

lemma kek_passphrase_eq_ok {pw salt : Bytes} {profile : KdfProfile} {secretKey : SecretKey}
    {k : ByteArr 32} :
    (passphrase pw salt profile secretKey).kek P = .ok k ↔
      ∃ stretched, Kdf.argon2id P pw salt profile = .ok stretched ∧
        Kdf.hkdfSha256 P stretched.toList secretKey.toList Auk.skdInfo = k := by
  simp [kek, Auk.derivePassphraseKek, Outcome.bind_eq_ok]

/-- A key-encryption key is an HKDF output, under the domain separation text of its method. -/
lemma exists_hkdf {i : KekInput} {k : ByteArr 32} (h : i.kek P = .ok k) :
    ∃ ikm salt, .hkdf ikm salt i.info ∈ i.queries P ∧ Kdf.hkdfSha256 P ikm salt i.info = k := by
  cases i with
  | passphrase pw salt profile secretKey =>
    obtain ⟨stretched, hs, hk⟩ := kek_passphrase_eq_ok.mp h
    exact ⟨_, _, .inr ⟨stretched, hs, rfl⟩, hk⟩
  | recovery code => exact ⟨code, [], rfl, Outcome.ok.inj h⟩
  | prf secret => exact ⟨secret, [], rfl, Outcome.ok.inj h⟩

/-- Distinct inputs derive distinct keys, across the methods as well. -/
theorem deriveInj {I : Set KekInput} (hI : CollisionFree P I) :
    Lockbox.DeriveInj (kek P) I := by
  intro i hi j hj k hik hjk
  have mem : ∀ {i' : KekInput}, i' ∈ I → ∀ q ∈ i'.queries P,
      q ∈ {q | ∃ i ∈ I, q ∈ i.queries P} := fun h q hq => ⟨_, h, hq⟩
  obtain ⟨ikm, salt, hq, hk⟩ := exists_hkdf hik
  obtain ⟨ikm', salt', hq', hk'⟩ := exists_hkdf hjk
  obtain ⟨-, -, hinfo⟩ := hI.hkdf (mem hi _ hq) (mem hj _ hq') (hk.trans hk'.symm)
  cases i with
  | passphrase pw s prof sk =>
    cases j with
    | passphrase pw' s' prof' sk' =>
      obtain ⟨d, hd, hdk⟩ := kek_passphrase_eq_ok.mp hik
      obtain ⟨d', hd', hdk'⟩ := kek_passphrase_eq_ok.mp hjk
      obtain ⟨hdd, hsk, -⟩ := hI.hkdf (mem hi _ (.inr ⟨d, hd, rfl⟩))
        (mem hj _ (.inr ⟨d', hd', rfl⟩)) (hdk.trans hdk'.symm)
      rw [ByteArr.toList_inj] at hdd hsk
      subst hdd hsk
      obtain ⟨rfl, rfl, rfl⟩ := hI.argon2id (mem hi _ (.inl rfl)) (mem hj _ (.inl rfl)) hd hd'
      rfl
    | recovery code => exact absurd hinfo skdInfo_ne_recoveryInfo
    | prf secret => exact absurd hinfo skdInfo_ne_prfInfo
  | recovery code =>
    cases j with
    | passphrase pw' s' prof' sk' => exact absurd hinfo.symm skdInfo_ne_recoveryInfo
    | recovery code' =>
      obtain ⟨rfl, -⟩ := hI.hkdf (mem hi _ rfl) (mem hj _ rfl)
        ((Outcome.ok.inj hik).trans (Outcome.ok.inj hjk).symm)
      rfl
    | prf secret => exact absurd hinfo recoveryInfo_ne_prfInfo
  | prf secret =>
    cases j with
    | passphrase pw' s' prof' sk' => exact absurd hinfo.symm skdInfo_ne_prfInfo
    | recovery code => exact absurd hinfo.symm recoveryInfo_ne_prfInfo
    | prf secret' =>
      obtain ⟨rfl, -⟩ := hI.hkdf (mem hi _ rfl) (mem hj _ rfl)
        ((Outcome.ok.inj hik).trans (Outcome.ok.inj hjk).symm)
      rfl

end KekInput

/-! ### Opening a wrap -/

/-- The text of a wrap, read and opened with a key-encryption key. -/
def openWrap (P : Primitives) (json : String) (kek : ByteArr 32) : Result Auk := do
  let w ← Flows.readWrappedAuk P json
  Auk.unwrapWithKek P w kek

/-- The wrap opens to the AUK for this input. -/
abbrev Opens (P : Primitives) (json : String) (i : KekInput) (auk : Auk) : Prop :=
  Lockbox.Opens (KekInput.kek P) (openWrap P) json i auk

/-- The wrap was made for this input, one of `I`. -/
abbrev Wraps (P : Primitives) (I : Set KekInput) (json : String) (i : KekInput) (auk : Auk) :
    Prop :=
  Lockbox.Holds (KekInput.kek P) (openWrap P) I json i auk

variable {P : Primitives}

@[simp] lemma readWrappedAuk_write (w : WrappedAuk) :
    Flows.readWrappedAuk P (P.wrappedAukJson.write w) = .ok w := by
  rw [Flows.readWrappedAuk, P.wrappedAukJson.read_write, Outcome.ofExcept_ok]

namespace Auk

lemma unwrapWithKek_eq_ok {w : WrappedAuk} {kek : ByteArr 32} {auk : Auk} :
    unwrapWithKek P w kek = .ok auk ↔
      w.v = 1 ∧ ∃ blob, w.blob = b64 blob ∧ Aead.openBlob P kek blob = .ok auk.toList := by
  unfold unwrapWithKek
  by_cases hv : w.v = 1
  · simp [hv, Outcome.bind_eq_ok, Bytes.tryInto_eq_some]
  · simp [hv]

/-- The passphrase route derives the key from the recorded salt and profile. -/
lemma unwrapWithPassphrase_eq_ok {w : WrappedAuk} {passphrase : Bytes} {secretKey : SecretKey}
    {auk : Auk} :
    unwrapWithPassphrase P w passphrase secretKey = .ok auk ↔
      ∃ salt kek, unb64 P w.salt = .ok salt ∧
        (KekInput.passphrase passphrase salt w.profile secretKey).kek P = .ok kek ∧
        unwrapWithKek P w kek = .ok auk := by
  unfold unwrapWithPassphrase
  by_cases hv : w.v = 1
  · simp [unwrapWithKek_eq_ok, hv, Outcome.bind_eq_ok, Bytes.tryInto_eq_some, KekInput.kek]
  · simp [unwrapWithKek_eq_ok, hv]

lemma wrapWithPassphrase_eq_ok {auk : Auk} {passphrase : Bytes} {secretKey : SecretKey}
    {profile : KdfProfile} {salt : ByteArr 16} {nonce : Nonce} {w : WrappedAuk} :
    wrapWithPassphrase P auk passphrase secretKey profile salt nonce = .ok w ↔
      ∃ kek, (KekInput.passphrase passphrase salt.toList profile secretKey).kek P = .ok kek ∧
        w = { v := 1, method := "passphrase", salt := b64 salt.toList, mKib := profile.params.1,
              t := profile.params.2.1, p := profile.params.2.2,
              blob := b64 (Aead.sealBlob P kek auk.toList nonce) } := by
  simp only [wrapWithPassphrase, Outcome.bind_eq_ok, Outcome.expect_eq_ok, KekInput.kek,
    Outcome.ok.injEq]
  constructor
  · rintro ⟨kek, hkek, rfl⟩
    exact ⟨kek, hkek, rfl⟩
  · rintro ⟨kek, hkek, rfl⟩
    exact ⟨kek, hkek, rfl⟩

/-- The recorded parameters of a new wrap are read as the profile it was made with. -/
lemma profile_of_params {w : WrappedAuk} {profile : KdfProfile}
    (h : (w.mKib, w.t, w.p) = profile.params) : w.profile = profile := by
  rw [WrappedAuk.profile, h]
  cases profile with
  | native => rfl
  | constrained => rfl

end Auk

/-- A wrap opens with the key it was sealed under and with no other. -/
lemma locked_write (hC : P.XchachaCorrect) (hK : P.XchachaCommits) {w : WrappedAuk}
    {kek : ByteArr 32} {auk : Auk} {nonce : Nonce} (hv : w.v = 1)
    (hb : w.blob = b64 (Aead.sealBlob P kek auk.toList nonce)) :
    Lockbox.Locked (openWrap P) (P.wrappedAukJson.write w) kek auk := by
  intro kek' auk'
  rw [openWrap, readWrappedAuk_write, Outcome.ok_bind, Auk.unwrapWithKek_eq_ok]
  constructor
  · rintro ⟨-, blob, hblob, ho⟩
    rw [hb] at hblob
    obtain rfl := P.urlSafeNoPad.encode_injective hblob
    by_cases hne : kek' = kek
    · subst hne
      rw [Aead.openBlob_sealBlob hC, Outcome.ok.injEq, ByteArr.toList_inj] at ho
      exact ⟨rfl, ho.symm⟩
    · rw [Aead.openBlob_sealBlob_of_ne hK hne] at ho
      cases ho
  · rintro ⟨rfl, rfl⟩
    exact ⟨hv, _, hb, Aead.openBlob_sealBlob hC _ _ _⟩

/-! ### The inputs of a call -/

namespace Flows

/-- What the passphrase route derives a key from, for the wrap it is given. -/
def passphraseInputs (P : Primitives) (passphrase secretKeyB64 json : String) : Set KekInput :=
  {i | ∃ w secretKey salt, readWrappedAuk P json = .ok w ∧ parseSk P secretKeyB64 = .ok secretKey ∧
    PockCore.unb64 P w.salt = .ok salt ∧
    i = .passphrase (Bytes.ofString passphrase) salt w.profile secretKey}

/-- What the recovery route derives a key from. -/
def recoveryInput (recoveryCode : String) : KekInput :=
  .recovery (Bytes.ofString (Text.trim recoveryCode))

/-- What the passkey route derives a key from. -/
def prfInputs (P : Primitives) (prfSecretB64 : String) : Set KekInput :=
  {i | ∃ secret, unb64 P prfSecretB64 = .ok secret ∧ i = .prf secret}

variable {passphrase secretKeyB64 json wid : String} {auk : Auk}

lemma parseSk_eq_ok {secretKey : SecretKey} :
    parseSk P secretKeyB64 = .ok secretKey ↔ secretKeyB64 = b64 secretKey.toList := by
  simp [parseSk, Outcome.bind_eq_ok, Bytes.tryInto_eq_some]

@[simp] lemma parseSk_b64 (secretKey : SecretKey) :
    parseSk P (b64 secretKey.toList) = .ok secretKey :=
  parseSk_eq_ok.mpr rfl

/-- For a Secret Key and a wrap that are well formed there is one input. -/
lemma passphraseInputs_write {w : WrappedAuk} {salt : Bytes} (hs : w.salt = b64 salt)
    (secretKey : SecretKey) :
    passphraseInputs P passphrase (b64 secretKey.toList) (P.wrappedAukJson.write w) =
      {.passphrase (Bytes.ofString passphrase) salt w.profile secretKey} := by
  ext i
  simp only [passphraseInputs, Set.mem_ofPred_eq, Set.mem_singleton_iff, readWrappedAuk_write,
    parseSk_b64, Outcome.ok.injEq]
  constructor
  · rintro ⟨w', key', salt', rfl, rfl, hsalt, rfl⟩
    rw [hs, unb64_b64, Outcome.ok.injEq] at hsalt
    rw [hsalt]
  · rintro rfl
    exact ⟨w, secretKey, salt, rfl, rfl, by rw [hs, unb64_b64], rfl⟩

lemma unlockAuk_eq_ok :
    unlockAuk P passphrase secretKeyB64 json = .ok auk ↔
      ∃ i ∈ passphraseInputs P passphrase secretKeyB64 json, Opens P json i auk := by
  simp only [unlockAuk, Outcome.bind_eq_ok, Outcome.mapErr_eq_ok, Auk.unwrapWithPassphrase_eq_ok]
  constructor
  · rintro ⟨w, hw, secretKey, hsk, salt, kek, hsalt, hkek, ho⟩
    refine ⟨_, ⟨w, secretKey, salt, hw, hsk, hsalt, rfl⟩, kek, hkek, ?_⟩
    rw [openWrap, hw, Outcome.ok_bind, ho]
  · rintro ⟨_, ⟨w, secretKey, salt, hw, hsk, hsalt, rfl⟩, kek, hkek, ho⟩
    rw [openWrap, hw, Outcome.ok_bind] at ho
    exact ⟨w, hw, secretKey, hsk, salt, kek, hsalt, hkek, ho⟩

lemma unlockVault_eq_ok {out : Unlocked} :
    unlockVault P passphrase secretKeyB64 json wid = .ok out ↔
      ∃ auk id, unlockAuk P passphrase secretKeyB64 json = .ok auk ∧
        Auk.unwrapIdentity P auk wid = .ok id ∧ out = ⟨b64 id.toSecretBytes⟩ := by
  simp only [unlockVault, unlockAuk, Outcome.bind_eq_ok, Outcome.mapErr_eq_ok, Outcome.ok.injEq]
  constructor
  · rintro ⟨secretKey, hsk, w, hw, auk, hauk, id, hid, rfl⟩
    exact ⟨auk, id, ⟨w, hw, secretKey, hsk, hauk⟩, hid, rfl⟩
  · rintro ⟨auk, id, ⟨w, hw, secretKey, hsk, hauk⟩, hid, rfl⟩
    exact ⟨secretKey, hsk, w, hw, auk, hauk, id, hid, rfl⟩

lemma enrollPrf_eq_ok {prfSecretB64 out : String} {nonce : Nonce} :
    enrollPrf P passphrase secretKeyB64 json prfSecretB64 nonce = .ok out ↔
      ∃ auk kek, unlockAuk P passphrase secretKeyB64 json = .ok auk ∧
        prfKek P prfSecretB64 = .ok kek ∧
        out = P.wrappedAukJson.write (Auk.wrapWithKek P auk kek "webauthn-prf" nonce) := by
  simp only [enrollPrf, unlockAuk, Outcome.bind_eq_ok, Outcome.mapErr_eq_ok, Outcome.ok.injEq]
  constructor
  · rintro ⟨secretKey, hsk, w, hw, auk, hauk, kek, hkek, rfl⟩
    exact ⟨auk, kek, ⟨w, hw, secretKey, hsk, hauk⟩, hkek, rfl⟩
  · rintro ⟨auk, kek, ⟨w, hw, secretKey, hsk, hauk⟩, hkek, rfl⟩
    exact ⟨secretKey, hsk, w, hw, auk, hauk, kek, hkek, rfl⟩

lemma changePassphrase_eq_ok {newPassphrase : String} {salt : ByteArr 16} {nonce : Nonce}
    {out : ReWrapped} :
    changePassphrase P passphrase secretKeyB64 json newPassphrase salt nonce = .ok out ↔
      ∃ auk secretKey w, unlockAuk P passphrase secretKeyB64 json = .ok auk ∧
        parseSk P secretKeyB64 = .ok secretKey ∧
        Auk.wrapWithPassphrase P auk (Bytes.ofString newPassphrase) secretKey .constrained salt
          nonce = .ok w ∧ out = ⟨w⟩ := by
  simp only [changePassphrase, Outcome.bind_eq_ok, Outcome.ok.injEq]
  constructor
  · rintro ⟨auk, hauk, secretKey, hsk, w, hw, rfl⟩
    exact ⟨auk, secretKey, w, hauk, hsk, hw, rfl⟩
  · rintro ⟨auk, secretKey, w, hauk, hsk, hw, rfl⟩
    exact ⟨auk, hauk, secretKey, hsk, w, hw, rfl⟩

lemma rotateSecretKey_eq_ok {newSk salt : ByteArr 16} {nonce : Nonce} {out : RotatedSecretKey} :
    rotateSecretKey P passphrase secretKeyB64 json newSk salt nonce = .ok out ↔
      ∃ auk w, unlockAuk P passphrase secretKeyB64 json = .ok auk ∧
        Auk.wrapWithPassphrase P auk (Bytes.ofString passphrase) newSk .constrained salt nonce =
          .ok w ∧ out = ⟨b64 newSk.toList, w⟩ := by
  simp only [rotateSecretKey, Outcome.bind_eq_ok, Outcome.ok.injEq]
  constructor
  · rintro ⟨auk, hauk, w, hw, rfl⟩
    exact ⟨auk, w, hauk, hw, rfl⟩
  · rintro ⟨auk, w, hauk, hw, rfl⟩
    exact ⟨auk, hauk, w, hw, rfl⟩

lemma rotateRecoveryCode_eq_ok {rb : ByteArr 20} {nonce : Nonce} {out : RotatedRecoveryCode} :
    rotateRecoveryCode P passphrase secretKeyB64 json rb nonce = .ok out ↔
      ∃ auk, unlockAuk P passphrase secretKeyB64 json = .ok auk ∧
        out = ⟨b64 rb.toList, Auk.wrapWithKek P auk
          (Kdf.hkdfSha256 P (Bytes.ofString (b64 rb.toList)) [] recoveryInfo) "recovery"
          nonce⟩ := by
  simp only [rotateRecoveryCode, Outcome.bind_eq_ok, Outcome.ok.injEq]
  constructor
  · rintro ⟨auk, hauk, rfl⟩
    exact ⟨auk, hauk, rfl⟩
  · rintro ⟨auk, hauk, rfl⟩
    exact ⟨auk, hauk, rfl⟩

lemma rotateIdentity_eq_ok {signSeed kemSeed : ByteArr 32} {nonce : Nonce}
    {out : RotatedIdentity} :
    rotateIdentity P passphrase secretKeyB64 json wid signSeed kemSeed nonce = .ok out ↔
      ∃ auk old, unlockAuk P passphrase secretKeyB64 json = .ok auk ∧
        Auk.unwrapIdentity P auk wid = .ok old ∧
        out =
          { signPubkey := b64 ((Identity.generate signSeed kemSeed).public P).sign.toList
            kemPubkey := b64 ((Identity.generate signSeed kemSeed).public P).kem.asBytes
            wrappedIdentity := Auk.wrapIdentity P auk (Identity.generate signSeed kemSeed) nonce
            identitySecretB64 := b64 (Identity.generate signSeed kemSeed).toSecretBytes
            oldIdentitySecretB64 := b64 old.toSecretBytes
            publicBlob := ((Identity.generate signSeed kemSeed).public P).toBlob } := by
  simp only [rotateIdentity, Outcome.bind_eq_ok, Outcome.ok.injEq]
  constructor
  · rintro ⟨auk, hauk, old, hold, rfl⟩
    exact ⟨auk, old, hauk, hold, rfl⟩
  · rintro ⟨auk, old, hauk, hold, rfl⟩
    exact ⟨auk, hauk, old, hold, rfl⟩

/-- The key that the recovery route derives opens the wrap. -/
lemma opens_recoveryInput {recoveryCode : String} :
    Opens P json (recoveryInput recoveryCode) auk ↔
      ∃ w, readWrappedAuk P json = .ok w ∧
        Auk.unwrapWithKek P w
          (Kdf.hkdfSha256 P (Bytes.ofString (Text.trim recoveryCode)) [] recoveryInfo) =
            .ok auk := by
  simp [Lockbox.Opens, recoveryInput, KekInput.kek, openWrap, Outcome.bind_eq_ok]

lemma unlockRecovery_eq_ok {recoveryCode : String} {out : Unlocked} :
    unlockRecovery P recoveryCode json wid = .ok out ↔
      ∃ auk id, Opens P json (recoveryInput recoveryCode) auk ∧
        Auk.unwrapIdentity P auk wid = .ok id ∧ out = ⟨b64 id.toSecretBytes⟩ := by
  simp only [unlockRecovery, Outcome.bind_eq_ok, Outcome.mapErr_eq_ok, Outcome.ok.injEq,
    opens_recoveryInput]
  constructor
  · rintro ⟨w, hw, auk, hauk, id, hid, rfl⟩
    exact ⟨auk, id, ⟨w, hw, hauk⟩, hid, rfl⟩
  · rintro ⟨auk, id, ⟨w, hw, hauk⟩, hid, rfl⟩
    exact ⟨w, hw, auk, hauk, id, hid, rfl⟩

lemma resetPassphrase_eq_ok {recoveryCode newPassphrase : String} {salt : ByteArr 16}
    {nonce : Nonce} {out : ReWrapped} :
    resetPassphrase P recoveryCode json secretKeyB64 newPassphrase salt nonce = .ok out ↔
      ∃ auk secretKey w, Opens P json (recoveryInput recoveryCode) auk ∧
        parseSk P secretKeyB64 = .ok secretKey ∧
        Auk.wrapWithPassphrase P auk (Bytes.ofString newPassphrase) secretKey .constrained salt
          nonce = .ok w ∧ out = ⟨w⟩ := by
  simp only [resetPassphrase, Outcome.bind_eq_ok, Outcome.mapErr_eq_ok, Outcome.ok.injEq,
    opens_recoveryInput]
  constructor
  · rintro ⟨v, hv, auk, hauk, secretKey, hsk, w, hw, rfl⟩
    exact ⟨auk, secretKey, w, ⟨v, hv, hauk⟩, hsk, hw, rfl⟩
  · rintro ⟨auk, secretKey, w, ⟨v, hv, hauk⟩, hsk, hw, rfl⟩
    exact ⟨v, hv, auk, hauk, secretKey, hsk, w, hw, rfl⟩

lemma prfKek_eq_ok {prfSecretB64 : String} {kek : ByteArr 32} :
    prfKek P prfSecretB64 = .ok kek ↔ ∃ i ∈ prfInputs P prfSecretB64, i.kek P = .ok kek := by
  simp only [prfKek, Outcome.bind_eq_ok]
  constructor
  · rintro ⟨secret, hs, hk⟩
    exact ⟨_, ⟨secret, hs, rfl⟩, hk⟩
  · rintro ⟨_, ⟨secret, hs, rfl⟩, hk⟩
    exact ⟨secret, hs, hk⟩

lemma aukFromPrf_eq_ok {prfSecretB64 : String} :
    aukFromPrf P prfSecretB64 json = .ok auk ↔
      ∃ i ∈ prfInputs P prfSecretB64, Opens P json i auk := by
  simp only [aukFromPrf, Outcome.bind_eq_ok, Outcome.mapErr_eq_ok, prfKek_eq_ok, Lockbox.Opens,
    openWrap]
  constructor
  · rintro ⟨w, hw, kek, ⟨i, hi, hkek⟩, ho⟩
    exact ⟨i, hi, kek, hkek, w, hw, ho⟩
  · rintro ⟨i, hi, kek, hkek, w, hw, ho⟩
    exact ⟨w, hw, kek, ⟨i, hi, hkek⟩, ho⟩

/-- `unlock_prf` opens the identity with the AUK that the other flows of the route recover. -/
lemma unlockPrf_eq (prfSecretB64 json wid : String) :
    unlockPrf P prfSecretB64 json wid = aukFromPrf P prfSecretB64 json >>= fun auk =>
      Auk.unwrapIdentity P auk wid >>= fun id => .ok ⟨b64 id.toSecretBytes⟩ := by
  simp only [unlockPrf, aukFromPrf, Outcome.bind_assoc]

lemma unlockPrf_eq_ok {prfSecretB64 : String} {out : Unlocked} :
    unlockPrf P prfSecretB64 json wid = .ok out ↔
      ∃ auk id, aukFromPrf P prfSecretB64 json = .ok auk ∧
        Auk.unwrapIdentity P auk wid = .ok id ∧ out = ⟨b64 id.toSecretBytes⟩ := by
  simp only [unlockPrf_eq, Outcome.bind_eq_ok, Outcome.ok.injEq]
  constructor
  · rintro ⟨auk, hauk, id, hid, rfl⟩
    exact ⟨auk, id, hauk, hid, rfl⟩
  · rintro ⟨auk, id, hauk, hid, rfl⟩
    exact ⟨auk, hauk, id, hid, rfl⟩

/-! ### The Account Master Key -/

/-- Where there is no AMK yet, a new one is sealed; else the sealed one is returned unchanged. -/
lemma snd_of_amkEnsureFromAuk {existing : String} {seed : ByteArr 32} {nonce : Nonce}
    {out : SignSecret × String}
    (h : amkEnsureFromAuk P auk existing seed nonce = .ok out) :
    out.2 = if existing = "" then Auk.wrapSecret P auk seed.toList nonce else existing := by
  unfold amkEnsureFromAuk at h
  split_ifs at h ⊢ with hempty
  · cases h
    rfl
  · simp only [Outcome.bind_eq_ok, Outcome.ok.injEq] at h
    obtain ⟨-, -, -, -, -, -, rfl⟩ := h
    rfl

lemma amkEnsure_eq_ok {existing : String} {seed : ByteArr 32} {nonce : Nonce} {out : EnsuredAmk} :
    amkEnsure P passphrase secretKeyB64 json existing seed nonce = .ok out ↔
      ∃ auk amk, unlockAuk P passphrase secretKeyB64 json = .ok auk ∧
        amkEnsureFromAuk P auk existing seed nonce = .ok amk ∧
        out = ⟨b64 (SignSecret.public P amk.1).toList, amk.2⟩ := by
  simp only [amkEnsure, Outcome.bind_eq_ok, Outcome.ok.injEq]
  constructor
  · rintro ⟨auk, hauk, amk, hamk, rfl⟩
    exact ⟨auk, amk, hauk, hamk, rfl⟩
  · rintro ⟨auk, amk, hauk, hamk, rfl⟩
    exact ⟨auk, hauk, amk, hamk, rfl⟩

lemma amkEnsurePrf_eq_ok {prfSecretB64 existing : String} {seed : ByteArr 32} {nonce : Nonce}
    {out : EnsuredAmk} :
    amkEnsurePrf P prfSecretB64 json existing seed nonce = .ok out ↔
      ∃ auk amk, aukFromPrf P prfSecretB64 json = .ok auk ∧
        amkEnsureFromAuk P auk existing seed nonce = .ok amk ∧
        out = ⟨b64 (SignSecret.public P amk.1).toList, amk.2⟩ := by
  simp only [amkEnsurePrf, Outcome.bind_eq_ok, Outcome.ok.injEq]
  constructor
  · rintro ⟨auk, hauk, amk, hamk, rfl⟩
    exact ⟨auk, amk, hauk, hamk, rfl⟩
  · rintro ⟨auk, amk, hauk, hamk, rfl⟩
    exact ⟨auk, hauk, amk, hamk, rfl⟩

end Flows

end PockCore
