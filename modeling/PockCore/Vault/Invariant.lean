import PockCore.Vault.Account

/-!
# The invariant of an account

Every stored wrap is sealed for its own credential and holds one and the same AUK, and that AUK
opens the stored identity. Each call re-wraps a part of this and preserves the rest.
-/

namespace PockCore

variable {P : Primitives} {I : Set KekInput}

namespace Auk

variable {auk : Auk} {nonce : Nonce}

@[simp] lemma unwrapIdentity_wrapIdentity (hC : P.XchachaCorrect) (id : Identity) :
    unwrapIdentity P auk (wrapIdentity P auk id nonce) = .ok id := by
  rw [unwrapIdentity, wrapIdentity, unb64_b64, Outcome.ok_bind, Aead.openBlob_sealBlob hC,
    Outcome.ok_bind, Identity.fromSecretBytes_toSecretBytes]

@[simp] lemma unwrapSecret_wrapSecret (hC : P.XchachaCorrect) (plaintext : Bytes) :
    unwrapSecret P auk (wrapSecret P auk plaintext nonce) = .ok plaintext := by
  rw [unwrapSecret, wrapSecret, unb64_b64, Outcome.ok_bind, Aead.openBlob_sealBlob hC]

/-- A sealed secret is not empty text, which would stand for an absent one. -/
lemma wrapSecret_ne_empty (plaintext : Bytes) : wrapSecret P auk plaintext nonce ≠ "" := by
  intro h
  have hempty : b64 [] = "" := rfl
  rw [wrapSecret, ← hempty] at h
  have hlen := congrArg List.length (P.urlSafeNoPad.encode_injective h)
  simp [Aead.sealBlob, Aead.sealAad] at hlen

end Auk

/-! ### New wraps -/

/-- A new passphrase wrap was made for the input that the passphrase route derives from it. -/
lemma wraps_of_wrapWithPassphrase (hC : P.XchachaCorrect) (hK : P.XchachaCommits) {auk : Auk}
    {passphrase : String} {secretKey : SecretKey} {profile : KdfProfile} {salt : ByteArr 16}
    {nonce : Nonce} {w : WrappedAuk}
    (h : Auk.wrapWithPassphrase P auk (Bytes.ofString passphrase) secretKey profile salt nonce =
      .ok w)
    (hI : .passphrase (Bytes.ofString passphrase) salt.toList profile secretKey ∈ I) :
    ∃ i ∈ Flows.passphraseInputs P passphrase (b64 secretKey.toList) (P.wrappedAukJson.write w),
      Wraps P I (P.wrappedAukJson.write w) i auk := by
  obtain ⟨kek, hkek, hw⟩ := Auk.wrapWithPassphrase_eq_ok.mp h
  have hsalt : w.salt = b64 salt.toList := by rw [hw]
  have hprofile : w.profile = profile := Auk.profile_of_params (by rw [hw])
  rw [Flows.passphraseInputs_write hsalt, hprofile]
  exact ⟨_, rfl, hI, kek, hkek, locked_write hC hK (by rw [hw]) (by rw [hw])⟩

lemma wraps_wrapWithKek (hC : P.XchachaCorrect) (hK : P.XchachaCommits) {auk : Auk}
    {i : KekInput} {kek : ByteArr 32} (hkek : i.kek P = .ok kek) (hI : i ∈ I) (method : String)
    (nonce : Nonce) :
    Wraps P I (P.wrappedAukJson.write (Auk.wrapWithKek P auk kek method nonce)) i auk :=
  ⟨hI, kek, hkek, locked_write hC hK rfl rfl⟩

/-! ### The invariant -/

/-- The account holds `auk` in every wrap and has the credentials `c`. -/
structure Account.Inv (P : Primitives) (I : Set KekInput) (a : Account) (auk : Auk)
    (c : Credentials) : Prop where
  passphrase : a.passphrase = c.passphrase
  secretKey : a.secretKey = b64 c.secretKey.toList
  recoveryCode : a.recoveryCode = c.recoveryCode
  /-- A recovery code has no white space that trimming could remove. -/
  recoveryText : ∃ rb, c.recoveryCode = b64 rb
  identitySecret : a.identitySecretB64 = b64 c.identity.toSecretBytes
  wrappedAukPassphrase :
    ∃ i ∈ Flows.passphraseInputs P c.passphrase (b64 c.secretKey.toList) a.wrappedAukPassphrase,
      Wraps P I a.wrappedAukPassphrase i auk
  wrappedAukRecovery :
    Wraps P I a.wrappedAukRecovery (.recovery (Bytes.ofString c.recoveryCode)) auk
  prfs : List.Forall₂ (fun e secret => e.prfSecretB64 = b64 secret ∧
    Wraps P I e.wrapped (.prf secret) auk) a.prfs c.prfSecrets
  wrappedIdentity : ∃ nonce, a.wrappedIdentity = Auk.wrapIdentity P auk c.identity nonce
  wrappedAmk : a.wrappedAmk = "" ∨
    ∃ (seed : ByteArr 32) (nonce : Nonce), a.wrappedAmk = Auk.wrapSecret P auk seed.toList nonce

namespace Account.Inv

variable {a : Account} {auk : Auk} {c : Credentials}

/-! ### What opens the wraps of an account -/

lemma unlockAuk_eq_ok (hI : KekInput.CollisionFree P I) (h : a.Inv P I auk c) {p sk : String}
    (hin : Flows.passphraseInputs P p sk a.wrappedAukPassphrase ⊆ I) {auk' : Auk} :
    Flows.unlockAuk P p sk a.wrappedAukPassphrase = .ok auk' ↔
      p = c.passphrase ∧ sk = b64 c.secretKey.toList ∧ auk' = auk := by
  rw [Flows.unlockAuk_eq_ok]
  obtain ⟨i, hi, hwraps⟩ := h.wrappedAukPassphrase
  constructor
  · rintro ⟨j, hj, ho⟩
    obtain ⟨rfl, rfl⟩ := (hwraps.opens_iff (KekInput.deriveInj hI) (hin hj)).mp ho
    obtain ⟨w, key, salt, -, hkey, -, rfl⟩ := hi
    obtain ⟨w', key', salt', -, hkey', -, heq⟩ := hj
    obtain ⟨hpw, -, -, rfl⟩ := KekInput.passphrase.inj heq
    rw [Flows.parseSk_eq_ok] at hkey hkey'
    exact ⟨(Bytes.ofString_injective hpw).symm, by rw [hkey', hkey], rfl⟩
  · rintro ⟨rfl, rfl, rfl⟩
    exact ⟨i, hi, hwraps.opens⟩

lemma opens_recovery_iff (hI : KekInput.CollisionFree P I) (h : a.Inv P I auk c)
    {code : String} (hin : Flows.recoveryInput code ∈ I) {auk' : Auk} :
    Opens P a.wrappedAukRecovery (Flows.recoveryInput code) auk' ↔
      Text.trim code = c.recoveryCode ∧ auk' = auk := by
  refine (h.wrappedAukRecovery.opens_iff (KekInput.deriveInj hI) hin).trans ?_
  rw [Flows.recoveryInput, KekInput.recovery.injEq, Bytes.ofString_inj]

lemma aukFromPrf_eq_ok (hI : KekInput.CollisionFree P I) {json s : String} {secret : Bytes}
    (hw : Wraps P I json (.prf secret) auk) (hin : Flows.prfInputs P s ⊆ I) {auk' : Auk} :
    Flows.aukFromPrf P s json = .ok auk' ↔ s = b64 secret ∧ auk' = auk := by
  rw [Flows.aukFromPrf_eq_ok]
  constructor
  · rintro ⟨j, hj, ho⟩
    obtain ⟨rfl, rfl⟩ := (hw.opens_iff (KekInput.deriveInj hI) (hin hj)).mp ho
    obtain ⟨secret', hs, heq⟩ := hj
    obtain rfl := KekInput.prf.inj heq
    exact ⟨Flows.unb64_eq_ok.mp hs, rfl⟩
  · rintro ⟨rfl, rfl⟩
    exact ⟨_, ⟨secret, Flows.unb64_eq_ok.mpr rfl, rfl⟩, hw.opens⟩

lemma exists_secret (h : a.Inv P I auk c) {e : Enrolment} (he : e ∈ a.prfs) :
    ∃ secret, e.prfSecretB64 = b64 secret ∧ Wraps P I e.wrapped (.prf secret) auk := by
  have hall : ∀ {l : List Enrolment} {m : List Bytes}, List.Forall₂ (fun e secret =>
      e.prfSecretB64 = b64 secret ∧ Wraps P I e.wrapped (.prf secret) auk) l m →
      ∀ e ∈ l, ∃ secret, e.prfSecretB64 = b64 secret ∧ Wraps P I e.wrapped (.prf secret) auk := by
    intro l m hlm
    induction hlm with
    | nil => simp
    | cons hd _ ih =>
      intro e he
      rcases List.mem_cons.mp he with rfl | he
      · exact ⟨_, hd⟩
      · exact ih e he
  exact hall h.prfs e he

/-- The current credentials of each route recover the AUK. -/
lemma unlockAuk_current (h : a.Inv P I auk c) :
    Flows.unlockAuk P a.passphrase a.secretKey a.wrappedAukPassphrase = .ok auk := by
  obtain ⟨i, hi, hw⟩ := h.wrappedAukPassphrase
  rw [h.passphrase, h.secretKey]
  exact Flows.unlockAuk_eq_ok.mpr ⟨i, hi, hw.opens⟩

lemma aukFromPrf_current (h : a.Inv P I auk c) {e : Enrolment} (he : e ∈ a.prfs) :
    Flows.aukFromPrf P e.prfSecretB64 e.wrapped = .ok auk := by
  obtain ⟨secret, hs, hw⟩ := h.exists_secret he
  rw [hs]
  exact Flows.aukFromPrf_eq_ok.mpr ⟨_, ⟨secret, Flows.unb64_of_b64 _, rfl⟩, hw.opens⟩

/-! ### Preservation -/

/-- The account after a new passphrase wrap of its AUK. -/
lemma rewrap (hC : P.XchachaCorrect) (hK : P.XchachaCommits) (h : a.Inv P I auk c)
    {newPassphrase : String} {secretKey : SecretKey} {profile : KdfProfile} {salt : ByteArr 16}
    {nonce : Nonce} {w : WrappedAuk}
    (hw : Auk.wrapWithPassphrase P auk (Bytes.ofString newPassphrase) secretKey profile salt
      nonce = .ok w)
    (hin : .passphrase (Bytes.ofString newPassphrase) salt.toList profile secretKey ∈ I) :
    Inv P I { a with
        wrappedAukPassphrase := P.wrappedAukJson.write w
        passphrase := newPassphrase
        secretKey := b64 secretKey.toList } auk
      { c with passphrase := newPassphrase, secretKey := secretKey } where
  passphrase := rfl
  secretKey := rfl
  recoveryCode := h.recoveryCode
  recoveryText := h.recoveryText
  identitySecret := h.identitySecret
  wrappedAukPassphrase := wraps_of_wrapWithPassphrase hC hK hw hin
  wrappedAukRecovery := h.wrappedAukRecovery
  prfs := h.prfs
  wrappedIdentity := h.wrappedIdentity
  wrappedAmk := h.wrappedAmk

variable (hC : P.XchachaCorrect) (hK : P.XchachaCommits) (hI : KekInput.CollisionFree P I)
  (h : a.Inv P I auk c)

include hC hK hI h

lemma step_changePassphrase {old sk new : String} {salt : ByteArr 16} {nonce : Nonce}
    (hin : a.inputs P (.changePassphrase old sk new salt nonce) ⊆ I) :
    ∃ c', Credentials.Step c (.changePassphrase old sk new salt nonce) c' ∧
      (a.step P (.changePassphrase old sk new salt nonce)).Inv P I auk c' := by
  simp only [Account.step]
  cases hout : Flows.changePassphrase P old sk a.wrappedAukPassphrase new salt nonce with
  | ok out =>
    obtain ⟨auk', key, w, hauk, hkey, hw, rfl⟩ := Flows.changePassphrase_eq_ok.mp hout
    obtain ⟨rfl, rfl, rfl⟩ := (h.unlockAuk_eq_ok hI fun i hi => hin (.inl hi)).mp hauk
    have hinv := h.rewrap hC hK hw (hin (.inr ⟨key, hkey, rfl⟩))
    rw [Flows.parseSk_b64, Outcome.ok.injEq] at hkey
    subst hkey
    rw [← h.secretKey] at hinv
    exact ⟨_, .changePassphrase c new salt nonce, hinv⟩
  | err e => exact ⟨c, .refused c _, h⟩
  | panic => exact ⟨c, .refused c _, h⟩

lemma step_resetPassphrase {code sk new : String} {salt : ByteArr 16} {nonce : Nonce}
    (hin : a.inputs P (.resetPassphrase code sk new salt nonce) ⊆ I) :
    ∃ c', Credentials.Step c (.resetPassphrase code sk new salt nonce) c' ∧
      (a.step P (.resetPassphrase code sk new salt nonce)).Inv P I auk c' := by
  simp only [Account.step]
  cases hout : Flows.resetPassphrase P code a.wrappedAukRecovery sk new salt nonce with
  | ok out =>
    obtain ⟨auk', key, w, hauk, hkey, hw, rfl⟩ := Flows.resetPassphrase_eq_ok.mp hout
    obtain ⟨htrim, rfl⟩ := (h.opens_recovery_iff hI (hin (.inl rfl))).mp hauk
    have hinv := h.rewrap hC hK hw (hin (.inr ⟨key, hkey, rfl⟩))
    obtain rfl := Flows.parseSk_eq_ok.mp hkey
    exact ⟨_, .resetPassphrase c new key salt nonce htrim, hinv⟩
  | err e => exact ⟨c, .refused c _, h⟩
  | panic => exact ⟨c, .refused c _, h⟩

lemma step_rotateSecretKey {p sk : String} {newSk salt : ByteArr 16} {nonce : Nonce}
    (hin : a.inputs P (.rotateSecretKey p sk newSk salt nonce) ⊆ I) :
    ∃ c', Credentials.Step c (.rotateSecretKey p sk newSk salt nonce) c' ∧
      (a.step P (.rotateSecretKey p sk newSk salt nonce)).Inv P I auk c' := by
  simp only [Account.step]
  cases hout : Flows.rotateSecretKey P p sk a.wrappedAukPassphrase newSk salt nonce with
  | ok out =>
    obtain ⟨auk', w, hauk, hw, rfl⟩ := Flows.rotateSecretKey_eq_ok.mp hout
    obtain ⟨rfl, rfl, rfl⟩ := (h.unlockAuk_eq_ok hI fun i hi => hin (.inl hi)).mp hauk
    have hinv := h.rewrap hC hK hw (hin (.inr rfl))
    exact ⟨_, .rotateSecretKey c newSk salt nonce, { hinv with passphrase := h.passphrase }⟩
  | err e => exact ⟨c, .refused c _, h⟩
  | panic => exact ⟨c, .refused c _, h⟩

lemma step_rotateRecoveryCode {p sk : String} {rb : ByteArr 20} {nonce : Nonce}
    (hin : a.inputs P (.rotateRecoveryCode p sk rb nonce) ⊆ I) :
    ∃ c', Credentials.Step c (.rotateRecoveryCode p sk rb nonce) c' ∧
      (a.step P (.rotateRecoveryCode p sk rb nonce)).Inv P I auk c' := by
  simp only [Account.step]
  cases hout : Flows.rotateRecoveryCode P p sk a.wrappedAukPassphrase rb nonce with
  | ok out =>
    obtain ⟨auk', hauk, rfl⟩ := Flows.rotateRecoveryCode_eq_ok.mp hout
    obtain ⟨rfl, rfl, rfl⟩ := (h.unlockAuk_eq_ok hI fun i hi => hin (.inl hi)).mp hauk
    refine ⟨_, .rotateRecoveryCode c rb nonce, { h with
      recoveryCode := rfl
      recoveryText := ⟨_, rfl⟩
      wrappedAukRecovery := wraps_wrapWithKek hC hK rfl (hin (.inr rfl)) _ _ }⟩
  | err e => exact ⟨c, .refused c _, h⟩
  | panic => exact ⟨c, .refused c _, h⟩

omit hC hK in
lemma step_rotateIdentity {p sk : String} {signSeed kemSeed : ByteArr 32} {nonce : Nonce}
    (hin : a.inputs P (.rotateIdentity p sk signSeed kemSeed nonce) ⊆ I) :
    ∃ c', Credentials.Step c (.rotateIdentity p sk signSeed kemSeed nonce) c' ∧
      (a.step P (.rotateIdentity p sk signSeed kemSeed nonce)).Inv P I auk c' := by
  simp only [Account.step]
  cases hout : Flows.rotateIdentity P p sk a.wrappedAukPassphrase a.wrappedIdentity signSeed
      kemSeed nonce with
  | ok out =>
    obtain ⟨auk', old, hauk, -, rfl⟩ := Flows.rotateIdentity_eq_ok.mp hout
    obtain ⟨rfl, rfl, rfl⟩ := (h.unlockAuk_eq_ok hI fun i hi => hin hi).mp hauk
    exact ⟨_, .rotateIdentity c signSeed kemSeed nonce, { h with
      identitySecret := rfl
      wrappedIdentity := ⟨nonce, rfl⟩ }⟩
  | err e => exact ⟨c, .refused c _, h⟩
  | panic => exact ⟨c, .refused c _, h⟩

lemma step_enrollPrf {p sk s : String} {nonce : Nonce}
    (hin : a.inputs P (.enrollPrf p sk s nonce) ⊆ I) :
    ∃ c', Credentials.Step c (.enrollPrf p sk s nonce) c' ∧
      (a.step P (.enrollPrf p sk s nonce)).Inv P I auk c' := by
  simp only [Account.step]
  cases hout : Flows.enrollPrf P p sk a.wrappedAukPassphrase s nonce with
  | ok out =>
    obtain ⟨auk', kek, hauk, hkek, rfl⟩ := Flows.enrollPrf_eq_ok.mp hout
    obtain ⟨rfl, rfl, rfl⟩ := (h.unlockAuk_eq_ok hI fun i hi => hin (.inl hi)).mp hauk
    obtain ⟨i, hi, hik⟩ := Flows.prfKek_eq_ok.mp hkek
    have hiI := hin (.inr hi)
    obtain ⟨secret, hs, rfl⟩ := hi
    obtain rfl := Flows.unb64_eq_ok.mp hs
    refine ⟨_, .enrollPrf c secret nonce, { h with prfs := ?_ }⟩
    refine List.rel_append h.prfs (.cons ⟨rfl, ?_⟩ .nil)
    exact wraps_wrapWithKek hC hK hik hiI _ _
  | err e => exact ⟨c, .refused c _, h⟩
  | panic => exact ⟨c, .refused c _, h⟩

omit hC hK hI in
/-- A call that returns an AMK leaves one that the same AUK seals. -/
lemma ensureAmk {seed : ByteArr 32} {nonce : Nonce} {amk : SignSecret × String} {amkPub : String}
    (hamk : Flows.amkEnsureFromAuk P auk a.wrappedAmk seed nonce = .ok amk) :
    Inv P I { a with wrappedAmk := amk.2, amkPub := amkPub } auk c := by
  refine { h with wrappedAmk := .inr ?_ }
  rw [Flows.snd_of_amkEnsureFromAuk hamk]
  split_ifs with hempty
  · exact ⟨seed, nonce, rfl⟩
  · exact h.wrappedAmk.resolve_left hempty

omit hC hK in
lemma step_amkEnsure {p sk : String} {seed : ByteArr 32} {nonce : Nonce}
    (hin : a.inputs P (.amkEnsure p sk seed nonce) ⊆ I) :
    (a.step P (.amkEnsure p sk seed nonce)).Inv P I auk c := by
  simp only [Account.step]
  cases hout : Flows.amkEnsure P p sk a.wrappedAukPassphrase a.wrappedAmk seed nonce with
  | ok out =>
    obtain ⟨auk', amk, hauk, hamk, rfl⟩ := Flows.amkEnsure_eq_ok.mp hout
    obtain ⟨-, -, rfl⟩ := (h.unlockAuk_eq_ok hI hin).mp hauk
    exact h.ensureAmk hamk
  | err e => exact h
  | panic => exact h

omit hC hK in
lemma step_amkEnsurePrf {i : ℕ} {s : String} {seed : ByteArr 32} {nonce : Nonce}
    (hin : a.inputs P (.amkEnsurePrf i s seed nonce) ⊆ I) :
    (a.step P (.amkEnsurePrf i s seed nonce)).Inv P I auk c := by
  simp only [Account.step]
  cases he : a.prfs[i]? with
  | none => exact h
  | some e =>
    simp only
    cases hout : Flows.amkEnsurePrf P s e.wrapped a.wrappedAmk seed nonce with
    | ok out =>
      obtain ⟨auk', amk, hauk, hamk, rfl⟩ := Flows.amkEnsurePrf_eq_ok.mp hout
      obtain ⟨secret, -, hw⟩ := h.exists_secret (List.mem_of_getElem? he)
      obtain ⟨-, rfl⟩ := (aukFromPrf_eq_ok hI hw hin).mp hauk
      exact h.ensureAmk hamk
    | err e => exact h
    | panic => exact h

/-- Every step is one that the credentials allow, and the account has the new credentials. -/
lemma step {op : Op} (hin : a.inputs P op ⊆ I) :
    ∃ c', Credentials.Step c op c' ∧ (a.step P op).Inv P I auk c' := by
  cases op with
  | changePassphrase => exact h.step_changePassphrase hC hK hI hin
  | resetPassphrase => exact h.step_resetPassphrase hC hK hI hin
  | rotateSecretKey => exact h.step_rotateSecretKey hC hK hI hin
  | rotateRecoveryCode => exact h.step_rotateRecoveryCode hC hK hI hin
  | rotateIdentity => exact h.step_rotateIdentity hI hin
  | enrollPrf => exact h.step_enrollPrf hC hK hI hin
  | amkEnsure => exact ⟨c, .refused c _, h.step_amkEnsure hI hin⟩
  | amkEnsurePrf => exact ⟨c, .refused c _, h.step_amkEnsurePrf hI hin⟩

end Account.Inv

/-! ### Creation -/

lemma createVaultProfile_eq_ok {passphrase profileId : String} {draws : Flows.VaultDraws}
    {out : Flows.CreatedVault}
    (h : Flows.createVaultProfile P passphrase profileId draws = .ok out) :
    ∃ profile w, Flows.kdfProfile P profileId = .ok profile ∧
      Auk.wrapWithPassphrase P draws.auk (Bytes.ofString passphrase) draws.secretKey
        profile draws.salt draws.passphraseNonce = .ok w ∧
      out =
        { signPubkey :=
            b64 ((Identity.generate draws.signSeed draws.kemSeed).public P).sign.toList
          kemPubkey := b64 ((Identity.generate draws.signSeed draws.kemSeed).public P).kem.asBytes
          wrappedIdentity := Auk.wrapIdentity P draws.auk
            (Identity.generate draws.signSeed draws.kemSeed) draws.identityNonce
          secretKey := b64 draws.secretKey.toList
          recoveryCode := b64 draws.rb.toList
          wrappedAukPassphrase := w
          wrappedAukRecovery := Auk.wrapWithKek P draws.auk
            (Kdf.hkdfSha256 P (Bytes.ofString (b64 draws.rb.toList)) [] Flows.recoveryInfo)
            "recovery" draws.recoveryNonce
          identitySecretB64 :=
            b64 (Identity.generate draws.signSeed draws.kemSeed).toSecretBytes } := by
  simp only [Flows.createVaultProfile, Outcome.bind_eq_ok, Outcome.ok.injEq] at h
  obtain ⟨profile, hprofile, w, hw, rfl⟩ := h
  exact ⟨profile, w, hprofile, hw, rfl⟩

/-- A new account has the invariant. -/
lemma Account.inv_created (hC : P.XchachaCorrect) (hK : P.XchachaCommits)
    {passphrase profileId : String} {draws : Flows.VaultDraws} {out : Flows.CreatedVault}
    (h : Flows.createVaultProfile P passphrase profileId draws = .ok out)
    (hin : Account.createdInputs passphrase draws out ⊆ I) :
    (Account.created P passphrase out).Inv P I draws.auk
      { passphrase := passphrase, secretKey := draws.secretKey,
        recoveryCode := b64 draws.rb.toList, prfSecrets := [],
        identity := Identity.generate draws.signSeed draws.kemSeed } := by
  obtain ⟨profile, w, -, hw, rfl⟩ := createVaultProfile_eq_ok h
  have hprofile : w.profile = profile := by
    obtain ⟨kek, -, rfl⟩ := Auk.wrapWithPassphrase_eq_ok.mp hw
    exact Auk.profile_of_params rfl
  exact {
    passphrase := rfl
    secretKey := rfl
    recoveryCode := rfl
    recoveryText := ⟨_, rfl⟩
    identitySecret := rfl
    wrappedAukPassphrase :=
      wraps_of_wrapWithPassphrase hC hK hw (hin (.inl (by rw [← hprofile])))
    wrappedAukRecovery := wraps_wrapWithKek hC hK rfl (hin (.inr rfl)) _ _
    prfs := .nil
    wrappedIdentity := ⟨_, rfl⟩
    wrappedAmk := .inl rfl }

/-- The account does what the credentials say: the machine of accounts follows the machine of
credentials, call by call. -/
theorem Account.simulates (hC : P.XchachaCorrect) (hK : P.XchachaCommits)
    (hI : KekInput.CollisionFree P I) :
    (Account.machine P I).Simulates Credentials.machine fun a c => ∃ auk, a.Inv P I auk c where
  init := by
    rintro a ⟨passphrase, profileId, draws, out, hout, hin, rfl⟩
    refine ⟨_, ?_, draws.auk, Account.inv_created hC hK hout hin⟩
    rfl
  step := by
    rintro a op a' c ⟨auk, hinv⟩ ⟨hin, rfl⟩
    obtain ⟨c', hstep, hinv'⟩ := hinv.step hC hK hI hin
    exact ⟨c', hstep, auk, hinv'⟩

end PockCore
