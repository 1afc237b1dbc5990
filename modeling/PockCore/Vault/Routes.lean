import PockCore.Crypto.Reference
import PockCore.Vault.Invariant

/-!
# The unlock routes of an account

In every account that a run can reach, all routes open to the identity that was last returned,
and each opens for the current credential only.
-/

namespace PockCore

/-! ### A vault of the stand-in primitives -/

namespace Reference

def zeros (n : ℕ) : ByteArr n := fit n []

def draws : Flows.VaultDraws where
  signSeed := zeros 32
  kemSeed := zeros 32
  auk := zeros 32
  secretKey := zeros 16
  rb := zeros 20
  salt := zeros 16
  passphraseNonce := zeros 24
  recoveryNonce := zeros 24
  identityNonce := zeros 24

/-- The draws of a second vault, with the Secret Key and the recovery code of the first one. -/
def otherDraws : Flows.VaultDraws :=
  { draws with signSeed := fit 32 [2], kemSeed := fit 32 [2], auk := fit 32 [1] }

def passkey : ByteArr 32 := fit 32 [1]

/-- The identity that a rotation makes. -/
def rotatedIdentity : Identity := Identity.generate (fit 32 [1]) (fit 32 [1])

/-- The derivations of the vault, of the passphrase `no` in the place of `pw`, of an attempt with
the recovery wrap in the place of the passphrase wrap, and of a passkey. -/
def inputs : Set KekInput :=
  {.passphrase (Bytes.ofString "pw") (zeros 16).toList .constrained (zeros 16),
    .recovery (Bytes.ofString (b64 (zeros 20).toList)),
    .passphrase (Bytes.ofString "no") (zeros 16).toList .constrained (zeros 16),
    .passphrase (Bytes.ofString "pw") [] .constrained (zeros 16),
    .prf passkey.toList}

def stretched (passphrase : String) : ByteArr 32 :=
  fit 32 (Bytes.ofString passphrase ++ (zeros 16).toList)

lemma argon2id_zeros (passphrase : String) :
    Kdf.argon2id primitives (Bytes.ofString passphrase) (zeros 16).toList .constrained =
      .ok (stretched passphrase) :=
  rfl

lemma argon2id_nil (passphrase : Bytes) (d : ByteArr 32) :
    Kdf.argon2id primitives passphrase [] .constrained ≠ .ok d := by
  nofun

/-- The calls of the key derivation functions in those derivations. -/
lemma mem_queries {q : Kdf.Query} (hq : ∃ i ∈ inputs, q ∈ i.queries primitives) :
    (∃ p salt, q = .argon2id (Bytes.ofString p) salt .constrained ∧
      (salt = (zeros 16).toList ∧ (p = "pw" ∨ p = "no") ∨ salt = [])) ∨
    (∃ p, q = .hkdf (stretched p).toList (zeros 16).toList Auk.skdInfo ∧ (p = "pw" ∨ p = "no")) ∨
    q = .hkdf (Bytes.ofString (b64 (zeros 20).toList)) [] Flows.recoveryInfo ∨
    q = .hkdf passkey.toList [] Flows.prfInfo := by
  obtain ⟨i, rfl | rfl | rfl | rfl | rfl, hq⟩ := hq
  · rcases hq with rfl | ⟨d, hd, rfl⟩
    · exact .inl ⟨_, _, rfl, .inl ⟨rfl, .inl rfl⟩⟩
    · rw [argon2id_zeros, Outcome.ok.injEq] at hd
      exact .inr (.inl ⟨"pw", by rw [hd], .inl rfl⟩)
  · exact .inr (.inr (.inl hq))
  · rcases hq with rfl | ⟨d, hd, rfl⟩
    · exact .inl ⟨_, _, rfl, .inl ⟨rfl, .inr rfl⟩⟩
    · rw [argon2id_zeros, Outcome.ok.injEq] at hd
      exact .inr (.inl ⟨"no", by rw [hd], .inr rfl⟩)
  · rcases hq with rfl | ⟨d, hd, rfl⟩
    · exact .inl ⟨_, _, rfl, .inr rfl⟩
    · exact absurd hd (argon2id_nil _ _)
  · exact .inr (.inr (.inr hq))

lemma collisionFree_inputs : KekInput.CollisionFree primitives inputs := by
  have hstretched : stretched "pw" ≠ stretched "no" := by decide
  constructor
  · intro pw salt prof pw' salt' prof' d hq hq' hd hd'
    rcases mem_queries hq with ⟨p, s, h, hs⟩ | ⟨p, h, -⟩ | h | h <;> cases h
    rcases mem_queries hq' with ⟨p', s', h', hs'⟩ | ⟨p', h', -⟩ | h' | h' <;> cases h'
    rcases hs with ⟨rfl, hp⟩ | rfl
    · rcases hs' with ⟨rfl, hp'⟩ | rfl
      · rw [argon2id_zeros, Outcome.ok.injEq] at hd hd'
        rcases hp with rfl | rfl <;> rcases hp' with rfl | rfl
        · exact ⟨rfl, rfl, rfl⟩
        · exact absurd (hd.trans hd'.symm) hstretched
        · exact absurd (hd'.trans hd.symm) hstretched
        · exact ⟨rfl, rfl, rfl⟩
      · exact absurd hd' (argon2id_nil _ _)
    · exact absurd hd (argon2id_nil _ _)
  · intro ikm salt info ikm' salt' info' hq hq' heq
    have hpw : Kdf.hkdfSha256 primitives (stretched "pw").toList (zeros 16).toList Auk.skdInfo ≠
        Kdf.hkdfSha256 primitives (stretched "no").toList (zeros 16).toList Auk.skdInfo := by
      decide
    have hcode : ∀ p, p = "pw" ∨ p = "no" →
        Kdf.hkdfSha256 primitives (stretched p).toList (zeros 16).toList Auk.skdInfo ≠
          Kdf.hkdfSha256 primitives (Bytes.ofString (b64 (zeros 20).toList)) []
            Flows.recoveryInfo := by
      rintro p (rfl | rfl) <;> decide
    have hpasskey : ∀ p, p = "pw" ∨ p = "no" →
        Kdf.hkdfSha256 primitives (stretched p).toList (zeros 16).toList Auk.skdInfo ≠
          Kdf.hkdfSha256 primitives passkey.toList [] Flows.prfInfo := by
      rintro p (rfl | rfl) <;> decide
    have hother : Kdf.hkdfSha256 primitives (Bytes.ofString (b64 (zeros 20).toList)) []
        Flows.recoveryInfo ≠ Kdf.hkdfSha256 primitives passkey.toList [] Flows.prfInfo := by
      decide
    rcases mem_queries hq with ⟨p, s, h, -⟩ | ⟨p, h, hp⟩ | h | h <;> cases h <;>
      rcases mem_queries hq' with ⟨p', s', h', -⟩ | ⟨p', h', hp'⟩ | h' | h' <;> cases h'
    · rcases hp with rfl | rfl <;> rcases hp' with rfl | rfl
      · exact ⟨rfl, rfl, rfl⟩
      · exact absurd heq hpw
      · exact absurd heq.symm hpw
      · exact ⟨rfl, rfl, rfl⟩
    · exact absurd heq (hcode p hp)
    · exact absurd heq (hpasskey p hp)
    · exact absurd heq.symm (hcode p' hp')
    · exact ⟨rfl, rfl, rfl⟩
    · exact absurd heq hother
    · exact absurd heq.symm (hpasskey p' hp')
    · exact absurd heq.symm hother
    · exact ⟨rfl, rfl, rfl⟩

lemma exists_vault : ∃ out, Flows.createVaultProfile primitives "pw" "constrained" draws = .ok out ∧
    out.secretKey = b64 (zeros 16).toList ∧
    out.wrappedAukPassphrase.profile = .constrained ∧
    out.wrappedAukPassphrase.salt = b64 (zeros 16).toList ∧
    out.wrappedAukRecovery.profile = .constrained ∧ out.wrappedAukRecovery.salt = b64 [] :=
  ⟨_, rfl, rfl, rfl, rfl, rfl, rfl⟩

lemma createdInputs_subset {out : Flows.CreatedVault}
    (hprofile : out.wrappedAukPassphrase.profile = .constrained) :
    Account.createdInputs "pw" draws out ⊆ inputs := by
  rw [Account.createdInputs, hprofile]
  rintro i (rfl | rfl)
  · exact .inl rfl
  · exact .inr (.inl rfl)

lemma reachable_created {out : Flows.CreatedVault}
    (hout : Flows.createVaultProfile primitives "pw" "constrained" draws = .ok out)
    (hin : Account.createdInputs "pw" draws out ⊆ inputs) :
    (Account.machine primitives inputs).Reachable (Account.created primitives "pw" out) :=
  .init ⟨"pw", "constrained", draws, out, hout, hin, rfl⟩

end Reference

variable {P : Primitives} {I : Set KekInput}

/-! ### All routes open and agree -/

/-- Every route opens with the current credential, and to the same identity. -/
structure Account.RoutesAgree (P : Primitives) (a : Account) : Prop where
  unlockVault :
    Flows.unlockVault P a.passphrase a.secretKey a.wrappedAukPassphrase a.wrappedIdentity =
      .ok ⟨a.identitySecretB64⟩
  /-- White space around the recovery code does not matter. -/
  unlockRecovery : ∀ w₁ w₂, Text.IsBlank w₁ → Text.IsBlank w₂ →
    Flows.unlockRecovery P (w₁ ++ a.recoveryCode ++ w₂) a.wrappedAukRecovery a.wrappedIdentity =
      .ok ⟨a.identitySecretB64⟩
  unlockPrf : ∀ e ∈ a.prfs,
    Flows.unlockPrf P e.prfSecretB64 e.wrapped a.wrappedIdentity = .ok ⟨a.identitySecretB64⟩

namespace Account.Inv

variable {a : Account} {auk : Auk} {c : Credentials}

lemma unwrapIdentity (hC : P.XchachaCorrect) (h : a.Inv P I auk c) :
    Auk.unwrapIdentity P auk a.wrappedIdentity = .ok c.identity := by
  obtain ⟨nonce, hid⟩ := h.wrappedIdentity
  rw [hid, Auk.unwrapIdentity_wrapIdentity hC]

lemma trim_recoveryCode (h : a.Inv P I auk c) {w₁ w₂ : String} (h₁ : Text.IsBlank w₁)
    (h₂ : Text.IsBlank w₂) : Text.trim (w₁ ++ c.recoveryCode ++ w₂) = c.recoveryCode := by
  obtain ⟨rb, hrb⟩ := h.recoveryText
  exact Text.trim_blank_append h₁ h₂ (hrb ▸ noWhitespace_b64 rb)

lemma routesAgree (hC : P.XchachaCorrect) (h : a.Inv P I auk c) : a.RoutesAgree P where
  unlockVault := by
    rw [h.identitySecret]
    exact Flows.unlockVault_eq_ok.mpr
      ⟨auk, c.identity, h.unlockAuk_current, h.unwrapIdentity hC, rfl⟩
  unlockRecovery := by
    intro w₁ w₂ h₁ h₂
    rw [h.recoveryCode, h.identitySecret]
    refine Flows.unlockRecovery_eq_ok.mpr ⟨auk, c.identity, ?_, h.unwrapIdentity hC, rfl⟩
    rw [Flows.recoveryInput, h.trim_recoveryCode h₁ h₂]
    exact h.wrappedAukRecovery.opens
  unlockPrf := by
    intro e he
    rw [h.identitySecret]
    exact Flows.unlockPrf_eq_ok.mpr
      ⟨auk, c.identity, h.aukFromPrf_current he, h.unwrapIdentity hC, rfl⟩

end Account.Inv

/-- No run locks the user out or splits the account: in every account reached, the passphrase
with the Secret Key, the recovery code and every enrolled passkey open the vault to the identity
that was returned last. -/
theorem Account.routesAgree_of_reachable (hC : P.XchachaCorrect) (hK : P.XchachaCommits)
    (hI : KekInput.CollisionFree P I) {a : Account} (h : (Account.machine P I).Reachable a) :
    a.RoutesAgree P := by
  obtain ⟨c, -, auk, hinv⟩ := (Account.simulates hC hK hI).reachable h
  exact hinv.routesAgree hC

/-! ### A vault that is used -/

namespace Reference

/-- An account around the AUK, with this passphrase and with the Secret Key and the salt of the
new vault. -/
structure HasPassphrase (auk : Auk) (a : Account) (p : String) : Prop where
  known : p = "pw" ∨ p = "no"
  inv : ∃ c, a.Inv primitives inputs auk c
  passphrase : a.passphrase = p
  secretKey : a.secretKey = b64 (zeros 16).toList
  inputs_eq : ∀ q, Flows.passphraseInputs primitives q a.secretKey a.wrappedAukPassphrase =
    {.passphrase (Bytes.ofString q) (zeros 16).toList .constrained (zeros 16)}

lemma mem_inputs {p : String} (hp : p = "pw" ∨ p = "no") :
    .passphrase (Bytes.ofString p) (zeros 16).toList .constrained (zeros 16) ∈ inputs := by
  rcases hp with rfl | rfl
  · exact .inl rfl
  · exact .inr (.inr (.inl rfl))

lemma hasPassphrase_created {d : Flows.VaultDraws} {out : Flows.CreatedVault}
    (hout : Flows.createVaultProfile primitives "pw" "constrained" d = .ok out)
    (hin : Account.createdInputs "pw" d out ⊆ inputs)
    (hsk : out.secretKey = b64 (zeros 16).toList)
    (hprofile : out.wrappedAukPassphrase.profile = .constrained)
    (hsalt : out.wrappedAukPassphrase.salt = b64 (zeros 16).toList) :
    HasPassphrase d.auk (Account.created primitives "pw" out) "pw" where
  known := .inl rfl
  inv := ⟨_, Account.inv_created xchachaCorrect xchachaCommits hout hin⟩
  passphrase := rfl
  secretKey := hsk
  inputs_eq q := by
    simp only [Account.created]
    rw [hsk, Flows.passphraseInputs_write hsalt, hprofile]

lemma exists_created : ∃ out,
    Flows.createVaultProfile primitives "pw" "constrained" draws = .ok out ∧
      Account.createdInputs "pw" draws out ⊆ inputs ∧
      HasPassphrase draws.auk (Account.created primitives "pw" out) "pw" := by
  obtain ⟨out, hout, hsk, hprofile, hsalt, -⟩ := exists_vault
  have hin := createdInputs_subset hprofile
  exact ⟨out, hout, hin, hasPassphrase_created hout hin hsk hprofile hsalt⟩

namespace HasPassphrase

variable {auk : Auk} {a : Account} {p q : String}

lemma unlockAuk (h : HasPassphrase auk a p) :
    Flows.unlockAuk primitives p a.secretKey a.wrappedAukPassphrase = .ok auk := by
  obtain ⟨c, hc⟩ := h.inv
  rw [← h.passphrase]
  exact hc.unlockAuk_current

lemma subset (h : HasPassphrase auk a p) (hq : q = "pw" ∨ q = "no") :
    Flows.passphraseInputs primitives q a.secretKey a.wrappedAukPassphrase ⊆ inputs := by
  rw [h.inputs_eq]
  rintro i rfl
  exact mem_inputs hq

/-- A call with the passphrase changes it. -/
lemma changePassphrase (h : HasPassphrase auk a p) (hq : q = "pw" ∨ q = "no") :
    ∃ t, (Account.machine primitives inputs).step a
        (.changePassphrase p a.secretKey q (zeros 16) (zeros 24))
        { a with wrappedAukPassphrase := t, passphrase := q } ∧
      HasPassphrase auk { a with wrappedAukPassphrase := t, passphrase := q } q := by
  obtain ⟨c, hc⟩ := h.inv
  obtain ⟨w, hw⟩ : ∃ w, Auk.wrapWithPassphrase primitives auk (Bytes.ofString q) (zeros 16)
      .constrained (zeros 16) (zeros 24) = .ok w :=
    ⟨_, Auk.wrapWithPassphrase_eq_ok.mpr
      ⟨_, KekInput.kek_passphrase_eq_ok.mpr ⟨_, argon2id_zeros q, rfl⟩, rfl⟩⟩
  have hin : a.inputs primitives (.changePassphrase p a.secretKey q (zeros 16) (zeros 24)) ⊆
      inputs := by
    rintro i (hi | ⟨key, hkey, rfl⟩)
    · exact h.subset h.known hi
    · rw [h.secretKey, Flows.parseSk_b64, Outcome.ok.injEq] at hkey
      subst hkey
      exact mem_inputs hq
  have hcall := Flows.changePassphrase_eq_ok.mpr
    ⟨_, _, w, h.unlockAuk, Flows.parseSk_eq_ok.mpr h.secretKey, hw, rfl⟩
  have hinv := hc.rewrap xchachaCorrect xchachaCommits hw (mem_inputs hq)
  rw [← h.secretKey] at hinv
  obtain ⟨kek, -, hweq⟩ := Auk.wrapWithPassphrase_eq_ok.mp hw
  have hsalt : w.salt = b64 (zeros 16).toList := by rw [hweq]
  have hprofile : w.profile = .constrained := Auk.profile_of_params (by rw [hweq])
  refine ⟨primitives.wrappedAukJson.write w, ⟨hin, ?_⟩, hq, ⟨_, hinv⟩, rfl, h.secretKey,
    fun q' => ?_⟩
  · simp only [Account.step, hcall]
  · rw [h.secretKey, Flows.passphraseInputs_write hsalt, hprofile]

/-- A call with the passphrase makes a new identity. -/
lemma rotateIdentity (h : HasPassphrase auk a p) (signSeed kemSeed : ByteArr 32) :
    ∃ out, Flows.rotateIdentity primitives p a.secretKey a.wrappedAukPassphrase a.wrappedIdentity
        signSeed kemSeed (zeros 24) = .ok out ∧
      out.identitySecretB64 = b64 (Identity.generate signSeed kemSeed).toSecretBytes ∧
      (Account.machine primitives inputs).step a
        (.rotateIdentity p a.secretKey signSeed kemSeed (zeros 24))
        { a with
          wrappedIdentity := out.wrappedIdentity
          identitySecretB64 := out.identitySecretB64
          signPubkey := out.signPubkey
          kemPubkey := out.kemPubkey } ∧
      HasPassphrase auk { a with
        wrappedIdentity := out.wrappedIdentity
        identitySecretB64 := out.identitySecretB64
        signPubkey := out.signPubkey
        kemPubkey := out.kemPubkey } p := by
  obtain ⟨c, hc⟩ := h.inv
  obtain ⟨out, hcall, hsecret, hwrapped⟩ : ∃ out, Flows.rotateIdentity primitives p a.secretKey
      a.wrappedAukPassphrase a.wrappedIdentity signSeed kemSeed (zeros 24) = .ok out ∧
        out.identitySecretB64 = b64 (Identity.generate signSeed kemSeed).toSecretBytes ∧
        out.wrappedIdentity =
          Auk.wrapIdentity primitives auk (Identity.generate signSeed kemSeed) (zeros 24) :=
    ⟨_, Flows.rotateIdentity_eq_ok.mpr
      ⟨_, _, h.unlockAuk, hc.unwrapIdentity xchachaCorrect, rfl⟩, rfl, rfl⟩
  refine ⟨out, hcall, hsecret, ⟨h.subset h.known, ?_⟩, { h with
    inv := ⟨{ c with identity := Identity.generate signSeed kemSeed }, { hc with
      identitySecret := hsecret, wrappedIdentity := ⟨_, hwrapped⟩ }⟩ }⟩
  simp only [Account.step, hcall]

/-- A call with the passphrase enrols the passkey. -/
lemma enrollPrf (h : HasPassphrase auk a p) :
    ∃ t, (Account.machine primitives inputs).step a
        (.enrollPrf p a.secretKey (b64 passkey.toList) (zeros 24))
        { a with prfs := a.prfs ++ [⟨b64 passkey.toList, t⟩] } ∧
      HasPassphrase auk { a with prfs := a.prfs ++ [⟨b64 passkey.toList, t⟩] } p := by
  obtain ⟨c, hc⟩ := h.inv
  have hsecret : Flows.unb64 primitives (b64 passkey.toList) = .ok passkey.toList :=
    Flows.unb64_eq_ok.mpr rfl
  have hmem : .prf passkey.toList ∈ inputs := .inr (.inr (.inr (.inr rfl)))
  have hkek := Flows.prfKek_eq_ok.mpr ⟨_, ⟨_, hsecret, rfl⟩, rfl⟩
  obtain ⟨t, hcall, hw⟩ : ∃ t, Flows.enrollPrf primitives p a.secretKey a.wrappedAukPassphrase
      (b64 passkey.toList) (zeros 24) = .ok t ∧
        Wraps primitives inputs t (.prf passkey.toList) auk :=
    ⟨_, Flows.enrollPrf_eq_ok.mpr ⟨_, _, h.unlockAuk, hkek, rfl⟩,
      wraps_wrapWithKek xchachaCorrect xchachaCommits rfl hmem _ _⟩
  have hin : a.inputs primitives (.enrollPrf p a.secretKey (b64 passkey.toList) (zeros 24)) ⊆
      inputs := by
    rintro i (hi | ⟨secret, hs, rfl⟩)
    · exact h.subset h.known hi
    · rw [hsecret, Outcome.ok.injEq] at hs
      exact hs ▸ hmem
  refine ⟨t, ⟨hin, ?_⟩, { h with inv := ⟨{ c with
    prfSecrets := c.prfSecrets ++ [passkey.toList] }, ?_⟩ }⟩
  · simp only [Account.step, hcall]
  · exact { hc with prfs := List.rel_append hc.prfs (.cons ⟨rfl, hw⟩ .nil) }

end HasPassphrase

/-- From a new vault, a run that rotates the identity, enrols a passkey and changes the
passphrase. -/
lemma exists_used : ∃ out a,
    Flows.createVaultProfile primitives "pw" "constrained" draws = .ok out ∧
      (Account.machine primitives inputs).Reachable (Account.created primitives "pw" out) ∧
      (Account.machine primitives inputs).Leads (Account.created primitives "pw" out) a ∧
      HasPassphrase draws.auk a "no" ∧ a.prfs.map Enrolment.prfSecretB64 = [b64 passkey.toList] ∧
      a.identitySecretB64 = b64 rotatedIdentity.toSecretBytes := by
  obtain ⟨out, hout, hin, hcreated⟩ := exists_created
  obtain ⟨rotated, -, hid, hrotate, hrotated⟩ :=
    hcreated.rotateIdentity (fit 32 [1]) (fit 32 [1])
  obtain ⟨t, henroll, henrolled⟩ := hrotated.enrollPrf
  obtain ⟨t', hchange, hchanged⟩ := henrolled.changePassphrase (.inr rfl)
  exact ⟨out, _, hout, reachable_created hout hin,
    .step (.step (.step .refl hrotate) henroll) hchange, hchanged, rfl, hid⟩

/-- After that run, the new passphrase and the passkey open the vault to the new identity. -/
theorem routesAgree_used : ∃ out a,
    Flows.createVaultProfile primitives "pw" "constrained" draws = .ok out ∧
      (Account.machine primitives inputs).Leads (Account.created primitives "pw" out) a ∧
      a.passphrase = "no" ∧ a.prfs.map Enrolment.prfSecretB64 = [b64 passkey.toList] ∧
      a.identitySecretB64 = b64 rotatedIdentity.toSecretBytes ∧
      a.RoutesAgree primitives := by
  obtain ⟨out, a, hout, hreach, hrun, hpw, hprfs, hid⟩ := exists_used
  exact ⟨out, a, hout, hrun, hpw.passphrase, hprfs, hid, Account.routesAgree_of_reachable
    xchachaCorrect xchachaCommits collisionFree_inputs (hreach.leads hrun)⟩

end Reference

/-! ### Each route opens for the current credential only -/

/-- The call returned a value. -/
def Account.Accepts (P : Primitives) (a : Account) : Op → Prop
  | .changePassphrase oldPassphrase secretKeyB64 newPassphrase salt nonce =>
    ∃ out, Flows.changePassphrase P oldPassphrase secretKeyB64 a.wrappedAukPassphrase
      newPassphrase salt nonce = .ok out
  | .resetPassphrase recoveryCode secretKeyB64 newPassphrase salt nonce =>
    ∃ out, Flows.resetPassphrase P recoveryCode a.wrappedAukRecovery secretKeyB64 newPassphrase
      salt nonce = .ok out
  | .rotateSecretKey passphrase oldSecretKeyB64 newSk salt nonce =>
    ∃ out, Flows.rotateSecretKey P passphrase oldSecretKeyB64 a.wrappedAukPassphrase newSk salt
      nonce = .ok out
  | .rotateRecoveryCode passphrase secretKeyB64 rb nonce =>
    ∃ out, Flows.rotateRecoveryCode P passphrase secretKeyB64 a.wrappedAukPassphrase rb nonce =
      .ok out
  | .rotateIdentity passphrase secretKeyB64 signSeed kemSeed nonce =>
    ∃ out, Flows.rotateIdentity P passphrase secretKeyB64 a.wrappedAukPassphrase
      a.wrappedIdentity signSeed kemSeed nonce = .ok out
  | .enrollPrf passphrase secretKeyB64 prfSecretB64 nonce =>
    ∃ out, Flows.enrollPrf P passphrase secretKeyB64 a.wrappedAukPassphrase prfSecretB64 nonce =
      .ok out
  | .amkEnsure passphrase secretKeyB64 seed nonce =>
    ∃ out, Flows.amkEnsure P passphrase secretKeyB64 a.wrappedAukPassphrase a.wrappedAmk seed
      nonce = .ok out
  | .amkEnsurePrf i prfSecretB64 seed nonce =>
    ∃ e out, a.prfs[i]? = some e ∧
      Flows.amkEnsurePrf P prfSecretB64 e.wrapped a.wrappedAmk seed nonce = .ok out

/-- Two texts decode to one Secret Key. -/
def SameSecretKey (P : Primitives) (s t : String) : Prop :=
  ∃ secretKey, Flows.parseSk P s = .ok secretKey ∧ Flows.parseSk P t = .ok secretKey

/-- Two texts decode to one passkey secret. -/
def SamePrfSecret (P : Primitives) (s t : String) : Prop :=
  ∃ secret, Flows.unb64 P s = .ok secret ∧ Flows.unb64 P t = .ok secret

/-- The credentials that the call presents are the current ones. -/
def Account.Presents (P : Primitives) (a : Account) : Op → Prop
  | .changePassphrase passphrase secretKeyB64 _ _ _ | .rotateSecretKey passphrase secretKeyB64 _ _ _
  | .rotateRecoveryCode passphrase secretKeyB64 _ _ | .rotateIdentity passphrase secretKeyB64 _ _ _
  | .enrollPrf passphrase secretKeyB64 _ _ | .amkEnsure passphrase secretKeyB64 _ _ =>
    passphrase = a.passphrase ∧ SameSecretKey P secretKeyB64 a.secretKey
  | .resetPassphrase recoveryCode _ _ _ _ => Text.trim recoveryCode = a.recoveryCode
  | .amkEnsurePrf i prfSecretB64 _ _ =>
    ∃ e, a.prfs[i]? = some e ∧ SamePrfSecret P prfSecretB64 e.prfSecretB64

/-- Each route opens for the current credential and for no other of those in play, and no call
accepts another one. -/
structure Account.OpensExactly (P : Primitives) (I : Set KekInput) (a : Account) : Prop where
  unlockVault : ∀ p sk, Flows.passphraseInputs P p sk a.wrappedAukPassphrase ⊆ I →
    ((∃ out, Flows.unlockVault P p sk a.wrappedAukPassphrase a.wrappedIdentity = .ok out) ↔
      p = a.passphrase ∧ SameSecretKey P sk a.secretKey)
  unlockRecovery : ∀ code, Flows.recoveryInput code ∈ I →
    ((∃ out, Flows.unlockRecovery P code a.wrappedAukRecovery a.wrappedIdentity = .ok out) ↔
      Text.trim code = a.recoveryCode)
  unlockPrf : ∀ e ∈ a.prfs, ∀ s, Flows.prfInputs P s ⊆ I →
    ((∃ out, Flows.unlockPrf P s e.wrapped a.wrappedIdentity = .ok out) ↔
      SamePrfSecret P s e.prfSecretB64)
  call : ∀ op, a.inputs P op ⊆ I → a.Accepts P op → a.Presents P op

lemma sameSecretKey_b64 {s : String} {secretKey : SecretKey} :
    SameSecretKey P s (b64 secretKey.toList) ↔ s = b64 secretKey.toList := by
  constructor
  · rintro ⟨key, hs, hkey⟩
    rw [Flows.parseSk_b64, Outcome.ok.injEq] at hkey
    rw [Flows.parseSk_eq_ok.mp hs, hkey]
  · rintro rfl
    exact ⟨secretKey, Flows.parseSk_b64 _, Flows.parseSk_b64 _⟩

lemma samePrfSecret_b64 {s : String} {secret : Bytes} :
    SamePrfSecret P s (b64 secret) ↔ s = b64 secret := by
  constructor
  · rintro ⟨secret', hs, hsecret⟩
    rw [Flows.unb64_eq_ok.mp hs, Flows.unb64_eq_ok.mp hsecret]
  · rintro rfl
    exact ⟨secret, Flows.unb64_eq_ok.mpr rfl, Flows.unb64_eq_ok.mpr rfl⟩

namespace Account.Inv

variable {a : Account} {auk : Auk} {c : Credentials}

lemma presents_of_unlockAuk (hI : KekInput.CollisionFree P I) (h : a.Inv P I auk c)
    {p sk : String} {auk' : Auk} (hin : Flows.passphraseInputs P p sk a.wrappedAukPassphrase ⊆ I)
    (hauk : Flows.unlockAuk P p sk a.wrappedAukPassphrase = .ok auk') :
    p = a.passphrase ∧ SameSecretKey P sk a.secretKey := by
  obtain ⟨hp, hsk, -⟩ := (h.unlockAuk_eq_ok hI hin).mp hauk
  rw [h.passphrase, h.secretKey, sameSecretKey_b64]
  exact ⟨hp, hsk⟩

lemma samePrfSecret_of_aukFromPrf (hI : KekInput.CollisionFree P I) (h : a.Inv P I auk c)
    {e : Enrolment} (he : e ∈ a.prfs) {s : String} (hin : Flows.prfInputs P s ⊆ I) {auk' : Auk}
    (hauk : Flows.aukFromPrf P s e.wrapped = .ok auk') : SamePrfSecret P s e.prfSecretB64 := by
  obtain ⟨secret, hs, hw⟩ := h.exists_secret he
  rw [hs, samePrfSecret_b64]
  exact ((aukFromPrf_eq_ok hI hw hin).mp hauk).1

lemma presents_of_accepts (hI : KekInput.CollisionFree P I) (h : a.Inv P I auk c) {op : Op}
    (hin : a.inputs P op ⊆ I) (hop : a.Accepts P op) : a.Presents P op := by
  cases op with
  | changePassphrase =>
    obtain ⟨out, hout⟩ := hop
    obtain ⟨_, _, _, hauk, -⟩ := Flows.changePassphrase_eq_ok.mp hout
    exact h.presents_of_unlockAuk hI (fun i hi => hin (.inl hi)) hauk
  | resetPassphrase =>
    obtain ⟨out, hout⟩ := hop
    obtain ⟨_, _, _, hauk, -⟩ := Flows.resetPassphrase_eq_ok.mp hout
    exact ((h.opens_recovery_iff hI (hin (.inl rfl))).mp hauk).1.trans h.recoveryCode.symm
  | rotateSecretKey =>
    obtain ⟨out, hout⟩ := hop
    obtain ⟨_, _, hauk, -⟩ := Flows.rotateSecretKey_eq_ok.mp hout
    exact h.presents_of_unlockAuk hI (fun i hi => hin (.inl hi)) hauk
  | rotateRecoveryCode =>
    obtain ⟨out, hout⟩ := hop
    obtain ⟨_, hauk, -⟩ := Flows.rotateRecoveryCode_eq_ok.mp hout
    exact h.presents_of_unlockAuk hI (fun i hi => hin (.inl hi)) hauk
  | rotateIdentity =>
    obtain ⟨out, hout⟩ := hop
    obtain ⟨_, _, hauk, -⟩ := Flows.rotateIdentity_eq_ok.mp hout
    exact h.presents_of_unlockAuk hI hin hauk
  | enrollPrf =>
    obtain ⟨out, hout⟩ := hop
    obtain ⟨_, _, hauk, -⟩ := Flows.enrollPrf_eq_ok.mp hout
    exact h.presents_of_unlockAuk hI (fun i hi => hin (.inl hi)) hauk
  | amkEnsure =>
    obtain ⟨out, hout⟩ := hop
    obtain ⟨_, _, hauk, -⟩ := Flows.amkEnsure_eq_ok.mp hout
    exact h.presents_of_unlockAuk hI hin hauk
  | amkEnsurePrf =>
    obtain ⟨e, out, he, hout⟩ := hop
    obtain ⟨_, _, hauk, -⟩ := Flows.amkEnsurePrf_eq_ok.mp hout
    exact ⟨e, he, h.samePrfSecret_of_aukFromPrf hI (List.mem_of_getElem? he) hin hauk⟩

lemma opensExactly (hC : P.XchachaCorrect) (hI : KekInput.CollisionFree P I)
    (h : a.Inv P I auk c) : a.OpensExactly P I where
  unlockVault := by
    intro p sk hin
    constructor
    · rintro ⟨out, hout⟩
      obtain ⟨_, _, hauk, -⟩ := Flows.unlockVault_eq_ok.mp hout
      exact h.presents_of_unlockAuk hI hin hauk
    · rintro ⟨rfl, hsk⟩
      rw [h.secretKey, sameSecretKey_b64] at hsk
      rw [hsk, ← h.secretKey]
      exact ⟨_, (h.routesAgree hC).unlockVault⟩
  unlockRecovery := by
    intro code hin
    constructor
    · rintro ⟨out, hout⟩
      obtain ⟨_, _, hauk, -⟩ := Flows.unlockRecovery_eq_ok.mp hout
      exact ((h.opens_recovery_iff hI hin).mp hauk).1.trans h.recoveryCode.symm
    · intro hcode
      have ho : Opens P a.wrappedAukRecovery (Flows.recoveryInput code) auk :=
        (h.opens_recovery_iff hI hin).mpr ⟨hcode.trans h.recoveryCode, rfl⟩
      exact ⟨_, Flows.unlockRecovery_eq_ok.mpr ⟨auk, _, ho, h.unwrapIdentity hC, rfl⟩⟩
  unlockPrf := by
    intro e he s hin
    constructor
    · rintro ⟨out, hout⟩
      obtain ⟨_, _, hauk, -⟩ := Flows.unlockPrf_eq_ok.mp hout
      exact h.samePrfSecret_of_aukFromPrf hI he hin hauk
    · intro hs
      obtain ⟨secret, hsec, -⟩ := h.exists_secret he
      rw [hsec, samePrfSecret_b64] at hs
      rw [hs, ← hsec]
      exact ⟨_, (h.routesAgree hC).unlockPrf e he⟩
  call := fun _ hin hop => h.presents_of_accepts hI hin hop

end Account.Inv

/-- Revocation is exact: in every account reached, each route opens if and only if the current
credential is presented, so a superseded one is refused unless it equals the current one, and
so it is by every call that changes the account. -/
theorem Account.opensExactly_of_reachable (hC : P.XchachaCorrect) (hK : P.XchachaCommits)
    (hI : KekInput.CollisionFree P I) {a : Account} (h : (Account.machine P I).Reachable a) :
    a.OpensExactly P I := by
  obtain ⟨c, -, auk, hinv⟩ := (Account.simulates hC hK hI).reachable h
  exact hinv.opensExactly hC hI

/-- The passphrase `pw` of the new vault is refused after that run. -/
theorem Reference.unlockVault_superseded : ∃ out a,
    Flows.createVaultProfile primitives "pw" "constrained" draws = .ok out ∧
      (Account.machine primitives inputs).Leads (Account.created primitives "pw" out) a ∧
      a.passphrase = "no" ∧
      ¬∃ o, Flows.unlockVault primitives "pw" a.secretKey a.wrappedAukPassphrase
        a.wrappedIdentity = .ok o := by
  obtain ⟨out, a, hout, hreach, hrun, hpw, -⟩ := exists_used
  have hexact := Account.opensExactly_of_reachable xchachaCorrect xchachaCommits
    collisionFree_inputs (hreach.leads hrun)
  refine ⟨out, a, hout, hrun, hpw.passphrase, fun hopen => ?_⟩
  have hold := ((hexact.unlockVault "pw" a.secretKey (hpw.subset (.inl rfl))).mp hopen).1
  rw [hpw.passphrase] at hold
  exact absurd hold (by decide)

end PockCore
