import PockCore.Vault.Slots

/-!
# The flows that open a wrapped AUK

Thirteen flows start by unwrapping the AUK, each from a wrap for one of three kinds of credential.
Where that fails, the flow returns one error, which the kind of the credential determines.
-/

namespace PockCore

variable {P : Primitives}

/-! ### Keys that a wrap refuses -/

namespace Auk

variable {w : WrappedAuk} {auk : Auk} {key : ByteArr 32} {nonce : Nonce}

lemma unwrapWithKek_of_ne (hX : P.XchachaCommits) {kek : ByteArr 32} (hv : w.v = 1)
    (hb : w.blob = b64 (Aead.sealBlob P key auk.toList nonce)) (hne : kek ≠ key) :
    unwrapWithKek P w kek = .err .wrongKey := by
  rw [unwrapWithKek, if_neg (not_not.mpr hv), hb, unb64_b64, Outcome.ok_bind,
    Aead.openBlob_sealBlob_of_ne hX hne, Outcome.err_bind]

/-- Two factors open a wrap exactly if they derive its key, with the profile that is read off it. -/
lemma isErr_unwrapWithPassphrase_iff (hC : P.XchachaCorrect) (hX : P.XchachaCommits) {salt : Bytes}
    (hv : w.v = 1) (hs : w.salt = b64 salt)
    (hb : w.blob = b64 (Aead.sealBlob P key auk.toList nonce)) {passphrase : Bytes}
    {secretKey : SecretKey} :
    (unwrapWithPassphrase P w passphrase secretKey).IsErr ↔
      derivePassphraseKek P passphrase salt secretKey w.profile ≠ .ok key := by
  have hsalt : unb64 P w.salt = .ok salt := by rw [hs, unb64_b64]
  constructor
  · intro h hkey
    have hopen : unwrapWithKek P w key = .ok auk :=
      unwrapWithKek_eq_ok.mpr ⟨hv, _, hb, Aead.openBlob_sealBlob hC _ _ _⟩
    exact h.ne_ok auk (unwrapWithPassphrase_eq_ok.mpr ⟨salt, key, hsalt, hkey, hopen⟩)
  · intro hne
    apply Outcome.isErr_of_ne unwrapWithPassphrase_ne_panic
    intro auk' hok
    obtain ⟨salt', kek, hsalt', hkek, hopen⟩ := unwrapWithPassphrase_eq_ok.mp hok
    rw [hsalt, Outcome.ok.injEq] at hsalt'
    subst hsalt'
    have hkek_ne : kek ≠ key := by
      rintro rfl
      exact hne hkek
    rw [unwrapWithKek_of_ne hX hv hb hkek_ne] at hopen
    cases hopen

end Auk

namespace Flows

/-! ### Credentials -/

/-- What the caller presents to open a wrap. -/
inductive Credential where
  | passphrase (passphrase secretKeyB64 : String)
  | recovery (recoveryCode : String)
  | prf (prfSecretB64 : String)

namespace Credential

/-- The text of the error that every flow makes of a failure to unwrap. -/
def message : Credential → String
  | .passphrase .. => "wrong passphrase or secret key"
  | .recovery _ => "wrong recovery code"
  | .prf _ => "touch id unlock failed"

/-- The base64 of the credential, if there is any, decodes to the right length. -/
def WellFormed (P : Primitives) : Credential → Prop
  | passphrase _ secretKeyB64 => ∃ secretKey, parseSk P secretKeyB64 = .ok secretKey
  | recovery _ => True
  | prf prfSecretB64 => ∃ secret, unb64 P prfSecretB64 = .ok secret

/-- The wrap, unwrapped with the credential. -/
def unwrap (P : Primitives) (w : WrappedAuk) : Credential → Result Auk
  | passphrase p secretKeyB64 => do
    let secretKey ← parseSk P secretKeyB64
    Auk.unwrapWithPassphrase P w (Bytes.ofString p) secretKey
  | recovery recoveryCode =>
    Auk.unwrapWithKek P w
      (Kdf.hkdfSha256 P (Bytes.ofString (Text.trim recoveryCode)) [] recoveryInfo)
  | prf prfSecretB64 => do
    let kek ← prfKek P prfSecretB64
    Auk.unwrapWithKek P w kek

end Credential

/-! ### Calls -/

/-- A call of one of the flows, with all its arguments but the text of the wrap. -/
inductive WrapCall where
  | unlockVault (passphrase secretKeyB64 wrappedIdentityB64 : String)
  | changePassphrase (oldPassphrase secretKeyB64 newPassphrase : String) (salt : ByteArr 16)
    (nonce : Nonce)
  | rotateSecretKey (passphrase oldSecretKeyB64 : String) (newSk salt : ByteArr 16)
    (nonce : Nonce)
  | rotateRecoveryCode (passphrase secretKeyB64 : String) (rb : ByteArr 20) (nonce : Nonce)
  | rotateIdentity (passphrase secretKeyB64 oldWrappedIdentityB64 : String)
    (signSeed kemSeed : ByteArr 32) (nonce : Nonce)
  | enrollPrf (passphrase secretKeyB64 prfSecretB64 : String) (nonce : Nonce)
  | amkEnsure (passphrase secretKeyB64 existingWrappedAmk : String) (seed : ByteArr 32)
    (nonce : Nonce)
  | amkSign (passphrase secretKeyB64 wrappedAmk : String) (msg : Bytes)
  | unlockRecovery (recoveryCode wrappedIdentityB64 : String)
  | resetPassphrase (recoveryCode secretKeyB64 newPassphrase : String) (salt : ByteArr 16)
    (nonce : Nonce)
  | unlockPrf (prfSecretB64 wrappedIdentityB64 : String)
  | amkEnsurePrf (prfSecretB64 existingWrappedAmk : String) (seed : ByteArr 32) (nonce : Nonce)
  | amkSignPrf (prfSecretB64 wrappedAmk : String) (msg : Bytes)

namespace WrapCall

def credential : WrapCall → Credential
  | unlockVault p sk _ | changePassphrase p sk _ _ _ | rotateSecretKey p sk _ _ _
  | rotateRecoveryCode p sk _ _ | rotateIdentity p sk _ _ _ _ | enrollPrf p sk _ _
  | amkEnsure p sk _ _ _ | amkSign p sk _ _ => .passphrase p sk
  | unlockRecovery code _ | resetPassphrase code _ _ _ _ => .recovery code
  | unlockPrf s _ | amkEnsurePrf s _ _ _ | amkSignPrf s _ _ => .prf s

/-- The call on the text of a wrap. -/
def run (P : Primitives) (json : String) : WrapCall → Result Unit
  | unlockVault p sk wid => (Flows.unlockVault P p sk json wid).void
  | changePassphrase p sk new salt nonce =>
    (Flows.changePassphrase P p sk json new salt nonce).void
  | rotateSecretKey p sk newSk salt nonce =>
    (Flows.rotateSecretKey P p sk json newSk salt nonce).void
  | rotateRecoveryCode p sk rb nonce => (Flows.rotateRecoveryCode P p sk json rb nonce).void
  | rotateIdentity p sk wid signSeed kemSeed nonce =>
    (Flows.rotateIdentity P p sk json wid signSeed kemSeed nonce).void
  | enrollPrf p sk s nonce => (Flows.enrollPrf P p sk json s nonce).void
  | amkEnsure p sk existing seed nonce => (Flows.amkEnsure P p sk json existing seed nonce).void
  | amkSign p sk wrappedAmk msg => (Flows.amkSign P p sk json wrappedAmk msg).void
  | unlockRecovery code wid => (Flows.unlockRecovery P code json wid).void
  | resetPassphrase code sk new salt nonce =>
    (Flows.resetPassphrase P code json sk new salt nonce).void
  | unlockPrf s wid => (Flows.unlockPrf P s json wid).void
  | amkEnsurePrf s existing seed nonce => (Flows.amkEnsurePrf P s json existing seed nonce).void
  | amkSignPrf s wrappedAmk msg => (Flows.amkSignPrf P s json wrappedAmk msg).void

end WrapCall

/-! ### Failures to unwrap -/

variable {json : String} {w : WrappedAuk} {e : CoreError}

lemma unlockAuk_of_unwrap (hw : readWrappedAuk P json = .ok w) {p sk : String}
    (hsk : (Credential.passphrase p sk).WellFormed P)
    (h : (Credential.passphrase p sk).unwrap P w = .err e) :
    unlockAuk P p sk json = .err (.flow "wrong passphrase or secret key") := by
  obtain ⟨key, hkey⟩ := hsk
  rw [Credential.unwrap, hkey, Outcome.ok_bind] at h
  rw [unlockAuk, hw, Outcome.ok_bind, hkey, Outcome.ok_bind, h, Outcome.mapErr_err]

lemma aukFromPrf_of_unwrap (hw : readWrappedAuk P json = .ok w) {s : String}
    (hs : (Credential.prf s).WellFormed P) (h : (Credential.prf s).unwrap P w = .err e) :
    aukFromPrf P s json = .err (.flow "touch id unlock failed") := by
  obtain ⟨secret, hsecret⟩ := hs
  have hkek : prfKek P s = .ok (Kdf.hkdfSha256 P secret [] prfInfo) := by
    rw [prfKek, hsecret, Outcome.ok_bind]
  rw [Credential.unwrap, hkek, Outcome.ok_bind] at h
  rw [aukFromPrf, hw, Outcome.ok_bind, hkek, Outcome.ok_bind, h, Outcome.mapErr_err]

/-- Whatever the failure to unwrap is, the flow returns the error of its kind of credential. -/
lemma WrapCall.run_of_unwrap (hw : readWrappedAuk P json = .ok w) {call : WrapCall}
    (hwf : call.credential.WellFormed P) (h : call.credential.unwrap P w = .err e) :
    call.run P json = .err (.flow call.credential.message) := by
  cases call with
  | unlockVault p sk wid =>
    obtain ⟨key, hkey⟩ := hwf
    rw [credential, Credential.unwrap, hkey, Outcome.ok_bind] at h
    simp [run, Flows.unlockVault, hkey, hw, h, credential, Credential.message]
  | enrollPrf p sk s nonce =>
    obtain ⟨key, hkey⟩ := hwf
    rw [credential, Credential.unwrap, hkey, Outcome.ok_bind] at h
    simp [run, Flows.enrollPrf, hkey, hw, h, credential, Credential.message]
  | unlockRecovery code wid =>
    rw [credential, Credential.unwrap] at h
    simp [run, Flows.unlockRecovery, hw, h, credential, Credential.message]
  | resetPassphrase code sk new salt nonce =>
    rw [credential, Credential.unwrap] at h
    simp [run, Flows.resetPassphrase, hw, h, credential, Credential.message]
  | unlockPrf s | amkEnsurePrf s | amkSignPrf s =>
    have hauk := aukFromPrf_of_unwrap hw hwf h
    simp [run, Flows.unlockPrf_eq, Flows.amkEnsurePrf, Flows.amkSignPrf, hauk, credential,
      Credential.message]
  | changePassphrase p sk | rotateSecretKey p sk | rotateRecoveryCode p sk | rotateIdentity p sk
  | amkEnsure p sk | amkSign p sk =>
    have hauk := unlockAuk_of_unwrap hw hwf h
    simp [run, Flows.changePassphrase, Flows.rotateSecretKey, Flows.rotateRecoveryCode,
      Flows.rotateIdentity, Flows.amkEnsure, Flows.amkSign, hauk, credential, Credential.message]

/-! ### Wraps that nothing opens -/

/-- With such a wrap every flow fails, whatever else it is given. -/
lemma WrapCall.isErr_run (h : ∀ i auk, ¬Opens P json i auk) (call : WrapCall) :
    (call.run P json).IsErr := by
  have hauk : ∀ p sk, (unlockAuk P p sk json).IsErr := fun p sk => isErr_unlockAuk fun i _ => h i
  have hprf : ∀ s, (aukFromPrf P s json).IsErr := fun s => isErr_aukFromPrf fun i _ => h i
  cases call with
  | unlockVault p sk wid => exact Outcome.isErr_void.mpr (isErr_unlockVault (hauk p sk))
  | enrollPrf p sk s nonce => exact Outcome.isErr_void.mpr (isErr_enrollPrf (hauk p sk))
  | unlockRecovery code wid => exact Outcome.isErr_void.mpr (isErr_unlockRecovery (h _))
  | resetPassphrase code sk new salt nonce =>
    exact Outcome.isErr_void.mpr (isErr_resetPassphrase (h _))
  | unlockPrf s wid =>
    rw [run, unlockPrf_eq, Outcome.isErr_void]
    exact (hprf s).bind _
  | amkEnsurePrf s existing seed nonce => exact Outcome.isErr_void.mpr ((hprf s).bind _)
  | amkSignPrf s wrappedAmk msg => exact Outcome.isErr_void.mpr ((hprf s).bind _)
  | changePassphrase p sk | rotateSecretKey p sk | rotateRecoveryCode p sk | rotateIdentity p sk
  | amkEnsure p sk | amkSign p sk => exact Outcome.isErr_void.mpr ((hauk p sk).bind _)

end Flows

end PockCore
