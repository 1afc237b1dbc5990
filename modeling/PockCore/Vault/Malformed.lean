import PockCore.UniffiApi
import PockCore.Vault.Calls

/-!
# Malformed wraps

A flow that cannot unwrap the AUK drops the reason and reports the credential. So a wrap that no
credential could open, because it is malformed, is reported as a wrong credential as well.
-/

namespace PockCore

variable {P : Primitives}

namespace Flows

/-- The wrap can be read as JSON, but its version, its blob or, where the route needs one, its salt
is not one that can be used. -/
def Credential.Malformed (P : Primitives) (w : WrappedAuk) : Credential → Prop
  | .passphrase p _ => w.v ≠ 1 ∨ (PockCore.unb64 P w.blob).IsErr ∨
    (PockCore.unb64 P w.salt).IsErr ∨ ∃ salt, PockCore.unb64 P w.salt = .ok salt ∧
      (Kdf.argon2id P (Bytes.ofString p) salt w.profile).IsErr
  | .recovery _ | .prf _ => w.v ≠ 1 ∨ (PockCore.unb64 P w.blob).IsErr

variable {w : WrappedAuk}

lemma isErr_unwrapWithKek (h : w.v ≠ 1 ∨ (PockCore.unb64 P w.blob).IsErr) (kek : ByteArr 32) :
    (Auk.unwrapWithKek P w kek).IsErr := by
  unfold Auk.unwrapWithKek
  by_cases hv : w.v = 1
  · rw [if_neg (not_not.mpr hv)]
    exact (h.resolve_left (not_not.mpr hv)).bind _
  · rw [if_pos hv]
    exact Outcome.isErr_err _

/-- Each way of being malformed stops one of the calls in the chain. -/
lemma isErr_unwrapWithPassphrase {p sk : String}
    (h : (Credential.passphrase p sk).Malformed P w) (secretKey : SecretKey) :
    (Auk.unwrapWithPassphrase P w (Bytes.ofString p) secretKey).IsErr := by
  unfold Auk.unwrapWithPassphrase
  by_cases hv : w.v = 1
  · rw [if_neg (not_not.mpr hv)]
    refine Outcome.isErr_bind unb64_ne_panic fun salt hsalt => ?_
    refine Outcome.isErr_bind Auk.derivePassphraseKek_ne_panic fun kek hkek => ?_
    rcases h with h | hblob | hbad | ⟨salt', hsalt', hrefused⟩
    · exact absurd hv h
    · exact hblob.bind _
    · exact absurd hsalt (hbad.ne_ok salt)
    · rw [hsalt, Outcome.ok.injEq] at hsalt'
      subst hsalt'
      obtain ⟨d, hd, -⟩ := Outcome.bind_eq_ok.mp hkek
      exact absurd hd (hrefused.ne_ok d)
  · rw [if_pos hv]
    exact Outcome.isErr_err _

lemma isErr_unwrap {c : Credential} (hwf : c.WellFormed P) (h : c.Malformed P w) :
    (c.unwrap P w).IsErr := by
  cases c with
  | passphrase p sk =>
    obtain ⟨key, hkey⟩ := hwf
    rw [Credential.unwrap, hkey, Outcome.ok_bind]
    exact isErr_unwrapWithPassphrase h key
  | recovery code => exact isErr_unwrapWithKek h _
  | prf s =>
    exact Outcome.isErr_bind prfKek_ne_panic fun kek _ => isErr_unwrapWithKek h kek

lemma Credential.message_mem (c : Credential) : c.message ∈ CoreError.wrongCredentialMessages := by
  cases c with
  | passphrase p sk => exact List.mem_cons_self
  | recovery code => exact List.mem_cons_of_mem _ List.mem_cons_self
  | prf s => rw [message]; decide

/-- Every flow reports every malformed wrap as a wrong credential, however good the credential. -/
theorem WrapCall.isWrongCredential_of_malformed {json : String}
    (hw : readWrappedAuk P json = .ok w) {call : WrapCall} (hwf : call.credential.WellFormed P)
    (h : call.credential.Malformed P w) : IsWrongCredential (call.run P json) := by
  obtain ⟨e, he⟩ := isErr_unwrap hwf h
  rw [call.run_of_unwrap hw hwf he]
  exact .of_flow call.credential.message_mem

end Flows

namespace Reference

/-- A wrap of an unknown version. -/
def wrapTwo : WrappedAuk := ⟨2, "recovery", "", 0, 0, 0, ""⟩

/-- With a wrap of an unknown version, the passphrase and the Secret Key are reported. -/
theorem unlockVault_versionTwo :
    IsWrongCredential (Flows.WrapCall.run primitives (primitives.wrappedAukJson.write wrapTwo)
      (.unlockVault "pw" (b64 (fit 16 []).toList) "")) := by
  have hwf : (Flows.Credential.passphrase "pw" (b64 (fit 16 []).toList)).WellFormed primitives :=
    ⟨fit 16 [], Flows.parseSk_b64 _⟩
  have hmalformed : (Flows.Credential.passphrase "pw" (b64 (fit 16 []).toList)).Malformed
      primitives wrapTwo := .inl (by decide)
  exact @Flows.WrapCall.isWrongCredential_of_malformed primitives wrapTwo _
    (readWrappedAuk_write wrapTwo) (.unlockVault "pw" (b64 (fit 16 []).toList) "") hwf hmalformed

/-- With a wrap of an unknown version, the recovery code is reported: the error is one that the
binding converts to a wrong credential. -/
theorem unlockRecovery_versionTwo :
    Flows.readWrappedAuk primitives (primitives.wrappedAukJson.write wrapTwo) = .ok wrapTwo ∧
      wrapTwo.v ≠ 1 ∧
      ¬∀ e, Flows.unlockRecovery primitives "code" (primitives.wrappedAukJson.write wrapTwo) "" =
          .err e →
        ∀ message, PockCoreError.ofCoreError e ≠ .wrongCredential message := by
  refine ⟨readWrappedAuk_write wrapTwo, by decide, fun h => ?_⟩
  refine h (.flow "wrong recovery code") ?_ "wrong recovery code" (by decide)
  have hunwrap : ∀ kek, Auk.unwrapWithKek primitives wrapTwo kek =
      .err (.decode "unsupported wrapped-auk version: 2") := fun kek => rfl
  simp only [Flows.unlockRecovery, readWrappedAuk_write, Outcome.ok_bind, hunwrap]
  rfl

end Reference

end PockCore
