import PockCore.Vault.Clients
import PockCore.Vault.Slots

/-!
# The texts of two accounts

Accounts have AUKs of their own. What is sealed in one account is refused with the wraps of the
other, whatever the credentials, so whoever stores the texts cannot make an account of those of
two.
-/

namespace PockCore

variable {P : Primitives} {I J : Set KekInput}

/-! ### Sealed under another AUK -/

namespace Auk

variable {auk auk' : Auk}

lemma unwrapIdentity_of_ne (hK : P.XchachaCommits) (hne : auk ≠ auk') (id : Identity)
    (nonce : Nonce) : unwrapIdentity P auk (wrapIdentity P auk' id nonce) = .err .wrongKey := by
  rw [unwrapIdentity, wrapIdentity, unb64_b64, Outcome.ok_bind, Aead.openBlob_sealBlob_of_ne hK hne,
    Outcome.err_bind]

lemma unwrapSecret_of_ne (hK : P.XchachaCommits) (hne : auk ≠ auk') (plaintext : Bytes)
    (nonce : Nonce) : unwrapSecret P auk (wrapSecret P auk' plaintext nonce) = .err .wrongKey := by
  rw [unwrapSecret, wrapSecret, unb64_b64, Outcome.ok_bind, Aead.openBlob_sealBlob_of_ne hK hne]

end Auk

namespace Flows

variable {auk auk' : Auk}

lemma amkEnsureFromAuk_of_ne (hK : P.XchachaCommits) (hne : auk ≠ auk') (plaintext : Bytes)
    (nonce nonce' : Nonce) (seed : ByteArr 32) :
    amkEnsureFromAuk P auk (Auk.wrapSecret P auk' plaintext nonce) seed nonce' =
      .err .wrongKey := by
  rw [amkEnsureFromAuk, if_neg (Auk.wrapSecret_ne_empty _), Auk.unwrapSecret_of_ne hK hne,
    Outcome.err_bind]

lemma amkSignFromAuk_of_ne (hK : P.XchachaCommits) (hne : auk ≠ auk') (plaintext : Bytes)
    (nonce : Nonce) (msg : Bytes) :
    amkSignFromAuk P auk (Auk.wrapSecret P auk' plaintext nonce) msg = .err .wrongKey := by
  rw [amkSignFromAuk, Auk.unwrapSecret_of_ne hK hne, Outcome.err_bind]

end Flows

namespace Account

/-- With the wraps of `s`, no flow opens what is sealed in `b`, whatever the credentials. -/
structure RefusesForeign (P : Primitives) (s b : Account) : Prop where
  unlockVault : ∀ p sk, (Flows.unlockVault P p sk s.wrappedAukPassphrase b.wrappedIdentity).IsErr
  unlockRecovery : ∀ code,
    (Flows.unlockRecovery P code s.wrappedAukRecovery b.wrappedIdentity).IsErr
  unlockPrf : ∀ e ∈ s.prfs, ∀ secret,
    (Flows.unlockPrf P secret e.wrapped b.wrappedIdentity).IsErr
  rotateIdentity : ∀ p sk signSeed kemSeed nonce,
    (Flows.rotateIdentity P p sk s.wrappedAukPassphrase b.wrappedIdentity signSeed kemSeed
      nonce).IsErr
  amk : b.wrappedAmk ≠ "" → ∀ p sk,
    (∀ seed nonce,
      (Flows.amkEnsure P p sk s.wrappedAukPassphrase b.wrappedAmk seed nonce).IsErr) ∧
    ∀ msg, (Flows.amkSign P p sk s.wrappedAukPassphrase b.wrappedAmk msg).IsErr
  amkPrf : b.wrappedAmk ≠ "" → ∀ e ∈ s.prfs, ∀ secret,
    (∀ seed nonce, (Flows.amkEnsurePrf P secret e.wrapped b.wrappedAmk seed nonce).IsErr) ∧
    ∀ msg, (Flows.amkSignPrf P secret e.wrapped b.wrappedAmk msg).IsErr

/-- Texts around one AUK refuse what is sealed under another one. -/
lemma TextsHold.refusesForeign (hK : P.XchachaCommits) {s b : Account} {auk auk' : Auk}
    (hs : s.TextsHold P I auk) (hb : b.Sound P J auk') (hne : auk ≠ auk') :
    s.RefusesForeign P b := by
  obtain ⟨c, hc⟩ := hb.inv
  obtain ⟨nonce, hid⟩ := hc.wrappedIdentity
  have hamk : b.wrappedAmk ≠ "" → ∃ (seed : ByteArr 32) (n : Nonce),
      b.wrappedAmk = Auk.wrapSecret P auk' seed.toList n :=
    fun h => hc.wrappedAmk.resolve_left h
  -- a call that gets as far as the sealed text has the AUK of `s`
  have hvault : ∀ {p sk : String} {auk''},
      Flows.unlockAuk P p sk s.wrappedAukPassphrase = .ok auk'' → auk'' ≠ auk' := by
    intro p sk auk'' hauk
    rw [hs.eq_of_unlockAuk hauk]
    exact hne
  have hprf : ∀ {e : Enrolment}, e ∈ s.prfs → ∀ {secret : String} {auk''},
      Flows.aukFromPrf P secret e.wrapped = .ok auk'' → auk'' ≠ auk' := by
    intro e he secret auk'' hauk
    rw [hs.eq_of_aukFromPrf he hauk]
    exact hne
  refine ⟨fun p sk => ?_, fun code => ?_, fun e he secret => ?_,
    fun p sk signSeed kemSeed n => ?_, fun hempty p sk => ?_, fun hempty e he secret => ?_⟩
  · apply Outcome.isErr_of_ne Flows.unlockVault_ne_panic
    intro out hok
    obtain ⟨auk'', id, hauk, hunwrap, -⟩ := Flows.unlockVault_eq_ok.mp hok
    rw [hid, Auk.unwrapIdentity_of_ne hK (hvault hauk)] at hunwrap
    cases hunwrap
  · apply Outcome.isErr_of_ne Flows.unlockRecovery_ne_panic
    intro out hok
    obtain ⟨auk'', id, ho, hunwrap, -⟩ := Flows.unlockRecovery_eq_ok.mp hok
    obtain ⟨i, hi⟩ := hs.wrappedAukRecovery
    obtain rfl := hi.eq_of_opens ho
    rw [hid, Auk.unwrapIdentity_of_ne hK hne] at hunwrap
    cases hunwrap
  · rw [Flows.unlockPrf_eq]
    refine Outcome.isErr_bind Flows.aukFromPrf_ne_panic fun auk'' hauk => ?_
    rw [hid, Auk.unwrapIdentity_of_ne hK (hprf he hauk), Outcome.err_bind]
    exact Outcome.isErr_err _
  · refine Outcome.isErr_bind Flows.unlockAuk_ne_panic fun auk'' hauk => ?_
    rw [hid, Auk.unwrapIdentity_of_ne hK (hvault hauk), Outcome.err_bind]
    exact Outcome.isErr_err _
  · obtain ⟨seed, n, hsealed⟩ := hamk hempty
    rw [hsealed]
    refine ⟨fun seed' n' => ?_, fun msg => ?_⟩
    · refine Outcome.isErr_bind Flows.unlockAuk_ne_panic fun auk'' hauk => ?_
      rw [Flows.amkEnsureFromAuk_of_ne hK (hvault hauk), Outcome.err_bind]
      exact Outcome.isErr_err _
    · refine Outcome.isErr_bind Flows.unlockAuk_ne_panic fun auk'' hauk => ?_
      rw [Flows.amkSignFromAuk_of_ne hK (hvault hauk)]
      exact Outcome.isErr_err _
  · obtain ⟨seed, n, hsealed⟩ := hamk hempty
    rw [hsealed]
    refine ⟨fun seed' n' => ?_, fun msg => ?_⟩
    · refine Outcome.isErr_bind Flows.aukFromPrf_ne_panic fun auk'' hauk => ?_
      rw [Flows.amkEnsureFromAuk_of_ne hK (hprf he hauk), Outcome.err_bind]
      exact Outcome.isErr_err _
    · refine Outcome.isErr_bind Flows.aukFromPrf_ne_panic fun auk'' hauk => ?_
      rw [Flows.amkSignFromAuk_of_ne hK (hprf he hauk)]
      exact Outcome.isErr_err _

end Account

/-! ### Over two runs -/

namespace Versions

/-- The versions of a new vault. -/
def created (P : Primitives) (passphrase : String) (out : Flows.CreatedVault) : Versions where
  current := Account.created P passphrase out
  past := []

/-- All versions that a vault leads to are around the AUK that was drawn for it. -/
lemma sound_of_leads (hC : P.XchachaCorrect) (hK : P.XchachaCommits) {passphrase profileId : String}
    {draws : Flows.VaultDraws} {out : Flows.CreatedVault}
    (hout : Flows.createVaultProfile P passphrase profileId draws = .ok out)
    (hin : Account.createdInputs passphrase draws out ⊆ I) {v : Versions}
    (h : (machine P I).Leads (created P passphrase out) v) :
    ∀ b ∈ v.all, b.Sound P I draws.auk := by
  refine h.of_step (p := fun v => ∀ b ∈ v.all, b.Sound P I draws.auk) ?_ ?_
  · intro v act v' hall hstep
    exact sound_step hC hK hall hstep
  · exact List.forall_mem_singleton.mpr (Account.sound_created hC hK hout hin)

/-- Of two vaults for which different AUKs were drawn, none ever opens what the other one stores:
texts that were read from the versions of the first one, in any mixture, refuse what any version of
the second one seals. -/
theorem refusesForeign_of_leads (hC : P.XchachaCorrect) (hK : P.XchachaCommits)
    {passphrase passphrase' profileId profileId' : String} {draws draws' : Flows.VaultDraws}
    {out out' : Flows.CreatedVault}
    (hout : Flows.createVaultProfile P passphrase profileId draws = .ok out)
    (hout' : Flows.createVaultProfile P passphrase' profileId' draws' = .ok out')
    (hne : draws.auk ≠ draws'.auk) {v v' : Versions}
    (h : (machine P Set.univ).Leads (created P passphrase out) v)
    (h' : (machine P Set.univ).Leads (created P passphrase' out') v') {s b : Account}
    (hs : s.ReadFrom v.all) (hb : b ∈ v'.all) : s.RefusesForeign P b := by
  have hv := sound_of_leads hC hK hout (Set.subset_univ _) h
  have hv' := sound_of_leads hC hK hout' (Set.subset_univ _) h'
  exact (Account.TextsHold.of_readFrom hv hs).refusesForeign hK (hv' b hb) hne

end Versions

namespace Reference

/-- What a call does to an account, it does to the versions of a client that works alone. -/
lemma HasPassphrase.step {auk : Auk} {a a' : Account} {p : String} {op : Op}
    (h : HasPassphrase auk a p) (hstep : (Account.machine primitives inputs).step a op a')
    (past : List Account) :
    (Versions.machine primitives Set.univ).step ⟨a, past⟩ (a, op) ⟨a', a :: past⟩ := by
  obtain ⟨c, hc⟩ := h.inv
  obtain ⟨hin, rfl⟩ := hstep
  refine ⟨.of_mem List.mem_cons_self, Set.subset_univ _, ?_⟩
  rw [hc.stepOn_self collisionFree_inputs hin, Versions.all]

/-- From a new vault, a run that mints an AMK and changes the passphrase. -/
lemma exists_usedVersions {auk : Auk} {out : Flows.CreatedVault}
    (h : HasPassphrase auk (Account.created primitives "pw" out) "pw") :
    ∃ v, (Versions.machine primitives Set.univ).Leads (Versions.created primitives "pw" out) v ∧
      v.current.passphrase = "no" ∧ v.current.wrappedAmk ≠ "" := by
  obtain ⟨amk, -, hne, hmint, hminted⟩ := h.amkEnsure rfl
  obtain ⟨t, hchange, -⟩ := hminted.changePassphrase (.inr rfl)
  exact ⟨_, .step (.step .refl (h.step hmint [])) (hminted.step hchange _), rfl, hne⟩

/-- Two vaults with one passphrase, one Secret Key and one recovery code, which both have an AMK
and a new passphrase by now. -/
theorem refusesForeign_used : ∃ out out' v v',
    Flows.createVaultProfile primitives "pw" "constrained" draws = .ok out ∧
      Flows.createVaultProfile primitives "pw" "constrained" otherDraws = .ok out' ∧
      (Versions.machine primitives Set.univ).Leads (Versions.created primitives "pw" out) v ∧
      (Versions.machine primitives Set.univ).Leads (Versions.created primitives "pw" out') v' ∧
      v.current.passphrase = "no" ∧ v'.current.passphrase = "no" ∧ v'.current.wrappedAmk ≠ "" ∧
      v.current.RefusesForeign primitives v'.current := by
  obtain ⟨out, hout, -, hcreated⟩ := exists_created
  obtain ⟨out', hout', hsk', hprofile', hsalt'⟩ : ∃ out',
      Flows.createVaultProfile primitives "pw" "constrained" otherDraws = .ok out' ∧
        out'.secretKey = b64 (zeros 16).toList ∧
        out'.wrappedAukPassphrase.profile = .constrained ∧
        out'.wrappedAukPassphrase.salt = b64 (zeros 16).toList := ⟨_, rfl, rfl, rfl, rfl⟩
  obtain ⟨v, hrun, hpw, -⟩ := exists_usedVersions hcreated
  obtain ⟨v', hrun', hpw', hamk'⟩ := exists_usedVersions
    (hasPassphrase_created hout' (createdInputs_subset hprofile') hsk' hprofile' hsalt')
  have hne : draws.auk ≠ otherDraws.auk := by decide
  exact ⟨out, out', v, v', hout, hout', hrun, hrun', hpw, hpw', hamk',
    Versions.refusesForeign_of_leads xchachaCorrect xchachaCommits hout hout' hne hrun hrun'
      (.of_mem List.mem_cons_self) List.mem_cons_self⟩

end Reference

end PockCore
