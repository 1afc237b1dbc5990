import PockCore.KeyLog.Certificate
import PockCore.KeyLog.Spellings
import PockCore.Vault.MasterKey

/-!
# Accounts as custodians

The custodians of a Root of Trust are accounts, and the public key of its AMK stands for each. They
sign a certificate one after the other, each by the passphrase or by a passkey, and in between the
accounts are used and their credentials are replaced. The verdict counts the accounts.
-/

namespace PockCore

namespace KeyLog

variable {P : Primitives} {I : Set KekInput}

/-- An account as it is at some time, and its AMK. -/
structure Custodian where
  account : Account
  amk : Flows.EnsuredAmk

namespace Custodian

variable {c : Custodian}

/-- A call minted the AMK, and the account stored it and was used from then on. -/
def Minted (P : Primitives) (I : Set KekInput) (c : Custodian) : Prop :=
  ∃ a op, (Account.machine P I).Reachable a ∧ a.inputs P op ⊆ I ∧ a.EnsuresAmk P "" c.amk op ∧
    (Account.machine P I).Leads (a.withAmk c.amk) c.account

/-- The account signs, by the passphrase or by one of its passkeys. -/
def Signs (P : Primitives) (c : Custodian) (msg : Bytes) (sig : String) : Prop :=
  Flows.amkSign P c.account.passphrase c.account.secretKey c.account.wrappedAukPassphrase
      c.account.wrappedAmk msg = .ok sig ∨
    ∃ e ∈ c.account.prfs,
      Flows.amkSignPrf P e.prfSecretB64 e.wrapped c.account.wrappedAmk msg = .ok sig

/-- The account has kept what was minted. -/
lemma Minted.exists_seals (hC : P.XchachaCorrect) (hK : P.XchachaCommits)
    (hI : KekInput.CollisionFree P I) (h : c.Minted P I) :
    ∃ auk creds seed, c.account.Inv P I auk creds ∧ c.amk.Seals P auk seed ∧
      c.account.StoresAmk c.amk := by
  obtain ⟨a, op, hreach, hin, hmint, hrun⟩ := h
  obtain ⟨creds, -, auk, hinv⟩ := (Account.simulates hC hK hI).reachable hreach
  obtain ⟨seed, hamk⟩ := hinv.seals_of_mints hI hin hmint
  have hend : ∃ creds', c.account.Inv P I auk creds' ∧ c.account.StoresAmk c.amk := by
    refine hrun.of_step (p := fun b => ∃ creds', b.Inv P I auk creds' ∧ b.StoresAmk c.amk) ?_
      ⟨creds, hinv.withAmk hamk, rfl, rfl⟩
    rintro b op' b' ⟨creds', hb, hstored⟩ ⟨hin', rfl⟩
    obtain ⟨creds'', -, hb'⟩ := hb.step hC hK hI hin'
    exact ⟨creds'', hb', hstored.step hC hI hamk hb hin'⟩
  obtain ⟨creds', hinv', hstored⟩ := hend
  exact ⟨auk, creds', seed, hinv', hamk, hstored⟩

/-- One seed makes the public key and all signatures, whatever the time and the route. -/
lemma Minted.exists_seed (hC : P.XchachaCorrect) (hK : P.XchachaCommits)
    (hI : KekInput.CollisionFree P I) (h : c.Minted P I) :
    ∃ seed : SignSecret, c.amk.amkPub = b64 (seed.public P).toList ∧
      ∀ msg sig, c.Signs P msg sig ↔ sig = b64 (seed.sign P msg).toList := by
  obtain ⟨auk, creds, seed, hinv, hamk, hstored⟩ := h.exists_seals hC hK hI
  obtain ⟨nonce, hwrapped⟩ := hamk.wrappedAmk
  have hsign : ∀ msg, Flows.amkSignFromAuk P auk c.account.wrappedAmk msg =
      .ok (b64 (SignSecret.sign P seed msg).toList) := by
    intro msg
    rw [hstored.wrappedAmk, hwrapped, Flows.amkSignFromAuk_wrapSecret hC]
  refine ⟨seed, hamk.amkPub, fun msg sig => ⟨?_, ?_⟩⟩
  · rintro (hsig | ⟨e, he, hsig⟩)
    · rw [Flows.amkSign, hinv.unlockAuk_current, Outcome.ok_bind, hsign, Outcome.ok.injEq] at hsig
      exact hsig.symm
    · rw [Flows.amkSignPrf, hinv.aukFromPrf_current he, Outcome.ok_bind, hsign,
        Outcome.ok.injEq] at hsig
      exact hsig.symm
  · rintro rfl
    exact .inl (by rw [Flows.amkSign, hinv.unlockAuk_current, Outcome.ok_bind, hsign])

end Custodian

/-! ### The verdict -/

/-- What the flows encode is decoded. -/
lemma b64Any_b64 (b : Bytes) : b64Any P (b64 b) = some b := by
  have hl := map_toStandard_encodeNoPadList_urlSafe b
  rw [b64Any_of_unpadded (n := 0) (by simp [b64]) (pad_notMem_of_map hl), hl]

/-- A message that an account signed. -/
structure Signing where
  custodian : Custodian
  msg : Bytes

/-- The public keys of the accounts that signed this very message. -/
def signers (signings : List Signing) (msg : Bytes) : Finset String :=
  ((signings.filter (·.msg = msg)).map (·.custodian.amk.amkPub)).toFinset

lemma mem_signers {signings : List Signing} {msg : Bytes} {pub : String} :
    pub ∈ signers signings msg ↔ ∃ s ∈ signings, s.msg = msg ∧ s.custodian.amk.amkPub = pub := by
  simp [signers, and_assoc]

/-- The texts are the signatures that the accounts made, of whatever messages, and texts that are no
signatures. -/
structure Collected (P : Primitives) (sigs : List String) (signings : List Signing) : Prop where
  made : ∀ sig ∈ sigs, (∃ s ∈ signings, s.custodian.Signs P s.msg sig) ∨
    ∀ sigArr : ByteArr 64, b64Any P sig ≠ some sigArr.toList
  all : ∀ s ∈ signings, ∃ sig ∈ sigs, s.custodian.Signs P s.msg sig

variable {M : Set Bytes} {msg : Bytes} {sigs : List String} {signings : List Signing}

/-- A custodian is found to have signed if the same account signed this message. -/
lemma custodianSigned_amkPub (hC : P.XchachaCorrect) (hK : P.XchachaCommits)
    (hI : KekInput.CollisionFree P I) (hE : P.Ed25519Correct) (hB : P.Ed25519Binds M)
    (hmsg : msg ∈ M) (hsignings : ∀ s ∈ signings, s.custodian.Minted P I ∧ s.msg ∈ M)
    (hsigs : Collected P sigs signings) {c : Custodian} (hc : c.Minted P I) :
    custodianSigned P msg sigs c.amk.amkPub = true ↔ c.amk.amkPub ∈ signers signings msg := by
  obtain ⟨seed, hpub, -⟩ := hc.exists_seed hC hK hI
  have hkey : custodianKey P c.amk.amkPub = some (seed.public P) := by
    rw [hpub]
    exact custodianKey_eq_some.mpr (b64Any_b64 _)
  simp only [custodianSigned_eq_true, hkey, Option.some.injEq, mem_signers]
  constructor
  · rintro ⟨-, rfl, pk, hpk, sig, hmem, sigArr, hdec, hverify⟩
    obtain ⟨s, hs, hsig⟩ := (hsigs.made sig hmem).resolve_right fun h => h sigArr hdec
    obtain ⟨hminted, hsM⟩ := hsignings s hs
    obtain ⟨seed', hpub', hsigns⟩ := hminted.exists_seed hC hK hI
    rw [(hsigns _ _).mp hsig, b64Any_b64, Option.some.injEq, ByteArr.toList_inj] at hdec
    rw [← hdec] at hverify
    obtain ⟨hseed, hsame⟩ := hB _ _ _ _ hsM _ hmsg hpk hverify
    have heq : seed.public P = seed'.public P := hseed
    exact ⟨s, hs, hsame.symm, by rw [hpub', hpub, heq]⟩
  · rintro ⟨s, hs, rfl, heq⟩
    obtain ⟨sig, hmem, hsig⟩ := hsigs.all s hs
    obtain ⟨seed', hpub', hsigns⟩ := (hsignings s hs).1.exists_seed hC hK hI
    rw [hpub', hpub] at heq
    have hkeys : seed'.public P = seed.public P := ByteArr.ext (b64_injective P heq)
    obtain ⟨pk, hpk, hverify⟩ := hE seed'
    refine ⟨_, rfl, pk, hkeys ▸ hpk, sig, hmem, seed'.sign P s.msg, ?_, hverify s.msg⟩
    rw [(hsigns _ _).mp hsig, b64Any_b64]

/-- The verdict on a certificate counts the accounts that are custodians and have signed this very
certificate, however often, by whatever route, after whatever calls and whatever else they signed.
Signatures of other messages and texts that are none do not count. -/
theorem verifyCert_iff_accounts (hC : P.XchachaCorrect) (hK : P.XchachaCommits)
    (hI : KekInput.CollisionFree P I) (hE : P.Ed25519Correct) (hB : P.Ed25519Binds M)
    {custodians : List Custodian} (hcustodians : ∀ c ∈ custodians, c.Minted P I)
    (hlen : custodians.length < 2 ^ 32) {certBytes : Bytes} (hcert : certBytes ∈ M)
    (hsignings : ∀ s ∈ signings, s.custodian.Minted P I ∧ s.msg ∈ M)
    (hsigs : Collected P sigs signings) (threshold : UInt32) :
    verifyCert P certBytes sigs (custodians.map (·.amk.amkPub)) threshold = true ↔
      1 ≤ threshold ∧ threshold.toNat ≤
        ((custodians.map (·.amk.amkPub)).toFinset ∩ signers signings certBytes).card := by
  have hsigned : signingSpellings P certBytes sigs (custodians.map (·.amk.amkPub)) =
      (custodians.map (·.amk.amkPub)).toFinset ∩ signers signings certBytes := by
    ext pub
    simp only [signingSpellings, Finset.mem_filter, Finset.mem_inter, List.mem_toFinset,
      and_congr_right_iff]
    intro hpub
    obtain ⟨c, hc, rfl⟩ := List.mem_map.mp hpub
    exact custodianSigned_amkPub hC hK hI hE hB hcert hsignings hsigs (hcustodians c hc)
  rw [verifyCert_eq_true (by rwa [List.length_map]), hsigned]

end KeyLog

/-! ### The stand-in primitives -/

namespace Reference

/-- A new vault and its AMK. -/
lemma exists_minted : ∃ c : KeyLog.Custodian, c.Minted primitives inputs := by
  obtain ⟨out, hout, hin, hcreated⟩ := exists_created
  obtain ⟨amk, hamk, -, hmint, -⟩ := hcreated.amkEnsure rfl
  exact ⟨⟨(Account.created primitives "pw" out).withAmk amk, amk⟩, _, _,
    reachable_created hout hin, hmint.1, hamk, .refl⟩

/-- An account that is written down twice and signs once counts once, and what it signed counts for
nothing else. -/
theorem verifyCert_one_account : ∃ (c : KeyLog.Custodian) (sig : String),
    c.Signs primitives [104, 105] sig ∧
      KeyLog.verifyCert primitives [104, 105] [sig, "*"] [c.amk.amkPub, c.amk.amkPub] 1 = true ∧
      KeyLog.verifyCert primitives [104, 105] [sig, "*"] [c.amk.amkPub, c.amk.amkPub] 2 = false ∧
      KeyLog.verifyCert primitives [110, 111] [sig, "*"] [c.amk.amkPub, c.amk.amkPub] 1 =
        false := by
  obtain ⟨c, hc⟩ := exists_minted
  obtain ⟨seed, -, hsigns⟩ := hc.exists_seed xchachaCorrect xchachaCommits collisionFree_inputs
  have hsig := (hsigns [104, 105] _).mpr rfl
  have htwo : ∀ s ∈ [c, c], s.Minted primitives inputs := by simpa using hc
  have hlen : [c, c].length < 2 ^ 32 := by simp
  have hbinds : primitives.Ed25519Binds {[104, 105], [110, 111]} := by
    apply ed25519Binds
    rintro m (rfl | rfl) m' (rfl | rfl) h
    · rfl
    · exact absurd h (by decide)
    · exact absurd h (by decide)
    · rfl
  have hsignings : ∀ s ∈ [KeyLog.Signing.mk c [104, 105]],
      s.custodian.Minted primitives inputs ∧ s.msg ∈ ({[104, 105], [110, 111]} : Set Bytes) :=
    List.forall_mem_singleton.mpr ⟨hc, .inl rfl⟩
  have hjunk : KeyLog.b64Any primitives "*" = none := by decide
  have hcollected : KeyLog.Collected primitives [_, "*"] [KeyLog.Signing.mk c [104, 105]] :=
    ⟨List.forall_mem_cons.mpr ⟨.inl ⟨_, List.mem_singleton.mpr rfl, hsig⟩,
        List.forall_mem_singleton.mpr (.inr (by simp [hjunk]))⟩,
      List.forall_mem_singleton.mpr ⟨_, List.mem_cons_self, hsig⟩⟩
  have hverdict := fun certBytes (hcert : certBytes ∈ ({[104, 105], [110, 111]} : Set Bytes)) =>
    KeyLog.verifyCert_iff_accounts xchachaCorrect xchachaCommits collisionFree_inputs ed25519Correct
      hbinds htwo hlen hcert hsignings hcollected
  refine ⟨c, _, hsig, (hverdict [104, 105] (.inl rfl) 1).mpr ⟨by decide, ?_⟩, ?_, ?_⟩
  · simp [KeyLog.signers]
  · rw [← Bool.not_eq_true]
    intro h
    have hle := ((hverdict [104, 105] (.inl rfl) 2).mp h).2
    simp [KeyLog.signers] at hle
  · rw [← Bool.not_eq_true]
    intro h
    have hle := ((hverdict [110, 111] (.inr rfl) 1).mp h).2
    simp [KeyLog.signers] at hle

end Reference

end PockCore
