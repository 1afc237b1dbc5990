import PockCore.Item.Flows
import PockCore.Vault.Routes

/-!
# The Account Master Key

The AMK is sealed once, under the AUK, and every later call loads what was sealed. Since all wraps
of an account hold the one AUK, all routes load the one AMK, whatever becomes of the credentials.
-/

namespace PockCore

variable {P : Primitives} {I : Set KekInput}

/-! ### Sealing and loading -/

namespace Flows

variable {auk : Auk} {seed seed' : ByteArr 32} {nonce nonce' : Nonce}

lemma amkEnsureFromAuk_empty :
    amkEnsureFromAuk P auk "" seed nonce =
      .ok (seed, Auk.wrapSecret P auk seed.toList nonce) := by
  rw [amkEnsureFromAuk, if_pos rfl]
  rfl

/-- An AMK that exists is loaded, and what would have been drawn does not matter. -/
lemma amkEnsureFromAuk_wrapSecret (hC : P.XchachaCorrect) :
    amkEnsureFromAuk P auk (Auk.wrapSecret P auk seed.toList nonce) seed' nonce' =
      .ok (seed, Auk.wrapSecret P auk seed.toList nonce) := by
  rw [amkEnsureFromAuk, if_neg (Auk.wrapSecret_ne_empty _), Auk.unwrapSecret_wrapSecret hC,
    Outcome.ok_bind, Bytes.tryInto_toList, Outcome.okOr_some, Outcome.ok_bind]
  rfl

lemma amkSignFromAuk_wrapSecret (hC : P.XchachaCorrect) (msg : Bytes) :
    amkSignFromAuk P auk (Auk.wrapSecret P auk seed.toList nonce) msg =
      .ok (b64 (SignSecret.sign P seed msg).toList) := by
  rw [amkSignFromAuk, Auk.unwrapSecret_wrapSecret hC, Outcome.ok_bind, Bytes.tryInto_toList,
    Outcome.okOr_some, Outcome.ok_bind]
  rfl

/-- The public key of the seed, and the seed sealed under the AUK. -/
structure EnsuredAmk.Seals (P : Primitives) (amk : EnsuredAmk) (auk : Auk) (seed : ByteArr 32) :
    Prop where
  amkPub : amk.amkPub = b64 (SignSecret.public P seed).toList
  wrappedAmk : ∃ nonce, amk.wrappedAmk = Auk.wrapSecret P auk seed.toList nonce

lemma EnsuredAmk.Seals.amkEnsureFromAuk (hC : P.XchachaCorrect) {amk : EnsuredAmk}
    (h : amk.Seals P auk seed) :
    Flows.amkEnsureFromAuk P auk amk.wrappedAmk seed' nonce' = .ok (seed, amk.wrappedAmk) := by
  obtain ⟨nonce, hamk⟩ := h.wrappedAmk
  rw [hamk, amkEnsureFromAuk_wrapSecret hC]

lemma EnsuredAmk.Seals.wrappedAmk_ne_empty {amk : EnsuredAmk} (h : amk.Seals P auk seed) :
    amk.wrappedAmk ≠ "" := by
  obtain ⟨nonce, hamk⟩ := h.wrappedAmk
  rw [hamk]
  exact Auk.wrapSecret_ne_empty _

/-- What signs with the sealed seed verifies under the public key. -/
lemma EnsuredAmk.Seals.verifies (hC : P.XchachaCorrect) (hE : P.Ed25519Correct)
    {amk : EnsuredAmk} (h : amk.Seals P auk seed) (msg : Bytes) :
    ∃ sig, amkSignFromAuk P auk amk.wrappedAmk msg = .ok sig ∧
      verifyMessage P amk.amkPub msg sig = .ok true := by
  obtain ⟨nonce, hamk⟩ := h.wrappedAmk
  rw [hamk, h.amkPub, amkSignFromAuk_wrapSecret hC]
  exact ⟨_, rfl, verifyMessage_sign hE seed msg⟩

end Flows

/-! ### Calls on an account -/

namespace Account

/-- The call is one of the two for the AMK and returns `amk` for the sealed one that it is given,
which is empty where there is none. -/
def EnsuresAmk (P : Primitives) (a : Account) (existing : String) (amk : Flows.EnsuredAmk) :
    Op → Prop
  | .amkEnsure passphrase secretKeyB64 seed nonce =>
    Flows.amkEnsure P passphrase secretKeyB64 a.wrappedAukPassphrase existing seed nonce = .ok amk
  | .amkEnsurePrf i prfSecretB64 seed nonce =>
    ∃ e, a.prfs[i]? = some e ∧
      Flows.amkEnsurePrf P prfSecretB64 e.wrapped existing seed nonce = .ok amk
  | _ => False

/-- The account that stores an AMK. -/
def withAmk (a : Account) (amk : Flows.EnsuredAmk) : Account :=
  { a with wrappedAmk := amk.wrappedAmk, amkPub := amk.amkPub }

/-- Only the two calls for the AMK touch it, and they store what they return. -/
lemma step_amk (a : Account) (op : Op) :
    ((a.step P op).wrappedAmk = a.wrappedAmk ∧ (a.step P op).amkPub = a.amkPub) ∨
      ∃ amk, a.EnsuresAmk P a.wrappedAmk amk op ∧ a.step P op = a.withAmk amk := by
  cases op with
  | amkEnsure p sk seed nonce =>
    simp only [step, EnsuresAmk]
    split
    · exact .inr ⟨_, ‹_›, rfl⟩
    · exact .inl ⟨rfl, rfl⟩
  | amkEnsurePrf i s seed nonce =>
    simp only [step, EnsuresAmk]
    split
    · exact .inl ⟨rfl, rfl⟩
    · split
      · exact .inr ⟨_, ⟨_, ‹_›, ‹_›⟩, rfl⟩
      · exact .inl ⟨rfl, rfl⟩
  | _ =>
    simp only [step]
    split <;> exact .inl ⟨rfl, rfl⟩

namespace Inv

variable {a : Account} {auk : Auk} {c : Credentials} {amk : Flows.EnsuredAmk} {op : Op}
  {existing : String}

/-- Whichever route a call takes, it works on the AUK of the account. -/
lemma exists_of_ensuresAmk (hI : KekInput.CollisionFree P I) (h : a.Inv P I auk c)
    (hin : a.inputs P op ⊆ I) (hop : a.EnsuresAmk P existing amk op) :
    ∃ seed nonce out, Flows.amkEnsureFromAuk P auk existing seed nonce = .ok out ∧
      amk = ⟨b64 (SignSecret.public P out.1).toList, out.2⟩ := by
  cases op with
  | amkEnsure p sk seed nonce =>
    obtain ⟨auk', out, hauk, hout, rfl⟩ := Flows.amkEnsure_eq_ok.mp hop
    obtain ⟨-, -, rfl⟩ := (h.unlockAuk_eq_ok hI hin).mp hauk
    exact ⟨seed, nonce, out, hout, rfl⟩
  | amkEnsurePrf i s seed nonce =>
    obtain ⟨e, he, hop⟩ := hop
    obtain ⟨auk', out, hauk, hout, rfl⟩ := Flows.amkEnsurePrf_eq_ok.mp hop
    obtain ⟨secret, -, hw⟩ := h.exists_secret (List.mem_of_getElem? he)
    obtain ⟨-, rfl⟩ := (aukFromPrf_eq_ok hI hw hin).mp hauk
    exact ⟨seed, nonce, out, hout, rfl⟩
  | _ => exact hop.elim

/-- A call that mints an AMK seals it under the AUK of the account. -/
lemma seals_of_mints (hI : KekInput.CollisionFree P I) (h : a.Inv P I auk c)
    (hin : a.inputs P op ⊆ I) (hop : a.EnsuresAmk P "" amk op) : ∃ seed, amk.Seals P auk seed := by
  obtain ⟨seed, nonce, out, hout, rfl⟩ := h.exists_of_ensuresAmk hI hin hop
  rw [Flows.amkEnsureFromAuk_empty, Outcome.ok.injEq] at hout
  subst hout
  exact ⟨seed, rfl, nonce, rfl⟩

/-- A call that loads an AMK returns the one that is stored. -/
lemma eq_of_loads (hC : P.XchachaCorrect) (hI : KekInput.CollisionFree P I)
    (h : a.Inv P I auk c) {seed : ByteArr 32} {amk' : Flows.EnsuredAmk}
    (hamk : amk.Seals P auk seed) (hin : a.inputs P op ⊆ I)
    (hop : a.EnsuresAmk P amk.wrappedAmk amk' op) : amk' = amk := by
  obtain ⟨seed', nonce', out, hout, rfl⟩ := h.exists_of_ensuresAmk hI hin hop
  rw [hamk.amkEnsureFromAuk hC, Outcome.ok.injEq] at hout
  subst hout
  rw [← hamk.amkPub]

lemma withAmk (h : a.Inv P I auk c) {seed : ByteArr 32} (hamk : amk.Seals P auk seed) :
    (a.withAmk amk).Inv P I auk c :=
  { h with wrappedAmk := .inr ⟨seed, hamk.wrappedAmk⟩ }

end Inv

/-! ### Over a run -/

/-- The account stores this AMK. -/
structure StoresAmk (a : Account) (amk : Flows.EnsuredAmk) : Prop where
  wrappedAmk : a.wrappedAmk = amk.wrappedAmk
  amkPub : a.amkPub = amk.amkPub

/-- An AMK that is stored stays so. -/
lemma StoresAmk.step (hC : P.XchachaCorrect) (hI : KekInput.CollisionFree P I) {a : Account}
    {auk : Auk} {c : Credentials} {seed : ByteArr 32} {amk : Flows.EnsuredAmk}
    (hamk : amk.Seals P auk seed) (h : a.StoresAmk amk) (hinv : a.Inv P I auk c) {op : Op}
    (hin : a.inputs P op ⊆ I) : (a.step P op).StoresAmk amk := by
  rcases a.step_amk (P := P) op with ⟨hwrapped, hpub⟩ | ⟨amk', hop, hstep⟩
  · exact ⟨hwrapped.trans h.wrappedAmk, hpub.trans h.amkPub⟩
  · rw [h.wrappedAmk] at hop
    obtain rfl := hinv.eq_of_loads hC hI hamk hin hop
    rw [hstep]
    exact ⟨rfl, rfl⟩

/-- What the AMK of an account is good for. -/
structure AmkStable (P : Primitives) (amk : Flows.EnsuredAmk) (a : Account) : Prop where
  stored : a.StoresAmk amk
  /-- Both routes return the AMK, and mint no other. -/
  amkEnsure : ∀ seed nonce, Flows.amkEnsure P a.passphrase a.secretKey a.wrappedAukPassphrase
    a.wrappedAmk seed nonce = .ok amk
  amkEnsurePrf : ∀ e ∈ a.prfs, ∀ seed nonce,
    Flows.amkEnsurePrf P e.prfSecretB64 e.wrapped a.wrappedAmk seed nonce = .ok amk
  /-- Both routes sign for it. -/
  amkSign : ∀ msg, ∃ sig, Flows.amkSign P a.passphrase a.secretKey a.wrappedAukPassphrase
    a.wrappedAmk msg = .ok sig ∧ Flows.verifyMessage P amk.amkPub msg sig = .ok true
  amkSignPrf : ∀ e ∈ a.prfs, ∀ msg, ∃ sig,
    Flows.amkSignPrf P e.prfSecretB64 e.wrapped a.wrappedAmk msg = .ok sig ∧
      Flows.verifyMessage P amk.amkPub msg sig = .ok true

lemma Inv.amkStable (hC : P.XchachaCorrect) (hE : P.Ed25519Correct) {a : Account} {auk : Auk}
    {c : Credentials} {seed : ByteArr 32} {amk : Flows.EnsuredAmk} (h : a.Inv P I auk c)
    (hamk : amk.Seals P auk seed) (hstored : a.StoresAmk amk) : a.AmkStable P amk := by
  have hload : ∀ seed' nonce', Flows.amkEnsureFromAuk P auk a.wrappedAmk seed' nonce' =
      .ok (seed, amk.wrappedAmk) := by
    intro seed' nonce'
    rw [hstored.wrappedAmk, hamk.amkEnsureFromAuk hC]
  have hout : amk = ⟨b64 (SignSecret.public P seed).toList, amk.wrappedAmk⟩ := by
    rw [← hamk.amkPub]
  refine ⟨hstored, fun seed' nonce' => ?_, fun e he seed' nonce' => ?_, fun msg => ?_,
    fun e he msg => ?_⟩
  · exact Flows.amkEnsure_eq_ok.mpr ⟨auk, _, h.unlockAuk_current, hload seed' nonce', hout⟩
  · exact Flows.amkEnsurePrf_eq_ok.mpr ⟨auk, _, h.aukFromPrf_current he, hload seed' nonce', hout⟩
  · rw [Flows.amkSign, h.unlockAuk_current, Outcome.ok_bind, hstored.wrappedAmk]
    exact hamk.verifies hC hE msg
  · rw [Flows.amkSignPrf, h.aukFromPrf_current he, Outcome.ok_bind, hstored.wrappedAmk]
    exact hamk.verifies hC hE msg

/-- The AMK is stable for the life of the account: once a call has minted one, every later
account of every run has that AMK, and every route loads it and signs for it. -/
theorem amkStable_of_leads (hC : P.XchachaCorrect) (hK : P.XchachaCommits)
    (hI : KekInput.CollisionFree P I) (hE : P.Ed25519Correct) {a a' : Account}
    (h : (machine P I).Reachable a) {op : Op} (hin : a.inputs P op ⊆ I) {amk : Flows.EnsuredAmk}
    (hmint : a.EnsuresAmk P "" amk op) (hrun : (machine P I).Leads (a.withAmk amk) a') :
    a'.AmkStable P amk := by
  obtain ⟨c, -, auk, hinv⟩ := (simulates hC hK hI).reachable h
  obtain ⟨seed, hamk⟩ := hinv.seals_of_mints hI hin hmint
  have hrun : ∃ c', a'.Inv P I auk c' ∧ a'.StoresAmk amk := by
    refine hrun.of_step (p := fun b => ∃ c', b.Inv P I auk c' ∧ b.StoresAmk amk) ?_
      ⟨c, hinv.withAmk hamk, rfl, rfl⟩
    rintro b op' b' ⟨c', hb, hstored⟩ ⟨hin', rfl⟩
    obtain ⟨c'', -, hb'⟩ := hb.step hC hK hI hin'
    exact ⟨c'', hb', hstored.step hC hI hamk hb hin'⟩
  obtain ⟨c', hinv', hstored⟩ := hrun
  exact hinv'.amkStable hC hE hamk hstored

end Account

/-! ### The stand-in primitives -/

namespace Reference

lemma HasPassphrase.withAmk {auk : Auk} {a : Account} {p : String} {seed : ByteArr 32}
    {amk : Flows.EnsuredAmk} (h : HasPassphrase auk a p) (hamk : amk.Seals primitives auk seed) :
    HasPassphrase auk (a.withAmk amk) p := by
  obtain ⟨c, hc⟩ := h.inv
  exact { h with inv := ⟨c, hc.withAmk hamk⟩ }

/-- A call with the passphrase mints an AMK, where there is none. -/
lemma HasPassphrase.amkEnsure {auk : Auk} {a : Account} {p : String} (h : HasPassphrase auk a p)
    (hempty : a.wrappedAmk = "") :
    ∃ amk, Flows.amkEnsure primitives p a.secretKey a.wrappedAukPassphrase "" (zeros 32)
        (zeros 24) = .ok amk ∧ amk.wrappedAmk ≠ "" ∧
      (Account.machine primitives inputs).step a (.amkEnsure p a.secretKey (zeros 32) (zeros 24))
        (a.withAmk amk) ∧
      HasPassphrase auk (a.withAmk amk) p := by
  obtain ⟨amk, hamk, hseals⟩ : ∃ amk, Flows.amkEnsure primitives p a.secretKey
      a.wrappedAukPassphrase "" (zeros 32) (zeros 24) = .ok amk ∧
        amk.Seals primitives auk (zeros 32) :=
    ⟨_, Flows.amkEnsure_eq_ok.mpr ⟨_, _, h.unlockAuk, Flows.amkEnsureFromAuk_empty, rfl⟩,
      rfl, _, rfl⟩
  refine ⟨amk, hamk, hseals.wrappedAmk_ne_empty, ⟨h.subset h.known, ?_⟩, h.withAmk hseals⟩
  simp only [Account.step, hempty, hamk]
  rfl

/-- A new vault mints its AMK with one passphrase, and signs with the next one. -/
theorem amkSign_changed : ∃ out amk a sig,
    Flows.createVaultProfile primitives "pw" "constrained" draws = .ok out ∧
      Flows.amkEnsure primitives "pw" out.secretKey
        (primitives.wrappedAukJson.write out.wrappedAukPassphrase) "" (zeros 32) (zeros 24) =
          .ok amk ∧
      (Account.machine primitives inputs).Leads
        ((Account.created primitives "pw" out).withAmk amk) a ∧
      a.passphrase = "no" ∧
      Flows.amkSign primitives "no" a.secretKey a.wrappedAukPassphrase a.wrappedAmk [104, 105] =
        .ok sig ∧
      Flows.verifyMessage primitives amk.amkPub [104, 105] sig = .ok true := by
  obtain ⟨out, hout, hin, hcreated⟩ := exists_created
  obtain ⟨amk, hamk, -, hmint, hminted⟩ := hcreated.amkEnsure rfl
  obtain ⟨t, hchange, hchanged⟩ := hminted.changePassphrase (.inr rfl)
  have hrun := Machine.Leads.step .refl hchange
  have hstable := Account.amkStable_of_leads xchachaCorrect xchachaCommits collisionFree_inputs
    ed25519Correct (reachable_created hout hin) hmint.1 hamk hrun
  obtain ⟨sig, hsig, hverify⟩ := hstable.amkSign [104, 105]
  exact ⟨out, amk, _, sig, hout, hamk, hrun, rfl, hsig, hverify⟩

end Reference

end PockCore
