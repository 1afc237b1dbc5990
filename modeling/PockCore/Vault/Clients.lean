import PockCore.Vault.Published

/-!
# Clients that work at the same time

A client reads the stored texts, calls a flow on them and stores what the flow returns. By then
others may have stored something else, so the texts of a call need not be the stored ones any more,
nor have been stored at one time. The credentials of an account are those of the last calls that
stored something.
-/

namespace PockCore

variable {P : Primitives} {I : Set KekInput}

namespace Account

/-! ### Calls on texts that were read -/

/-- The account `a` after a call on the texts of `s`. What the call returns is stored, and the
credentials that it was sealed for, which were given to the call or returned by it, are now those
of the account. -/
def stepOn (P : Primitives) (s a : Account) : Op → Account
  | .changePassphrase oldPassphrase secretKeyB64 newPassphrase salt nonce =>
    match Flows.changePassphrase P oldPassphrase secretKeyB64 s.wrappedAukPassphrase newPassphrase
        salt nonce with
    | .ok out =>
      { a with
        wrappedAukPassphrase := P.wrappedAukJson.write out.wrappedAukPassphrase
        passphrase := newPassphrase
        secretKey := secretKeyB64 }
    | _ => a
  | .resetPassphrase recoveryCode secretKeyB64 newPassphrase salt nonce =>
    match Flows.resetPassphrase P recoveryCode s.wrappedAukRecovery secretKeyB64 newPassphrase salt
        nonce with
    | .ok out =>
      { a with
        wrappedAukPassphrase := P.wrappedAukJson.write out.wrappedAukPassphrase
        passphrase := newPassphrase
        secretKey := secretKeyB64 }
    | _ => a
  | .rotateSecretKey passphrase oldSecretKeyB64 newSk salt nonce =>
    match Flows.rotateSecretKey P passphrase oldSecretKeyB64 s.wrappedAukPassphrase newSk salt
        nonce with
    | .ok out =>
      { a with
        wrappedAukPassphrase := P.wrappedAukJson.write out.wrappedAukPassphrase
        passphrase := passphrase
        secretKey := out.secretKey }
    | _ => a
  | .rotateRecoveryCode passphrase secretKeyB64 rb nonce =>
    match Flows.rotateRecoveryCode P passphrase secretKeyB64 s.wrappedAukPassphrase rb nonce with
    | .ok out =>
      { a with
        wrappedAukRecovery := P.wrappedAukJson.write out.wrappedAukRecovery
        recoveryCode := out.recoveryCode }
    | _ => a
  | .rotateIdentity passphrase secretKeyB64 signSeed kemSeed nonce =>
    match Flows.rotateIdentity P passphrase secretKeyB64 s.wrappedAukPassphrase s.wrappedIdentity
        signSeed kemSeed nonce with
    | .ok out =>
      { a with
        wrappedIdentity := out.wrappedIdentity
        identitySecretB64 := out.identitySecretB64
        signPubkey := out.signPubkey
        kemPubkey := out.kemPubkey }
    | _ => a
  | .enrollPrf passphrase secretKeyB64 prfSecretB64 nonce =>
    match Flows.enrollPrf P passphrase secretKeyB64 s.wrappedAukPassphrase prfSecretB64 nonce with
    | .ok wrapped => { a with prfs := a.prfs ++ [⟨prfSecretB64, wrapped⟩] }
    | _ => a
  | .amkEnsure passphrase secretKeyB64 seed nonce =>
    match Flows.amkEnsure P passphrase secretKeyB64 s.wrappedAukPassphrase s.wrappedAmk seed
        nonce with
    | .ok out => a.withAmk out
    | _ => a
  | .amkEnsurePrf i prfSecretB64 seed nonce =>
    match s.prfs[i]? with
    | none => a
    | some e =>
      match Flows.amkEnsurePrf P prfSecretB64 e.wrapped s.wrappedAmk seed nonce with
      | .ok out => a.withAmk out
      | _ => a

/-- Every text was stored in one of the accounts, not all of them in the same one. -/
structure ReadFrom (vs : List Account) (s : Account) : Prop where
  wrappedAukPassphrase : ∃ b ∈ vs, s.wrappedAukPassphrase = b.wrappedAukPassphrase
  wrappedAukRecovery : ∃ b ∈ vs, s.wrappedAukRecovery = b.wrappedAukRecovery
  prfs : ∀ e ∈ s.prfs, ∃ b ∈ vs, e ∈ b.prfs
  wrappedIdentity : ∃ b ∈ vs, s.wrappedIdentity = b.wrappedIdentity
  wrappedAmk : ∃ b ∈ vs, s.wrappedAmk = b.wrappedAmk

/-- What was stored at one time can be read. -/
lemma ReadFrom.of_mem {vs : List Account} {a : Account} (h : a ∈ vs) : ReadFrom vs a :=
  ⟨⟨a, h, rfl⟩, ⟨a, h, rfl⟩, fun _ he => ⟨a, h, he⟩, ⟨a, h, rfl⟩, ⟨a, h, rfl⟩⟩

end Account

/-- All the accounts that were ever stored, the current one first. -/
structure Versions where
  current : Account
  past : List Account

namespace Versions

def all (v : Versions) : List Account := v.current :: v.past

/-- Runs of clients whose key derivations are all from `I`. -/
def machine (P : Primitives) (I : Set KekInput) : Machine Versions (Account × Op) where
  init v := (Account.machine P I).init v.current ∧ v.past = []
  step v act v' := act.1.ReadFrom v.all ∧ act.1.inputs P act.2 ⊆ I ∧
    v' = ⟨act.1.stepOn P v.current act.2, v.all⟩

end Versions

/-! ### One AUK in all texts -/

namespace Account

/-- What every text of an account is sealed around, whatever the credentials. -/
structure TextsHold (P : Primitives) (I : Set KekInput) (s : Account) (auk : Auk) : Prop where
  wrappedAukPassphrase : ∃ i, Wraps P I s.wrappedAukPassphrase i auk
  wrappedAukRecovery : ∃ i, Wraps P I s.wrappedAukRecovery i auk
  prfs : ∀ e ∈ s.prfs, ∃ i, Wraps P I e.wrapped i auk
  wrappedAmk : s.wrappedAmk = "" ∨
    ∃ (seed : ByteArr 32) (nonce : Nonce), s.wrappedAmk = Auk.wrapSecret P auk seed.toList nonce

/-- The invariant of every version: it has its credentials around the AUK, publishes the keys of
its identity and has the public key of its AMK. -/
structure Sound (P : Primitives) (I : Set KekInput) (a : Account) (auk : Auk) : Prop where
  inv : ∃ c, a.Inv P I auk c
  publishes : ∃ id, a.Publishes P id
  amk : a.wrappedAmk = "" ∨ ∃ seed, (⟨a.amkPub, a.wrappedAmk⟩ : Flows.EnsuredAmk).Seals P auk seed

namespace TextsHold

variable {s : Account} {auk auk' : Auk}

lemma of_readFrom {vs : List Account} (hvs : ∀ b ∈ vs, b.Sound P I auk) (h : s.ReadFrom vs) :
    s.TextsHold P I auk where
  wrappedAukPassphrase := by
    obtain ⟨b, hb, heq⟩ := h.wrappedAukPassphrase
    obtain ⟨c, hc⟩ := (hvs b hb).inv
    obtain ⟨i, -, hi⟩ := hc.wrappedAukPassphrase
    exact ⟨i, heq ▸ hi⟩
  wrappedAukRecovery := by
    obtain ⟨b, hb, heq⟩ := h.wrappedAukRecovery
    obtain ⟨c, hc⟩ := (hvs b hb).inv
    exact ⟨_, heq ▸ hc.wrappedAukRecovery⟩
  prfs := by
    intro e he
    obtain ⟨b, hb, hmem⟩ := h.prfs e he
    obtain ⟨c, hc⟩ := (hvs b hb).inv
    obtain ⟨secret, -, hw⟩ := hc.exists_secret hmem
    exact ⟨_, hw⟩
  wrappedAmk := by
    obtain ⟨b, hb, heq⟩ := h.wrappedAmk
    obtain ⟨c, hc⟩ := (hvs b hb).inv
    rw [heq]
    exact hc.wrappedAmk

lemma eq_of_unlockAuk (h : s.TextsHold P I auk) {p sk : String}
    (hauk : Flows.unlockAuk P p sk s.wrappedAukPassphrase = .ok auk') : auk' = auk := by
  obtain ⟨i, hi⟩ := h.wrappedAukPassphrase
  obtain ⟨j, -, ho⟩ := Flows.unlockAuk_eq_ok.mp hauk
  exact hi.eq_of_opens ho

lemma eq_of_aukFromPrf (h : s.TextsHold P I auk) {e : Enrolment} (he : e ∈ s.prfs) {secret : String}
    (hauk : Flows.aukFromPrf P secret e.wrapped = .ok auk') : auk' = auk := by
  obtain ⟨i, hi⟩ := h.prfs e he
  obtain ⟨j, -, ho⟩ := Flows.aukFromPrf_eq_ok.mp hauk
  exact hi.eq_of_opens ho

/-- A call for the AMK returns the public key of the seed that it seals or finds sealed. -/
lemma seals_of_ensures (hC : P.XchachaCorrect) (h : s.TextsHold P I auk) {seed : ByteArr 32}
    {nonce : Nonce} {amk : SignSecret × String}
    (hamk : Flows.amkEnsureFromAuk P auk s.wrappedAmk seed nonce = .ok amk) :
    ∃ seed', (⟨b64 (SignSecret.public P amk.1).toList, amk.2⟩ : Flows.EnsuredAmk).Seals P auk
      seed' := by
  rcases h.wrappedAmk with hempty | ⟨seed', nonce', hsealed⟩
  · rw [hempty, Flows.amkEnsureFromAuk_empty, Outcome.ok.injEq] at hamk
    subst hamk
    exact ⟨seed, rfl, nonce, rfl⟩
  · rw [hsealed, Flows.amkEnsureFromAuk_wrapSecret hC, Outcome.ok.injEq] at hamk
    subst hamk
    exact ⟨seed', rfl, nonce', rfl⟩

end TextsHold

namespace Sound

variable {s a b : Account} {auk : Auk}

/-- What is published depends on three fields only. -/
lemma publishes_of_eq (h : a.Sound P I auk) (hsecret : b.identitySecretB64 = a.identitySecretB64)
    (hsign : b.signPubkey = a.signPubkey) (hkem : b.kemPubkey = a.kemPubkey) :
    ∃ id, b.Publishes P id := by
  obtain ⟨id, hid⟩ := h.publishes
  exact ⟨id, hsecret.trans hid.identitySecret, hsign.trans hid.signPubkey, hkem.trans hid.kemPubkey⟩

lemma withAmk (h : a.Sound P I auk) {amk : Flows.EnsuredAmk} {seed : ByteArr 32}
    (hamk : amk.Seals P auk seed) : (a.withAmk amk).Sound P I auk := by
  obtain ⟨c, hc⟩ := h.inv
  exact ⟨⟨c, hc.withAmk hamk⟩, h.publishes_of_eq rfl rfl rfl, .inr ⟨seed, hamk⟩⟩

/-- An account with a new passphrase wrap, for the credentials of the call. -/
lemma rewrap (hC : P.XchachaCorrect) (hK : P.XchachaCommits) (h : a.Sound P I auk)
    {newPassphrase : String} {secretKey : SecretKey} {salt : ByteArr 16} {nonce : Nonce}
    {w : WrappedAuk}
    (hw : Auk.wrapWithPassphrase P auk (Bytes.ofString newPassphrase) secretKey .constrained salt
      nonce = .ok w)
    (hin : .passphrase (Bytes.ofString newPassphrase) salt.toList .constrained secretKey ∈ I) :
    Sound P I { a with
        wrappedAukPassphrase := P.wrappedAukJson.write w
        passphrase := newPassphrase
        secretKey := b64 secretKey.toList } auk := by
  obtain ⟨c, hc⟩ := h.inv
  exact ⟨⟨_, hc.rewrap hC hK hw hin⟩, h.publishes_of_eq rfl rfl rfl, h.amk⟩

/-- A call on texts that hold the AUK leaves an account that does, whatever it stored before. -/
lemma stepOn (hC : P.XchachaCorrect) (hK : P.XchachaCommits) (hs : s.TextsHold P I auk)
    (h : a.Sound P I auk) {op : Op} (hin : s.inputs P op ⊆ I) :
    (s.stepOn P a op).Sound P I auk := by
  obtain ⟨c, hc⟩ := h.inv
  cases op with
  | changePassphrase old sk new salt nonce =>
    simp only [Account.stepOn]
    split
    · rename_i out hout
      obtain ⟨auk', key, w, hauk, hkey, hw, rfl⟩ := Flows.changePassphrase_eq_ok.mp hout
      obtain rfl := hs.eq_of_unlockAuk hauk
      have hsound := h.rewrap hC hK hw (hin (.inr ⟨key, hkey, rfl⟩))
      rw [← Flows.parseSk_eq_ok.mp hkey] at hsound
      exact hsound
    · exact h
  | resetPassphrase code sk new salt nonce =>
    simp only [Account.stepOn]
    split
    · rename_i out hout
      obtain ⟨auk', key, w, hauk, hkey, hw, rfl⟩ := Flows.resetPassphrase_eq_ok.mp hout
      obtain ⟨i, hi⟩ := hs.wrappedAukRecovery
      obtain rfl := hi.eq_of_opens hauk
      have hsound := h.rewrap hC hK hw (hin (.inr ⟨key, hkey, rfl⟩))
      rw [← Flows.parseSk_eq_ok.mp hkey] at hsound
      exact hsound
    · exact h
  | rotateSecretKey p sk newSk salt nonce =>
    simp only [Account.stepOn]
    split
    · rename_i out hout
      obtain ⟨auk', w, hauk, hw, rfl⟩ := Flows.rotateSecretKey_eq_ok.mp hout
      obtain rfl := hs.eq_of_unlockAuk hauk
      exact h.rewrap hC hK hw (hin (.inr rfl))
    · exact h
  | rotateRecoveryCode p sk rb nonce =>
    simp only [Account.stepOn]
    split
    · rename_i out hout
      obtain ⟨auk', hauk, rfl⟩ := Flows.rotateRecoveryCode_eq_ok.mp hout
      obtain rfl := hs.eq_of_unlockAuk hauk
      exact ⟨⟨{ c with recoveryCode := b64 rb.toList }, { hc with
        recoveryCode := rfl
        recoveryText := ⟨_, rfl⟩
        wrappedAukRecovery := wraps_wrapWithKek hC hK rfl (hin (.inr rfl)) _ _ }⟩,
        h.publishes_of_eq rfl rfl rfl, h.amk⟩
    · exact h
  | rotateIdentity p sk signSeed kemSeed nonce =>
    simp only [Account.stepOn]
    split
    · rename_i out hout
      obtain ⟨auk', old, hauk, -, rfl⟩ := Flows.rotateIdentity_eq_ok.mp hout
      obtain rfl := hs.eq_of_unlockAuk hauk
      exact ⟨⟨{ c with identity := Identity.generate signSeed kemSeed }, { hc with
        identitySecret := rfl
        wrappedIdentity := ⟨nonce, rfl⟩ }⟩, ⟨Identity.generate signSeed kemSeed, rfl, rfl, rfl⟩,
        h.amk⟩
    · exact h
  | enrollPrf p sk secretB64 nonce =>
    simp only [Account.stepOn]
    split
    · rename_i out hout
      obtain ⟨auk', kek, hauk, hkek, rfl⟩ := Flows.enrollPrf_eq_ok.mp hout
      obtain rfl := hs.eq_of_unlockAuk hauk
      obtain ⟨i, hi, hik⟩ := Flows.prfKek_eq_ok.mp hkek
      have hiI := hin (.inr hi)
      obtain ⟨secret, hsecret, rfl⟩ := hi
      obtain rfl := Flows.unb64_eq_ok.mp hsecret
      have hprf : Wraps P I (P.wrappedAukJson.write (Auk.wrapWithKek P auk' kek "webauthn-prf"
        nonce)) (.prf secret) auk' := wraps_wrapWithKek hC hK hik hiI _ _
      exact ⟨⟨{ c with prfSecrets := c.prfSecrets ++ [secret] }, { hc with
        prfs := List.rel_append hc.prfs (.cons ⟨rfl, hprf⟩ .nil) }⟩,
        h.publishes_of_eq rfl rfl rfl, h.amk⟩
    · exact h
  | amkEnsure p sk seed nonce =>
    simp only [Account.stepOn]
    split
    · rename_i out hout
      obtain ⟨auk', amk, hauk, hamk, rfl⟩ := Flows.amkEnsure_eq_ok.mp hout
      obtain rfl := hs.eq_of_unlockAuk hauk
      obtain ⟨seed', hseals⟩ := hs.seals_of_ensures hC hamk
      exact h.withAmk hseals
    · exact h
  | amkEnsurePrf i secretB64 seed nonce =>
    simp only [Account.stepOn]
    split
    · exact h
    · rename_i e he
      split
      · rename_i out hout
        obtain ⟨auk', amk, hauk, hamk, rfl⟩ := Flows.amkEnsurePrf_eq_ok.mp hout
        obtain rfl := hs.eq_of_aukFromPrf (List.mem_of_getElem? he) hauk
        obtain ⟨seed', hseals⟩ := hs.seals_of_ensures hC hamk
        exact h.withAmk hseals
      · exact h

end Sound

/-! ### What the credentials of a version open -/

/-- With the wraps of the account `b`, its credentials open what the account `b'` stores. -/
structure Reads (P : Primitives) (b b' : Account) : Prop where
  unlockVault : Flows.unlockVault P b.passphrase b.secretKey b.wrappedAukPassphrase
    b'.wrappedIdentity = .ok ⟨b'.identitySecretB64⟩
  unlockRecovery : ∀ w₁ w₂, Text.IsBlank w₁ → Text.IsBlank w₂ →
    Flows.unlockRecovery P (w₁ ++ b.recoveryCode ++ w₂) b.wrappedAukRecovery b'.wrappedIdentity =
      .ok ⟨b'.identitySecretB64⟩
  unlockPrf : ∀ e ∈ b.prfs,
    Flows.unlockPrf P e.prfSecretB64 e.wrapped b'.wrappedIdentity = .ok ⟨b'.identitySecretB64⟩
  /-- The secret signs for the signing key that is published. -/
  signs : ∀ msg, ∃ sig, Flows.signMessage P b'.identitySecretB64 msg = .ok sig ∧
    Flows.verifyMessage P b'.signPubkey msg sig = .ok true
  /-- The published keys are valid, so that items can be encrypted to them. -/
  valid : ∃ pubid, PublicIdentity.fromBlob P b'.publicBlob = .ok pubid
  /-- The secret reads what was encrypted to them, among others. -/
  reads : b'.ReadBy P b'.identitySecretB64
  /-- The AMK that is stored is loaded and signs for its public key. -/
  amk : b'.wrappedAmk ≠ "" →
    { b with wrappedAmk := b'.wrappedAmk, amkPub := b'.amkPub }.AmkStable P
      ⟨b'.amkPub, b'.wrappedAmk⟩

lemma Sound.reads (hS : KeysSound P) {b b' : Account} {auk : Auk} (h : b.Sound P I auk)
    (h' : b'.Sound P I auk) : b.Reads P b' := by
  obtain ⟨c, hc⟩ := h.inv
  obtain ⟨c', hc'⟩ := h'.inv
  obtain ⟨id, hid⟩ := h'.publishes
  -- the texts of the two versions are around one AUK, so an account may have some of each
  have hmixed : Inv P I { b with
      wrappedIdentity := b'.wrappedIdentity, identitySecretB64 := b'.identitySecretB64 } auk
      { c with identity := c'.identity } :=
    { hc with
      wrappedIdentity := hc'.wrappedIdentity
      identitySecret := hc'.identitySecret }
  have hroutes := hmixed.routesAgree hS.correct
  refine ⟨hroutes.unlockVault, hroutes.unlockRecovery, hroutes.unlockPrf, fun msg => ?_,
    hid.valid hS.roundTrip, hid.readBy hS, fun hne => ?_⟩
  · rw [hid.identitySecret, hid.signPubkey]
    exact ⟨_, Flows.signMessage_eq id msg, Flows.verifyMessage_sign hS.ed25519 id.sign msg⟩
  · obtain ⟨seed, hseals⟩ := h'.amk.resolve_left hne
    exact (hc.withAmk hseals).amkStable hS.correct hS.ed25519 hseals ⟨rfl, rfl⟩

/-- A new account is sound. -/
lemma sound_created (hC : P.XchachaCorrect) (hK : P.XchachaCommits) {passphrase profileId : String}
    {draws : Flows.VaultDraws} {out : Flows.CreatedVault}
    (hout : Flows.createVaultProfile P passphrase profileId draws = .ok out)
    (hin : createdInputs passphrase draws out ⊆ I) :
    (created P passphrase out).Sound P I draws.auk :=
  ⟨⟨_, inv_created hC hK hout hin⟩, ⟨_, .created hout⟩, .inl rfl⟩

end Account

/-! ### One client at a time -/

/-- A call on the texts that are stored is a step of the account. -/
lemma Account.Inv.stepOn_self (hI : KekInput.CollisionFree P I) {a : Account} {auk : Auk}
    {c : Credentials} (h : a.Inv P I auk c) {op : Op} (hin : a.inputs P op ⊆ I) :
    a.stepOn P a op = a.step P op := by
  cases op with
  | changePassphrase old sk new salt nonce =>
    simp only [Account.stepOn, Account.step]
    cases hout : Flows.changePassphrase P old sk a.wrappedAukPassphrase new salt nonce with
    | ok out =>
      obtain ⟨_, _, _, hauk, -⟩ := Flows.changePassphrase_eq_ok.mp hout
      obtain ⟨-, hsk, -⟩ := (h.unlockAuk_eq_ok hI fun i hi => hin (.inl hi)).mp hauk
      simp only [hsk, ← h.secretKey]
    | err e => rfl
    | panic => rfl
  | rotateSecretKey p sk newSk salt nonce =>
    simp only [Account.stepOn, Account.step]
    cases hout : Flows.rotateSecretKey P p sk a.wrappedAukPassphrase newSk salt nonce with
    | ok out =>
      obtain ⟨_, _, hauk, -⟩ := Flows.rotateSecretKey_eq_ok.mp hout
      obtain ⟨hp, -⟩ := (h.unlockAuk_eq_ok hI fun i hi => hin (.inl hi)).mp hauk
      simp only [hp, ← h.passphrase]
    | err e => rfl
    | panic => rfl
  | _ => rfl

namespace Versions

/-- A run of one client at a time is one of clients that always read what is stored. -/
theorem exists_of_reachable (hC : P.XchachaCorrect) (hK : P.XchachaCommits)
    (hI : KekInput.CollisionFree P I) {a : Account} (h : (Account.machine P I).Reachable a) :
    ∃ v, (machine P I).Reachable v ∧ v.current = a := by
  have hrun : ∃ v, (machine P I).Reachable v ∧ v.current = a ∧ ∃ auk c, a.Inv P I auk c := by
    refine h.of_step (p := fun a => ∃ v, (machine P I).Reachable v ∧ v.current = a ∧
      ∃ auk c, a.Inv P I auk c) ?_ ?_
    · rintro a hinit
      obtain ⟨passphrase, profileId, draws, out, hout, hin, rfl⟩ := id hinit
      exact ⟨⟨_, []⟩, .init ⟨hinit, rfl⟩, rfl, _, _, Account.inv_created hC hK hout hin⟩
    · rintro a op a' ⟨v, hv, rfl, auk, c, hinv⟩ ⟨hin, rfl⟩
      obtain ⟨c', -, hinv'⟩ := hinv.step hC hK hI hin
      refine ⟨_, .step hv (a := (v.current, op)) ⟨.of_mem List.mem_cons_self, hin, rfl⟩, ?_,
        auk, c', hinv'⟩
      exact hinv.stepOn_self hI hin
  obtain ⟨v, hv, hcurrent, -⟩ := hrun
  exact ⟨v, hv, hcurrent⟩

/-! ### Over a run -/

variable {v : Versions}

/-- What one step of a client preserves. -/
lemma sound_step (hC : P.XchachaCorrect) (hK : P.XchachaCommits) {auk : Auk}
    (hall : ∀ b ∈ v.all, b.Sound P I auk) {act : Account × Op} {v' : Versions}
    (h : (machine P I).step v act v') : ∀ b ∈ v'.all, b.Sound P I auk := by
  obtain ⟨hread, hin, rfl⟩ := h
  have htexts := Account.TextsHold.of_readFrom hall hread
  have hcurrent := hall v.current List.mem_cons_self
  exact List.forall_mem_cons.mpr ⟨hcurrent.stepOn hC hK htexts hin, hall⟩

/-- All versions are around one AUK. -/
lemma exists_sound (hC : P.XchachaCorrect) (hK : P.XchachaCommits)
    (h : (machine P I).Reachable v) : ∃ auk, ∀ b ∈ v.all, b.Sound P I auk := by
  refine h.of_step (p := fun v => ∃ auk, ∀ b ∈ v.all, b.Sound P I auk) ?_ ?_
  · rintro ⟨a, past⟩ ⟨⟨passphrase, profileId, draws, out, hout, hin, rfl⟩, rfl⟩
    exact ⟨draws.auk, List.forall_mem_singleton.mpr (Account.sound_created hC hK hout hin)⟩
  · rintro v act v' ⟨auk, hall⟩ hstep
    exact ⟨auk, sound_step hC hK hall hstep⟩

/-- However clients that work on outdated texts interleave, nobody is locked out: the credentials
that were stored with any version open, with the wraps of that version, what any version stores,
and so those of the current one open the current one. -/
theorem reads_of_mem_all (hS : Account.KeysSound P) (h : (machine P I).Reachable v)
    {b b' : Account} (hb : b ∈ v.all) (hb' : b' ∈ v.all) : b.Reads P b' := by
  obtain ⟨auk, hall⟩ := exists_sound hS.correct hS.commits h
  exact (hall b hb).reads hS (hall b' hb')

/-- In every version each route opens for its own credentials only, so what a later version has
replaced is refused by it, even where the calls worked on outdated texts. -/
theorem opensExactly_of_mem_all (hC : P.XchachaCorrect) (hK : P.XchachaCommits)
    (hI : KekInput.CollisionFree P I) (h : (machine P I).Reachable v) {b : Account}
    (hb : b ∈ v.all) : b.OpensExactly P I := by
  obtain ⟨auk, hall⟩ := exists_sound hC hK h
  obtain ⟨c, hc⟩ := (hall b hb).inv
  exact hc.opensExactly hC hI

end Versions

/-! ### Two clients of a new vault -/

namespace Reference

/-- One client changes the passphrase of a new vault; another one, which still has the texts from
before, makes a new identity with the old passphrase. -/
theorem reads_two_clients : ∃ out,
    Flows.createVaultProfile primitives "pw" "constrained" draws = .ok out ∧
      ∃ a b, a = (Account.created primitives "pw" out).stepOn primitives
          (Account.created primitives "pw" out)
          (.changePassphrase "pw" out.secretKey "no" (zeros 16) (zeros 24)) ∧
        b = (Account.created primitives "pw" out).stepOn primitives a
          (.rotateIdentity "pw" out.secretKey (fit 32 [1]) (fit 32 [1]) (zeros 24)) ∧
        b.passphrase = "no" ∧ b.identitySecretB64 = b64 rotatedIdentity.toSecretBytes ∧
        b.Reads primitives b ∧ (Account.created primitives "pw" out).Reads primitives b := by
  obtain ⟨out, hout, -, hcreated⟩ := exists_created
  have hnew : (Versions.machine primitives Set.univ).Reachable
      ⟨Account.created primitives "pw" out, []⟩ :=
    .init ⟨⟨"pw", "constrained", draws, out, hout, Set.subset_univ _, rfl⟩, rfl⟩
  have hfirst := hnew.step (a := (Account.created primitives "pw" out,
    .changePassphrase "pw" out.secretKey "no" (zeros 16) (zeros 24)))
    ⟨.of_mem List.mem_cons_self, Set.subset_univ _, rfl⟩
  have hsecond := hfirst.step (a := (Account.created primitives "pw" out,
    .rotateIdentity "pw" out.secretKey (fit 32 [1]) (fit 32 [1]) (zeros 24)))
    ⟨.of_mem (List.mem_cons_of_mem _ List.mem_cons_self), Set.subset_univ _, rfl⟩
  obtain ⟨c, hc⟩ := hcreated.inv
  obtain ⟨t, hchange, -⟩ := hcreated.changePassphrase (.inr rfl)
  obtain ⟨rotated, hcall, hid, -⟩ := hcreated.rotateIdentity (fit 32 [1]) (fit 32 [1])
  have hrotated : ∀ a, (Account.created primitives "pw" out).stepOn primitives a
      (.rotateIdentity "pw" (Account.created primitives "pw" out).secretKey (fit 32 [1])
        (fit 32 [1]) (zeros 24)) =
        { a with
          wrappedIdentity := rotated.wrappedIdentity
          identitySecretB64 := rotated.identitySecretB64
          signPubkey := rotated.signPubkey
          kemPubkey := rotated.kemPubkey } := by
    intro a
    simp only [Account.stepOn, hcall]
  refine ⟨out, hout, _, _, rfl, rfl, ?_, ?_, ?_, ?_⟩
  · refine (congrArg Account.passphrase (hrotated _)).trans ?_
    refine (congrArg Account.passphrase
      (hc.stepOn_self collisionFree_inputs hchange.1)).trans ?_
    rw [← hchange.2]
  · exact (congrArg Account.identitySecretB64 (hrotated _)).trans hid
  · exact Versions.reads_of_mem_all keysSound hsecond List.mem_cons_self List.mem_cons_self
  · exact Versions.reads_of_mem_all keysSound hsecond
      (List.mem_cons_of_mem _ (List.mem_cons_of_mem _ List.mem_cons_self)) List.mem_cons_self

/-- The version after a change of the passphrase. -/
theorem opensExactly_changed : ∃ out,
    Flows.createVaultProfile primitives "pw" "constrained" draws = .ok out ∧
      ((Account.created primitives "pw" out).stepOn primitives (Account.created primitives "pw" out)
        (.changePassphrase "pw" out.secretKey "no" (zeros 16) (zeros 24))).OpensExactly primitives
          inputs := by
  obtain ⟨out, hout, hin, hcreated⟩ := exists_created
  have hnew : (Versions.machine primitives inputs).Reachable
      ⟨Account.created primitives "pw" out, []⟩ :=
    .init ⟨⟨"pw", "constrained", draws, out, hout, hin, rfl⟩, rfl⟩
  obtain ⟨t, hchange, -⟩ := hcreated.changePassphrase (.inr rfl)
  have hstep := hnew.step (a := (Account.created primitives "pw" out, .changePassphrase "pw"
    out.secretKey "no" (zeros 16) (zeros 24))) ⟨.of_mem List.mem_cons_self, hchange.1, rfl⟩
  exact ⟨out, hout, Versions.opensExactly_of_mem_all xchachaCorrect xchachaCommits
    collisionFree_inputs hstep List.mem_cons_self⟩

end Reference

end PockCore
