import PockCore.Vault.Routes

/-!
# Texts in the wrong place

Nothing in a stored text names its kind. What keeps the kinds apart is that each method derives
its key under its own domain separation text, that an identity has 64 bytes and an Account
Master Key 32, and that a wrap is JSON and a sealed secret is base64.
-/

namespace PockCore

variable {P : Primitives} {I : Set KekInput}

/-! ### Calls that do not panic -/

namespace Auk

lemma unwrapWithKek_ne_panic {w : WrappedAuk} {kek : ByteArr 32} :
    unwrapWithKek P w kek ≠ .panic := by
  unfold unwrapWithKek
  split_ifs
  · exact Outcome.err_ne_panic
  · apply Outcome.bind_ne_panic unb64_ne_panic
    intro blob _
    exact Outcome.bind_ne_panic Aead.openAad_ne_panic fun _ _ => Outcome.okOr_ne_panic

lemma derivePassphraseKek_ne_panic {passphrase salt : Bytes} {secretKey : SecretKey}
    {profile : KdfProfile} : derivePassphraseKek P passphrase salt secretKey profile ≠ .panic := by
  apply Outcome.bind_ne_panic Outcome.ofExcept_ne_panic
  intro stretched _
  exact Outcome.ok_ne_panic

lemma unwrapWithPassphrase_ne_panic {w : WrappedAuk} {passphrase : Bytes}
    {secretKey : SecretKey} : unwrapWithPassphrase P w passphrase secretKey ≠ .panic := by
  unfold unwrapWithPassphrase
  split_ifs
  · exact Outcome.err_ne_panic
  · apply Outcome.bind_ne_panic unb64_ne_panic
    intro salt _
    apply Outcome.bind_ne_panic derivePassphraseKek_ne_panic
    intro kek _
    apply Outcome.bind_ne_panic unb64_ne_panic
    intro blob _
    exact Outcome.bind_ne_panic Aead.openAad_ne_panic fun _ _ => Outcome.okOr_ne_panic

lemma unwrapIdentity_ne_panic {auk : Auk} {wrapped : String} :
    unwrapIdentity P auk wrapped ≠ .panic := by
  apply Outcome.bind_ne_panic unb64_ne_panic
  intro blob _
  exact Outcome.bind_ne_panic Aead.openAad_ne_panic fun _ _ => Identity.fromSecretBytes_ne_panic

end Auk

namespace Flows

variable {p sk s code json wid : String}

lemma readWrappedAuk_ne_panic : readWrappedAuk P json ≠ .panic := Outcome.ofExcept_ne_panic

lemma parseSk_ne_panic : parseSk P sk ≠ .panic :=
  Outcome.bind_ne_panic Outcome.ofExcept_ne_panic fun _ _ => Outcome.okOr_ne_panic

lemma prfKek_ne_panic : prfKek P s ≠ .panic := by
  apply Outcome.bind_ne_panic Outcome.ofExcept_ne_panic
  intro secret _
  exact Outcome.ok_ne_panic

lemma unlockAuk_ne_panic : unlockAuk P p sk json ≠ .panic := by
  apply Outcome.bind_ne_panic readWrappedAuk_ne_panic
  intro w _
  apply Outcome.bind_ne_panic parseSk_ne_panic
  intro key _
  exact Outcome.mapErr_ne_panic.mpr Auk.unwrapWithPassphrase_ne_panic

lemma unlockVault_ne_panic : unlockVault P p sk json wid ≠ .panic := by
  apply Outcome.bind_ne_panic parseSk_ne_panic
  intro key _
  apply Outcome.bind_ne_panic readWrappedAuk_ne_panic
  intro w _
  apply Outcome.bind_ne_panic (Outcome.mapErr_ne_panic.mpr Auk.unwrapWithPassphrase_ne_panic)
  intro auk _
  apply Outcome.bind_ne_panic Auk.unwrapIdentity_ne_panic
  intro id _
  exact Outcome.ok_ne_panic

lemma enrollPrf_ne_panic {nonce : Nonce} : enrollPrf P p sk json s nonce ≠ .panic := by
  apply Outcome.bind_ne_panic parseSk_ne_panic
  intro key _
  apply Outcome.bind_ne_panic readWrappedAuk_ne_panic
  intro w _
  apply Outcome.bind_ne_panic (Outcome.mapErr_ne_panic.mpr Auk.unwrapWithPassphrase_ne_panic)
  intro auk _
  apply Outcome.bind_ne_panic prfKek_ne_panic
  intro kek _
  exact Outcome.ok_ne_panic

lemma unlockRecovery_ne_panic : unlockRecovery P code json wid ≠ .panic := by
  apply Outcome.bind_ne_panic readWrappedAuk_ne_panic
  intro w _
  apply Outcome.bind_ne_panic (Outcome.mapErr_ne_panic.mpr Auk.unwrapWithKek_ne_panic)
  intro auk _
  apply Outcome.bind_ne_panic Auk.unwrapIdentity_ne_panic
  intro id _
  exact Outcome.ok_ne_panic

lemma aukFromPrf_ne_panic : aukFromPrf P s json ≠ .panic := by
  apply Outcome.bind_ne_panic readWrappedAuk_ne_panic
  intro w _
  apply Outcome.bind_ne_panic prfKek_ne_panic
  intro kek _
  exact Outcome.mapErr_ne_panic.mpr Auk.unwrapWithKek_ne_panic

/-! ### Wraps that the given input does not open -/

lemma isErr_unlockAuk (h : ∀ i ∈ passphraseInputs P p sk json, ∀ auk, ¬Opens P json i auk) :
    (unlockAuk P p sk json).IsErr := by
  apply Outcome.isErr_of_ne unlockAuk_ne_panic
  intro auk hok
  obtain ⟨i, hi, ho⟩ := unlockAuk_eq_ok.mp hok
  exact h i hi auk ho

lemma isErr_unlockVault (h : (unlockAuk P p sk json).IsErr) :
    (unlockVault P p sk json wid).IsErr := by
  apply Outcome.isErr_of_ne unlockVault_ne_panic
  intro out hok
  obtain ⟨auk, -, hauk, -⟩ := unlockVault_eq_ok.mp hok
  exact h.ne_ok auk hauk

lemma isErr_enrollPrf (h : (unlockAuk P p sk json).IsErr) {nonce : Nonce} :
    (enrollPrf P p sk json s nonce).IsErr := by
  apply Outcome.isErr_of_ne enrollPrf_ne_panic
  intro out hok
  obtain ⟨auk, -, hauk, -⟩ := enrollPrf_eq_ok.mp hok
  exact h.ne_ok auk hauk

lemma isErr_unlockRecovery (h : ∀ auk, ¬Opens P json (recoveryInput code) auk) :
    (unlockRecovery P code json wid).IsErr := by
  apply Outcome.isErr_of_ne unlockRecovery_ne_panic
  intro out hok
  obtain ⟨auk, -, ho, -⟩ := unlockRecovery_eq_ok.mp hok
  exact h auk ho

lemma isErr_resetPassphrase (h : ∀ auk, ¬Opens P json (recoveryInput code) auk) {new : String}
    {salt : ByteArr 16} {nonce : Nonce} :
    (resetPassphrase P code json sk new salt nonce).IsErr := by
  apply Outcome.isErr_bind readWrappedAuk_ne_panic
  intro w hw
  refine Outcome.IsErr.bind (Outcome.isErr_mapErr.mpr ?_) _
  apply Outcome.isErr_of_ne Auk.unwrapWithKek_ne_panic
  intro auk hok
  exact h auk (opens_recoveryInput.mpr ⟨w, hw, hok⟩)

lemma isErr_aukFromPrf (h : ∀ i ∈ prfInputs P s, ∀ auk, ¬Opens P json i auk) :
    (aukFromPrf P s json).IsErr := by
  apply Outcome.isErr_of_ne aukFromPrf_ne_panic
  intro auk hok
  obtain ⟨i, hi, ho⟩ := aukFromPrf_eq_ok.mp hok
  exact h i hi auk ho

end Flows

/-! ### Slots -/

/-- The kinds of stored texts. -/
inductive Slot where
  | passphrase
  | recovery
  | prf
  | identity
  | amk
  deriving DecidableEq, Repr

/-- The stored texts of a kind. -/
def Account.texts (a : Account) : Slot → Set String
  | .passphrase => {a.wrappedAukPassphrase}
  | .recovery => {a.wrappedAukRecovery}
  | .prf => {t | ∃ e ∈ a.prfs, t = e.wrapped}
  | .identity => {a.wrappedIdentity}
  | .amk => {a.wrappedAmk}

/-- The kind of wrap that an input is for. -/
def KekInput.slot : KekInput → Slot
  | passphrase .. => .passphrase
  | recovery _ => .recovery
  | prf _ => .prf

/-- Every flow that asks for a text of the kind, given `t` in its place and the stored texts in
the others, returns an error. The credentials are any whose derivations are in `I`. -/
def Account.Refuses (P : Primitives) (I : Set KekInput) (a : Account) (t : String) : Slot → Prop
  | .passphrase => ∀ p sk, Flows.passphraseInputs P p sk t ⊆ I →
    (Flows.unlockVault P p sk t a.wrappedIdentity).IsErr ∧
    (∀ new salt nonce, (Flows.changePassphrase P p sk t new salt nonce).IsErr) ∧
    (∀ newSk salt nonce, (Flows.rotateSecretKey P p sk t newSk salt nonce).IsErr) ∧
    (∀ rb nonce, (Flows.rotateRecoveryCode P p sk t rb nonce).IsErr) ∧
    (∀ signSeed kemSeed nonce,
      (Flows.rotateIdentity P p sk t a.wrappedIdentity signSeed kemSeed nonce).IsErr) ∧
    (∀ s nonce, (Flows.enrollPrf P p sk t s nonce).IsErr) ∧
    (∀ seed nonce, (Flows.amkEnsure P p sk t a.wrappedAmk seed nonce).IsErr) ∧
    ∀ msg, (Flows.amkSign P p sk t a.wrappedAmk msg).IsErr
  | .recovery => ∀ code, Flows.recoveryInput code ∈ I →
    (Flows.unlockRecovery P code t a.wrappedIdentity).IsErr ∧
    ∀ sk new salt nonce, (Flows.resetPassphrase P code t sk new salt nonce).IsErr
  | .prf => ∀ s, Flows.prfInputs P s ⊆ I →
    (Flows.unlockPrf P s t a.wrappedIdentity).IsErr ∧
    (∀ seed nonce, (Flows.amkEnsurePrf P s t a.wrappedAmk seed nonce).IsErr) ∧
    ∀ msg, (Flows.amkSignPrf P s t a.wrappedAmk msg).IsErr
  | .identity =>
    (∀ p sk, Flows.passphraseInputs P p sk a.wrappedAukPassphrase ⊆ I →
      (Flows.unlockVault P p sk a.wrappedAukPassphrase t).IsErr ∧
      ∀ signSeed kemSeed nonce,
        (Flows.rotateIdentity P p sk a.wrappedAukPassphrase t signSeed kemSeed nonce).IsErr) ∧
    (∀ code, Flows.recoveryInput code ∈ I →
      (Flows.unlockRecovery P code a.wrappedAukRecovery t).IsErr) ∧
    ∀ e ∈ a.prfs, ∀ s, Flows.prfInputs P s ⊆ I → (Flows.unlockPrf P s e.wrapped t).IsErr
  | .amk =>
    (∀ p sk, Flows.passphraseInputs P p sk a.wrappedAukPassphrase ⊆ I →
      (∀ seed nonce, (Flows.amkEnsure P p sk a.wrappedAukPassphrase t seed nonce).IsErr) ∧
      ∀ msg, (Flows.amkSign P p sk a.wrappedAukPassphrase t msg).IsErr) ∧
    ∀ e ∈ a.prfs, ∀ s, Flows.prfInputs P s ⊆ I →
      (∀ seed nonce, (Flows.amkEnsurePrf P s e.wrapped t seed nonce).IsErr) ∧
      ∀ msg, (Flows.amkSignPrf P s e.wrapped t msg).IsErr

/-! ### Texts that are no wrap, and texts that are no base64 -/

/-- Base64 text is not read as a wrap. -/
lemma readWrappedAuk_b64 (hJ : P.WrappedAukDelimited) (b : Bytes) (w : WrappedAuk) :
    Flows.readWrappedAuk P (b64 b) ≠ .ok w := by
  intro h
  rw [Flows.readWrappedAuk, Outcome.ofExcept_eq_ok] at h
  exact not_delimited_b64 b (hJ _ _ h)

lemma not_opens_b64 (hJ : P.WrappedAukDelimited) (b : Bytes) (i : KekInput) (auk : Auk) :
    ¬Opens P (b64 b) i auk := by
  rintro ⟨kek, -, ho⟩
  obtain ⟨w, hw, -⟩ := Outcome.bind_eq_ok.mp ho
  exact readWrappedAuk_b64 hJ b w hw

/-- The text of a wrap is not base64. -/
lemma isErr_unb64_of_wraps (hJ : P.WrappedAukDelimited) {json : String} {i : KekInput}
    {auk : Auk} (h : Wraps P I json i auk) : (unb64 P json).IsErr := by
  obtain ⟨kek, -, ho⟩ := h.opens
  obtain ⟨w, hw, -⟩ := Outcome.bind_eq_ok.mp ho
  apply Outcome.isErr_of_ne unb64_ne_panic
  intro b hb
  rw [unb64_eq_ok.mp hb] at hw
  exact readWrappedAuk_b64 hJ b w hw

lemma ne_empty_of_wraps (hJ : P.WrappedAukDelimited) {json : String} {i : KekInput} {auk : Auk}
    (h : Wraps P I json i auk) : json ≠ "" := by
  rintro rfl
  exact not_opens_b64 hJ [] i auk h.opens

namespace Account.Inv

variable {a : Account} {auk : Auk} {c : Credentials} {t : String} {s : Slot}

lemma wrappedIdentity_b64 (h : a.Inv P I auk c) : ∃ b, a.wrappedIdentity = b64 b := by
  obtain ⟨nonce, hid⟩ := h.wrappedIdentity
  exact ⟨_, hid⟩

lemma wrappedAmk_b64 (h : a.Inv P I auk c) : ∃ b, a.wrappedAmk = b64 b := by
  rcases h.wrappedAmk with hamk | ⟨seed, nonce, hamk⟩
  · exact ⟨[], hamk⟩
  · exact ⟨_, hamk⟩

/-- A stored text is a wrap of its kind, or the sealed identity, or the sealed AMK. -/
lemma exists_wraps (h : a.Inv P I auk c) (ht : t ∈ a.texts s) :
    (∃ i, i.slot = s ∧ Wraps P I t i auk) ∨ s = .identity ∧ t = a.wrappedIdentity ∨
      s = .amk ∧ t = a.wrappedAmk := by
  cases s with
  | passphrase =>
    obtain ⟨i, ⟨w, key, salt, -, -, -, rfl⟩, hw⟩ := h.wrappedAukPassphrase
    exact .inl ⟨_, rfl, Set.mem_singleton_iff.mp ht ▸ hw⟩
  | recovery => exact .inl ⟨_, rfl, Set.mem_singleton_iff.mp ht ▸ h.wrappedAukRecovery⟩
  | prf =>
    obtain ⟨e, he, rfl⟩ := ht
    obtain ⟨secret, -, hw⟩ := h.exists_secret he
    exact .inl ⟨_, rfl, hw⟩
  | identity => exact .inr (.inl ⟨rfl, ht⟩)
  | amk => exact .inr (.inr ⟨rfl, ht⟩)

/-- No stored text opens for an input of another kind. -/
lemma not_opens_of_ne (hJ : P.WrappedAukDelimited) (hI : KekInput.CollisionFree P I)
    (h : a.Inv P I auk c) (ht : t ∈ a.texts s) {j : KekInput} (hj : j ∈ I) (hne : j.slot ≠ s)
    (auk' : Auk) : ¬Opens P t j auk' := by
  rcases h.exists_wraps ht with ⟨i, rfl, hw⟩ | ⟨-, rfl⟩ | ⟨-, rfl⟩
  · exact hw.not_opens (KekInput.deriveInj hI) hj fun hji => hne (hji ▸ rfl)
  · obtain ⟨b, hb⟩ := h.wrappedIdentity_b64
    exact hb ▸ not_opens_b64 hJ b j auk'
  · obtain ⟨b, hb⟩ := h.wrappedAmk_b64
    exact hb ▸ not_opens_b64 hJ b j auk'

/-- No other stored text is unwrapped as an identity: an AMK is too short. -/
lemma isErr_unwrapIdentity (hC : P.XchachaCorrect) (hJ : P.WrappedAukDelimited)
    (h : a.Inv P I auk c) (ht : t ∈ a.texts s) (hs : s ≠ .identity) :
    (Auk.unwrapIdentity P auk t).IsErr := by
  rcases h.exists_wraps ht with ⟨i, -, hw⟩ | ⟨rfl, -⟩ | ⟨-, rfl⟩
  · exact (isErr_unb64_of_wraps hJ hw).bind _
  · exact absurd rfl hs
  · rcases h.wrappedAmk with hamk | ⟨seed, nonce, hamk⟩
    · rw [hamk, show "" = b64 [] from rfl, Auk.unwrapIdentity, unb64_b64]
      exact Outcome.isErr_err _
    · rw [hamk, Auk.unwrapIdentity, Auk.wrapSecret, unb64_b64, Outcome.ok_bind,
        Aead.openBlob_sealBlob hC]
      exact Identity.fromSecretBytes_of_length_ne (by simp)

/-- No other stored text is unwrapped as an AMK: an identity is too long. -/
lemma unwrapSecret_of_ne (hC : P.XchachaCorrect) (hJ : P.WrappedAukDelimited)
    (h : a.Inv P I auk c) (ht : t ∈ a.texts s) (hs : s ≠ .amk) :
    t ≠ "" ∧ ((Auk.unwrapSecret P auk t).IsErr ∨
      ∃ bytes, Auk.unwrapSecret P auk t = .ok bytes ∧ Bytes.tryInto 32 bytes = none) := by
  rcases h.exists_wraps ht with ⟨i, -, hw⟩ | ⟨-, rfl⟩ | ⟨rfl, -⟩
  · exact ⟨ne_empty_of_wraps hJ hw, .inl ((isErr_unb64_of_wraps hJ hw).bind _)⟩
  · obtain ⟨nonce, hid⟩ := h.wrappedIdentity
    have hsecret : a.wrappedIdentity = Auk.wrapSecret P auk c.identity.toSecretBytes nonce := hid
    rw [hsecret]
    exact ⟨Auk.wrapSecret_ne_empty _, .inr ⟨_, Auk.unwrapSecret_wrapSecret hC _,
      Bytes.tryInto_eq_none.mpr (by simp)⟩⟩
  · exact absurd rfl hs

lemma isErr_amkSignFromAuk (hC : P.XchachaCorrect) (hJ : P.WrappedAukDelimited)
    (h : a.Inv P I auk c) (ht : t ∈ a.texts s) (hs : s ≠ .amk) (msg : Bytes) :
    (Flows.amkSignFromAuk P auk t msg).IsErr := by
  obtain ⟨-, herr | ⟨bytes, hb, hlen⟩⟩ := h.unwrapSecret_of_ne hC hJ ht hs
  · exact herr.bind _
  · refine Outcome.isErr_bind_of_ok hb ?_
    rw [hlen]
    exact Outcome.isErr_err _

lemma isErr_amkEnsureFromAuk (hC : P.XchachaCorrect) (hJ : P.WrappedAukDelimited)
    (h : a.Inv P I auk c) (ht : t ∈ a.texts s) (hs : s ≠ .amk) (seed : ByteArr 32)
    (nonce : Nonce) : (Flows.amkEnsureFromAuk P auk t seed nonce).IsErr := by
  obtain ⟨hne, hopen⟩ := h.unwrapSecret_of_ne hC hJ ht hs
  rw [Flows.amkEnsureFromAuk, if_neg hne]
  rcases hopen with herr | ⟨bytes, hb, hlen⟩
  · exact herr.bind _
  · refine Outcome.isErr_bind_of_ok hb ?_
    rw [hlen]
    exact Outcome.isErr_err _

/-! ### Every flow in every place -/

/-- With a wrap that no input of the passphrase route opens, every flow of that route fails. -/
lemma refuses_passphrase {a : Account} {t : String}
    (ht : ∀ j ∈ I, j.slot = .passphrase → ∀ auk', ¬Opens P t j auk') :
    a.Refuses P I t .passphrase := by
  intro p sk hin
  have hauk : (Flows.unlockAuk P p sk t).IsErr := by
    apply Flows.isErr_unlockAuk
    intro j hj
    have hjI := hin hj
    obtain ⟨w, key, salt, -, -, -, rfl⟩ := hj
    exact ht _ hjI rfl
  exact ⟨Flows.isErr_unlockVault hauk, fun _ _ _ => hauk.bind _, fun _ _ _ => hauk.bind _,
    fun _ _ => hauk.bind _, fun _ _ _ => hauk.bind _, fun _ _ => Flows.isErr_enrollPrf hauk,
    fun _ _ => hauk.bind _, fun _ => hauk.bind _⟩

lemma refuses_recovery {a : Account} {t : String}
    (ht : ∀ j ∈ I, j.slot = .recovery → ∀ auk', ¬Opens P t j auk') :
    a.Refuses P I t .recovery := by
  intro code hin
  have hno : ∀ auk', ¬Opens P t (Flows.recoveryInput code) auk' := ht _ hin rfl
  exact ⟨Flows.isErr_unlockRecovery hno, fun _ _ _ _ => Flows.isErr_resetPassphrase hno⟩

lemma refuses_prf {a : Account} {t : String}
    (ht : ∀ j ∈ I, j.slot = .prf → ∀ auk', ¬Opens P t j auk') : a.Refuses P I t .prf := by
  intro s hin
  have hauk : (Flows.aukFromPrf P s t).IsErr := by
    apply Flows.isErr_aukFromPrf
    intro j hj
    have hjI := hin hj
    obtain ⟨secret, -, rfl⟩ := hj
    exact ht _ hjI rfl
  refine ⟨?_, fun _ _ => hauk.bind _, fun _ => hauk.bind _⟩
  rw [Flows.unlockPrf_eq]
  exact hauk.bind _

/-- What unlocks the account yields its AUK, so a flow that then asks for an identity gets none
from a text of another kind. -/
lemma refuses_identity (hC : P.XchachaCorrect) (hJ : P.WrappedAukDelimited)
    (hI : KekInput.CollisionFree P I) (h : a.Inv P I auk c) (ht : t ∈ a.texts s)
    (hs : s ≠ .identity) : a.Refuses P I t .identity := by
  have hid := h.isErr_unwrapIdentity hC hJ ht hs
  refine ⟨fun p sk hin => ⟨?_, fun signSeed kemSeed nonce => ?_⟩, fun code hin => ?_,
    fun e he sec hin => ?_⟩
  · apply Outcome.isErr_of_ne Flows.unlockVault_ne_panic
    intro out hok
    obtain ⟨auk', id, hauk, hok', -⟩ := Flows.unlockVault_eq_ok.mp hok
    obtain ⟨-, -, rfl⟩ := (h.unlockAuk_eq_ok hI hin).mp hauk
    exact hid.ne_ok id hok'
  · apply Outcome.isErr_bind Flows.unlockAuk_ne_panic
    intro auk' hauk
    obtain ⟨-, -, rfl⟩ := (h.unlockAuk_eq_ok hI hin).mp hauk
    exact hid.bind _
  · apply Outcome.isErr_of_ne Flows.unlockRecovery_ne_panic
    intro out hok
    obtain ⟨auk', id, hauk, hok', -⟩ := Flows.unlockRecovery_eq_ok.mp hok
    obtain ⟨-, rfl⟩ := (h.opens_recovery_iff hI hin).mp hauk
    exact hid.ne_ok id hok'
  · obtain ⟨secret, -, hw⟩ := h.exists_secret he
    rw [Flows.unlockPrf_eq]
    apply Outcome.isErr_bind Flows.aukFromPrf_ne_panic
    intro auk' hauk
    obtain ⟨-, rfl⟩ := (aukFromPrf_eq_ok hI hw hin).mp hauk
    exact hid.bind _

lemma refuses_amk (hC : P.XchachaCorrect) (hJ : P.WrappedAukDelimited)
    (hI : KekInput.CollisionFree P I) (h : a.Inv P I auk c) (ht : t ∈ a.texts s)
    (hs : s ≠ .amk) : a.Refuses P I t .amk := by
  refine ⟨fun p sk hin => ⟨fun seed nonce => ?_, fun msg => ?_⟩,
    fun e he sec hin => ⟨fun seed nonce => ?_, fun msg => ?_⟩⟩
  · apply Outcome.isErr_bind Flows.unlockAuk_ne_panic
    intro auk' hauk
    obtain ⟨-, -, rfl⟩ := (h.unlockAuk_eq_ok hI hin).mp hauk
    exact (h.isErr_amkEnsureFromAuk hC hJ ht hs seed nonce).bind _
  · apply Outcome.isErr_bind Flows.unlockAuk_ne_panic
    intro auk' hauk
    obtain ⟨-, -, rfl⟩ := (h.unlockAuk_eq_ok hI hin).mp hauk
    exact h.isErr_amkSignFromAuk hC hJ ht hs msg
  · obtain ⟨secret, -, hw⟩ := h.exists_secret he
    apply Outcome.isErr_bind Flows.aukFromPrf_ne_panic
    intro auk' hauk
    obtain ⟨-, rfl⟩ := (aukFromPrf_eq_ok hI hw hin).mp hauk
    exact (h.isErr_amkEnsureFromAuk hC hJ ht hs seed nonce).bind _
  · obtain ⟨secret, -, hw⟩ := h.exists_secret he
    apply Outcome.isErr_bind Flows.aukFromPrf_ne_panic
    intro auk' hauk
    obtain ⟨-, rfl⟩ := (aukFromPrf_eq_ok hI hw hin).mp hauk
    exact h.isErr_amkSignFromAuk hC hJ ht hs msg

end Account.Inv

/-- Stored texts cannot be swapped: in every account reached, a text of one kind, handed out
where one of another kind is asked for, makes every flow fail that asks for it. -/
theorem Account.refuses_of_reachable (hC : P.XchachaCorrect) (hK : P.XchachaCommits)
    (hJ : P.WrappedAukDelimited) (hI : KekInput.CollisionFree P I) {a : Account}
    (h : (Account.machine P I).Reachable a) {s s' : Slot} (hne : s ≠ s') {t : String}
    (ht : t ∈ a.texts s) : a.Refuses P I t s' := by
  obtain ⟨c, -, auk, hinv⟩ := (Account.simulates hC hK hI).reachable h
  have hopens : ∀ j ∈ I, j.slot = s' → ∀ auk', ¬Opens P t j auk' := fun j hj hs' =>
    hinv.not_opens_of_ne hJ hI ht hj (hs' ▸ hne.symm)
  cases s' with
  | passphrase => exact Inv.refuses_passphrase hopens
  | recovery => exact Inv.refuses_recovery hopens
  | prf => exact Inv.refuses_prf hopens
  | identity => exact hinv.refuses_identity hC hJ hI ht hne
  | amk => exact hinv.refuses_amk hC hJ hI ht hne

/-- A new vault of the stand-in primitives, and its recovery wrap in the place of the passphrase
wrap. -/
theorem Reference.unlockVault_recoveryWrap : ∃ out,
    Flows.createVaultProfile Reference.primitives "pw" "constrained" Reference.draws = .ok out ∧
      (Flows.unlockVault Reference.primitives "pw" out.secretKey
        (Reference.primitives.wrappedAukJson.write out.wrappedAukRecovery)
        out.wrappedIdentity).IsErr := by
  obtain ⟨out, hout, hsk, hprofile, -, hprofile', hsalt'⟩ := Reference.exists_vault
  have hreach := Reference.reachable_created hout (Reference.createdInputs_subset hprofile)
  have href := Account.refuses_of_reachable Reference.xchachaCorrect Reference.xchachaCommits
    Reference.wrappedAukDelimited Reference.collisionFree_inputs hreach
    (show Slot.recovery ≠ .passphrase by decide) (Set.mem_singleton _)
  refine ⟨out, hout, (href "pw" out.secretKey ?_).1⟩
  rw [hsk]
  refine (Flows.passphraseInputs_write hsalt' _).trans_subset ?_
  rw [hprofile']
  rintro i rfl
  exact .inr (.inr (.inr (.inl rfl)))

end PockCore
