import PockCore.Vault.Calls

/-!
# The cost of a passphrase wrap

A passphrase wrap records the cost of its key derivation in the clear, as three numbers. A re-wrap
chooses the cost anew, and an unlock reads the numbers as one of two profiles.
-/

namespace PockCore

variable {P : Primitives}

/-- The recorded parameters: memory in KiB, iterations, parallelism. -/
def WrappedAuk.params (w : WrappedAuk) : UInt32 × UInt32 × UInt32 := (w.mKib, w.t, w.p)

/-- The wrap with other parameters in the place of its own. -/
def WrappedAuk.withParams (w : WrappedAuk) (m t p : UInt32) : WrappedAuk :=
  { w with mKib := m, t := t, p := p }

lemma Auk.params_of_wrapWithPassphrase {auk : Auk} {passphrase : Bytes} {secretKey : SecretKey}
    {profile : KdfProfile} {salt : ByteArr 16} {nonce : Nonce} {w : WrappedAuk}
    (h : wrapWithPassphrase P auk passphrase secretKey profile salt nonce = .ok w) :
    w.params = profile.params := by
  obtain ⟨kek, -, rfl⟩ := wrapWithPassphrase_eq_ok.mp h
  rfl

/-! ### Re-wraps -/

/-- A successful call that is handed a text of the wrap `w` returns the wrap `w'`. -/
inductive Rewraps (P : Primitives) (w : WrappedAuk) : WrappedAuk → Prop where
  | changePassphrase {json oldPassphrase secretKeyB64 newPassphrase : String} {salt : ByteArr 16}
      {nonce : Nonce} {out : Flows.ReWrapped} (hread : Flows.readWrappedAuk P json = .ok w)
      (h : Flows.changePassphrase P oldPassphrase secretKeyB64 json newPassphrase salt nonce =
        .ok out) : Rewraps P w out.wrappedAukPassphrase
  | rotateSecretKey {json passphrase oldSecretKeyB64 : String} {newSk salt : ByteArr 16}
      {nonce : Nonce} {out : Flows.RotatedSecretKey} (hread : Flows.readWrappedAuk P json = .ok w)
      (h : Flows.rotateSecretKey P passphrase oldSecretKeyB64 json newSk salt nonce = .ok out) :
      Rewraps P w out.wrappedAukPassphrase

/-- The new wrap records the parameters of the one that it replaces. -/
def KeepsParams (w w' : WrappedAuk) : Prop := w'.params = w.params

variable {w w' : WrappedAuk}

/-- A re-wrap is made under the cheaper profile, whatever it replaces. -/
lemma Rewraps.params_eq (h : Rewraps P w w') : w'.params = KdfProfile.constrained.params := by
  cases h with
  | changePassphrase _ h =>
    obtain ⟨auk, secretKey, w', -, -, hw', rfl⟩ := Flows.changePassphrase_eq_ok.mp h
    exact Auk.params_of_wrapWithPassphrase hw'
  | rotateSecretKey _ h =>
    obtain ⟨auk, w', -, hw', rfl⟩ := Flows.rotateSecretKey_eq_ok.mp h
    exact Auk.params_of_wrapWithPassphrase hw'

/-- One re-wrap keeps the parameters exactly if they are those of the cheaper profile already. -/
lemma Rewraps.keeps_iff (h : Rewraps P w w') :
    KeepsParams w w' ↔ w.params = KdfProfile.constrained.params := by
  rw [KeepsParams, h.params_eq]
  exact eq_comm

/-- So does a run of re-wraps, from any wrap on. -/
lemma isChain_keepsParams_iff {ws : List WrappedAuk} (hrun : (w :: ws).IsChain (Rewraps P)) :
    (w :: ws).IsChain KeepsParams ↔ w.params = KdfProfile.constrained.params ∨ ws = [] := by
  induction ws generalizing w with
  | nil => exact iff_of_true (.singleton w) (.inr rfl)
  | cons w' ws ih =>
    obtain ⟨hstep, hrun⟩ := List.isChain_cons_cons.mp hrun
    rw [List.isChain_cons_cons, hstep.keeps_iff, ih hrun]
    constructor
    · exact fun h => .inl h.1
    · intro h
      exact ⟨h.resolve_right (List.cons_ne_nil w' ws), .inl hstep.params_eq⟩

namespace Reference

/-- The passphrase of a new vault of the stand-in primitives can be changed. -/
lemma exists_changed {profileId : String} {out : Flows.CreatedVault}
    (hout : Flows.createVaultProfile primitives "pw" profileId draws = .ok out) :
    ∃ changed, Flows.changePassphrase primitives "pw" out.secretKey
      (primitives.wrappedAukJson.write out.wrappedAukPassphrase) "new" (zeros 16) (zeros 24) =
        .ok changed := by
  have hinv := Account.inv_created xchachaCorrect xchachaCommits hout (Set.subset_univ _)
  have hsk : out.secretKey = b64 draws.secretKey.toList := hinv.secretKey
  have hkey : Flows.parseSk primitives out.secretKey = .ok draws.secretKey := by
    rw [hsk, Flows.parseSk_b64]
  exact ⟨_, Flows.changePassphrase_eq_ok.mpr ⟨_, _, _, hinv.unlockAuk_current, hkey,
    Auk.wrapWithPassphrase_eq_ok.mpr ⟨_, rfl, rfl⟩, rfl⟩⟩

/-- The re-wraps of a new vault, whose passphrase is changed once. -/
lemma isChain_rewraps {out : Flows.CreatedVault} {changed : Flows.ReWrapped}
    (h : Flows.changePassphrase primitives "pw" out.secretKey
      (primitives.wrappedAukJson.write out.wrappedAukPassphrase) "new" (zeros 16) (zeros 24) =
        .ok changed) :
    [out.wrappedAukPassphrase, changed.wrappedAukPassphrase].IsChain (Rewraps primitives) :=
  List.isChain_cons_cons.mpr ⟨.changePassphrase (readWrappedAuk_write _) h, .singleton _⟩

/-- A vault that is created with the native profile has the parameters of the other one after its
passphrase was changed. -/
theorem changePassphrase_native : ∃ out changed,
    Flows.createVaultProfile primitives "pw" "native" draws = .ok out ∧
      out.wrappedAukPassphrase.params = KdfProfile.native.params ∧
      Flows.changePassphrase primitives "pw" out.secretKey
        (primitives.wrappedAukJson.write out.wrappedAukPassphrase) "new" (zeros 16) (zeros 24) =
          .ok changed ∧
      changed.wrappedAukPassphrase.params = KdfProfile.constrained.params ∧
      ¬∀ ws, (out.wrappedAukPassphrase :: ws).IsChain (Rewraps primitives) →
        (out.wrappedAukPassphrase :: ws).IsChain KeepsParams := by
  have hout : ∃ out, Flows.createVaultProfile primitives "pw" "native" draws = .ok out ∧
      out.wrappedAukPassphrase.params = KdfProfile.native.params := ⟨_, rfl, rfl⟩
  obtain ⟨out, hout, hparams⟩ := hout
  obtain ⟨changed, hchanged⟩ := exists_changed hout
  have hchain := isChain_rewraps hchanged
  have hstep := (List.isChain_cons_cons.mp hchain).1
  refine ⟨out, changed, hout, hparams, hchanged, hstep.params_eq, fun h => ?_⟩
  have hkept := (List.isChain_cons_cons.mp (h _ hchain)).1
  rw [hstep.keeps_iff, hparams] at hkept
  exact absurd hkept (by decide)

end Reference

lemma Flows.kdfProfile_eq_constrained {profileId : String} :
    kdfProfile P profileId = .ok .constrained ↔ profileId = "constrained" := by
  unfold kdfProfile
  split <;> simp_all

/-- From the creation of a vault on, every re-wrap records the parameters of the wrap that it
replaces, exactly if the vault was created with the cheaper profile or there is no re-wrap. -/
theorem Account.keepsParams_iff {passphrase profileId : String} {draws : Flows.VaultDraws}
    {out : Flows.CreatedVault}
    (h : Flows.createVaultProfile P passphrase profileId draws = .ok out) {ws : List WrappedAuk}
    (hrun : (out.wrappedAukPassphrase :: ws).IsChain (Rewraps P)) :
    (out.wrappedAukPassphrase :: ws).IsChain KeepsParams ↔
      profileId = "constrained" ∨ ws = [] := by
  rw [isChain_keepsParams_iff hrun]
  obtain ⟨profile, w, hprofile, hw, rfl⟩ := createVaultProfile_eq_ok h
  have hparams : w.params = KdfProfile.constrained.params ↔ profileId = "constrained" := by
    rw [Auk.params_of_wrapWithPassphrase hw, KdfProfile.params_injective.eq_iff,
      ← Flows.kdfProfile_eq_constrained (P := P), hprofile, Outcome.ok.injEq]
  exact or_congr_left hparams

/-- A vault that is created with the cheaper profile keeps its parameters. -/
theorem Reference.keepsParams_changed : ∃ out changed,
    Flows.createVaultProfile primitives "pw" "constrained" draws = .ok out ∧
      Flows.changePassphrase primitives "pw" out.secretKey
        (primitives.wrappedAukJson.write out.wrappedAukPassphrase) "new" (zeros 16) (zeros 24) =
          .ok changed ∧
      [out.wrappedAukPassphrase, changed.wrappedAukPassphrase].IsChain KeepsParams := by
  obtain ⟨out, hout, -⟩ := exists_vault
  obtain ⟨changed, hchanged⟩ := exists_changed hout
  exact ⟨out, changed, hout, hchanged,
    (Account.keepsParams_iff hout (isChain_rewraps hchanged)).mpr (.inl rfl)⟩

/-! ### Reading the parameters back -/

namespace Auk

/-- The key for any parameters, of which the two profiles are two. -/
def kekAt (P : Primitives) (params : UInt32 × UInt32 × UInt32) (passphrase salt : Bytes)
    (secretKey : SecretKey) : Result (ByteArr 32) := do
  let (m, t, p) := params
  let stretched ← Outcome.ofExcept .kdf (P.argon2id m t p passphrase salt)
  .ok (Kdf.hkdfSha256 P stretched.toList secretKey.toList skdInfo)

/-- The two functions do not collide on the calls for one pair of factors and all parameters. -/
structure ParamsCollisionFree (P : Primitives) (passphrase salt : Bytes) (secretKey : SecretKey) :
    Prop where
  argon2id : ∀ {m t p m' t' p' d}, P.argon2id m t p passphrase salt = .ok d →
    P.argon2id m' t' p' passphrase salt = .ok d → (m, t, p) = (m', t', p')
  hkdf : ∀ {m t p m' t' p' d d'}, P.argon2id m t p passphrase salt = .ok d →
    P.argon2id m' t' p' passphrase salt = .ok d' →
    Kdf.hkdfSha256 P d.toList secretKey.toList skdInfo =
      Kdf.hkdfSha256 P d'.toList secretKey.toList skdInfo → d = d'

variable {passphrase salt : Bytes} {secretKey : SecretKey}

lemma kekAt_params (profile : KdfProfile) :
    kekAt P profile.params passphrase salt secretKey =
      derivePassphraseKek P passphrase salt secretKey profile :=
  rfl

/-- Other parameters derive another key. -/
lemma ParamsCollisionFree.eq_of_kekAt (h : ParamsCollisionFree P passphrase salt secretKey)
    {params params' : UInt32 × UInt32 × UInt32} {kek : ByteArr 32}
    (hkek : kekAt P params passphrase salt secretKey = .ok kek)
    (hkek' : kekAt P params' passphrase salt secretKey = .ok kek) : params = params' := by
  simp only [kekAt, Outcome.bind_eq_ok, Outcome.ofExcept_eq_ok, Outcome.ok.injEq] at hkek hkek'
  obtain ⟨d, hd, hk⟩ := hkek
  obtain ⟨d', hd', hk'⟩ := hkek'
  obtain rfl := h.hkdf hd hd' (hk.trans hk'.symm)
  exact h.argon2id hd hd'

end Auk

namespace WrappedAuk

lemma profile_eq_native : w.profile = .native ↔ w.params = KdfProfile.native.params := by
  unfold profile params
  split_ifs with h <;> simp [h]

/-- The profile that is read has the recorded parameters if any has. -/
lemma params_profile_iff :
    w.params = w.profile.params ↔ ∃ profile : KdfProfile, w.params = profile.params := by
  constructor
  · exact fun h => ⟨_, h⟩
  · rintro ⟨profile, h⟩
    rw [Auk.profile_of_params h, h]

/-- Every change of the parameters is seen exactly if they are changed from those of the native
profile, or to those of a profile. -/
lemma profile_ne_iff {profile : KdfProfile} :
    (w.params ≠ profile.params → w.profile ≠ profile) ↔
      profile = .native ∨ ∃ profile' : KdfProfile, w.params = profile'.params := by
  cases profile with
  | native => simpa using fun h => mt profile_eq_native.mp h
  | constrained =>
    constructor
    · intro h
      by_cases hparams : w.params = KdfProfile.constrained.params
      · exact .inr ⟨_, hparams⟩
      · have hnative : w.profile = .native := by
          cases hw : w.profile with
          | native => rfl
          | constrained => exact absurd hw (h hparams)
        exact .inr ⟨_, profile_eq_native.mp hnative⟩
    · rintro (h | ⟨profile', h⟩) hne hw
      · cases h
      · rw [Auk.profile_of_params h] at hw
        exact hne (hw ▸ h)

end WrappedAuk

/-- With the factors of a new wrap, a copy with other parameters is refused exactly if another
profile is read off it. -/
lemma Auk.ParamsCollisionFree.isErr_iff (hC : P.XchachaCorrect) (hX : P.XchachaCommits)
    {passphrase : Bytes} {secretKey : SecretKey} {salt : ByteArr 16}
    (hA : ParamsCollisionFree P passphrase salt.toList secretKey) {auk : Auk}
    {profile : KdfProfile} {nonce : Nonce}
    (hw : wrapWithPassphrase P auk passphrase secretKey profile salt nonce = .ok w)
    (hv : w'.v = w.v) (hs : w'.salt = w.salt) (hb : w'.blob = w.blob) :
    (unwrapWithPassphrase P w' passphrase secretKey).IsErr ↔ w'.profile ≠ profile := by
  obtain ⟨key, hkey, rfl⟩ := wrapWithPassphrase_eq_ok.mp hw
  have hkey : kekAt P profile.params passphrase salt.toList secretKey = .ok key := hkey
  rw [isErr_unwrapWithPassphrase_iff hC hX hv hs hb, ← kekAt_params, not_iff_not]
  constructor
  · exact fun h => KdfProfile.params_injective (hA.eq_of_kekAt h hkey)
  · intro h
    rw [h, hkey]

/-- What an unlock with two factors makes of the recorded parameters. -/
structure HonoursParams (P : Primitives) (passphrase salt : Bytes) (secretKey : SecretKey) :
    Prop where
  /-- A wrap that opens is opened with the key for the recorded parameters, exactly if a profile
  has them. -/
  opened_iff : ∀ w auk, unb64 P w.salt = .ok salt →
    Auk.unwrapWithPassphrase P w passphrase secretKey = .ok auk →
    ∃ kek, Auk.derivePassphraseKek P passphrase salt secretKey w.profile = .ok kek ∧
      Auk.unwrapWithKek P w kek = .ok auk ∧
      (Auk.kekAt P w.params passphrase salt secretKey = .ok kek ↔
        ∃ profile : KdfProfile, w.params = profile.params)
  /-- A new wrap is refused with any parameters but its own, exactly if it was made under the
  native profile or the new parameters are those of a profile. -/
  changed_iff : ∀ auk profile (saltArr : ByteArr 16) nonce w m t p, saltArr.toList = salt →
    Auk.wrapWithPassphrase P auk passphrase secretKey profile saltArr nonce = .ok w →
    (((m, t, p) ≠ profile.params →
        (Auk.unwrapWithPassphrase P (w.withParams m t p) passphrase secretKey).IsErr) ↔
      profile = .native ∨ ∃ profile' : KdfProfile, (m, t, p) = profile'.params)

theorem honoursParams (hC : P.XchachaCorrect) (hX : P.XchachaCommits) {passphrase salt : Bytes}
    {secretKey : SecretKey} (hA : Auk.ParamsCollisionFree P passphrase salt secretKey) :
    HonoursParams P passphrase salt secretKey where
  opened_iff w auk hsalt hok := by
    obtain ⟨salt', kek, hsalt', hkek, hopen⟩ := Auk.unwrapWithPassphrase_eq_ok.mp hok
    rw [hsalt, Outcome.ok.injEq] at hsalt'
    subst hsalt'
    have hkek : Auk.derivePassphraseKek P passphrase salt secretKey w.profile = .ok kek := hkek
    refine ⟨kek, hkek, hopen, ?_⟩
    rw [← WrappedAuk.params_profile_iff]
    rw [← Auk.kekAt_params] at hkek
    constructor
    · exact fun h => hA.eq_of_kekAt h hkek
    · intro h
      rw [h, hkek]
  changed_iff auk profile saltArr nonce w m t p hsalt hw := by
    subst hsalt
    have hrefused : (Auk.unwrapWithPassphrase P (w.withParams m t p) passphrase secretKey).IsErr ↔
        (w.withParams m t p).profile ≠ profile := hA.isErr_iff hC hX hw rfl rfl rfl
    rw [hrefused]
    show ((w.withParams m t p).params ≠ profile.params → _) ↔
      profile = .native ∨ ∃ profile' : KdfProfile, (w.withParams m t p).params = profile'.params
    exact WrappedAuk.profile_ne_iff

namespace Reference

/-- The stand-in primitives, with an Argon2id that also depends on its parameters. -/
noncomputable def costed : Primitives :=
  { primitives with
    argon2id := fun m t p password salt =>
      if salt.length < 8 then .error "salt is too short"
      else .ok (fit 32 (Bytes.toLeBytes m ++ Bytes.toLeBytes t ++ Bytes.toLeBytes p ++
        (password ++ salt))) }

lemma append_inj_of_fit {n : ℕ} {a a' b b' : Bytes} (ha : a.length ≤ n)
    (hlen : a.length = a'.length) (h : fit n (a ++ b) = fit n (a' ++ b')) : a = a' := by
  have htake : ∀ {x : Bytes} (y : Bytes), x.length = a.length →
      (fit n (x ++ y)).toList.take a.length = x := by
    intro x y hx
    rw [fit, List.take_take, min_eq_left ha, List.append_assoc, List.take_left' hx]
  rw [← htake b rfl, h, htake b' hlen.symm]

lemma paramsCollisionFree (passphrase salt : Bytes) (secretKey : SecretKey) :
    Auk.ParamsCollisionFree costed passphrase salt secretKey where
  argon2id := by
    intro m t p m' t' p' d hd hd'
    simp only [costed] at hd hd'
    split_ifs at hd hd'
    have heq := (Except.ok.inj hd).trans (Except.ok.inj hd').symm
    have happ := append_inj_of_fit (by simp) (by simp) heq
    obtain ⟨hmt, hp⟩ := List.append_inj happ (by simp)
    obtain ⟨hm, ht⟩ := List.append_inj hmt (by simp)
    rw [Bytes.toLeBytes_injective hm, Bytes.toLeBytes_injective ht, Bytes.toLeBytes_injective hp]
  hkdf := by
    intro m t p m' t' p' d d' _ _ h
    have hkdf : ∀ ikm : ByteArr 32,
        Kdf.hkdfSha256 costed ikm.toList secretKey.toList Auk.skdInfo = ikm :=
      fun ikm => fit_append ikm _
    rw [← hkdf d, h, hkdf d']

/-- A wrap with any parameters of no profile opens: here one of the cheaper profile, with the least
parameters of all. -/
theorem unwrapWithPassphrase_withParams : ∃ w,
    Auk.wrapWithPassphrase costed (zeros 32) [112, 119] (zeros 16) .constrained (zeros 16)
        (zeros 24) = .ok w ∧
      Auk.unwrapWithPassphrase costed (w.withParams 1 1 1) [112, 119] (zeros 16) =
        .ok (zeros 32) ∧
      ¬∀ m t p, (m, t, p) ≠ KdfProfile.constrained.params →
        (Auk.unwrapWithPassphrase costed (w.withParams m t p) [112, 119] (zeros 16)).IsErr := by
  obtain ⟨key, hkey⟩ : ∃ key, (KekInput.passphrase [112, 119] (zeros 16).toList .constrained
      (zeros 16)).kek costed = .ok key := ⟨_, rfl⟩
  have hw : Auk.wrapWithPassphrase costed (zeros 32) [112, 119] (zeros 16) .constrained (zeros 16)
      (zeros 24) = .ok _ := Auk.wrapWithPassphrase_eq_ok.mpr ⟨key, hkey, rfl⟩
  have hok : Auk.unwrapWithPassphrase costed (WrappedAuk.withParams ⟨1, "passphrase",
      b64 (zeros 16).toList, 47104, 1, 1,
      b64 (Aead.sealBlob costed key (zeros 32).toList (zeros 24))⟩ 1 1 1) [112, 119] (zeros 16) =
        .ok (zeros 32) := by
    refine Auk.unwrapWithPassphrase_eq_ok.mpr ⟨_, key, unb64_b64 _, hkey, ?_⟩
    exact Auk.unwrapWithKek_eq_ok.mpr ⟨rfl, _, rfl,
      Aead.openBlob_sealBlob (P := costed) xchachaCorrect key _ _⟩
  exact ⟨_, hw, hok, fun h => (h 1 1 1 (by decide)).ne_ok _ hok⟩

/-- A wrap of the native profile is refused with the least parameters. -/
theorem isErr_unwrapWithPassphrase_native : ∃ w,
    Auk.wrapWithPassphrase costed (zeros 32) [112, 119] (zeros 16) .native (zeros 16) (zeros 24) =
        .ok w ∧
      (Auk.unwrapWithPassphrase costed (w.withParams 1 1 1) [112, 119] (zeros 16)).IsErr := by
  obtain ⟨w, hw⟩ : ∃ w, Auk.wrapWithPassphrase costed (zeros 32) [112, 119] (zeros 16) .native
      (zeros 16) (zeros 24) = .ok w := ⟨_, rfl⟩
  have hhonours := honoursParams (P := costed) xchachaCorrect xchachaCommits
    (paramsCollisionFree [112, 119] (zeros 16).toList (zeros 16))
  exact ⟨w, hw, (hhonours.changed_iff _ _ _ _ _ 1 1 1 rfl hw).mpr (.inl rfl) (by decide)⟩

end Reference

end PockCore
