import PockCore.Crypto.Reference
import PockCore.Share.Basic

/-!
# Shares are read back

A share is read back as the bundle it was made of, by anyone who has its two parts, with the
key blob in whatever white space it was pasted with.
-/

namespace PockCore

namespace Share

variable {P : Primitives}

/-! ### Payloads -/

lemma openPayload_xchacha (key : AeadKey) (payload : Bytes) :
    openPayload P .xchacha key.toList payload = Aead.openBlob P key payload := by
  simp [openPayload]

/-- The parts of an X-Wing payload are found where they were put. -/
lemma openPayload_xwing_parts {kemCt : Bytes} (hlt : kemCt.length < 65536)
    (keyBytes blob : Bytes) :
    openPayload P .xwing keyBytes (u16Be kemCt.length ++ kemCt ++ blob) =
      KemSecret.fromBytes keyBytes >>= fun sk =>
        Envelope.openWith P sk { v := 1, kemCt := b64 kemCt, aead := b64 blob } := by
  have hpre : (u16Be kemCt.length).length = 2 := rfl
  have hend : (u16Be kemCt.length ++ kemCt).length = 2 + kemCt.length := by
    rw [List.length_append, hpre]
  have hread : readU16Be (u16Be kemCt.length ++ kemCt ++ blob) 0 = .ok kemCt.length := by
    rw [List.append_assoc, readU16Be_u16Be hlt]
  have hct : (Bytes.slice (u16Be kemCt.length ++ kemCt ++ blob) 2 (2 + kemCt.length) :
      Result Bytes) = .ok kemCt := by
    rw [List.append_assoc, Bytes.slice_append hpre (by rw [hpre])]
  have hblob : (Bytes.sliceFrom (u16Be kemCt.length ++ kemCt ++ blob) (2 + kemCt.length) :
      Result Bytes) = .ok blob := Bytes.sliceFrom_append hend
  have hfits : ¬2 + kemCt.length > (u16Be kemCt.length ++ kemCt ++ blob).length := by
    rw [List.length_append, hend]
    omega
  simp only [openPayload, hread, Outcome.ok_bind, if_neg hfits, hct, hblob]

/-- The envelope that is built from them is the one that was sealed. -/
lemma openPayload_xwing (sk : KemSecret) (ct : KemCiphertext) (aeadBlob : Bytes) :
    openPayload P .xwing sk.toBytes (u16Be ct.asBytes.length ++ ct.asBytes ++ aeadBlob) =
      Envelope.openWith P sk { v := 1, kemCt := b64 ct.asBytes, aead := b64 aeadBlob } := by
  have hlen : ct.asBytes.length = 1120 := ct.length_toList
  have hsk : KemSecret.fromBytes sk.toBytes = .ok sk := by
    simp [KemSecret.fromBytes, KemSecret.toBytes]
  rw [openPayload_xwing_parts (by omega), hsk, Outcome.ok_bind]

@[simp] lemma unb64_b64 (b : Bytes) : unb64 P (b64 b) = .ok b := by
  rw [unb64, Text.trim_of_noWhitespace (noWhitespace_b64 b), Outcome.ofExcept_eq_ok,
    P.urlSafeNoPad.decode_eq_ok, b64]

/-- The envelope is taken apart to the bytes it was made of. -/
lemma encryptShare_xwing (bundle : Bundle) (draws : ShareDraws) :
    let (ct, shared) := (KemSecret.encapsulationKey P draws.kemSeed).encapsulate draws.coins
    let aeadBlob := Aead.sealBlob P (Envelope.key P shared ct) (P.bundleBytes.write bundle)
      draws.nonce
    encryptShare P bundle .xwing draws =
      .ok (frame .xwing (u16Be ct.asBytes.length ++ ct.asBytes ++ aeadBlob),
        keyBlob .xwing (KemSecret.toBytes draws.kemSeed)) := by
  simp [encryptShare, kemGenerate, Envelope.sealTo, KemSecret.encapsulationKey]

/-- Encryption frames a payload from which the key of the key blob recovers the bundle. -/
lemma encryptShare_eq (hC : P.XchachaCorrect) (hK : P.KemCorrect) (bundle : Bundle)
    (c : ShareCipher) (draws : ShareDraws) : ∃ payload key,
    encryptShare P bundle c draws = .ok (frame c payload, keyBlob c key) ∧
      openPayload P c key payload = .ok (P.bundleBytes.write bundle) := by
  cases c with
  | xchacha =>
    refine ⟨_, _, rfl, ?_⟩
    rw [openPayload_xchacha, Aead.openBlob_sealBlob hC]
  | xwing =>
    refine ⟨_, _, encryptShare_xwing bundle draws, ?_⟩
    rw [openPayload_xwing]
    exact Envelope.openWith_sealTo hC hK draws.kemSeed _ _ _

/-! ### Shares -/

/-- A frame and a key blob of one cipher are taken apart to a payload and a key. -/
lemma decryptShare_frame {c : ShareCipher} {payload key : Bytes} {w₁ w₂ : String}
    (h₁ : Text.IsBlank w₁) (h₂ : Text.IsBlank w₂) :
    decryptShare P (frame c payload) (w₁ ++ keyBlob c key ++ w₂) =
      openPayload P c key payload >>= fun data =>
        Outcome.ofExcept .decode (P.bundleBytes.read data) := by
  simp only [decryptShare, unframe_frame, parseKeyBlob_keyBlob h₁ h₂, Outcome.ok_bind,
    sliceFrom_frame, ne_eq, not_true_eq_false, if_false]

/-- What a share promises to those it is sent to. -/
structure RoundTrips (P : Primitives) : Prop where
  /-- Every bundle can be shared, with either cipher. -/
  encrypts : ∀ bundle c draws, ∃ share, encryptShare P bundle c draws = .ok share
  /-- The two parts of a share are read back as its bundle. -/
  decrypts : ∀ bundle c draws envelope key w₁ w₂,
    encryptShare P bundle c draws = .ok (envelope, key) → Text.IsBlank w₁ → Text.IsBlank w₂ →
    decryptShare P envelope (w₁ ++ key ++ w₂) = .ok bundle
  /-- So are the two texts of the flow, as a JSON text of the same bundle. -/
  flow : ∀ json cipherId draws share, Flows.encryptShare P json cipherId draws = .ok share →
    ∃ bundle json', P.bundleJson.read json = .ok bundle ∧
      Flows.decryptShare P share.envelopeB64 share.keyBlob = .ok json' ∧
      P.bundleJson.read json' = .ok bundle

theorem roundTrips (hC : P.XchachaCorrect) (hK : P.KemCorrect) : RoundTrips P := by
  have hdecrypts : ∀ bundle c draws envelope key w₁ w₂,
      encryptShare P bundle c draws = .ok (envelope, key) → Text.IsBlank w₁ → Text.IsBlank w₂ →
      decryptShare P envelope (w₁ ++ key ++ w₂) = .ok bundle := by
    intro bundle c draws envelope key w₁ w₂ h h₁ h₂
    obtain ⟨payload, keyBytes, henc, hopen⟩ := encryptShare_eq hC hK bundle c draws
    cases h.symm.trans henc
    rw [decryptShare_frame h₁ h₂, hopen, Outcome.ok_bind, Outcome.ofExcept_eq_ok,
      P.bundleBytes.read_write]
  refine ⟨fun bundle c draws => ?_, hdecrypts, fun json cipherId draws share h => ?_⟩
  · obtain ⟨payload, keyBytes, henc, -⟩ := encryptShare_eq hC hK bundle c draws
    exact ⟨_, henc⟩
  · unfold Flows.encryptShare at h
    simp only [Outcome.bind_eq_ok, Outcome.ofExcept_eq_ok, Outcome.okOr_eq_ok] at h
    obtain ⟨bundle, hread, c, -, ⟨envelope, key⟩, henc, hok⟩ := h
    cases hok
    have hb : Text.IsBlank "" := by decide
    have hdec := hdecrypts bundle c draws envelope key "" "" henc hb hb
    refine ⟨bundle, P.bundleJson.write bundle, hread, ?_, P.bundleJson.read_write bundle⟩
    have hunb64 : Flows.unb64 P (b64 envelope) = .ok envelope := Flows.unb64_eq_ok.mpr rfl
    rw [String.empty_append, String.append_empty] at hdec
    simp only [Flows.decryptShare, hunb64, hdec, Outcome.ok_bind]

end Share

/-- A share of the stand-in primitives, its key blob pasted with a line break. -/
theorem Reference.decryptShare_pasted :
    let bundle : Bundle := ⟨1, [⟨".env", "KEY=1"⟩], none, some "staging"⟩
    ∃ share, Share.encryptShare primitives bundle .xwing ⟨fit 32 [], fit 32 [], [], fit 24 []⟩ =
        .ok share ∧
      Share.decryptShare primitives share.1 (" " ++ share.2 ++ "\n") = .ok bundle := by
  intro bundle
  have htrips := Share.roundTrips xchachaCorrect kemCorrect
  obtain ⟨share, hshare⟩ :=
    htrips.encrypts bundle .xwing ⟨fit 32 [], fit 32 [], [], fit 24 []⟩
  exact ⟨share, hshare, htrips.decrypts _ _ _ _ _ _ _ hshare (by decide) (by decide)⟩

end PockCore
