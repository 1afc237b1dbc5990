import PockCore.Backup.Exact
import PockCore.Nscrypto.Exact
import PockCore.Share.Basic

/-!
# Decoders do not panic

A decoder takes bytes and texts from anywhere. Every slice, index and conversion to a fixed size in
it is behind a check of the lengths involved, sometimes one in another function, so it returns a
value or an error on every input.
-/

namespace PockCore

variable {P : Primitives}

/-! ### Keys and envelopes -/

lemma KemCiphertext.fromBytes_ne_panic {b : Bytes} : KemCiphertext.fromBytes b ≠ .panic := by
  unfold KemCiphertext.fromBytes
  by_cases h : b.length = ciphertextSize
  · have hslice : (Bytes.fromSlice 1120 b : Result KemCiphertext) = .ok ⟨b, h⟩ :=
      Bytes.fromSlice_toList ⟨b, h⟩
    rw [if_neg (not_not.mpr h), hslice]
    exact Outcome.ok_ne_panic
  · rw [if_pos h]
    exact Outcome.err_ne_panic

lemma PublicIdentity.fromBlob_ne_panic {blob : PublicIdentityBlob} :
    PublicIdentity.fromBlob P blob ≠ .panic := by
  unfold PublicIdentity.fromBlob
  split_ifs
  · exact Outcome.err_ne_panic
  · apply Outcome.bind_ne_panic unb64_ne_panic
    intro signBytes _
    apply Outcome.bind_ne_panic Outcome.okOr_ne_panic
    intro sign _
    apply Outcome.bind_ne_panic unb64_ne_panic
    intro kemBytes _
    apply Outcome.bind_ne_panic Outcome.okOr_ne_panic
    intro kem _
    exact Outcome.ok_ne_panic

lemma Envelope.openWith_ne_panic {secret : KemSecret} {env : Envelope} :
    openWith P secret env ≠ .panic := by
  unfold openWith
  split_ifs
  · exact Outcome.err_ne_panic
  · apply Outcome.bind_ne_panic unb64_ne_panic
    intro ctBytes _
    apply Outcome.bind_ne_panic KemCiphertext.fromBytes_ne_panic
    intro kemCt _
    exact Outcome.bind_ne_panic unb64_ne_panic fun _ _ => Aead.openAad_ne_panic

/-! ### Shares -/

namespace Share

lemma fromTag_ne_panic {t : UInt8} : ShareCipher.fromTag t ≠ .panic := by
  unfold ShareCipher.fromTag
  split_ifs <;> simp

/-- The checks of a frame come before the bytes that they protect. -/
lemma unframe_ne_panic {envelope : Bytes} : unframe envelope ≠ .panic := by
  by_cases hlen : envelope.length < 6
  · rw [unframe, if_pos hlen]
    exact Outcome.err_ne_panic
  · obtain ⟨head, rest, rfl, hrest⟩ := Bytes.exists_eq_append (n := 4) (b := envelope) (by omega)
    cases rest with
    | nil =>
      rw [List.length_nil] at hrest
      omega
    | cons v rest =>
      cases rest with
      | nil =>
        rw [List.length_singleton] at hrest
        omega
      | cons t payload =>
        rw [unframe_append head.length_toList]
        split_ifs
        · exact Outcome.err_ne_panic
        · exact Outcome.err_ne_panic
        · exact Outcome.bind_ne_panic fromTag_ne_panic fun _ _ => Outcome.ok_ne_panic

lemma readU16Be_ne_panic {b : Bytes} {off : ℕ} : readU16Be b off ≠ .panic := by
  unfold readU16Be
  by_cases h : off + 2 > b.length
  · rw [if_pos h]
    exact Outcome.err_ne_panic
  · have hindex : ∀ i < b.length, ∃ x, (Bytes.index b i : Result UInt8) = .ok x :=
      fun i hi => ⟨b[i], by simp [Bytes.index, hi]⟩
    obtain ⟨hi, hhi⟩ := hindex off (by omega)
    obtain ⟨lo, hlo⟩ := hindex (off + 1) (by omega)
    rw [if_neg h, hhi, Outcome.ok_bind, hlo]
    exact Outcome.ok_ne_panic

/-- The length that is read has 16 bits. -/
lemma lt_of_readU16Be_eq_ok {b : Bytes} {off n : ℕ} (h : readU16Be b off = .ok n) :
    n < 2 ^ 16 := by
  unfold readU16Be at h
  split_ifs at h
  simp only [Outcome.bind_eq_ok, Outcome.ok.injEq] at h
  obtain ⟨hi, -, lo, -, rfl⟩ := h
  refine Nat.or_lt_two_pow ?_ (lo.toNat_lt.trans (by decide))
  rw [Nat.shiftLeft_eq]
  have := hi.toNat_lt
  omega

lemma parseKeyBlob_ne_panic {raw : String} : parseKeyBlob P raw ≠ .panic := by
  unfold parseKeyBlob
  split
  · split_ifs
    · exact Outcome.err_ne_panic
    · apply Outcome.bind_ne_panic Outcome.okOr_ne_panic
      intro cipher _
      exact Outcome.bind_ne_panic Outcome.ofExcept_ne_panic fun _ _ => Outcome.ok_ne_panic
  · exact Outcome.err_ne_panic

/-- The length prefix is compared with the payload before anything is cut out of it. -/
lemma openPayload_ne_panic {cipher : ShareCipher} {key payload : Bytes} :
    openPayload P cipher key payload ≠ .panic := by
  cases cipher with
  | xchacha =>
    exact Outcome.bind_ne_panic Outcome.okOr_ne_panic fun _ _ => Aead.openAad_ne_panic
  | xwing =>
    apply Outcome.bind_ne_panic readU16Be_ne_panic
    intro kemLen _
    by_cases h : 2 + kemLen > payload.length
    · rw [if_pos h]
      exact Outcome.err_ne_panic
    · rw [if_neg h, Bytes.slice_of_le (by omega) (by omega), Outcome.ok_bind,
        Bytes.sliceFrom_of_le (by omega), Outcome.ok_bind]
      exact Outcome.bind_ne_panic Outcome.okOr_ne_panic fun _ _ => Envelope.openWith_ne_panic

lemma decryptShare_ne_panic {envelope : Bytes} {keyBlobStr : String} :
    decryptShare P envelope keyBlobStr ≠ .panic := by
  apply Outcome.bind_ne_panic unframe_ne_panic
  rintro ⟨cipher, off⟩ hframe
  obtain ⟨rfl, payload, rfl⟩ := unframe_eq_ok.mp hframe
  apply Outcome.bind_ne_panic parseKeyBlob_ne_panic
  rintro ⟨blobCipher, key⟩ _
  dsimp only
  split_ifs
  · exact Outcome.err_ne_panic
  · rw [sliceFrom_frame, Outcome.ok_bind]
    exact Outcome.bind_ne_panic openPayload_ne_panic fun _ _ => Outcome.ofExcept_ne_panic

end Share

/-! ### Backups and namespace keys -/

namespace Backup

lemma readProfile_ne_panic {params : UInt32 × UInt32 × UInt32} : readProfile params ≠ .panic := by
  unfold readProfile
  split_ifs <;> simp

lemma deriveKek_ne_panic {passphrase salt : Bytes} {profile : KdfProfile} :
    deriveKek P passphrase salt profile ≠ .panic :=
  Outcome.bind_ne_panic Outcome.ofExcept_ne_panic fun _ _ => Outcome.ok_ne_panic

lemma importBackup_ne_panic {data passphrase : Bytes} :
    importBackup P data passphrase ≠ .panic := by
  by_cases hlen : data.length < headerLen + 24 + 16
  · rw [importBackup, if_pos hlen]
    exact Outcome.err_ne_panic
  · obtain ⟨head, salt, m, t, p, blob, rfl, hblob⟩ := exists_header_fields (not_lt.mp hlen)
    rw [importBackup_append head salt rfl hblob]
    split_ifs
    · exact Outcome.err_ne_panic
    · apply Outcome.bind_ne_panic readProfile_ne_panic
      intro profile _
      apply Outcome.bind_ne_panic deriveKek_ne_panic
      intro kek _
      exact Outcome.mapErr_ne_panic.mpr Aead.openAad_ne_panic

end Backup

lemma Nscrypto.unwrapNk_ne_panic {wrapped passphrase saltB64 : String} :
    unwrapNk P wrapped passphrase saltB64 ≠ .panic := by
  refine Outcome.bind_ne_panic ?_ fun _ _ => aesDecrypt_ne_panic
  apply Outcome.bind_ne_panic unb64std_ne_panic
  intro salt _
  exact Outcome.ok_ne_panic

/-! ### All decoders -/

/-- No input makes a decoder panic, whatever the keys. -/
structure DecodersTotal (P : Primitives) : Prop where
  decryptShare : ∀ envelope keyBlob, Share.decryptShare P envelope keyBlob ≠ .panic
  /-- The length that a payload starts with has 16 bits, so adding to it does not overflow. -/
  kemLen : ∀ payload n, Share.readU16Be payload 0 = .ok n → n < 2 ^ 16
  parseKeyBlob : ∀ raw, Share.parseKeyBlob P raw ≠ .panic
  importBackup : ∀ data passphrase, Backup.importBackup P data passphrase ≠ .panic
  openAad : ∀ key blob aad, Aead.openAad P key blob aad ≠ .panic
  unprotectValue : ∀ nk blob, Nscrypto.unprotectValue P nk blob ≠ .panic
  unwrapNk : ∀ wrapped passphrase saltB64,
    Nscrypto.unwrapNk P wrapped passphrase saltB64 ≠ .panic
  fromSecretBytes : ∀ b, Identity.fromSecretBytes b ≠ .panic
  fromBlob : ∀ blob, PublicIdentity.fromBlob P blob ≠ .panic

theorem decodersTotal (P : Primitives) : DecodersTotal P where
  decryptShare _ _ := Share.decryptShare_ne_panic
  kemLen _ _ := Share.lt_of_readU16Be_eq_ok
  parseKeyBlob _ := Share.parseKeyBlob_ne_panic
  importBackup _ _ := Backup.importBackup_ne_panic
  openAad _ _ _ := Aead.openAad_ne_panic
  unprotectValue _ _ := Nscrypto.unprotectValue_ne_panic
  unwrapNk _ _ _ := Nscrypto.unwrapNk_ne_panic
  fromSecretBytes _ := Identity.fromSecretBytes_ne_panic
  fromBlob _ := PublicIdentity.fromBlob_ne_panic

end PockCore
