import PockCore.Share.RoundTrip

/-!
# The shares that are accepted

The header of a share and the length in front of its KEM ciphertext are not authenticated. They
need not be: a share is accepted only with one value of each of these bytes, so that whoever
changes one of them has the share refused.
-/

namespace PockCore

namespace Share

variable {P : Primitives}

/-! ### The length prefix -/

/-- A length is read from the two bytes that it is written as. -/
lemma readU16Be_eq_ok {b : Bytes} {n : ℕ} :
    readU16Be b 0 = .ok n ↔ n < 65536 ∧ ∃ rest, b = u16Be n ++ rest := by
  constructor
  · intro h
    rcases b with _ | ⟨hi, _ | ⟨lo, rest⟩⟩
    · simp [readU16Be] at h
    · simp [readU16Be] at h
    · have hhi := hi.toNat_lt
      have hlo := lo.toNat_lt
      have hn : hi.toNat * 256 + lo.toNat = n := by
        simp only [readU16Be, Bytes.index, List.length_cons, List.getElem?_cons_zero,
          List.getElem?_cons_succ, Outcome.ok_bind] at h
        rw [if_neg (by omega), Outcome.ok.injEq,
          ← Nat.shiftLeft_add_eq_or_of_lt (by omega), Nat.shiftLeft_eq] at h
        exact h
      refine ⟨by omega, rest, ?_⟩
      have hhigh : (n >>> 8) &&& 0xff = hi.toNat := by
        rw [Nat.shiftRight_eq_div_pow, Nat.and_two_pow_sub_one_eq_mod _ 8]
        omega
      have hlow : n &&& 0xff = lo.toNat := by
        rw [Nat.and_two_pow_sub_one_eq_mod _ 8]
        omega
      rw [u16Be, hhigh, hlow, UInt8.ofNat_toNat, UInt8.ofNat_toNat]
      rfl
  · rintro ⟨hn, rest, rfl⟩
    exact readU16Be_u16Be hn rest

/-! ### Payloads -/

/-- The message that a payload holds under a key: the payload is an AEAD blob, or a KEM
ciphertext behind its length and an AEAD blob under the key of the secret it encapsulates. -/
def PayloadOpens (P : Primitives) (key : ByteArr 32) (payload data : Bytes) : ShareCipher → Prop
  | .xchacha => Aead.openBlob P key payload = .ok data
  | .xwing => ∃ (ct : KemCiphertext) (blob : Bytes),
      payload = [0x04, 0x60] ++ ct.asBytes ++ blob ∧
      Aead.openBlob P (Kdf.hkdfSha256 P (KemSecret.decapsulate P key ct).toList ct.asBytes
        Envelope.info) blob = .ok data

lemma u16Be_ciphertextSize : u16Be KemCiphertext.ciphertextSize = [0x04, 0x60] := by decide

/-- The envelope that is made of the parts of a payload is opened as the parts themselves. -/
lemma openWith_parts {sk : KemSecret} {kemCt blob data : Bytes} :
    Envelope.openWith P sk { v := 1, kemCt := b64 kemCt, aead := b64 blob } = .ok data ↔
      ∃ ct : KemCiphertext, kemCt = ct.asBytes ∧
        Aead.openBlob P (Envelope.key P (sk.decapsulate P ct) ct) blob = .ok data := by
  have hct : PockCore.unb64 P (b64 kemCt) = .ok kemCt := PockCore.unb64_b64 kemCt
  have hblob : PockCore.unb64 P (b64 blob) = .ok blob := PockCore.unb64_b64 blob
  simp only [Envelope.openWith, ne_eq, not_true_eq_false, if_false, hct, hblob, Outcome.ok_bind,
    Outcome.bind_eq_ok, KemCiphertext.fromBytes_eq_ok]

lemma openPayload_xchacha_eq_ok {keyBytes payload data : Bytes} :
    openPayload P .xchacha keyBytes payload = .ok data ↔
      ∃ key : ByteArr 32, keyBytes = key.toList ∧ PayloadOpens P key payload data .xchacha := by
  simp only [openPayload, Outcome.bind_eq_ok, Outcome.okOr_eq_ok, Bytes.tryInto_eq_some,
    PayloadOpens]

/-- No length but that of a KEM ciphertext gets through: a longer or a shorter one is cut out of
the payload, and refused when the envelope is opened. -/
lemma openPayload_xwing_eq_ok {keyBytes payload data : Bytes} :
    openPayload P .xwing keyBytes payload = .ok data ↔
      ∃ key : ByteArr 32, keyBytes = key.toList ∧ PayloadOpens P key payload data .xwing := by
  constructor
  · intro h
    obtain ⟨kemLen, hread, hend⟩ : ∃ kemLen, readU16Be payload 0 = .ok kemLen ∧
        ¬2 + kemLen > payload.length := by
      simp only [openPayload, Outcome.bind_eq_ok] at h
      obtain ⟨kemLen, hread, h⟩ := h
      split_ifs at h with hend
      exact ⟨kemLen, hread, hend⟩
    obtain ⟨hlt, rest, rfl⟩ := readU16Be_eq_ok.mp hread
    have hfits : kemLen ≤ rest.length := by
      have hpre : (u16Be kemLen).length = 2 := rfl
      rw [List.length_append, hpre] at hend
      omega
    obtain ⟨kemCt, blob, rfl, rfl⟩ : ∃ kemCt blob : Bytes,
        kemCt.length = kemLen ∧ rest = kemCt ++ blob :=
      ⟨rest.take kemLen, rest.drop kemLen, List.length_take_of_le hfits,
        (List.take_append_drop kemLen rest).symm⟩
    rw [← List.append_assoc, openPayload_xwing_parts hlt, Outcome.bind_eq_ok] at h
    obtain ⟨sk, hsk, henv⟩ := h
    obtain ⟨ct, rfl, hopen⟩ := openWith_parts.mp henv
    have hkey : keyBytes = sk.toList := by
      simpa [KemSecret.fromBytes, Bytes.tryInto_eq_some] using hsk
    have hlen : ct.asBytes.length = KemCiphertext.ciphertextSize := ct.length_toList
    refine ⟨sk, hkey, ct, blob, ?_, hopen⟩
    rw [hlen, u16Be_ciphertextSize, List.append_assoc]
  · rintro ⟨sk, rfl, ct, blob, rfl, hopen⟩
    have hlen : ct.asBytes.length = KemCiphertext.ciphertextSize := ct.length_toList
    have hxwing := openPayload_xwing (P := P) sk ct blob
    rw [hlen, u16Be_ciphertextSize] at hxwing
    rw [← KemSecret.toBytes, hxwing]
    exact openWith_parts.mpr ⟨ct, rfl, hopen⟩

lemma openPayload_eq_ok {c : ShareCipher} {keyBytes payload data : Bytes} :
    openPayload P c keyBytes payload = .ok data ↔
      ∃ key : ByteArr 32, keyBytes = key.toList ∧ PayloadOpens P key payload data c := by
  cases c with
  | xchacha => exact openPayload_xchacha_eq_ok
  | xwing => exact openPayload_xwing_eq_ok

/-! ### Shares -/

/-- A share is accepted if it is a frame of the cipher that the key blob names, and what it holds
is a bundle. -/
lemma decryptShare_eq_ok {envelope : Bytes} {keyBlobStr : String} {bundle : Bundle} :
    decryptShare P envelope keyBlobStr = .ok bundle ↔
      ∃ (c : ShareCipher) (key : ByteArr 32) (payload data : Bytes),
        parseKeyBlob P keyBlobStr = .ok (c, key.toList) ∧ envelope = frame c payload ∧
        PayloadOpens P key payload data c ∧ P.bundleBytes.read data = .ok bundle := by
  constructor
  · intro h
    simp only [decryptShare, Outcome.bind_eq_ok] at h
    obtain ⟨⟨envCipher, off⟩, hframe, ⟨blobCipher, keyBytes⟩, hblob, h⟩ := h
    obtain ⟨rfl, payload, rfl⟩ := unframe_eq_ok.mp hframe
    split_ifs at h with hc
    simp only [sliceFrom_frame, Outcome.bind_eq_ok, Outcome.ok.injEq, Outcome.ofExcept_eq_ok] at h
    obtain ⟨_, rfl, data, hopen, hread⟩ := h
    obtain ⟨key, rfl, hopens⟩ := openPayload_eq_ok.mp hopen
    rw [ne_eq, not_not] at hc
    subst hc
    exact ⟨envCipher, key, payload, data, hblob, rfl, hopens, hread⟩
  · rintro ⟨c, key, payload, data, hblob, rfl, hopens, hread⟩
    have hopen : openPayload P c key.toList payload = .ok data :=
      openPayload_eq_ok.mpr ⟨key, rfl, hopens⟩
    simp only [decryptShare, unframe_frame, hblob, Outcome.ok_bind, ne_eq, not_true_eq_false,
      if_false, sliceFrom_frame, hopen, hread, Outcome.ofExcept_ok]

/-- The bytes of a share that nothing authenticates, up to the KEM ciphertext or the AEAD blob. -/
def header : ShareCipher → Bytes
  | .xchacha => Bytes.ofString "PKEV" ++ [2, 1]
  | .xwing => Bytes.ofString "PKEV" ++ [2, 2, 0x04, 0x60]

/-- The KEM ciphertext of a share, which one with a symmetric key does not have. -/
def kemCt : ShareCipher → Bytes → Bytes
  | .xchacha, _ => []
  | .xwing, envelope => (envelope.drop 8).take KemCiphertext.ciphertextSize

/-- The AEAD blob of a share. -/
def aeadBlob : ShareCipher → Bytes → Bytes
  | .xchacha, envelope => envelope.drop 6
  | .xwing, envelope => (envelope.drop 8).drop KemCiphertext.ciphertextSize

lemma header_length_xwing : (header .xwing).length = 8 := by decide

lemma header_length_xchacha : (header .xchacha).length = 6 := by decide

/-- What is accepted is its header and its two other parts. -/
lemma eq_header_append {c : ShareCipher} {key : ByteArr 32} {payload data : Bytes}
    (h : PayloadOpens P key payload data c) :
    frame c payload = header c ++ kemCt c (frame c payload) ++ aeadBlob c (frame c payload) := by
  cases c with
  | xchacha =>
    have hframe : frame .xchacha payload = header .xchacha ++ payload := rfl
    rw [kemCt, aeadBlob, hframe, List.append_nil, List.drop_left' header_length_xchacha]
  | xwing =>
    obtain ⟨ct, blob, rfl, -⟩ := h
    have hframe : frame .xwing ([0x04, 0x60] ++ ct.asBytes ++ blob) =
        header .xwing ++ (ct.asBytes ++ blob) := by
      simp only [frame, header, List.append_assoc]
      rfl
    rw [kemCt, aeadBlob, hframe, List.drop_left' header_length_xwing, List.append_assoc,
      List.take_append_drop]

/-- The envelopes that are accepted with a key blob, and how little of them is free. -/
structure AcceptsFramed (P : Primitives) : Prop where
  /-- An envelope is accepted exactly if it is a frame of the cipher of the key blob, with a
  payload that the key opens to a bundle. -/
  accepts : ∀ envelope keyBlobStr bundle,
    decryptShare P envelope keyBlobStr = .ok bundle ↔
      ∃ (c : ShareCipher) (key : ByteArr 32) (payload data : Bytes),
        parseKeyBlob P keyBlobStr = .ok (c, key.toList) ∧
        envelope = Bytes.ofString "PKEV" ++ [2, c.tag] ++ payload ∧
        PayloadOpens P key payload data c ∧ P.bundleBytes.read data = .ok bundle
  /-- Each byte in front has one accepted value. -/
  headed : ∀ envelope keyBlobStr bundle c key,
    decryptShare P envelope keyBlobStr = .ok bundle →
    parseKeyBlob P keyBlobStr = .ok (c, key) → header c <+: envelope
  /-- Nothing but the KEM ciphertext and the AEAD blob tells accepted envelopes apart. -/
  unique : ∀ envelope envelope' keyBlobStr bundle bundle' c key,
    decryptShare P envelope keyBlobStr = .ok bundle →
    decryptShare P envelope' keyBlobStr = .ok bundle' →
    parseKeyBlob P keyBlobStr = .ok (c, key) → kemCt c envelope = kemCt c envelope' →
    aeadBlob c envelope = aeadBlob c envelope' → envelope = envelope'

theorem acceptsFramed (P : Primitives) : AcceptsFramed P := by
  have hparts : ∀ envelope keyBlobStr bundle c key,
      decryptShare P envelope keyBlobStr = .ok bundle →
      parseKeyBlob P keyBlobStr = .ok (c, key) →
      envelope = header c ++ kemCt c envelope ++ aeadBlob c envelope := by
    intro envelope keyBlobStr bundle c key h hblob
    obtain ⟨c', key', payload, data, hblob', rfl, hopens, -⟩ := decryptShare_eq_ok.mp h
    cases hblob.symm.trans hblob'
    exact eq_header_append hopens
  constructor
  case accepts => exact fun _ _ _ => decryptShare_eq_ok
  case headed =>
    intro envelope keyBlobStr bundle c key h hblob
    rw [hparts _ _ _ _ _ h hblob, List.append_assoc]
    exact List.prefix_append _ _
  case unique =>
    intro envelope envelope' keyBlobStr bundle bundle' c key h h' hblob hct haead
    rw [hparts _ _ _ _ _ h hblob, hparts _ _ _ _ _ h' hblob, hct, haead]

end Share

end PockCore
