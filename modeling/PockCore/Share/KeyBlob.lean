import PockCore.Decoders

/-!
# The grammar of key blobs

A key blob is pasted by people, out of chats and mails. The texts that are read as one are the
key blob with white space at three places: around it, and before the key.
-/

namespace PockCore

namespace Share

variable {P : Primitives}

lemma noWhitespace_header (c : ShareCipher) :
    Text.NoWhitespace ("pock-key:v2:" ++ c.id ++ ":") := by
  cases c <;> decide

lemma header_ne_empty (c : ShareCipher) : "pock-key:v2:" ++ c.id ++ ":" ≠ "" := by
  cases c <;> decide

/-- The texts that are read as a key blob, with the white space that is not seen. -/
lemma parseKeyBlob_eq_ok_iff_blanks {raw : String} {c : ShareCipher} {key : Bytes} :
    parseKeyBlob P raw = .ok (c, key) ↔
      ∃ w₁ w w₂, Text.IsBlank w₁ ∧ Text.IsBlank w ∧ Text.IsBlank w₂ ∧
        raw = w₁ ++ ("pock-key:v2:" ++ c.id ++ ":" ++ (w ++ b64 key)) ++ w₂ := by
  rw [parseKeyBlob_eq_ok]
  constructor
  · rintro ⟨t, hraw, ht⟩
    obtain ⟨w₁, w₂, h₁, h₂, hr⟩ := Text.exists_eq_trim_append raw
    obtain ⟨w, w', hw, hw', htt⟩ := Text.exists_eq_trim_append t
    refine ⟨w₁, w, w' ++ w₂, h₁, hw, Text.isBlank_append.mpr ⟨hw', h₂⟩, ?_⟩
    rw [hr, hraw, htt, ht]
    simp only [String.append_assoc]
  · rintro ⟨w₁, w, w₂, h₁, hw, h₂, rfl⟩
    obtain ⟨t, ht, htt⟩ :=
      Text.exists_trim_word_append (noWhitespace_header c) (header_ne_empty c) (w ++ b64 key)
    refine ⟨t, by rw [Text.trim_append_append h₁ h₂, ht], ?_⟩
    have hb : Text.IsBlank "" := by decide
    have htrim := Text.trim_blank_append hw hb (noWhitespace_b64 key)
    rwa [String.append_empty, ← htt] at htrim

/-! ### Colons -/

lemma count_colon_of_isBlank {w : String} (h : Text.IsBlank w) : w.toList.count ':' = 0 := by
  rw [List.count_eq_zero]
  intro hmem
  exact absurd (h _ hmem) (by decide)

lemma count_colon_b64 (key : Bytes) : (b64 key).toList.count ':' = 0 := by
  rw [List.count_eq_zero]
  intro hmem
  exact forall_mem_b64 (p := (· ≠ ':')) (by decide) key _ hmem rfl

/-- A text that is read has the three colons between the four parts, and no other. -/
lemma count_colon_of_parseKeyBlob {raw : String} {r : ShareCipher × Bytes}
    (h : parseKeyBlob P raw = .ok r) : raw.toList.count ':' = 3 := by
  obtain ⟨w₁, w, w₂, h₁, hw, h₂, rfl⟩ := parseKeyBlob_eq_ok_iff_blanks.mp h
  have hheader : ("pock-key:v2:" ++ r.1.id ++ ":").toList.count ':' = 3 := by
    cases r.1 <;> decide
  simp only [String.toList_append, List.count_append] at hheader ⊢
  rw [count_colon_of_isBlank h₁, count_colon_of_isBlank hw, count_colon_of_isBlank h₂,
    count_colon_b64]
  omega

/-- Any other number of colons is refused. -/
lemma isErr_parseKeyBlob_of_count_colon {raw : String} (h : raw.toList.count ':' ≠ 3) :
    (parseKeyBlob P raw).IsErr :=
  Outcome.isErr_of_ne parseKeyBlob_ne_panic fun _ hok => h (count_colon_of_parseKeyBlob hok)

/-! ### The grammar -/

/-- Key blobs are read by their grammar. -/
structure ReadsKeyBlobs (P : Primitives) : Prop where
  /-- A text is read exactly if its four parts are there, the last of them the key. -/
  accepts : ∀ raw c key, parseKeyBlob P raw = .ok (c, key) ↔
    ∃ t, Text.trim raw = "pock-key:v2:" ++ c.id ++ ":" ++ t ∧ Text.trim t = b64 key
  /-- A key blob is read back, with any white space around it. -/
  undoes : ∀ c key w₁ w₂, Text.IsBlank w₁ → Text.IsBlank w₂ →
    parseKeyBlob P (w₁ ++ keyBlob c key ++ w₂) = .ok (c, key)
  /-- With a further colon, wherever it is put, nothing is read. -/
  colon : ∀ u v r, parseKeyBlob P (u ++ v) = .ok r → (parseKeyBlob P (u ++ ":" ++ v)).IsErr
  /-- What is read determines the text but for its white space. -/
  determines : ∀ raw c key, parseKeyBlob P raw = .ok (c, key) →
    Text.visible raw = keyBlob c key

theorem readsKeyBlobs (P : Primitives) : ReadsKeyBlobs P where
  accepts raw c key := parseKeyBlob_eq_ok
  undoes c key w₁ w₂ h₁ h₂ := parseKeyBlob_keyBlob h₁ h₂
  colon u v r h := by
    have hcount := count_colon_of_parseKeyBlob h
    apply isErr_parseKeyBlob_of_count_colon
    simp only [String.toList_append, List.count_append] at hcount ⊢
    have hone : (":" : String).toList.count ':' = 1 := by decide
    omega
  determines raw c key h := by
    obtain ⟨w₁, w, w₂, h₁, hw, h₂, rfl⟩ := parseKeyBlob_eq_ok_iff_blanks.mp h
    rw [Text.visible_append _ w₂, Text.visible_append w₁, Text.visible_append _ (w ++ b64 key),
      Text.visible_append w, Text.visible_of_isBlank h₁, Text.visible_of_isBlank hw,
      Text.visible_of_isBlank h₂, Text.visible_of_noWhitespace (noWhitespace_header c),
      Text.visible_of_noWhitespace (noWhitespace_b64 key), keyBlob]
    simp only [String.empty_append, String.append_empty]

end Share

end PockCore
