import PockCore.KeyLog.Certificate

/-!
# The arrangement of the evidence

Replicas assemble the signatures and the custodians of a certificate in orders of their own.
The verdict depends on two sets: the signatures that the signature strings decode to, and the
custodian strings that denote a key. So neither order nor repetition nor junk matters, and
more evidence does no harm.
-/

namespace PockCore

namespace KeyLog

variable (P : Primitives)

/-- The signatures that signature strings decode to. -/
def decodedSigs (sigs : List String) : Set (ByteArr 64) :=
  {sig | ∃ s ∈ sigs, b64Any P s = some sig.toList}

/-- The custodian strings that denote a key. -/
def keySpellings (custodians : List String) : Set String :=
  {pub | pub ∈ custodians ∧ ∃ k, custodianKey P pub = some k}

variable {P} {certBytes : Bytes} {sigs sigs' custodians custodians' : List String}
  {threshold threshold' : UInt32}

/-! ### Evidence as sets -/

lemma keySigned_iff {k : ByteArr 32} :
    KeySigned P certBytes sigs k ↔ ∃ pk, P.verifyingKeyFromBytes k = some pk ∧
      ∃ sig ∈ decodedSigs P sigs, P.ed25519Verify pk certBytes sig = true := by
  constructor
  · rintro ⟨pk, hpk, s, hs, sig, hsig, hverify⟩
    exact ⟨pk, hpk, sig, ⟨s, hs, hsig⟩, hverify⟩
  · rintro ⟨pk, hpk, sig, ⟨s, hs, hsig⟩, hverify⟩
    exact ⟨pk, hpk, s, hs, sig, hsig, hverify⟩

lemma KeySigned.mono {k : ByteArr 32} (h : KeySigned P certBytes sigs k)
    (hsigs : decodedSigs P sigs ⊆ decodedSigs P sigs') : KeySigned P certBytes sigs' k := by
  rw [keySigned_iff] at h ⊢
  obtain ⟨pk, hpk, sig, hsig, hverify⟩ := h
  exact ⟨pk, hpk, sig, hsigs hsig, hverify⟩

/-- More signatures and more keys leave no fewer spellings that have signed. -/
lemma signingSpellings_mono (hsigs : decodedSigs P sigs ⊆ decodedSigs P sigs')
    (hkeys : keySpellings P custodians ⊆ keySpellings P custodians') :
    signingSpellings P certBytes sigs custodians ⊆
      signingSpellings P certBytes sigs' custodians' := by
  intro pub hpub
  obtain ⟨hmem, k, hk, hsigned⟩ := mem_signingSpellings.mp hpub
  have hmem' : pub ∈ custodians' := (hkeys ⟨hmem, k, hk⟩).1
  exact mem_signingSpellings.mpr ⟨hmem', k, hk, hsigned.mono hsigs⟩

/-- More evidence and a lower threshold keep a verdict true. -/
lemma verifyCert_mono (hlen : custodians.length < 2 ^ 32) (hlen' : custodians'.length < 2 ^ 32)
    (hsigs : decodedSigs P sigs ⊆ decodedSigs P sigs')
    (hkeys : keySpellings P custodians ⊆ keySpellings P custodians') (hpos : 1 ≤ threshold')
    (hle : threshold' ≤ threshold) (h : verifyCert P certBytes sigs custodians threshold = true) :
    verifyCert P certBytes sigs' custodians' threshold' = true := by
  rw [verifyCert_eq_true hlen] at h
  rw [verifyCert_eq_true hlen']
  refine ⟨hpos, ?_⟩
  calc threshold'.toNat ≤ threshold.toNat := UInt32.le_iff_toNat_le.mp hle
    _ ≤ (signingSpellings P certBytes sigs custodians).card := h.2
    _ ≤ (signingSpellings P certBytes sigs' custodians').card :=
        Finset.card_le_card (signingSpellings_mono hsigs hkeys)

/-- The verdict is one on the two sets. -/
lemma verifyCert_congr (hlen : custodians.length < 2 ^ 32) (hlen' : custodians'.length < 2 ^ 32)
    (hsigs : decodedSigs P sigs = decodedSigs P sigs')
    (hkeys : keySpellings P custodians = keySpellings P custodians') :
    verifyCert P certBytes sigs custodians threshold =
      verifyCert P certBytes sigs' custodians' threshold := by
  have hspellings : signingSpellings P certBytes sigs custodians =
      signingSpellings P certBytes sigs' custodians' :=
    (signingSpellings_mono hsigs.subset hkeys.subset).antisymm
      (signingSpellings_mono hsigs.symm.subset hkeys.symm.subset)
  rw [Bool.eq_iff_iff, verifyCert_eq_true hlen, verifyCert_eq_true hlen', hspellings]

/-! ### Changes that keep the sets -/

/-- A list has the signatures of its strings, however they are arranged. -/
lemma decodedSigs_mono (h : sigs ⊆ sigs') : decodedSigs P sigs ⊆ decodedSigs P sigs' := by
  rintro sig ⟨s, hs, hsig⟩
  exact ⟨s, h hs, hsig⟩

lemma keySpellings_mono (h : custodians ⊆ custodians') :
    keySpellings P custodians ⊆ keySpellings P custodians' := by
  rintro pub ⟨hpub, hk⟩
  exact ⟨h hpub, hk⟩

/-- Strings that are no signatures add nothing, wherever they are inserted. -/
lemma decodedSigs_insert {u junk v : List String}
    (hjunk : ∀ s ∈ junk, ∀ sig : ByteArr 64, b64Any P s ≠ some sig.toList) :
    decodedSigs P (u ++ junk ++ v) = decodedSigs P (u ++ v) := by
  apply Set.Subset.antisymm
  · rintro sig ⟨s, hs, hsig⟩
    have hnot : s ∉ junk := fun hmem => hjunk s hmem sig hsig
    exact ⟨s, by simpa [hnot] using hs, hsig⟩
  · exact decodedSigs_mono fun s hs => by
      rcases List.mem_append.mp hs with hs | hs <;> simp [hs]

lemma keySpellings_insert {u junk v : List String}
    (hjunk : ∀ pub ∈ junk, ∀ k : ByteArr 32, b64Any P pub ≠ some k.toList) :
    keySpellings P (u ++ junk ++ v) = keySpellings P (u ++ v) := by
  apply Set.Subset.antisymm
  · rintro pub ⟨hpub, k, hk⟩
    have hnot : pub ∉ junk := fun hmem => hjunk pub hmem k (custodianKey_eq_some.mp hk)
    exact ⟨by simpa [hnot] using hpub, k, hk⟩
  · exact keySpellings_mono fun s hs => by
      rcases List.mem_append.mp hs with hs | hs <;> simp [hs]

/-- Only what the strings decode to counts, string by string. -/
lemma decodedSigs_respell
    (h : List.Forall₂ (fun s s' => b64Any P s = b64Any P s') sigs sigs') :
    decodedSigs P sigs = decodedSigs P sigs' := by
  induction h with
  | nil => rfl
  | cons hhead _ ih =>
    ext sig
    have htail := Set.ext_iff.mp ih sig
    simp only [decodedSigs, Set.mem_ofPred_eq] at htail ⊢
    rw [List.exists_mem_cons_iff, List.exists_mem_cons_iff, hhead, htail]

/-! ### The verdict -/

/-- A verdict that depends on the evidence and not on its arrangement. -/
structure IgnoresArrangement (P : Primitives) (certBytes : Bytes) : Prop where
  /-- The order of either list does not matter. -/
  perm : ∀ sigs sigs' custodians custodians' threshold, sigs.Perm sigs' →
    custodians.Perm custodians' → custodians.length < 2 ^ 32 →
    verifyCert P certBytes sigs custodians threshold =
      verifyCert P certBytes sigs' custodians' threshold
  /-- Nor does how often a string is listed. -/
  repeats : ∀ sigs sigs' custodians custodians' threshold, (∀ s, s ∈ sigs ↔ s ∈ sigs') →
    (∀ pub, pub ∈ custodians ↔ pub ∈ custodians') → custodians.length < 2 ^ 32 →
    custodians'.length < 2 ^ 32 →
    verifyCert P certBytes sigs custodians threshold =
      verifyCert P certBytes sigs' custodians' threshold
  /-- Strings that are not base64, or not of the length of a signature, may be inserted. -/
  junkSigs : ∀ u junk v custodians threshold,
    (∀ s ∈ junk, ∀ b, b64Any P s = some b → b.length ≠ 64) → custodians.length < 2 ^ 32 →
    verifyCert P certBytes (u ++ junk ++ v) custodians threshold =
      verifyCert P certBytes (u ++ v) custodians threshold
  /-- Strings that are not base64, or not of the length of a key, may be inserted. -/
  junkCustodians : ∀ sigs u junk v threshold,
    (∀ pub ∈ junk, ∀ b, b64Any P pub = some b → b.length ≠ 32) →
    (u ++ junk ++ v).length < 2 ^ 32 →
    verifyCert P certBytes sigs (u ++ junk ++ v) threshold =
      verifyCert P certBytes sigs (u ++ v) threshold
  /-- A signature string stands for what it decodes to. -/
  respell : ∀ sigs sigs' custodians threshold,
    List.Forall₂ (fun s s' => b64Any P s = b64Any P s') sigs sigs' →
    custodians.length < 2 ^ 32 →
    verifyCert P certBytes sigs custodians threshold =
      verifyCert P certBytes sigs' custodians threshold
  /-- Further evidence and a lower threshold do not make a verdict false. -/
  mono : ∀ sigs sigs' custodians custodians' threshold threshold',
    (custodians ++ custodians').length < 2 ^ 32 → 1 ≤ threshold' → threshold' ≤ threshold →
    verifyCert P certBytes sigs custodians threshold = true →
    verifyCert P certBytes (sigs ++ sigs') (custodians ++ custodians') threshold' = true
  /-- The verdict is false if there are fewer distinct custodian strings than it takes. -/
  few : ∀ sigs custodians threshold, custodians.length < 2 ^ 32 →
    custodians.toFinset.card < threshold.toNat →
    verifyCert P certBytes sigs custodians threshold = false

lemma ne_some_of_length_ne {n : ℕ} {s : String} (h : ∀ b, b64Any P s = some b → b.length ≠ n)
    (a : ByteArr n) : b64Any P s ≠ some a.toList := fun hs => h _ hs a.length_toList

/-- The verdict does not depend on how the evidence is arranged. -/
theorem ignoresArrangement (P : Primitives) (certBytes : Bytes) :
    IgnoresArrangement P certBytes := by
  have hmem : ∀ sigs sigs' custodians custodians' threshold, (∀ s, s ∈ sigs ↔ s ∈ sigs') →
      (∀ pub, pub ∈ custodians ↔ pub ∈ custodians') → custodians.length < 2 ^ 32 →
      custodians'.length < 2 ^ 32 →
      verifyCert P certBytes sigs custodians threshold =
        verifyCert P certBytes sigs' custodians' threshold := by
    intro sigs sigs' custodians custodians' threshold hs hc hlen hlen'
    apply verifyCert_congr hlen hlen'
    · exact (decodedSigs_mono fun s => (hs s).mp).antisymm (decodedSigs_mono fun s => (hs s).mpr)
    · exact (keySpellings_mono fun s => (hc s).mp).antisymm
        (keySpellings_mono fun s => (hc s).mpr)
  constructor
  case perm =>
    intro sigs sigs' custodians custodians' threshold hs hc hlen
    exact hmem _ _ _ _ _ (fun _ => hs.mem_iff) (fun _ => hc.mem_iff) hlen (hc.length_eq ▸ hlen)
  case repeats => exact hmem
  case junkSigs =>
    intro u junk v custodians threshold hjunk hlen
    have hsigs := decodedSigs_insert (u := u) (v := v) fun s hs =>
      ne_some_of_length_ne (hjunk s hs)
    exact verifyCert_congr hlen hlen hsigs rfl
  case junkCustodians =>
    intro sigs u junk v threshold hjunk hlen
    have hlen' : (u ++ v).length < 2 ^ 32 := by
      simp only [List.length_append] at hlen ⊢
      omega
    have hkeys := keySpellings_insert (u := u) (v := v) fun pub hpub =>
      ne_some_of_length_ne (hjunk pub hpub)
    exact verifyCert_congr hlen hlen' rfl hkeys
  case respell =>
    intro sigs sigs' custodians threshold h hlen
    exact verifyCert_congr hlen hlen (decodedSigs_respell h) rfl
  case mono =>
    intro sigs sigs' custodians custodians' threshold threshold' hlen hpos hle h
    have hlen₁ : custodians.length < 2 ^ 32 := by
      rw [List.length_append] at hlen
      omega
    exact verifyCert_mono hlen₁ hlen (decodedSigs_mono (List.subset_append_left _ _))
      (keySpellings_mono (List.subset_append_left _ _)) hpos hle h
  case few =>
    intro sigs custodians threshold hlen hfew
    rw [Bool.eq_false_iff, ne_eq, verifyCert_eq_true hlen]
    intro h
    have hle : (signingSpellings P certBytes sigs custodians).card ≤ custodians.toFinset.card :=
      Finset.card_filter_le _ _
    omega

end KeyLog

end PockCore
