import PockCore.KeyLog.Basic
import PockCore.Crypto.Reference

/-!
# What a certificate verdict counts

The verdict is meant to count custodian keys. The loop skips a custodian string it has seen
before, and one key has several strings: two dialects, each with and without padding. So it
counts the strings that denote a signing key, which are as many as the signing keys and the
spare spellings of them together.
-/

namespace PockCore

namespace KeyLog

variable (P : Primitives)

/-- The key that a custodian string denotes. -/
def custodianKey (pub : String) : Option (ByteArr 32) :=
  (b64Any P pub).bind (Bytes.tryInto 32)

/-- A valid key under which one of the signatures verifies. -/
def KeySigned (certBytes : Bytes) (sigs : List String) (k : ByteArr 32) : Prop :=
  ∃ pk, P.verifyingKeyFromBytes k = some pk ∧ ∃ s ∈ sigs, ∃ sig : ByteArr 64,
    b64Any P s = some sig.toList ∧ P.ed25519Verify pk certBytes sig = true

/-- The verdict is the one on keys: at least `threshold` distinct keys that custodian strings
denote have signed. -/
def CountsKeys (certBytes : Bytes) (sigs custodians : List String) (threshold : UInt32) : Prop :=
  verifyCert P certBytes sigs custodians threshold = true ↔
    1 ≤ threshold ∧ ∃ K : Finset (ByteArr 32), threshold.toNat ≤ K.card ∧
      ∀ k ∈ K, (∃ pub ∈ custodians, b64Any P pub = some k.toList) ∧
        KeySigned P certBytes sigs k

/-- The distinct custodian strings that denote a key which has signed. -/
def signingSpellings (certBytes : Bytes) (sigs custodians : List String) : Finset String :=
  custodians.toFinset.filter fun pub => custodianSigned P certBytes sigs pub = true

/-- The distinct keys that have signed. -/
def signingKeys (certBytes : Bytes) (sigs custodians : List String) : Finset (ByteArr 32) :=
  ((custodians.filter (custodianSigned P certBytes sigs)).filterMap (custodianKey P)).toFinset

/-- The further spellings of keys that have signed. -/
def spareSpellings (certBytes : Bytes) (sigs custodians : List String) : ℕ :=
  Counting.spare (signingSpellings P certBytes sigs custodians) (custodianKey P)

variable {P} {certBytes : Bytes} {sigs custodians : List String} {threshold : UInt32}

/-- A text decodes if, in the standard dialect and without padding, it is an encoding. -/
lemma b64Any_eq_some {s : String} {b : Bytes} :
    b64Any P s = some b ↔
      (s.toList.map toStandard).rdropWhile (· = '=') =
        Base64.encodeNoPadList Base64.standard b := by
  rw [b64Any, ← Base64.toList_encodeNoPad]
  have hopt : ∀ x : Except String Bytes, x.toOption = some b ↔ x = .ok b := by
    rintro (e | c) <;> simp [Except.toOption]
  simp only [hopt, P.standardNoPad.decode_eq_ok, ← String.toList_inj, String.toList_ofList]

lemma custodianKey_eq_some {pub : String} {k : ByteArr 32} :
    custodianKey P pub = some k ↔ b64Any P pub = some k.toList := by
  simp [custodianKey, Option.bind_eq_some_iff, Bytes.tryInto_eq_some]

lemma sigVerifies_eq_true {pk : P.VerifyingKey} {s : String} :
    sigVerifies P certBytes pk s = true ↔
      ∃ sig : ByteArr 64, b64Any P s = some sig.toList ∧
        P.ed25519Verify pk certBytes sig = true := by
  unfold sigVerifies
  cases hs : b64Any P s with
  | none => simp
  | some sigBytes =>
    cases hl : Bytes.tryInto 64 sigBytes with
    | none =>
      have hlen := Bytes.tryInto_eq_none.mp hl
      simp only [hl, Bool.false_eq_true, Option.some.injEq, false_iff, not_exists, not_and]
      rintro sig rfl
      exact absurd sig.length_toList hlen
    | some sigArr =>
      rw [Bytes.tryInto_eq_some] at hl
      simp [hl]

lemma custodianSigned_eq_true {pub : String} :
    custodianSigned P certBytes sigs pub = true ↔
      ∃ k, custodianKey P pub = some k ∧ KeySigned P certBytes sigs k := by
  unfold custodianSigned custodianKey
  cases hp : b64Any P pub with
  | none => simp
  | some pkBytes =>
    cases hl : Bytes.tryInto 32 pkBytes with
    | none => simp [hl]
    | some pkArr =>
      cases hk : P.verifyingKeyFromBytes pkArr with
      | none => simp [hl, hk, KeySigned]
      | some pk => simp [hl, hk, KeySigned, List.any_eq_true, sigVerifies_eq_true]

lemma mem_signingSpellings {pub : String} :
    pub ∈ signingSpellings P certBytes sigs custodians ↔
      pub ∈ custodians ∧ ∃ k, custodianKey P pub = some k ∧ KeySigned P certBytes sigs k := by
  rw [signingSpellings, Finset.mem_filter, List.mem_toFinset, custodianSigned_eq_true]

lemma mem_signingKeys {k : ByteArr 32} :
    k ∈ signingKeys P certBytes sigs custodians ↔
      (∃ pub ∈ custodians, b64Any P pub = some k.toList) ∧ KeySigned P certBytes sigs k := by
  simp only [signingKeys, List.mem_toFinset, List.mem_filterMap, List.mem_filter,
    custodianSigned_eq_true, custodianKey_eq_some]
  constructor
  · rintro ⟨pub, ⟨hpub, k', hk', hsig⟩, hk⟩
    have : k' = k := by rw [← ByteArr.toList_inj, ← Option.some.injEq, ← hk', hk]
    exact ⟨⟨pub, hpub, hk⟩, this ▸ hsig⟩
  · rintro ⟨⟨pub, hpub, hk⟩, hsig⟩
    exact ⟨pub, ⟨hpub, k, hk, hsig⟩, hk⟩

/-! ### The count -/

lemma image_signingSpellings :
    (signingSpellings P certBytes sigs custodians).image (custodianKey P) =
      (signingKeys P certBytes sigs custodians).image some := by
  ext o
  simp only [Finset.mem_image, mem_signingSpellings, mem_signingKeys, ← custodianKey_eq_some]
  constructor
  · rintro ⟨pub, ⟨hpub, k, hk, hsig⟩, rfl⟩
    exact ⟨k, ⟨⟨pub, hpub, hk⟩, hsig⟩, hk.symm⟩
  · rintro ⟨k, ⟨⟨pub, hpub, hk⟩, hsig⟩, rfl⟩
    exact ⟨pub, ⟨hpub, k, hk, hsig⟩, hk⟩

/-- There are as many signing spellings as signing keys and spare spellings together. -/
lemma card_signingSpellings :
    (signingSpellings P certBytes sigs custodians).card =
      (signingKeys P certBytes sigs custodians).card +
        spareSpellings P certBytes sigs custodians := by
  rw [Counting.card_eq_image_add_spare _ (custodianKey P), image_signingSpellings,
    Finset.card_image_of_injective _ (Option.some_injective _), spareSpellings]

lemma iterate_add_one (n : ℕ) : (fun c : UInt32 => c + 1)^[n] 0 = UInt32.ofNat n := by
  induction n with
  | zero => rfl
  | succ n ih => rw [Function.iterate_succ_apply', ih, UInt32.ofNat_add]; rfl

/-- The verdict of the loop. -/
lemma verifyCert_eq_true (hlen : custodians.length < 2 ^ 32) :
    verifyCert P certBytes sigs custodians threshold = true ↔
      1 ≤ threshold ∧
        threshold.toNat ≤ (signingSpellings P certBytes sigs custodians).card := by
  have hcard : (signingSpellings P certBytes sigs custodians).card < 2 ^ 32 := by
    refine lt_of_le_of_lt ?_ hlen
    exact (Finset.card_filter_le _ _).trans custodians.toFinset_card_le
  unfold verifyCert
  split_ifs with hthr
  · simp only [false_iff, not_and]
    intro hle
    exact absurd hthr (UInt32.not_lt.mpr hle)
  · simp only [Counting.foldl_visit_empty, iterate_add_one, decide_eq_true_eq]
    rw [UInt32.le_iff_toNat_le, UInt32.toNat_ofNat', ← signingSpellings,
      Nat.mod_eq_of_lt hcard]
    simp [UInt32.not_lt.mp hthr]

/-- The verdict on keys asks for that many signing keys. -/
lemma exists_card_le_iff {n : ℕ} :
    (∃ K : Finset (ByteArr 32), n ≤ K.card ∧
      ∀ k ∈ K, (∃ pub ∈ custodians, b64Any P pub = some k.toList) ∧
        KeySigned P certBytes sigs k) ↔ n ≤ (signingKeys P certBytes sigs custodians).card := by
  simp only [← mem_signingKeys]
  constructor
  · rintro ⟨K, hn, hK⟩
    exact hn.trans (Finset.card_le_card hK)
  · intro hn
    exact ⟨_, hn, fun _ h => h⟩

lemma countsKeys_iff_of_threshold (hlen : custodians.length < 2 ^ 32) :
    CountsKeys P certBytes sigs custodians threshold ↔
      threshold = 0 ∨ threshold.toNat ≤ (signingKeys P certBytes sigs custodians).card ∨
        (signingKeys P certBytes sigs custodians).card +
          spareSpellings P certBytes sigs custodians < threshold.toNat := by
  rw [CountsKeys, verifyCert_eq_true hlen, exists_card_le_iff, card_signingSpellings,
    UInt32.le_iff_toNat_le, ← UInt32.toNat_inj]
  simp only [UInt32.reduceToNat]
  omega

/-- The verdict counts keys exactly unless the threshold is above the number of keys that have
signed and spare spellings of those keys make up for the missing ones. It counts keys for every
threshold exactly if no key that has signed is spelled in two ways. -/
theorem countsKeys_iff (hlen : custodians.length < 2 ^ 32) (threshold : UInt32) :
    (CountsKeys P certBytes sigs custodians threshold ↔
      threshold = 0 ∨ threshold.toNat ≤ (signingKeys P certBytes sigs custodians).card ∨
        (signingKeys P certBytes sigs custodians).card +
          spareSpellings P certBytes sigs custodians < threshold.toNat) ∧
    ((∀ t, CountsKeys P certBytes sigs custodians t) ↔
      ∀ pub ∈ custodians, ∀ pub' ∈ custodians, ∀ k, KeySigned P certBytes sigs k →
        custodianKey P pub = some k → custodianKey P pub' = some k → pub = pub') := by
  refine ⟨countsKeys_iff_of_threshold hlen, ?_⟩
  have hspare : (∀ t, CountsKeys P certBytes sigs custodians t) ↔
      spareSpellings P certBytes sigs custodians = 0 := by
    simp only [countsKeys_iff_of_threshold hlen]
    constructor
    · intro h
      have hle : (signingSpellings P certBytes sigs custodians).card < 2 ^ 32 :=
        ((Finset.card_filter_le _ _).trans custodians.toFinset_card_le).trans_lt hlen
      have ht := h (UInt32.ofNat (signingSpellings P certBytes sigs custodians).card)
      rw [← UInt32.toNat_inj, UInt32.toNat_ofNat', Nat.mod_eq_of_lt hle,
        card_signingSpellings] at ht
      simp only [UInt32.toNat_zero] at ht
      omega
    · intro h t
      omega
  rw [hspare, spareSpellings, Counting.spare_eq_zero_iff]
  constructor
  · intro hinj pub hpub pub' hpub' k hsig hk hk'
    exact hinj (mem_signingSpellings.mpr ⟨hpub, k, hk, hsig⟩)
      (mem_signingSpellings.mpr ⟨hpub', k, hk', hsig⟩) (hk.trans hk'.symm)
  · intro h pub hpub pub' hpub' heq
    obtain ⟨hmem, k, hk, hsig⟩ := mem_signingSpellings.mp hpub
    exact h pub hmem pub' (mem_signingSpellings.mp hpub').1 k hsig hk (heq ▸ hk)

/-! ### One key in two dialects -/

/-- The certificate, the custodian key in both dialects and the signature that were captured
from the other implementation of the format. -/
def tsCert : String :=
  "pock-keycert-v1\nuser_2abc\nKEMPUB\nSIGNPUB\n" ++
    "_RckOFqgx1tk-3jNYC-h2ZH96_drE8WO1wLqyDXp9hg|1\n3\n1710000000000"

def tsCustodian : String := "_RckOFqgx1tk-3jNYC-h2ZH96_drE8WO1wLqyDXp9hg"

def tsCustodianStd : String := "/RckOFqgx1tk+3jNYC+h2ZH96/drE8WO1wLqyDXp9hg="

def tsSig : String :=
  "6KV+EujQRswHAS0RV4+lKqtaOOcWqAVmLBTElnglBYyTP0bM+dZTYkR66h0jI6Zg54G9ImJIb99YNGFhBMxlBA=="

def tsKey : ByteArr 32 where
  toList := [253, 23, 36, 56, 90, 160, 199, 91, 100, 251, 120, 205, 96, 47, 161, 217, 145, 253,
    235, 247, 107, 19, 197, 142, 215, 2, 234, 200, 53, 233, 246, 24]
  length_toList := rfl

def tsSigBytes : ByteArr 64 where
  toList := [232, 165, 126, 18, 232, 208, 70, 204, 7, 1, 45, 17, 87, 143, 165, 42, 171, 90, 56,
    231, 22, 168, 5, 102, 44, 20, 196, 150, 120, 37, 5, 140, 147, 63, 70, 204, 249, 214, 83, 98,
    68, 122, 234, 29, 35, 35, 166, 96, 231, 129, 189, 34, 98, 72, 111, 223, 88, 52, 97, 97, 4,
    204, 101, 4]
  length_toList := rfl

/-- The stand-in primitives, with the captured signature as the only valid one. -/
noncomputable def tsPrimitives : Primitives :=
  { Reference.primitives with
    ed25519Verify := fun (key : ByteArr 32) msg sig =>
      decide (key = tsKey ∧ msg = Bytes.ofString tsCert ∧ sig = tsSigBytes) }

lemma custodianKey_tsCustodian : custodianKey tsPrimitives tsCustodian = some tsKey := by
  rw [custodianKey_eq_some, b64Any_eq_some]
  decide +kernel

lemma custodianKey_tsCustodianStd : custodianKey tsPrimitives tsCustodianStd = some tsKey := by
  rw [custodianKey_eq_some, b64Any_eq_some]
  decide +kernel

lemma keySigned_tsKey : KeySigned tsPrimitives (Bytes.ofString tsCert) [tsSig] tsKey := by
  refine ⟨tsKey, rfl, tsSig, by simp, tsSigBytes, ?_, by simp [tsPrimitives]⟩
  rw [b64Any_eq_some]
  decide +kernel

/-- The key listed in one spelling, twice, counts once. -/
theorem countsKeys_tsCustodian :
    CountsKeys tsPrimitives (Bytes.ofString tsCert) [tsSig] [tsCustodian, tsCustodian] 2 :=
  (countsKeys_iff (by decide) 2).2.mpr (by simp) 2

/-- One custodian key, listed in both dialects, satisfies a threshold of two. -/
theorem verifyCert_counts_one_key_twice :
    verifyCert tsPrimitives (Bytes.ofString tsCert) [tsSig] [tsCustodian, tsCustodianStd] 2 =
        true ∧
      ¬CountsKeys tsPrimitives (Bytes.ofString tsCert) [tsSig] [tsCustodian, tsCustodianStd] 2 := by
  have hne : tsCustodianStd ≠ tsCustodian := by decide
  have hsigned := custodianSigned_eq_true.mpr ⟨_, custodianKey_tsCustodian, keySigned_tsKey⟩
  have hsignedStd := custodianSigned_eq_true.mpr ⟨_, custodianKey_tsCustodianStd, keySigned_tsKey⟩
  have hverdict : verifyCert tsPrimitives (Bytes.ofString tsCert) [tsSig]
      [tsCustodian, tsCustodianStd] 2 = true := by
    simp [verifyCert, Counting.visit, hne, hsigned, hsignedStd]
  refine ⟨hverdict, fun hcounts => ?_⟩
  obtain ⟨-, K, hcard, hK⟩ := hcounts.mp hverdict
  have hsub : K ⊆ {tsKey} := by
    intro k hk
    obtain ⟨⟨pub, hpub, hpk⟩, -⟩ := hK k hk
    rw [← custodianKey_eq_some] at hpk
    rw [Finset.mem_singleton, ← Option.some.injEq, ← hpk]
    rcases List.mem_pair.mp hpub with rfl | rfl
    · exact custodianKey_tsCustodian
    · exact custodianKey_tsCustodianStd
  have hle := Finset.card_le_card hsub
  rw [Finset.card_singleton] at hle
  exact absurd (hcard.trans hle) (by decide)

end KeyLog

end PockCore
