import PockCore.Crypto.Reference
import PockCore.Nscrypto.Basic

/-!
# The spellings of a protected value

A stored value is read back from four spellings, with the prefix or without it and with the
padding or without it, and from no other text.
-/

namespace PockCore

namespace Nscrypto

variable {P : Primitives}

/-! ### Standard base64, with padding or without -/

def b64stdNoPad (b : Bytes) : String := Base64.encodeNoPad Base64.standard b

/-- The spellings of a byte string. -/
def b64Spellings (b : Bytes) : List String := [b64std b, b64stdNoPad b]

lemma unb64std_eq_ok {s : String} {b : Bytes} : unb64std P s = .ok b ↔ s ∈ b64Spellings b := by
  rw [b64Spellings, List.mem_cons, List.mem_singleton, unb64std]
  cases h : P.standard.decode s with
  | ok c =>
    rw [P.standard.decode_eq_ok] at h
    subst h
    rw [Outcome.ok.injEq]
    constructor
    · rintro rfl
      exact .inl rfl
    · rintro (h | h)
      · exact P.standard.encode_injective h
      · exact Base64.eq_of_encodePad_eq_encodeNoPad _ h
  | error e =>
    have hne : s ≠ b64std b := by
      rintro rfl
      rw [b64std, P.standard.decode_encode] at h
      cases h
    simp only [Outcome.ofExcept_eq_ok, P.standardNoPad.decode_eq_ok, hne, false_or, b64stdNoPad]

/-- Twelve bytes have one spelling. -/
lemma mem_b64Spellings_iv {s : String} (iv : ByteArr 12) :
    s ∈ b64Spellings iv.toList ↔ s = b64std iv.toList := by
  have hpad : b64stdNoPad iv.toList = b64std iv.toList :=
    (Base64.encodePad_eq_encodeNoPad _ (by rw [iv.length_toList])).symm
  rw [b64Spellings, hpad, List.mem_cons, List.mem_singleton, or_self]

/-- What holds of the alphabet and of the padding holds of every spelling. -/
lemma forall_mem_of_mem_b64Spellings {p : Char → Prop}
    (hp : ∀ i, p (Base64.standard.digit i)) (hpad : p '=') {s : String} {b : Bytes}
    (hs : s ∈ b64Spellings b) : ∀ c ∈ s.toList, p c := by
  rw [b64Spellings, List.mem_cons, List.mem_singleton] at hs
  rcases hs with rfl | rfl
  · exact Base64.forall_mem_encodePad _ hp hpad b
  · intro c hc
    rw [b64stdNoPad, Base64.toList_encodeNoPad] at hc
    obtain ⟨i, rfl⟩ := Base64.mem_encodeNoPadList _ hc
    exact hp i

lemma free_of_mem_b64Spellings {d : Char} (hd : ∀ i, Base64.standard.digit i ≠ d) (hpad : '=' ≠ d)
    {s : String} {b : Bytes} (hs : s ∈ b64Spellings b) : Text.Free d s :=
  fun hmem => forall_mem_of_mem_b64Spellings (p := (· ≠ d)) hd hpad hs d hmem rfl

lemma free_dot_b64std (b : Bytes) : Text.Free '.' (b64std b) :=
  free_of_mem_b64Spellings (by decide) (by decide) (List.mem_cons_self)

/-! ### Blobs -/

/-- A blob without the prefix. -/
def body (iv : ByteArr 12) (ctB64 : String) : String := b64std iv.toList ++ "." ++ ctB64

lemma aesDecrypt_eq_ok {key : ByteArr 32} {blob : String} {pt : Bytes} :
    aesDecrypt P key blob = .ok pt ↔ ∃ iv ct, ∃ ctB64 ∈ b64Spellings ct,
      blob = body iv ctB64 ∧ P.aesGcmDecrypt key iv ct [] = some pt := by
  simp only [aesDecrypt, Outcome.bind_eq_ok, Outcome.okOr_eq_ok, Prod.exists,
    Text.splitOnce_eq_some, unb64std_eq_ok]
  constructor
  · rintro ⟨ivB64, ctB64, ⟨rfl, -⟩, iv, hiv, h⟩
    split_ifs at h with hlen
    simp only [Outcome.bind_eq_ok, unb64std_eq_ok, Outcome.okOr_eq_ok] at h
    obtain ⟨ct, hct, nonce, hnonce, hopen⟩ := h
    rw [not_not] at hlen
    obtain rfl : nonce = ⟨iv, hlen⟩ := by
      simpa [Bytes.fromSlice, Bytes.tryInto, hlen, eq_comm] using hnonce
    rw [mem_b64Spellings_iv ⟨iv, hlen⟩] at hiv
    subst hiv
    exact ⟨⟨iv, hlen⟩, ct, ctB64, hct, rfl, hopen⟩
  · rintro ⟨iv, ct, ctB64, hct, rfl, hopen⟩
    refine ⟨_, ctB64, ⟨rfl, free_dot_b64std _⟩, iv.toList, (mem_b64Spellings_iv iv).mpr rfl, ?_⟩
    rw [if_neg (not_not.mpr iv.length_toList), unb64std_eq_ok.mpr hct]
    simp [hopen]

/-- A blob is opened as its two parts. -/
lemma aesDecrypt_body (key : ByteArr 32) (iv : ByteArr 12) (ct : Bytes) :
    aesDecrypt P key (body iv (b64std ct)) =
      Outcome.okOr (.flow "wrong namespace passphrase") (P.aesGcmDecrypt key iv ct []) := by
  have hsplit : Text.splitOnce '.' (body iv (b64std ct)) =
      some (b64std iv.toList, b64std ct) :=
    Text.splitOnce_eq_some.mpr ⟨rfl, free_dot_b64std _⟩
  have hunb64 : ∀ b, unb64std P (b64std b) = .ok b :=
    fun b => unb64std_eq_ok.mpr List.mem_cons_self
  simp only [aesDecrypt, hsplit, Outcome.okOr_some, Outcome.ok_bind, hunb64, iv.length_toList,
    ne_eq, not_true_eq_false, if_false, Bytes.fromSlice_toList]

/-- A body does not start with the prefix: its first dot stands behind sixteen digits. -/
lemma body_ne_prefix_append (iv : ByteArr 12) (ctB64 t : String) :
    body iv ctB64 ≠ protectedPrefix ++ t := by
  intro h
  have hcut : Text.joinFields '.' (b64std iv.toList) [ctB64] = Text.joinFields '.' "pns1" [t] := h
  have hpns := (Text.joinFields_cons_inj_left (free_dot_b64std _) (by decide) hcut).1
  have hlen := congrArg (fun s => s.toList.length) hpns
  rw [b64std, Base64.encodePad_eq_encodeNoPad _ (by rw [iv.length_toList])] at hlen
  simp only [Base64.toList_encodeNoPad, Base64.encodeNoPadList_length, iv.length_toList] at hlen
  exact absurd hlen (by decide)

lemma not_startsWith_body (iv : ByteArr 12) (ctB64 : String) :
    Text.startsWith protectedPrefix (body iv ctB64) = false := by
  rw [← Bool.not_eq_true, Text.startsWith_iff]
  rintro ⟨t, ht⟩
  exact body_ne_prefix_append iv ctB64 t ht

/-! ### Values -/

/-- The spellings of a stored value: with the prefix or without it, and with the padding or
without it. -/
def spellings (iv : ByteArr 12) (ct : Bytes) : List String :=
  (b64Spellings ct).flatMap fun ctB64 => [protectedPrefix ++ body iv ctB64, body iv ctB64]

lemma mem_spellings {s : String} {iv : ByteArr 12} {ct : Bytes} :
    s ∈ spellings iv ct ↔
      ∃ ctB64 ∈ b64Spellings ct, s = protectedPrefix ++ body iv ctB64 ∨ s = body iv ctB64 := by
  simp [spellings]

/-- The prefix is stripped at most once, and never from a body. -/
lemma stripPrefix_eq_body {s : String} {iv : ByteArr 12} {ctB64 : String} :
    (Text.stripPrefix protectedPrefix s).getD s = body iv ctB64 ↔
      s = protectedPrefix ++ body iv ctB64 ∨ s = body iv ctB64 := by
  constructor
  · intro h
    cases hs : Text.stripPrefix protectedPrefix s with
    | some t =>
      rw [hs, Option.getD_some] at h
      rw [Text.stripPrefix_eq_some, h] at hs
      exact .inl hs
    | none =>
      rw [hs, Option.getD_none] at h
      exact .inr h
  · rintro (rfl | rfl)
    · rw [Text.stripPrefix_append, Option.getD_some]
    · rw [Text.stripPrefix_of_not_startsWith (not_startsWith_body iv ctB64), Option.getD_none]

/-- A value is read from its spellings and from no other text. -/
lemma unprotectValue_eq_ok {nk : ByteArr 32} {s v : String} :
    unprotectValue P nk.toList s = .ok v ↔ ∃ iv ct, s ∈ spellings iv ct ∧
      P.aesGcmDecrypt nk iv ct [] = some (Bytes.ofString v) := by
  have hkey : nkKey nk.toList = .ok nk := by simp [nkKey]
  simp only [unprotectValue, hkey, Outcome.ok_bind, Outcome.bind_eq_ok, aesDecrypt_eq_ok,
    Outcome.okOr_eq_ok, Bytes.toString?_eq_some, stripPrefix_eq_body, mem_spellings]
  constructor
  · rintro ⟨pt, ⟨iv, ct, ctB64, hct, hs, hopen⟩, rfl⟩
    exact ⟨iv, ct, ⟨ctB64, hct, hs⟩, hopen⟩
  · rintro ⟨iv, ct, ⟨ctB64, hct, hs⟩, hopen⟩
    exact ⟨_, ⟨iv, ct, ctB64, hct, hs, hopen⟩, rfl⟩

/-- A new protected value is the first of its spellings. -/
lemma protectValue_eq_ok {nk : ByteArr 32} {v s : String} {iv : ByteArr 12} :
    protectValue P nk.toList v iv = .ok s ↔ ∃ ct,
      P.aesGcmEncrypt nk iv (Bytes.ofString v) [] = some ct ∧
        s = protectedPrefix ++ body iv (b64std ct) := by
  have hkey : nkKey nk.toList = .ok nk := by simp [nkKey]
  simp only [protectValue, hkey, Outcome.ok_bind, aesEncrypt, Outcome.bind_eq_ok,
    Outcome.okOr_eq_ok]
  constructor
  · rintro ⟨blob, ⟨ct, hct, hblob⟩, hs⟩
    cases hblob
    cases hs
    exact ⟨ct, hct, rfl⟩
  · rintro ⟨ct, hct, rfl⟩
    exact ⟨_, ⟨ct, hct, rfl⟩, rfl⟩

/-- Every spelling consists of the prefix, the standard alphabet, the padding and the dot. -/
lemma free_of_mem_spellings {d : Char} (hd : ∀ i, Base64.standard.digit i ≠ d) (hpad : '=' ≠ d)
    (hdot : Text.Free d ".") (hpre : Text.Free d protectedPrefix) {s : String} {iv : ByteArr 12}
    {ct : Bytes} (hs : s ∈ spellings iv ct) : Text.Free d s := by
  obtain ⟨ctB64, hct, hs⟩ := mem_spellings.mp hs
  have hbody : Text.Free d (body iv ctB64) := by
    have hiv := free_of_mem_b64Spellings hd hpad ((mem_b64Spellings_iv iv).mpr rfl)
    have hct := free_of_mem_b64Spellings hd hpad hct
    exact Text.free_append.mpr ⟨Text.free_append.mpr ⟨hiv, hdot⟩, hct⟩
  rcases hs with rfl | rfl
  · exact Text.free_append.mpr ⟨hpre, hbody⟩
  · exact hbody

lemma prefix_append_prefix_notMem_spellings (s : String) (iv : ByteArr 12) (ct : Bytes) :
    protectedPrefix ++ (protectedPrefix ++ s) ∉ spellings iv ct := by
  intro h
  obtain ⟨ctB64, -, h | h⟩ := mem_spellings.mp h
  · exact body_ne_prefix_append iv ctB64 s ((String.append_right_inj _).mp h).symm
  · exact body_ne_prefix_append iv ctB64 _ h.symm

lemma unb64std_ne_panic {s : String} : unb64std P s ≠ .panic := by
  unfold unb64std
  split
  · exact Outcome.ok_ne_panic
  · exact Outcome.ofExcept_ne_panic

lemma aesDecrypt_ne_panic {key : ByteArr 32} {blob : String} :
    aesDecrypt P key blob ≠ .panic := by
  apply Outcome.bind_ne_panic Outcome.okOr_ne_panic
  intro parts _
  apply Outcome.bind_ne_panic unb64std_ne_panic
  intro iv _
  split_ifs with hlen
  · exact Outcome.err_ne_panic
  · apply Outcome.bind_ne_panic unb64std_ne_panic
    intro ct _
    rw [not_not] at hlen
    have hnonce : (Bytes.fromSlice 12 iv : Result (ByteArr 12)) = .ok ⟨iv, hlen⟩ :=
      Bytes.fromSlice_toList ⟨iv, hlen⟩
    rw [hnonce]
    exact Outcome.okOr_ne_panic

lemma unprotectValue_ne_panic {nk : Bytes} {s : String} : unprotectValue P nk s ≠ .panic := by
  apply Outcome.bind_ne_panic Outcome.okOr_ne_panic
  intro key _
  exact Outcome.bind_ne_panic aesDecrypt_ne_panic fun _ _ => Outcome.okOr_ne_panic

/-- How a stored value can be spelled. -/
structure Exact (P : Primitives) (nk : ByteArr 32) : Prop where
  /-- What is read, from which texts. -/
  reads : ∀ s v, unprotectValue P nk.toList s = .ok v ↔ ∃ iv ct, s ∈ spellings iv ct ∧
    P.aesGcmDecrypt nk iv ct [] = some (Bytes.ofString v)
  /-- A new value has the prefix and the padding, and is read back from its four spellings. -/
  readsBack : ∀ v iv s, protectValue P nk.toList v iv = .ok s → ∃ ct,
    s = protectedPrefix ++ body iv (b64std ct) ∧
      ∀ t ∈ spellings iv ct, unprotectValue P nk.toList t = .ok v
  /-- A new value is told by its prefix from its bare form. -/
  marks : ∀ v iv s, protectValue P nk.toList v iv = .ok s → isProtectedBlob s = true ∧
    ∀ bare, s = protectedPrefix ++ bare → isProtectedBlob bare = false
  /-- A doubled prefix is refused. -/
  doubled : ∀ s, (unprotectValue P nk.toList (protectedPrefix ++ (protectedPrefix ++ s))).IsErr
  /-- The URL-safe alphabet is refused. -/
  urlSafe : ∀ s, '-' ∈ s.toList ∨ '_' ∈ s.toList → (unprotectValue P nk.toList s).IsErr
  /-- Every other spelling is refused. -/
  others : ∀ s, (∀ iv ct, s ∉ spellings iv ct) → (unprotectValue P nk.toList s).IsErr

theorem exact_of_correct (hA : P.AesGcmCorrect) (nk : ByteArr 32) : Exact P nk := by
  have hothers : ∀ s, (∀ iv ct, s ∉ spellings iv ct) → (unprotectValue P nk.toList s).IsErr := by
    intro s hs
    apply Outcome.isErr_of_ne unprotectValue_ne_panic
    intro v hv
    obtain ⟨iv, ct, hmem, -⟩ := unprotectValue_eq_ok.mp hv
    exact hs iv ct hmem
  refine ⟨fun s v => unprotectValue_eq_ok, ?_, ?_, ?_, ?_, hothers⟩
  · intro v iv s h
    obtain ⟨ct, hct, rfl⟩ := protectValue_eq_ok.mp h
    exact ⟨ct, rfl, fun t ht => unprotectValue_eq_ok.mpr ⟨iv, ct, ht, hA _ _ _ _ _ hct⟩⟩
  · intro v iv s h
    obtain ⟨ct, -, rfl⟩ := protectValue_eq_ok.mp h
    refine ⟨Text.startsWith_iff.mpr ⟨_, rfl⟩, fun bare hbare => ?_⟩
    rw [← (String.append_right_inj _).mp hbare]
    exact not_startsWith_body iv _
  · exact fun s => hothers _ (prefix_append_prefix_notMem_spellings s)
  · rintro s (h | h)
    · exact hothers _ fun iv ct hs =>
        free_of_mem_spellings (by decide) (by decide) (by decide) (by decide) hs h
    · exact hothers _ fun iv ct hs =>
        free_of_mem_spellings (by decide) (by decide) (by decide) (by decide) hs h

end Nscrypto

/-- A value of the stand-in primitives, read back from its bare spelling without padding. -/
theorem Reference.unprotectValue_bare : ∃ ct,
    Nscrypto.protectValue primitives (fit 32 []).toList "s3cret" (fit 12 []) =
        .ok (Nscrypto.protectedPrefix ++ Nscrypto.body (fit 12 []) (Nscrypto.b64std ct)) ∧
      Nscrypto.unprotectValue primitives (fit 32 []).toList
        (Nscrypto.body (fit 12 []) (Nscrypto.b64stdNoPad ct)) = .ok "s3cret" := by
  have hprotect : ∃ s, Nscrypto.protectValue primitives (fit 32 []).toList "s3cret" (fit 12 []) =
      .ok s := ⟨_, Nscrypto.protectValue_eq_ok.mpr ⟨_, rfl, rfl⟩⟩
  obtain ⟨s, hs⟩ := hprotect
  obtain ⟨ct, rfl, hread⟩ :=
    (Nscrypto.exact_of_correct aesGcmCorrect (fit 32 [])).readsBack _ _ _ hs
  refine ⟨ct, hs, hread _ (Nscrypto.mem_spellings.mpr ⟨_, ?_, .inr rfl⟩)⟩
  exact List.mem_cons_of_mem _ (List.mem_singleton_self _)

end PockCore
