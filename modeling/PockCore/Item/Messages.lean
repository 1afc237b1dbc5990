import PockCore.Crypto.Reference
import PockCore.Item.Flows

/-!
# Chat messages

A message is sealed under the key of its channel, with associated data that names the context, and
the sender signs the digest of that data and the ciphertext. What the digest covers is the two in a
row, so it is the set of all associated data that tells where the one ends and the other starts.
-/

namespace PockCore

variable {P : Primitives}

/-! ### Signatures -/

namespace Flows

lemma verifyMessage_eq_true {k : SignPublic} {msg : Bytes} {sig : ByteArr 64} :
    verifyMessage P (b64 k.toList) msg (b64 sig.toList) = .ok true ↔
      ∃ vk, P.verifyingKeyFromBytes k = some vk ∧ P.ed25519Verify vk msg sig = true := by
  simp only [verifyMessage, unb64_of_b64, Outcome.ok_bind, Bytes.tryInto_toList, Outcome.okOr_some,
    SignPublic.verify]
  cases hvk : P.verifyingKeyFromBytes k with
  | none => simp
  | some vk =>
    rw [Outcome.okOr_some, Outcome.ok_bind]
    by_cases hverify : P.ed25519Verify vk msg sig = true
    · simp [hverify]
    · simp [hverify]

/-- What is signed of a message. -/
def digests : Set Bytes := Set.range (ByteArr.toList : ByteArr 32 → Bytes)

/-- A signature of a digest verifies under one key, for that digest. -/
lemma verifyMessage_digest (hE : P.Ed25519Correct) (hB : P.Ed25519Binds digests)
    {seed seed' : SignSecret} {d d' : ByteArr 32} :
    verifyMessage P (b64 (seed'.public P).toList) d'.toList (b64 (seed.sign P d.toList).toList) =
        .ok true ↔ seed'.public P = seed.public P ∧ d' = d := by
  rw [verifyMessage_eq_true]
  constructor
  · rintro ⟨vk, hvk, hverify⟩
    obtain ⟨hkey, hdigest⟩ := hB _ _ _ _ ⟨d, rfl⟩ _ ⟨d', rfl⟩ hvk hverify
    exact ⟨hkey, ByteArr.ext hdigest⟩
  · rintro ⟨hkey, rfl⟩
    obtain ⟨vk, hvk, hverify⟩ := hE seed
    exact ⟨vk, hkey ▸ hvk, hverify _⟩

lemma openSymmetric_of_sealSymmetric (hC : P.XchachaCorrect) {keyB64 : String}
    {plaintext aad ct : Bytes} {nonce : Nonce}
    (h : sealSymmetric P keyB64 plaintext aad nonce = .ok ct) :
    openSymmetric P keyB64 ct aad = .ok plaintext := by
  obtain ⟨key, hkey, hct⟩ := Outcome.bind_eq_ok.mp h
  cases hct
  rw [openSymmetric, hkey, Outcome.ok_bind, Aead.sealAad, Aead.openAad_append, hC,
    Outcome.okOr_some, Outcome.mapErr_ok]

end Flows

/-! ### Messages -/

/-- A message that was posted: who sent what, and what the others see. -/
structure Post where
  sender : Identity
  keyB64 : String
  aad : Bytes
  plaintext : Bytes
  ct : Bytes
  sigB64 : String

namespace Post

/-- The ciphertext was sealed and the digest signed. -/
def Valid (P : Primitives) (p : Post) : Prop :=
  (∃ nonce, Flows.sealSymmetric P p.keyB64 p.plaintext p.aad nonce = .ok p.ct) ∧
    Flows.signMessage P (b64 p.sender.toSecretBytes) (Flows.messageDigest P p.aad p.ct) =
      .ok p.sigB64

/-- A reader takes the signature as the identity's for this data and this ciphertext. -/
def Checks (P : Primitives) (id : Identity) (aad ct : Bytes) (sigB64 : String) : Prop :=
  Flows.verifyMessage P (b64 (id.public P).sign.toList) (Flows.messageDigest P aad ct) sigB64 =
    .ok true

/-- The two byte strings are a collision of SHA-256. -/
def Collides (P : Primitives) (b b' : Bytes) : Prop := b ≠ b' ∧ P.sha256 b = P.sha256 b'

lemma messageDigest_eq_iff {aad aad' ct ct' : Bytes} :
    P.sha256 (aad ++ ct) = P.sha256 (aad' ++ ct') ↔
      aad ++ ct = aad' ++ ct' ∨ Collides P (aad ++ ct) (aad' ++ ct') := by
  constructor
  · intro h
    by_cases heq : aad ++ ct = aad' ++ ct'
    · exact .inl heq
    · exact .inr ⟨heq, h⟩
  · rintro (heq | ⟨-, h⟩)
    · rw [heq]
    · exact h

/-- What the signature of a posted message stands for. -/
structure Bound (P : Primitives) (p : Post) : Prop where
  /-- The sender's message is taken as such, and read. -/
  checks : Checks P p.sender p.aad p.ct p.sigB64
  opens : Flows.openSymmetric P p.keyB64 p.ct p.aad = .ok p.plaintext
  /-- The signature is no other identity's, and covers the data and the ciphertext in a row. -/
  checks_iff : ∀ id aad ct, Checks P id aad ct p.sigB64 ↔
    (id.public P).sign = (p.sender.public P).sign ∧
      (aad ++ ct = p.aad ++ p.ct ∨ Collides P (aad ++ ct) (p.aad ++ p.ct))
  /-- Where the data are told apart from what follows them, it is taken for no other message. -/
  eq_of_checks : ∀ A, Bytes.PrefixFree A → p.aad ∈ A → ∀ id aad ct, aad ∈ A →
    Checks P id aad ct p.sigB64 →
      (aad = p.aad ∧ ct = p.ct) ∨ Collides P (aad ++ ct) (p.aad ++ p.ct)

theorem bound_of_valid (hC : P.XchachaCorrect) (hE : P.Ed25519Correct)
    (hB : P.Ed25519Binds Flows.digests) {p : Post} (h : p.Valid P) : p.Bound P := by
  obtain ⟨⟨nonce, hct⟩, hsig⟩ := h
  rw [Flows.signMessage_eq, Outcome.ok.injEq] at hsig
  have hiff : ∀ id aad ct, Checks P id aad ct p.sigB64 ↔
      (id.public P).sign = (p.sender.public P).sign ∧
        (aad ++ ct = p.aad ++ p.ct ∨ Collides P (aad ++ ct) (p.aad ++ p.ct)) := by
    intro id aad ct
    rw [Checks, ← hsig, ← messageDigest_eq_iff]
    exact Flows.verifyMessage_digest hE hB
  refine ⟨(hiff _ _ _).mpr ⟨rfl, .inl rfl⟩, Flows.openSymmetric_of_sealSymmetric hC hct, hiff, ?_⟩
  intro A hA hp id aad ct haad hcheck
  obtain ⟨-, heq | hcol⟩ := (hiff id aad ct).mp hcheck
  · exact .inl (hA.append_inj haad hp heq)
  · exact .inr hcol

end Post

/-! ### The stand-in primitives -/

namespace Reference

def identity : Identity := ⟨fit 32 [], fit 32 []⟩

lemma exists_post (aad plaintext : Bytes) :
    ∃ p : Post, p.Valid primitives ∧ p.sender = identity ∧ p.aad = aad := by
  have hkey : Flows.aeadKey primitives (b64 (fit 32 []).toList) = .ok (fit 32 []) := by
    rw [Flows.aeadKey, Flows.unb64_of_b64, Outcome.ok_bind, Bytes.tryInto_toList, Outcome.okOr_some]
  have hseal : ∃ ct, Flows.sealSymmetric primitives (b64 (fit 32 []).toList) plaintext aad
      (fit 24 []) = .ok ct := by
    rw [Flows.sealSymmetric, hkey, Outcome.ok_bind]
    exact ⟨_, rfl⟩
  obtain ⟨ct, hct⟩ := hseal
  have hsig := Flows.signMessage_eq (P := primitives) identity
    (Flows.messageDigest primitives aad ct)
  exact ⟨⟨identity, b64 (fit 32 []).toList, aad, plaintext, ct, _⟩, ⟨⟨_, hct⟩, hsig⟩, rfl, rfl⟩

lemma ed25519Binds_digests : primitives.Ed25519Binds Flows.digests := by
  refine ed25519Binds ?_
  rintro - ⟨d, rfl⟩ - ⟨d', rfl⟩ h
  have hfit : ∀ d : ByteArr 32, fit 32 d.toList = d := by
    intro d
    simpa using fit_append d []
  rw [hfit, hfit] at h
  rw [h]

/-- The signature of a message with one byte of data is taken for one with no data, whose ciphertext
starts with that byte. -/
theorem checks_shifted : ∃ p : Post, p.Valid primitives ∧ p.aad = [1] ∧
    Post.Checks primitives identity [] (1 :: p.ct) p.sigB64 := by
  obtain ⟨p, hp, hsender, haad⟩ := exists_post [1] [104, 105]
  refine ⟨p, hp, haad, ?_⟩
  have hbound := Post.bound_of_valid xchachaCorrect ed25519Correct ed25519Binds_digests hp
  refine (hbound.checks_iff _ _ _).mpr ⟨by rw [hsender], .inl ?_⟩
  rw [haad]
  rfl

end Reference

end PockCore
