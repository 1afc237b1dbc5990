import PockCore.Crypto.Reference
import PockCore.Item.Flows

/-!
# What a public identity is checked for

A public identity is meant to be refused if either of its keys is not valid. The encapsulation
key is validated when it is read. The signing key is not: it is 32 bytes until a signature is
verified with it. What is accepted is written back verbatim, so that recipients can be compared
by their text.
-/

namespace PockCore

namespace PublicIdentity

variable (P : Primitives)

/-- The text of a valid encapsulation key. -/
def KemValid (kem : String) : Prop :=
  ∃ bytes pk, kem = b64 bytes ∧ P.encapsulationKeyFromBytes bytes = some pk

/-- The text of a valid signing key. -/
def SignValid (sign : String) : Prop :=
  ∃ (key : ByteArr 32) (vk : P.VerifyingKey),
    sign = b64 key.toList ∧ P.verifyingKeyFromBytes key = some vk

/-- The text of 32 bytes that are no signing key. -/
def SignInvalid (sign : String) : Prop :=
  ∃ key : ByteArr 32, sign = b64 key.toList ∧ P.verifyingKeyFromBytes key = none

/-- A blob of the known version with two valid keys. -/
structure ValidBlob (blob : PublicIdentityBlob) : Prop where
  version : blob.v = 1
  sign : SignValid P blob.sign
  kem : KemValid P blob.kem

/-- A blob that is as it should be but for its signing key, which is no point of the curve. -/
structure Unchecked (blob : PublicIdentityBlob) : Prop where
  version : blob.v = 1
  sign : SignInvalid P blob.sign
  kem : KemValid P blob.kem

/-- The blob is read exactly if both its keys are valid, and is what its identity is written
as. -/
def ValidatesBlob (blob : PublicIdentityBlob) : Prop :=
  ((∃ k, fromBlob P blob = .ok k) ↔ ValidBlob P blob) ∧
    ∀ k, fromBlob P blob = .ok k → k.toBlob = blob

variable {P} {blob : PublicIdentityBlob}

/-! ### Reading -/

/-- The version, the length of one key and the validity of the other are all that is checked. -/
lemma fromBlob_eq_ok {k : PublicIdentity P} :
    fromBlob P blob = .ok k ↔ blob.v = 1 ∧ blob.sign = b64 k.sign.toList ∧
      ∃ bytes, blob.kem = b64 bytes ∧ P.encapsulationKeyFromBytes bytes = some k.kem := by
  unfold fromBlob
  by_cases hv : blob.v = 1
  · rw [if_neg (not_not.mpr hv)]
    simp only [Outcome.bind_eq_ok, unb64_eq_ok, Outcome.okOr_eq_ok, Bytes.tryInto_eq_some,
      KemPublic.fromBytes, Outcome.ok.injEq, hv, true_and]
    constructor
    · rintro ⟨_, hsign, sign, rfl, bytes, hkem, kem, hpk, rfl⟩
      exact ⟨hsign, bytes, hkem, hpk⟩
    · rintro ⟨hsign, bytes, hkem, hpk⟩
      exact ⟨_, hsign, k.sign, rfl, bytes, hkem, k.kem, hpk, rfl⟩
  · simp [hv]

/-- The text of 32 bytes is that of a valid key or that of an invalid one. -/
lemma sign_cases (sign : String) :
    (∃ key : ByteArr 32, sign = b64 key.toList) ↔ SignValid P sign ∨ SignInvalid P sign := by
  constructor
  · rintro ⟨key, rfl⟩
    cases hvk : P.verifyingKeyFromBytes key with
    | none => exact .inr ⟨key, rfl, hvk⟩
    | some vk => exact .inl ⟨key, vk, rfl, hvk⟩
  · rintro (⟨key, vk, hkey, -⟩ | ⟨key, hkey, -⟩)
    · exact ⟨key, hkey⟩
    · exact ⟨key, hkey⟩

lemma not_signValid_of_signInvalid {sign : String} (h : SignInvalid P sign) :
    ¬SignValid P sign := by
  rintro ⟨key, vk, hkey, hvk⟩
  obtain ⟨key', hkey', hnone⟩ := h
  have heq : key' = key := ByteArr.toList_inj.mp (b64_injective P (hkey'.symm.trans hkey))
  rw [← heq, hnone] at hvk
  cases hvk

/-- A blob is read if it is valid, and also if nobody has checked it. -/
lemma exists_fromBlob_iff :
    (∃ k, fromBlob P blob = .ok k) ↔ ValidBlob P blob ∨ Unchecked P blob := by
  simp only [fromBlob_eq_ok]
  constructor
  · rintro ⟨k, hv, hsign, bytes, hkem, hpk⟩
    have hkemValid : KemValid P blob.kem := ⟨bytes, k.kem, hkem, hpk⟩
    rcases (sign_cases blob.sign).mp ⟨k.sign, hsign⟩ with hvalid | hinvalid
    · exact .inl ⟨hv, hvalid, hkemValid⟩
    · exact .inr ⟨hv, hinvalid, hkemValid⟩
  · have hread : blob.v = 1 → SignValid P blob.sign ∨ SignInvalid P blob.sign →
        KemValid P blob.kem → ∃ k : PublicIdentity P, blob.v = 1 ∧
          blob.sign = b64 k.sign.toList ∧
          ∃ bytes, blob.kem = b64 bytes ∧ P.encapsulationKeyFromBytes bytes = some k.kem := by
      intro hv hsign hkem
      obtain ⟨key, hkey⟩ := (sign_cases blob.sign).mpr hsign
      obtain ⟨bytes, pk, hbytes, hpk⟩ := hkem
      exact ⟨⟨key, pk⟩, hv, hkey, bytes, hbytes, hpk⟩
    rintro (h | h)
    · exact hread h.version (.inl h.sign) h.kem
    · exact hread h.version (.inr h.sign) h.kem

/-- A signing key that nobody has checked is checked at its first use: no signature passes. -/
theorem verify_of_unchecked {k : PublicIdentity P} (h : fromBlob P blob = .ok k)
    (hun : Unchecked P blob) (msg : Bytes) (sig : ByteArr 64) :
    SignPublic.verify P k.sign msg sig = .err .signature := by
  obtain ⟨-, hsign, -⟩ := fromBlob_eq_ok.mp h
  obtain ⟨key, hkey, hnone⟩ := hun.sign
  have heq : k.sign = key := ByteArr.toList_inj.mp (b64_injective P (hsign.symm.trans hkey))
  rw [SignPublic.verify, heq, hnone, Outcome.okOr_none, Outcome.err_bind]

/-- What is read is written back verbatim. -/
lemma toBlob_of_fromBlob (hC : P.KemKeyCanonical) {k : PublicIdentity P}
    (h : fromBlob P blob = .ok k) : k.toBlob = blob := by
  obtain ⟨hv, hsign, bytes, hkem, hpk⟩ := fromBlob_eq_ok.mp h
  have hbytes : k.kem.asBytes = bytes := hC bytes k.kem hpk
  rw [toBlob, hbytes, ← hsign, ← hkem, ← hv]

lemma validatesBlob_iff_not_unchecked (hC : P.KemKeyCanonical) :
    ValidatesBlob P blob ↔ ¬Unchecked P blob := by
  rw [ValidatesBlob, and_iff_left fun k hk => toBlob_of_fromBlob hC hk, exists_fromBlob_iff]
  constructor
  · intro h hun
    exact not_signValid_of_signInvalid hun.sign (h.mp (.inr hun)).sign
  · intro hun
    rw [or_iff_left hun]

end PublicIdentity

/-! ### Recipients -/

namespace Flows

variable {P : Primitives}

/-- The recipients are known by the texts of their blobs. -/
lemma map_recipientId_of_readRecipients (hC : P.KemKeyCanonical)
    {blobs : List PublicIdentityBlob} {recipients : List (KemPublic P)}
    (h : readRecipients P blobs = .ok recipients) :
    recipients.map Item.recipientId = blobs.map PublicIdentityBlob.kem := by
  induction blobs generalizing recipients with
  | nil =>
    cases h
    rfl
  | cons b blobs ih =>
    simp only [readRecipients, Outcome.bind_eq_ok, Outcome.ok.injEq] at h
    obtain ⟨pubid, hpubid, rest, hrest, rfl⟩ := h
    have hkem : Item.recipientId pubid.kem = b.kem :=
      congrArg PublicIdentityBlob.kem (PublicIdentity.toBlob_of_fromBlob hC hpubid)
    rw [List.map_cons, List.map_cons, hkem, ih hrest]

/-- The recipient ids of an item are the texts of the keys it is encrypted to, in order. -/
def WritesKemTexts (P : Primitives) : Prop :=
  ∀ value json dek nonce draws itemJson, encryptItem P value json dek nonce draws = .ok itemJson →
    ∃ blobs item, P.pubBlobsJson.read json = .ok blobs ∧ itemJson = P.itemJson.write item ∧
      item.wrappedDeks.map WrappedDek.recipient = blobs.map PublicIdentityBlob.kem

lemma writesKemTexts (hC : P.KemKeyCanonical) : WritesKemTexts P := by
  intro value json dek nonce draws itemJson h
  obtain ⟨blobs, recipients, item, hblobs, hrecipients, hitem, rfl⟩ := encryptItem_eq_ok.mp h
  refine ⟨blobs, item, hblobs, rfl, ?_⟩
  unfold Item.encryptItem at hitem
  split_ifs at hitem
  cases hitem
  rw [← map_recipientId_of_readRecipients hC hrecipients]
  apply List.ext_getElem?
  intro i
  simp only [List.getElem?_map, List.getElem?_mapIdx, Option.map_map]
  rfl

end Flows

/-! ### A key that is no point of the curve -/

namespace PublicIdentity

/-- The encoding of the ordinate 2. No point of the curve has it, so it is no Ed25519 key. -/
def offCurve : ByteArr 32 where
  toList := 2 :: List.replicate 31 0
  length_toList := by decide

/-- The stand-in primitives, which refuse this signing key. -/
noncomputable def curvePrimitives : Primitives :=
  { Reference.primitives with
    VerifyingKey := ByteArr 32
    verifyingKeyFromBytes := fun key => if key = offCurve then none else some key
    ed25519Verify := fun (key : ByteArr 32) msg sig =>
      decide (sig = Reference.fit 64 (key.toList ++ msg)) }

lemma kemKeyCanonical_curvePrimitives : curvePrimitives.KemKeyCanonical :=
  Reference.kemKeyCanonical

lemma verifyingKeyFromBytes_offCurve : curvePrimitives.verifyingKeyFromBytes offCurve = none := by
  simp [curvePrimitives]

lemma signValid_of_ne {key : ByteArr 32} (h : key ≠ offCurve) :
    SignValid curvePrimitives (b64 key.toList) :=
  ⟨key, key, rfl, by simp [curvePrimitives, h]⟩

/-- A blob with a signing key and the encapsulation key of an honest seed. -/
def blobOf (key : ByteArr 32) : PublicIdentityBlob where
  v := 1
  sign := b64 key.toList
  kem := b64 (Reference.fit 32 []).toList

lemma unchecked_blobOf_offCurve : Unchecked curvePrimitives (blobOf offCurve) where
  version := rfl
  sign := ⟨offCurve, rfl, verifyingKeyFromBytes_offCurve⟩
  kem := ⟨_, Reference.fit 32 [], rfl, Bytes.tryInto_toList (Reference.fit 32 [])⟩

/-- A blob is validated as promised unless it has the text of an invalid signing key, and is
otherwise as it should be. Whatever is read is written back verbatim, and an item names its
recipients by the texts that it was given. -/
theorem validatesBlob_iff {P : Primitives} (hC : P.KemKeyCanonical) :
    (∀ blob, ValidatesBlob P blob ↔ ¬Unchecked P blob) ∧
      (∀ blob k, fromBlob P blob = .ok k → k.toBlob = blob) ∧ Flows.WritesKemTexts P :=
  ⟨fun _ => validatesBlob_iff_not_unchecked hC, fun _ _ => toBlob_of_fromBlob hC,
    Flows.writesKemTexts hC⟩

/-- A blob with the ordinate 0, which is one of the curve, is validated. -/
theorem validatesBlob_onCurve :
    ValidatesBlob curvePrimitives (blobOf (Reference.fit 32 [])) := by
  apply ((validatesBlob_iff kemKeyCanonical_curvePrimitives).1 _).mpr
  intro hun
  exact not_signValid_of_signInvalid hun.sign (signValid_of_ne (by decide))

/-- A blob is read although its signing key is no key. -/
theorem fromBlob_offCurve :
    (∃ k, fromBlob curvePrimitives (blobOf offCurve) = .ok k) ∧
      ¬ValidatesBlob curvePrimitives (blobOf offCurve) := by
  have hread := exists_fromBlob_iff.mpr (.inr unchecked_blobOf_offCurve)
  refine ⟨hread, fun h => ?_⟩
  exact not_signValid_of_signInvalid unchecked_blobOf_offCurve.sign (h.1.mp hread).sign

end PublicIdentity

end PockCore
