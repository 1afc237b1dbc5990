import PockCore.Crypto.Symmetric

/-!
# Signing keys, encapsulation keys and identities

The modules `sign`, `kem` and `identity`: an identity is a signing seed and an encapsulation
seed, and its public half is the two public keys.
-/

namespace PockCore

/-! ### Signing -/

/-- A signing key is its 32-byte seed. -/
abbrev SignSecret := ByteArr 32

abbrev SignPublic := ByteArr 32

namespace SignSecret

def fromBytes (b : ByteArr 32) : Result SignSecret := .ok b

def toBytes (s : SignSecret) : ByteArr 32 := s

def «public» (P : Primitives) (s : SignSecret) : SignPublic := P.ed25519Public s

def sign (P : Primitives) (s : SignSecret) (msg : Bytes) : ByteArr 64 := P.ed25519Sign s msg

end SignSecret

/-- `SignPublic::verify`: the key is validated only here, not when it is built. -/
def SignPublic.verify (P : Primitives) (k : SignPublic) (msg : Bytes) (sig : ByteArr 64) :
    Result Unit := do
  let vk ← Outcome.okOr .signature (P.verifyingKeyFromBytes k)
  if P.ed25519Verify vk msg sig then .ok () else .err .signature

/-! ### Key encapsulation -/

/-- A decapsulation key is its 32-byte seed. -/
abbrev KemSecret := ByteArr 32

abbrev KemCiphertext := ByteArr 1120

abbrev KemPublic (P : Primitives) := P.EncapsulationKey

/-- `kem_generate`, on the seed that is drawn. -/
def kemGenerate (P : Primitives) (seed : ByteArr 32) : KemSecret × KemPublic P :=
  (seed, P.encapsulationKey seed)

namespace KemPublic

variable {P : Primitives}

def asBytes (pk : KemPublic P) : Bytes := P.encapsulationKeyToBytes pk

def fromBytes (P : Primitives) (b : Bytes) : Result (KemPublic P) :=
  Outcome.okOr (.decode "kem public key") (P.encapsulationKeyFromBytes b)

def encapsulate (pk : KemPublic P) (coins : Bytes) : KemCiphertext × ByteArr 32 :=
  P.encapsulate pk coins

lemma asBytes_injective (h : P.KemKeyRoundTrip) :
    Function.Injective (asBytes : KemPublic P → Bytes) := by
  intro pk pk' hb
  have hpk := h pk
  rw [show P.encapsulationKeyToBytes pk = P.encapsulationKeyToBytes pk' from hb, h] at hpk
  exact (Option.some.inj hpk).symm

end KemPublic

namespace KemSecret

def fromBytes (b : Bytes) : Result KemSecret :=
  Outcome.okOr (.decode "kem secret key len") (Bytes.tryInto 32 b)

def toBytes (s : KemSecret) : Bytes := s.toList

def encapsulationKey (P : Primitives) (s : KemSecret) : KemPublic P := P.encapsulationKey s

/-- Implicit rejection: a ciphertext for another key yields some secret, never an error. -/
def decapsulate (P : Primitives) (s : KemSecret) (ct : KemCiphertext) : ByteArr 32 :=
  P.decapsulate s ct

end KemSecret

namespace KemCiphertext

def ciphertextSize : ℕ := 1120

def asBytes (ct : KemCiphertext) : Bytes := ct.toList

def fromBytes (b : Bytes) : Result KemCiphertext :=
  if b.length ≠ ciphertextSize then .err (.decode "kem ciphertext len")
  else Bytes.fromSlice 1120 b

lemma fromBytes_eq_ok {b : Bytes} {ct : KemCiphertext} :
    fromBytes b = .ok ct ↔ b = asBytes ct := by
  unfold fromBytes
  constructor
  · intro h
    split_ifs at h with hlen
    unfold Bytes.fromSlice at h
    cases ha : Bytes.tryInto 1120 b with
    | none => simp [ha] at h
    | some a =>
      simp only [ha, Outcome.ok.injEq] at h
      subst h
      exact Bytes.tryInto_eq_some.mp ha
  · rintro rfl
    simp [asBytes, ciphertextSize]

@[simp] lemma fromBytes_asBytes (ct : KemCiphertext) : fromBytes (asBytes ct) = .ok ct :=
  fromBytes_eq_ok.mpr rfl

end KemCiphertext

/-! ### Identities -/

/-- A signing key and a decapsulation key. -/
structure Identity where
  sign : SignSecret
  kem : KemSecret
  deriving DecidableEq

structure PublicIdentity (P : Primitives) where
  sign : SignPublic
  kem : KemPublic P

namespace Identity

/-- `Identity::generate`, on the two seeds that are drawn. -/
def generate (signSeed kemSeed : ByteArr 32) : Identity where
  sign := signSeed
  kem := kemSeed

def «public» (P : Primitives) (id : Identity) : PublicIdentity P where
  sign := SignSecret.public P id.sign
  kem := KemSecret.encapsulationKey P id.kem

/-- The signing seed, then the encapsulation seed. -/
def toSecretBytes (id : Identity) : Bytes :=
  id.sign.toBytes.toList ++ id.kem.toBytes

def fromSecretBytes (b : Bytes) : Result Identity :=
  if b.length ≠ 64 then .err (.decode "identity secret must be 64 bytes")
  else do
    let (signB, kemB) ← Bytes.splitAt b 32
    let signArr ← Outcome.okOr (.decode "sign len") (Bytes.tryInto 32 signB)
    let sign ← SignSecret.fromBytes signArr
    let kem ← KemSecret.fromBytes kemB
    .ok { sign, kem }

@[simp] lemma toSecretBytes_length (id : Identity) : id.toSecretBytes.length = 64 := by
  simp [toSecretBytes, SignSecret.toBytes, KemSecret.toBytes]

/-- The secret bytes of an identity are read back as that identity. -/
@[simp] lemma fromSecretBytes_toSecretBytes (id : Identity) :
    fromSecretBytes id.toSecretBytes = .ok id := by
  rw [fromSecretBytes, if_neg (by simp)]
  rw [toSecretBytes, Bytes.splitAt_append (by simp [SignSecret.toBytes])]
  simp [SignSecret.toBytes, KemSecret.toBytes, SignSecret.fromBytes, KemSecret.fromBytes]

lemma fromSecretBytes_of_length_ne {b : Bytes} (h : b.length ≠ 64) :
    (fromSecretBytes b).IsErr := by
  rw [fromSecretBytes, if_pos h]
  exact Outcome.isErr_err _

/-- Every 64 bytes are the secret bytes of one identity. -/
lemma fromSecretBytes_eq_ok {b : Bytes} {id : Identity} :
    fromSecretBytes b = .ok id ↔ b = id.toSecretBytes := by
  constructor
  · intro h
    by_cases hlen : b.length = 64
    · obtain ⟨sign, kemB, rfl, -⟩ := Bytes.exists_eq_append (n := 32) (b := b) (by omega)
      rw [fromSecretBytes, if_neg (not_not.mpr hlen), Bytes.splitAt_append sign.length_toList] at h
      simp only [Outcome.ok_bind, Bytes.tryInto_toList, Outcome.okOr_some, SignSecret.fromBytes,
        KemSecret.fromBytes, Outcome.bind_eq_ok, Outcome.okOr_eq_ok, Bytes.tryInto_eq_some,
        Outcome.ok.injEq] at h
      obtain ⟨kem, rfl, rfl⟩ := h
      rfl
    · exact absurd h ((fromSecretBytes_of_length_ne hlen).ne_ok id)
  · rintro rfl
    exact fromSecretBytes_toSecretBytes id

lemma fromSecretBytes_ne_panic {b : Bytes} : fromSecretBytes b ≠ .panic := by
  unfold fromSecretBytes
  by_cases h : b.length = 64
  · have h32 : 32 ≤ b.length := by omega
    rw [if_neg (not_not.mpr h), Bytes.splitAt_of_le h32, Outcome.ok_bind]
    apply Outcome.bind_ne_panic Outcome.okOr_ne_panic
    intro signArr _
    rw [SignSecret.fromBytes, Outcome.ok_bind]
    apply Outcome.bind_ne_panic Outcome.okOr_ne_panic
    intro kem _
    exact Outcome.ok_ne_panic
  · rw [if_pos h]
    exact Outcome.err_ne_panic

end Identity

namespace PublicIdentity

variable {P : Primitives}

def toBlob (k : PublicIdentity P) : PublicIdentityBlob where
  v := 1
  sign := b64 k.sign.toList
  kem := b64 k.kem.asBytes

def fromBlob (P : Primitives) (blob : PublicIdentityBlob) : Result (PublicIdentity P) :=
  if blob.v ≠ 1 then .err (.decode s!"unknown identity blob version {blob.v}")
  else do
    let signBytes ← unb64 P blob.sign
    let sign ← Outcome.okOr (.decode "sign public key len") (Bytes.tryInto 32 signBytes)
    let kemBytes ← unb64 P blob.kem
    let kem ← KemPublic.fromBytes P kemBytes
    .ok { sign, kem }

lemma fromBlob_toBlob (hR : P.KemKeyRoundTrip) (k : PublicIdentity P) :
    fromBlob P k.toBlob = .ok k := by
  have hkem : KemPublic.fromBytes P k.kem.asBytes = .ok k.kem := by
    rw [KemPublic.fromBytes, KemPublic.asBytes, hR, Outcome.okOr_some]
  simp [fromBlob, toBlob, hkem]

end PublicIdentity

end PockCore
