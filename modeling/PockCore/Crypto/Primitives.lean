import PockCore.Lib.Base64
import PockCore.Lib.Text
import PockCore.Formats
import PockCore.Error

/-!
# Primitives

The functions of the other crates that this one calls, as one parameter of the model, and the
properties of them that results assume. Randomness is an argument: where the code draws from
the operating system, the model is given the bytes that were drawn.
-/

namespace PockCore

/-- The third-party functions. -/
structure Primitives where
  /-- XChaCha20-Poly1305. Sealing cannot fail on a message that fits in memory. -/
  xchachaEncrypt (key : ByteArr 32) (nonce : ByteArr 24) (msg aad : Bytes) : Bytes
  xchachaDecrypt (key : ByteArr 32) (nonce : ByteArr 24) (ct aad : Bytes) : Option Bytes
  /-- AES-GCM-256. -/
  aesGcmEncrypt (key : ByteArr 32) (iv : ByteArr 12) (msg aad : Bytes) : Option Bytes
  aesGcmDecrypt (key : ByteArr 32) (iv : ByteArr 12) (ct aad : Bytes) : Option Bytes
  /-- Argon2id, version 0x13, with a 32-byte output; the error is of the parameters, of the
  password length or of the salt length. -/
  argon2id (mKib t p : UInt32) (password salt : Bytes) : Except String (ByteArr 32)
  /-- HKDF-SHA256 with a 32-byte output. -/
  hkdfSha256 (ikm salt info : Bytes) : ByteArr 32
  /-- PBKDF2-HMAC-SHA256 with a 32-byte output. -/
  pbkdf2 (password salt : Bytes) (iters : UInt32) : ByteArr 32
  sha256 (data : Bytes) : ByteArr 32
  /-- Ed25519: a key that `VerifyingKey::from_bytes` accepts, the public key of a signing seed,
  signing, and `Verifier::verify`, the check that is not the strict one. -/
  VerifyingKey : Type
  verifyingKeyFromBytes (b : ByteArr 32) : Option VerifyingKey
  ed25519Public (seed : ByteArr 32) : ByteArr 32
  ed25519Sign (seed : ByteArr 32) (msg : Bytes) : ByteArr 64
  ed25519Verify (key : VerifyingKey) (msg : Bytes) (sig : ByteArr 64) : Bool
  /-- X-Wing: a decapsulation key is its 32-byte seed, a ciphertext has 1120 bytes and a shared
  secret has 32; encapsulation consumes randomness. -/
  EncapsulationKey : Type
  encapsulationKey (seed : ByteArr 32) : EncapsulationKey
  encapsulationKeyToBytes (pk : EncapsulationKey) : Bytes
  encapsulationKeyFromBytes (b : Bytes) : Option EncapsulationKey
  encapsulate (pk : EncapsulationKey) (coins : Bytes) : ByteArr 1120 × ByteArr 32
  decapsulate (seed : ByteArr 32) (ct : ByteArr 1120) : ByteArr 32
  /-- The engines of the `base64` crate. -/
  urlSafeNoPad : Base64.Engine (Base64.encodeNoPad Base64.urlSafe)
  standard : Base64.Engine (Base64.encodePad Base64.standard)
  standardNoPad : Base64.Engine (Base64.encodeNoPad Base64.standard)
  /-- `serde_json` at the types it is used at. -/
  wrappedAukJson : Codec String WrappedAuk
  itemJson : Codec String EncryptedItem
  pubBlobsJson : Codec String (List PublicIdentityBlob)
  bundleJson : Codec String Bundle
  bundleBytes : Codec Bytes Bundle
  certFromJson (s : String) : Except String CertJson
  stringsFromJson (s : String) : Except String (List String)
  /-- The texts of a `FromUtf8Error` and of `{:?}` of a text, which only error messages show. -/
  fromUtf8Error (b : Bytes) : String
  debugFormat (s : String) : String

namespace Primitives

variable (P : Primitives)

/-! ### Assumptions -/

/-- Opening undoes sealing. -/
def XchachaCorrect : Prop :=
  ∀ key nonce msg aad,
    P.xchachaDecrypt key nonce (P.xchachaEncrypt key nonce msg aad) aad = some msg

/-- A sealed message opens under no key but the one that sealed it. -/
def XchachaCommits : Prop :=
  ∀ key key' nonce msg msg' aad,
    P.xchachaDecrypt key' nonce (P.xchachaEncrypt key nonce msg aad) aad = some msg' → key' = key

/-- Nothing shorter than a Poly1305 tag opens. -/
def XchachaTagged : Prop :=
  ∀ key nonce ct aad msg, P.xchachaDecrypt key nonce ct aad = some msg → 16 ≤ ct.length

/-- What opens is what sealing the message makes. -/
def XchachaTidy : Prop :=
  ∀ key nonce ct aad msg, P.xchachaDecrypt key nonce ct aad = some msg →
    ct = P.xchachaEncrypt key nonce msg aad

/-- Opening undoes sealing. -/
def AesGcmCorrect : Prop :=
  ∀ key iv msg aad ct, P.aesGcmEncrypt key iv msg aad = some ct →
    P.aesGcmDecrypt key iv ct aad = some msg

/-- A sealed message opens under no key but the one that sealed it. -/
def AesGcmCommits : Prop :=
  ∀ key key' iv msg msg' aad ct, P.aesGcmEncrypt key iv msg aad = some ct →
    P.aesGcmDecrypt key' iv ct aad = some msg' → key' = key

/-- Sealing fails on nothing shorter than the limits of AES-GCM. -/
def AesGcmSeals : Prop :=
  ∀ key iv msg aad, msg.length ≤ 2 ^ 36 → aad.length ≤ 2 ^ 36 →
    ∃ ct, P.aesGcmEncrypt key iv msg aad = some ct

/-- The public key of a seed is a valid one, and accepts what the seed signs. -/
def Ed25519Correct : Prop :=
  ∀ seed, ∃ vk, P.verifyingKeyFromBytes (P.ed25519Public seed) = some vk ∧
    ∀ msg, P.ed25519Verify vk msg (P.ed25519Sign seed msg) = true

/-- The signature of one of the messages verifies for no other one of them, and under no other
seed's key. -/
def Ed25519Binds (M : Set Bytes) : Prop :=
  ∀ seed seed' vk, ∀ m ∈ M, ∀ m' ∈ M, P.verifyingKeyFromBytes (P.ed25519Public seed') = some vk →
    P.ed25519Verify vk m' (P.ed25519Sign seed m) = true →
      P.ed25519Public seed' = P.ed25519Public seed ∧ m' = m

/-- Decapsulation with the matching seed recovers the shared secret. -/
def KemCorrect : Prop :=
  ∀ seed coins,
    P.decapsulate seed (P.encapsulate (P.encapsulationKey seed) coins).1 =
      (P.encapsulate (P.encapsulationKey seed) coins).2

/-- Decapsulation with another seed yields a different secret. -/
def KemRejects : Prop :=
  ∀ seed pk coins, P.encapsulationKey seed ≠ pk →
    P.decapsulate seed (P.encapsulate pk coins).1 ≠ (P.encapsulate pk coins).2

/-- A public key can be read back from its bytes. -/
def KemKeyRoundTrip : Prop :=
  ∀ pk, P.encapsulationKeyFromBytes (P.encapsulationKeyToBytes pk) = some pk

/-- A public key is written as the bytes it was read from. -/
def KemKeyCanonical : Prop :=
  ∀ b pk, P.encapsulationKeyFromBytes b = some pk → P.encapsulationKeyToBytes pk = b

/-- A text that is read as a wrap is a JSON object or a JSON array. -/
def WrappedAukDelimited : Prop :=
  ∀ s w, P.wrappedAukJson.read s = .ok w → '\x7b' ∈ s.toList ∨ '[' ∈ s.toList

end Primitives

/-! ### Binary values as text -/

/-- `b64` of every module but `nscrypto`: URL-safe, without padding. -/
def b64 (b : Bytes) : String := Base64.encodeNoPad Base64.urlSafe b

/-- `unb64` of `identity`, `envelope`, `item` and `auk`. -/
def unb64 (P : Primitives) (s : String) : Result Bytes :=
  Outcome.ofExcept .decode (P.urlSafeNoPad.decode s)

@[simp] lemma unb64_eq_ok {P : Primitives} {s : String} {b : Bytes} :
    unb64 P s = .ok b ↔ s = b64 b := by
  rw [unb64, Outcome.ofExcept_eq_ok, P.urlSafeNoPad.decode_eq_ok, b64]

@[simp] lemma unb64_b64 {P : Primitives} (b : Bytes) : unb64 P (b64 b) = .ok b :=
  unb64_eq_ok.mpr rfl

lemma b64_injective (P : Primitives) : Function.Injective b64 := P.urlSafeNoPad.encode_injective

lemma unb64_ne_panic {P : Primitives} {s : String} : unb64 P s ≠ .panic :=
  Outcome.ofExcept_ne_panic

/-- What holds of every character of the alphabet holds in every encoding. -/
lemma forall_mem_b64 {p : Char → Prop} (hp : ∀ i, p (Base64.urlSafe.digit i)) (b : Bytes) :
    ∀ c ∈ (b64 b).toList, p c := by
  intro c hc
  rw [b64, Base64.toList_encodeNoPad] at hc
  obtain ⟨i, rfl⟩ := Base64.mem_encodeNoPadList _ hc
  exact hp i

lemma noWhitespace_b64 (b : Bytes) : Text.NoWhitespace (b64 b) :=
  forall_mem_b64 (by decide) b

/-- No encoding is a JSON object or array. -/
lemma not_delimited_b64 (b : Bytes) : ¬('\x7b' ∈ (b64 b).toList ∨ '[' ∈ (b64 b).toList) := by
  rintro (h | h)
  · exact forall_mem_b64 (p := (· ≠ '\x7b')) (by decide) b _ h rfl
  · exact forall_mem_b64 (p := (· ≠ '[')) (by decide) b _ h rfl

end PockCore
