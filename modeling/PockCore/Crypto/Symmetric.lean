import Mathlib.Data.Set.Insert
import PockCore.Crypto.Primitives

/-!
# Authenticated encryption and key derivation

The sealed blobs (`aead`) and the key derivation functions (`kdf`) of the crate.
-/

namespace PockCore

abbrev AeadKey := ByteArr 32

abbrev Nonce := ByteArr 24

/-! ### Sealed blobs -/

namespace Aead

variable (P : Primitives)

def nonceLen : ℕ := 24

/-- The nonce, which is drawn at random, followed by the ciphertext. -/
def sealAad (key : AeadKey) (plaintext aad : Bytes) (nonce : Nonce) : Bytes :=
  nonce.toList ++ P.xchachaEncrypt key nonce plaintext aad

def openAad (key : AeadKey) (blob aad : Bytes) : Result Bytes :=
  if blob.length < nonceLen then .err (.decode "aead blob too short")
  else do
    let (nonceBytes, ct) ← Bytes.splitAt blob nonceLen
    let nonce ← Bytes.fromSlice 24 nonceBytes
    Outcome.okOr .wrongKey (P.xchachaDecrypt key nonce ct aad)

/-- `aead::seal`. -/
def sealBlob (key : AeadKey) (plaintext : Bytes) (nonce : Nonce) : Bytes :=
  sealAad P key plaintext [] nonce

/-- `aead::open`. -/
def openBlob (key : AeadKey) (blob : Bytes) : Result Bytes := openAad P key blob []

variable {P}

/-- A blob is opened as its first 24 bytes, the nonce, and the ciphertext after them. -/
lemma openAad_append (key : AeadKey) (nonce : Nonce) (ct aad : Bytes) :
    openAad P key (nonce.toList ++ ct) aad =
      Outcome.okOr .wrongKey (P.xchachaDecrypt key nonce ct aad) := by
  have hlen : ¬(nonce.toList ++ ct).length < nonceLen := by simp [nonceLen]
  rw [openAad, if_neg hlen, Bytes.splitAt_append (by simp [nonceLen])]
  simp

lemma openAad_eq_ok {key : AeadKey} {blob aad msg : Bytes} :
    openAad P key blob aad = .ok msg ↔
      ∃ (nonce : Nonce) (ct : Bytes),
        blob = nonce.toList ++ ct ∧ P.xchachaDecrypt key nonce ct aad = some msg := by
  constructor
  · intro h
    have hlen : nonceLen ≤ blob.length := by
      by_contra hlt
      rw [openAad, if_pos (not_le.mp hlt)] at h
      cases h
    obtain ⟨nonce, ct, rfl, -⟩ := Bytes.exists_eq_append (n := 24) hlen
    rw [openAad_append, Outcome.okOr_eq_ok] at h
    exact ⟨nonce, ct, rfl, h⟩
  · rintro ⟨nonce, ct, rfl, h⟩
    rw [openAad_append, h, Outcome.okOr_some]

lemma openAad_ne_panic {key : AeadKey} {blob aad : Bytes} : openAad P key blob aad ≠ .panic := by
  by_cases hlen : blob.length < nonceLen
  · rw [openAad, if_pos hlen]
    exact Outcome.err_ne_panic
  · obtain ⟨nonce, ct, rfl, -⟩ := Bytes.exists_eq_append (n := 24) (not_lt.mp hlen)
    rw [openAad_append]
    exact Outcome.okOr_ne_panic

/-- Only a nonce and a tag can open. -/
lemma length_le_of_openBlob (hT : P.XchachaTagged) {key : AeadKey} {blob msg : Bytes}
    (h : openBlob P key blob = .ok msg) : 24 + 16 ≤ blob.length := by
  obtain ⟨nonce, ct, rfl, hct⟩ := openAad_eq_ok.mp h
  have := hT _ _ _ _ _ hct
  simp
  omega

lemma openBlob_sealBlob (hC : P.XchachaCorrect) (key : AeadKey) (msg : Bytes) (nonce : Nonce) :
    openBlob P key (sealBlob P key msg nonce) = .ok msg := by
  rw [openBlob, sealBlob, sealAad, openAad_append, hC, Outcome.okOr_some]

/-- A sealed blob opens under its key and is refused under every other one. -/
lemma openBlob_sealBlob_of_ne (hK : P.XchachaCommits) {key key' : AeadKey} (hne : key' ≠ key)
    (msg : Bytes) (nonce : Nonce) :
    openBlob P key' (sealBlob P key msg nonce) = .err .wrongKey := by
  rw [openBlob, sealBlob, sealAad, openAad_append]
  cases hd : P.xchachaDecrypt key' nonce (P.xchachaEncrypt key nonce msg []) [] with
  | none => rfl
  | some msg' => exact absurd (hK _ _ _ _ _ _ hd) hne

end Aead

/-! ### Key derivation -/

/-- The Argon2id cost profiles. -/
inductive KdfProfile where
  | native
  | constrained
  deriving Repr, DecidableEq

namespace KdfProfile

/-- Memory in KiB, iterations, parallelism. -/
def params : KdfProfile → UInt32 × UInt32 × UInt32
  | native => (65536, 3, 4)
  | constrained => (47104, 1, 1)

lemma params_injective : Function.Injective params := by
  intro p q h
  cases p <;> cases q <;> first | rfl | exact absurd h (by decide)

end KdfProfile

namespace Kdf

variable (P : Primitives)

def argon2id (password salt : Bytes) (profile : KdfProfile) : Result (ByteArr 32) :=
  let (m, t, p) := profile.params
  Outcome.ofExcept .kdf (P.argon2id m t p password salt)

def hkdfSha256 (ikm salt info : Bytes) : ByteArr 32 := P.hkdfSha256 ikm salt info

/-- A call of one of the two key derivation functions. -/
inductive Query where
  | argon2id (password salt : Bytes) (profile : KdfProfile)
  | hkdf (ikm salt info : Bytes)

/-- The two functions do not collide on the calls in `Q`. (Their outputs have 32 bytes, so they
do collide somewhere; what protocols rely on is that no collision is among the calls made.) -/
structure CollisionFree (Q : Set Query) : Prop where
  argon2id : ∀ {pw salt prof pw' salt' prof' d},
    .argon2id pw salt prof ∈ Q → .argon2id pw' salt' prof' ∈ Q →
    Kdf.argon2id P pw salt prof = .ok d → Kdf.argon2id P pw' salt' prof' = .ok d →
    pw = pw' ∧ salt = salt' ∧ prof = prof'
  hkdf : ∀ {ikm salt info ikm' salt' info'},
    .hkdf ikm salt info ∈ Q → .hkdf ikm' salt' info' ∈ Q →
    hkdfSha256 P ikm salt info = hkdfSha256 P ikm' salt' info' →
    ikm = ikm' ∧ salt = salt' ∧ info = info'

end Kdf

end PockCore
