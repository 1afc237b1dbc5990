import PockCore.Item.Basic
import PockCore.Vault.Flows

/-!
# Shares

The module `share`: a bundle of files is encrypted under a key of its own, and travels as a
framed envelope and a key blob, a text that names the cipher.
-/

namespace PockCore

inductive ShareCipher where
  | xchacha
  | xwing
  deriving Repr, DecidableEq

namespace ShareCipher

def tagXchacha : UInt8 := 1

def tagXwing : UInt8 := 2

def id : ShareCipher → String
  | xchacha => "xchacha"
  | xwing => "xwing"

def fromId (s : String) : Option ShareCipher :=
  match s with
  | "xchacha" => some xchacha
  | "xwing" => some xwing
  | _ => none

def tag : ShareCipher → UInt8
  | xchacha => tagXchacha
  | xwing => tagXwing

def fromTag (t : UInt8) : Result ShareCipher :=
  if t = tagXchacha then .ok xchacha
  else if t = tagXwing then .ok xwing
  else .err (.decode s!"unknown share algoTag: {t}")

lemma fromId_eq_some {s : String} {c : ShareCipher} : fromId s = some c ↔ s = c.id := by
  unfold fromId
  split
  · cases c <;> simp [id]
  · cases c <;> simp [id]
  · cases c <;> simp_all [id]

lemma fromTag_eq_ok {t : UInt8} {c : ShareCipher} : fromTag t = .ok c ↔ t = c.tag := by
  unfold fromTag
  split_ifs with h₁ h₂
  · cases c <;> simp [tag, h₁, tagXchacha, tagXwing]
  · cases c <;> simp [tag, h₂, tagXchacha, tagXwing]
  · cases c <;> simp [tag, h₁, h₂]

@[simp] lemma fromId_id (c : ShareCipher) : fromId c.id = some c := fromId_eq_some.mpr rfl

@[simp] lemma fromTag_tag (c : ShareCipher) : fromTag c.tag = .ok c := fromTag_eq_ok.mpr rfl

lemma noWhitespace_id (c : ShareCipher) : Text.NoWhitespace c.id := by
  cases c <;> decide

end ShareCipher

namespace Share

variable (P : Primitives)

def magic : Bytes := Bytes.ofString "PKEV"

def version : UInt8 := 2

/-- The `unb64` of this module, which trims the text first. -/
def unb64 (s : String) : Result Bytes :=
  Outcome.ofExcept .decode (P.urlSafeNoPad.decode (Text.trim s))

/-! ### Frames -/

def frame (cipher : ShareCipher) (payload : Bytes) : Bytes :=
  magic ++ [version, cipher.tag] ++ payload

/-- The cipher of a frame, and where its payload starts. -/
def unframe (envelope : Bytes) : Result (ShareCipher × ℕ) :=
  if envelope.length < 6 then .err (.decode "bad share envelope magic")
  else do
    let head ← Bytes.slice envelope 0 4
    if head ≠ magic then .err (.decode "bad share envelope magic")
    else
      let v ← Bytes.index envelope 4
      if v ≠ version then .err (.decode s!"unsupported share version: {v}")
      else
        let t ← Bytes.index envelope 5
        let cipher ← ShareCipher.fromTag t
        .ok (cipher, 6)

lemma magic_length : magic.length = 4 := by decide

/-- The cipher of a frame is told by its sixth byte, behind the magic and the version. -/
lemma unframe_append {head : Bytes} (hhead : head.length = 4) (v t : UInt8) (payload : Bytes) :
    unframe (head ++ v :: t :: payload) =
      if head ≠ magic then .err (.decode "bad share envelope magic")
      else if v ≠ version then .err (.decode s!"unsupported share version: {v}")
      else ShareCipher.fromTag t >>= fun cipher => .ok (cipher, 6) := by
  have hlen : ¬(head ++ v :: t :: payload).length < 6 := by
    simp only [List.length_append, List.length_cons]
    omega
  have hslice : (Bytes.slice (head ++ v :: t :: payload) 0 4 : Result Bytes) = .ok head :=
    Bytes.slice_append (a := []) rfl (by simpa using hhead)
  have hv : (Bytes.index (head ++ v :: t :: payload) 4 : Result UInt8) = .ok v := by
    simp [Bytes.index, hhead]
  have ht : (Bytes.index (head ++ v :: t :: payload) 5 : Result UInt8) = .ok t := by
    simp [Bytes.index, List.getElem?_append_right, hhead]
  rw [unframe, if_neg hlen]
  simp only [hslice, hv, ht, Outcome.ok_bind]

/-- What is unframed to a cipher is a frame of it, and its payload starts after six bytes. -/
lemma unframe_eq_ok {envelope : Bytes} {c : ShareCipher} {off : ℕ} :
    unframe envelope = .ok (c, off) ↔ off = 6 ∧ ∃ payload, envelope = frame c payload := by
  constructor
  · intro h
    have hlen : ¬envelope.length < 6 := by
      intro hlt
      rw [unframe, if_pos hlt] at h
      cases h
    obtain ⟨head, v, t, payload, hhead, rfl⟩ : ∃ (head : Bytes) (v t : UInt8) (payload : Bytes),
        head.length = 4 ∧ envelope = head ++ v :: t :: payload := by
      match envelope, hlen with
      | x₁ :: x₂ :: x₃ :: x₄ :: v :: t :: payload, _ =>
        exact ⟨[x₁, x₂, x₃, x₄], v, t, payload, rfl, rfl⟩
    rw [unframe_append hhead] at h
    split_ifs at h with hm hv
    simp only [Outcome.bind_eq_ok, ShareCipher.fromTag_eq_ok] at h
    obtain ⟨cipher, rfl, hok⟩ := h
    cases hok
    simp only [not_not] at hm hv
    exact ⟨rfl, payload, by simp [frame, hm, hv]⟩
  · rintro ⟨rfl, payload, rfl⟩
    simpa [frame] using unframe_append magic_length version c.tag payload

lemma unframe_frame (c : ShareCipher) (payload : Bytes) : unframe (frame c payload) = .ok (c, 6) :=
  unframe_eq_ok.mpr ⟨rfl, payload, rfl⟩

/-- The payload of a frame starts where `unframe` says. -/
lemma sliceFrom_frame (c : ShareCipher) (payload : Bytes) :
    (Bytes.sliceFrom (frame c payload) 6 : Result Bytes) = .ok payload :=
  Bytes.sliceFrom_append (by simp [magic_length])

/-- The two low bytes of a length, the higher one first: `0x04 0x60` for 1120. -/
def u16Be (n : ℕ) : Bytes := [UInt8.ofNat ((n >>> 8) &&& 0xff), UInt8.ofNat (n &&& 0xff)]

def readU16Be (b : Bytes) (off : ℕ) : Result ℕ :=
  if off + 2 > b.length then .err (.decode "short xwing payload")
  else do
    let hi ← Bytes.index b off
    let lo ← Bytes.index b (off + 1)
    .ok ((hi.toNat <<< 8) ||| lo.toNat)

/-- Lengths of up to 16 bits are read back. -/
lemma readU16Be_u16Be {n : ℕ} (hn : n < 65536) (rest : Bytes) :
    readU16Be (u16Be n ++ rest) 0 = .ok n := by
  have hlen : ¬0 + 2 > (u16Be n ++ rest).length := by simp [u16Be]
  have hhi : (UInt8.ofNat ((n >>> 8) &&& 0xff)).toNat = n / 256 := by
    rw [UInt8.toNat_ofNat', Nat.shiftRight_eq_div_pow, Nat.and_two_pow_sub_one_eq_mod _ 8]
    omega
  have hlo : (UInt8.ofNat (n &&& 0xff)).toNat = n % 256 := by
    rw [UInt8.toNat_ofNat', Nat.and_two_pow_sub_one_eq_mod _ 8]
    omega
  have hor : (n / 256) <<< 8 ||| n % 256 = n := by
    rw [← Nat.shiftLeft_add_eq_or_of_lt (by omega), Nat.shiftLeft_eq]
    omega
  have h₀ : (Bytes.index (u16Be n ++ rest) 0 : Result UInt8) =
      .ok (UInt8.ofNat ((n >>> 8) &&& 0xff)) := rfl
  have h₁ : (Bytes.index (u16Be n ++ rest) (0 + 1) : Result UInt8) =
      .ok (UInt8.ofNat (n &&& 0xff)) := rfl
  rw [readU16Be, if_neg hlen, h₀, Outcome.ok_bind, h₁, Outcome.ok_bind, hhi, hlo, hor]

/-! ### Key blobs -/

def parseKeyBlob (raw : String) : Result (ShareCipher × Bytes) :=
  match Text.splitN 4 ':' (Text.trim raw) with
  | [kind, version, id, key] =>
    if kind ≠ "pock-key" ∨ version ≠ "v2" then
      .err (.decode "invalid key blob (expected pock-key:v2:...)")
    else do
      let cipher ← Outcome.okOr (.decode s!"unknown cipher in key blob: {id}")
        (ShareCipher.fromId id)
      let keyBytes ← unb64 P key
      .ok (cipher, keyBytes)
  | _ => .err (.decode "invalid key blob (expected pock-key:v2:...)")

def keyBlob (cipher : ShareCipher) (keyBytes : Bytes) : String :=
  "pock-key:v2:" ++ cipher.id ++ ":" ++ b64 keyBytes

variable {P}

/-- The texts that are read as a key blob. -/
lemma parseKeyBlob_eq_ok {raw : String} {c : ShareCipher} {key : Bytes} :
    parseKeyBlob P raw = .ok (c, key) ↔
      ∃ t, Text.trim raw = "pock-key:v2:" ++ c.id ++ ":" ++ t ∧ Text.trim t = b64 key := by
  have hjoin : ∀ t, "pock-key" ++ String.singleton ':' ++ ("v2" ++ String.singleton ':' ++
      (c.id ++ String.singleton ':' ++ t)) = "pock-key:v2:" ++ c.id ++ ":" ++ t := by
    intro t
    rw [← String.toList_inj]
    simp
  unfold parseKeyBlob
  constructor
  · intro h
    split at h
    · rename_i kind version id t hsplit
      split_ifs at h with hk
      simp only [Outcome.bind_eq_ok, Outcome.okOr_eq_ok, ShareCipher.fromId_eq_some, unb64,
        Outcome.ofExcept_eq_ok, P.urlSafeNoPad.decode_eq_ok] at h
      obtain ⟨cipher, rfl, keyBytes, ht, hok⟩ := h
      cases hok
      simp only [not_or, not_not] at hk
      obtain ⟨rfl, rfl⟩ := hk
      simp only [Text.splitN_eq_cons_cons] at hsplit
      obtain ⟨t₁, h₁, -, t₂, rfl, -, t₃, rfl, -, hl⟩ := hsplit
      cases hl
      exact ⟨t, h₁.trans (hjoin t), ht⟩
    · cases h
  · rintro ⟨t, ht, hkey⟩
    have hsplit : Text.splitN 4 ':' (Text.trim raw) = ["pock-key", "v2", c.id, t] := by
      simp only [Text.splitN_eq_cons_cons]
      exact ⟨_, ht.trans (hjoin t).symm, by decide, _, rfl, by decide, _, rfl,
        by cases c <;> decide, rfl⟩
    simp [hsplit, unb64, hkey, b64]

lemma noWhitespace_keyBlob (c : ShareCipher) (key : Bytes) :
    Text.NoWhitespace (keyBlob c key) := by
  simp only [keyBlob, Text.noWhitespace_append]
  exact ⟨⟨⟨by decide, c.noWhitespace_id⟩, by decide⟩, noWhitespace_b64 key⟩

/-- A key blob is read back, whatever white space is around it. -/
lemma parseKeyBlob_keyBlob {c : ShareCipher} {key : Bytes} {w₁ w₂ : String}
    (h₁ : Text.IsBlank w₁) (h₂ : Text.IsBlank w₂) :
    parseKeyBlob P (w₁ ++ keyBlob c key ++ w₂) = .ok (c, key) := by
  rw [parseKeyBlob_eq_ok, Text.trim_blank_append h₁ h₂ (noWhitespace_keyBlob c key)]
  exact ⟨b64 key, rfl, Text.trim_of_noWhitespace (noWhitespace_b64 key)⟩

/-! ### Encryption -/

variable (P)

/-- What `encrypt_share` draws: a symmetric key or an encapsulation seed and the coins of the
encapsulation, and a nonce. -/
structure ShareDraws where
  key : AeadKey
  kemSeed : ByteArr 32
  coins : Bytes
  nonce : Nonce

def encryptShare (bundle : Bundle) (cipher : ShareCipher) (draws : ShareDraws) :
    Result (Bytes × String) :=
  let data := P.bundleBytes.write bundle
  match cipher with
  | .xchacha =>
    let payload := Aead.sealBlob P draws.key data draws.nonce
    .ok (frame cipher payload, keyBlob cipher draws.key.toList)
  | .xwing => do
    let (sk, pk) := kemGenerate P draws.kemSeed
    let env := Envelope.sealTo P pk data draws.coins draws.nonce
    let kemCt ← unb64 P env.kemCt
    let aeadBlob ← unb64 P env.aead
    let payload := u16Be kemCt.length ++ kemCt ++ aeadBlob
    .ok (frame cipher payload, keyBlob cipher sk.toBytes)

/-! ### Decryption -/

/-- The bytes that a payload holds, which `decrypt_share` finds in a match on the cipher. -/
def openPayload (cipher : ShareCipher) (keyBytes payload : Bytes) : Result Bytes :=
  match cipher with
  | .xchacha => do
    let arr ← Outcome.okOr (.decode "xchacha key must be 32 bytes") (Bytes.tryInto 32 keyBytes)
    Aead.openBlob P arr payload
  | .xwing => do
    let kemLen ← readU16Be payload 0
    let kemEnd := 2 + kemLen
    if kemEnd > payload.length then .err (.decode "xwing kem_ct length out of range")
    else
      let kemCt ← Bytes.slice payload 2 kemEnd
      let aeadBlob ← Bytes.sliceFrom payload kemEnd
      let env : Envelope := { v := 1, kemCt := b64 kemCt, aead := b64 aeadBlob }
      let sk ← KemSecret.fromBytes keyBytes
      Envelope.openWith P sk env

def decryptShare (envelope : Bytes) (keyBlobStr : String) : Result Bundle := do
  let (envCipher, off) ← unframe envelope
  let (blobCipher, keyBytes) ← parseKeyBlob P keyBlobStr
  if envCipher ≠ blobCipher then .err (.decode "key blob cipher does not match envelope")
  else
    let payload ← Bytes.sliceFrom envelope off
    let data ← openPayload P envCipher keyBytes payload
    Outcome.ofExcept .decode (P.bundleBytes.read data)

end Share

/-! ### Flows -/

namespace Flows

variable (P : Primitives)

/-- The object that `encrypt_share` returns as JSON. -/
structure EncryptedShare where
  envelopeB64 : String
  keyBlob : String

def encryptShare (bundleJson cipherId : String) (draws : Share.ShareDraws) :
    Result EncryptedShare := do
  let bundle ← Outcome.ofExcept .json (P.bundleJson.read bundleJson)
  let cipher ← Outcome.okOr (.flow "unknown cipher id") (ShareCipher.fromId cipherId)
  let (envelope, keyBlob) ← Share.encryptShare P bundle cipher draws
  .ok { envelopeB64 := b64 envelope, keyBlob }

def decryptShare (envelopeB64 keyBlob : String) : Result String := do
  let envelope ← unb64 P envelopeB64
  let bundle ← Share.decryptShare P envelope keyBlob
  .ok (P.bundleJson.write bundle)

end Flows

end PockCore
