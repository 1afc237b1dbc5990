import PockCore.Decoders
import PockCore.Item.Flows
import PockCore.UniffiApi
import PockCore.Vault.Slots

/-!
# Categories of errors

A caller branches on the category of an error. What is parsed gives rise to some categories, what
is opened to another, and within the limits of the primitives nothing gives rise to the rest.
-/

namespace PockCore

inductive Category where
  | wrongCredential
  | invalidInput
  | json
  | encoding
  | other
  deriving Repr, DecidableEq

def PockCoreError.category : PockCoreError → Category
  | wrongCredential _ => .wrongCredential
  | invalidInput _ => .invalidInput
  | json _ => .json
  | encoding _ => .encoding
  | other _ => .other

/-- The texts of the `flow` errors that mean that the caller passed something malformed. -/
def CoreError.malformedMessages : List String :=
  ["unknown cipher id", "bad symmetric key length", "bad sign pubkey length",
    "bad signature length", "bad secret key", "bad amk length"]

/-- The error is one of those that calls return within the limits of the primitives. -/
def CoreError.Raised (P : Primitives) : CoreError → Prop
  | .aead | .kdf _ | .kem | .signature => False
  | .flow s => s ∈ wrongCredentialMessages ∨ s ∈ malformedMessages ∨ ∃ b, s = P.fromUtf8Error b
  | _ => True

/-- The error is one of those, and of one of these categories. -/
def Reports (P : Primitives) (cs : List Category) (e : CoreError) : Prop :=
  e.Raised P ∧ (PockCoreError.ofCoreError e).category ∈ cs

variable {P : Primitives} {cs : List Category}

/-! ### Errors -/

section Errors

variable {s : String}

lemma reports_decode (h : .encoding ∈ cs) (m : String) : Reports P cs (.decode m) := ⟨trivial, h⟩

lemma reports_encoding (h : .encoding ∈ cs) (m : String) : Reports P cs (.encoding m) :=
  ⟨trivial, h⟩

lemma reports_json (h : .json ∈ cs) (m : String) : Reports P cs (.json m) := ⟨trivial, h⟩

lemma reports_invalidInput (h : .invalidInput ∈ cs) (m : String) :
    Reports P cs (.invalidInput m) :=
  ⟨trivial, h⟩

lemma reports_wrongKey (h : .wrongCredential ∈ cs) : Reports P cs .wrongKey := ⟨trivial, h⟩

lemma reports_wrong (h : .wrongCredential ∈ cs) (hs : s ∈ CoreError.wrongCredentialMessages) :
    Reports P cs (.flow s) := by
  refine ⟨.inl hs, ?_⟩
  rw [PockCoreError.ofCoreError_flow_of_mem hs]
  exact h

lemma reports_malformed (h : .invalidInput ∈ cs) (hs : s ∈ CoreError.malformedMessages) :
    Reports P cs (.flow s) := by
  have hdisjoint : ∀ m ∈ CoreError.malformedMessages,
      m ∉ CoreError.wrongCredentialMessages := by decide
  refine ⟨.inr (.inl hs), ?_⟩
  rw [PockCoreError.ofCoreError, if_neg (hdisjoint s hs)]
  exact h

/-- Bytes that are not text are reported as malformed, unless their error has a text that is kept
for wrong credentials. -/
lemma reports_utf8 (hw : .wrongCredential ∈ cs) (hi : .invalidInput ∈ cs) (b : Bytes) :
    Reports P cs (.flow (P.fromUtf8Error b)) := by
  refine ⟨.inr (.inr ⟨b, rfl⟩), ?_⟩
  rw [PockCoreError.ofCoreError]
  split_ifs
  · exact hw
  · exact hi

end Errors

open Outcome

/-! ### Decoders -/

lemma within_unb64 (he : .encoding ∈ cs) (s : String) : Within (Reports P cs) (unb64 P s) :=
  within_ofExcept (reports_decode he) _

lemma Aead.within_openAad (he : .encoding ∈ cs) (hw : .wrongCredential ∈ cs) (key : AeadKey)
    (blob aad : Bytes) : Within (Reports P cs) (openAad P key blob aad) := by
  refine ⟨openAad_ne_panic, ?_⟩
  unfold openAad
  split_ifs
  · exact errIn_err (reports_decode he _)
  · refine (Bytes.errIn_splitAt _ _).bind fun parts => ?_
    exact (Bytes.errIn_fromSlice _ _).bind fun nonce => errIn_okOr (reports_wrongKey hw) _

lemma Identity.within_fromSecretBytes (he : .encoding ∈ cs) (b : Bytes) :
    Within (Reports P cs) (fromSecretBytes b) := by
  refine ⟨fromSecretBytes_ne_panic, ?_⟩
  unfold fromSecretBytes
  split_ifs
  · exact errIn_err (reports_decode he _)
  · refine (Bytes.errIn_splitAt _ _).bind fun parts => ?_
    refine (errIn_okOr (reports_decode he _) _).bind fun signArr => ?_
    exact (errIn_okOr (reports_decode he _) _).bind fun kem => errIn_ok _

lemma PublicIdentity.within_fromBlob (he : .encoding ∈ cs) (blob : PublicIdentityBlob) :
    Within (Reports P cs) (fromBlob P blob) := by
  unfold fromBlob
  split_ifs
  · exact within_err (reports_decode he _)
  · refine (within_unb64 he _).bind fun signBytes _ => ?_
    refine (within_okOr (reports_decode he _) _).bind fun sign _ => ?_
    refine (within_unb64 he _).bind fun kemBytes _ => ?_
    exact (within_okOr (reports_decode he _) _).bind fun kem _ => within_ok _

lemma KemCiphertext.within_fromBytes (he : .encoding ∈ cs) (b : Bytes) :
    Within (Reports P cs) (fromBytes b) := by
  refine ⟨fromBytes_ne_panic, ?_⟩
  unfold fromBytes
  split_ifs
  · exact errIn_err (reports_decode he _)
  · exact Bytes.errIn_fromSlice _ _

lemma Envelope.within_openWith (he : .encoding ∈ cs) (hw : .wrongCredential ∈ cs)
    (secret : KemSecret) (env : Envelope) : Within (Reports P cs) (openWith P secret env) := by
  unfold openWith
  split_ifs
  · exact within_err (reports_decode he _)
  · refine (within_unb64 he _).bind fun ctBytes _ => ?_
    refine (KemCiphertext.within_fromBytes he _).bind fun kemCt _ => ?_
    exact (within_unb64 he _).bind fun aead _ => Aead.within_openAad he hw _ _ _

lemma Item.within_decryptItem (he : .encoding ∈ cs) (hw : .wrongCredential ∈ cs)
    (item : EncryptedItem) (secret : KemSecret) (pk : KemPublic P) :
    Within (Reports P cs) (decryptItem item secret pk) := by
  have hdek : Within (Reports P cs) (recoverDek item secret pk) := by
    unfold recoverDek
    split_ifs
    · exact within_err (reports_decode he _)
    · refine (within_okOr (reports_wrongKey hw) _).bind fun wrapped _ => ?_
      refine (Envelope.within_openWith he hw _ _).bind fun dekBytes _ => ?_
      exact within_okOr (reports_decode he _) _
  refine hdek.bind fun dek _ => ?_
  exact (within_unb64 he _).bind fun ciphertext _ => Aead.within_openAad he hw _ _ _

namespace Share

lemma errIn_unframe (he : .encoding ∈ cs) (envelope : Bytes) :
    ErrIn (Reports P cs) (unframe envelope) := by
  unfold unframe
  split_ifs
  · exact errIn_err (reports_decode he _)
  · refine (Bytes.errIn_slice _ _ _).bind fun head => ?_
    split_ifs
    · exact errIn_err (reports_decode he _)
    · refine (Bytes.errIn_index _ _).bind fun v => ?_
      split_ifs
      · exact errIn_err (reports_decode he _)
      · refine (Bytes.errIn_index _ _).bind fun t => ErrIn.bind ?_ fun cipher => errIn_ok _
        unfold ShareCipher.fromTag
        split_ifs
        · exact errIn_ok _
        · exact errIn_ok _
        · exact errIn_err (reports_decode he _)

lemma errIn_parseKeyBlob (he : .encoding ∈ cs) (raw : String) :
    ErrIn (Reports P cs) (parseKeyBlob P raw) := by
  unfold parseKeyBlob
  split
  · split_ifs
    · exact errIn_err (reports_decode he _)
    · refine (errIn_okOr (reports_decode he _) _).bind fun cipher => ?_
      exact (errIn_ofExcept (reports_decode he) _).bind fun keyBytes => errIn_ok _
  · exact errIn_err (reports_decode he _)

lemma errIn_openPayload (he : .encoding ∈ cs) (hw : .wrongCredential ∈ cs) (cipher : ShareCipher)
    (key payload : Bytes) : ErrIn (Reports P cs) (openPayload P cipher key payload) := by
  cases cipher with
  | xchacha =>
    refine (errIn_okOr (reports_decode he _) _).bind fun arr => ?_
    exact (Aead.within_openAad he hw _ _ _).errIn
  | xwing =>
    have hlen : ErrIn (Reports P cs) (readU16Be payload 0) := by
      unfold readU16Be
      split_ifs
      · exact errIn_err (reports_decode he _)
      · refine (Bytes.errIn_index _ _).bind fun hi => ?_
        exact (Bytes.errIn_index _ _).bind fun lo => errIn_ok _
    refine hlen.bind fun kemLen => ?_
    dsimp only
    split_ifs
    · exact errIn_err (reports_decode he _)
    · refine (Bytes.errIn_slice _ _ _).bind fun kemCt => ?_
      refine (Bytes.errIn_sliceFrom _ _).bind fun aeadBlob => ?_
      refine (errIn_okOr (reports_decode he _) _).bind fun sk => ?_
      exact (Envelope.within_openWith he hw _ _).errIn

lemma within_decryptShare (he : .encoding ∈ cs) (hw : .wrongCredential ∈ cs) (envelope : Bytes)
    (keyBlob : String) : Within (Reports P cs) (decryptShare P envelope keyBlob) := by
  refine ⟨decryptShare_ne_panic, ?_⟩
  refine (errIn_unframe he _).bind fun frame => ?_
  refine (errIn_parseKeyBlob he _).bind fun key => ?_
  dsimp only
  split_ifs
  · exact errIn_err (reports_decode he _)
  · refine (Bytes.errIn_sliceFrom _ _).bind fun payload => ?_
    refine (errIn_openPayload he hw _ _ _).bind fun data => ?_
    exact errIn_ofExcept (reports_decode he) _

end Share

/-! ### Limits -/

/-- Argon2 takes every password of less than 4 GiB. -/
def Kdf.Accepts (P : Primitives) : Prop :=
  ∀ (profile : KdfProfile) (password : Bytes) (salt : ByteArr 16), password.length < 2 ^ 32 →
    ∃ d, Kdf.argon2id P password salt.toList profile = .ok d

/-- A new wrap under such a passphrase is made, without a panic. -/
lemma Auk.exists_wrapWithPassphrase (hK : Kdf.Accepts P) {passphrase : Bytes}
    (hlen : passphrase.length < 2 ^ 32) (auk : Auk) (secretKey : SecretKey) (profile : KdfProfile)
    (salt : ByteArr 16) (nonce : Nonce) :
    ∃ w, wrapWithPassphrase P auk passphrase secretKey profile salt nonce = .ok w := by
  obtain ⟨d, hd⟩ := hK profile passphrase salt hlen
  have hkek : derivePassphraseKek P passphrase salt.toList secretKey profile =
      .ok (Kdf.hkdfSha256 P d.toList secretKey.toList skdInfo) := by
    rw [derivePassphraseKek, hd, Outcome.ok_bind]
  exact ⟨_, wrapWithPassphrase_eq_ok.mpr ⟨_, hkek, rfl⟩⟩

lemma Nscrypto.within_aesEncrypt (hA : P.AesGcmSeals) {data : Bytes} (hlen : data.length ≤ 2 ^ 36)
    (key : ByteArr 32) (iv : ByteArr 12) : Within (Reports P cs) (aesEncrypt P key data iv) := by
  obtain ⟨ct, hct⟩ := hA key iv data [] hlen (by simp)
  rw [aesEncrypt, hct]
  exact within_ok _

lemma Nscrypto.within_unb64std (he : .encoding ∈ cs) (s : String) :
    Within (Reports P cs) (unb64std P s) := by
  unfold unb64std
  split
  · exact within_ok _
  · exact within_ofExcept (reports_encoding he) _

lemma Nscrypto.within_aesDecrypt (he : .encoding ∈ cs) (hi : .invalidInput ∈ cs)
    (hw : .wrongCredential ∈ cs) (key : ByteArr 32) (blob : String) :
    Within (Reports P cs) (aesDecrypt P key blob) := by
  refine ⟨aesDecrypt_ne_panic, ?_⟩
  refine (errIn_okOr (reports_invalidInput hi _) _).bind fun parts => ?_
  refine (within_unb64std he _).errIn.bind fun iv => ?_
  split_ifs
  · exact errIn_err (reports_invalidInput hi _)
  · refine (within_unb64std he _).errIn.bind fun ct => ?_
    refine (Bytes.errIn_fromSlice _ _).bind fun nonce => ?_
    exact errIn_okOr (reports_wrong hw (by decide)) _

/-! ### Flows -/

namespace Flows

lemma within_unb64 (he : .encoding ∈ cs) (s : String) : Within (Reports P cs) (unb64 P s) :=
  within_ofExcept (reports_encoding he) _

lemma within_readWrappedAuk (hj : .json ∈ cs) (json : String) :
    Within (Reports P cs) (readWrappedAuk P json) :=
  within_ofExcept (reports_json hj) _

lemma within_parseSk (he : .encoding ∈ cs) (hi : .invalidInput ∈ cs) (sk : String) :
    Within (Reports P cs) (parseSk P sk) :=
  (within_unb64 he sk).bind fun _ _ => within_okOr (reports_malformed hi (by decide)) _

lemma within_unlockAuk (hj : .json ∈ cs) (he : .encoding ∈ cs) (hi : .invalidInput ∈ cs)
    (hw : .wrongCredential ∈ cs) (p sk json : String) :
    Within (Reports P cs) (unlockAuk P p sk json) := by
  refine (within_readWrappedAuk hj json).bind fun w _ => ?_
  refine (within_parseSk he hi sk).bind fun key _ => ?_
  exact within_mapErr Auk.unwrapWithPassphrase_ne_panic fun _ => reports_wrong hw (by decide)

lemma within_aukFromPrf (hj : .json ∈ cs) (he : .encoding ∈ cs) (hw : .wrongCredential ∈ cs)
    (secret json : String) : Within (Reports P cs) (aukFromPrf P secret json) := by
  refine (within_readWrappedAuk hj json).bind fun w _ => ?_
  refine ((within_unb64 he secret).bind fun s _ => within_ok _).bind fun kek _ => ?_
  exact within_mapErr Auk.unwrapWithKek_ne_panic fun _ => reports_wrong hw (by decide)

lemma within_unwrapIdentity (he : .encoding ∈ cs) (hw : .wrongCredential ∈ cs) (auk : Auk)
    (wid : String) : Within (Reports P cs) (Auk.unwrapIdentity P auk wid) := by
  refine (PockCore.within_unb64 he wid).bind fun blob _ => ?_
  refine (Aead.within_openAad he hw _ _ _).bind fun secret _ => ?_
  exact Identity.within_fromSecretBytes he _

lemma within_unwrapSecret (he : .encoding ∈ cs) (hw : .wrongCredential ∈ cs) (auk : Auk)
    (s : String) : Within (Reports P cs) (Auk.unwrapSecret P auk s) :=
  (PockCore.within_unb64 he s).bind fun _ _ => Aead.within_openAad he hw _ _ _

lemma within_readRecipients (he : .encoding ∈ cs) (blobs : List PublicIdentityBlob) :
    Within (Reports P cs) (readRecipients P blobs) := by
  induction blobs with
  | nil => exact within_ok _
  | cons b blobs ih =>
    refine (PublicIdentity.within_fromBlob he b).bind fun pubid _ => ?_
    exact ih.bind fun recipients _ => within_ok _

lemma within_amkEnsureFromAuk (he : .encoding ∈ cs) (hi : .invalidInput ∈ cs)
    (hw : .wrongCredential ∈ cs) (auk : Auk) (existing : String) (seed : ByteArr 32)
    (nonce : Nonce) : Within (Reports P cs) (amkEnsureFromAuk P auk existing seed nonce) := by
  unfold amkEnsureFromAuk
  split_ifs
  · exact within_ok _
  · refine (within_unwrapSecret he hw auk existing).bind fun bytes _ => ?_
    refine (within_okOr (reports_malformed hi (by decide)) _).bind fun arr _ => ?_
    exact (within_ok _).bind fun s _ => within_ok _

lemma within_amkSignFromAuk (he : .encoding ∈ cs) (hi : .invalidInput ∈ cs)
    (hw : .wrongCredential ∈ cs) (auk : Auk) (amk : String) (msg : Bytes) :
    Within (Reports P cs) (amkSignFromAuk P auk amk msg) := by
  refine (within_unwrapSecret he hw auk amk).bind fun bytes _ => ?_
  refine (within_okOr (reports_malformed hi (by decide)) _).bind fun arr _ => ?_
  exact (within_ok _).bind fun s _ => within_ok _

lemma within_aeadKey (he : .encoding ∈ cs) (hi : .invalidInput ∈ cs) (key : String) :
    Within (Reports P cs) (aeadKey P key) :=
  (within_unb64 he key).bind fun _ _ => within_okOr (reports_malformed hi (by decide)) _

lemma within_nsUnb64 (he : .encoding ∈ cs) (s : String) : Within (Reports P cs) (nsUnb64 P s) := by
  unfold nsUnb64
  split
  · exact within_ok _
  · exact within_ofExcept (reports_encoding he) _

lemma within_deriveKey (he : .encoding ∈ cs) (p salt : String) :
    Within (Reports P cs) (Nscrypto.deriveKey P p salt) :=
  (Nscrypto.within_unb64std he salt).bind fun _ _ => within_ok _

lemma within_nkKey (hi : .invalidInput ∈ cs) (nk : Bytes) :
    Within (Reports P cs) (Nscrypto.nkKey nk) :=
  within_okOr (reports_invalidInput hi _) _

end Flows

end PockCore
