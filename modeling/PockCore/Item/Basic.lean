import PockCore.Crypto.Asymmetric

/-!
# Envelopes and encrypted items

The modules `envelope` and `item`. An envelope is a message for one public key; an item is a
value under a data key, with an envelope of that data key for each recipient.
-/

namespace PockCore

namespace Envelope

variable (P : Primitives)

def info : Bytes := Bytes.ofString "pock/envelope/v1"

/-- The AEAD key of a shared secret, salted with the KEM ciphertext. -/
def key (shared : ByteArr 32) (kemCt : KemCiphertext) : AeadKey :=
  Kdf.hkdfSha256 P shared.toList kemCt.asBytes info

def sealTo (recipient : KemPublic P) (plaintext : Bytes) (coins : Bytes) (nonce : Nonce) :
    Envelope :=
  let (kemCt, shared) := recipient.encapsulate coins
  let aead := Aead.sealBlob P (key P shared kemCt) plaintext nonce
  { v := 1, kemCt := b64 kemCt.asBytes, aead := b64 aead }

def openWith (secret : KemSecret) (env : Envelope) : Result Bytes :=
  if env.v ≠ 1 then .err (.decode s!"unsupported envelope version: {env.v}")
  else do
    let ctBytes ← unb64 P env.kemCt
    let kemCt ← KemCiphertext.fromBytes ctBytes
    let shared := secret.decapsulate P kemCt
    let aead ← unb64 P env.aead
    Aead.openBlob P (key P shared kemCt) aead

/-- Distinct shared secrets give distinct keys under one KEM ciphertext. -/
def KeyInj : Prop :=
  ∀ shared shared' kemCt, key P shared kemCt = key P shared' kemCt → shared = shared'

variable {P}

/-- An honest envelope is opened with the key of what the secret decapsulates. -/
lemma openWith_sealTo_eq (secret : KemSecret) (recipient : KemPublic P) (plaintext coins : Bytes)
    (nonce : Nonce) :
    openWith P secret (sealTo P recipient plaintext coins nonce) =
      Aead.openBlob P (key P (secret.decapsulate P (recipient.encapsulate coins).1)
          (recipient.encapsulate coins).1)
        (Aead.sealBlob P (key P (recipient.encapsulate coins).2 (recipient.encapsulate coins).1)
          plaintext nonce) := by
  simp [openWith, sealTo]

/-- The matching secret opens an envelope to its message. -/
lemma openWith_sealTo (hC : P.XchachaCorrect) (hK : P.KemCorrect) (secret : KemSecret)
    (plaintext coins : Bytes) (nonce : Nonce) :
    openWith P secret (sealTo P (secret.encapsulationKey P) plaintext coins nonce) =
      .ok plaintext := by
  have hshared : secret.decapsulate P ((secret.encapsulationKey P).encapsulate coins).1 =
      ((secret.encapsulationKey P).encapsulate coins).2 := hK secret coins
  rw [openWith_sealTo_eq, hshared, Aead.openBlob_sealBlob hC]

/-- Any other secret is refused. -/
lemma openWith_sealTo_of_ne (hX : P.XchachaCommits) (hR : P.KemRejects) (hE : KeyInj P)
    {secret : KemSecret} {recipient : KemPublic P} (hne : secret.encapsulationKey P ≠ recipient)
    (plaintext coins : Bytes) (nonce : Nonce) :
    openWith P secret (sealTo P recipient plaintext coins nonce) = .err .wrongKey := by
  rw [openWith_sealTo_eq]
  exact Aead.openBlob_sealBlob_of_ne hX (fun h => hR secret recipient coins hne (hE _ _ _ h)) _ _

end Envelope

namespace Item

variable {P : Primitives}

/-- A recipient is known by the serialised public key. -/
def recipientId (pk : KemPublic P) : String := b64 pk.asBytes

/-- What the encapsulation and the AEAD of one wrap draw. -/
structure WrapDraws where
  coins : Bytes
  nonce : Nonce

def wrapDek (pk : KemPublic P) (dek : AeadKey) (draws : WrapDraws) : WrappedDek where
  recipient := recipientId pk
  env := Envelope.sealTo P pk dek.toList draws.coins draws.nonce

/-- The data key and its nonce are drawn, and for each recipient what its wrap draws. -/
def encryptItem (value : Bytes) (recipients : List (KemPublic P)) (dek : AeadKey) (nonce : Nonce)
    (draws : ℕ → WrapDraws) : Result EncryptedItem :=
  if recipients.isEmpty then .err (.invalidInput "at least one recipient required")
  else
    let ciphertext := Aead.sealBlob P dek value nonce
    .ok { v := 1, ciphertext := b64 ciphertext,
          wrappedDeks := recipients.mapIdx fun i pk => wrapDek pk dek (draws i) }

def recoverDek (item : EncryptedItem) (secret : KemSecret) (pub : KemPublic P) :
    Result AeadKey :=
  if item.v ≠ 1 then .err (.decode s!"unsupported item version: {item.v}")
  else do
    let id := recipientId pub
    let wrapped ← Outcome.okOr .wrongKey (item.wrappedDeks.find? fun w => w.recipient = id)
    let dekBytes ← Envelope.openWith P secret wrapped.env
    Outcome.okOr (.decode "dek len") (Bytes.tryInto 32 dekBytes)

def decryptItem (item : EncryptedItem) (secret : KemSecret) (pub : KemPublic P) :
    Result Bytes := do
  let dek ← recoverDek item secret pub
  let ciphertext ← unb64 P item.ciphertext
  Aead.openBlob P dek ciphertext

/-- The result of the call, and the item after it, which it is given by reference. -/
def grant (item : EncryptedItem) (openerSecret : KemSecret) (openerPublic : KemPublic P)
    (newRecipient : KemPublic P) (draws : WrapDraws) : Result Unit × EncryptedItem :=
  match recoverDek item openerSecret openerPublic with
  | .ok dek =>
    (.ok (), { item with wrappedDeks := item.wrappedDeks ++ [wrapDek newRecipient dek draws] })
  | .err e => (.err e, item)
  | .panic => (.panic, item)

end Item

end PockCore
