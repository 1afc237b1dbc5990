import PockCore.Crypto.Primitives

/-!
# Namespace protection

The module `nscrypto`: a namespace key protects values, and is itself wrapped under a key that is
derived from a passphrase. A protected value is a text of two parts in standard base64, an
initialisation vector and a ciphertext, that a prefix marks.
-/

namespace PockCore

namespace Nscrypto

variable (P : Primitives)

def protectedPrefix : String := "pns1."

/-- The base64 of this module: standard, with padding. -/
def b64std (b : Bytes) : String := Base64.encodePad Base64.standard b

/-- Padding is optional: the unpadded decoder is tried second, and its error is the one shown. -/
def unb64std (s : String) : Result Bytes :=
  match P.standard.decode s with
  | .ok b => .ok b
  | .error _ => Outcome.ofExcept .encoding (P.standardNoPad.decode s)

/-- The initialisation vector is drawn. -/
def aesEncrypt (key : ByteArr 32) (data : Bytes) (iv : ByteArr 12) : Result String := do
  let ct ← Outcome.okOr .aead (P.aesGcmEncrypt key iv data [])
  .ok (b64std iv.toList ++ "." ++ b64std ct)

def aesDecrypt (key : ByteArr 32) (blob : String) : Result Bytes := do
  let (ivB64, ctB64) ←
    Outcome.okOr (.invalidInput "malformed pns1 blob") (Text.splitOnce '.' blob)
  let iv ← unb64std P ivB64
  if iv.length ≠ 12 then .err (.invalidInput "malformed pns1 blob")
  else
    let ct ← unb64std P ctB64
    let nonce ← Bytes.fromSlice 12 iv
    Outcome.okOr (.flow "wrong namespace passphrase") (P.aesGcmDecrypt key nonce ct [])

/-! ### The namespace key -/

def pbkdf2Iters : UInt32 := 600000

def deriveKey (passphrase saltB64 : String) : Result (ByteArr 32) := do
  let salt ← unb64std P saltB64
  .ok (P.pbkdf2 (Bytes.ofString passphrase) salt pbkdf2Iters)

def wrapNk (nk : Bytes) (passphrase saltB64 : String) (iv : ByteArr 12) : Result String := do
  let key ← deriveKey P passphrase saltB64
  aesEncrypt P key nk iv

def unwrapNk (wrapped passphrase saltB64 : String) : Result Bytes := do
  let key ← deriveKey P passphrase saltB64
  aesDecrypt P key wrapped

/-- What the audit log shows in the place of a namespace key. -/
def nkHash (nk : Bytes) : String := b64std (P.sha256 nk).toList

/-! ### Values -/

def nkKey (nk : Bytes) : Result (ByteArr 32) :=
  Outcome.okOr (.invalidInput "namespace key must be 32 bytes") (Bytes.tryInto 32 nk)

def protectValue (nk : Bytes) (value : String) (iv : ByteArr 12) : Result String := do
  let key ← nkKey nk
  let blob ← aesEncrypt P key (Bytes.ofString value) iv
  .ok (protectedPrefix ++ blob)

def unprotectValue (nk : Bytes) (blob : String) : Result String := do
  let key ← nkKey nk
  let body := (Text.stripPrefix protectedPrefix blob).getD blob
  let pt ← aesDecrypt P key body
  Outcome.okOr (.flow (P.fromUtf8Error pt)) (Bytes.toString? pt)

def isProtectedBlob (blob : String) : Bool := Text.startsWith protectedPrefix blob

end Nscrypto

/-! ### Flows -/

namespace Flows

variable (P : Primitives)

def nsB64 (b : Bytes) : String := Base64.encodePad Base64.standard b

def nsUnb64 (s : String) : Result Bytes :=
  match P.standard.decode s with
  | .ok b => .ok b
  | .error _ => Outcome.ofExcept .encoding (P.standardNoPad.decode s)

def nsWrapNk (nkB64 passphrase saltB64 : String) (iv : ByteArr 12) : Result String := do
  let nk ← nsUnb64 P nkB64
  Nscrypto.wrapNk P nk passphrase saltB64 iv

def nsUnwrapNk (wrapped passphrase saltB64 : String) : Result String := do
  let nk ← Nscrypto.unwrapNk P wrapped passphrase saltB64
  .ok (nsB64 nk)

def nsProtectValue (nkB64 value : String) (iv : ByteArr 12) : Result String := do
  let nk ← nsUnb64 P nkB64
  Nscrypto.protectValue P nk value iv

def nsUnprotectValue (nkB64 blob : String) : Result String := do
  let nk ← nsUnb64 P nkB64
  Nscrypto.unprotectValue P nk blob

def nsNkHash (nkB64 : String) : Result String := do
  let nk ← nsUnb64 P nkB64
  .ok (Nscrypto.nkHash P nk)

def nsIsProtected (blob : String) : Bool := Nscrypto.isProtectedBlob blob

end Flows

end PockCore
