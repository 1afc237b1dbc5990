import PockCore.Lib.Bytes

/-!
# Serialised structures

The structures that cross a JSON boundary, with the fields and the integer widths they have
there. What a text means as one of them is `serde_json`'s business and is a parameter of the
model (`Codec`).
-/

namespace PockCore

/-- Writing and reading a value as `M` (a JSON text, or its bytes). Writing cannot fail: no
type here has a map with keys that are not strings, which is the only thing `serde_json`
refuses to write. -/
structure Codec (M α : Type) where
  write : α → M
  read : M → Except String α
  read_write : ∀ a, read (write a) = .ok a

/-- The Account Unlock Key under one of its wraps. -/
structure WrappedAuk where
  v : UInt8
  method : String
  salt : String
  mKib : UInt32
  t : UInt32
  p : UInt32
  blob : String
  deriving Repr, DecidableEq

/-- A KEM ciphertext and the AEAD blob under the key derived from its shared secret. -/
structure Envelope where
  v : UInt8
  kemCt : String
  aead : String
  deriving Repr, DecidableEq

structure WrappedDek where
  recipient : String
  env : Envelope
  deriving Repr, DecidableEq

structure EncryptedItem where
  v : UInt8
  ciphertext : String
  wrappedDeks : List WrappedDek
  deriving Repr, DecidableEq

structure PublicIdentityBlob where
  v : UInt8
  sign : String
  kem : String
  deriving Repr, DecidableEq

structure EnvFile where
  name : String
  content : String
  deriving Repr, DecidableEq

structure Bundle where
  v : UInt8
  files : List EnvFile
  note : Option String
  name : Option String
  deriving Repr, DecidableEq

/-- A Root of Trust: the custodian keys that may co-sign a key certificate, and how many of
them a valid certificate needs. -/
structure Rot where
  custodians : List String
  threshold : UInt32
  deriving Repr, DecidableEq

/-- The JSON shape of a succession certificate. -/
structure CertJson where
  userId : String
  kemPubkey : String
  signPubkey : String
  rot : Rot
  principalSeq : UInt64
  ts : Int64
  deriving Repr, DecidableEq

/-- The JSON shape of a leaf of the key log. -/
structure LeafJson where
  userId : String
  kemPubkey : String
  signPubkey : String
  ts : Int64
  deriving Repr, DecidableEq

/-- The JSON shape of a Signed Tree Head. -/
structure SthJson where
  logId : String
  size : UInt64
  root : String
  ts : Int64
  deriving Repr, DecidableEq

end PockCore
