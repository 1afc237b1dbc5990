import PockCore.Crypto.Symmetric

/-!
# Backups

The module `backup`: a `.pockvault` file is a header, which records the salt and the cost of the
key derivation, and a sealed blob.
-/

namespace PockCore

namespace Backup

variable (P : Primitives)

def magic : Bytes := Bytes.ofString "POCKVLT\x01"

def info : Bytes := Bytes.ofString "pock/backup/v1"

def headerLen : ℕ := 8 + 16 + 12

def deriveKek (passphrase salt : Bytes) (profile : KdfProfile) : Result AeadKey := do
  let stretched ← Kdf.argon2id P passphrase salt profile
  .ok (Kdf.hkdfSha256 P stretched.toList [] info)

/-- The salt and the nonce are drawn. -/
def exportBackup (plaintext passphrase : Bytes) (salt : ByteArr 16) (nonce : Nonce) :
    Result Bytes := do
  let profile := KdfProfile.constrained
  let (m, t, p) := profile.params
  let kek ← deriveKek P passphrase salt.toList profile
  let blob := Aead.sealBlob P kek plaintext nonce
  .ok (magic ++ salt.toList ++ Bytes.toLeBytes m ++ Bytes.toLeBytes t ++ Bytes.toLeBytes p ++ blob)

/-- `u32::from_le_bytes(data[i..j].try_into().unwrap())`. -/
def readU32 (data : Bytes) (i j : ℕ) : Result UInt32 := do
  let word ← Bytes.slice data i j
  let arr ← Bytes.fromSlice 4 word
  .ok (Bytes.fromLeBytes arr)

/-- The profile that a header records. -/
def readProfile (params : UInt32 × UInt32 × UInt32) : Result KdfProfile :=
  if params = KdfProfile.native.params then .ok .native
  else if params = KdfProfile.constrained.params then .ok .constrained
  else .err (.decode "unknown backup KDF parameters")

def importBackup (data passphrase : Bytes) : Result Bytes :=
  if data.length < headerLen + 24 + 16 then .err (.decode "not a pock vault backup")
  else do
    let head ← Bytes.slice data 0 8
    if head ≠ magic then .err (.decode "not a pock vault backup")
    else
      let salt ← Bytes.slice data 8 24
      let m ← readU32 data 24 28
      let t ← readU32 data 28 32
      let p ← readU32 data 32 36
      let profile ← readProfile (m, t, p)
      let kek ← deriveKek P passphrase salt profile
      let blob ← Bytes.sliceFrom data headerLen
      Outcome.mapErr (fun _ => .wrongKey) (Aead.openBlob P kek blob)

end Backup

/-! ### Flows -/

namespace Flows

variable (P : Primitives)

def exportBackup (json passphrase : String) (salt : ByteArr 16) (nonce : Nonce) : Result Bytes :=
  Backup.exportBackup P (Bytes.ofString json) (Bytes.ofString passphrase) salt nonce

def importBackup (data : Bytes) (passphrase : String) : Result String := do
  let pt ← Outcome.mapErr (fun _ => .flow "wrong passphrase or corrupted backup")
    (Backup.importBackup P data (Bytes.ofString passphrase))
  Outcome.okOr (.flow (P.fromUtf8Error pt)) (Bytes.toString? pt)

end Flows

end PockCore
