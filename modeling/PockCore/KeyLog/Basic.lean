import PockCore.Crypto.Asymmetric
import PockCore.Lib.Counting
import PockCore.Lib.Text

/-!
# Key-transparency encodings and certificates

The canonical bytes of the key log and the k-of-n verification of a succession certificate.
The encodings are frozen: a domain tag, then fields separated by newlines, numbers in plain
decimal. No field is escaped or checked.
-/

namespace PockCore

namespace KeyLog

variable (P : Primitives)

/-- The transparency log that the encodings belong to. -/
def logId : String := "pock.sh/keylog/v1"

/-! ### Canonical bytes -/

/-- `"custodian1,custodian2|threshold"`. -/
def canonicalRot (rot : Rot) : String :=
  ",".intercalate rot.custodians ++ "|" ++ Nat.repr rot.threshold.toNat

def leafText (userId kemPubkey signPubkey : String) (ts : Int64) : String :=
  "pock-keylog-v1" ++ "\n" ++ userId ++ "\n" ++ kemPubkey ++ "\n" ++ signPubkey ++ "\n" ++
    Int.repr ts.toInt

def sthText (logId : String) (size : UInt64) (rootHex : String) (ts : Int64) : String :=
  "pock-sth-v1" ++ "\n" ++ logId ++ "\n" ++ Nat.repr size.toNat ++ "\n" ++ rootHex ++ "\n" ++
    Int.repr ts.toInt

def certText (userId kemPubkey signPubkey : String) (rot : Rot) (principalSeq : UInt64)
    (ts : Int64) : String :=
  "pock-keycert-v1" ++ "\n" ++ userId ++ "\n" ++ kemPubkey ++ "\n" ++ signPubkey ++ "\n" ++
    canonicalRot rot ++ "\n" ++ Nat.repr principalSeq.toNat ++ "\n" ++ Int.repr ts.toInt

/-- The bytes hashed into a Merkle leaf. -/
def leafBytes (userId kemPubkey signPubkey : String) (ts : Int64) : Bytes :=
  Bytes.ofString (leafText userId kemPubkey signPubkey ts)

/-- The bytes the log operator signs. -/
def sthMessage (logId : String) (size : UInt64) (rootHex : String) (ts : Int64) : Bytes :=
  Bytes.ofString (sthText logId size rootHex ts)

/-- The bytes the custodians sign. -/
def certBytes (userId kemPubkey signPubkey : String) (rot : Rot) (principalSeq : UInt64)
    (ts : Int64) : Bytes :=
  Bytes.ofString (certText userId kemPubkey signPubkey rot principalSeq ts)

/-! ### The Merkle tree -/

/-- The hash of a leaf. -/
def hashLeaf (d : Bytes) : ByteArr 32 := P.sha256 ([0x00] ++ d)

/-- The hash of an inner node. Nothing checks that the two labels are digests. -/
def hashChildren (l r : Bytes) : ByteArr 32 := P.sha256 ([0x01] ++ l ++ r)

/-! ### Certificates -/

/-- One character of the URL-safe dialect as one of the standard dialect. -/
def toStandard : Char → Char
  | '-' => '+'
  | '_' => '/'
  | other => other

/-- Decodes both base64 dialects, padded or not. -/
def b64Any (s : String) : Option Bytes :=
  let std := s.toList.map toStandard
  let trimmed := String.ofList (std.rdropWhile (· = '='))
  (P.standardNoPad.decode trimmed).toOption

/-- The test of one signature string in the search of `verify_cert`. -/
def sigVerifies (certBytes : Bytes) (pk : P.VerifyingKey) (s : String) : Bool :=
  match b64Any P s with
  | none => false
  | some sigBytes =>
    match Bytes.tryInto 64 sigBytes with
    | none => false
    | some sigArr => P.ed25519Verify pk certBytes sigArr

/-- What `verify_cert` does with a custodian string it has not seen: whether it counts. -/
def custodianSigned (certBytes : Bytes) (sigs : List String) (pub : String) : Bool :=
  match b64Any P pub with
  | none => false
  | some pkBytes =>
    match Bytes.tryInto 32 pkBytes with
    | none => false
    | some pkArr =>
      match P.verifyingKeyFromBytes pkArr with
      | none => false
      | some pk => sigs.any (sigVerifies P certBytes pk)

/-- k-of-n verification of a succession certificate. The loop remembers the custodian strings
it has seen. The counter is a `u32`. -/
def verifyCert (certBytes : Bytes) (sigs custodians : List String) (threshold : UInt32) : Bool :=
  if threshold < 1 then false
  else
    let (_, count) := custodians.foldl
      (Counting.visit (custodianSigned P certBytes sigs) (· + 1)) (∅, (0 : UInt32))
    decide (threshold ≤ count)

end KeyLog

namespace Flows

variable (P : Primitives)

/-- Canonical bytes of a succession certificate, from its JSON. -/
def certBytesJson (certJson : String) : Result Bytes := do
  let c ← Outcome.ofExcept .json (P.certFromJson certJson)
  .ok (KeyLog.certBytes c.userId c.kemPubkey c.signPubkey c.rot c.principalSeq c.ts)

/-- Canonical bytes of a log leaf, from its JSON. What a text means as one is a parameter. -/
def leafBytesJson (leafFromJson : String → Except String LeafJson) (leafJson : String) :
    Result Bytes := do
  let l ← Outcome.ofExcept .json (leafFromJson leafJson)
  .ok (KeyLog.leafBytes l.userId l.kemPubkey l.signPubkey l.ts)

/-- Canonical bytes of a Signed Tree Head, from its JSON. -/
def sthMessageJson (sthFromJson : String → Except String SthJson) (sthJson : String) :
    Result Bytes := do
  let s ← Outcome.ofExcept .json (sthFromJson sthJson)
  .ok (KeyLog.sthMessage s.logId s.size s.root s.ts)

def verifyCertJson (certJson sigsJson custodiansJson : String) (threshold : UInt32) :
    Result Bool := do
  let bytes ← certBytesJson P certJson
  let sigs ← Outcome.ofExcept .json (P.stringsFromJson sigsJson)
  let custodians ← Outcome.ofExcept .json (P.stringsFromJson custodiansJson)
  .ok (KeyLog.verifyCert P bytes sigs custodians threshold)

end Flows

end PockCore
