import PockCore.Lib.Machine
import PockCore.Vault.Wraps

/-!
# The account over its life

An account is what the caller stores of it, with the credentials that go with it. A step is a
call of one of the flows that re-wrap, on the stored texts; what a successful call returns takes
the place of what was stored, and a failed call changes nothing.
-/

namespace PockCore

/-- A passkey and the wrap it was enrolled with. -/
structure Enrolment where
  prfSecretB64 : String
  wrapped : String

/-- The stored texts and the credentials that go with them. -/
structure Account where
  wrappedAukPassphrase : String
  wrappedAukRecovery : String
  prfs : List Enrolment
  wrappedIdentity : String
  /-- Empty as long as there is no Account Master Key. -/
  wrappedAmk : String
  passphrase : String
  secretKey : String
  recoveryCode : String
  identitySecretB64 : String
  signPubkey : String
  kemPubkey : String
  amkPub : String

/-- The calls, with the credentials that are presented, right or wrong, and what is drawn. -/
inductive Op where
  | changePassphrase (oldPassphrase secretKeyB64 newPassphrase : String) (salt : ByteArr 16)
    (nonce : Nonce)
  | resetPassphrase (recoveryCode secretKeyB64 newPassphrase : String) (salt : ByteArr 16)
    (nonce : Nonce)
  | rotateSecretKey (passphrase oldSecretKeyB64 : String) (newSk salt : ByteArr 16)
    (nonce : Nonce)
  | rotateRecoveryCode (passphrase secretKeyB64 : String) (rb : ByteArr 20) (nonce : Nonce)
  | rotateIdentity (passphrase secretKeyB64 : String) (signSeed kemSeed : ByteArr 32)
    (nonce : Nonce)
  | enrollPrf (passphrase secretKeyB64 prfSecretB64 : String) (nonce : Nonce)
  | amkEnsure (passphrase secretKeyB64 : String) (seed : ByteArr 32) (nonce : Nonce)
  /-- On the wrap of the `i`-th enrolment. -/
  | amkEnsurePrf (i : ℕ) (prfSecretB64 : String) (seed : ByteArr 32) (nonce : Nonce)

namespace Account

variable (P : Primitives)

/-- The account of a new vault. -/
def created (passphrase : String) (out : Flows.CreatedVault) : Account where
  wrappedAukPassphrase := P.wrappedAukJson.write out.wrappedAukPassphrase
  wrappedAukRecovery := P.wrappedAukJson.write out.wrappedAukRecovery
  prfs := []
  wrappedIdentity := out.wrappedIdentity
  wrappedAmk := ""
  passphrase := passphrase
  secretKey := out.secretKey
  recoveryCode := out.recoveryCode
  identitySecretB64 := out.identitySecretB64
  signPubkey := out.signPubkey
  kemPubkey := out.kemPubkey
  amkPub := ""

/-- The account after a call. -/
def step (a : Account) : Op → Account
  | .changePassphrase oldPassphrase secretKeyB64 newPassphrase salt nonce =>
    match Flows.changePassphrase P oldPassphrase secretKeyB64 a.wrappedAukPassphrase newPassphrase
        salt nonce with
    | .ok out =>
      { a with
        wrappedAukPassphrase := P.wrappedAukJson.write out.wrappedAukPassphrase
        passphrase := newPassphrase }
    | _ => a
  | .resetPassphrase recoveryCode secretKeyB64 newPassphrase salt nonce =>
    match Flows.resetPassphrase P recoveryCode a.wrappedAukRecovery secretKeyB64 newPassphrase salt
        nonce with
    | .ok out =>
      { a with
        wrappedAukPassphrase := P.wrappedAukJson.write out.wrappedAukPassphrase
        passphrase := newPassphrase
        secretKey := secretKeyB64 }
    | _ => a
  | .rotateSecretKey passphrase oldSecretKeyB64 newSk salt nonce =>
    match Flows.rotateSecretKey P passphrase oldSecretKeyB64 a.wrappedAukPassphrase newSk salt
        nonce with
    | .ok out =>
      { a with
        wrappedAukPassphrase := P.wrappedAukJson.write out.wrappedAukPassphrase
        secretKey := out.secretKey }
    | _ => a
  | .rotateRecoveryCode passphrase secretKeyB64 rb nonce =>
    match Flows.rotateRecoveryCode P passphrase secretKeyB64 a.wrappedAukPassphrase rb nonce with
    | .ok out =>
      { a with
        wrappedAukRecovery := P.wrappedAukJson.write out.wrappedAukRecovery
        recoveryCode := out.recoveryCode }
    | _ => a
  | .rotateIdentity passphrase secretKeyB64 signSeed kemSeed nonce =>
    match Flows.rotateIdentity P passphrase secretKeyB64 a.wrappedAukPassphrase a.wrappedIdentity
        signSeed kemSeed nonce with
    | .ok out =>
      { a with
        wrappedIdentity := out.wrappedIdentity
        identitySecretB64 := out.identitySecretB64
        signPubkey := out.signPubkey
        kemPubkey := out.kemPubkey }
    | _ => a
  | .enrollPrf passphrase secretKeyB64 prfSecretB64 nonce =>
    match Flows.enrollPrf P passphrase secretKeyB64 a.wrappedAukPassphrase prfSecretB64 nonce with
    | .ok wrapped => { a with prfs := a.prfs ++ [⟨prfSecretB64, wrapped⟩] }
    | _ => a
  | .amkEnsure passphrase secretKeyB64 seed nonce =>
    match Flows.amkEnsure P passphrase secretKeyB64 a.wrappedAukPassphrase a.wrappedAmk seed
        nonce with
    | .ok out => { a with wrappedAmk := out.wrappedAmk, amkPub := out.amkPub }
    | _ => a
  | .amkEnsurePrf i prfSecretB64 seed nonce =>
    match a.prfs[i]? with
    | none => a
    | some e =>
      match Flows.amkEnsurePrf P prfSecretB64 e.wrapped a.wrappedAmk seed nonce with
      | .ok out => { a with wrappedAmk := out.wrappedAmk, amkPub := out.amkPub }
      | _ => a

/-! ### Runs -/

/-- What a new passphrase wrap derives its key from. -/
def rewrapInputs (newPassphrase secretKeyB64 : String) (salt : ByteArr 16) : Set KekInput :=
  {i | ∃ secretKey, Flows.parseSk P secretKeyB64 = .ok secretKey ∧
    i = .passphrase (Bytes.ofString newPassphrase) salt.toList .constrained secretKey}

/-- What a call derives keys from. -/
def inputs (a : Account) : Op → Set KekInput
  | .changePassphrase oldPassphrase secretKeyB64 newPassphrase salt _ =>
    Flows.passphraseInputs P oldPassphrase secretKeyB64 a.wrappedAukPassphrase ∪
      rewrapInputs P newPassphrase secretKeyB64 salt
  | .resetPassphrase recoveryCode secretKeyB64 newPassphrase salt _ =>
    {Flows.recoveryInput recoveryCode} ∪ rewrapInputs P newPassphrase secretKeyB64 salt
  | .rotateSecretKey passphrase oldSecretKeyB64 newSk salt _ =>
    Flows.passphraseInputs P passphrase oldSecretKeyB64 a.wrappedAukPassphrase ∪
      {.passphrase (Bytes.ofString passphrase) salt.toList .constrained newSk}
  | .rotateRecoveryCode passphrase secretKeyB64 rb _ =>
    Flows.passphraseInputs P passphrase secretKeyB64 a.wrappedAukPassphrase ∪
      {.recovery (Bytes.ofString (b64 rb.toList))}
  | .rotateIdentity passphrase secretKeyB64 _ _ _ =>
    Flows.passphraseInputs P passphrase secretKeyB64 a.wrappedAukPassphrase
  | .enrollPrf passphrase secretKeyB64 prfSecretB64 _ =>
    Flows.passphraseInputs P passphrase secretKeyB64 a.wrappedAukPassphrase ∪
      Flows.prfInputs P prfSecretB64
  | .amkEnsure passphrase secretKeyB64 _ _ =>
    Flows.passphraseInputs P passphrase secretKeyB64 a.wrappedAukPassphrase
  | .amkEnsurePrf _ prfSecretB64 _ _ => Flows.prfInputs P prfSecretB64

/-- What the creation of a vault derives keys from. -/
def createdInputs (passphrase : String) (draws : Flows.VaultDraws) (out : Flows.CreatedVault) :
    Set KekInput :=
  {.passphrase (Bytes.ofString passphrase) draws.salt.toList out.wrappedAukPassphrase.profile
      draws.secretKey,
    .recovery (Bytes.ofString (b64 draws.rb.toList))}

/-- The accounts, from creation on, in runs whose key derivations are all from `I`. -/
def machine (I : Set KekInput) : Machine Account Op where
  init a := ∃ passphrase profileId draws out,
    Flows.createVaultProfile P passphrase profileId draws = .ok out ∧
      createdInputs passphrase draws out ⊆ I ∧ a = created P passphrase out
  step a op a' := inputs P a op ⊆ I ∧ a' = step P a op

end Account

/-! ### What an account is for -/

/-- The credentials of an account, and the identity they give access to. -/
structure Credentials where
  passphrase : String
  secretKey : SecretKey
  recoveryCode : String
  prfSecrets : List Bytes
  identity : Identity

namespace Credentials

/-- A call is refused, or current credentials authorise it and it does what it says. -/
inductive Step : Credentials → Op → Credentials → Prop where
  | refused (c : Credentials) (op : Op) : Step c op c
  | changePassphrase (c : Credentials) (newPassphrase : String) (salt : ByteArr 16)
      (nonce : Nonce) :
      Step c (.changePassphrase c.passphrase (b64 c.secretKey.toList) newPassphrase salt nonce)
        { c with passphrase := newPassphrase }
  | resetPassphrase (c : Credentials) {recoveryCode : String} (newPassphrase : String)
      (secretKey : SecretKey) (salt : ByteArr 16) (nonce : Nonce)
      (h : Text.trim recoveryCode = c.recoveryCode) :
      Step c (.resetPassphrase recoveryCode (b64 secretKey.toList) newPassphrase salt nonce)
        { c with passphrase := newPassphrase, secretKey := secretKey }
  | rotateSecretKey (c : Credentials) (newSk salt : ByteArr 16) (nonce : Nonce) :
      Step c (.rotateSecretKey c.passphrase (b64 c.secretKey.toList) newSk salt nonce)
        { c with secretKey := newSk }
  | rotateRecoveryCode (c : Credentials) (rb : ByteArr 20) (nonce : Nonce) :
      Step c (.rotateRecoveryCode c.passphrase (b64 c.secretKey.toList) rb nonce)
        { c with recoveryCode := b64 rb.toList }
  | rotateIdentity (c : Credentials) (signSeed kemSeed : ByteArr 32) (nonce : Nonce) :
      Step c (.rotateIdentity c.passphrase (b64 c.secretKey.toList) signSeed kemSeed nonce)
        { c with identity := Identity.generate signSeed kemSeed }
  | enrollPrf (c : Credentials) (secret : Bytes) (nonce : Nonce) :
      Step c (.enrollPrf c.passphrase (b64 c.secretKey.toList) (b64 secret) nonce)
        { c with prfSecrets := c.prfSecrets ++ [secret] }

/-- Credentials over the life of an account: no call but with current ones changes anything. -/
def machine : Machine Credentials Op where
  init c := c.prfSecrets = []
  step := Step

end Credentials

end PockCore
