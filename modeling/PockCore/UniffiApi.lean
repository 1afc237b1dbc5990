import PockCore.Error

/-!
# Errors at the binding boundary

The module `uniffi_api` forwards every call to the flow of its name and converts the error to a
coarse category, which keeps the text of the error.
-/

namespace PockCore

inductive PockCoreError where
  | wrongCredential (message : String)
  | invalidInput (message : String)
  | json (message : String)
  | encoding (message : String)
  | other (message : String)
  deriving Repr, DecidableEq

namespace PockCoreError

/-- `From<CoreError>`. -/
def ofCoreError (e : CoreError) : PockCoreError :=
  let message := e.toText
  match e with
  | .aead => wrongCredential message
  | .wrongKey => wrongCredential message
  | .decode _ => encoding message
  | .encoding _ => encoding message
  | .json _ => json message
  | .invalidInput _ => invalidInput message
  | .kdf _ => other message
  | .kem => other message
  | .signature => other message
  | .flow s =>
    if s ∈ CoreError.wrongCredentialMessages then wrongCredential message
    else invalidInput message

def message : PockCoreError → String
  | wrongCredential message | invalidInput message | json message | encoding message
  | other message => message

/-- The conversion keeps the text. -/
@[simp] lemma message_ofCoreError (e : CoreError) : (ofCoreError e).message = e.toText := by
  cases e with
  | flow s =>
    rw [ofCoreError]
    split_ifs <;> rfl
  | _ => rfl

lemma ofCoreError_flow_of_mem {s : String} (h : s ∈ CoreError.wrongCredentialMessages) :
    ofCoreError (.flow s) = wrongCredential s :=
  if_pos h

end PockCoreError

/-- The call fails with an error that the binding reports as a wrong credential, with its text
unchanged. -/
def IsWrongCredential {α : Type} (x : Result α) : Prop :=
  ∃ e, x = .err e ∧ PockCoreError.ofCoreError e = .wrongCredential e.toText

namespace IsWrongCredential

variable {α β : Type}

lemma of_flow {s : String} (h : s ∈ CoreError.wrongCredentialMessages) :
    IsWrongCredential (.err (.flow s) : Result α) :=
  ⟨_, rfl, PockCoreError.ofCoreError_flow_of_mem h⟩

lemma wrongKey : IsWrongCredential (.err .wrongKey : Result α) := ⟨_, rfl, rfl⟩

/-- A wrong credential of the first call is one of the chain. -/
lemma bind {x : Result α} (h : IsWrongCredential x) (f : α → Result β) :
    IsWrongCredential (x >>= f) := by
  obtain ⟨e, rfl, he⟩ := h
  exact ⟨e, rfl, he⟩

end IsWrongCredential

end PockCore
