import Mathlib.Data.Set.Basic
import PockCore.Lib.Outcome

/-!
# Lockboxes

A box is opened with a key, and keys are derived from credentials. A box that is locked opens
with one key only; if no two of the credentials in play derive the same key, then it opens for
one of those credentials only. Both derivation and opening can fail.
-/

universe u v

namespace Lockbox

variable {ε : Type u} {Cred Key Box Msg : Type v} (derive : Cred → Outcome ε Key)
  (openWith : Box → Key → Outcome ε Msg)

/-- The credential derives a key with which the box opens to the message. -/
def Opens (b : Box) (c : Cred) (m : Msg) : Prop :=
  ∃ k, derive c = .ok k ∧ openWith b k = .ok m

/-- The box opens with one key only, to the message. -/
def Locked (b : Box) (k : Key) (m : Msg) : Prop :=
  ∀ k' m', openWith b k' = .ok m' ↔ k' = k ∧ m' = m

/-- No two of the credentials derive the same key. -/
def DeriveInj (I : Set Cred) : Prop :=
  ∀ ⦃c⦄, c ∈ I → ∀ ⦃c'⦄, c' ∈ I → ∀ ⦃k⦄, derive c = .ok k → derive c' = .ok k → c = c'

/-- The box was locked for one of the credentials. -/
def Holds (I : Set Cred) (b : Box) (c : Cred) (m : Msg) : Prop :=
  c ∈ I ∧ ∃ k, derive c = .ok k ∧ Locked openWith b k m

variable {derive openWith} {I : Set Cred} {b : Box} {c c' : Cred} {m m' : Msg}

/-- A box opens for the credential it was locked for. -/
lemma Holds.opens (h : Holds derive openWith I b c m) : Opens derive openWith b c m := by
  obtain ⟨-, k, hk, hlock⟩ := h
  exact ⟨k, hk, (hlock k m).mpr ⟨rfl, rfl⟩⟩

/-- Among the credentials in play, a box opens for the one it was locked for and for no other. -/
theorem Holds.opens_iff (hinj : DeriveInj derive I) (h : Holds derive openWith I b c m)
    (hc' : c' ∈ I) : Opens derive openWith b c' m' ↔ c' = c ∧ m' = m := by
  constructor
  · rintro ⟨k', hk', ho⟩
    obtain ⟨hc, k, hk, hlock⟩ := h
    obtain ⟨rfl, rfl⟩ := (hlock k' m').mp ho
    exact ⟨hinj hc' hc hk' hk, rfl⟩
  · rintro ⟨rfl, rfl⟩
    exact h.opens

/-- Whatever opens a box finds the one message in it. -/
lemma Holds.eq_of_opens (h : Holds derive openWith I b c m) (ho : Opens derive openWith b c' m') :
    m' = m := by
  obtain ⟨-, k, -, hlock⟩ := h
  obtain ⟨k', -, ho⟩ := ho
  exact ((hlock k' m').mp ho).2

/-- A box does not open for a credential in play other than the one it was locked for. -/
lemma Holds.not_opens (hinj : DeriveInj derive I) (h : Holds derive openWith I b c m)
    (hc' : c' ∈ I) (hne : c' ≠ c) : ¬Opens derive openWith b c' m' :=
  fun ho => hne ((h.opens_iff hinj hc').mp ho).1

end Lockbox
