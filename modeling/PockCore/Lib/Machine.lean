import Mathlib.Logic.Basic
import Mathlib.Tactic.Common

/-!
# State machines

A machine is a set of initial states and a step relation labelled by actions. A relation to the
states of another machine that every step can follow carries reachable states to reachable ones;
what the relation says of the state it relates is then an invariant. An invariant that speaks of
one machine only is carried along directly, from the initial states or from any other one.
-/

universe u v w x

/-- Initial states and labelled steps. -/
structure Machine (S : Type u) (A : Type v) where
  init : S → Prop
  step : S → A → S → Prop

namespace Machine

variable {S : Type u} {T : Type w} {A : Type v}

/-- The states that a run ends in. -/
inductive Reachable (M : Machine S A) : S → Prop where
  | init {s : S} : M.init s → M.Reachable s
  | step {s s' : S} {a : A} : M.Reachable s → M.step s a s' → M.Reachable s'

/-- The states that a run from `s` can end in. -/
inductive Leads (M : Machine S A) (s : S) : S → Prop where
  | refl : M.Leads s s
  | step {s' s'' : S} {a : A} : M.Leads s s' → M.step s' a s'' → M.Leads s s''

/-- What one step preserves, a run preserves. -/
theorem Leads.of_step {M : Machine S A} {p : S → Prop}
    (hstep : ∀ s a s', p s → M.step s a s' → p s') {s s' : S} (h : M.Leads s s') (hs : p s) :
    p s' := by
  induction h with
  | refl => exact hs
  | step _ hs' ih => exact hstep _ _ _ ih hs'

lemma Leads.trans {M : Machine S A} {s s' s'' : S} (h : M.Leads s s') (h' : M.Leads s' s'') :
    M.Leads s s'' := by
  induction h' with
  | refl => exact h
  | step _ hstep ih => exact .step ih hstep

/-- A run may go on. -/
lemma Reachable.leads {M : Machine S A} {s s' : S} (h : M.Reachable s) (h' : M.Leads s s') :
    M.Reachable s' := by
  induction h' with
  | refl => exact h
  | step _ hstep ih => exact .step ih hstep

/-- The machine with some of its actions only. -/
def restrict (M : Machine S A) (p : A → Prop) : Machine S A where
  init := M.init
  step s a s' := p a ∧ M.step s a s'

/-! ### Side by side -/

/-- Machines of one kind, of which one at a time takes a step. -/
def sideBySide {ι : Type x} [DecidableEq ι] (M : Machine S A) : Machine (ι → S) (ι × A) where
  init s := ∀ i, M.init (s i)
  step s a s' := ∃ t, M.step (s a.1) a.2 t ∧ s' = Function.update s a.1 t

/-- A step of one of them keeps what holds of each, if a step keeps it. -/
lemma forall_of_sideBySide {ι : Type x} [DecidableEq ι] {M : Machine S A} {p : S → Prop}
    (hstep : ∀ s a s', p s → M.step s a s' → p s') {s s' : ι → S} {a : ι × A}
    (hs : ∀ i, p (s i)) (h : M.sideBySide.step s a s') : ∀ i, p (s' i) := by
  obtain ⟨t, ht, rfl⟩ := h
  intro i
  by_cases hi : i = a.1
  · subst hi
    rw [Function.update_self]
    exact hstep _ _ _ (hs _) ht
  · rw [Function.update_of_ne hi]
    exact hs i

/-! ### Progress -/

/-- If, as long as a measure is not zero, some step keeps `p` and makes it smaller, then some run
keeps `p` and makes it zero. -/
theorem exists_leads_of_measure {M : Machine S A} {p : S → Prop} (μ : S → ℕ)
    (hstep : ∀ s, p s → μ s ≠ 0 → ∃ a s', M.step s a s' ∧ p s' ∧ μ s' < μ s) {s : S} (hs : p s) :
    ∃ s', M.Leads s s' ∧ p s' ∧ μ s' = 0 := by
  generalize hn : μ s = n
  induction n using Nat.strongRecOn generalizing s with
  | ind n ih =>
    by_cases hzero : μ s = 0
    · exact ⟨s, .refl, hs, hzero⟩
    · obtain ⟨a, t, hst, ht, hlt⟩ := hstep s hs hzero
      obtain ⟨s', hrun, hs', hdone⟩ := ih (μ t) (hn ▸ hlt) ht rfl
      exact ⟨s', (Leads.step .refl hst).trans hrun, hs', hdone⟩

/-- What holds initially and is preserved by every step holds of every reachable state. -/
theorem Reachable.of_step {M : Machine S A} {p : S → Prop} (hinit : ∀ s, M.init s → p s)
    (hstep : ∀ s a s', p s → M.step s a s' → p s') {s : S} (h : M.Reachable s) : p s := by
  induction h with
  | init hs => exact hinit _ hs
  | step _ hs ih => exact hstep _ _ _ ih hs

/-- The machine `N` can follow every run of `M`, action by action, along the relation `R`. -/
structure Simulates (M : Machine S A) (N : Machine T A) (R : S → T → Prop) : Prop where
  init : ∀ s, M.init s → ∃ t, N.init t ∧ R s t
  step : ∀ s a s' t, R s t → M.step s a s' → ∃ t', N.step t a t' ∧ R s' t'

/-- A reachable state has a reachable counterpart. -/
theorem Simulates.reachable {M : Machine S A} {N : Machine T A} {R : S → T → Prop}
    (h : M.Simulates N R) {s : S} (hs : M.Reachable s) : ∃ t, N.Reachable t ∧ R s t := by
  induction hs with
  | init hs =>
    obtain ⟨t, ht, hR⟩ := h.init _ hs
    exact ⟨t, .init ht, hR⟩
  | step _ hs ih =>
    obtain ⟨t, ht, hR⟩ := ih
    obtain ⟨t', ht', hR'⟩ := h.step _ _ _ _ hR hs
    exact ⟨t', .step ht ht', hR'⟩

end Machine
