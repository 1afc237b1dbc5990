import Mathlib.Algebra.BigOperators.Group.Finset.Basic
import Mathlib.Algebra.Order.BigOperators.Group.Finset
import Mathlib.Logic.Function.Iterate

/-!
# Counting loops

A loop over a list that skips what it has seen before and counts what passes a test counts the
distinct elements that pass. Where the test looks only at the value an element denotes, the
count exceeds the number of distinct values by the number of spare names: the further elements
that denote a value already counted.
-/

namespace Counting

variable {α β γ : Type*}

section loop

variable [DecidableEq α]

/-- One round of the loop: what has been seen, and the counter. -/
def visit (p : α → Bool) (inc : γ → γ) (s : Finset α × γ) (a : α) : Finset α × γ :=
  if a ∈ s.1 then s else (insert a s.1, if p a then inc s.2 else s.2)

/-- A new element is one more to look at, and is not among the rest. -/
lemma cons_toFinset_sdiff {a : α} {l : List α} {seen : Finset α} (ha : a ∉ seen) :
    (a :: l).toFinset \ seen = insert a (l.toFinset \ insert a seen) := by
  ext b
  simp only [Finset.mem_sdiff, List.mem_toFinset, List.mem_cons, Finset.mem_insert]
  by_cases hb : b = a
  · simp [hb, ha]
  · simp [hb]

/-- The counter has been incremented once for every distinct new element that passes. -/
lemma foldl_visit (p : α → Bool) (inc : γ → γ) (l : List α) (seen : Finset α) (c : γ) :
    l.foldl (visit p inc) (seen, c) =
      (seen ∪ l.toFinset, inc^[((l.toFinset \ seen).filter fun a => p a = true).card] c) := by
  induction l generalizing seen c with
  | nil => simp
  | cons a l ih =>
    rw [List.foldl_cons, visit]
    by_cases ha : a ∈ seen
    · have hset : (a :: l).toFinset \ seen = l.toFinset \ seen := by
        rw [List.toFinset_cons, Finset.insert_sdiff_of_mem _ ha]
      rw [if_pos ha, ih, hset, List.toFinset_cons, Finset.union_insert,
        Finset.insert_eq_self.mpr (Finset.mem_union_left _ ha)]
    · have hnew : a ∉ (l.toFinset \ insert a seen).filter fun a => p a = true := by simp
      rw [if_neg ha, ih, cons_toFinset_sdiff ha, List.toFinset_cons, Finset.union_insert,
        Finset.insert_union, Finset.filter_insert]
      by_cases hp : p a = true
      · rw [if_pos hp, if_pos hp, Finset.card_insert_of_notMem hnew, Function.iterate_succ_apply]
      · rw [if_neg hp, if_neg hp]

/-- The loop from an empty start counts the distinct elements that pass. -/
lemma foldl_visit_empty (p : α → Bool) (inc : γ → γ) (l : List α) (c : γ) :
    (l.foldl (visit p inc) (∅, c)).2 = inc^[(l.toFinset.filter fun a => p a = true).card] c := by
  rw [foldl_visit, Finset.sdiff_empty]

end loop

section spare

variable [DecidableEq β]

/-- The elements beyond the first that denote the same value, over all values of a set. -/
def spare (S : Finset α) (f : α → β) : ℕ :=
  ∑ b ∈ S.image f, ((S.filter fun a => f a = b).card - 1)

/-- A set of names has as many elements as values denoted and spare names together. -/
lemma card_eq_image_add_spare (S : Finset α) (f : α → β) :
    S.card = (S.image f).card + spare S f := by
  have hpos : ∀ b ∈ S.image f, 1 ≤ (S.filter fun a => f a = b).card := by
    intro b hb
    obtain ⟨a, ha, rfl⟩ := Finset.mem_image.mp hb
    exact Finset.card_pos.mpr ⟨a, by simp [ha]⟩
  calc S.card = ∑ b ∈ S.image f, (S.filter fun a => f a = b).card :=
        Finset.card_eq_sum_card_image f S
    _ = ∑ b ∈ S.image f, (1 + ((S.filter fun a => f a = b).card - 1)) :=
        Finset.sum_congr rfl fun b hb => by have := hpos b hb; omega
    _ = (S.image f).card + spare S f := by
        rw [Finset.sum_add_distrib, Finset.card_eq_sum_ones, spare]

/-- Names that denote different values leave none to spare. -/
lemma spare_eq_zero_iff {S : Finset α} {f : α → β} : spare S f = 0 ↔ Set.InjOn f S := by
  rw [← Finset.card_image_iff]
  have := card_eq_image_add_spare S f
  omega

end spare

end Counting
