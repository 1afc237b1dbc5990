import Mathlib.Data.Set.Insert
import Mathlib.Tactic.Common

/-!
# Hash trees

A binary tree is hashed from its leaves up: a leaf as one message, an inner node as the message
of the labels of its two children. The messages of leaves and those of nodes are kept apart, and
a message determines what it was made from. Then a root determines the tree, and a path up to the
root determines the leaf it starts from, as far as the hash does not collide; where it does, the
two colliding messages are among those that were hashed.
-/

universe u v w x

/-- A binary tree with data at its leaves. -/
inductive HashTree (α : Type u) where
  | leaf (a : α)
  | node (l r : HashTree α)
  deriving Repr, DecidableEq

namespace HashTree

/-- How trees are hashed. In a message, a digest is written as a label; a label that somebody
else supplies need not be one of a digest. -/
structure Scheme (α : Type u) (S : Type v) (M : Type w) (D : Type x) where
  hash : M → D
  label : D → S
  leafMsg : α → M
  nodeMsg : S → S → M
  leafMsg_injective : Function.Injective leafMsg
  leafMsg_ne_nodeMsg : ∀ a s t, leafMsg a ≠ nodeMsg s t
  /-- Where one of the two labels is one of a digest, the message determines both. -/
  nodeMsg_inj_left : ∀ {d s l r}, nodeMsg (label d) s = nodeMsg (label l) (label r) →
    d = l ∧ s = label r
  nodeMsg_inj_right : ∀ {s d l r}, nodeMsg s (label d) = nodeMsg (label l) (label r) →
    s = label l ∧ d = r

/-- A sibling on the way to the root, and the side that it stands on. -/
inductive Step (S : Type v) where
  | onLeft (sibling : S)
  | onRight (sibling : S)

/-- A way down, from the root. -/
inductive Turn where
  | left
  | right
  deriving Repr, DecidableEq

/-- A sibling on the one side is passed on the other. -/
def Step.turn {S : Type v} : Step S → Turn
  | onLeft _ => .right
  | onRight _ => .left

variable {α : Type u} {S : Type v} {M : Type w} {D : Type x}

/-- The leaf at the end of a way down. -/
def leafAt? : HashTree α → List Turn → Option α
  | leaf a, [] => some a
  | node l _, .left :: ts => l.leafAt? ts
  | node _ r, .right :: ts => r.leafAt? ts
  | _, _ => none

namespace Scheme

variable (H : Scheme α S M D)

/-! ### Roots -/

def root : HashTree α → D
  | leaf a => H.hash (H.leafMsg a)
  | node l r => H.hash (H.nodeMsg (H.label (root l)) (H.label (root r)))

/-- The messages that are hashed for a root. -/
def messages : HashTree α → Set M
  | leaf a => {H.leafMsg a}
  | node l r =>
    insert (H.nodeMsg (H.label (H.root l)) (H.label (H.root r))) (messages l ∪ messages r)

/-- A message of the one set and another one of the other set have the same hash. -/
def Collides (A B : Set M) : Prop := ∃ m ∈ A, ∃ m' ∈ B, m ≠ m' ∧ H.hash m = H.hash m'

variable {H}

lemma Collides.mono {A A' B B' : Set M} (h : H.Collides A B) (hA : A ⊆ A') (hB : B ⊆ B') :
    H.Collides A' B' := by
  obtain ⟨m, hm, m', hm', hne, heq⟩ := h
  exact ⟨m, hA hm, m', hB hm', hne, heq⟩

/-- Messages with one hash are equal, or they collide. -/
lemma eq_or_collides {A B : Set M} {m m' : M} (hm : m ∈ A) (hm' : m' ∈ B)
    (h : H.hash m = H.hash m') : m = m' ∨ H.Collides A B := by
  by_cases heq : m = m'
  · exact .inl heq
  · exact .inr ⟨m, hm, m', hm', heq, h⟩

/-- Trees with one root are equal, or two of the messages that were hashed for them collide. -/
theorem root_inj {t t' : HashTree α} (h : H.root t = H.root t') :
    t = t' ∨ H.Collides (H.messages t) (H.messages t') := by
  induction t generalizing t' with
  | leaf a =>
    cases t' with
    | leaf b =>
      refine (eq_or_collides (Set.mem_singleton _) (Set.mem_singleton _) h).imp_left fun heq => ?_
      rw [H.leafMsg_injective heq]
    | node l' r' =>
      have hne := H.leafMsg_ne_nodeMsg a (H.label (H.root l')) (H.label (H.root r'))
      exact .inr ⟨_, rfl, _, Set.mem_insert _ _, hne, h⟩
  | node l r ihl ihr =>
    cases t' with
    | leaf b =>
      have hne := H.leafMsg_ne_nodeMsg b (H.label (H.root l)) (H.label (H.root r))
      exact .inr ⟨_, Set.mem_insert _ _, _, rfl, hne.symm, h⟩
    | node l' r' =>
      rcases eq_or_collides (Set.mem_insert _ _) (Set.mem_insert _ _) h with heq | hcoll
      · obtain ⟨hl, hlabel⟩ := H.nodeMsg_inj_left heq
        obtain ⟨-, hr⟩ := H.nodeMsg_inj_right heq
        -- the two pairs of children have equal roots, and each pair is settled on its own
        rcases ihl hl with rfl | hcoll
        · rcases ihr hr with rfl | hcoll
          · exact .inl rfl
          · exact .inr (hcoll.mono (fun m hm => .inr (.inr hm)) fun m hm => .inr (.inr hm))
        · exact .inr (hcoll.mono (fun m hm => .inr (.inl hm)) fun m hm => .inr (.inl hm))
      · exact .inr hcoll

/-! ### Paths -/

variable (H) in
/-- The root that a path computes from a leaf. The path is listed from the root down, and
computed from the leaf up. -/
def climb (a : α) : List (Step S) → D
  | [] => H.hash (H.leafMsg a)
  | .onLeft s :: p => H.hash (H.nodeMsg s (H.label (climb a p)))
  | .onRight s :: p => H.hash (H.nodeMsg (H.label (climb a p)) s)

variable (H) in
/-- The messages that are hashed along a path. -/
def climbMessages (a : α) : List (Step S) → Set M
  | [] => {H.leafMsg a}
  | .onLeft s :: p => insert (H.nodeMsg s (H.label (H.climb a p))) (climbMessages a p)
  | .onRight s :: p => insert (H.nodeMsg (H.label (H.climb a p)) s) (climbMessages a p)

variable (H) in
/-- The siblings that a way down passes. -/
def path : HashTree α → List Turn → List (Step S)
  | node l r, .left :: ts => .onRight (H.label (H.root r)) :: path l ts
  | node l r, .right :: ts => .onLeft (H.label (H.root l)) :: path r ts
  | _, _ => []

/-- The siblings of a way down to a leaf lead from the leaf back to the root. -/
theorem climb_path {t : HashTree α} {ts : List Turn} {a : α} (h : t.leafAt? ts = some a) :
    H.climb a (H.path t ts) = H.root t ∧ (H.path t ts).map Step.turn = ts := by
  induction t generalizing ts with
  | leaf b =>
    cases ts with
    | nil =>
      obtain rfl : b = a := by simpa [leafAt?] using h
      exact ⟨rfl, rfl⟩
    | cons turn ts => simp [leafAt?] at h
  | node l r ihl ihr =>
    cases ts with
    | nil => simp [leafAt?] at h
    | cons turn ts =>
      cases turn with
      | left =>
        obtain ⟨hroot, hturns⟩ := ihl h
        simp [path, climb, root, hroot, hturns, Step.turn]
      | right =>
        obtain ⟨hroot, hturns⟩ := ihr h
        simp [path, climb, root, hroot, hturns, Step.turn]

/-- A path that computes the root of a tree starts from the leaf that stands where the path says,
or two of the messages that were hashed collide. Nothing is asked of the siblings. -/
theorem leafAt?_of_climb {t : HashTree α} {a : α} {p : List (Step S)}
    (h : H.climb a p = H.root t) :
    t.leafAt? (p.map Step.turn) = some a ∨ H.Collides (H.climbMessages a p) (H.messages t) := by
  induction t generalizing p with
  | leaf b =>
    cases p with
    | nil =>
      refine (eq_or_collides (Set.mem_singleton _) (Set.mem_singleton _) h).imp_left fun heq => ?_
      rw [H.leafMsg_injective heq]
      rfl
    | cons step p =>
      right
      cases step with
      | onLeft s => exact ⟨_, Set.mem_insert _ _, _, rfl, (H.leafMsg_ne_nodeMsg b _ _).symm, h⟩
      | onRight s => exact ⟨_, Set.mem_insert _ _, _, rfl, (H.leafMsg_ne_nodeMsg b _ _).symm, h⟩
  | node l r ihl ihr =>
    cases p with
    | nil => exact .inr ⟨_, rfl, _, Set.mem_insert _ _, H.leafMsg_ne_nodeMsg a _ _, h⟩
    | cons step p =>
      cases step with
      | onLeft s =>
        rcases eq_or_collides (Set.mem_insert _ _) (Set.mem_insert _ _) h with heq | hcoll
        · refine (ihr (H.nodeMsg_inj_right heq).2).imp_right fun hcoll => ?_
          exact hcoll.mono (fun m hm => .inr hm) fun m hm => .inr (.inr hm)
        · exact .inr hcoll
      | onRight s =>
        rcases eq_or_collides (Set.mem_insert _ _) (Set.mem_insert _ _) h with heq | hcoll
        · refine (ihl (H.nodeMsg_inj_left heq).1).imp_right fun hcoll => ?_
          exact hcoll.mono (fun m hm => .inr hm) fun m hm => .inr (.inl hm)
        · exact .inr hcoll

end Scheme

end HashTree
