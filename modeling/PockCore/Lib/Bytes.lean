import Mathlib.Algebra.Group.Nat.Defs
import Mathlib.Data.List.Basic
import Mathlib.Tactic.Common
import PockCore.Lib.Outcome

/-!
# Byte strings, byte arrays and the text they encode

A `Vec<u8>` or a `&[u8]` is a list of bytes, a `[u8; n]` is a list of bytes of length `n`.
Slicing is partial: a range that leaves the slice panics.
-/

abbrev Bytes := List UInt8

/-- The array type `[u8; n]`. -/
@[ext]
structure ByteArr (n : ℕ) where
  toList : Bytes
  length_toList : toList.length = n
  deriving DecidableEq

attribute [simp] ByteArr.length_toList

lemma ByteArr.toList_injective {n : ℕ} :
    Function.Injective (ByteArr.toList : ByteArr n → Bytes) :=
  fun _ _ => ByteArr.ext

@[simp] lemma ByteArr.toList_inj {n : ℕ} {a b : ByteArr n} : a.toList = b.toList ↔ a = b :=
  ByteArr.toList_injective.eq_iff

namespace Bytes

variable {ε : Type}

/-! ### Arrays -/

/-- `<[u8; n]>::try_from`: the array with exactly these bytes. -/
def tryInto (n : ℕ) (b : Bytes) : Option (ByteArr n) :=
  if h : b.length = n then some ⟨b, h⟩ else none

lemma tryInto_eq_some {n : ℕ} {b : Bytes} {a : ByteArr n} :
    tryInto n b = some a ↔ b = a.toList := by
  unfold tryInto
  split_ifs with h
  · rw [Option.some.injEq, ByteArr.ext_iff]
  · simp only [false_iff]
    rintro rfl
    exact h a.length_toList

@[simp] lemma tryInto_toList {n : ℕ} (a : ByteArr n) : tryInto n a.toList = some a :=
  tryInto_eq_some.mpr rfl

lemma tryInto_eq_none {n : ℕ} {b : Bytes} : tryInto n b = none ↔ b.length ≠ n := by
  unfold tryInto
  split_ifs with h <;> simp [h]

/-- A conversion to an array that panics on another length: `from_slice`, `copy_from_slice`, and
`try_into` followed by `unwrap`. -/
def fromSlice (n : ℕ) (b : Bytes) : Outcome ε (ByteArr n) :=
  match tryInto n b with
  | some a => .ok a
  | none => .panic

@[simp] lemma fromSlice_toList {n : ℕ} (a : ByteArr n) :
    (fromSlice n a.toList : Outcome ε (ByteArr n)) = .ok a := by
  simp [fromSlice]

/-! ### Slices -/

/-- `&b[i..j]`, which panics unless `i ≤ j ≤ b.len()`. -/
def slice (b : Bytes) (i j : ℕ) : Outcome ε Bytes :=
  if i ≤ j ∧ j ≤ b.length then .ok ((b.take j).drop i) else .panic

/-- `&b[i..]`. -/
def sliceFrom (b : Bytes) (i : ℕ) : Outcome ε Bytes :=
  if i ≤ b.length then .ok (b.drop i) else .panic

/-- `b[i]`. -/
def index (b : Bytes) (i : ℕ) : Outcome ε UInt8 :=
  match b[i]? with
  | some x => .ok x
  | none => .panic

/-- `b.split_at(i)`. -/
def splitAt (b : Bytes) (i : ℕ) : Outcome ε (Bytes × Bytes) :=
  if i ≤ b.length then .ok (b.take i, b.drop i) else .panic

/-- Cutting bytes out of bytes panics out of range, and returns no error. -/
lemma errIn_slice {p : ε → Prop} (b : Bytes) (i j : ℕ) :
    Outcome.ErrIn p (slice b i j : Outcome ε Bytes) := by
  unfold slice
  split_ifs
  · exact Outcome.errIn_ok _
  · exact Outcome.errIn_panic

lemma errIn_sliceFrom {p : ε → Prop} (b : Bytes) (i : ℕ) :
    Outcome.ErrIn p (sliceFrom b i : Outcome ε Bytes) := by
  unfold sliceFrom
  split_ifs
  · exact Outcome.errIn_ok _
  · exact Outcome.errIn_panic

lemma errIn_index {p : ε → Prop} (b : Bytes) (i : ℕ) :
    Outcome.ErrIn p (index b i : Outcome ε UInt8) := by
  unfold index
  split
  · exact Outcome.errIn_ok _
  · exact Outcome.errIn_panic

lemma errIn_splitAt {p : ε → Prop} (b : Bytes) (i : ℕ) :
    Outcome.ErrIn p (splitAt b i : Outcome ε (Bytes × Bytes)) := by
  unfold splitAt
  split_ifs
  · exact Outcome.errIn_ok _
  · exact Outcome.errIn_panic

lemma errIn_fromSlice {p : ε → Prop} (n : ℕ) (b : Bytes) :
    Outcome.ErrIn p (fromSlice n b : Outcome ε (ByteArr n)) := by
  unfold fromSlice
  split
  · exact Outcome.errIn_ok _
  · exact Outcome.errIn_panic

lemma slice_of_le {b : Bytes} {i j : ℕ} (hij : i ≤ j) (hj : j ≤ b.length) :
    (slice b i j : Outcome ε Bytes) = .ok ((b.take j).drop i) :=
  if_pos ⟨hij, hj⟩

lemma sliceFrom_of_le {b : Bytes} {i : ℕ} (hi : i ≤ b.length) :
    (sliceFrom b i : Outcome ε Bytes) = .ok (b.drop i) :=
  if_pos hi

lemma splitAt_of_le {b : Bytes} {i : ℕ} (hi : i ≤ b.length) :
    (splitAt b i : Outcome ε (Bytes × Bytes)) = .ok (b.take i, b.drop i) :=
  if_pos hi

/-- The slice that covers the middle part of a byte string is that part. -/
lemma slice_append {a b c : Bytes} {i j : ℕ} (hi : a.length = i) (hj : a.length + b.length = j) :
    (slice (a ++ (b ++ c)) i j : Outcome ε Bytes) = .ok b := by
  subst hi hj
  rw [slice_of_le (by omega) (by simp)]
  simp [List.take_append]

lemma sliceFrom_append {a b : Bytes} {i : ℕ} (hi : a.length = i) :
    (sliceFrom (a ++ b) i : Outcome ε Bytes) = .ok b := by
  subst hi
  rw [sliceFrom_of_le (by simp)]
  simp

lemma splitAt_append {a b : Bytes} {i : ℕ} (hi : a.length = i) :
    (splitAt (a ++ b) i : Outcome ε (Bytes × Bytes)) = .ok (a, b) := by
  subst hi
  rw [splitAt_of_le (by simp)]
  simp

/-- A long enough byte string starts with an array. -/
lemma exists_eq_append {n : ℕ} {b : Bytes} (h : n ≤ b.length) :
    ∃ (a : ByteArr n) (c : Bytes), b = a.toList ++ c ∧ b.length = n + c.length := by
  refine ⟨⟨b.take n, by rw [List.length_take, Nat.min_eq_left h]⟩, b.drop n,
    (List.take_append_drop n b).symm, ?_⟩
  rw [List.length_drop]
  omega

/-! ### Little-endian integers -/

/-- The number whose base 256 digits are the bytes, least significant first. -/
def leValue : Bytes → ℕ
  | [] => 0
  | x :: xs => x.toNat + 256 * leValue xs

/-- The `k` lowest base 256 digits of a number, least significant first. -/
def leBytes : ℕ → ℕ → Bytes
  | 0, _ => []
  | k + 1, n => UInt8.ofNat n :: leBytes k (n / 256)

@[simp] lemma leBytes_length (k n : ℕ) : (leBytes k n).length = k := by
  induction k generalizing n with
  | zero => rfl
  | succ k ih => simp [leBytes, ih]

lemma leValue_lt (b : Bytes) : leValue b < 256 ^ b.length := by
  induction b with
  | nil => simp [leValue]
  | cons x xs ih =>
    have hx := x.toNat_lt
    simp only [leValue, List.length_cons, Nat.pow_succ]
    omega

lemma leBytes_leValue (b : Bytes) : leBytes b.length (leValue b) = b := by
  induction b with
  | nil => rfl
  | cons x xs ih =>
    have hx := x.toNat_lt
    have hdiv : (x.toNat + 256 * leValue xs) / 256 = leValue xs := by omega
    have hmod : UInt8.ofNat (x.toNat + 256 * leValue xs) = x := by
      rw [← UInt8.toNat_inj, UInt8.toNat_ofNat']
      omega
    simp only [leValue, List.length_cons, leBytes, hdiv, hmod, ih]

lemma leValue_leBytes (k n : ℕ) : leValue (leBytes k n) = n % 256 ^ k := by
  induction k generalizing n with
  | zero => simp [leBytes, leValue, Nat.mod_one]
  | succ k ih =>
    simp only [leBytes, leValue, ih, UInt8.toNat_ofNat']
    rw [show 256 ^ (k + 1) = 256 * 256 ^ k from Nat.pow_succ', Nat.mod_mul]

/-- `u32::to_le_bytes`. -/
def toLeBytes (n : UInt32) : Bytes := leBytes 4 n.toNat

/-- `u32::from_le_bytes`. -/
def fromLeBytes (b : ByteArr 4) : UInt32 := UInt32.ofNat (leValue b.toList)

@[simp] lemma toLeBytes_length (n : UInt32) : (toLeBytes n).length = 4 := leBytes_length 4 _

/-- The two conversions are inverse to each other. -/
lemma fromLeBytes_eq_iff {b : ByteArr 4} {n : UInt32} :
    fromLeBytes b = n ↔ b.toList = toLeBytes n := by
  have hb := leBytes_leValue b.toList
  have hlt := leValue_lt b.toList
  rw [b.length_toList] at hb hlt
  constructor
  · rintro rfl
    have hmod : leValue b.toList % 2 ^ 32 = leValue b.toList := Nat.mod_eq_of_lt (by omega)
    rw [toLeBytes, fromLeBytes, UInt32.toNat_ofNat', hmod, hb]
  · intro h
    rw [fromLeBytes, h, toLeBytes, leValue_leBytes, ← UInt32.toNat_inj, UInt32.toNat_ofNat']
    have := n.toNat_lt
    omega

lemma toLeBytes_injective : Function.Injective toLeBytes := by
  intro m n h
  have hm : fromLeBytes ⟨_, toLeBytes_length m⟩ = m := fromLeBytes_eq_iff.mpr rfl
  have hn : fromLeBytes ⟨_, toLeBytes_length m⟩ = n := fromLeBytes_eq_iff.mpr h
  exact hm.symm.trans hn

/-! ### UTF-8 -/

/-- `str::as_bytes`. -/
def ofString (s : String) : Bytes := s.toByteArray.data.toList

/-- `String::from_utf8`, without the error. -/
def toString? (b : Bytes) : Option String := String.fromUTF8? ⟨b.toArray⟩

lemma ofString_injective : Function.Injective ofString := by
  intro s t h
  rw [← String.toByteArray_inj]
  exact ByteArray.ext (Array.toList_inj.mp h)

@[simp] lemma ofString_inj {s t : String} : ofString s = ofString t ↔ s = t :=
  ofString_injective.eq_iff

lemma toString?_eq_some {b : Bytes} {s : String} : toString? b = some s ↔ b = ofString s := by
  unfold toString? String.fromUTF8?
  constructor
  · intro h
    split_ifs at h with hv
    rw [Option.some.injEq] at h
    subst h
    rfl
  · rintro rfl
    have hv : (⟨(ofString s).toArray⟩ : ByteArray) = s.toByteArray := by simp [ofString]
    rw [hv, dif_pos s.isValidUTF8]
    rfl

@[simp] lemma toString?_ofString (s : String) : toString? (ofString s) = some s :=
  toString?_eq_some.mpr rfl

/-! ### Prefix-free sets -/

/-- None of the byte strings is the start of another. -/
def PrefixFree (A : Set Bytes) : Prop := ∀ a ∈ A, ∀ b ∈ A, a <+: b → a = b

/-- What starts with one of the byte strings starts with no other. -/
lemma PrefixFree.append_inj {A : Set Bytes} (hA : PrefixFree A) {a a' b b' : Bytes} (ha : a ∈ A)
    (ha' : a' ∈ A) (h : a ++ b = a' ++ b') : a = a' ∧ b = b' := by
  have hprefix : a <+: a' ++ b' := h ▸ List.prefix_append a b
  rcases List.prefix_or_prefix_of_prefix hprefix (List.prefix_append a' b') with hp | hp
  · obtain rfl := hA a ha a' ha' hp
    exact ⟨rfl, List.append_cancel_left h⟩
  · obtain rfl := hA a' ha' a ha hp
    exact ⟨rfl, List.append_cancel_left h⟩

end Bytes
