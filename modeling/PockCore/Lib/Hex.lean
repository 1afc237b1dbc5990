import Mathlib.Data.Fintype.Basic
import Mathlib.Data.List.Basic
import Mathlib.Data.List.Flatten
import PockCore.Lib.Bytes

/-!
# Hexadecimal text

Lower-case hexadecimal, two digits for each byte, and sequences cut into pieces of one length.
-/

universe u

/-! ### Pieces of one length -/

namespace Pieces

variable {α : Type u}

/-- `slice::chunks`: pieces of length `n`, of which the last one may be shorter. -/
def chunks (n : ℕ) (l : List α) : List (List α) :=
  if _h : n = 0 ∨ l = [] then [] else l.take n :: chunks n (l.drop n)
termination_by l.length
decreasing_by
  have hpos := List.length_pos_of_ne_nil (not_or.mp _h).2
  have hn := (not_or.mp _h).1
  rw [List.length_drop]
  omega

variable {n : ℕ}

@[simp] lemma chunks_nil : chunks n ([] : List α) = [] := by
  rw [chunks, dif_pos (.inr rfl)]

/-- A piece of full length is cut off first. -/
lemma chunks_append (hn : n ≠ 0) {g : List α} (hg : g.length = n) (l : List α) :
    chunks n (g ++ l) = g :: chunks n l := by
  have hne : ¬(n = 0 ∨ g ++ l = []) := by
    rintro (h | h)
    · exact hn h
    · rw [List.append_eq_nil_iff] at h
      rw [h.1] at hg
      exact hn hg.symm
  rw [chunks, dif_neg hne, List.take_left' hg, List.drop_left' hg]

/-- Pieces of full length are recovered from their concatenation. -/
lemma chunks_flatten (hn : n ≠ 0) {gs : List (List α)} (hgs : ∀ g ∈ gs, g.length = n) :
    chunks n gs.flatten = gs := by
  induction gs with
  | nil => simp
  | cons g gs ih =>
    rw [List.flatten_cons, chunks_append hn (hgs g List.mem_cons_self),
      ih fun g hg => hgs g (List.mem_cons_of_mem _ hg)]

lemma length_flatten {gs : List (List α)} (hgs : ∀ g ∈ gs, g.length = n) :
    gs.flatten.length = gs.length * n := by
  induction gs with
  | nil => simp
  | cons g gs ih =>
    rw [List.flatten_cons, List.length_append, hgs g List.mem_cons_self,
      ih fun g hg => hgs g (List.mem_cons_of_mem _ hg), List.length_cons, Nat.succ_mul,
      Nat.add_comm]

/-- A sequence whose length is a multiple of `n` is a concatenation of full pieces. -/
lemma exists_flatten {k : ℕ} {l : List α} (hl : l.length = k * n) :
    ∃ gs : List (List α), gs.length = k ∧ (∀ g ∈ gs, g.length = n) ∧ gs.flatten = l := by
  induction k generalizing l with
  | zero =>
    rw [Nat.zero_mul, List.length_eq_zero_iff] at hl
    exact ⟨[], rfl, by simp, hl.symm⟩
  | succ k ih =>
    rw [Nat.succ_mul] at hl
    obtain ⟨gs, hlen, hgs, hflat⟩ := ih (l := l.drop n) (by rw [List.length_drop]; omega)
    refine ⟨l.take n :: gs, by rw [List.length_cons, hlen], ?_, ?_⟩
    · rw [List.forall_mem_cons]
      exact ⟨by rw [List.length_take]; omega, hgs⟩
    · rw [List.flatten_cons, hflat, List.take_append_drop]

end Pieces

/-! ### Digits -/

namespace Hex

def digit (i : Fin 16) : Char :=
  ['0', '1', '2', '3', '4', '5', '6', '7', '8', '9', 'a', 'b', 'c', 'd', 'e', 'f'].get i

def IsDigit (c : Char) : Prop := ∃ i, digit i = c

instance (c : Char) : Decidable (IsDigit c) := inferInstanceAs (Decidable (∃ i, digit i = c))

lemma digit_injective : Function.Injective digit := by decide

lemma utf8Size_digit (i : Fin 16) : (digit i).utf8Size = 1 := by
  revert i
  decide

/-- `{x:02x}`. -/
def ofByte (x : UInt8) : List Char :=
  [digit ⟨x.toNat / 16, by have := x.toNat_lt; omega⟩, digit ⟨x.toNat % 16, by omega⟩]

lemma ofByte_injective : Function.Injective ofByte := by
  intro x y h
  simp only [ofByte, List.cons.injEq, digit_injective.eq_iff, Fin.mk.injEq, and_true] at h
  rw [← UInt8.toNat_inj]
  omega

lemma exists_ofByte (i j : Fin 16) : ∃ x, ofByte x = [digit i, digit j] := by
  refine ⟨UInt8.ofNat (16 * i.val + j.val), ?_⟩
  have hnat : (UInt8.ofNat (16 * i.val + j.val)).toNat = 16 * i.val + j.val := by
    rw [UInt8.toNat_ofNat']
    omega
  have hi : (16 * i.val + j.val) / 16 = i.val := by omega
  have hj : (16 * i.val + j.val) % 16 = j.val := by omega
  simp only [ofByte, hnat, hi, hj]

/-! ### Byte strings -/

def encodeList (b : Bytes) : List Char := b.flatMap ofByte

def encode (b : Bytes) : String := String.ofList (encodeList b)

@[simp] lemma toList_encode (b : Bytes) : (encode b).toList = encodeList b := String.toList_ofList

lemma encodeList_cons (x : UInt8) (b : Bytes) : encodeList (x :: b) = ofByte x ++ encodeList b :=
  List.flatMap_cons

@[simp] lemma length_encodeList (b : Bytes) : (encodeList b).length = 2 * b.length := by
  induction b with
  | nil => rfl
  | cons x b ih =>
    rw [encodeList_cons, List.length_append, ih, List.length_cons]
    simp only [ofByte, List.length_cons, List.length_nil]
    omega

lemma isDigit_of_mem_encodeList {b : Bytes} {c : Char} (hc : c ∈ encodeList b) : IsDigit c := by
  obtain ⟨x, -, hx⟩ := List.mem_flatMap.mp hc
  simp only [ofByte, List.mem_cons, List.not_mem_nil, or_false] at hx
  rcases hx with rfl | rfl
  · exact ⟨_, rfl⟩
  · exact ⟨_, rfl⟩

lemma encodeList_injective : Function.Injective encodeList := by
  intro b c h
  induction b generalizing c with
  | nil =>
    have hlen := congrArg List.length h
    rw [length_encodeList, length_encodeList, List.length_nil] at hlen
    exact (List.length_eq_zero_iff.mp (by omega)).symm
  | cons x b ih =>
    cases c with
    | nil => simp [encodeList, ofByte] at h
    | cons y c =>
      rw [encodeList_cons, encodeList_cons] at h
      obtain ⟨hx, hb⟩ := List.append_inj h rfl
      rw [ofByte_injective hx, ih hb]

lemma encode_injective : Function.Injective encode := by
  intro b c h
  apply encodeList_injective
  rw [← toList_encode, h, toList_encode]

/-- Every text of an even number of digits encodes a byte string. -/
lemma exists_encodeList {n : ℕ} {l : List Char} (hlen : l.length = 2 * n)
    (hl : ∀ c ∈ l, IsDigit c) : ∃ b : Bytes, b.length = n ∧ encodeList b = l := by
  induction n generalizing l with
  | zero => exact ⟨[], rfl, (List.length_eq_zero_iff.mp hlen).symm⟩
  | succ n ih =>
    cases l with
    | nil => simp at hlen
    | cons c l =>
      cases l with
      | nil => simp at hlen; omega
      | cons d l =>
        obtain ⟨i, rfl⟩ := hl c List.mem_cons_self
        obtain ⟨j, rfl⟩ := hl d (List.mem_cons_of_mem _ List.mem_cons_self)
        obtain ⟨x, hx⟩ := exists_ofByte i j
        simp only [List.length_cons] at hlen
        obtain ⟨b, hb, rfl⟩ := ih (l := l) (by omega) fun c hc =>
          hl c (List.mem_cons_of_mem _ (List.mem_cons_of_mem _ hc))
        exact ⟨x :: b, by rw [List.length_cons, hb], by rw [encodeList_cons, hx]; rfl⟩

/-! ### The bytes of a text of digits -/

/-- A digit is one byte of UTF-8. -/
lemma length_ofString {l : List Char} (hl : ∀ c ∈ l, IsDigit c) :
    (Bytes.ofString (String.ofList l)).length = l.length := by
  have hbytes : Bytes.ofString (String.ofList l) = l.flatMap String.utf8EncodeChar := by
    simp [Bytes.ofString, String.toByteArray_ofList, List.utf8Encode]
  rw [hbytes]
  clear hbytes
  induction l with
  | nil => rfl
  | cons c l ih =>
    obtain ⟨i, rfl⟩ := hl c List.mem_cons_self
    rw [List.flatMap_cons, List.length_append, String.length_utf8EncodeChar, utf8Size_digit,
      ih fun c hc => hl c (List.mem_cons_of_mem _ hc), List.length_cons]
    omega

end Hex
