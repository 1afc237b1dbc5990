import Mathlib.Data.List.DropRight
import Mathlib.Data.Fin.Basic
import Mathlib.Tactic.IntervalCases
import Mathlib.Data.Fintype.Basic
import PockCore.Lib.Bytes

/-!
# Base64

The encodings of RFC 4648 over an arbitrary alphabet, with and without padding, and strict
decoders for them: a decoder accepts exactly the canonical encodings, so dangling characters,
nonzero trailing bits and padding in the wrong place are all refused.
-/

namespace Base64

/-- Sixty-four distinct characters, none of which is the padding character. -/
structure Alphabet where
  digit : Fin 64 → Char
  injective : ∀ i j, digit i = digit j → i = j
  ne_pad : ∀ i, digit i ≠ '='

namespace Alphabet

variable (A : Alphabet)

/-- The character of the six lowest bits of a number. -/
def char (n : ℕ) : Char := A.digit (Fin.ofNat 64 n)

/-- The number a character stands for. -/
def value (c : Char) : Option ℕ :=
  ((List.finRange 64).find? fun i => A.digit i = c).map Fin.val

lemma value_eq_some {c : Char} {n : ℕ} : A.value c = some n ↔ n < 64 ∧ c = A.char n := by
  constructor
  · intro h
    obtain ⟨i, hi, rfl⟩ := Option.map_eq_some_iff.mp h
    have hd := List.find?_some hi
    simp only [decide_eq_true_eq] at hd
    exact ⟨i.isLt, by simp [char, ← hd]⟩
  · rintro ⟨hn, rfl⟩
    have hsome : ((List.finRange 64).find? fun i => A.digit i = A.char n).isSome := by
      rw [List.find?_isSome]
      exact ⟨Fin.ofNat 64 n, List.mem_finRange _, by simp [char]⟩
    obtain ⟨i, hi⟩ := Option.isSome_iff_exists.mp hsome
    have hd := List.find?_some hi
    simp only [decide_eq_true_eq] at hd
    have : i = Fin.ofNat 64 n := A.injective _ _ hd
    rw [value, hi, this]
    simp [Nat.mod_eq_of_lt hn]

lemma value_char {n : ℕ} (hn : n < 64) : A.value (A.char n) = some n :=
  A.value_eq_some.mpr ⟨hn, rfl⟩

end Alphabet

variable (A : Alphabet)

/-! ### Encoding -/

/-- The encoding, in groups of three bytes, without padding. -/
def encodeNoPadList : Bytes → List Char
  | [] => []
  | [x] => [A.char (x.toNat / 4), A.char (x.toNat % 4 * 16)]
  | [x, y] =>
    [A.char (x.toNat / 4), A.char (x.toNat % 4 * 16 + y.toNat / 16),
      A.char (y.toNat % 16 * 4)]
  | x :: y :: z :: rest =>
    A.char (x.toNat / 4) :: A.char (x.toNat % 4 * 16 + y.toNat / 16) ::
      A.char (y.toNat % 16 * 4 + z.toNat / 64) :: A.char (z.toNat % 64) ::
      encodeNoPadList rest

/-- How many padding characters complete the last group. -/
def padding (b : Bytes) : ℕ := (3 - b.length % 3) % 3

def encodeNoPad (b : Bytes) : String := String.ofList (encodeNoPadList A b)

def encodePad (b : Bytes) : String :=
  String.ofList (encodeNoPadList A b ++ List.replicate (padding b) '=')

@[simp] lemma toList_encodeNoPad (b : Bytes) :
    (encodeNoPad A b).toList = encodeNoPadList A b := by
  simp [encodeNoPad]

@[simp] lemma toList_encodePad (b : Bytes) :
    (encodePad A b).toList = encodeNoPadList A b ++ List.replicate (padding b) '=' := by
  simp [encodePad]

lemma mem_encodeNoPadList {b : Bytes} {c : Char} (hc : c ∈ encodeNoPadList A b) :
    ∃ i, c = A.digit i := by
  fun_induction encodeNoPadList A b with
  | case1 => simp at hc
  | case2 x =>
    simp only [List.mem_cons, List.not_mem_nil, or_false] at hc
    rcases hc with rfl | rfl <;> exact ⟨_, rfl⟩
  | case3 x y =>
    simp only [List.mem_cons, List.not_mem_nil, or_false] at hc
    rcases hc with rfl | rfl | rfl <;> exact ⟨_, rfl⟩
  | case4 x y z rest ih =>
    simp only [List.mem_cons] at hc
    rcases hc with rfl | rfl | rfl | rfl | hc
    · exact ⟨_, rfl⟩
    · exact ⟨_, rfl⟩
    · exact ⟨_, rfl⟩
    · exact ⟨_, rfl⟩
    · exact ih hc

lemma encodeNoPadList_length (b : Bytes) :
    (encodeNoPadList A b).length = (4 * b.length + 2) / 3 := by
  fun_induction encodeNoPadList A b with
  | case1 => rfl
  | case2 x => simp
  | case3 x y => simp
  | case4 x y z rest ih =>
    simp only [List.length_cons, ih]
    omega

/-- No encoding has a single symbol behind its full groups. -/
lemma encodeNoPadList_length_mod (b : Bytes) : (encodeNoPadList A b).length % 4 ≠ 1 := by
  rw [encodeNoPadList_length]
  omega

/-- The last symbol of an incomplete group holds no bits but those of the last byte. -/
lemma exists_char_of_encodeNoPadList_eq_concat {b : Bytes} {l : List Char} {c : Char}
    (h : encodeNoPadList A b = l ++ [c]) :
    (l.length % 4 = 1 → ∃ n < 4, c = A.char (n * 16)) ∧
      (l.length % 4 = 2 → ∃ n < 16, c = A.char (n * 4)) := by
  fun_induction encodeNoPadList A b generalizing l with
  | case1 => simp at h
  | case2 x =>
    rcases l with _ | ⟨c₁, _ | ⟨c₂, l⟩⟩
    · simp at h
    · simp only [List.cons_append, List.nil_append, List.cons.injEq, and_true] at h
      exact ⟨fun _ => ⟨x.toNat % 4, by omega, h.2.symm⟩, fun hl => by simp at hl⟩
    · simp at h
  | case3 x y =>
    rcases l with _ | ⟨c₁, _ | ⟨c₂, _ | ⟨c₃, l⟩⟩⟩
    · simp at h
    · simp at h
    · simp only [List.cons_append, List.nil_append, List.cons.injEq, and_true] at h
      exact ⟨fun hl => by simp at hl, fun _ => ⟨y.toNat % 16, by omega, h.2.2.symm⟩⟩
    · simp at h
  | case4 x y z rest ih =>
    rcases l with _ | ⟨c₁, _ | ⟨c₂, _ | ⟨c₃, _ | ⟨c₄, l⟩⟩⟩⟩
    · simp at h
    · simp at h
    · simp at h
    · exact ⟨fun hl => by simp at hl, fun hl => by simp at hl⟩
    · simp only [List.cons_append, List.cons.injEq] at h
      simpa [Nat.add_mod_right, Nat.add_assoc] using ih h.2.2.2.2

/-! ### Decoding -/

/-- The strict decoder without padding. -/
def decodeNoPadList : List Char → Option Bytes
  | [] => some []
  | [_] => none
  | [c, d] => do
    let x ← A.value c
    let y ← A.value d
    if y % 16 = 0 then some [UInt8.ofNat (x * 4 + y / 16)] else none
  | [c, d, e] => do
    let x ← A.value c
    let y ← A.value d
    let z ← A.value e
    if z % 4 = 0 then
      some [UInt8.ofNat (x * 4 + y / 16), UInt8.ofNat (y % 16 * 16 + z / 4)]
    else none
  | c :: d :: e :: f :: rest => do
    let x ← A.value c
    let y ← A.value d
    let z ← A.value e
    let w ← A.value f
    let t ← decodeNoPadList rest
    some (UInt8.ofNat (x * 4 + y / 16) :: UInt8.ofNat (y % 16 * 16 + z / 4) ::
      UInt8.ofNat (z % 4 * 64 + w) :: t)

lemma toNat_ofNat_of_lt {n : ℕ} (h : n < 256) : (UInt8.ofNat n).toNat = n := by
  rw [UInt8.toNat_ofNat']
  omega

/-- What the decoder accepts is the encoding of what it returns. -/
lemma eq_encode_of_decode {s : List Char} {b : Bytes} (h : decodeNoPadList A s = some b) :
    s = encodeNoPadList A b := by
  fun_induction decodeNoPadList A s generalizing b with
  | case1 =>
    cases h
    rfl
  | case2 => cases h
  | case3 c d =>
    simp only [Option.bind_eq_bind, Option.bind_eq_some_iff, A.value_eq_some] at h
    obtain ⟨x, ⟨hx, rfl⟩, y, ⟨hy, rfl⟩, h⟩ := h
    split_ifs at h with hz
    cases h
    have h₁ : (x * 4 + y / 16) / 4 = x := by omega
    have h₂ : (x * 4 + y / 16) % 4 * 16 = y := by omega
    rw [encodeNoPadList, toNat_ofNat_of_lt (by omega), h₁, h₂]
  | case4 c d e =>
    simp only [Option.bind_eq_bind, Option.bind_eq_some_iff, A.value_eq_some] at h
    obtain ⟨x, ⟨hx, rfl⟩, y, ⟨hy, rfl⟩, z, ⟨hz, rfl⟩, h⟩ := h
    split_ifs at h with hz'
    cases h
    have h₁ : (x * 4 + y / 16) / 4 = x := by omega
    have h₂ : (x * 4 + y / 16) % 4 * 16 + (y % 16 * 16 + z / 4) / 16 = y := by omega
    have h₃ : (y % 16 * 16 + z / 4) % 16 * 4 = z := by omega
    rw [encodeNoPadList, toNat_ofNat_of_lt (by omega), toNat_ofNat_of_lt (by omega), h₁, h₂, h₃]
  | case5 c d e f rest ih =>
    simp only [Option.bind_eq_bind, Option.bind_eq_some_iff, A.value_eq_some] at h
    obtain ⟨x, ⟨hx, rfl⟩, y, ⟨hy, rfl⟩, z, ⟨hz, rfl⟩, w, ⟨hw, rfl⟩, t, ht, h⟩ := h
    cases h
    have h₁ : (x * 4 + y / 16) / 4 = x := by omega
    have h₂ : (x * 4 + y / 16) % 4 * 16 + (y % 16 * 16 + z / 4) / 16 = y := by omega
    have h₃ : (y % 16 * 16 + z / 4) % 16 * 4 + (z % 4 * 64 + w) / 64 = z := by omega
    have h₄ : (z % 4 * 64 + w) % 64 = w := by omega
    rw [encodeNoPadList, toNat_ofNat_of_lt (by omega), toNat_ofNat_of_lt (by omega),
      toNat_ofNat_of_lt (by omega), h₁, h₂, h₃, h₄, ← ih ht]

/-- The decoder accepts every encoding and returns the bytes it encodes. -/
lemma decode_encodeNoPadList (b : Bytes) : decodeNoPadList A (encodeNoPadList A b) = some b := by
  fun_induction encodeNoPadList A b with
  | case1 => rfl
  | case2 x =>
    have hx := x.toNat_lt
    have h₁ : x.toNat / 4 * 4 + x.toNat % 4 * 16 / 16 = x.toNat := by omega
    have h₂ : x.toNat % 4 * 16 % 16 = 0 := by omega
    rw [decodeNoPadList, A.value_char (by omega), A.value_char (by omega)]
    simp only [Option.bind_eq_bind, Option.bind_some, h₁, h₂, if_true, UInt8.ofNat_toNat]
  | case3 x y =>
    have hx := x.toNat_lt
    have hy := y.toNat_lt
    have h₁ : x.toNat / 4 * 4 + (x.toNat % 4 * 16 + y.toNat / 16) / 16 = x.toNat := by omega
    have h₂ : (x.toNat % 4 * 16 + y.toNat / 16) % 16 * 16 + y.toNat % 16 * 4 / 4 = y.toNat := by
      omega
    have h₃ : y.toNat % 16 * 4 % 4 = 0 := by omega
    rw [decodeNoPadList, A.value_char (by omega), A.value_char (by omega),
      A.value_char (by omega)]
    simp only [Option.bind_eq_bind, Option.bind_some, h₁, h₂, h₃, if_true, UInt8.ofNat_toNat]
  | case4 x y z rest ih =>
    have hx := x.toNat_lt
    have hy := y.toNat_lt
    have hz := z.toNat_lt
    have h₁ : x.toNat / 4 * 4 + (x.toNat % 4 * 16 + y.toNat / 16) / 16 = x.toNat := by omega
    have h₂ : (x.toNat % 4 * 16 + y.toNat / 16) % 16 * 16 +
        (y.toNat % 16 * 4 + z.toNat / 64) / 4 = y.toNat := by omega
    have h₃ : (y.toNat % 16 * 4 + z.toNat / 64) % 4 * 64 + z.toNat % 64 = z.toNat := by omega
    rw [decodeNoPadList, A.value_char (by omega), A.value_char (by omega),
      A.value_char (by omega), A.value_char (by omega), ih]
    simp only [Option.bind_eq_bind, Option.bind_some, h₁, h₂, h₃, UInt8.ofNat_toNat]

lemma decodeNoPadList_eq_some {s : List Char} {b : Bytes} :
    decodeNoPadList A s = some b ↔ s = encodeNoPadList A b :=
  ⟨eq_encode_of_decode A, fun h => h ▸ decode_encodeNoPadList A b⟩

lemma encodeNoPadList_injective : Function.Injective (encodeNoPadList A) := by
  intro b c h
  have := decode_encodeNoPadList A b
  rw [h, decode_encodeNoPadList] at this
  exact (Option.some.inj this).symm

/-- The strict decoder with padding: the unpadded decoder on what stands before the padding,
refused unless the padding is the one the encoder writes. -/
def decodePadList (s : List Char) : Option Bytes :=
  match decodeNoPadList A (s.rdropWhile (· = '=')) with
  | some b => if (encodePad A b).toList = s then some b else none
  | none => none

lemma pad_notMem_encodeNoPadList (b : Bytes) : '=' ∉ encodeNoPadList A b := by
  intro h
  obtain ⟨i, hi⟩ := mem_encodeNoPadList A h
  exact A.ne_pad i hi.symm

/-- Dropping padding from an unpadded encoding followed by padding gives the encoding. -/
lemma rdropWhile_encode (b : Bytes) (k : ℕ) :
    (encodeNoPadList A b ++ List.replicate k '=').rdropWhile (· = '=') = encodeNoPadList A b := by
  induction k with
  | zero =>
    rw [List.replicate_zero, List.append_nil, List.rdropWhile_eq_self_iff]
    intro hne
    rw [decide_eq_true_eq]
    exact fun h => pad_notMem_encodeNoPadList A b (h ▸ List.getLast_mem hne)
  | succ k ih =>
    rw [List.replicate_succ', ← List.append_assoc, List.rdropWhile_concat_pos _ _ _ (by simp), ih]

/-- A padded encoding consists of the alphabet and the padding character. -/
lemma forall_mem_encodePad {p : Char → Prop} (hp : ∀ i, p (A.digit i)) (hpad : p '=') (b : Bytes) :
    ∀ c ∈ (encodePad A b).toList, p c := by
  intro c hc
  rw [toList_encodePad, List.mem_append] at hc
  rcases hc with hc | hc
  · obtain ⟨i, rfl⟩ := mem_encodeNoPadList A hc
    exact hp i
  · rw [List.eq_of_mem_replicate hc]
    exact hpad

/-- Full groups need no padding. -/
lemma encodePad_eq_encodeNoPad {b : Bytes} (hb : b.length % 3 = 0) :
    encodePad A b = encodeNoPad A b := by
  have hpadding : padding b = 0 := by rw [padding, hb]
  rw [encodePad, encodeNoPad, hpadding, List.replicate_zero, List.append_nil]

/-- Only the encodings of the same bytes agree, with padding and without. -/
lemma eq_of_encodePad_eq_encodeNoPad {b c : Bytes} (h : encodePad A b = encodeNoPad A c) :
    b = c := by
  rw [← String.toList_inj, toList_encodePad, toList_encodeNoPad] at h
  have hdrop := congrArg (List.rdropWhile (· = '=')) h
  rw [rdropWhile_encode, ← List.append_nil (encodeNoPadList A c), ← List.replicate_zero,
    rdropWhile_encode] at hdrop
  exact encodeNoPadList_injective A hdrop

lemma decodePadList_eq_some {s : List Char} {b : Bytes} :
    decodePadList A s = some b ↔ s = (encodePad A b).toList := by
  unfold decodePadList
  constructor
  · intro h
    split at h
    · split_ifs at h with hs
      cases h
      exact hs.symm
    · cases h
  · rintro rfl
    rw [toList_encodePad, rdropWhile_encode, decode_encodeNoPadList]
    simp

/-! ### Engines -/

/-- A strict decoder of text for an encoding: it accepts exactly the encodings. -/
structure Engine (encode : Bytes → String) where
  decode : String → Except String Bytes
  decode_eq_ok : ∀ s b, decode s = .ok b ↔ s = encode b

namespace Engine

variable {encode : Bytes → String} (E : Engine encode)

@[simp] lemma decode_encode (b : Bytes) : E.decode (encode b) = .ok b :=
  (E.decode_eq_ok _ _).mpr rfl

include E in
lemma encode_injective : Function.Injective encode := by
  intro b c h
  have hb := E.decode_encode b
  rw [h, E.decode_encode] at hb
  exact (Except.ok.inj hb).symm

/-- The engine of a decoder on character lists. -/
def ofList (decode : List Char → Option Bytes)
    (h : ∀ s b, decode s = some b ↔ s = (encode b).toList) : Engine encode where
  decode s := (decode s.toList).elim (.error "invalid base64") .ok
  decode_eq_ok s b := by
    rw [← String.toList_inj, ← h]
    cases decode s.toList <;> simp

end Engine

/-- The unpadded engine over an alphabet. -/
def noPadEngine : Engine (encodeNoPad A) :=
  .ofList (decodeNoPadList A) fun _ _ => by
    rw [decodeNoPadList_eq_some, toList_encodeNoPad]

/-- The padded engine over an alphabet. -/
def padEngine : Engine (encodePad A) :=
  .ofList (decodePadList A) fun _ _ => decodePadList_eq_some A

/-! ### The two alphabets -/

/-- The letters and the decimal digits, which the two alphabets share, then two signs. -/
def digitWith (plus slash : Char) (i : Fin 64) : Char :=
  if i.val < 26 then Char.ofNat ('A'.toNat + i.val)
  else if i.val < 52 then Char.ofNat ('a'.toNat + (i.val - 26))
  else if i.val < 62 then Char.ofNat ('0'.toNat + (i.val - 52))
  else if i.val = 62 then plus
  else slash

/-- Where a character stands in such an alphabet. -/
def position (plus slash c : Char) : ℕ :=
  if c = plus then 62
  else if c = slash then 63
  else if c.toNat ≤ '9'.toNat then 52 + (c.toNat - '0'.toNat)
  else if c.toNat ≤ 'Z'.toNat then c.toNat - 'A'.toNat
  else 26 + (c.toNat - 'a'.toNat)

lemma injective_of_position {plus slash : Char}
    (h : ∀ i, position plus slash (digitWith plus slash i) = i.val) (i j : Fin 64)
    (hij : digitWith plus slash i = digitWith plus slash j) : i = j := by
  rw [Fin.ext_iff, ← h i, ← h j, hij]

/-- RFC 4648 section 4. -/
def standard : Alphabet where
  digit := digitWith '+' '/'
  injective := injective_of_position (by decide)
  ne_pad := by decide

/-- RFC 4648 section 5, safe in URLs and file names. -/
def urlSafe : Alphabet where
  digit := digitWith '-' '_'
  injective := injective_of_position (by decide)
  ne_pad := by decide

end Base64
