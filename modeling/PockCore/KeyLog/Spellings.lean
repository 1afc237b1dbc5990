import PockCore.KeyLog.Certificate

/-!
# The spellings of a byte string

The key log reads base64 in both dialects. The texts it reads as a byte string are the
spellings of the standard encoding: each sign in the dialect of either alphabet, and padding
of any length behind them.
-/

namespace PockCore

namespace KeyLog

variable {P : Primitives}

/-! ### Respelling -/

/-- The characters that may stand for a character of the standard dialect. -/
inductive Respells : Char → Char → Prop
  | same (c : Char) : Respells c c
  | plus : Respells '-' '+'
  | slash : Respells '_' '/'

/-- A spelling of a byte string: its unpadded encoding in the standard dialect, with any of the
signs in the URL-safe dialect, and any number of padding characters. -/
def IsSpelling (s : String) (b : Bytes) : Prop :=
  ∃ l n, s.toList = l ++ List.replicate n '=' ∧
    List.Forall₂ Respells l (Base64.encodeNoPad Base64.standard b).toList

lemma toStandard_digit (i : Fin 64) :
    toStandard (Base64.standard.digit i) = Base64.standard.digit i := by
  revert i
  decide

lemma toStandard_digit_urlSafe (i : Fin 64) :
    toStandard (Base64.urlSafe.digit i) = Base64.standard.digit i := by
  revert i
  decide

lemma toStandard_eq_pad {c : Char} : toStandard c = '=' ↔ c = '=' := by
  unfold toStandard
  split <;> simp

/-- The characters that are mapped to a symbol are those that stand for it. -/
lemma toStandard_eq_digit {c : Char} {i : Fin 64} :
    toStandard c = Base64.standard.digit i ↔ Respells c (Base64.standard.digit i) := by
  constructor
  · intro h
    rw [← h]
    unfold toStandard
    split
    · exact .plus
    · exact .slash
    · exact .same c
  · generalize hd : Base64.standard.digit i = d
    intro h
    cases h with
    | same => rw [← hd, toStandard_digit]
    | plus => rfl
    | slash => rfl

/-- A text is mapped to a text of symbols if it respells it. -/
lemma map_toStandard_eq {l m : List Char} (hm : ∀ d ∈ m, ∃ i, d = Base64.standard.digit i) :
    l.map toStandard = m ↔ List.Forall₂ Respells l m := by
  induction m generalizing l with
  | nil => simp
  | cons d m ih =>
    obtain ⟨i, rfl⟩ := hm d List.mem_cons_self
    cases l with
    | nil => simp
    | cons c l =>
      rw [List.map_cons, List.cons.injEq, List.forall₂_cons, toStandard_eq_digit,
        ih fun d hd => hm d (List.mem_cons_of_mem _ hd)]

/-- Before padding is dropped and after, the same characters are mapped. -/
lemma rdropWhile_map_toStandard (l : List Char) :
    (l.map toStandard).rdropWhile (· = '=') = (l.rdropWhile (· = '=')).map toStandard := by
  have hp : (fun c => decide (c = '=')) ∘ toStandard = fun c => decide (c = '=') := by
    funext c
    simp only [Function.comp_apply, toStandard_eq_pad]
  rw [Text.rdropWhile_map, hp]

/-! ### Decoding -/

lemma pad_notMem_of_map {l : List Char} {b : Bytes}
    (h : l.map toStandard = Base64.encodeNoPadList Base64.standard b) : '=' ∉ l := by
  intro hmem
  apply Base64.pad_notMem_encodeNoPadList Base64.standard b
  rw [← h, ← toStandard_eq_pad.mpr (rfl : '=' = '=')]
  exact List.mem_map_of_mem hmem

/-- A text that decodes is symbols, then padding. -/
lemma exists_unpadded {s : String} {b : Bytes} (h : b64Any P s = some b) :
    ∃ l n, s.toList = l ++ List.replicate n '=' ∧
      l.map toStandard = Base64.encodeNoPadList Base64.standard b := by
  obtain ⟨n, hn⟩ := Text.exists_eq_rdropWhile_append '=' s.toList
  rw [b64Any_eq_some, rdropWhile_map_toStandard] at h
  exact ⟨_, n, hn, h⟩

/-- The text before the padding decides. -/
lemma b64Any_of_unpadded {s : String} {b : Bytes} {l : List Char} {n : ℕ}
    (hs : s.toList = l ++ List.replicate n '=') (hl : '=' ∉ l) :
    b64Any P s = some b ↔ l.map toStandard = Base64.encodeNoPadList Base64.standard b := by
  have hdrop : s.toList.rdropWhile (· = '=') = l := by
    rw [hs, Text.rdropWhile_append_of_pos (by simp), List.rdropWhile_eq_self_iff]
    intro hne hlast
    rw [decide_eq_true_eq] at hlast
    exact hl (hlast ▸ List.getLast_mem hne)
  rw [b64Any_eq_some, rdropWhile_map_toStandard, hdrop]

lemma b64Any_eq_some_iff_isSpelling {s : String} {b : Bytes} :
    b64Any P s = some b ↔ IsSpelling s b := by
  have hsymbols : ∀ d ∈ Base64.encodeNoPadList Base64.standard b,
      ∃ i, d = Base64.standard.digit i := fun d hd => Base64.mem_encodeNoPadList _ hd
  rw [IsSpelling, Base64.toList_encodeNoPad]
  constructor
  · intro h
    obtain ⟨l, n, hs, hl⟩ := exists_unpadded h
    exact ⟨l, n, hs, (map_toStandard_eq hsymbols).mp hl⟩
  · rintro ⟨l, n, hs, hl⟩
    rw [← map_toStandard_eq hsymbols] at hl
    rwa [b64Any_of_unpadded hs (pad_notMem_of_map hl)]

/-! ### What is not decoded -/

/-- Padding stands at the end only. -/
lemma b64Any_of_inner_pad {s : String} {u v : List Char} {c : Char}
    (hs : s.toList = u ++ '=' :: v) (hv : c ∈ v) (hc : c ≠ '=') : b64Any P s = none := by
  rw [Option.eq_none_iff_forall_ne_some]
  intro b hb
  obtain ⟨l, n, hn, hl⟩ := exists_unpadded hb
  have hpad := pad_notMem_of_map hl
  rw [hs, List.append_eq_append_iff] at hn
  -- The character stands behind the padding character, so both would be among the dropped.
  have hrun : c ∉ List.replicate n '=' := fun hmem => hc (List.eq_of_mem_replicate hmem)
  rcases hn with ⟨k, rfl, hk⟩ | ⟨k, rfl, hk⟩
  · cases k with
    | nil =>
      rw [List.nil_append] at hk
      exact hrun (hk ▸ List.mem_cons_of_mem _ hv)
    | cons d k =>
      rw [List.cons_append, List.cons.injEq] at hk
      exact hpad (List.mem_append_right _ (hk.1 ▸ List.mem_cons_self))
  · exact hrun (hk ▸ List.mem_append_right _ (List.mem_cons_of_mem _ hv))

/-- A character of neither alphabet is refused wherever it stands. -/
lemma b64Any_of_foreign {s : String} {c : Char} (hs : c ∈ s.toList) (hc : c ≠ '=')
    (hstd : ∀ i, c ≠ Base64.standard.digit i) (hurl : ∀ i, c ≠ Base64.urlSafe.digit i) :
    b64Any P s = none := by
  rw [Option.eq_none_iff_forall_ne_some]
  intro b hb
  obtain ⟨l, n, hn, hl⟩ := exists_unpadded hb
  rw [hn, List.mem_append] at hs
  rcases hs with hs | hs
  · have hmem := List.mem_map_of_mem (f := toStandard) hs
    rw [hl] at hmem
    obtain ⟨i, hi⟩ := Base64.mem_encodeNoPadList _ hmem
    have hresp := toStandard_eq_digit.mp hi
    generalize hd : Base64.standard.digit i = d at hresp
    cases hresp with
    | same => exact hstd i hd.symm
    | plus => exact hurl 62 rfl
    | slash => exact hurl 63 rfl
  · exact hc (List.eq_of_mem_replicate hs)

/-- A single symbol behind the full groups is refused. -/
lemma b64Any_of_dangling {s : String} {l : List Char} {n : ℕ}
    (hs : s.toList = l ++ List.replicate n '=') (hpad : '=' ∉ l) (hlen : l.length % 4 = 1) :
    b64Any P s = none := by
  rw [Option.eq_none_iff_forall_ne_some]
  intro b hb
  rw [b64Any_of_unpadded hs hpad] at hb
  apply Base64.encodeNoPadList_length_mod Base64.standard b
  rw [← hb, List.length_map, hlen]

/-- The last symbol of an incomplete group has bits that no byte takes. They are to be zero. -/
lemma b64Any_of_trailing_bits {s : String} {l : List Char} {c : Char} {n v : ℕ}
    (hs : s.toList = l ++ [c] ++ List.replicate n '=')
    (hv : Base64.standard.value (toStandard c) = some v)
    (hbits : l.length % 4 = 1 ∧ v % 16 ≠ 0 ∨ l.length % 4 = 2 ∧ v % 4 ≠ 0) :
    b64Any P s = none := by
  rw [Option.eq_none_iff_forall_ne_some]
  intro b hb
  have hc : c ≠ '=' := by
    rintro rfl
    obtain ⟨-, hpad⟩ := Base64.standard.value_eq_some.mp hv
    exact Base64.standard.ne_pad _ hpad.symm
  by_cases hl : '=' ∈ l
  · -- Then that padding character stands before the last symbol.
    obtain ⟨u, w, rfl⟩ := List.append_of_mem hl
    have hs' : s.toList = u ++ '=' :: (w ++ [c] ++ List.replicate n '=') := by
      rw [hs]
      simp
    rw [b64Any_of_inner_pad hs' (by simp) hc] at hb
    cases hb
  · rw [b64Any_of_unpadded hs (by simpa [not_or] using ⟨hl, hc.symm⟩), List.map_append,
      List.map_singleton, eq_comm] at hb
    have hlast := Base64.exists_char_of_encodeNoPadList_eq_concat _ hb
    rw [List.length_map] at hlast
    rcases hbits with ⟨hlen, hne⟩ | ⟨hlen, hne⟩
    · obtain ⟨m, hm, hchar⟩ := hlast.1 hlen
      rw [hchar, Base64.standard.value_char (by omega), Option.some.injEq] at hv
      omega
    · obtain ⟨m, hm, hchar⟩ := hlast.2 hlen
      rw [hchar, Base64.standard.value_char (by omega), Option.some.injEq] at hv
      omega

/-! ### The decoder -/

/-- The decoder reads the spellings of a byte string, and nothing else. -/
structure DecodesSpellings (P : Primitives) : Prop where
  /-- A text is read as the bytes it is a spelling of. -/
  spellings : ∀ s b, b64Any P s = some b ↔ IsSpelling s b
  /-- Either dialect is read alone, with padding of any length. -/
  dialects : ∀ A, A = Base64.standard ∨ A = Base64.urlSafe → ∀ b n,
    b64Any P (Base64.encodeNoPad A b ++ String.ofList (List.replicate n '=')) = some b
  /-- Signs may be exchanged for those of the other dialect one by one. -/
  mixed : ∀ s s', s.toList.map toStandard = s'.toList.map toStandard →
    b64Any P s = b64Any P s'
  /-- Padding of any length may be added to what is read, or to what is not. -/
  padding : ∀ s n, b64Any P (s ++ String.ofList (List.replicate n '=')) = b64Any P s
  inner : ∀ s u v c, s.toList = u ++ '=' :: v → c ∈ v → c ≠ '=' → b64Any P s = none
  foreign : ∀ s c, c ∈ s.toList → c ≠ '=' → (∀ i, c ≠ Base64.standard.digit i) →
    (∀ i, c ≠ Base64.urlSafe.digit i) → b64Any P s = none
  dangling : ∀ s l n, s.toList = l ++ List.replicate n '=' → '=' ∉ l → l.length % 4 = 1 →
    b64Any P s = none
  trailing : ∀ s l c n v, s.toList = l ++ [c] ++ List.replicate n '=' →
    Base64.standard.value (toStandard c) = some v →
    l.length % 4 = 1 ∧ v % 16 ≠ 0 ∨ l.length % 4 = 2 ∧ v % 4 ≠ 0 → b64Any P s = none

lemma map_toStandard_encodeNoPadList_urlSafe (b : Bytes) :
    (Base64.encodeNoPadList Base64.urlSafe b).map toStandard =
      Base64.encodeNoPadList Base64.standard b := by
  have hchar : ∀ n, toStandard (Base64.urlSafe.char n) = Base64.standard.char n :=
    fun n => toStandard_digit_urlSafe _
  fun_induction Base64.encodeNoPadList Base64.urlSafe b with
  | case1 => rfl
  | case2 x => simp [Base64.encodeNoPadList, hchar]
  | case3 x y => simp [Base64.encodeNoPadList, hchar]
  | case4 x y z rest ih => simp [Base64.encodeNoPadList, hchar, ih]

lemma b64Any_congr {s s' : String} (h : ∀ b, b64Any P s = some b ↔ b64Any P s' = some b) :
    b64Any P s = b64Any P s' := Option.ext fun b => by rw [h b]

/-- Both dialects, mixed or not and padded or not, are decoded, and every other text is
refused. -/
theorem decodesSpellings (P : Primitives) : DecodesSpellings P where
  spellings s b := b64Any_eq_some_iff_isSpelling
  dialects A hA b n := by
    have hl : (Base64.encodeNoPadList A b).map toStandard =
        Base64.encodeNoPadList Base64.standard b := by
      rcases hA with rfl | rfl
      · rw [map_toStandard_eq fun d hd => Base64.mem_encodeNoPadList _ hd, List.forall₂_same]
        exact fun c _ => .same c
      · exact map_toStandard_encodeNoPadList_urlSafe b
    rw [b64Any_of_unpadded (n := n) (by simp) (pad_notMem_of_map hl), hl]
  mixed s s' h := b64Any_congr fun b => by rw [b64Any_eq_some, b64Any_eq_some, h]
  padding s n := b64Any_congr fun b => by
    rw [b64Any_eq_some, b64Any_eq_some, String.toList_append, String.toList_ofList,
      List.map_append, Text.rdropWhile_append_of_pos (by simp [toStandard])]
  inner _ _ _ _ := b64Any_of_inner_pad
  foreign _ _ := b64Any_of_foreign
  dangling _ _ _ := b64Any_of_dangling
  trailing _ _ _ _ _ := b64Any_of_trailing_bits

end KeyLog

end PockCore
