import Mathlib.Data.List.DropRight
import Mathlib.Data.List.Basic
import Mathlib.Tactic.Common

/-!
# Text

The operations of `str` that the formats use, each with the equation that says what it cuts
the text into: trimming, stripping a prefix, splitting at a delimiter, and joining fields with
a delimiter.
-/

namespace Text

/-! ### White space -/

/-- The characters with the Unicode property `White_Space`, as `char::is_whitespace` has it. -/
def isWhitespace (c : Char) : Bool :=
  let n := c.toNat
  (9 ≤ n && n ≤ 13) || n = 0x20 || n = 0x85 || n = 0xA0 || n = 0x1680 ||
    (0x2000 ≤ n && n ≤ 0x200A) || n = 0x2028 || n = 0x2029 || n = 0x202F || n = 0x205F ||
    n = 0x3000

/-- A text of white space only. -/
def IsBlank (s : String) : Prop := ∀ c ∈ s.toList, isWhitespace c = true

/-- A text without white space. -/
def NoWhitespace (s : String) : Prop := ∀ c ∈ s.toList, isWhitespace c = false

instance (s : String) : Decidable (IsBlank s) :=
  decidable_of_iff (s.toList.all isWhitespace = true) List.all_eq_true

instance (s : String) : Decidable (NoWhitespace s) :=
  decidable_of_iff (s.toList.all (!isWhitespace ·) = true) (by simp [NoWhitespace])

lemma noWhitespace_append {s t : String} :
    NoWhitespace (s ++ t) ↔ NoWhitespace s ∧ NoWhitespace t := by
  simp only [NoWhitespace, String.toList_append, List.forall_mem_append]

lemma isBlank_append {s t : String} : IsBlank (s ++ t) ↔ IsBlank s ∧ IsBlank t := by
  simp only [IsBlank, String.toList_append, List.forall_mem_append]

def trimList (l : List Char) : List Char := (l.dropWhile isWhitespace).rdropWhile isWhitespace

/-- `str::trim`. -/
def trim (s : String) : String := String.ofList (trimList s.toList)

@[simp] lemma toList_trim (s : String) : (trim s).toList = trimList s.toList := by
  simp [trim]

lemma rdropWhile_append_of_pos {p : Char → Bool} {l m : List Char} (h : ∀ c ∈ m, p c = true) :
    (l ++ m).rdropWhile p = l.rdropWhile p := by
  simp only [List.rdropWhile, List.reverse_append]
  rw [List.dropWhile_append_of_pos (by simpa using h)]

lemma rdropWhile_map {α β : Type*} (f : α → β) (p : β → Bool) (l : List α) :
    (l.map f).rdropWhile p = (l.rdropWhile (p ∘ f)).map f := by
  simp only [List.rdropWhile, ← List.map_reverse, List.dropWhile_map]

/-- What is dropped from the end of a list is a run of the character. -/
lemma exists_eq_rdropWhile_append (d : Char) (l : List Char) :
    ∃ n, l = l.rdropWhile (· = d) ++ List.replicate n d := by
  refine ⟨(l.rtakeWhile (· = d)).length, ?_⟩
  have hrun : l.rtakeWhile (· = d) = List.replicate (l.rtakeWhile (· = d)).length d :=
    List.eq_replicate_of_mem fun c hc => by simpa using List.mem_rtakeWhile_imp hc
  rw [← hrun, List.rdropWhile_append_rtakeWhile]

lemma dropWhile_eq_self_of_neg {p : Char → Bool} {l : List Char} (h : ∀ c ∈ l, p c = false) :
    l.dropWhile p = l := by
  cases l with
  | nil => rfl
  | cons c l => rw [List.dropWhile_cons_of_neg (by simp [h c])]

/-- A text without white space is trimmed as it is. -/
lemma trim_of_noWhitespace {s : String} (hs : NoWhitespace s) : trim s = s := by
  rw [← String.toList_inj, toList_trim, trimList, dropWhile_eq_self_of_neg hs, List.rdropWhile,
    dropWhile_eq_self_of_neg (fun c hc => hs c (List.mem_reverse.mp hc)), List.reverse_reverse]

lemma trimList_append_of_blank {a b : List Char} (hb : ∀ c ∈ b, isWhitespace c = true) :
    trimList (a ++ b) = trimList a := by
  unfold trimList
  rw [List.dropWhile_append]
  split_ifs with ha
  · have hnil : b.dropWhile isWhitespace = [] := List.dropWhile_eq_nil_iff.mpr hb
    rw [hnil, List.isEmpty_iff.mp ha]
  · rw [rdropWhile_append_of_pos hb]

/-- White space around a text is not seen. -/
lemma trim_append_append {w₁ w₂ : String} (h₁ : IsBlank w₁) (h₂ : IsBlank w₂) (s : String) :
    trim (w₁ ++ s ++ w₂) = trim s := by
  rw [← String.toList_inj, toList_trim, toList_trim, String.toList_append,
    trimList_append_of_blank h₂, String.toList_append, trimList, trimList,
    List.dropWhile_append_of_pos h₁]

/-- Trimming removes exactly the white space around a text that has none at its ends. -/
lemma trim_blank_append {w₁ s w₂ : String} (h₁ : IsBlank w₁) (h₂ : IsBlank w₂)
    (hs : NoWhitespace s) : trim (w₁ ++ s ++ w₂) = s := by
  rw [trim_append_append h₁ h₂, trim_of_noWhitespace hs]

/-- What is trimmed off a text is white space. -/
lemma exists_eq_trim_append (s : String) :
    ∃ w₁ w₂, IsBlank w₁ ∧ IsBlank w₂ ∧ s = w₁ ++ trim s ++ w₂ := by
  refine ⟨String.ofList (s.toList.takeWhile isWhitespace),
    String.ofList ((s.toList.dropWhile isWhitespace).rtakeWhile isWhitespace), ?_, ?_, ?_⟩
  · intro c hc
    rw [String.toList_ofList] at hc
    exact List.mem_takeWhile_imp hc
  · intro c hc
    rw [String.toList_ofList] at hc
    exact List.mem_rtakeWhile_imp hc
  · rw [← String.toList_inj]
    simp only [String.toList_append, String.toList_ofList, toList_trim, trimList]
    rw [List.append_assoc, List.rdropWhile_append_rtakeWhile, List.takeWhile_append_dropWhile]

/-- A text that starts with a word is trimmed at its end only. -/
lemma exists_trim_word_append {s : String} (hs : NoWhitespace s) (hne : s ≠ "") (r : String) :
    ∃ t, trim (s ++ r) = s ++ t ∧ trim t = trim r := by
  obtain ⟨t, w, hw, ht, rfl⟩ : ∃ t w : String, IsBlank w ∧
      t.toList.rdropWhile isWhitespace = t.toList ∧ r = t ++ w := by
    refine ⟨String.ofList (r.toList.rdropWhile isWhitespace),
      String.ofList (r.toList.rtakeWhile isWhitespace), ?_, ?_, ?_⟩
    · intro c hc
      rw [String.toList_ofList] at hc
      exact List.mem_rtakeWhile_imp hc
    · rw [String.toList_ofList, List.rdropWhile_idempotent]
    · rw [← String.toList_inj]
      simp [List.rdropWhile_append_rtakeWhile]
  have hblank : IsBlank "" := by simp [IsBlank]
  have hcut : ∀ u : String, trim (u ++ w) = trim u := fun u => by
    simpa using trim_append_append hblank hw u
  refine ⟨t, ?_, (hcut t).symm⟩
  rw [← String.append_assoc, hcut, ← String.toList_inj, toList_trim, String.toList_append, trimList]
  have hhead : (s.toList ++ t.toList).dropWhile isWhitespace = s.toList ++ t.toList := by
    cases hl : s.toList with
    | nil => exact absurd (String.toList_eq_nil_iff.mp hl) hne
    | cons c l =>
      have hc : isWhitespace c = false := hs c (hl ▸ List.mem_cons_self)
      rw [List.cons_append, List.dropWhile_cons_of_neg (by simp [hc])]
  rw [hhead, List.rdropWhile_eq_self_iff]
  intro hnil
  rw [List.rdropWhile_eq_self_iff] at ht
  by_cases h : t.toList = []
  · have hmem := List.getLast_mem hnil
    simp only [h, List.append_nil] at hmem ⊢
    simp [hs _ hmem]
  · rw [List.getLast_append_of_ne_nil _ h]
    exact ht h

/-- The text without its white space. -/
def visible (s : String) : String := String.ofList (s.toList.filter fun c => !isWhitespace c)

lemma visible_append (s t : String) : visible (s ++ t) = visible s ++ visible t := by
  simp [visible]

lemma visible_of_isBlank {s : String} (hs : IsBlank s) : visible s = "" := by
  simpa [visible, IsBlank, ← String.toList_inj] using hs

lemma visible_of_noWhitespace {s : String} (hs : NoWhitespace s) : visible s = s := by
  simpa [visible, NoWhitespace, ← String.toList_inj] using hs

/-! ### Prefixes -/

/-- `str::strip_prefix`. -/
def stripPrefix (p s : String) : Option String :=
  if p.toList <+: s.toList then some (String.ofList (s.toList.drop p.toList.length)) else none

lemma stripPrefix_eq_some {p s t : String} : stripPrefix p s = some t ↔ s = p ++ t := by
  unfold stripPrefix
  simp only [← String.toList_inj, String.toList_append]
  constructor
  · intro h
    split_ifs at h with hp
    obtain ⟨u, hu⟩ := hp
    cases h
    simp [← hu]
  · intro h
    rw [if_pos ⟨t.toList, h.symm⟩, h]
    simp

/-- `str::starts_with`. -/
def startsWith (p s : String) : Bool := decide (p.toList <+: s.toList)

lemma startsWith_iff {p s : String} : startsWith p s = true ↔ ∃ t, s = p ++ t := by
  simp only [startsWith, decide_eq_true_eq, ← String.toList_inj, String.toList_append]
  constructor
  · rintro ⟨t, ht⟩
    exact ⟨String.ofList t, by simpa using ht.symm⟩
  · rintro ⟨t, ht⟩
    exact ⟨t.toList, ht.symm⟩

lemma stripPrefix_append (p t : String) : stripPrefix p (p ++ t) = some t :=
  stripPrefix_eq_some.mpr rfl

/-- Nothing is stripped from a text without the prefix. -/
lemma stripPrefix_of_not_startsWith {p s : String} (h : startsWith p s = false) :
    stripPrefix p s = none := by
  rw [startsWith, decide_eq_false_iff_not] at h
  exact if_neg h

/-! ### Splitting at a delimiter -/

/-- The character does not occur in the text. -/
def Free (d : Char) (s : String) : Prop := d ∉ s.toList

instance (d : Char) (s : String) : Decidable (Free d s) :=
  inferInstanceAs (Decidable (d ∉ s.toList))

lemma free_append {d : Char} {s t : String} : Free d (s ++ t) ↔ Free d s ∧ Free d t := by
  simp [Free, not_or]

def splitOnceList (d : Char) : List Char → Option (List Char × List Char)
  | [] => none
  | c :: l =>
    if c = d then some ([], l) else (splitOnceList d l).map fun p => (c :: p.1, p.2)

lemma splitOnceList_eq_some {d : Char} {l a b : List Char} :
    splitOnceList d l = some (a, b) ↔ l = a ++ d :: b ∧ d ∉ a := by
  induction l generalizing a with
  | nil => simp [splitOnceList]
  | cons c l ih =>
    unfold splitOnceList
    split_ifs with hc
    · subst hc
      cases a with
      | nil => simp [eq_comm]
      | cons e a => simp +contextual [eq_comm]
    · rw [Option.map_eq_some_iff]
      cases a with
      | nil => simp [hc]
      | cons e a =>
        simp only [Prod.exists, Prod.mk.injEq, List.cons.injEq, List.cons_append,
          List.mem_cons, not_or]
        constructor
        · rintro ⟨a', b', h, ⟨rfl, rfl⟩, rfl⟩
          obtain ⟨rfl, ha⟩ := ih.mp h
          exact ⟨⟨rfl, rfl⟩, Ne.symm hc, ha⟩
        · rintro ⟨⟨rfl, h⟩, -, ha⟩
          exact ⟨a, b, ih.mpr ⟨h, ha⟩, ⟨rfl, rfl⟩, rfl⟩

/-- `str::split_once` of a character. -/
def splitOnce (d : Char) (s : String) : Option (String × String) :=
  (splitOnceList d s.toList).map fun p => (String.ofList p.1, String.ofList p.2)

/-- The first delimiter of a text is the one it is split at. -/
lemma splitOnce_eq_some {d : Char} {s a b : String} :
    splitOnce d s = some (a, b) ↔ s = a ++ String.singleton d ++ b ∧ Free d a := by
  unfold splitOnce
  rw [Option.map_eq_some_iff, ← String.toList_inj]
  simp only [String.toList_append, String.toList_singleton, List.append_assoc,
    List.singleton_append]
  constructor
  · rintro ⟨⟨l, r⟩, h, hp⟩
    cases hp
    simpa [Free] using splitOnceList_eq_some.mp h
  · intro h
    exact ⟨(a.toList, b.toList), splitOnceList_eq_some.mpr h, by simp⟩

/-- `str::splitn`: at most `n` parts, the last of which keeps the delimiters it has. -/
def splitN : ℕ → Char → String → List String
  | 0, _, _ => []
  | 1, _, s => [s]
  | n + 2, d, s =>
    match splitOnce d s with
    | some (a, b) => a :: splitN (n + 1) d b
    | none => [s]

/-- A text of several parts is cut at its first delimiter. -/
lemma splitN_eq_cons_cons {n : ℕ} {d : Char} {s a b : String} {l : List String} :
    splitN (n + 2) d s = a :: b :: l ↔
      ∃ t, s = a ++ String.singleton d ++ t ∧ Free d a ∧ splitN (n + 1) d t = b :: l := by
  rw [splitN]
  constructor
  · intro h
    split at h
    · rename_i a' t hs
      rw [List.cons.injEq] at h
      obtain ⟨rfl, hl⟩ := h
      obtain ⟨rfl, ha⟩ := splitOnce_eq_some.mp hs
      exact ⟨t, rfl, ha, hl⟩
    · simp at h
  · rintro ⟨t, hs, ha, hl⟩
    rw [splitOnce_eq_some.mpr ⟨hs, ha⟩, ← hl]

/-! ### Fields -/

/-- A first field and further fields, each of which a delimiter precedes. -/
def fields {α : Type*} (d : α) (first : List α) (rest : List (List α)) : List α :=
  first ++ rest.flatMap fun f => d :: f

section fields

variable {α : Type*} {d : α}

@[simp] lemma fields_nil (first : List α) : fields d first [] = first := by simp [fields]

lemma fields_concat (first : List α) (rest : List (List α)) (f : List α) :
    fields d first (rest ++ [f]) = fields d first rest ++ d :: f := by
  simp [fields]

lemma fields_cons (first : List α) (f : List α) (rest : List (List α)) :
    fields d first (f :: rest) = first ++ d :: fields d f rest := by
  simp [fields]

/-- The first occurrence of a delimiter determines both sides of it. -/
lemma append_cons_inj_of_notMem_left {a a' b b' : List α} (ha : d ∉ a) (ha' : d ∉ a') :
    a ++ d :: b = a' ++ d :: b' ↔ a = a' ∧ b = b' := by
  constructor
  · rw [List.append_eq_append_iff]
    rintro (⟨c, rfl, h⟩ | ⟨c, rfl, h⟩)
    · cases c with
      | nil => simpa using h
      | cons x c => simp_all
    · cases c with
      | nil => simpa [eq_comm] using h
      | cons x c => simp_all
  · rintro ⟨rfl, rfl⟩
    rfl

/-- The last occurrence of a delimiter determines both sides of it. -/
lemma append_cons_inj_of_notMem_right {a a' b b' : List α} (hb : d ∉ b) (hb' : d ∉ b') :
    a ++ d :: b = a' ++ d :: b' ↔ a = a' ∧ b = b' := by
  rw [← List.reverse_inj]
  simp only [List.reverse_append, List.reverse_cons, List.append_assoc, List.cons_append,
    List.nil_append]
  rw [append_cons_inj_of_notMem_left (by simpa) (by simpa), List.reverse_inj, List.reverse_inj,
    and_comm]

/-- Fields that are free of the delimiter can be read back from the right, whatever the first
field holds. -/
lemma fields_inj {a a' : List α} {fs fs' : List (List α)} (hlen : fs.length = fs'.length)
    (hfs : ∀ f ∈ fs, d ∉ f) (hfs' : ∀ f ∈ fs', d ∉ f)
    (h : fields d a fs = fields d a' fs') : a = a' ∧ fs = fs' := by
  induction fs using List.reverseRecOn generalizing fs' with
  | nil =>
    rw [List.length_nil, eq_comm, List.length_eq_zero_iff] at hlen
    subst hlen
    exact ⟨by simpa using h, rfl⟩
  | append_singleton fs f ih =>
    rcases List.eq_nil_or_concat fs' with rfl | ⟨gs, g, rfl⟩
    · simp at hlen
    · simp only [List.concat_eq_append, List.length_append, List.length_singleton,
        Nat.add_right_cancel_iff] at hlen h hfs' ⊢
      rw [fields_concat, fields_concat,
        append_cons_inj_of_notMem_right (hfs f (by simp)) (hfs' g (by simp))] at h
      obtain ⟨rfl, rfl⟩ := ih hlen (fun x hx => hfs x (by simp [hx]))
        (fun x hx => hfs' x (by simp [hx])) h.1
      exact ⟨rfl, by rw [h.2]⟩

end fields

/-- A text followed by further ones, each behind a delimiter. -/
def joinFields (d : Char) (first : String) (rest : List String) : String :=
  rest.foldl (fun s f => s ++ String.singleton d ++ f) first

lemma toList_joinFields (d : Char) (first : String) (rest : List String) :
    (joinFields d first rest).toList = fields d first.toList (rest.map String.toList) := by
  induction rest using List.reverseRecOn with
  | nil => simp [joinFields]
  | append_singleton rest f ih =>
    rw [joinFields] at ih ⊢
    rw [List.foldl_append, List.map_append, List.map_singleton, fields_concat, ← ih]
    simp

/-- Fields that are free of the delimiter can be read back from the right. -/
lemma joinFields_inj {d : Char} {a a' : String} {fs fs' : List String}
    (hlen : fs.length = fs'.length) (hfs : ∀ f ∈ fs, Free d f) (hfs' : ∀ f ∈ fs', Free d f)
    (h : joinFields d a fs = joinFields d a' fs') : a = a' ∧ fs = fs' := by
  rw [← String.toList_inj, toList_joinFields, toList_joinFields] at h
  obtain ⟨ha, hf⟩ := fields_inj (by simpa) (by simpa [Free] using hfs)
    (by simpa [Free] using hfs') h
  exact ⟨String.toList_inj.mp ha, List.map_injective_iff.mpr (fun _ _ => String.toList_inj.mp) hf⟩

/-- A first text that is free of the delimiter can be read back from the left. -/
lemma joinFields_cons_inj_left {d : Char} {a a' f f' : String} {fs fs' : List String}
    (ha : Free d a) (ha' : Free d a')
    (h : joinFields d a (f :: fs) = joinFields d a' (f' :: fs')) :
    a = a' ∧ joinFields d f fs = joinFields d f' fs' := by
  rw [← String.toList_inj, toList_joinFields, toList_joinFields, List.map_cons, List.map_cons,
    fields_cons, fields_cons, append_cons_inj_of_notMem_left ha ha', ← toList_joinFields,
    ← toList_joinFields] at h
  exact ⟨String.toList_inj.mp h.1, String.toList_inj.mp h.2⟩

lemma free_intercalate {d : Char} {sep : String} {l : List String} (hsep : Free d sep)
    (hl : ∀ s ∈ l, Free d s) : Free d (sep.intercalate l) := by
  induction l with
  | nil => simp [Free]
  | cons s l ih =>
    have hs := hl s (by simp)
    have hrest := ih fun t ht => hl t (by simp [ht])
    cases l with
    | nil => simpa using hs
    | cons t l =>
      rw [String.intercalate_cons_cons]
      exact free_append.mpr ⟨free_append.mpr ⟨hs, hsep⟩, hrest⟩

/-- Only the empty list and the list of one empty text have the same join. -/
lemma intercalate_inj {d : Char} {l m : List String} (hl : ∀ s ∈ l, Free d s)
    (hm : ∀ s ∈ m, Free d s) (hlm : ¬(l = [] ∧ m = [""])) (hml : ¬(l = [""] ∧ m = []))
    (h : (String.singleton d).intercalate l = (String.singleton d).intercalate m) : l = m := by
  have hsplit : ∀ k : List String, (∀ s ∈ k, Free d s) → k ≠ [] →
      (((String.singleton d).intercalate k).toList).splitOn d = k.map String.toList := by
    intro k hk hne
    rw [String.toList_intercalate, String.toList_singleton,
      List.splitOn_intercalate d (by simpa [Free] using hk) (by simpa using hne)]
  have hblank : ∀ k : List String, (∀ s ∈ k, Free d s) →
      (String.singleton d).intercalate k = "" → k = [] ∨ k = [""] := by
    intro k hk hempty
    by_cases hne : k = []
    · exact .inl hne
    · have := hsplit k hk hne
      rw [hempty, String.toList_empty, List.splitOn_nil, eq_comm, List.map_eq_cons_iff] at this
      obtain ⟨s, k', rfl, hs, hk'⟩ := this
      rw [List.map_eq_nil_iff] at hk'
      rw [String.toList_eq_nil_iff] at hs
      exact .inr (by rw [hs, hk'])
  by_cases hl' : l = []
  · subst hl'
    rcases hblank m hm (by rw [← h]; simp) with rfl | rfl
    · rfl
    · exact absurd ⟨rfl, rfl⟩ hlm
  by_cases hm' : m = []
  · subst hm'
    rcases hblank l hl (by rw [h]; simp) with rfl | rfl
    · rfl
    · exact absurd ⟨rfl, rfl⟩ hml
  · have := hsplit l hl hl'
    rw [h, hsplit m hm hm'] at this
    exact List.map_injective_iff.mpr (fun _ _ => String.toList_inj.mp) this.symm

end Text
