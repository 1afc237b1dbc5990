import PockCore.Lib.Hex
import PockCore.Nscrypto.Basic

/-!
# What a namespace draws

A namespace key, a salt and a recovery code. The code is the hexadecimal text of ten bytes in
groups of four digits; the groups are cut out of the bytes of the text and read as text again.
-/

namespace PockCore

namespace Nscrypto

def randomNk (nk : ByteArr 32) : ByteArr 32 := nk

def randomSaltB64 (salt : ByteArr 16) : String := b64std salt.toList

/-- Each group as text; one that is not UTF-8 panics. -/
def utf8Groups : List Bytes → Result (List String)
  | [] => .ok []
  | c :: cs => do
    let s ← match Bytes.toString? c with
      | some s => .ok s
      | none => .panic
    let rest ← utf8Groups cs
    .ok (s :: rest)

def randomNsRecoveryCode (b : ByteArr 10) : Result String := do
  let hex := Hex.encode b.toList
  let groups ← utf8Groups (Pieces.chunks 4 (Bytes.ofString hex))
  .ok ("-".intercalate groups)

end Nscrypto

namespace Flows

def nsRandomNk (nk : ByteArr 32) : String := nsB64 (Nscrypto.randomNk nk).toList

def nsRandomSalt (salt : ByteArr 16) : String := Nscrypto.randomSaltB64 salt

def nsRandomRecoveryCode (b : ByteArr 10) : Result String := Nscrypto.randomNsRecoveryCode b

end Flows

namespace Nscrypto

/-! ### Recovery codes -/

/-- Five groups of four lower-case hexadecimal digits. -/
def IsRecoveryCode (s : String) : Prop :=
  ∃ groups : List String, groups.length = 5 ∧
    (∀ g ∈ groups, g.toList.length = 4 ∧ ∀ c ∈ g.toList, Hex.IsDigit c) ∧
    s = "-".intercalate groups

lemma utf8Groups_ofString (gs : List String) : utf8Groups (gs.map Bytes.ofString) = .ok gs := by
  induction gs with
  | nil => rfl
  | cons g gs ih =>
    rw [List.map_cons, utf8Groups, Bytes.toString?_ofString, ih]
    rfl

lemma ofString_flatten (gs : List String) :
    Bytes.ofString (String.ofList (gs.map String.toList).flatten) =
      (gs.map Bytes.ofString).flatten := by
  induction gs with
  | nil => rfl
  | cons g gs ih =>
    rw [List.map_cons, List.flatten_cons, List.map_cons, List.flatten_cons, ← ih,
      String.ofList_append, String.ofList_toList]
    simp [Bytes.ofString, String.toByteArray_append]

/-- Groups of four digits are cut apart where they were joined. -/
lemma chunks_ofString {gs : List String}
    (hgs : ∀ g ∈ gs, g.toList.length = 4 ∧ ∀ c ∈ g.toList, Hex.IsDigit c) :
    Pieces.chunks 4 (Bytes.ofString (String.ofList (gs.map String.toList).flatten)) =
      gs.map Bytes.ofString := by
  rw [ofString_flatten]
  apply Pieces.chunks_flatten (by decide)
  intro piece hpiece
  obtain ⟨g, hg, rfl⟩ := List.mem_map.mp hpiece
  obtain ⟨hlen, hdigits⟩ := hgs g hg
  rw [← hlen, ← Hex.length_ofString hdigits, String.ofList_toList]

/-- The code of ten bytes is made of the groups of their hexadecimal text. -/
lemma randomNsRecoveryCode_eq {b : ByteArr 10} {gs : List String}
    (hgs : ∀ g ∈ gs, g.toList.length = 4 ∧ ∀ c ∈ g.toList, Hex.IsDigit c)
    (hflat : (gs.map String.toList).flatten = Hex.encodeList b.toList) :
    randomNsRecoveryCode b = .ok ("-".intercalate gs) := by
  rw [randomNsRecoveryCode, Hex.encode, ← hflat, chunks_ofString hgs, utf8Groups_ofString]
  rfl

lemma exists_groups (b : ByteArr 10) : ∃ gs : List String, gs.length = 5 ∧
    (∀ g ∈ gs, g.toList.length = 4 ∧ ∀ c ∈ g.toList, Hex.IsDigit c) ∧
    (gs.map String.toList).flatten = Hex.encodeList b.toList := by
  have hlen : (Hex.encodeList b.toList).length = 5 * 4 := by simp
  obtain ⟨ls, hls, hfour, hflat⟩ := Pieces.exists_flatten hlen
  have hmap : (ls.map String.ofList).map String.toList = ls := by simp
  refine ⟨ls.map String.ofList, by rw [List.length_map, hls], ?_, by rw [hmap, hflat]⟩
  intro g hg
  obtain ⟨l, hl, rfl⟩ := List.mem_map.mp hg
  rw [String.toList_ofList]
  refine ⟨hfour l hl, fun c hc => ?_⟩
  have hmem : c ∈ ls.flatten := List.mem_flatten.mpr ⟨l, hl, hc⟩
  rw [hflat] at hmem
  exact Hex.isDigit_of_mem_encodeList hmem

lemma groups_inj {gs gs' : List String} (hlen : gs.length = 5)
    (hgs : ∀ g ∈ gs, g.toList.length = 4 ∧ ∀ c ∈ g.toList, Hex.IsDigit c)
    (hgs' : ∀ g ∈ gs', g.toList.length = 4 ∧ ∀ c ∈ g.toList, Hex.IsDigit c)
    (h : "-".intercalate gs = "-".intercalate gs') : gs = gs' := by
  have hfree : ∀ {l : List String}, (∀ g ∈ l, g.toList.length = 4 ∧ ∀ c ∈ g.toList,
      Hex.IsDigit c) → ∀ g ∈ l, Text.Free '-' g := by
    intro l hl g hg hmem
    exact absurd ((hl g hg).2 '-' hmem) (by decide)
  apply Text.intercalate_inj (hfree hgs) (hfree hgs')
  · rintro ⟨rfl, -⟩
    simp at hlen
  · rintro ⟨rfl, -⟩
    simp at hlen
  · exact h

/-- Recovery codes are generated without a panic, different ones for different draws, and the codes
that are generated are all texts of five groups of four lower-case hexadecimal digits. -/
theorem generatesRecoveryCodes :
    (∀ b, ∃ s, randomNsRecoveryCode b = .ok s) ∧
      (∀ b b' s, randomNsRecoveryCode b = .ok s → randomNsRecoveryCode b' = .ok s → b = b') ∧
      ∀ s, (∃ b, randomNsRecoveryCode b = .ok s) ↔ IsRecoveryCode s := by
  refine ⟨fun b => ?_, fun b b' s hs hs' => ?_, fun s => ⟨?_, ?_⟩⟩
  · obtain ⟨gs, -, hgs, hflat⟩ := exists_groups b
    exact ⟨_, randomNsRecoveryCode_eq hgs hflat⟩
  · obtain ⟨gs, hlen, hgs, hflat⟩ := exists_groups b
    obtain ⟨gs', -, hgs', hflat'⟩ := exists_groups b'
    rw [randomNsRecoveryCode_eq hgs hflat, Outcome.ok.injEq] at hs
    rw [randomNsRecoveryCode_eq hgs' hflat', Outcome.ok.injEq] at hs'
    obtain rfl := groups_inj hlen hgs hgs' (hs.trans hs'.symm)
    exact ByteArr.toList_inj.mp (Hex.encodeList_injective (hflat.symm.trans hflat'))
  · rintro ⟨b, hb⟩
    obtain ⟨gs, hlen, hgs, hflat⟩ := exists_groups b
    rw [randomNsRecoveryCode_eq hgs hflat, Outcome.ok.injEq] at hb
    exact ⟨gs, hlen, hgs, hb.symm⟩
  · rintro ⟨gs, hlen, hgs, rfl⟩
    have hdigits : ∀ c ∈ (gs.map String.toList).flatten, Hex.IsDigit c := by
      intro c hc
      obtain ⟨l, hl, hmem⟩ := List.mem_flatten.mp hc
      obtain ⟨g, hg, rfl⟩ := List.mem_map.mp hl
      exact (hgs g hg).2 c hmem
    have hall : ∀ l ∈ gs.map String.toList, l.length = 4 := by
      intro l hl
      obtain ⟨g, hg, rfl⟩ := List.mem_map.mp hl
      exact (hgs g hg).1
    have hflat : (gs.map String.toList).flatten.length = 2 * 10 := by
      rw [Pieces.length_flatten hall, List.length_map, hlen]
    obtain ⟨b, hb, hencode⟩ := Hex.exists_encodeList hflat hdigits
    exact ⟨⟨b, hb⟩, randomNsRecoveryCode_eq hgs hencode.symm⟩

end Nscrypto

end PockCore
