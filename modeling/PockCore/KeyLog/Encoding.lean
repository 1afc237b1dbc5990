import Mathlib
import PockCore.KeyLog.Basic
import PockCore.Crypto.Reference

/-!
# What the canonical bytes determine

No field of an encoding is escaped. The first field may hold any text all the same, since the
others are read back from the right; the strings of a Root of Trust may not.
-/

namespace PockCore

open Text

/-! ### Numbers -/

lemma free_natRepr {d : Char} (hd : d.isDigit = false) (n : ℕ) : Free d (Nat.repr n) := by
  intro h
  rw [Nat.toList_repr] at h
  simp [Nat.isDigit_of_mem_toDigits (by decide) (by decide) h] at hd

lemma free_intRepr {d : Char} (hd : d.isDigit = false) (hs : d ≠ '-') (n : ℤ) :
    Free d (Int.repr n) := by
  rw [Int.repr_eq_if]
  split_ifs
  · exact free_natRepr hd _
  · exact free_append.mpr ⟨by simpa [Free] using hs, free_natRepr hd _⟩

namespace KeyLog

lemma free_canonicalRot {rot : Rot} (h : ∀ c ∈ rot.custodians, Free '\n' c) :
    Free '\n' (canonicalRot rot) := by
  have hjoin : Free '\n' (",".intercalate rot.custodians) := free_intercalate (by decide) h
  exact free_append.mpr ⟨free_append.mpr ⟨hjoin, by decide⟩, free_natRepr (by decide) _⟩

/-! ### Statements of the log -/

/-- What the log and the custodians put their names to. -/
inductive Statement where
  | leaf (userId kemPubkey signPubkey : String) (ts : Int64)
  | treeHead (logId : String) (size : UInt64) (rootHex : String) (ts : Int64)
  | cert (userId kemPubkey signPubkey : String) (rot : Rot) (principalSeq : UInt64) (ts : Int64)

namespace Statement

def bytes : Statement → Bytes
  | leaf userId kemPubkey signPubkey ts => leafBytes userId kemPubkey signPubkey ts
  | treeHead logId size rootHex ts => sthMessage logId size rootHex ts
  | cert userId kemPubkey signPubkey rot principalSeq ts =>
    certBytes userId kemPubkey signPubkey rot principalSeq ts

/-- The documented shape of the fields: keys, roots and custodians have no newline. Nothing is
said of user ids and log ids. -/
def Documented : Statement → Prop
  | leaf _ kemPubkey signPubkey _ => Free '\n' kemPubkey ∧ Free '\n' signPubkey
  | treeHead _ _ rootHex _ => Free '\n' rootHex
  | cert _ kemPubkey signPubkey rot _ _ =>
    Free '\n' kemPubkey ∧ Free '\n' signPubkey ∧ ∀ c ∈ rot.custodians, Free '\n' c

/-- Two statements of one kind that agree in every field, Roots of Trust by their rendering. -/
def Agrees : Statement → Statement → Prop
  | leaf userId kemPubkey signPubkey ts, leaf userId' kemPubkey' signPubkey' ts' =>
    userId = userId' ∧ kemPubkey = kemPubkey' ∧ signPubkey = signPubkey' ∧ ts = ts'
  | treeHead logId size rootHex ts, treeHead logId' size' rootHex' ts' =>
    logId = logId' ∧ size = size' ∧ rootHex = rootHex' ∧ ts = ts'
  | cert userId kemPubkey signPubkey rot principalSeq ts,
      cert userId' kemPubkey' signPubkey' rot' principalSeq' ts' =>
    userId = userId' ∧ kemPubkey = kemPubkey' ∧ signPubkey = signPubkey' ∧
      canonicalRot rot = canonicalRot rot' ∧ principalSeq = principalSeq' ∧ ts = ts'
  | _, _ => False

/-! ### A statement as a tag, a first field and further fields -/

def tag : Statement → String
  | leaf .. => "pock-keylog-v1"
  | treeHead .. => "pock-sth-v1"
  | cert .. => "pock-keycert-v1"

def first : Statement → String
  | leaf userId _ _ _ => userId
  | treeHead logId _ _ _ => logId
  | cert userId _ _ _ _ _ => userId

def rest : Statement → List String
  | leaf _ kemPubkey signPubkey ts => [kemPubkey, signPubkey, Int.repr ts.toInt]
  | treeHead _ size rootHex ts => [Nat.repr size.toNat, rootHex, Int.repr ts.toInt]
  | cert _ kemPubkey signPubkey rot principalSeq ts =>
    [kemPubkey, signPubkey, canonicalRot rot, Nat.repr principalSeq.toNat, Int.repr ts.toInt]

def text (s : Statement) : String := joinFields '\n' s.tag (s.first :: s.rest)

lemma bytes_eq_ofString (s : Statement) : s.bytes = Bytes.ofString s.text := by
  cases s <;> rfl

lemma free_tag (s : Statement) : Free '\n' s.tag := by
  cases s <;> simp only [tag] <;> decide

lemma Documented.free_rest {s : Statement} (h : s.Documented) : ∀ f ∈ s.rest, Free '\n' f := by
  have hint := fun n => free_intRepr (d := '\n') (by decide) (by decide) n
  have hnat := fun n => free_natRepr (d := '\n') (by decide) n
  cases s with
  | leaf userId kemPubkey signPubkey ts => simp [rest, h.1, h.2, hint]
  | treeHead logId size rootHex ts => simpa [rest, hint, hnat, Documented] using h
  | cert userId kemPubkey signPubkey rot principalSeq ts =>
    simp [rest, h.1, h.2.1, free_canonicalRot h.2.2, hint, hnat]

lemma length_rest_of_tag_eq {a b : Statement} (h : a.tag = b.tag) :
    a.rest.length = b.rest.length := by
  cases a <;> cases b <;> simp_all [tag, rest]

lemma agrees_iff {a b : Statement} :
    a.Agrees b ↔ a.tag = b.tag ∧ a.first = b.first ∧ a.rest = b.rest := by
  cases a <;> cases b <;>
    simp [Agrees, tag, first, rest, UInt64.toNat_inj, Int64.toInt_inj]

/-- A text with newline-free further fields determines its tag, its first field and those. -/
lemma text_inj {a b : Statement} (ha : ∀ f ∈ a.rest, Free '\n' f) (hb : ∀ f ∈ b.rest, Free '\n' f)
    (h : a.text = b.text) : a.tag = b.tag ∧ a.first = b.first ∧ a.rest = b.rest := by
  obtain ⟨htag, hfields⟩ := joinFields_cons_inj_left a.free_tag b.free_tag h
  exact ⟨htag, joinFields_inj (length_rest_of_tag_eq htag) ha hb hfields⟩

/-- Statements of the documented shape are unambiguous: no leaf, tree head or certificate can
be read as another one or as one of another kind, whatever the user ids and log ids are. -/
theorem bytes_eq_iff_agrees {a b : Statement} (ha : a.Documented) (hb : b.Documented) :
    a.bytes = b.bytes ↔ a.Agrees b := by
  rw [agrees_iff, bytes_eq_ofString, bytes_eq_ofString, Bytes.ofString_inj]
  constructor
  · exact text_inj ha.free_rest hb.free_rest
  · rintro ⟨htag, hfirst, hrest⟩
    rw [text, text, htag, hfirst, hrest]

/-- A user id that spells out the rest of a certificate does not make a leaf one. -/
theorem leaf_bytes_ne_cert_bytes :
    (leaf "u\nK\nS\nA|1\n4" "K" "S" (-9)).bytes ≠
      (cert "u" "K" "S" ⟨["A"], 1⟩ 4 (-9)).bytes := by
  have hleaf : (leaf "u\nK\nS\nA|1\n4" "K" "S" (-9)).Documented :=
    show _ ∧ _ from ⟨by decide, by decide⟩
  have hcert : (cert "u" "K" "S" ⟨["A"], 1⟩ 4 (-9)).Documented :=
    show _ ∧ _ ∧ _ from ⟨by decide, by decide, by decide⟩
  exact fun h => (bytes_eq_iff_agrees hleaf hcert).mp h

end Statement

/-! ### Certificates from JSON -/

/-- Everything of a certificate text that stands between the tag and the threshold. -/
def principalText (c : CertJson) : String :=
  joinFields '\n' c.userId [c.kemPubkey, c.signPubkey, ",".intercalate c.rot.custodians]

def jsonText (c : CertJson) : String :=
  certText c.userId c.kemPubkey c.signPubkey c.rot c.principalSeq c.ts

lemma jsonText_eq (c : CertJson) :
    jsonText c =
      joinFields '\n' (joinFields '|' (joinFields '\n' "pock-keycert-v1" [principalText c])
        [Nat.repr c.rot.threshold.toNat]) [Nat.repr c.principalSeq.toNat, Int.repr c.ts.toInt] := by
  have hassoc : ∀ tag nl u k s j bar thr q t : String,
      tag ++ nl ++ u ++ nl ++ k ++ nl ++ s ++ nl ++ (j ++ bar ++ thr) ++ nl ++ q ++ nl ++ t =
        tag ++ nl ++ (u ++ nl ++ k ++ nl ++ s ++ nl ++ j) ++ bar ++ thr ++ nl ++ q ++ nl ++ t := by
    intros
    simp only [String.append_assoc]
  exact hassoc ..

/-- Two certificate texts are equal exactly if the numbers agree and so does the text of the
principal, in which nothing tells a delimiter from a character of a field. -/
lemma jsonText_eq_iff {c d : CertJson} :
    jsonText c = jsonText d ↔
      principalText c = principalText d ∧ c.rot.threshold = d.rot.threshold ∧
        c.principalSeq = d.principalSeq ∧ c.ts = d.ts := by
  rw [jsonText_eq, jsonText_eq]
  constructor
  · intro h
    have hnums : ∀ e : CertJson, ∀ f ∈ [Nat.repr e.principalSeq.toNat, Int.repr e.ts.toInt],
        Free '\n' f := by
      intro e
      simp only [List.forall_mem_cons]
      exact ⟨free_natRepr (by decide) _, free_intRepr (by decide) (by decide) _, by simp⟩
    have hthr : ∀ e : CertJson, ∀ f ∈ [Nat.repr e.rot.threshold.toNat], Free '|' f := by
      intro e
      simp only [List.forall_mem_cons]
      exact ⟨free_natRepr (by decide) _, by simp⟩
    obtain ⟨hrot, hseq⟩ := joinFields_inj (by simp) (hnums c) (hnums d) h
    obtain ⟨htext, hthr⟩ := joinFields_inj (by simp) (hthr c) (hthr d) hrot
    obtain ⟨-, hprin⟩ := joinFields_cons_inj_left (by decide) (by decide) htext
    simp only [List.cons.injEq, Nat.repr_inj, Int.repr_inj, UInt32.toNat_inj, UInt64.toNat_inj,
      Int64.toInt_inj, and_true] at hthr hseq
    exact ⟨hprin, hthr, hseq.1, hseq.2⟩
  · rintro ⟨hprin, hthr, hseq, hts⟩
    rw [hprin, hthr, hseq, hts]

/-- The shape that base64 keys have: no field but the user id holds a delimiter. -/
structure Delimited (c : CertJson) : Prop where
  kemPubkey : Free '\n' c.kemPubkey
  signPubkey : Free '\n' c.signPubkey
  custodians : ∀ k ∈ c.rot.custodians, Free '\n' k ∧ Free ',' k

/-- No custodian at all, and one custodian whose key is the empty text. -/
def BlankPair (l m : List String) : Prop := l = [] ∧ m = [""] ∨ l = [""] ∧ m = []

instance (l m : List String) : Decidable (BlankPair l m) :=
  inferInstanceAs (Decidable (_ ∨ _))

lemma principalText_inj {c d : CertJson} (hc : Delimited c) (hd : Delimited d)
    (hblank : ¬BlankPair c.rot.custodians d.rot.custodians)
    (h : principalText c = principalText d) :
    c.userId = d.userId ∧ c.kemPubkey = d.kemPubkey ∧ c.signPubkey = d.signPubkey ∧
      c.rot.custodians = d.rot.custodians := by
  have hfields : ∀ e : CertJson, Delimited e →
      ∀ f ∈ [e.kemPubkey, e.signPubkey, ",".intercalate e.rot.custodians], Free '\n' f := by
    intro e he
    simp only [List.forall_mem_cons]
    exact ⟨he.kemPubkey, he.signPubkey,
      free_intercalate (by decide) fun k hk => (he.custodians k hk).1, by simp⟩
  obtain ⟨huser, hrest⟩ := joinFields_inj (by simp) (hfields c hc) (hfields d hd) h
  simp only [List.cons.injEq, and_true] at hrest
  obtain ⟨hkem, hsign, hcust⟩ := hrest
  exact ⟨huser, hkem, hsign,
    intercalate_inj (fun k hk => (hc.custodians k hk).2) (fun k hk => (hd.custodians k hk).2)
      (fun hb => hblank (.inl hb)) (fun hb => hblank (.inr hb)) hcust⟩

end KeyLog

namespace Flows

open KeyLog

variable {P : Primitives}

lemma certBytesJson_of_ok {j : String} {c : CertJson} (h : P.certFromJson j = .ok c) :
    certBytesJson P j = .ok (Bytes.ofString (jsonText c)) := by
  rw [certBytesJson, h]
  rfl

/-- A certificate that is accepted is one whose own bytes are signed. -/
lemma verifyCertJson_eq_ok {j sigsJson custodiansJson : String} {threshold : UInt32} {v : Bool} :
    verifyCertJson P j sigsJson custodiansJson threshold = .ok v ↔
      ∃ b sigs custodians, certBytesJson P j = .ok b ∧ P.stringsFromJson sigsJson = .ok sigs ∧
        P.stringsFromJson custodiansJson = .ok custodians ∧
        verifyCert P b sigs custodians threshold = v := by
  simp [verifyCertJson, Outcome.bind_eq_ok]

/-- What the canonical bytes tell of a payload. -/
theorem certBytesJson_eq_iff {j j' : String} {c d : CertJson} (hc : P.certFromJson j = .ok c)
    (hd : P.certFromJson j' = .ok d)
    (hblank : ¬BlankPair c.rot.custodians d.rot.custodians) :
    ∃ b b', certBytesJson P j = .ok b ∧ certBytesJson P j' = .ok b' ∧
      (b = b' ↔ principalText c = principalText d ∧ c.rot.threshold = d.rot.threshold ∧
        c.principalSeq = d.principalSeq ∧ c.ts = d.ts) ∧
      (Delimited c → Delimited d → c ≠ d → b ≠ b') ∧
      ∀ sigsJson custodiansJson threshold,
        verifyCertJson P j' sigsJson custodiansJson threshold = .ok true →
        ∃ sigs custodians, P.stringsFromJson sigsJson = .ok sigs ∧
          P.stringsFromJson custodiansJson = .ok custodians ∧
          verifyCert P b' sigs custodians threshold = true := by
  refine ⟨_, _, certBytesJson_of_ok hc, certBytesJson_of_ok hd, ?_, ?_, ?_⟩
  · rw [Bytes.ofString_inj, jsonText_eq_iff]
  · intro hdc hdd hne heq
    rw [Bytes.ofString_inj, jsonText_eq_iff] at heq
    obtain ⟨hprin, hthr, hseq, hts⟩ := heq
    obtain ⟨huser, hkem, hsign, hcust⟩ := principalText_inj hdc hdd hblank hprin
    obtain ⟨u, k, s, ⟨cs, t⟩, q, n⟩ := c
    obtain ⟨u', k', s', ⟨cs', t'⟩, q', n'⟩ := d
    simp_all
  · intro sigsJson custodiansJson threshold h
    obtain ⟨b, sigs, custodians, hb, hsigs, hcust, hv⟩ := verifyCertJson_eq_ok.mp h
    rw [certBytesJson_of_ok hd, Outcome.ok.injEq] at hb
    exact ⟨sigs, custodians, hsigs, hcust, hb ▸ hv⟩

/-! ### Three payloads -/

/-- A payload with the custodians `A` and `B`. -/
def twoCustodians : String :=
  "\x7b\"userId\":\"u\",\"kemPubkey\":\"K\",\"signPubkey\":\"S\"," ++
    "\"rot\":\x7b\"custodians\":[\"A\",\"B\"],\"threshold\":2\x7d,\"principalSeq\":4,\"ts\":9\x7d"

/-- The same payload with the one custodian `A,B`. -/
def oneCustodian : String :=
  "\x7b\"userId\":\"u\",\"kemPubkey\":\"K\",\"signPubkey\":\"S\"," ++
    "\"rot\":\x7b\"custodians\":[\"A,B\"],\"threshold\":2\x7d,\"principalSeq\":4,\"ts\":9\x7d"

/-- The same payload with a newline in the user id. -/
def otherUser : String :=
  "\x7b\"userId\":\"u\\nK\",\"kemPubkey\":\"K\",\"signPubkey\":\"S\"," ++
    "\"rot\":\x7b\"custodians\":[\"A\",\"B\"],\"threshold\":2\x7d,\"principalSeq\":4,\"ts\":9\x7d"

/-- The stand-in primitives with a reader of the three payloads. -/
noncomputable def payloadPrimitives : Primitives :=
  { Reference.primitives with
    certFromJson := fun s =>
      if s = twoCustodians then .ok ⟨"u", "K", "S", ⟨["A", "B"], 2⟩, 4, 9⟩
      else if s = oneCustodian then .ok ⟨"u", "K", "S", ⟨["A,B"], 2⟩, 4, 9⟩
      else if s = otherUser then .ok ⟨"u\nK", "K", "S", ⟨["A", "B"], 2⟩, 4, 9⟩
      else .error "no certificate" }

lemma read_twoCustodians : payloadPrimitives.certFromJson twoCustodians =
    .ok ⟨"u", "K", "S", ⟨["A", "B"], 2⟩, 4, 9⟩ := by
  simp only [payloadPrimitives, if_true]

lemma read_oneCustodian : payloadPrimitives.certFromJson oneCustodian =
    .ok ⟨"u", "K", "S", ⟨["A,B"], 2⟩, 4, 9⟩ := by
  have hne : oneCustodian ≠ twoCustodians := by decide
  simp only [payloadPrimitives, if_neg hne, if_true]

lemma read_otherUser : payloadPrimitives.certFromJson otherUser =
    .ok ⟨"u\nK", "K", "S", ⟨["A", "B"], 2⟩, 4, 9⟩ := by
  have hne : otherUser ≠ twoCustodians := by decide
  have hne' : otherUser ≠ oneCustodian := by decide
  simp only [payloadPrimitives, if_neg hne, if_neg hne', if_true]

theorem certBytesJson_otherUser :
    ∃ b b', certBytesJson payloadPrimitives twoCustodians = .ok b ∧
      certBytesJson payloadPrimitives otherUser = .ok b' ∧ b ≠ b' := by
  obtain ⟨b, b', hb, hb', -, hne, -⟩ :=
    certBytesJson_eq_iff read_twoCustodians read_otherUser (by decide)
  exact ⟨b, b', hb, hb', hne ⟨by decide, by decide, by decide⟩ ⟨by decide, by decide, by decide⟩
    (by decide)⟩

/-- Custodians are told apart by commas, and a custodian may hold one: two payloads with
different Roots of Trust have the same canonical bytes, so whatever is accepted for one is
accepted for the other. -/
theorem certBytesJson_comma :
    ∃ c d b, payloadPrimitives.certFromJson oneCustodian = .ok c ∧
      payloadPrimitives.certFromJson twoCustodians = .ok d ∧ c ≠ d ∧
      certBytesJson payloadPrimitives oneCustodian = .ok b ∧
      certBytesJson payloadPrimitives twoCustodians = .ok b ∧
      ∀ sigsJson custodiansJson threshold,
        verifyCertJson payloadPrimitives oneCustodian sigsJson custodiansJson threshold =
          verifyCertJson payloadPrimitives twoCustodians sigsJson custodiansJson threshold := by
  have hbytes := certBytesJson_of_ok read_oneCustodian
  have hbytes' := certBytesJson_of_ok read_twoCustodians
  have htext : jsonText ⟨"u", "K", "S", ⟨["A,B"], 2⟩, 4, 9⟩ =
      jsonText ⟨"u", "K", "S", ⟨["A", "B"], 2⟩, 4, 9⟩ :=
    jsonText_eq_iff.mpr ⟨by decide, rfl, rfl, rfl⟩
  refine ⟨_, _, _, read_oneCustodian, read_twoCustodians, by decide, hbytes, htext ▸ hbytes',
    fun _ _ _ => ?_⟩
  rw [verifyCertJson, verifyCertJson, hbytes, hbytes', htext]

end Flows

end PockCore
