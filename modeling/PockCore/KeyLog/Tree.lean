import PockCore.KeyLog.Encoding
import PockCore.Lib.HashTree
import PockCore.Lib.Hex

/-!
# The tree of the key log

The hashes of leaves and of inner nodes start with different bytes, and the entries of the log
have canonical bytes. So the root of the log's tree speaks of one sequence of entries only, and a
path that leads to it of one entry, as far as SHA-256 does not collide on what is hashed.
-/

namespace PockCore

open Text

namespace KeyLog

/-! ### Entries -/

/-- An entry of the documented shape: public keys are base64 and have no newline. -/
structure LogEntry where
  userId : String
  kemPubkey : String
  signPubkey : String
  ts : Int64
  free_kemPubkey : Free '\n' kemPubkey
  free_signPubkey : Free '\n' signPubkey

namespace LogEntry

def statement (e : LogEntry) : Statement := .leaf e.userId e.kemPubkey e.signPubkey e.ts

def bytes (e : LogEntry) : Bytes := leafBytes e.userId e.kemPubkey e.signPubkey e.ts

lemma documented_statement (e : LogEntry) : e.statement.Documented :=
  show _ ∧ _ from ⟨e.free_kemPubkey, e.free_signPubkey⟩

/-- The bytes of an entry determine it, whatever the user id holds. -/
lemma bytes_injective : Function.Injective bytes := by
  intro e e' h
  have htext : e.statement.text = e'.statement.text := Bytes.ofString_injective h
  have hagrees : e.statement.Agrees e'.statement :=
    Statement.agrees_iff.mpr (Statement.text_inj e.documented_statement.free_rest
      e'.documented_statement.free_rest htext)
  obtain ⟨userId, kem, sign, ts, hkem, hsign⟩ := e
  obtain ⟨userId', kem', sign', ts', hkem', hsign'⟩ := e'
  obtain ⟨huser, hk, hs, hts⟩ := hagrees
  subst huser hk hs hts
  rfl

end LogEntry

/-! ### Roots and paths -/

variable (P : Primitives)

/-- The root of a tree of entries. -/
def logRoot : HashTree LogEntry → ByteArr 32
  | .leaf e => hashLeaf P e.bytes
  | .node l r => hashChildren P (logRoot l).toList (logRoot r).toList

/-- The root that an inclusion path computes from an entry, from the leaf up. The path is listed
from the root down, and its siblings may be of any length. -/
def auditRoot (e : LogEntry) : List (HashTree.Step Bytes) → ByteArr 32
  | [] => hashLeaf P e.bytes
  | .onLeft s :: path => hashChildren P s (auditRoot e path).toList
  | .onRight s :: path => hashChildren P (auditRoot e path).toList s

/-- The log hashes its tree as one of entries, with digests of 32 bytes. -/
def scheme : HashTree.Scheme LogEntry Bytes Bytes (ByteArr 32) where
  hash := P.sha256
  label := ByteArr.toList
  leafMsg e := [0x00] ++ e.bytes
  nodeMsg l r := [0x01] ++ l ++ r
  leafMsg_injective := by
    intro e e' h
    exact LogEntry.bytes_injective (List.append_cancel_left h)
  leafMsg_ne_nodeMsg := by
    intro e l r h
    exact absurd (List.cons.inj h).1 (by decide)
  nodeMsg_inj_left := by
    intro d s l r h
    rw [List.append_assoc, List.append_assoc, List.append_cancel_left_eq] at h
    obtain ⟨hd, hs⟩ := List.append_inj h (by simp)
    exact ⟨ByteArr.toList_inj.mp hd, hs⟩
  nodeMsg_inj_right := by
    intro s d l r h
    rw [List.append_assoc, List.append_assoc, List.append_cancel_left_eq] at h
    obtain ⟨hs, hd⟩ := List.append_inj' h (by simp)
    exact ⟨hs, ByteArr.toList_inj.mp hd⟩

lemma root_scheme (t : HashTree LogEntry) : (scheme P).root t = logRoot P t := by
  induction t with
  | leaf e => rfl
  | node l r ihl ihr =>
    rw [HashTree.Scheme.root, ihl, ihr]
    rfl

lemma climb_scheme (e : LogEntry) (path : List (HashTree.Step Bytes)) :
    (scheme P).climb e path = auditRoot P e path := by
  induction path with
  | nil => rfl
  | cons step path ih =>
    cases step with
    | onLeft s =>
      rw [HashTree.Scheme.climb, ih]
      rfl
    | onRight s =>
      rw [HashTree.Scheme.climb, ih]
      rfl

/-! ### What a root speaks of -/

/-- SHA-256 has the same value on a message of the one set and on another one of the other. -/
def Collides (A B : Set Bytes) : Prop := ∃ m ∈ A, ∃ m' ∈ B, m ≠ m' ∧ P.sha256 m = P.sha256 m'

/-- What is hashed for the root of a tree. -/
def hashed (t : HashTree LogEntry) : Set Bytes := (scheme P).messages t

/-- What is hashed along an inclusion path. -/
def auditHashed (e : LogEntry) (path : List (HashTree.Step Bytes)) : Set Bytes :=
  (scheme P).climbMessages e path

variable {P}

/-- Logs with one root are one log: the same entries in the same order, under the same tree. Where
they are not, the two hashings show a collision of SHA-256. -/
lemma eq_of_logRoot_eq {t t' : HashTree LogEntry} (h : logRoot P t = logRoot P t') :
    t = t' ∨ Collides P (hashed P t) (hashed P t') := by
  rw [← root_scheme, ← root_scheme] at h
  exact HashTree.Scheme.root_inj h

lemma free_encode (b : Bytes) : Free '\n' (Hex.encode b) := by
  intro hmem
  rw [Hex.toList_encode] at hmem
  exact absurd (Hex.isDigit_of_mem_encodeList hmem) (by decide)

/-- What the operator signs determines the log: two tree heads with the same bytes, on the roots of
two trees, are the same head of the same tree, or SHA-256 collides on what was hashed. The log ids
may be any texts. -/
theorem eq_of_sthMessageJson_eq {sthFromJson : String → Except String SthJson} {j j' : String}
    {s s' : SthJson} {t t' : HashTree LogEntry} (hs : sthFromJson j = .ok s)
    (hs' : sthFromJson j' = .ok s') (hroot : s.root = Hex.encode (logRoot P t).toList)
    (hroot' : s'.root = Hex.encode (logRoot P t').toList)
    (h : Flows.sthMessageJson sthFromJson j = Flows.sthMessageJson sthFromJson j') :
    s = s' ∧ (t = t' ∨ Collides P (hashed P t) (hashed P t')) := by
  have hmessage : ∀ {k : String} {r : SthJson}, sthFromJson k = .ok r →
      Flows.sthMessageJson sthFromJson k = .ok (sthMessage r.logId r.size r.root r.ts) := by
    intro k r hr
    rw [Flows.sthMessageJson, hr]
    rfl
  rw [hmessage hs, hmessage hs', Outcome.ok.injEq] at h
  have hdoc : (Statement.treeHead s.logId s.size s.root s.ts).Documented := by
    rw [Statement.Documented, hroot]
    exact free_encode _
  have hdoc' : (Statement.treeHead s'.logId s'.size s'.root s'.ts).Documented := by
    rw [Statement.Documented, hroot']
    exact free_encode _
  obtain ⟨hlog, hsize, hhex, hts⟩ : (Statement.treeHead s.logId s.size s.root s.ts).Agrees
      (.treeHead s'.logId s'.size s'.root s'.ts) :=
    Statement.agrees_iff.mpr
      (Statement.text_inj hdoc.free_rest hdoc'.free_rest (Bytes.ofString_injective h))
  have heq : logRoot P t = logRoot P t' := by
    rw [hroot, hroot'] at hhex
    exact ByteArr.toList_inj.mp (Hex.encode_injective hhex)
  refine ⟨?_, eq_of_logRoot_eq heq⟩
  obtain ⟨logId, size, root, ts⟩ := s
  obtain ⟨logId', size', root', ts'⟩ := s'
  rw [SthJson.mk.injEq]
  exact ⟨hlog, hsize, hhex, hts⟩

/-- A log of two entries, one of them with a newline in its user id. -/
def twoEntries : HashTree LogEntry :=
  .node (.leaf ⟨"u", "K", "S", 7, by decide, by decide⟩)
    (.leaf ⟨"v\nK", "L", "T", -8, by decide, by decide⟩)

/-- The head of that log under the stand-in primitives. -/
noncomputable def twoEntriesHead : SthJson where
  logId := logId
  size := 2
  root := Hex.encode (logRoot Reference.primitives twoEntries).toList
  ts := 9

/-- A reader of payloads, which knows two texts for this head. -/
noncomputable def readTwoEntries (j : String) : Except String SthJson :=
  if j = "head" ∨ j = " head" then .ok twoEntriesHead else .error "no tree head"

/-- Two payloads with the same bytes are read as one head. -/
theorem eq_twoEntriesHead : ∃ s s', readTwoEntries "head" = .ok s ∧
    readTwoEntries " head" = .ok s' ∧
    Flows.sthMessageJson readTwoEntries "head" = Flows.sthMessageJson readTwoEntries " head" ∧
    s = s' ∧ (twoEntries = twoEntries ∨ Collides Reference.primitives
      (hashed Reference.primitives twoEntries) (hashed Reference.primitives twoEntries)) := by
  have hread : ∀ j, j = "head" ∨ j = " head" → readTwoEntries j = .ok twoEntriesHead :=
    fun _ hj => if_pos hj
  have hbytes : Flows.sthMessageJson readTwoEntries "head" =
      Flows.sthMessageJson readTwoEntries " head" := by
    rw [Flows.sthMessageJson, Flows.sthMessageJson, hread _ (.inl rfl), hread _ (.inr rfl)]
  exact ⟨_, _, hread _ (.inl rfl), hread _ (.inr rfl), hbytes,
    eq_of_sthMessageJson_eq (hread _ (.inl rfl)) (hread _ (.inr rfl)) rfl rfl hbytes⟩

/-- Inclusion paths are complete and sound for every tree. Each entry has a path from its place, and
a path to the root, whatever its siblings, starts from the entry that stands in the place that it
shows, or SHA-256 collides on what was hashed. -/
theorem audits (t : HashTree LogEntry) :
    (∀ turns e, t.leafAt? turns = some e →
        ∃ path, path.map HashTree.Step.turn = turns ∧ auditRoot P e path = logRoot P t) ∧
      ∀ e path, auditRoot P e path = logRoot P t →
        t.leafAt? (path.map HashTree.Step.turn) = some e ∨
          Collides P (auditHashed P e path) (hashed P t) := by
  constructor
  · intro turns e he
    obtain ⟨hroot, hturns⟩ := HashTree.Scheme.climb_path (H := scheme P) he
    rw [climb_scheme, root_scheme] at hroot
    exact ⟨_, hturns, hroot⟩
  · intro e path h
    rw [← climb_scheme, ← root_scheme] at h
    exact HashTree.Scheme.leafAt?_of_climb h

end KeyLog

end PockCore
