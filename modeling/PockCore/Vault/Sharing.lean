import PockCore.Vault.Clients
import PockCore.Vault.Reencrypt

/-!
# Items of several vaults

Items are encrypted to keys that vaults publish, to those of one vault or of several, and whoever
reads an item may encrypt it to others. Meanwhile the vaults are used by clients that work at the
same time. The keys that an item is encrypted to decide who reads it, in every vault and from then
on.
-/

namespace PockCore

variable {P : Primitives} {I : Set KekInput} {ι : Type*}

/-! ### Items that are handed around -/

/-- Several vaults, and the items that everybody sees. None of these is ever pending. -/
structure Vaults (P : Primitives) (ι : Type*) where
  versions : ι → Versions
  items : List (StoredItem P)

inductive VaultsOp (ι : Type*) where
  | call (i : ι) (texts : Account) (op : Op)
  | put (value recipientsJson : String) (draws : ItemDraws)
  /-- Reads an item with a secret and encrypts what was read. -/
  | share (itemJson secretB64 recipientsJson : String) (draws : ItemDraws)

namespace Vaults

/-- The text is encrypted to the readers, whoever they are. -/
def EncryptsTo (P : Primitives) (value recipientsJson : String) (draws : ItemDraws)
    (itemJson : String) (readers : List (KemPublic P)) : Prop :=
  ∃ blobs, P.pubBlobsJson.read recipientsJson = .ok blobs ∧
    Flows.readRecipients P blobs = .ok readers ∧
    Flows.encryptItem P value recipientsJson draws.dek draws.nonce draws.wraps = .ok itemJson

/-- A call for one of the vaults, or an item more. -/
inductive Step [DecidableEq ι] (P : Primitives) (I : Set KekInput) :
    Vaults P ι → VaultsOp ι → Vaults P ι → Prop
  | call (s : Vaults P ι) {i : ι} {texts : Account} {op : Op} {versions : ι → Versions}
      (h : (Versions.machine P I).sideBySide.step s.versions (i, texts, op) versions) :
      Step P I s (.call i texts op) { s with versions := versions }
  | put (s : Vaults P ι) {value recipientsJson itemJson : String} {draws : ItemDraws}
      {readers : List (KemPublic P)}
      (h : EncryptsTo P value recipientsJson draws itemJson readers) :
      Step P I s (.put value recipientsJson draws)
        { s with items := s.items ++ [⟨itemJson, value, readers, false⟩] }
  /-- What is encrypted is what was read. -/
  | share (s : Vaults P ι) {x : StoredItem P} {secretB64 recipientsJson itemJson read : String}
      {draws : ItemDraws} {readers : List (KemPublic P)} (hx : x ∈ s.items)
      (hread : Flows.decryptItem P x.itemJson secretB64 = .ok read)
      (h : EncryptsTo P read recipientsJson draws itemJson readers) :
      Step P I s (.share x.itemJson secretB64 recipientsJson draws)
        { s with items := s.items ++ [⟨itemJson, x.value, readers, false⟩] }

def machine (P : Primitives) (I : Set KekInput) (ι : Type*) [DecidableEq ι] :
    Machine (Vaults P ι) (VaultsOp ι) where
  init s := (Versions.machine P I).sideBySide.init s.versions ∧ s.items = []
  step := Step P I

end Vaults

/-! ### The readers of an item -/

/-- The item is encrypted to the key that the account publishes. -/
def StoredItem.For (x : StoredItem P) (a : Account) : Prop :=
  a.kemPubkey ∈ x.readers.map fun k => b64 k.asBytes

namespace Account.Publishes

variable {a : Account} {id : Identity} {x : StoredItem P}

lemma for_iff (hR : P.KemKeyRoundTrip) (h : a.Publishes P id) :
    x.For a ↔ (id.public P).kem ∈ x.readers := by
  rw [StoredItem.For, h.kemPubkey]
  exact List.mem_map_of_injective (Item.recipientId_injective hR)

lemma decryptItem_of_for (hS : Item.Sound P) (h : a.Publishes P id) (hx : x.Seals)
    (hfor : x.For a) :
    Flows.decryptItem P x.itemJson a.identitySecretB64 = .ok x.value :=
  hx.decryptItem_of_readBy hS ⟨id, h.identitySecret, (h.for_iff hS.roundTrip).mp hfor⟩

lemma decryptItem_of_not_for (hS : Item.Sound P) (h : a.Publishes P id) (hx : x.Seals)
    (hfor : ¬x.For a) : Flows.decryptItem P x.itemJson a.identitySecretB64 = .err .wrongKey := by
  rw [h.identitySecret]
  exact hx.decryptItem_of_notMem hS fun hmem => hfor ((h.for_iff hS.roundTrip).mpr hmem)

end Account.Publishes

namespace Vaults

/-! ### The invariant -/

/-- The versions of each vault are around one AUK, and the items hold their values. -/
structure Inv (P : Primitives) (I : Set KekInput) (s : Vaults P ι) : Prop where
  sound : ∀ i, ∃ auk, ∀ b ∈ (s.versions i).all, b.Sound P I auk
  seals : ∀ x ∈ s.items, x.Seals

lemma EncryptsTo.seals {value json itemJson : String} {draws : ItemDraws}
    {readers : List (KemPublic P)} (h : EncryptsTo P value json draws itemJson readers)
    (pending : Bool) : (⟨itemJson, value, readers, pending⟩ : StoredItem P).Seals := by
  obtain ⟨blobs, hread, hreaders, henc⟩ := h
  exact StoredItem.seals_of_encryptItem hread hreaders henc pending

namespace Inv

variable {s : Vaults P ι}

lemma insert (h : s.Inv P I) {x : StoredItem P} (hx : x.Seals) :
    Inv P I { s with items := s.items ++ [x] } := by
  refine ⟨h.sound, fun y hy => ?_⟩
  rcases List.mem_append.mp hy with hy | hy
  · exact h.seals y hy
  · rw [List.mem_singleton.mp hy]
    exact hx

lemma step [DecidableEq ι] (hS : Item.Sound P) (h : s.Inv P I) {op : VaultsOp ι} {s' : Vaults P ι}
    (hstep : Step P I s op s') : s'.Inv P I := by
  cases hstep with
  | call hcall =>
    refine ⟨?_, h.seals⟩
    refine Machine.forall_of_sideBySide (p := fun v => ∃ auk, ∀ b ∈ v.all, b.Sound P I auk) ?_
      h.sound hcall
    rintro v act v' ⟨auk, hall⟩ hv
    exact ⟨auk, Versions.sound_step hS.correct hS.commits hall hv⟩
  | put henc => exact h.insert (henc.seals false)
  | share hx hread henc =>
    -- what was read is the value that the item was made from
    obtain ⟨rfl, -⟩ := ((h.seals _ hx).decryptItem_eq_ok hS).mp hread
    exact h.insert (henc.seals false)

end Inv

lemma inv_of_reachable [DecidableEq ι] (hS : Item.Sound P) {s : Vaults P ι}
    (h : (machine P I ι).Reachable s) : s.Inv P I := by
  refine h.of_step (p := fun s => s.Inv P I) ?_ fun s op s' hs hstep => hs.step hS hstep
  rintro ⟨versions, items⟩ ⟨hinit, rfl⟩
  exact ⟨fun i => Versions.exists_sound hS.correct hS.commits (.init (hinit i)), by simp⟩

lemma reachable_put [DecidableEq ι] {s : Vaults P ι} (h : (machine P I ι).Reachable s)
    {value json itemJson : String} {draws : ItemDraws} {readers : List (KemPublic P)}
    (henc : EncryptsTo P value json draws itemJson readers) :
    (machine P I ι).Reachable
      { s with items := s.items ++ [⟨itemJson, value, readers, false⟩] } :=
  h.step (a := .put value json draws) (.put s henc)

lemma reachable_share [DecidableEq ι] {s : Vaults P ι} (h : (machine P I ι).Reachable s)
    {x : StoredItem P} {secretB64 read json itemJson : String} {draws : ItemDraws}
    {readers : List (KemPublic P)} (hx : x ∈ s.items)
    (hread : Flows.decryptItem P x.itemJson secretB64 = .ok read)
    (henc : EncryptsTo P read json draws itemJson readers) :
    (machine P I ι).Reachable
      { s with items := s.items ++ [⟨itemJson, x.value, readers, false⟩] } :=
  h.step (a := .share x.itemJson secretB64 json draws) (.share s hx hread henc)

/-! ### Over a run -/

/-- Who reads what. -/
structure Shares (P : Primitives) (s : Vaults P ι) : Prop where
  /-- Whoever is in a vault, with the credentials and wraps of any version of it, reads the items
  that are encrypted to what any version publishes. -/
  reads : ∀ x ∈ s.items, ∀ i, ∀ b ∈ (s.versions i).all, ∀ b' ∈ (s.versions i).all, x.For b' →
    b.Reads P b' ∧ Flows.decryptItem P x.itemJson b'.identitySecretB64 = .ok x.value
  /-- The other secrets of the vaults read nothing. -/
  refuses : ∀ x ∈ s.items, ∀ i, ∀ b ∈ (s.versions i).all, ¬x.For b →
    Flows.decryptItem P x.itemJson b.identitySecretB64 = .err .wrongKey
  /-- Nobody else, in a vault or in none, reads anything but the value, and only the readers do. -/
  reads_iff : ∀ x ∈ s.items, ∀ id : Identity, ∀ v,
    Flows.decryptItem P x.itemJson (b64 id.toSecretBytes) = .ok v ↔
      v = x.value ∧ (id.public P).kem ∈ x.readers

/-- However the clients of several vaults interleave, and however often an item is read and
encrypted to others, it holds the value that was put first, and is read in exactly the vaults whose
published keys it is encrypted to. -/
theorem shares_of_reachable [DecidableEq ι] (hS : Item.Sound P) (hE : P.Ed25519Correct)
    {s : Vaults P ι} (h : (machine P I ι).Reachable s) : s.Shares P := by
  have hinv := inv_of_reachable hS h
  have hkeys : Account.KeysSound P := ⟨hS.correct, hS.commits, hS.kem, hE, hS.roundTrip⟩
  refine ⟨fun x hx i b hb b' hb' hfor => ?_, fun x hx i b hb hfor => ?_,
    fun x hx id v => (hinv.seals x hx).decryptItem_identity hS⟩
  · obtain ⟨auk, hall⟩ := hinv.sound i
    obtain ⟨id, hid⟩ := (hall b' hb').publishes
    exact ⟨(hall b hb).reads hkeys (hall b' hb'),
      hid.decryptItem_of_for hS (hinv.seals x hx) hfor⟩
  · obtain ⟨auk, hall⟩ := hinv.sound i
    obtain ⟨id, hid⟩ := (hall b hb).publishes
    exact hid.decryptItem_of_not_for hS (hinv.seals x hx) hfor

end Vaults

/-! ### The stand-in primitives -/

namespace Reference

/-- Two new vaults. -/
noncomputable def twoVaults (out out' : Flows.CreatedVault) (i : Bool) : Versions :=
  ⟨Account.created primitives "pw" (if i then out else out'), []⟩

/-- An item for the one of two vaults, and what it encrypts to the other of it. -/
lemma exists_twoVaults : ∃ out out' x y,
    Flows.createVaultProfile primitives "pw" "constrained" draws = .ok out ∧
      Flows.createVaultProfile primitives "pw" "constrained" otherDraws = .ok out' ∧
      (Vaults.machine primitives Set.univ Bool).Reachable ⟨twoVaults out out', [x, y]⟩ ∧
      x.value = "hi" ∧ y.value = "hi" ∧
      ¬x.For (Account.created primitives "pw" out') ∧
      y.For (Account.created primitives "pw" out') := by
  obtain ⟨out, hout, -⟩ := exists_vault
  obtain ⟨out', hout'⟩ : ∃ out',
      Flows.createVaultProfile primitives "pw" "constrained" otherDraws = .ok out' := ⟨_, rfl⟩
  have hid := Account.Publishes.created hout
  have hid' := Account.Publishes.created hout'
  have hinit : (Vaults.machine primitives Set.univ Bool).Reachable ⟨twoVaults out out', []⟩ := by
    refine .init ⟨fun i => ?_, rfl⟩
    cases i with
    | true => exact ⟨⟨"pw", "constrained", draws, out, hout, Set.subset_univ _, rfl⟩, rfl⟩
    | false => exact ⟨⟨"pw", "constrained", otherDraws, out', hout', Set.subset_univ _, rfl⟩, rfl⟩
  obtain ⟨itemJson, blobs, hread, -, hreaders, henc⟩ :=
    ItemStore.exists_encrypts kemKeyRoundTrip hid "hi" itemDraws
  obtain ⟨itemJson', blobs', hread', -, hreaders', henc'⟩ :=
    ItemStore.exists_encrypts kemKeyRoundTrip hid' "hi" itemDraws
  have hput := Vaults.reachable_put hinit ⟨blobs, hread, hreaders, henc⟩
  have hopen := hid.decryptItem_of_for sound
    (StoredItem.seals_of_encryptItem hread hreaders henc false)
    ((hid.for_iff kemKeyRoundTrip).mpr (List.mem_singleton_self _))
  have hshare := Vaults.reachable_share hput (List.mem_singleton_self _) hopen
    ⟨blobs', hread', hreaders', henc'⟩
  refine ⟨out, out', _, _, hout, hout', hshare, rfl, rfl, fun hfor => ?_,
    (hid'.for_iff kemKeyRoundTrip).mpr (List.mem_singleton_self _)⟩
  have hkem : fit 32 [2] = zeros 32 :=
    List.mem_singleton.mp ((hid'.for_iff kemKeyRoundTrip).mp hfor)
  exact absurd hkem (by decide)

/-- The second vault refuses the item that was not encrypted to it, and reads the other one. -/
theorem shares_twoVaults : ∃ out out' x y,
    Flows.createVaultProfile primitives "pw" "constrained" draws = .ok out ∧
      Flows.createVaultProfile primitives "pw" "constrained" otherDraws = .ok out' ∧
      (⟨twoVaults out out', [x, y]⟩ : Vaults primitives Bool).Shares primitives ∧
      x.value = "hi" ∧ y.value = "hi" ∧
      Flows.decryptItem primitives x.itemJson out'.identitySecretB64 = .err .wrongKey ∧
      Flows.decryptItem primitives y.itemJson out'.identitySecretB64 = .ok "hi" := by
  obtain ⟨out, out', x, y, hout, hout', hreach, hx, hy, hnot, hfor⟩ := exists_twoVaults
  have hshares := Vaults.shares_of_reachable sound ed25519Correct hreach
  have hcurrent : Account.created primitives "pw" out' ∈ (twoVaults out out' false).all :=
    List.mem_cons_self
  have hrefuse := hshares.refuses x List.mem_cons_self false _ hcurrent hnot
  have hread := hshares.reads y (List.mem_cons_of_mem _ List.mem_cons_self) false _ hcurrent _
    hcurrent hfor
  rw [hy] at hread
  exact ⟨out, out', x, y, hout, hout', hshares, hx, hy, hrefuse, hread.2⟩

end Reference

end PockCore
