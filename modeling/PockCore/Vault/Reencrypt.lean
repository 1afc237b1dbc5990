import PockCore.Vault.Published

/-!
# Items across rotations of the identity

A rotation of the identity makes new public keys. What was encrypted to the old ones is not touched
by it: the caller keeps the old secret, which the rotation hands back, until every item has been
read with an old secret and encrypted to the new keys. Items are put and read in between, and the
identity may be rotated again.
-/

namespace PockCore

variable {P : Primitives} {I : Set KekInput}

/-! ### The stored items -/

/-- An item in the store, the text that was put into it, the keys it is encrypted to, and whether
it has still to be encrypted again since the last rotation. -/
structure StoredItem (P : Primitives) where
  itemJson : String
  value : String
  readers : List (KemPublic P)
  pending : Bool

/-- An account, the old secrets that the caller keeps, and the items. -/
structure ItemStore (P : Primitives) where
  account : Account
  oldSecrets : List String
  items : List (StoredItem P)

/-- What a new item draws. -/
structure ItemDraws where
  dek : AeadKey
  nonce : Nonce
  wraps : ℕ → Item.WrapDraws

inductive StoreOp where
  | call (op : Op)
  | put (value recipientsJson : String) (draws : ItemDraws)
  /-- Reads the `i`-th item with a secret that the caller has and encrypts what was read. -/
  | reencrypt (i : ℕ) (secretB64 recipientsJson : String) (draws : ItemDraws)
  /-- Another reader does so, with a secret of their own. -/
  | replace (i : ℕ) (secretB64 recipientsJson : String) (draws : ItemDraws)
  /-- Drops the old secrets. -/
  | forget

/-- What the caller does after a rotation. -/
def StoreOp.CleansUp : StoreOp → Prop
  | .reencrypt .. | .forget => True
  | .call _ | .put .. | .replace .. => False

namespace ItemStore

/-- The secrets that the caller has. -/
def secrets (s : ItemStore P) : List String := s.account.identitySecretB64 :: s.oldSecrets

/-- The secret that a call handed back, if it was a rotation that succeeded. -/
def handedBack (P : Primitives) (a : Account) : Op → Option String
  | .rotateIdentity passphrase secretKeyB64 signSeed kemSeed nonce =>
    match Flows.rotateIdentity P passphrase secretKeyB64 a.wrappedAukPassphrase a.wrappedIdentity
        signSeed kemSeed nonce with
    | .ok out => some out.oldIdentitySecretB64
    | _ => none
  | _ => none

/-- The store after a call for the account. After a rotation every item is pending. -/
def afterCall (s : ItemStore P) (op : Op) : ItemStore P :=
  match handedBack P s.account op with
  | some old =>
    { account := s.account.step P op
      oldSecrets := old :: s.oldSecrets
      items := s.items.map fun x => { x with pending := true } }
  | none => { s with account := s.account.step P op }

/-- The text is encrypted to the readers, and the published keys of the account are among them. -/
def Encrypts (P : Primitives) (a : Account) (value recipientsJson : String) (draws : ItemDraws)
    (itemJson : String) (readers : List (KemPublic P)) : Prop :=
  ∃ blobs, P.pubBlobsJson.read recipientsJson = .ok blobs ∧ a.publicBlob ∈ blobs ∧
    Flows.readRecipients P blobs = .ok readers ∧
    Flows.encryptItem P value recipientsJson draws.dek draws.nonce draws.wraps = .ok itemJson

/-- The `i`-th item is read with the secret, and what was read is encrypted again in its place. -/
def Reencrypts (P : Primitives) (s : ItemStore P) (i : ℕ) (secretB64 recipientsJson : String)
    (draws : ItemDraws) (s' : ItemStore P) : Prop :=
  ∃ x read itemJson readers, s.items[i]? = some x ∧
    Flows.decryptItem P x.itemJson secretB64 = .ok read ∧
    Encrypts P s.account read recipientsJson draws itemJson readers ∧
    s' = { s with items := s.items.set i ⟨itemJson, x.value, readers, false⟩ }

/-- A call of a flow, and what the caller stores of what it returns. -/
inductive Step (P : Primitives) : ItemStore P → StoreOp → ItemStore P → Prop where
  /-- A call that fails, and one that the caller does not store, changes nothing. -/
  | failed (s : ItemStore P) (op : StoreOp) : Step P s op s
  | call (s : ItemStore P) (op : Op) : Step P s (.call op) (s.afterCall op)
  | put (s : ItemStore P) {value recipientsJson itemJson : String} {draws : ItemDraws}
      {readers : List (KemPublic P)}
      (h : Encrypts P s.account value recipientsJson draws itemJson readers) :
      Step P s (.put value recipientsJson draws)
        { s with items := s.items ++ [⟨itemJson, value, readers, false⟩] }
  | reencrypt {s s' : ItemStore P} {i : ℕ} {secretB64 recipientsJson : String} {draws : ItemDraws}
      (hsecret : secretB64 ∈ s.secrets)
      (h : Reencrypts P s i secretB64 recipientsJson draws s') :
      Step P s (.reencrypt i secretB64 recipientsJson draws) s'
  | replace {s s' : ItemStore P} {i : ℕ} {secretB64 recipientsJson : String} {draws : ItemDraws}
      (h : Reencrypts P s i secretB64 recipientsJson draws s') :
      Step P s (.replace i secretB64 recipientsJson draws) s'
  | forget (s : ItemStore P) (h : ∀ x ∈ s.items, x.pending = false) :
      Step P s .forget { s with oldSecrets := [] }

/-- The stores of a vault, from its creation on. -/
def machine (P : Primitives) (I : Set KekInput) : Machine (ItemStore P) StoreOp where
  init s := (Account.machine P I).init s.account ∧ s.oldSecrets = [] ∧ s.items = []
  step s op s' := (∀ o, op = .call o → s.account.inputs P o ⊆ I) ∧ Step P s op s'

end ItemStore

/-! ### What an item holds -/

namespace StoredItem

variable {x : StoredItem P}

/-- The item holds its value for its readers. -/
def Seals (x : StoredItem P) : Prop :=
  ∃ item dek, x.itemJson = P.itemJson.write item ∧
    Item.Shared.Inv ⟨item, x.readers⟩ (Bytes.ofString x.value) dek

/-- The secret is that of a reader. -/
def ReadBy (x : StoredItem P) (secretB64 : String) : Prop :=
  ∃ id : Identity, secretB64 = b64 id.toSecretBytes ∧ (id.public P).kem ∈ x.readers

lemma Seals.decryptItem_of_readBy (hS : Item.Sound P) (h : x.Seals) {secretB64 : String}
    (hread : x.ReadBy secretB64) : Flows.decryptItem P x.itemJson secretB64 = .ok x.value := by
  obtain ⟨item, dek, hjson, hinv⟩ := h
  obtain ⟨id, rfl, hmem⟩ := hread
  rw [hjson, Flows.decryptItem_write,
    hinv.decryptItem_of_mem hS.correct hS.kem hS.roundTrip hmem, Outcome.ok_bind,
    Bytes.toString?_ofString, Outcome.okOr_some]

/-- The secret of somebody else reads nothing. -/
lemma Seals.decryptItem_of_notMem (hS : Item.Sound P) (h : x.Seals) {id : Identity}
    (hno : (id.public P).kem ∉ x.readers) :
    Flows.decryptItem P x.itemJson (b64 id.toSecretBytes) = .err .wrongKey := by
  obtain ⟨item, dek, hjson, hinv⟩ := h
  have hnot : ¬((id.public P).kem = (id.public P).kem ∧ (id.public P).kem ∈ x.readers) :=
    fun hc => hno hc.2
  rw [hjson, Flows.decryptItem_write,
    show KemSecret.encapsulationKey P id.kem = (id.public P).kem from rfl,
    hinv.decryptItem_of_not hS hnot, Outcome.err_bind]

/-- Whatever secret reads the item is that of a reader, and reads its value. -/
lemma Seals.decryptItem_eq_ok (hS : Item.Sound P) (h : x.Seals) {secretB64 v : String} :
    Flows.decryptItem P x.itemJson secretB64 = .ok v ↔ v = x.value ∧ x.ReadBy secretB64 := by
  constructor
  · intro hok
    obtain ⟨b, hb, id, hid⟩ : ∃ b, secretB64 = b64 b ∧
        ∃ id, Identity.fromSecretBytes b = .ok id := by
      simp only [Flows.decryptItem, Outcome.bind_eq_ok] at hok
      obtain ⟨-, -, b, hb, id, hid, -⟩ := hok
      exact ⟨b, Flows.unb64_eq_ok.mp hb, id, hid⟩
    obtain rfl := Identity.fromSecretBytes_eq_ok.mp hid
    subst hb
    have hread : x.ReadBy (b64 id.toSecretBytes) := by
      refine ⟨id, rfl, by_contra fun hmem => ?_⟩
      rw [h.decryptItem_of_notMem hS hmem] at hok
      cases hok
    rw [h.decryptItem_of_readBy hS hread, Outcome.ok.injEq] at hok
    exact ⟨hok.symm, hread⟩
  · rintro ⟨rfl, hread⟩
    exact h.decryptItem_of_readBy hS hread

/-- An identity reads the value, and nothing else, if it is a reader. -/
lemma Seals.decryptItem_identity (hS : Item.Sound P) (h : x.Seals) {id : Identity} {v : String} :
    Flows.decryptItem P x.itemJson (b64 id.toSecretBytes) = .ok v ↔
      v = x.value ∧ (id.public P).kem ∈ x.readers := by
  rw [h.decryptItem_eq_ok hS]
  refine and_congr_right fun _ => ⟨?_, fun hmem => ⟨id, rfl, hmem⟩⟩
  rintro ⟨id', hid', hmem⟩
  have hbytes := b64_injective P hid'
  have hok := Identity.fromSecretBytes_toSecretBytes id
  rw [hbytes, Identity.fromSecretBytes_toSecretBytes, Outcome.ok.injEq] at hok
  exact hok ▸ hmem

/-- What is encrypted to the readers of a list of blobs is sealed. -/
lemma seals_of_encryptItem {value json itemJson : String} {blobs : List PublicIdentityBlob}
    {readers : List (KemPublic P)} {draws : ItemDraws}
    (hread : P.pubBlobsJson.read json = .ok blobs)
    (hreaders : Flows.readRecipients P blobs = .ok readers)
    (h : Flows.encryptItem P value json draws.dek draws.nonce draws.wraps = .ok itemJson)
    (pending : Bool) : (⟨itemJson, value, readers, pending⟩ : StoredItem P).Seals := by
  obtain ⟨blobs', recipients, item, hread', hrecipients, hitem, rfl⟩ :=
    Flows.encryptItem_eq_ok.mp h
  obtain rfl : blobs = blobs' := Except.ok.inj (hread.symm.trans hread')
  obtain rfl : readers = recipients := Outcome.ok.inj (hreaders.symm.trans hrecipients)
  exact ⟨item, draws.dek, rfl, (Item.Shared.Inv.init hitem).2⟩

end StoredItem

/-- What is encrypted to the published keys is sealed, and their secret is that of a reader. -/
lemma ItemStore.Encrypts.seals (hR : P.KemKeyRoundTrip) {a : Account} {id : Identity}
    (hpub : a.Publishes P id) {value json itemJson : String} {draws : ItemDraws}
    {readers : List (KemPublic P)} (h : Encrypts P a value json draws itemJson readers)
    (pending : Bool) :
    (⟨itemJson, value, readers, pending⟩ : StoredItem P).Seals ∧
      (⟨itemJson, value, readers, pending⟩ : StoredItem P).ReadBy a.identitySecretB64 := by
  obtain ⟨blobs, hread, hmem, hreaders, henc⟩ := h
  refine ⟨StoredItem.seals_of_encryptItem hread hreaders henc pending, id, hpub.identitySecret, ?_⟩
  rw [hpub.publicBlob_eq] at hmem
  obtain ⟨pubid, hpubid, hkem⟩ := Flows.mem_readRecipients hreaders hmem
  rw [PublicIdentity.fromBlob_toBlob hR, Outcome.ok.injEq] at hpubid
  rw [hpubid]
  exact hkem

/-! ### The invariant -/

namespace ItemStore

/-- The account is sound, and every item is sealed for an identity whose secret the caller has,
which is the current one unless the item is pending. -/
structure Inv (P : Primitives) (I : Set KekInput) (s : ItemStore P) : Prop where
  account : ∃ auk c, s.account.Inv P I auk c
  publishes : ∃ id, s.account.Publishes P id
  seals : ∀ x ∈ s.items, x.Seals
  held : ∀ x ∈ s.items, ∃ secretB64 ∈ s.secrets, x.ReadBy secretB64
  current : ∀ x ∈ s.items, x.pending = false → x.ReadBy s.account.identitySecretB64

/-- Only a rotation that succeeds changes the secret of the account. -/
lemma identitySecret_step {a : Account} {op : Op} (h : handedBack P a op = none) :
    (a.step P op).identitySecretB64 = a.identitySecretB64 := by
  cases op with
  | rotateIdentity p sk signSeed kemSeed nonce =>
    simp only [handedBack] at h
    simp only [Account.step]
    split
    · rename_i out hout
      rw [hout] at h
      cases h
    · rfl
  | amkEnsurePrf i s seed nonce =>
    simp only [Account.step]
    split
    · rfl
    · split <;> rfl
  | _ =>
    simp only [Account.step]
    split <;> rfl

/-- A rotation hands back the secret that the account had. -/
lemma eq_of_handedBack (hC : P.XchachaCorrect) (hI : KekInput.CollisionFree P I) {a : Account}
    {auk : Auk} {c : Credentials} (hinv : a.Inv P I auk c) {op : Op} (hin : a.inputs P op ⊆ I)
    {old : String} (h : handedBack P a op = some old) : old = a.identitySecretB64 := by
  cases op with
  | rotateIdentity p sk signSeed kemSeed nonce =>
    simp only [handedBack] at h
    split at h
    · rename_i out hout
      rw [← Option.some.inj h]
      exact hinv.oldIdentitySecret hC hI hin hout
    · cases h
  | _ => cases h

namespace Inv

variable {s : ItemStore P}

lemma afterCall (hS : Item.Sound P) (hI : KekInput.CollisionFree P I) (h : s.Inv P I) {op : Op}
    (hin : s.account.inputs P op ⊆ I) : (s.afterCall op).Inv P I := by
  obtain ⟨auk, c, hacc⟩ := h.account
  obtain ⟨id, hid⟩ := h.publishes
  obtain ⟨c', -, hacc'⟩ := hacc.step hS.correct hS.commits hI hin
  rw [ItemStore.afterCall]
  cases hback : handedBack P s.account op with
  | none =>
    have hsecret := identitySecret_step hback
    refine ⟨⟨auk, c', hacc'⟩, hid.step op, h.seals, ?_, ?_⟩
    · rw [secrets, hsecret]
      exact h.held
    · rw [hsecret]
      exact h.current
  | some old =>
    obtain rfl := eq_of_handedBack hS.correct hI hacc hin hback
    refine ⟨⟨auk, c', hacc'⟩, hid.step op, ?_, ?_, ?_⟩
    · intro y hy
      obtain ⟨x, hx, rfl⟩ := List.mem_map.mp hy
      exact h.seals x hx
    · intro y hy
      obtain ⟨x, hx, rfl⟩ := List.mem_map.mp hy
      obtain ⟨secretB64, hmem, hread⟩ := h.held x hx
      exact ⟨secretB64, List.mem_cons_of_mem _ hmem, hread⟩
    · intro y hy hpending
      obtain ⟨x, hx, rfl⟩ := List.mem_map.mp hy
      cases hpending

/-- A store with further items that are encrypted to the published keys. -/
lemma insert (hR : P.KemKeyRoundTrip) (h : s.Inv P I) {value json itemJson : String}
    {draws : ItemDraws} {readers : List (KemPublic P)} {items : List (StoredItem P)}
    (henc : Encrypts P s.account value json draws itemJson readers)
    (hitems : ∀ x ∈ items, x ∈ s.items ∨ x = ⟨itemJson, value, readers, false⟩) :
    Inv P I { s with items := items } := by
  obtain ⟨id, hid⟩ := h.publishes
  obtain ⟨hseals, hread⟩ := henc.seals hR hid false
  refine ⟨h.account, h.publishes, fun x hx => ?_, fun x hx => ?_, fun x hx hpending => ?_⟩
  · rcases hitems x hx with hx | rfl
    · exact h.seals x hx
    · exact hseals
  · rcases hitems x hx with hx | rfl
    · exact h.held x hx
    · exact ⟨_, List.mem_cons_self, hread⟩
  · rcases hitems x hx with hx | rfl
    · exact h.current x hx hpending
    · exact hread

/-- What is encrypted again is the value that the item was made from, whoever read it. -/
lemma reencrypts (hS : Item.Sound P) (h : s.Inv P I) {i : ℕ} {secretB64 json : String}
    {draws : ItemDraws} {s' : ItemStore P} (hs' : Reencrypts P s i secretB64 json draws s') :
    s'.Inv P I := by
  obtain ⟨x, read, itemJson, readers, hx, hread, henc, rfl⟩ := hs'
  obtain ⟨rfl, -⟩ := ((h.seals _ (List.mem_of_getElem? hx)).decryptItem_eq_ok hS).mp hread
  exact h.insert hS.roundTrip henc fun y hy => List.mem_or_eq_of_mem_set hy

lemma step (hS : Item.Sound P) (hI : KekInput.CollisionFree P I) (h : s.Inv P I) {op : StoreOp}
    {s' : ItemStore P} (hstep : (machine P I).step s op s') : s'.Inv P I := by
  obtain ⟨hin, hstep⟩ := hstep
  cases hstep with
  | failed => exact h
  | call op => exact h.afterCall hS hI (hin op rfl)
  | put henc =>
    refine h.insert hS.roundTrip henc fun x hx => ?_
    exact (List.mem_append.mp hx).imp_right List.mem_singleton.mp
  | reencrypt hsecret hs' => exact h.reencrypts hS hs'
  | replace hs' => exact h.reencrypts hS hs'
  | forget hdone =>
    refine ⟨h.account, h.publishes, h.seals, fun x hx => ?_, h.current⟩
    exact ⟨_, List.mem_cons_self, h.current x hx (hdone x hx)⟩

end Inv

lemma inv_of_reachable (hS : Item.Sound P) (hI : KekInput.CollisionFree P I) {s : ItemStore P}
    (h : (machine P I).Reachable s) : s.Inv P I := by
  refine h.of_step (p := fun s => s.Inv P I) ?_ fun s op s' hs hstep => hs.step hS hI hstep
  rintro ⟨a, old, items⟩ ⟨⟨passphrase, profileId, draws, out, hout, hin, rfl⟩, rfl, rfl⟩
  exact ⟨⟨_, _, Account.inv_created hS.correct hS.commits hout hin⟩,
    ⟨_, Account.Publishes.created hout⟩, by simp, by simp, by simp⟩

/-- Nothing that was put into the store is lost or changed. -/
structure Kept (s : ItemStore P) : Prop where
  /-- The vault opens to the current secret. -/
  unlocks : Flows.unlockVault P s.account.passphrase s.account.secretKey
    s.account.wrappedAukPassphrase s.account.wrappedIdentity = .ok ⟨s.account.identitySecretB64⟩
  /-- Every item is read with one of the secrets that the caller has. -/
  readable : ∀ x ∈ s.items, ∃ secretB64 ∈ s.secrets,
    Flows.decryptItem P x.itemJson secretB64 = .ok x.value
  /-- Items that are not pending are read with the current one. -/
  current : ∀ x ∈ s.items, x.pending = false →
    Flows.decryptItem P x.itemJson s.account.identitySecretB64 = .ok x.value
  /-- Nobody reads anything else, and nobody but the readers reads anything. -/
  reads_iff : ∀ x ∈ s.items, ∀ id : Identity, ∀ v,
    Flows.decryptItem P x.itemJson (b64 id.toSecretBytes) = .ok v ↔
      v = x.value ∧ (id.public P).kem ∈ x.readers

/-- Through any number of rotations, with items put and encrypted again in any order in between,
no value is lost: the caller can read every item, with the current secret once it is not pending,
and the old secrets can be forgotten once none is. -/
theorem kept_of_rotations (hS : Item.Sound P) (hI : KekInput.CollisionFree P I) {s : ItemStore P}
    (h : (machine P I).Reachable s) : s.Kept := by
  have hinv := inv_of_reachable hS hI h
  obtain ⟨auk, c, hacc⟩ := hinv.account
  refine ⟨(hacc.routesAgree hS.correct).unlockVault, fun x hx => ?_, fun x hx hpending => ?_,
    fun x hx id v => ?_⟩
  · obtain ⟨secretB64, hmem, hread⟩ := hinv.held x hx
    exact ⟨secretB64, hmem, (hinv.seals x hx).decryptItem_of_readBy hS hread⟩
  · exact (hinv.seals x hx).decryptItem_of_readBy hS (hinv.current x hx hpending)
  · exact (hinv.seals x hx).decryptItem_identity hS

/-! ### Encrypting everything again -/

lemma reachable_call {s : ItemStore P} (h : (machine P I).Reachable s) {op : Op}
    (hin : s.account.inputs P op ⊆ I) : (machine P I).Reachable (s.afterCall op) := by
  refine h.step (a := .call op) ⟨fun o ho => ?_, .call s op⟩
  cases ho
  exact hin

lemma reachable_put {s : ItemStore P} (h : (machine P I).Reachable s)
    {value json itemJson : String} {draws : ItemDraws} {readers : List (KemPublic P)}
    (henc : Encrypts P s.account value json draws itemJson readers) :
    (machine P I).Reachable { s with items := s.items ++ [⟨itemJson, value, readers, false⟩] } := by
  refine h.step (a := .put value json draws) ⟨fun o ho => ?_, .put s henc⟩
  cases ho

/-- Every text can be encrypted to the published keys. -/
lemma exists_encrypts (hR : P.KemKeyRoundTrip) {a : Account} {id : Identity}
    (hpub : a.Publishes P id) (value : String) (draws : ItemDraws) :
    ∃ itemJson, Encrypts P a value (P.pubBlobsJson.write [a.publicBlob]) draws itemJson
      [(id.public P).kem] := by
  have hread := P.pubBlobsJson.read_write [a.publicBlob]
  have hreaders : Flows.readRecipients P [a.publicBlob] = .ok [(id.public P).kem] := by
    simp [Flows.readRecipients, hpub.publicBlob_eq, PublicIdentity.fromBlob_toBlob hR]
  obtain ⟨itemJson, hitem⟩ :=
    hpub.exists_encryptItem hR value draws.dek draws.nonce draws.wraps
  exact ⟨itemJson, _, hread, List.mem_singleton_self _, hreaders, hitem⟩

/-- As long as an item is pending, the caller can encrypt one again, and then fewer are. -/
lemma Inv.exists_reencrypt (hS : Item.Sound P) {s : ItemStore P} (h : s.Inv P I)
    (hpending : s.items.countP StoredItem.pending ≠ 0) (draws : ℕ → ItemDraws) :
    ∃ op s', ((machine P I).restrict StoreOp.CleansUp).step s op s' ∧ s'.account = s.account ∧
      s'.items.map StoredItem.value = s.items.map StoredItem.value ∧
      s'.items.countP StoredItem.pending < s.items.countP StoredItem.pending := by
  obtain ⟨x, hx, hxp⟩ := List.countP_pos_iff.mp (Nat.pos_of_ne_zero hpending)
  obtain ⟨i, hi, rfl⟩ := List.getElem_of_mem hx
  obtain ⟨secretB64, hsecret, hread⟩ := h.held _ hx
  obtain ⟨id, hid⟩ := h.publishes
  obtain ⟨itemJson, henc⟩ := exists_encrypts hS.roundTrip hid s.items[i].value (draws i)
  have hok := (h.seals _ hx).decryptItem_of_readBy hS hread
  have hs' : Reencrypts P s i secretB64 _ (draws i) _ :=
    ⟨_, _, _, _, List.getElem?_eq_getElem hi, hok, henc, rfl⟩
  refine ⟨.reencrypt i secretB64 _ _, _, ⟨trivial, fun o ho => ?_, .reencrypt hsecret hs'⟩, rfl,
    ?_, ?_⟩
  · cases ho
  · rw [List.map_set, ← List.getElem_map StoredItem.value (h := by simpa using hi),
      List.set_getElem_self]
  · rw [List.countP_set hi, if_pos hxp]
    simp only [Bool.false_eq_true, if_false]
    omega

/-- From every store, the caller can encrypt all pending items again with the secrets that it has,
and do nothing else meanwhile. Then the current secret reads every item, and the old ones can be
forgotten. -/
theorem exists_reencrypted (hS : Item.Sound P) (hI : KekInput.CollisionFree P I) {s : ItemStore P}
    (h : (machine P I).Reachable s) (draws : ℕ → ItemDraws) :
    ∃ s', ((machine P I).restrict StoreOp.CleansUp).Leads s s' ∧ s'.account = s.account ∧
      s'.oldSecrets = [] ∧ s'.items.map StoredItem.value = s.items.map StoredItem.value ∧
      ∀ x ∈ s'.items, Flows.decryptItem P x.itemJson s.account.identitySecretB64 = .ok x.value := by
  have hprogress : ∀ t : ItemStore P, (t.Inv P I ∧ t.account = s.account ∧
      t.items.map StoredItem.value = s.items.map StoredItem.value) →
      t.items.countP StoredItem.pending ≠ 0 →
      ∃ op t', ((machine P I).restrict StoreOp.CleansUp).step t op t' ∧
        (t'.Inv P I ∧ t'.account = s.account ∧
          t'.items.map StoredItem.value = s.items.map StoredItem.value) ∧
        t'.items.countP StoredItem.pending < t.items.countP StoredItem.pending := by
    rintro t ⟨ht, hacc, hvalues⟩ hne
    obtain ⟨op, t', hstep, hacc', hvalues', hlt⟩ := ht.exists_reencrypt hS hne draws
    exact ⟨op, t', hstep, ⟨ht.step hS hI hstep.2, hacc'.trans hacc, hvalues'.trans hvalues⟩, hlt⟩
  obtain ⟨t, hrun, ⟨ht, hacc, hvalues⟩, hdone⟩ :=
    Machine.exists_leads_of_measure _ hprogress ⟨inv_of_reachable hS hI h, rfl, rfl⟩
  have hnone : ∀ x ∈ t.items, x.pending = false := by
    intro x hx
    simpa using List.countP_eq_zero.mp hdone x hx
  have hforget : ((machine P I).restrict StoreOp.CleansUp).step t .forget
      { t with oldSecrets := [] } := by
    refine ⟨trivial, fun o ho => ?_, .forget t hnone⟩
    cases ho
  refine ⟨_, .step hrun hforget, hacc, rfl, hvalues, fun x hx => ?_⟩
  rw [← hacc]
  exact (ht.seals x hx).decryptItem_of_readBy hS (ht.current x hx (hnone x hx))

end ItemStore

/-! ### The stand-in primitives -/

namespace Reference

def itemDraws : ItemDraws := ⟨zeros 32, zeros 24, fun _ => wrapDraws⟩

/-- A new vault with one item, after a rotation: the item is pending. -/
lemma exists_rotatedStore : ∃ s, (ItemStore.machine primitives inputs).Reachable s ∧
    s.items.map StoredItem.value = ["hi"] ∧ s.items.map StoredItem.pending = [true] ∧
    s.account.identitySecretB64 = b64 rotatedIdentity.toSecretBytes := by
  obtain ⟨out, hout, hin, hcreated⟩ := exists_created
  have hinit : (ItemStore.machine primitives inputs).Reachable
      ⟨Account.created primitives "pw" out, [], []⟩ :=
    .init ⟨⟨"pw", "constrained", draws, out, hout, hin, rfl⟩, rfl, rfl⟩
  obtain ⟨itemJson, henc⟩ := ItemStore.exists_encrypts kemKeyRoundTrip
    (Account.Publishes.created hout) "hi" itemDraws
  have hput := ItemStore.reachable_put hinit henc
  obtain ⟨rotated, hcall, hsecret, hstep, -⟩ :=
    hcreated.rotateIdentity (fit 32 [1]) (fit 32 [1])
  have hback : ItemStore.handedBack primitives (Account.created primitives "pw" out)
      (.rotateIdentity "pw" (Account.created primitives "pw" out).secretKey (fit 32 [1])
        (fit 32 [1]) (zeros 24)) = some rotated.oldIdentitySecretB64 := by
    simp only [ItemStore.handedBack, hcall]
  refine ⟨_, ItemStore.reachable_call hput hstep.1, ?_⟩
  simp only [ItemStore.afterCall, hback]
  refine ⟨rfl, rfl, ?_⟩
  rw [← hstep.2]
  exact hsecret

theorem kept_rotatedStore : ∃ s : ItemStore primitives,
    s.items.map StoredItem.value = ["hi"] ∧ s.items.map StoredItem.pending = [true] ∧
      s.account.identitySecretB64 = b64 rotatedIdentity.toSecretBytes ∧ s.Kept := by
  obtain ⟨s, hs, hvalues, hpending, hid⟩ := exists_rotatedStore
  exact ⟨s, hvalues, hpending, hid, ItemStore.kept_of_rotations sound collisionFree_inputs hs⟩

theorem reencrypted_rotatedStore : ∃ s s' : ItemStore primitives,
    s.items.map StoredItem.pending = [true] ∧
      s.account.identitySecretB64 = b64 rotatedIdentity.toSecretBytes ∧
      ((ItemStore.machine primitives inputs).restrict StoreOp.CleansUp).Leads s s' ∧
      s'.account = s.account ∧ s'.oldSecrets = [] ∧ s'.items.map StoredItem.value = ["hi"] ∧
      ∀ x ∈ s'.items,
        Flows.decryptItem primitives x.itemJson s.account.identitySecretB64 = .ok x.value := by
  obtain ⟨s, hs, hvalues, hpending, hid⟩ := exists_rotatedStore
  obtain ⟨s', hrun, hacc, hold, hvalues', hread⟩ :=
    ItemStore.exists_reencrypted sound collisionFree_inputs hs fun _ => itemDraws
  exact ⟨s, s', hpending, hid, hrun, hacc, hold, hvalues'.trans hvalues, hread⟩

end Reference

end PockCore
