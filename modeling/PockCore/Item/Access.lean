import PockCore.Crypto.Reference
import PockCore.Item.Basic
import PockCore.Lib.Machine

/-!
# Who can read an item

Every wrap of an item opens, for its own recipient, to the one data key that sealed the value.
Grants append wraps of that same key, so the readers are the recipients at every point of any
history of grants.
-/

namespace PockCore

namespace Item

variable {P : Primitives}

/-! ### The histories of an item -/

/-- A call of `grant`. -/
structure GrantCall (P : Primitives) where
  openerSecret : KemSecret
  openerPublic : KemPublic P
  newRecipient : KemPublic P
  draws : WrapDraws

/-- The opener's keys are a pair. -/
def GrantCall.Matching (call : GrantCall P) : Prop :=
  call.openerSecret.encapsulationKey P = call.openerPublic

/-- An item with its original recipients and the targets of the grants that succeeded. -/
structure Shared (P : Primitives) where
  item : EncryptedItem
  recipients : List (KemPublic P)

def Shared.grant (s : Shared P) (call : GrantCall P) : Result Unit × EncryptedItem :=
  Item.grant s.item call.openerSecret call.openerPublic call.newRecipient call.draws

/-- The item and the targets after a call. -/
def Shared.step (s : Shared P) (call : GrantCall P) : Shared P where
  item := (s.grant call).2
  recipients :=
    match (s.grant call).1 with
    | .ok _ => s.recipients ++ [call.newRecipient]
    | _ => s.recipients

/-- The histories of an item that was encrypted from `value`. -/
def machine (P : Primitives) (value : Bytes) : Machine (Shared P) (GrantCall P) where
  init s := ∃ dek nonce draws, encryptItem value s.recipients dek nonce draws = .ok s.item
  step s call s' := s' = s.step call

/-! ### What an item is for -/

/-- A list of readers: a reader may add one, and nobody else can. -/
inductive AccessStep : List (KemPublic P) → GrantCall P → List (KemPublic P) → Prop where
  | granted {readers : List (KemPublic P)} {call : GrantCall P} (hm : call.Matching)
      (hr : call.openerPublic ∈ readers) : AccessStep readers call (readers ++ [call.newRecipient])
  | refused {readers : List (KemPublic P)} {call : GrantCall P}
      (h : ¬(call.Matching ∧ call.openerPublic ∈ readers)) : AccessStep readers call readers

def accessMachine (P : Primitives) : Machine (List (KemPublic P)) (GrantCall P) where
  init readers := readers ≠ []
  step := AccessStep

/-! ### The invariant -/

/-- The item holds `value` under `dek`, and `dek` for the recipients. -/
structure Shared.Inv (s : Shared P) (value : Bytes) (dek : AeadKey) : Prop where
  version : s.item.v = 1
  ciphertext : ∃ nonce, s.item.ciphertext = b64 (Aead.sealBlob P dek value nonce)
  wraps : ∀ w ∈ s.item.wrappedDeks, ∃ pk ∈ s.recipients, ∃ draws, w = wrapDek pk dek draws
  recipients : ∀ pk ∈ s.recipients, ∃ draws, wrapDek pk dek draws ∈ s.item.wrappedDeks

/-- The assumptions on the primitives that the readers of an item rest on. -/
structure Sound (P : Primitives) : Prop where
  correct : P.XchachaCorrect
  commits : P.XchachaCommits
  kem : P.KemCorrect
  rejects : P.KemRejects
  keyInj : Envelope.KeyInj P
  roundTrip : P.KemKeyRoundTrip

lemma recipientId_injective (h : P.KemKeyRoundTrip) :
    Function.Injective (recipientId : KemPublic P → String) :=
  (b64_injective P).comp (KemPublic.asBytes_injective h)

namespace Shared.Inv

variable {s : Shared P} {value : Bytes} {dek : AeadKey} {secret : KemSecret} {pub : KemPublic P}

/-- A recipient is found, with a wrap of the data key for that recipient. -/
lemma find_of_mem (hR : P.KemKeyRoundTrip) (h : s.Inv value dek) (hpub : pub ∈ s.recipients) :
    ∃ draws, s.item.wrappedDeks.find? (fun w => w.recipient = recipientId pub) =
      some (wrapDek pub dek draws) := by
  obtain ⟨draws, hmem⟩ := h.recipients pub hpub
  have hsome : (s.item.wrappedDeks.find? fun w => w.recipient = recipientId pub).isSome := by
    rw [List.find?_isSome]
    exact ⟨_, hmem, by simp [wrapDek]⟩
  obtain ⟨w, hw⟩ := Option.isSome_iff_exists.mp hsome
  obtain ⟨pk, -, draws', rfl⟩ := h.wraps w (List.mem_of_find?_eq_some hw)
  have hfound := List.find?_some hw
  simp only [decide_eq_true_eq] at hfound
  have hid : recipientId pk = recipientId pub := hfound
  rw [recipientId_injective hR hid] at hw
  exact ⟨draws', hw⟩

/-- Nobody else is found. -/
lemma find_of_notMem (hS : Sound P) (h : s.Inv value dek) (hpub : pub ∉ s.recipients) :
    s.item.wrappedDeks.find? (fun w => w.recipient = recipientId pub) = none := by
  rw [List.find?_eq_none]
  intro w hw hid
  obtain ⟨pk, hpk, draws, rfl⟩ := h.wraps w hw
  have hid : recipientId pk = recipientId pub := of_decide_eq_true hid
  exact hpub (recipientId_injective hS.roundTrip hid ▸ hpk)

lemma recoverDek_of_mem (hC : P.XchachaCorrect) (hK : P.KemCorrect) (hR : P.KemKeyRoundTrip)
    (h : s.Inv value dek) (hpub : secret.encapsulationKey P ∈ s.recipients) :
    recoverDek s.item secret (secret.encapsulationKey P) = .ok dek := by
  obtain ⟨draws, hw⟩ := h.find_of_mem hR hpub
  rw [recoverDek, if_neg (not_not.mpr h.version)]
  simp only [hw, Outcome.okOr_some, Outcome.ok_bind, wrapDek,
    Envelope.openWith_sealTo hC hK, Bytes.tryInto_toList]

/-- Without a matching pair of a recipient, the data key is not recovered. -/
lemma recoverDek_of_not (hS : Sound P) (h : s.Inv value dek)
    (hno : ¬(secret.encapsulationKey P = pub ∧ pub ∈ s.recipients)) :
    recoverDek s.item secret pub = .err .wrongKey := by
  rw [recoverDek, if_neg (not_not.mpr h.version)]
  by_cases hpub : pub ∈ s.recipients
  · obtain ⟨draws, hw⟩ := h.find_of_mem hS.roundTrip hpub
    have hne : secret.encapsulationKey P ≠ pub := fun heq => hno ⟨heq, hpub⟩
    simp only [hw, Outcome.okOr_some, Outcome.ok_bind, wrapDek,
      Envelope.openWith_sealTo_of_ne hS.commits hS.rejects hS.keyInj hne, Outcome.err_bind]
  · simp only [h.find_of_notMem hS hpub, Outcome.okOr_none, Outcome.err_bind]

/-! ### What the calls do -/

lemma decryptItem_of_mem (hC : P.XchachaCorrect) (hK : P.KemCorrect) (hR : P.KemKeyRoundTrip)
    (h : s.Inv value dek) (hpub : secret.encapsulationKey P ∈ s.recipients) :
    decryptItem s.item secret (secret.encapsulationKey P) = .ok value := by
  obtain ⟨nonce, hct⟩ := h.ciphertext
  rw [decryptItem, h.recoverDek_of_mem hC hK hR hpub, hct]
  simp only [Outcome.ok_bind, unb64_b64, Aead.openBlob_sealBlob hC]

lemma decryptItem_of_not (hS : Sound P) (h : s.Inv value dek)
    (hno : ¬(secret.encapsulationKey P = pub ∧ pub ∈ s.recipients)) :
    decryptItem s.item secret pub = .err .wrongKey := by
  rw [decryptItem, h.recoverDek_of_not hS hno, Outcome.err_bind]

lemma grant_of_mem (hS : Sound P) (h : s.Inv value dek) {call : GrantCall P}
    (hm : call.Matching) (hr : call.openerPublic ∈ s.recipients) :
    s.grant call = (.ok (), { s.item with
      wrappedDeks := s.item.wrappedDeks ++ [wrapDek call.newRecipient dek call.draws] }) := by
  have hdek : recoverDek s.item call.openerSecret call.openerPublic = .ok dek := by
    rw [← hm]
    exact h.recoverDek_of_mem hS.correct hS.kem hS.roundTrip (hm ▸ hr)
  simp only [Shared.grant, Item.grant, hdek]

lemma grant_of_not (hS : Sound P) (h : s.Inv value dek) {call : GrantCall P}
    (hno : ¬(call.Matching ∧ call.openerPublic ∈ s.recipients)) :
    s.grant call = (.err .wrongKey, s.item) := by
  simp only [Shared.grant, Item.grant, h.recoverDek_of_not hS hno]

/-! ### Preservation -/

/-- A grant that a reader makes adds a reader, and any other call changes nothing. -/
lemma step (hS : Sound P) (h : s.Inv value dek) (call : GrantCall P) :
    AccessStep s.recipients call (s.step call).recipients ∧ (s.step call).Inv value dek := by
  by_cases hc : call.Matching ∧ call.openerPublic ∈ s.recipients
  · obtain ⟨hm, hr⟩ := hc
    rw [Shared.step, h.grant_of_mem hS hm hr]
    refine ⟨.granted hm hr, h.version, h.ciphertext, ?_, ?_⟩
    · intro w hw
      rcases List.mem_append.mp hw with hw | hw
      · obtain ⟨pk, hpk, hdraws⟩ := h.wraps w hw
        exact ⟨pk, List.mem_append_left _ hpk, hdraws⟩
      · rw [List.mem_singleton] at hw
        exact ⟨_, List.mem_append_right _ (List.mem_singleton_self _), call.draws, hw⟩
    · intro pk hpk
      rcases List.mem_append.mp hpk with hpk | hpk
      · obtain ⟨draws, hw⟩ := h.recipients pk hpk
        exact ⟨draws, List.mem_append_left _ hw⟩
      · rw [List.mem_singleton] at hpk
        exact ⟨call.draws, List.mem_append_right _ (by rw [hpk]; exact List.mem_singleton_self _)⟩
  · rw [Shared.step, h.grant_of_not hS hc]
    exact ⟨.refused hc, h⟩

/-- A new item holds its value for its recipients. -/
lemma init {recipients : List (KemPublic P)} {nonce : Nonce} {draws : ℕ → WrapDraws}
    {item : EncryptedItem} (h : encryptItem value recipients dek nonce draws = .ok item) :
    recipients ≠ [] ∧ Shared.Inv ⟨item, recipients⟩ value dek := by
  unfold encryptItem at h
  split_ifs at h with hempty
  cases h
  refine ⟨fun hnil => hempty (by simp [hnil]), rfl, ⟨nonce, rfl⟩, ?_, ?_⟩
  · intro w hw
    obtain ⟨i, hi, rfl⟩ := List.mem_mapIdx.mp hw
    exact ⟨recipients[i], List.getElem_mem hi, draws i, rfl⟩
  · intro pk hpk
    obtain ⟨i, hi, rfl⟩ := List.getElem_of_mem hpk
    exact ⟨draws i, List.mem_mapIdx.mpr ⟨i, hi, rfl⟩⟩

end Shared.Inv

/-- An item is a list of readers: its histories follow those of the list, call by call. -/
theorem simulates (hS : Sound P) (value : Bytes) :
    (machine P value).Simulates (accessMachine P)
      fun s readers => readers = s.recipients ∧ ∃ dek, s.Inv value dek where
  init := by
    rintro ⟨item, recipients⟩ ⟨dek, nonce, draws, h⟩
    obtain ⟨hne, hinv⟩ := Shared.Inv.init h
    exact ⟨recipients, hne, rfl, dek, hinv⟩
  step := by
    rintro s call s' readers ⟨rfl, dek, hinv⟩ rfl
    obtain ⟨hstep, hinv'⟩ := hinv.step hS call
    exact ⟨_, hstep, rfl, dek, hinv'⟩

/-- What a key pair can do with an item, and what a grant does to it. -/
structure Shared.AccessExact (s : Shared P) (value : Bytes) : Prop where
  /-- Every recipient reads the value. -/
  reads : ∀ secret : KemSecret, secret.encapsulationKey P ∈ s.recipients →
    decryptItem s.item secret (secret.encapsulationKey P) = .ok value
  /-- Nobody else reads anything: not for another public key, nor with another secret. -/
  others : ∀ (secret : KemSecret) (pub : KemPublic P),
    pub ∉ s.recipients ∨ secret.encapsulationKey P ≠ pub →
    decryptItem s.item secret pub = .err .wrongKey
  /-- A grant succeeds for a recipient's pair of keys only. -/
  grant_iff : ∀ call, (s.grant call).1 = .ok () ↔
    call.Matching ∧ call.openerPublic ∈ s.recipients
  /-- A failed grant changes nothing. -/
  failed : ∀ call, (s.grant call).1 ≠ .ok () → (s.grant call).2 = s.item
  /-- A grant that succeeds appends one wrap and changes nothing else. -/
  appended : ∀ call, (s.grant call).1 = .ok () →
    ∃ w, (s.grant call).2 = { s.item with wrappedDeks := s.item.wrappedDeks ++ [w] }

/-- At every point of any history of grants, the readers of an item are exactly its original
recipients and the targets of the grants that succeeded. -/
theorem accessExact_of_reachable (hS : Sound P) {value : Bytes} {s : Shared P}
    (h : (machine P value).Reachable s) : s.AccessExact value := by
  obtain ⟨readers, -, -, dek, hinv⟩ := (simulates hS value).reachable h
  have hcases : ∀ call, (call.Matching ∧ call.openerPublic ∈ s.recipients) ∨
      s.grant call = (.err .wrongKey, s.item) := fun call =>
    (em _).imp_right fun hno => hinv.grant_of_not hS hno
  refine ⟨fun _ hmem => hinv.decryptItem_of_mem hS.correct hS.kem hS.roundTrip hmem, ?_, ?_, ?_, ?_⟩
  · intro secret pub hor
    refine hinv.decryptItem_of_not hS fun ⟨hm, hr⟩ => ?_
    rcases hor with hr' | hm'
    · exact hr' hr
    · exact hm' hm
  · intro call
    constructor
    · intro hok
      refine (hcases call).resolve_right fun hno => ?_
      rw [hno] at hok
      cases hok
    · rintro ⟨hm, hr⟩
      rw [hinv.grant_of_mem hS hm hr]
  · intro call hfail
    rcases hcases call with ⟨hm, hr⟩ | hno
    · rw [hinv.grant_of_mem hS hm hr] at hfail
      exact absurd rfl hfail
    · rw [hno]
  · intro call hok
    rcases hcases call with ⟨hm, hr⟩ | hno
    · exact ⟨_, by rw [hinv.grant_of_mem hS hm hr]⟩
    · rw [hno] at hok
      cases hok

end Item

/-! ### The stand-in primitives -/

namespace Reference

lemma keyInj : Envelope.KeyInj primitives := by
  intro shared shared' kemCt h
  simpa [Envelope.key, Kdf.hkdfSha256, primitives, fit_append] using h

lemma sound : Item.Sound primitives where
  correct := xchachaCorrect
  commits := xchachaCommits
  kem := kemCorrect
  rejects := kemRejects
  keyInj := keyInj
  roundTrip := kemKeyRoundTrip

/-- The public key of a secret, which is the secret itself. -/
noncomputable def reader (secret : KemSecret) : KemPublic primitives :=
  secret.encapsulationKey primitives

def wrapDraws : Item.WrapDraws := ⟨[], fit 24 []⟩

/-- An item for the first of two key pairs. -/
noncomputable def item : Item.Shared primitives where
  item :=
    { v := 1, ciphertext := b64 (Aead.sealBlob primitives (fit 32 [7]) [104, 105] (fit 24 []))
      wrappedDeks := [Item.wrapDek (reader (fit 32 [1])) (fit 32 [7]) wrapDraws] }
  recipients := [reader (fit 32 [1])]

/-- The first key pair grants the item to the second. -/
noncomputable def grantCall : Item.GrantCall primitives where
  openerSecret := fit 32 [1]
  openerPublic := reader (fit 32 [1])
  newRecipient := reader (fit 32 [2])
  draws := wrapDraws

/-- The second key pair reads the item that was granted to it. -/
theorem decryptItem_granted :
    Item.decryptItem (item.step grantCall).item (fit 32 [2]) (reader (fit 32 [2])) =
      .ok [104, 105] := by
  have hinit : (Item.machine primitives [104, 105]).Reachable item :=
    .init ⟨fit 32 [7], fit 24 [], fun _ => wrapDraws, by simp [Item.encryptItem, item]⟩
  have hok : (item.grant grantCall).1 = .ok () :=
    ((Item.accessExact_of_reachable sound hinit).grant_iff grantCall).mpr
      ⟨rfl, List.mem_singleton_self _⟩
  have hstep : (Item.machine primitives [104, 105]).Reachable (item.step grantCall) :=
    hinit.step rfl
  refine (Item.accessExact_of_reachable sound hstep).reads (fit 32 [2]) ?_
  rw [Item.Shared.step, hok]
  exact List.mem_append_right _ (List.mem_singleton_self _)

end Reference

end PockCore
