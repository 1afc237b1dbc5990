import PockCore.Item.Access

/-!
# Grants of any item

A grant appends a wrap, and a reader takes the first wrap that has the reader's id. On an item as
it comes from storage, with any wraps, the two agree where the recipient has no wrap yet.
-/

namespace PockCore

namespace Item

variable {P : Primitives}

/-! ### The wrap of a reader -/

/-- The wrap that a holder of the key is given, the first of possibly many. -/
def wrapFor (item : EncryptedItem) (pub : KemPublic P) : Option WrappedDek :=
  item.wrappedDeks.find? fun w => w.recipient = recipientId pub

/-- The wrap opens to a data key, and the value opens with it to `m`. -/
def Yields (P : Primitives) (item : EncryptedItem) (secret : KemSecret) (w : WrappedDek)
    (m : Bytes) : Prop :=
  ∃ dek : AeadKey, Envelope.openWith P secret w.env = .ok dek.toList ∧
    ∃ ciphertext, item.ciphertext = b64 ciphertext ∧ Aead.openBlob P dek ciphertext = .ok m

variable {item : EncryptedItem} {secret : KemSecret} {pub : KemPublic P} {m : Bytes}

lemma recoverDek_eq_ok {dek : AeadKey} :
    recoverDek item secret pub = .ok dek ↔ item.v = 1 ∧ ∃ w, wrapFor item pub = some w ∧
      Envelope.openWith P secret w.env = .ok dek.toList := by
  unfold recoverDek wrapFor
  by_cases hv : item.v = 1
  · simp [hv, Outcome.bind_eq_ok, Bytes.tryInto_eq_some]
  · simp [hv]

/-- A value is read with the reader's first wrap, and with no other. -/
lemma decryptItem_eq_ok :
    decryptItem item secret pub = .ok m ↔
      item.v = 1 ∧ ∃ w, wrapFor item pub = some w ∧ Yields P item secret w m := by
  simp only [decryptItem, Outcome.bind_eq_ok, recoverDek_eq_ok, unb64_eq_ok, Yields]
  constructor
  · rintro ⟨dek, ⟨hv, w, hw, hdek⟩, ciphertext, hct, hopen⟩
    exact ⟨hv, w, hw, dek, hdek, ciphertext, hct, hopen⟩
  · rintro ⟨hv, w, hw, dek, hdek, ciphertext, hct, hopen⟩
    exact ⟨dek, ⟨hv, w, hw, hdek⟩, ciphertext, hct, hopen⟩

/-- Two items with one value are read alike by everyone who has one wrap in both. -/
lemma decryptItem_congr {item' : EncryptedItem} (hv : item'.v = item.v)
    (hct : item'.ciphertext = item.ciphertext) (hw : wrapFor item' pub = wrapFor item pub) :
    decryptItem item' secret pub = decryptItem item secret pub := by
  unfold wrapFor at hw
  simp only [decryptItem, recoverDek, hv, hct, hw]

/-! ### The wrap that is appended -/

def append (item : EncryptedItem) (w : WrappedDek) : EncryptedItem :=
  { item with wrappedDeks := item.wrappedDeks ++ [w] }

/-- A grant that succeeds appends a wrap of the data key that the opener recovers. -/
lemma grant_eq_ok {new : KemPublic P} {draws : WrapDraws} {item' : EncryptedItem} :
    grant item secret pub new draws = (.ok (), item') ↔
      ∃ dek, recoverDek item secret pub = .ok dek ∧
        item' = append item (wrapDek new dek draws) := by
  unfold grant append
  cases hdek : recoverDek item secret pub with
  | ok dek => simp [eq_comm]
  | err e => simp
  | panic => simp

/-- Who has a wrap keeps it as the first one; else the appended wrap is the one of its recipient. -/
lemma wrapFor_append (w : WrappedDek) :
    wrapFor (append item w) pub =
      (wrapFor item pub).or (if w.recipient = recipientId pub then some w else none) := by
  unfold wrapFor append
  rw [List.find?_append, List.find?_singleton]
  simp only [decide_eq_true_eq]

/-- Who had a wrap reads as before. -/
lemma decryptItem_append (w : WrappedDek) (h : (wrapFor item pub).isSome) (secret : KemSecret) :
    decryptItem (append item w) secret pub = decryptItem item secret pub := by
  refine decryptItem_congr rfl rfl ?_
  obtain ⟨first, hfirst⟩ := Option.isSome_iff_exists.mp h
  rw [wrapFor_append, hfirst, Option.some_or]

/-- The recipient of the appended wrap reads what the first wrap of that recipient yields. -/
lemma decryptItem_append_eq_ok {w : WrappedDek} (hv : item.v = 1)
    (hid : w.recipient = recipientId pub) (hw : Yields P item secret w m) :
    decryptItem (append item w) secret pub = .ok m ↔
      ∀ first, wrapFor item pub = some first → Yields P item secret first m := by
  rw [decryptItem_eq_ok, wrapFor_append, if_pos hid]
  cases hfirst : wrapFor item pub with
  | none => exact iff_of_true ⟨hv, w, rfl, hw⟩ nofun
  | some first =>
    rw [Option.some_or]
    constructor
    · rintro ⟨-, w', hw', hyields⟩ w'' hw''
      obtain rfl := Option.some.inj (hw'.symm.trans hw'')
      exact hyields
    · exact fun h => ⟨hv, first, rfl, h first rfl⟩

/-- The value that is read with a data key is read with every other way to that data key. -/
lemma yields_of_recoverDek {dek : AeadKey} (hdek : recoverDek item secret pub = .ok dek)
    (hm : decryptItem item secret pub = .ok m) {secret' : KemSecret} {w : WrappedDek}
    (hopen : Envelope.openWith P secret' w.env = .ok dek.toList) : Yields P item secret' w m := by
  rw [decryptItem, hdek, Outcome.ok_bind] at hm
  obtain ⟨ciphertext, hct, hm⟩ := Outcome.bind_eq_ok.mp hm
  exact ⟨dek, hopen, ciphertext, unb64_eq_ok.mp hct, hm⟩

/-- After a grant that succeeds, the recipient reads what the opener reads, and everyone else who
had a wrap reads as before, exactly if the first wrap that the recipient had before, if any, yields
what the opener reads. -/
theorem grant_gives_access_iff (hC : P.XchachaCorrect) (hK : P.KemCorrect)
    {openerSecret : KemSecret} {openerPublic : KemPublic P}
    (hm : decryptItem item openerSecret openerPublic = .ok m)
    (hpair : secret.encapsulationKey P = pub) {draws : WrapDraws} {item' : EncryptedItem}
    (h : grant item openerSecret openerPublic pub draws = (.ok (), item')) :
    (decryptItem item' secret pub = .ok m ∧
      ∀ (otherSecret : KemSecret) (other : KemPublic P), (wrapFor item other).isSome → other ≠ pub →
        decryptItem item' otherSecret other = decryptItem item otherSecret other) ↔
      ∀ first, wrapFor item pub = some first → Yields P item secret first m := by
  subst hpair
  obtain ⟨dek, hdek, rfl⟩ := grant_eq_ok.mp h
  have hv : item.v = 1 := (recoverDek_eq_ok.mp hdek).1
  have hnew : Yields P item secret (wrapDek (secret.encapsulationKey P) dek draws) m :=
    yields_of_recoverDek hdek hm (Envelope.openWith_sealTo hC hK secret _ _ _)
  rw [decryptItem_append_eq_ok hv rfl hnew]
  exact and_iff_left fun otherSecret other hsome _ => decryptItem_append _ hsome otherSecret

end Item

/-! ### The stand-in primitives -/

namespace Reference

lemma recipientId_ne :
    Item.recipientId (reader (fit 32 [1])) ≠ Item.recipientId (reader (fit 32 [2])) := by
  intro h
  have hreader : reader (fit 32 [1]) = reader (fit 32 [2]) :=
    Item.recipientId_injective kemKeyRoundTrip h
  have hfit : fit 32 [1] = fit 32 [2] := hreader
  exact absurd hfit (by decide)

/-- The wrap for the first key pair yields the value. -/
lemma yields_wrapDek : Item.Yields primitives item.item (fit 32 [1])
    (Item.wrapDek (reader (fit 32 [1])) (fit 32 [7]) wrapDraws) [104, 105] :=
  ⟨fit 32 [7], Envelope.openWith_sealTo xchachaCorrect kemCorrect _ _ wrapDraws.coins _, _, rfl,
    Aead.openBlob_sealBlob xchachaCorrect _ _ _⟩

/-- The item of the first key pair, with a damaged wrap for the second. -/
noncomputable def damagedItem : EncryptedItem :=
  { item.item with
    wrappedDeks := ⟨Item.recipientId (reader (fit 32 [2])), ⟨2, "", ""⟩⟩ :: item.item.wrappedDeks }

lemma wrapFor_damagedItem_first : Item.wrapFor damagedItem (reader (fit 32 [1])) =
    some (Item.wrapDek (reader (fit 32 [1])) (fit 32 [7]) wrapDraws) := by
  simp [Item.wrapFor, damagedItem, item, Item.wrapDek, recipientId_ne.symm]

lemma wrapFor_damagedItem_second : Item.wrapFor damagedItem (reader (fit 32 [2])) =
    some ⟨Item.recipientId (reader (fit 32 [2])), ⟨2, "", ""⟩⟩ := by
  simp [Item.wrapFor, damagedItem]

/-- A grant does not repair a damaged wrap: it succeeds, and its recipient cannot read. -/
theorem decryptItem_damaged :
    Item.decryptItem damagedItem (fit 32 [1]) (reader (fit 32 [1])) = .ok [104, 105] ∧
      ∃ item', Item.grant damagedItem (fit 32 [1]) (reader (fit 32 [1])) (reader (fit 32 [2]))
          wrapDraws = (.ok (), item') ∧
        Item.decryptItem item' (fit 32 [2]) (reader (fit 32 [2])) ≠ .ok [104, 105] := by
  have hreads : Item.decryptItem damagedItem (fit 32 [1]) (reader (fit 32 [1])) =
      .ok [104, 105] :=
    Item.decryptItem_eq_ok.mpr ⟨rfl, _, wrapFor_damagedItem_first, yields_wrapDek⟩
  obtain ⟨dek, hdek, -⟩ := Outcome.bind_eq_ok.mp hreads
  refine ⟨hreads, _, Item.grant_eq_ok.mpr ⟨dek, hdek, rfl⟩, fun h => ?_⟩
  rw [Item.decryptItem_append _ (by rw [wrapFor_damagedItem_second]; rfl)] at h
  obtain ⟨-, w, hw, dek', hopen, -⟩ := Item.decryptItem_eq_ok.mp h
  rw [wrapFor_damagedItem_second, Option.some.injEq] at hw
  subst hw
  cases hopen

/-- Who has no wrap yet reads what is granted. -/
theorem decryptItem_newReader : ∃ item',
    Item.grant item.item (fit 32 [1]) (reader (fit 32 [1])) (reader (fit 32 [2])) wrapDraws =
        (.ok (), item') ∧
      Item.decryptItem item' (fit 32 [2]) (reader (fit 32 [2])) = .ok [104, 105] := by
  have hfirst : Item.wrapFor item.item (reader (fit 32 [1])) =
      some (Item.wrapDek (reader (fit 32 [1])) (fit 32 [7]) wrapDraws) := by
    simp [Item.wrapFor, item, Item.wrapDek]
  have hsecond : Item.wrapFor item.item (reader (fit 32 [2])) = none := by
    simp [Item.wrapFor, item, Item.wrapDek, recipientId_ne]
  have hreads : Item.decryptItem item.item (fit 32 [1]) (reader (fit 32 [1])) = .ok [104, 105] :=
    Item.decryptItem_eq_ok.mpr ⟨rfl, _, hfirst, yields_wrapDek⟩
  obtain ⟨dek, hdek, -⟩ := Outcome.bind_eq_ok.mp hreads
  have hgrant : Item.grant item.item (fit 32 [1]) (reader (fit 32 [1])) (reader (fit 32 [2]))
      wrapDraws = (.ok (), _) := Item.grant_eq_ok.mpr ⟨dek, hdek, rfl⟩
  refine ⟨_, hgrant, ?_⟩
  refine ((Item.grant_gives_access_iff xchachaCorrect kemCorrect hreads rfl hgrant).mpr ?_).1
  intro first h
  cases hsecond.symm.trans h

end Reference

end PockCore
