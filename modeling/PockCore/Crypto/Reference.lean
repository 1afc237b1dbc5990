import Mathlib
import PockCore.Crypto.Asymmetric

/-!
# Stand-in primitives

One instance of the primitives, in the clear: a ciphertext carries its key, a digest is the
start of its input, an encapsulated secret is the public key itself. It keeps no secret, but it
satisfies every assumption that results make of the real primitives, so none of them is vacuous.
Like the real one, its Argon2id refuses a salt of less than eight bytes.
-/

namespace PockCore

namespace Reference

/-- The first `n` bytes of a byte string, filled up with zeros. -/
def fit (n : ℕ) (b : Bytes) : ByteArr n where
  toList := (b ++ List.replicate n 0).take n
  length_toList := by simp

@[simp] lemma fit_append {n : ℕ} (a : ByteArr n) (b : Bytes) : fit n (a.toList ++ b) = a := by
  ext1
  simp [fit]

/-! ### Texts for records -/

/-- A list of texts as one text: every character is preceded by `+`, every text ended by `-`. -/
def writeTexts (l : List String) : List Char :=
  l.flatMap fun s => (s.toList.flatMap fun c => ['+', c]) ++ ['-']

def readTexts : List Char → List (List Char)
  | '+' :: c :: rest =>
    match readTexts rest with
    | [] => [[c]]
    | w :: ws => (c :: w) :: ws
  | '-' :: rest => [] :: readTexts rest
  | _ => []

lemma readTexts_append (w rest : List Char) :
    readTexts ((w.flatMap fun c => ['+', c]) ++ '-' :: rest) = w :: readTexts rest := by
  induction w with
  | nil => simp [readTexts]
  | cons c w ih => simp [readTexts, ih]

lemma readTexts_writeTexts (l : List String) : readTexts (writeTexts l) = l.map String.toList := by
  induction l with
  | nil => simp [writeTexts, readTexts]
  | cons s l ih =>
    rw [writeTexts, List.flatMap_cons, List.append_assoc, List.singleton_append,
      readTexts_append, ← writeTexts, ih, List.map_cons]

lemma writeTexts_injective : Function.Injective writeTexts := by
  intro l m h
  have hr := congrArg readTexts h
  rw [readTexts_writeTexts, readTexts_writeTexts] at hr
  exact List.map_injective_iff.mpr (fun _ _ => String.toList_inj.mp) hr

/-- A record is written as the texts of its fields, behind a brace. -/
def writeRecord (l : List String) : String := String.ofList ('\x7b' :: writeTexts l)

lemma writeRecord_injective : Function.Injective writeRecord := by
  intro l m h
  rw [writeRecord, writeRecord, ← String.toList_inj, String.toList_ofList, String.toList_ofList,
    List.cons.injEq] at h
  exact writeTexts_injective h.2

open Classical in
/-- The codec of an injective writer, which reads back just what it has written. -/
noncomputable def codecOf {M α : Type} (write : α → M) (h : Function.Injective write) :
    Codec M α where
  write := write
  read m := if hm : ∃ a, write a = m then .ok hm.choose else .error "not written here"
  read_write a := by
    have hm : ∃ b, write b = write a := ⟨a, rfl⟩
    rw [dif_pos hm, h hm.choose_spec]

lemma codecOf_read_eq_ok {M α : Type} {write : α → M} {h : Function.Injective write} {m : M}
    {a : α} (hr : (codecOf write h).read m = .ok a) : m = write a := by
  simp only [codecOf] at hr
  split_ifs at hr with hm
  rw [← Except.ok.inj hr]
  exact hm.choose_spec.symm

def number (n : ℕ) : String := Nat.repr n

def writeWrappedAuk (w : WrappedAuk) : String :=
  writeRecord [number w.v.toNat, w.method, w.salt, number w.mKib.toNat, number w.t.toNat,
    number w.p.toNat, w.blob]

lemma writeWrappedAuk_injective : Function.Injective writeWrappedAuk := by
  rintro ⟨⟩ ⟨⟩ h
  have hl := writeRecord_injective h
  simpa [number, Nat.repr_inj, UInt8.toNat_inj, UInt32.toNat_inj] using hl

def wrapTexts (w : WrappedDek) : List String :=
  [w.recipient, number w.env.v.toNat, w.env.kemCt, w.env.aead]

/-- Lists of records of a fixed number of fields are determined by the fields in a row. -/
lemma flatMap_injective {α : Type} {f : α → List String} {k : ℕ} (hk : 0 < k)
    (hlen : ∀ a, (f a).length = k) (hf : Function.Injective f) :
    Function.Injective (List.flatMap f) := by
  intro l m h
  induction l generalizing m with
  | nil =>
    cases m with
    | nil => rfl
    | cons b m =>
      have hl := congrArg List.length h
      simp only [List.flatMap_nil, List.length_nil, List.flatMap_cons, List.length_append,
        hlen b] at hl
      omega
  | cons a l ih =>
    cases m with
    | nil =>
      have hl := congrArg List.length h
      simp only [List.flatMap_nil, List.length_nil, List.flatMap_cons, List.length_append,
        hlen a] at hl
      omega
    | cons b m =>
      simp only [List.flatMap_cons] at h
      obtain ⟨hab, hlm⟩ := List.append_inj h (by rw [hlen, hlen])
      rw [hf hab, ih hlm]

def writeItem (i : EncryptedItem) : String :=
  writeRecord (number i.v.toNat :: i.ciphertext :: i.wrappedDeks.flatMap wrapTexts)

lemma writeItem_injective : Function.Injective writeItem := by
  rintro ⟨v, c, ws⟩ ⟨v', c', ws'⟩ h
  have hwrap : Function.Injective wrapTexts := by
    rintro ⟨r, ⟨⟩⟩ ⟨r', ⟨⟩⟩ hw
    simpa [wrapTexts, number, Nat.repr_inj, UInt8.toNat_inj] using hw
  have hl := writeRecord_injective h
  simp only [number, List.cons.injEq, Nat.repr_inj, UInt8.toNat_inj] at hl
  obtain ⟨rfl, rfl, hws⟩ := hl
  rw [flatMap_injective four_pos (fun _ => rfl) hwrap hws]

def writePubBlobs (l : List PublicIdentityBlob) : String :=
  writeRecord (l.flatMap fun b => [number b.v.toNat, b.sign, b.kem])

lemma writePubBlobs_injective : Function.Injective writePubBlobs := by
  have hblob : Function.Injective fun b : PublicIdentityBlob =>
      [number b.v.toNat, b.sign, b.kem] := by
    rintro ⟨⟩ ⟨⟩ hb
    simpa [number, Nat.repr_inj, UInt8.toNat_inj] using hb
  intro l m h
  exact flatMap_injective three_pos (fun _ => rfl) hblob (writeRecord_injective h)

/-- An absent text and a present one. -/
def writeOption : Option String → List String
  | none => ["", ""]
  | some s => ["some", s]

def writeBundle (b : Bundle) : String :=
  writeRecord (number b.v.toNat :: (writeOption b.note ++ writeOption b.name ++
    b.files.flatMap fun f => [f.name, f.content]))

lemma writeBundle_injective : Function.Injective writeBundle := by
  rintro ⟨v, fs, n, m⟩ ⟨v', fs', n', m'⟩ h
  have hopt : Function.Injective writeOption := by
    rintro (_ | s) (_ | t) ho <;> simp_all [writeOption]
  have hlen : ∀ o, (writeOption o).length = 2 := by rintro (_ | s) <;> rfl
  have hl := writeRecord_injective h
  simp only [number, List.cons.injEq, Nat.repr_inj, UInt8.toNat_inj, List.append_assoc] at hl
  obtain ⟨rfl, hl⟩ := hl
  obtain ⟨hn, hl⟩ := List.append_inj hl (by rw [hlen, hlen])
  obtain ⟨hm, hfs⟩ := List.append_inj hl (by rw [hlen, hlen])
  have hfile : Function.Injective fun f : EnvFile => [f.name, f.content] := by
    rintro ⟨⟩ ⟨⟩ hf
    simpa using hf
  rw [hopt hn, hopt hm, flatMap_injective two_pos (fun _ => rfl) hfile hfs]

/-- The stand-in primitives. -/
noncomputable def primitives : Primitives where
  xchachaEncrypt key _ msg _ := key.toList ++ msg
  xchachaDecrypt key _ ct _ := if key.toList <+: ct then some (ct.drop 32) else none
  aesGcmEncrypt key _ msg _ := some (key.toList ++ msg)
  aesGcmDecrypt key _ ct _ := if key.toList <+: ct then some (ct.drop 32) else none
  argon2id _ _ _ password salt :=
    if salt.length < 8 then .error "salt is too short" else .ok (fit 32 (password ++ salt))
  hkdfSha256 ikm _ info := fit 32 (ikm ++ info)
  pbkdf2 password _ _ := fit 32 password
  sha256 data := fit 32 data
  VerifyingKey := ByteArr 32
  verifyingKeyFromBytes := some
  ed25519Public seed := seed
  ed25519Sign seed msg := fit 64 (seed.toList ++ msg)
  ed25519Verify key msg sig := decide (sig = fit 64 (key.toList ++ msg))
  EncapsulationKey := ByteArr 32
  encapsulationKey seed := seed
  encapsulationKeyToBytes := ByteArr.toList
  encapsulationKeyFromBytes := Bytes.tryInto 32
  encapsulate pk _ := (fit 1120 pk.toList, pk)
  decapsulate seed _ := seed
  urlSafeNoPad := Base64.noPadEngine Base64.urlSafe
  standard := Base64.padEngine Base64.standard
  standardNoPad := Base64.noPadEngine Base64.standard
  wrappedAukJson := codecOf writeWrappedAuk writeWrappedAuk_injective
  itemJson := codecOf writeItem writeItem_injective
  pubBlobsJson := codecOf writePubBlobs writePubBlobs_injective
  bundleJson := codecOf writeBundle writeBundle_injective
  bundleBytes := codecOf (Bytes.ofString ∘ writeBundle)
    (Bytes.ofString_injective.comp writeBundle_injective)
  certFromJson _ := .error "no certificate"
  stringsFromJson _ := .error "no list"
  fromUtf8Error _ := "invalid utf-8 sequence"
  debugFormat s := s

lemma xchachaCorrect : primitives.XchachaCorrect := by
  intro key nonce msg aad
  simp only [primitives, if_pos (List.prefix_append _ _), List.drop_left' key.length_toList]

/-- A ciphertext starts with one key. -/
lemma eq_of_prefix {key key' : ByteArr 32} {msg : Bytes} (h : key'.toList <+: key.toList ++ msg) :
    key' = key := by
  have := List.prefix_of_prefix_length_le h (List.prefix_append key.toList msg)
    (by simp [key.length_toList, key'.length_toList])
  exact ByteArr.ext (this.eq_of_length (by simp))

lemma xchachaCommits : primitives.XchachaCommits := by
  intro key key' nonce msg msg' aad h
  simp only [primitives] at h
  split_ifs at h with hp
  exact eq_of_prefix hp

lemma xchachaTagged : primitives.XchachaTagged := by
  intro key nonce ct aad msg h
  simp only [primitives] at h
  split_ifs at h with hp
  have := hp.length_le
  rw [key.length_toList] at this
  omega

lemma xchachaTidy : primitives.XchachaTidy := by
  intro key nonce ct aad msg h
  simp only [primitives] at h
  split_ifs at h with hp
  obtain ⟨rest, rfl⟩ := hp
  rw [List.drop_left' key.length_toList, Option.some.injEq] at h
  rw [← h]
  rfl

lemma aesGcmCorrect : primitives.AesGcmCorrect := by
  intro key iv msg aad ct h
  simp only [primitives, Option.some.injEq] at h
  subst h
  simp only [primitives, if_pos (List.prefix_append _ _), List.drop_left' key.length_toList]

lemma aesGcmCommits : primitives.AesGcmCommits := by
  intro key key' iv msg msg' aad ct hct h
  simp only [primitives, Option.some.injEq] at hct h
  subst hct
  split_ifs at h with hp
  exact eq_of_prefix hp

lemma aesGcmSeals : primitives.AesGcmSeals := fun _ _ _ _ _ _ => ⟨_, rfl⟩

lemma ed25519Correct : primitives.Ed25519Correct :=
  fun seed => ⟨seed, rfl, fun _ => decide_eq_true rfl⟩

/-- A signature consists of the seed and the start of the message. -/
lemma ed25519Binds {M : Set Bytes} (hM : ∀ m ∈ M, ∀ m' ∈ M, fit 32 m = fit 32 m' → m = m') :
    primitives.Ed25519Binds M := by
  intro seed seed' vk m hm m' hm' hvk hverify
  obtain rfl : seed' = vk := Option.some.inj hvk
  have hfit : fit 64 (seed.toList ++ m) = fit 64 (seed'.toList ++ m') :=
    of_decide_eq_true hverify
  have hsplit : ∀ (s : ByteArr 32) (b : Bytes),
      (fit 64 (s.toList ++ b)).toList = s.toList ++ (fit 32 b).toList := by
    intro s b
    change (s.toList ++ b ++ List.replicate 64 0).take 64 =
      s.toList ++ (b ++ List.replicate 32 0).take 32
    have hlen : 32 ≤ (b ++ List.replicate 32 0).length := by simp
    rw [List.append_assoc, List.take_append, s.length_toList, List.take_of_length_le (by simp),
      ← List.replicate_append_replicate (n := 32) (m := 32), ← List.append_assoc,
      List.take_append_of_le_length hlen]
  have hlist := congrArg ByteArr.toList hfit
  rw [hsplit, hsplit] at hlist
  obtain ⟨hseed, hmsg⟩ := List.append_inj hlist (by simp)
  exact ⟨(ByteArr.ext hseed).symm, (hM m hm m' hm' (ByteArr.ext hmsg)).symm⟩

lemma kemCorrect : primitives.KemCorrect := fun _ _ => rfl

lemma kemRejects : primitives.KemRejects := fun _ _ _ h => h

lemma kemKeyRoundTrip : primitives.KemKeyRoundTrip := fun pk => Bytes.tryInto_toList pk

lemma kemKeyCanonical : primitives.KemKeyCanonical :=
  fun _ _ h => (Bytes.tryInto_eq_some.mp h).symm

lemma wrappedAukDelimited : primitives.WrappedAukDelimited := by
  intro s w h
  have hs : s = writeWrappedAuk w := codecOf_read_eq_ok (h := writeWrappedAuk_injective) h
  rw [hs]
  exact .inl (by simp [writeWrappedAuk, writeRecord])

end Reference

end PockCore
