import PockCore.Crypto.Reference
import PockCore.Backup.Basic

/-!
# The backup format

A backup is restored from the files of the format and from no others, to what the sealed blob
opens to under the key that the header describes.
-/

namespace PockCore

/-- What a `.pockvault` file holds. -/
structure BackupFile where
  salt : ByteArr 16
  profile : KdfProfile
  blob : Bytes

namespace BackupFile

/-- The file, byte by byte: magic, salt, the three parameters of the profile, sealed blob. -/
def toBytes (f : BackupFile) : Bytes :=
  let (m, t, p) := f.profile.params
  Backup.magic ++ f.salt.toList ++ Bytes.toLeBytes m ++ Bytes.toLeBytes t ++ Bytes.toLeBytes p ++
    f.blob

/-- The key that belongs to the passphrase: HKDF, for backups, of what Argon2id makes of it with the
salt and the parameters of the profile. -/
def HasKey (P : Primitives) (f : BackupFile) (passphrase : Bytes) (kek : AeadKey) : Prop :=
  ∃ stretched, P.argon2id f.profile.params.1 f.profile.params.2.1 f.profile.params.2.2 passphrase
      f.salt.toList = .ok stretched ∧
    kek = P.hkdfSha256 stretched.toList [] (Bytes.ofString "pock/backup/v1")

/-- The sealed blob opens to `pt` under the key of the passphrase. -/
def OpensTo (P : Primitives) (f : BackupFile) (passphrase pt : Bytes) : Prop :=
  ∃ kek, f.HasKey P passphrase kek ∧ Aead.openBlob P kek f.blob = .ok pt

end BackupFile

namespace Backup

variable {P : Primitives}

lemma readProfile_eq_ok {params : UInt32 × UInt32 × UInt32} {profile : KdfProfile} :
    readProfile params = .ok profile ↔ params = profile.params := by
  unfold readProfile
  split_ifs with h₁ h₂
  · rw [h₁, KdfProfile.params_injective.eq_iff, Outcome.ok.injEq]
  · rw [h₂, KdfProfile.params_injective.eq_iff, Outcome.ok.injEq]
  · cases profile <;> simp [h₁, h₂]

lemma deriveKek_eq_ok {f : BackupFile} {passphrase : Bytes} {kek : AeadKey} :
    deriveKek P passphrase f.salt.toList f.profile = .ok kek ↔ f.HasKey P passphrase kek := by
  simp only [deriveKek, Kdf.argon2id, Kdf.hkdfSha256, Outcome.bind_eq_ok, Outcome.ofExcept_eq_ok,
    Outcome.ok.injEq, BackupFile.HasKey]
  constructor
  · rintro ⟨stretched, hs, rfl⟩
    exact ⟨stretched, hs, rfl⟩
  · rintro ⟨stretched, hs, rfl⟩
    exact ⟨stretched, hs, rfl⟩

/-! ### Reading a header -/

lemma readU32_append {a b : Bytes} {word : ByteArr 4} {i j : ℕ} (hi : a.length = i)
    (hj : i + 4 = j) : readU32 (a ++ (word.toList ++ b)) i j = .ok (Bytes.fromLeBytes word) := by
  rw [readU32, Bytes.slice_append hi (by rw [hi, word.length_toList, hj]), Outcome.ok_bind,
    Bytes.fromSlice_toList, Outcome.ok_bind]

/-- A file that is long enough has the fields of a header, and a nonce and a tag behind it. -/
lemma exists_header_fields {data : Bytes} (hlen : headerLen + 24 + 16 ≤ data.length) :
    ∃ (head : ByteArr 8) (salt : ByteArr 16) (m t p : ByteArr 4) (blob : Bytes),
      data = head.toList ++ (salt.toList ++ (m.toList ++ (t.toList ++ (p.toList ++ blob)))) ∧
        24 + 16 ≤ blob.length := by
  rw [headerLen] at hlen
  obtain ⟨head, data, rfl, hhead⟩ := Bytes.exists_eq_append (n := 8) (b := data) (by omega)
  obtain ⟨salt, data, rfl, hsalt⟩ := Bytes.exists_eq_append (n := 16) (b := data) (by omega)
  obtain ⟨m, data, rfl, hm⟩ := Bytes.exists_eq_append (n := 4) (b := data) (by omega)
  obtain ⟨t, data, rfl, ht⟩ := Bytes.exists_eq_append (n := 4) (b := data) (by omega)
  obtain ⟨p, blob, rfl, hp⟩ := Bytes.exists_eq_append (n := 4) (b := data) (by omega)
  exact ⟨head, salt, m, t, p, blob, rfl, by omega⟩

/-- A file that is long enough is read field by field. -/
lemma importBackup_append (head : ByteArr 8) (salt : ByteArr 16) {m t p : ByteArr 4}
    {data blob : Bytes} (hdata : data = head.toList ++ (salt.toList ++ (m.toList ++ (t.toList ++
      (p.toList ++ blob))))) (hblob : 24 + 16 ≤ blob.length) (passphrase : Bytes) :
    importBackup P data passphrase =
      if head.toList ≠ magic then .err (.decode "not a pock vault backup")
      else
        readProfile (Bytes.fromLeBytes m, Bytes.fromLeBytes t, Bytes.fromLeBytes p) >>=
          fun profile => deriveKek P passphrase salt.toList profile >>=
            fun kek => Outcome.mapErr (fun _ => .wrongKey) (Aead.openBlob P kek blob) := by
  have hlen : ¬data.length < headerLen + 24 + 16 := by
    simp only [hdata, List.length_append, ByteArr.length_toList, headerLen]
    omega
  have hhead : (Bytes.slice data 0 8 : Result Bytes) = .ok head.toList := by
    rw [hdata]
    exact Bytes.slice_append (a := []) rfl (by simp)
  have hsalt : (Bytes.slice data 8 24 : Result Bytes) = .ok salt.toList := by
    rw [hdata]
    exact Bytes.slice_append (by simp) (by simp)
  have hm : readU32 data 24 28 = .ok (Bytes.fromLeBytes m) := by
    rw [hdata, ← List.append_assoc]
    exact readU32_append (by simp) rfl
  have ht : readU32 data 28 32 = .ok (Bytes.fromLeBytes t) := by
    rw [hdata, ← List.append_assoc, ← List.append_assoc]
    exact readU32_append (by simp) rfl
  have hp : readU32 data 32 36 = .ok (Bytes.fromLeBytes p) := by
    rw [hdata, ← List.append_assoc, ← List.append_assoc, ← List.append_assoc]
    exact readU32_append (by simp) rfl
  have hb : (Bytes.sliceFrom data headerLen : Result Bytes) = .ok blob := by
    rw [hdata, ← List.append_assoc, ← List.append_assoc, ← List.append_assoc, ← List.append_assoc]
    exact Bytes.sliceFrom_append (by simp [headerLen])
  rw [importBackup, if_neg hlen]
  simp only [hhead, hsalt, hm, ht, hp, hb, Outcome.ok_bind]

/-! ### What is restored -/

/-- A file of the format has its fields at the offsets that the decoder reads. -/
lemma importBackup_toBytes (f : BackupFile) (hblob : 24 + 16 ≤ f.blob.length)
    (passphrase : Bytes) :
    importBackup P f.toBytes passphrase =
      deriveKek P passphrase f.salt.toList f.profile >>= fun kek =>
        Outcome.mapErr (fun _ => .wrongKey) (Aead.openBlob P kek f.blob) := by
  obtain ⟨salt, profile, blob⟩ := f
  have hread : ∀ n, Bytes.fromLeBytes ⟨Bytes.toLeBytes n, Bytes.toLeBytes_length n⟩ = n :=
    fun n => Bytes.fromLeBytes_eq_iff.mpr rfl
  have h := importBackup_append (P := P) ⟨magic, by decide⟩ salt
    (m := ⟨_, Bytes.toLeBytes_length profile.params.1⟩)
    (t := ⟨_, Bytes.toLeBytes_length profile.params.2.1⟩)
    (p := ⟨_, Bytes.toLeBytes_length profile.params.2.2⟩) rfl hblob passphrase
  rw [if_neg (not_not.mpr rfl), hread, hread, hread, readProfile_eq_ok.mpr rfl,
    Outcome.ok_bind] at h
  simpa [BackupFile.toBytes] using h

/-- The decoder accepts the files of the format whose blob opens, and nothing else. -/
lemma importBackup_eq_ok (hT : P.XchachaTagged) {data passphrase pt : Bytes} :
    importBackup P data passphrase = .ok pt ↔
      ∃ f : BackupFile, data = f.toBytes ∧ f.OpensTo P passphrase pt := by
  constructor
  · intro h
    have hlen : headerLen + 24 + 16 ≤ data.length := by
      by_contra hlt
      rw [importBackup, if_pos (not_le.mp hlt)] at h
      cases h
    obtain ⟨head, salt, m, t, p, blob, rfl, hblob⟩ := exists_header_fields hlen
    rw [importBackup_append head salt rfl hblob] at h
    split_ifs at h with hmagic
    simp only [Outcome.bind_eq_ok, readProfile_eq_ok, Outcome.mapErr_eq_ok] at h
    obtain ⟨profile, hparams, kek, hkek, hopen⟩ := h
    have hm' := Bytes.fromLeBytes_eq_iff.mp (congrArg Prod.fst hparams)
    have ht' := Bytes.fromLeBytes_eq_iff.mp (congrArg (fun x => x.2.1) hparams)
    have hp' := Bytes.fromLeBytes_eq_iff.mp (congrArg (fun x => x.2.2) hparams)
    refine ⟨⟨salt, profile, blob⟩, ?_, kek, deriveKek_eq_ok.mp hkek, hopen⟩
    rw [not_not] at hmagic
    simp [BackupFile.toBytes, hmagic, hm', ht', hp']
  · rintro ⟨f, rfl, kek, hkek, hopen⟩
    rw [importBackup_toBytes f (Aead.length_le_of_openBlob hT hopen), deriveKek_eq_ok.mpr hkek,
      Outcome.ok_bind, hopen, Outcome.mapErr_ok]

/-- What is exported is a file of the constrained profile. -/
lemma exportBackup_eq_ok {pt passphrase data : Bytes} {salt : ByteArr 16} {nonce : Nonce} :
    exportBackup P pt passphrase salt nonce = .ok data ↔ ∃ kek,
      BackupFile.HasKey P ⟨salt, .constrained, Aead.sealBlob P kek pt nonce⟩ passphrase kek ∧
        data = BackupFile.toBytes ⟨salt, .constrained, Aead.sealBlob P kek pt nonce⟩ := by
  simp only [exportBackup, KdfProfile.params, Outcome.bind_eq_ok, Outcome.ok.injEq]
  constructor
  · rintro ⟨kek, hkek, rfl⟩
    exact ⟨kek, deriveKek_eq_ok.mp hkek, rfl⟩
  · rintro ⟨kek, hkek, rfl⟩
    exact ⟨kek, deriveKek_eq_ok.mpr hkek, rfl⟩

lemma exists_of_exportBackup (hC : P.XchachaCorrect) {pt passphrase data : Bytes}
    {salt : ByteArr 16} {nonce : Nonce} (h : exportBackup P pt passphrase salt nonce = .ok data) :
    ∃ f : BackupFile, data = f.toBytes ∧ f.OpensTo P passphrase pt := by
  obtain ⟨kek, hkek, rfl⟩ := exportBackup_eq_ok.mp h
  exact ⟨_, rfl, kek, hkek, Aead.openBlob_sealBlob hC kek pt nonce⟩

/-- Argon2 accepts the passphrase, with every salt that a backup can have. -/
def Derives (P : Primitives) (passphrase : Bytes) : Prop :=
  ∀ salt : ByteArr 16, ∃ d, Kdf.argon2id P passphrase salt.toList .constrained = .ok d

/-- What a backup promises to the holder of its passphrase. -/
structure Exact (P : Primitives) (passphrase : Bytes) : Prop where
  /-- What is restored, from which files. -/
  accepts : ∀ data pt, importBackup P data passphrase = .ok pt ↔
    ∃ f : BackupFile, data = f.toBytes ∧ f.OpensTo P passphrase pt
  /-- Every export is such a file. -/
  exports : ∀ pt salt nonce data, exportBackup P pt passphrase salt nonce = .ok data →
    ∃ f : BackupFile, data = f.toBytes ∧ f.OpensTo P passphrase pt
  /-- Everything can be exported and is restored. -/
  restores : ∀ pt salt nonce, ∃ data, exportBackup P pt passphrase salt nonce = .ok data ∧
    importBackup P data passphrase = .ok pt
  /-- So can every text with the flows. -/
  flow : ∀ json text salt nonce, Bytes.ofString text = passphrase → ∃ data,
    Flows.exportBackup P json text salt nonce = .ok data ∧
      Flows.importBackup P data text = .ok json

theorem exact_of_derives (hC : P.XchachaCorrect) (hT : P.XchachaTagged) {passphrase : Bytes}
    (hA : Derives P passphrase) : Exact P passphrase := by
  have hrestores : ∀ pt salt nonce, ∃ data, exportBackup P pt passphrase salt nonce = .ok data ∧
      importBackup P data passphrase = .ok pt := by
    intro pt salt nonce
    obtain ⟨d, hd⟩ := hA salt
    have hexport : ∃ data, exportBackup P pt passphrase salt nonce = .ok data := by
      simp only [exportBackup, deriveKek, hd, Outcome.ok_bind]
      exact ⟨_, rfl⟩
    obtain ⟨data, hdata⟩ := hexport
    exact ⟨data, hdata, (importBackup_eq_ok hT).mpr (exists_of_exportBackup hC hdata)⟩
  refine ⟨fun _ _ => importBackup_eq_ok hT, fun _ _ _ _ => exists_of_exportBackup hC, hrestores, ?_⟩
  rintro json text salt nonce rfl
  obtain ⟨data, hdata, hpt⟩ := hrestores (Bytes.ofString json) salt nonce
  refine ⟨data, hdata, ?_⟩
  rw [Flows.importBackup, hpt, Outcome.mapErr_ok, Outcome.ok_bind, Bytes.toString?_ofString,
    Outcome.okOr_some]

end Backup

namespace Reference

lemma derives (passphrase : Bytes) : Backup.Derives primitives passphrase := by
  intro salt
  refine ⟨fit 32 (passphrase ++ salt.toList), ?_⟩
  simp [Kdf.argon2id, primitives]

/-- The empty text, backed up under a passphrase and restored. -/
theorem importBackup_empty : ∃ data,
    Flows.exportBackup primitives "" "hunter2" (fit 16 []) (fit 24 []) = .ok data ∧
      Flows.importBackup primitives data "hunter2" = .ok "" :=
  (Backup.exact_of_derives xchachaCorrect xchachaTagged (derives _)).flow "" "hunter2" _ _ rfl

end Reference

end PockCore
