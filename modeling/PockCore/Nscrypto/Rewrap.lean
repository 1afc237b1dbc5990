import PockCore.Lib.Machine
import PockCore.Nscrypto.Exact

/-!
# A namespace key over its re-wraps

A namespace key is held as a text, and a re-wrap replaces that text by what its wrap opens to. The
text may change its spelling; the bytes that it spells, which protect the values, do not.
-/

namespace PockCore

variable {P : Primitives}

/-! ### Wraps -/

namespace Nscrypto

lemma aesDecrypt_aesEncrypt (hA : P.AesGcmCorrect) {key : ByteArr 32} {data : Bytes}
    {iv : ByteArr 12} {s : String} (h : aesEncrypt P key data iv = .ok s) :
    aesDecrypt P key s = .ok data := by
  simp only [aesEncrypt, Outcome.bind_eq_ok, Outcome.okOr_eq_ok, Outcome.ok.injEq] at h
  obtain ⟨ct, hct, rfl⟩ := h
  exact aesDecrypt_eq_ok.mpr ⟨iv, ct, _, List.mem_cons_self, rfl, hA _ _ _ _ _ hct⟩

/-- A wrap opens under the credential and the salt that it was made with. -/
lemma unwrapNk_wrapNk (hA : P.AesGcmCorrect) {nk : Bytes} {passphrase saltB64 wrapped : String}
    {iv : ByteArr 12} (h : wrapNk P nk passphrase saltB64 iv = .ok wrapped) :
    unwrapNk P wrapped passphrase saltB64 = .ok nk := by
  obtain ⟨key, hkey, henc⟩ := Outcome.bind_eq_ok.mp h
  rw [unwrapNk, hkey, Outcome.ok_bind, aesDecrypt_aesEncrypt hA henc]

/-- With a salt that can be decoded, a key can be wrapped. -/
lemma exists_wrapNk (hS : P.AesGcmSeals) {nk salt : Bytes} (hnk : nk.length ≤ 2 ^ 36)
    {saltB64 : String} (hsalt : unb64std P saltB64 = .ok salt) (passphrase : String)
    (iv : ByteArr 12) : ∃ wrapped, wrapNk P nk passphrase saltB64 iv = .ok wrapped := by
  obtain ⟨ct, hct⟩ := hS (P.pbkdf2 (Bytes.ofString passphrase) salt pbkdf2Iters) iv nk [] hnk
    (Nat.zero_le _)
  simp [wrapNk, deriveKey, hsalt, aesEncrypt, hct]

lemma unprotectValue_protectValue (hA : P.AesGcmCorrect) {nk : ByteArr 32} {v s : String}
    {iv : ByteArr 12} (h : protectValue P nk.toList v iv = .ok s) :
    unprotectValue P nk.toList s = .ok v := by
  obtain ⟨ct, hct, rfl⟩ := protectValue_eq_ok.mp h
  refine unprotectValue_eq_ok.mpr ⟨iv, ct, mem_spellings.mpr ?_, hA _ _ _ _ _ hct⟩
  exact ⟨_, List.mem_cons_self, .inl rfl⟩

end Nscrypto

/-! ### Flows -/

namespace Flows

/-- The two decoders are one. -/
lemma nsUnb64_eq (s : String) : nsUnb64 P s = Nscrypto.unb64std P s := rfl

lemma nsUnb64_eq_ok {s : String} {b : Bytes} :
    nsUnb64 P s = .ok b ↔ s ∈ Nscrypto.b64Spellings b := by
  rw [nsUnb64_eq, Nscrypto.unb64std_eq_ok]

/-- Every spelling of a namespace key is unwrapped as the padded one. -/
lemma nsUnwrapNk_of_nsWrapNk (hA : P.AesGcmCorrect) {nk : Bytes} {nkB64 : String}
    (hnk : nkB64 ∈ Nscrypto.b64Spellings nk) {passphrase saltB64 wrapped : String}
    {iv : ByteArr 12} (h : nsWrapNk P nkB64 passphrase saltB64 iv = .ok wrapped) :
    nsUnwrapNk P wrapped passphrase saltB64 = .ok (Nscrypto.b64std nk) := by
  rw [nsWrapNk, nsUnb64_eq_ok.mpr hnk, Outcome.ok_bind] at h
  rw [nsUnwrapNk, Nscrypto.unwrapNk_wrapNk hA h, Outcome.ok_bind]
  rfl

end Flows

/-! ### Histories -/

/-- A namespace key as its holder has it, with the values that were sealed, each beside the blob
that it was sealed to, and the number of times the key was unwrapped. -/
structure Namespace where
  nkB64 : String
  sealedValues : List (String × String)
  unwraps : ℕ

namespace Namespace

/-- A re-wrap, with any credential and salt, or a new protected value. -/
inductive Op where
  | rewrap (passphrase saltB64 : String) (iv : ByteArr 12)
  | protect (value : String) (iv : ByteArr 12)

/-- A call that fails changes nothing. -/
def step (P : Primitives) (s : Namespace) : Op → Namespace
  | .rewrap passphrase saltB64 iv =>
    match Flows.nsWrapNk P s.nkB64 passphrase saltB64 iv with
    | .ok wrapped =>
      match Flows.nsUnwrapNk P wrapped passphrase saltB64 with
      | .ok nkB64 => { s with nkB64 := nkB64, unwraps := s.unwraps + 1 }
      | _ => s
    | _ => s
  | .protect value iv =>
    match Flows.nsProtectValue P s.nkB64 value iv with
    | .ok blob => { s with sealedValues := s.sealedValues ++ [(value, blob)] }
    | _ => s

/-- The histories of a namespace key that is first held in either of its spellings. -/
def machine (P : Primitives) (nk : ByteArr 32) : Machine Namespace Op where
  init s := s.nkB64 ∈ Nscrypto.b64Spellings nk.toList ∧ s.sealedValues = [] ∧ s.unwraps = 0
  step s op s' := s' = s.step P op

/-- The text spells the key, every sealed value is sealed under the key, and the text is the
padded one if it comes from a wrap. -/
structure Inv (P : Primitives) (nk : ByteArr 32) (s : Namespace) : Prop where
  spelling : s.nkB64 ∈ Nscrypto.b64Spellings nk.toList
  sealedValues : ∀ v ∈ s.sealedValues, Nscrypto.unprotectValue P nk.toList v.2 = .ok v.1
  canonical : 0 < s.unwraps → s.nkB64 = Nscrypto.b64std nk.toList

namespace Inv

variable {nk : ByteArr 32} {s : Namespace}

lemma nsUnb64 (h : s.Inv P nk) : Flows.nsUnb64 P s.nkB64 = .ok nk.toList :=
  Flows.nsUnb64_eq_ok.mpr h.spelling

/-- The state after a re-wrap. -/
lemma step_rewrap_eq (hA : P.AesGcmCorrect) (h : s.Inv P nk)
    {passphrase saltB64 wrapped : String} {iv : ByteArr 12}
    (hwrap : Flows.nsWrapNk P s.nkB64 passphrase saltB64 iv = .ok wrapped) :
    s.step P (.rewrap passphrase saltB64 iv) =
      { s with nkB64 := Nscrypto.b64std nk.toList, unwraps := s.unwraps + 1 } := by
  simp only [Namespace.step, hwrap, Flows.nsUnwrapNk_of_nsWrapNk hA h.spelling hwrap]

lemma step_rewrap (hA : P.AesGcmCorrect) (h : s.Inv P nk) (passphrase saltB64 : String)
    (iv : ByteArr 12) : (s.step P (.rewrap passphrase saltB64 iv)).Inv P nk := by
  cases hwrap : Flows.nsWrapNk P s.nkB64 passphrase saltB64 iv with
  | ok wrapped =>
    rw [h.step_rewrap_eq hA hwrap]
    exact ⟨List.mem_cons_self, h.sealedValues, fun _ => rfl⟩
  | err e =>
    rw [Namespace.step, hwrap]
    exact h
  | panic =>
    rw [Namespace.step, hwrap]
    exact h

lemma step_protect (hA : P.AesGcmCorrect) (h : s.Inv P nk) (value : String) (iv : ByteArr 12) :
    (s.step P (.protect value iv)).Inv P nk := by
  rw [Namespace.step, Flows.nsProtectValue, h.nsUnb64, Outcome.ok_bind]
  cases hblob : Nscrypto.protectValue P nk.toList value iv with
  | ok blob =>
    refine ⟨h.spelling, fun v hv => ?_, h.canonical⟩
    rcases List.mem_append.mp hv with hv | hv
    · exact h.sealedValues v hv
    · rw [List.mem_singleton.mp hv]
      exact Nscrypto.unprotectValue_protectValue hA hblob
  | err e => exact h
  | panic => exact h

lemma of_reachable (hA : P.AesGcmCorrect) (h : (machine P nk).Reachable s) : s.Inv P nk := by
  refine Machine.Reachable.of_step ?_ ?_ h
  · rintro s ⟨hspelling, hsealed, hunwraps⟩
    exact ⟨hspelling, by simp [hsealed], by simp [hunwraps]⟩
  · rintro s op s' hinv rfl
    cases op with
    | rewrap passphrase saltB64 iv => exact hinv.step_rewrap hA passphrase saltB64 iv
    | protect value iv => exact hinv.step_protect hA value iv

end Inv

/-- What the holder of a namespace key can rely on. -/
structure Kept (P : Primitives) (nk : ByteArr 32) (s : Namespace) : Prop where
  /-- The key can be wrapped with every salt that can be decoded. -/
  wraps : P.AesGcmSeals → ∀ passphrase saltB64 salt iv,
    Nscrypto.unb64std P saltB64 = .ok salt →
    ∃ wrapped, Flows.nsWrapNk P s.nkB64 passphrase saltB64 iv = .ok wrapped
  /-- Every wrap is opened, to the padded text of the key. -/
  unwraps : ∀ passphrase saltB64 iv wrapped,
    Flows.nsWrapNk P s.nkB64 passphrase saltB64 iv = .ok wrapped →
    Flows.nsUnwrapNk P wrapped passphrase saltB64 = .ok (Nscrypto.b64std nk.toList)
  /-- Every value sealed so far is read. -/
  opens : ∀ v ∈ s.sealedValues, Flows.nsUnprotectValue P s.nkB64 v.2 = .ok v.1
  /-- The audit log shows one and the same text. -/
  hash : Flows.nsNkHash P s.nkB64 = .ok (Nscrypto.nkHash P nk.toList)
  /-- From the first unwrap on the text of the key is the padded one. -/
  canonical : 0 < s.unwraps → s.nkB64 = Nscrypto.b64std nk.toList

/-- Re-wrapping loses nothing: at every point of every history of a namespace key, its wraps
open, all values sealed so far are read, and the key is known by the same hash. -/
theorem kept_of_reachable (hA : P.AesGcmCorrect) {nk : ByteArr 32} {s : Namespace}
    (h : (machine P nk).Reachable s) : s.Kept P nk := by
  have hinv := Inv.of_reachable hA h
  refine ⟨?_, ?_, fun v hv => ?_, ?_, hinv.canonical⟩
  · intro hS passphrase saltB64 salt iv hsalt
    rw [Flows.nsWrapNk, hinv.nsUnb64, Outcome.ok_bind]
    exact Nscrypto.exists_wrapNk hS (by simp) hsalt passphrase iv
  · intro passphrase saltB64 iv wrapped hwrap
    exact Flows.nsUnwrapNk_of_nsWrapNk hA hinv.spelling hwrap
  · rw [Flows.nsUnprotectValue, hinv.nsUnb64, Outcome.ok_bind, hinv.sealedValues v hv]
  · rw [Flows.nsNkHash, hinv.nsUnb64, Outcome.ok_bind]

end Namespace

/-- A value of the stand-in primitives, sealed under a key that is held without padding and read
after a re-wrap. -/
theorem Reference.nsUnprotectValue_rewrapped : ∃ blob,
    Flows.nsProtectValue primitives (Nscrypto.b64stdNoPad (fit 32 []).toList) "s3cret"
        (fit 12 []) = .ok blob ∧
      Flows.nsUnprotectValue primitives (Nscrypto.b64std (fit 32 []).toList) blob =
        .ok "s3cret" := by
  generalize fit 32 [] = nk
  have hheld : (Namespace.machine primitives nk).Reachable
      ⟨Nscrypto.b64stdNoPad nk.toList, [], 0⟩ :=
    .init ⟨List.mem_cons_of_mem _ (List.mem_singleton_self _), rfl, rfl⟩
  have hprotect : ∃ blob, Flows.nsProtectValue primitives (Nscrypto.b64stdNoPad nk.toList)
      "s3cret" (fit 12 []) = .ok blob := by
    have hnk := (Namespace.Inv.of_reachable aesGcmCorrect hheld).nsUnb64
    rw [Flows.nsProtectValue, hnk, Outcome.ok_bind]
    exact ⟨_, Nscrypto.protectValue_eq_ok.mpr ⟨_, rfl, rfl⟩⟩
  obtain ⟨blob, hblob⟩ := hprotect
  have hsealed : (Namespace.machine primitives nk).Reachable
      ⟨Nscrypto.b64stdNoPad nk.toList, [("s3cret", blob)], 0⟩ := by
    refine hheld.step (a := .protect "s3cret" (fit 12 [])) ?_
    simp only [Namespace.machine, Namespace.step, hblob, List.nil_append]
  have hkept := Namespace.kept_of_reachable aesGcmCorrect hsealed
  obtain ⟨wrapped, hwrap⟩ := hkept.wraps aesGcmSeals "hunter2" (Nscrypto.b64std []) [] (fit 12 [])
    (Nscrypto.unb64std_eq_ok.mpr List.mem_cons_self)
  have hrewrapped : (Namespace.machine primitives nk).Reachable
      ⟨Nscrypto.b64std nk.toList, [("s3cret", blob)], 1⟩ := by
    refine hsealed.step (a := .rewrap "hunter2" (Nscrypto.b64std []) (fit 12 [])) ?_
    exact ((Namespace.Inv.of_reachable aesGcmCorrect hsealed).step_rewrap_eq aesGcmCorrect
      hwrap).symm
  have hopens := (Namespace.kept_of_reachable aesGcmCorrect hrewrapped).opens ("s3cret", blob)
    List.mem_cons_self
  exact ⟨blob, hblob, hopens⟩

end PockCore
