import PockCore.Vault.Clients

/-!
# The Account Master Key of clients that work at the same time

A call for the AMK mints one where the text that it is given is empty, and stores it over whatever
was stored since that text was read. So two clients of a new account can each mint one. As long as
nobody mints once an AMK was stored, all versions have the same one.
-/

namespace PockCore

variable {P : Primitives} {I : Set KekInput}

namespace Account

variable {s a : Account} {auk : Auk} {amk amk' : Flows.EnsuredAmk} {op : Op} {existing : String}

/-! ### Calls for the AMK -/

/-- A call for the AMK stores what it returns. -/
lemma stepOn_of_ensuresAmk (h : s.EnsuresAmk P s.wrappedAmk amk op) :
    s.stepOn P a op = a.withAmk amk := by
  cases op with
  | amkEnsure p sk seed nonce =>
    have hok : Flows.amkEnsure P p sk s.wrappedAukPassphrase s.wrappedAmk seed nonce = .ok amk := h
    simp only [stepOn, hok]
  | amkEnsurePrf i secretB64 seed nonce =>
    obtain ⟨e, he, hok⟩ := h
    simp only [stepOn, he, hok]
  | _ => exact h.elim

lemma StoresAmk.eq (h : (a.withAmk amk').StoresAmk amk) : amk' = amk := by
  obtain ⟨pub, wrapped⟩ := amk'
  obtain ⟨hwrapped, hpub⟩ := h
  exact congrArg₂ Flows.EnsuredAmk.mk hpub hwrapped

/-- Only the calls for the AMK touch it. -/
lemma stepOn_amk (s a : Account) (op : Op) :
    ((s.stepOn P a op).wrappedAmk = a.wrappedAmk ∧ (s.stepOn P a op).amkPub = a.amkPub) ∨
      ∃ amk, s.EnsuresAmk P s.wrappedAmk amk op := by
  cases op with
  | amkEnsure p sk seed nonce =>
    simp only [stepOn, EnsuresAmk]
    split
    · exact .inr ⟨_, ‹_›⟩
    · exact .inl ⟨rfl, rfl⟩
  | amkEnsurePrf i secretB64 seed nonce =>
    simp only [stepOn, EnsuresAmk]
    split
    · exact .inl ⟨rfl, rfl⟩
    · split
      · exact .inr ⟨_, _, ‹_›, ‹_›⟩
      · exact .inl ⟨rfl, rfl⟩
  | _ =>
    simp only [stepOn]
    split <;> exact .inl ⟨rfl, rfl⟩

namespace TextsHold

/-- Whichever route a call takes and whenever its texts were stored, it works on the one AUK. -/
lemma exists_of_ensuresAmk (h : s.TextsHold P I auk) (hop : s.EnsuresAmk P existing amk op) :
    ∃ seed nonce out, Flows.amkEnsureFromAuk P auk existing seed nonce = .ok out ∧
      amk = ⟨b64 (SignSecret.public P out.1).toList, out.2⟩ := by
  cases op with
  | amkEnsure p sk seed nonce =>
    obtain ⟨auk', out, hauk, hout, rfl⟩ := Flows.amkEnsure_eq_ok.mp hop
    obtain rfl := h.eq_of_unlockAuk hauk
    exact ⟨seed, nonce, out, hout, rfl⟩
  | amkEnsurePrf i secretB64 seed nonce =>
    obtain ⟨e, he, hop⟩ := hop
    obtain ⟨auk', out, hauk, hout, rfl⟩ := Flows.amkEnsurePrf_eq_ok.mp hop
    obtain rfl := h.eq_of_aukFromPrf (List.mem_of_getElem? he) hauk
    exact ⟨seed, nonce, out, hout, rfl⟩
  | _ => exact hop.elim

lemma seals_of_mints (h : s.TextsHold P I auk) (hop : s.EnsuresAmk P "" amk op) :
    ∃ seed, amk.Seals P auk seed := by
  obtain ⟨seed, nonce, out, hout, rfl⟩ := h.exists_of_ensuresAmk hop
  rw [Flows.amkEnsureFromAuk_empty, Outcome.ok.injEq] at hout
  subst hout
  exact ⟨seed, rfl, nonce, rfl⟩

lemma eq_of_loads (hC : P.XchachaCorrect) (h : s.TextsHold P I auk) {seed : ByteArr 32}
    (hamk : amk.Seals P auk seed) (hop : s.EnsuresAmk P amk.wrappedAmk amk' op) : amk' = amk := by
  obtain ⟨seed', nonce', out, hout, rfl⟩ := h.exists_of_ensuresAmk hop
  rw [hamk.amkEnsureFromAuk hC, Outcome.ok.injEq] at hout
  subst hout
  rw [← hamk.amkPub]

end TextsHold

end Account

namespace Versions

variable {v v' : Versions} {auk : Auk} {amk : Flows.EnsuredAmk} {act : Account × Op}

/-- Runs in which nobody mints an AMK once one was stored. -/
def mintingOnce (P : Primitives) (I : Set KekInput) : Machine Versions (Account × Op) where
  init := (machine P I).init
  step v act v' := (machine P I).step v act v' ∧
    ((∃ b ∈ v.all, b.wrappedAmk ≠ "") → act.1.wrappedAmk = "" →
      ∀ amk, ¬act.1.EnsuresAmk P "" amk act.2)

/-- The AMK is the only one that was ever stored. -/
def Only (v : Versions) (amk : Flows.EnsuredAmk) : Prop :=
  ∀ b ∈ v.all, b.wrappedAmk = "" ∨ b.StoresAmk amk

/-- A step leaves the only AMK in place unless it mints another one. -/
lemma storesAmk_step_iff (hC : P.XchachaCorrect) (hall : ∀ b ∈ v.all, b.Sound P I auk)
    {seed : ByteArr 32} (hamk : amk.Seals P auk seed) (hcurrent : v.current.StoresAmk amk)
    (honly : v.Only amk) (h : (machine P I).step v act v') :
    v'.current.StoresAmk amk ↔
      ∀ amk', act.1.wrappedAmk = "" → act.1.EnsuresAmk P "" amk' act.2 → amk' = amk := by
  obtain ⟨hread, -, rfl⟩ := h
  constructor
  · intro hstored amk' hempty hop
    rw [Account.stepOn_of_ensuresAmk (a := v.current) (hempty.symm ▸ hop)] at hstored
    exact hstored.eq
  · intro hmints
    rcases Account.stepOn_amk (P := P) act.1 v.current act.2 with ⟨hwrapped, hpub⟩ | ⟨amk', hop⟩
    · exact ⟨hwrapped.trans hcurrent.wrappedAmk, hpub.trans hcurrent.amkPub⟩
    · have hsame : amk' = amk := by
        by_cases hempty : act.1.wrappedAmk = ""
        · exact hmints amk' hempty (hempty ▸ hop)
        · -- the text that was read is that of the only AMK
          obtain ⟨b, hb, heq⟩ := hread.wrappedAmk
          have hstored := (honly b hb).resolve_left (heq ▸ hempty)
          rw [heq, hstored.wrappedAmk] at hop
          exact (Account.TextsHold.of_readFrom hall hread).eq_of_loads hC hamk hop
      rw [Account.stepOn_of_ensuresAmk (a := v.current) hop, hsame]
      exact ⟨rfl, rfl⟩

/-- One AMK serves all versions. -/
structure OneAmk (P : Primitives) (amk : Flows.EnsuredAmk) (v : Versions) : Prop where
  stored : v.current.StoresAmk amk
  only : v.Only amk
  /-- The wraps of every version load it and sign for it, also those from before it was minted. -/
  amkStable : ∀ b ∈ v.all, (b.withAmk amk).AmkStable P amk

/-! ### Over a run -/

/-- What is kept as long as nobody mints a second AMK. -/
def MintedOnce (P : Primitives) (auk : Auk) (v : Versions) : Prop :=
  (∀ b ∈ v.all, b.wrappedAmk = "") ∨
    ∃ (amk : Flows.EnsuredAmk) (seed : ByteArr 32),
      amk.Seals P auk seed ∧ v.current.StoresAmk amk ∧ v.Only amk

lemma mintedOnce_step (hC : P.XchachaCorrect) (hall : ∀ b ∈ v.all, b.Sound P I auk)
    (h : v.MintedOnce P auk) (hstep : (mintingOnce P I).step v act v') :
    v'.MintedOnce P auk := by
  obtain ⟨hstep, honce⟩ := hstep
  rcases h with hnone | ⟨amk, seed, hamk, hcurrent, honly⟩
  · obtain ⟨hread, -, rfl⟩ := hstep
    obtain ⟨b, hb, hempty⟩ := hread.wrappedAmk
    rw [hnone b hb] at hempty
    rcases Account.stepOn_amk (P := P) act.1 v.current act.2 with ⟨hwrapped, -⟩ | ⟨amk, hop⟩
    · have hcurrent := hwrapped.trans (hnone _ List.mem_cons_self)
      exact .inl (List.forall_mem_cons.mpr ⟨hcurrent, hnone⟩)
    · -- the first AMK
      obtain ⟨seed, hamk⟩ :=
        (Account.TextsHold.of_readFrom hall hread).seals_of_mints (hempty ▸ hop)
      have hcurrent : (act.1.stepOn P v.current act.2).StoresAmk amk := by
        rw [Account.stepOn_of_ensuresAmk hop]
        exact ⟨rfl, rfl⟩
      exact .inr ⟨amk, seed, hamk, hcurrent,
        List.forall_mem_cons.mpr ⟨.inr hcurrent, fun b hb => .inl (hnone b hb)⟩⟩
  · have hstored : ∃ b ∈ v.all, b.wrappedAmk ≠ "" := by
      refine ⟨v.current, List.mem_cons_self, ?_⟩
      rw [hcurrent.wrappedAmk]
      exact hamk.wrappedAmk_ne_empty
    have hcurrent' := (storesAmk_step_iff hC hall hamk hcurrent honly hstep).mpr
      fun amk' hempty hop => absurd hop (honce hstored hempty amk')
    obtain ⟨-, -, rfl⟩ := hstep
    exact .inr ⟨amk, seed, hamk, hcurrent', List.forall_mem_cons.mpr ⟨.inr hcurrent', honly⟩⟩

/-- As long as no client mints an AMK once one was stored, all versions have the same AMK or none,
and the wraps of every version load it and sign for it. The first call that mints another one
replaces it. -/
theorem oneAmk_of_mintingOnce (hC : P.XchachaCorrect) (hK : P.XchachaCommits)
    (hE : P.Ed25519Correct) (h : (mintingOnce P I).Reachable v) :
    (∀ b ∈ v.all, b.wrappedAmk = "") ∨
      ∃ amk, v.OneAmk P amk ∧ ∀ act v', (machine P I).step v act v' →
        (v'.current.StoresAmk amk ↔
          ∀ amk', act.1.wrappedAmk = "" → act.1.EnsuresAmk P "" amk' act.2 → amk' = amk) := by
  have hrun : ∃ auk, (∀ b ∈ v.all, b.Sound P I auk) ∧ v.MintedOnce P auk := by
    refine h.of_step (p := fun v => ∃ auk, (∀ b ∈ v.all, b.Sound P I auk) ∧ v.MintedOnce P auk)
      ?_ ?_
    · rintro ⟨a, past⟩ ⟨⟨passphrase, profileId, draws, out, hout, hin, rfl⟩, rfl⟩
      exact ⟨draws.auk, List.forall_mem_singleton.mpr (Account.sound_created hC hK hout hin),
        .inl (List.forall_mem_singleton.mpr rfl)⟩
    · rintro v act v' ⟨auk, hall, hminted⟩ hstep
      exact ⟨auk, sound_step hC hK hall hstep.1, mintedOnce_step hC hall hminted hstep⟩
  obtain ⟨auk, hall, hnone | ⟨amk, seed, hamk, hcurrent, honly⟩⟩ := hrun
  · exact .inl hnone
  · refine .inr ⟨amk, ⟨hcurrent, honly, fun b hb => ?_⟩,
      fun act v' hstep => storesAmk_step_iff hC hall hamk hcurrent honly hstep⟩
    obtain ⟨c, hc⟩ := (hall b hb).inv
    exact (hc.withAmk hamk).amkStable hC hE hamk ⟨rfl, rfl⟩

end Versions

/-! ### A vault with an AMK -/

namespace Reference

/-- The wraps of a new vault, and those from before, load the AMK that was minted for it. -/
theorem oneAmk_minted : ∃ out amk,
    Flows.createVaultProfile primitives "pw" "constrained" draws = .ok out ∧
      Versions.OneAmk primitives amk ⟨(Account.created primitives "pw" out).withAmk amk,
        [Account.created primitives "pw" out]⟩ := by
  obtain ⟨out, hout, -, hcreated⟩ := exists_created
  obtain ⟨amk, hminted, hne, -⟩ := hcreated.amkEnsure rfl
  have hamk : (Account.created primitives "pw" out).EnsuresAmk primitives "" amk
      (.amkEnsure "pw" out.secretKey (zeros 32) (zeros 24)) := hminted
  have hnew : (Versions.mintingOnce primitives Set.univ).Reachable
      ⟨Account.created primitives "pw" out, []⟩ :=
    .init ⟨⟨"pw", "constrained", draws, out, hout, Set.subset_univ _, rfl⟩, rfl⟩
  have hread : (Account.created primitives "pw" out).ReadFrom
      (Versions.mk (Account.created primitives "pw" out) []).all := .of_mem List.mem_cons_self
  have hstep := hnew.step (a := (Account.created primitives "pw" out,
    .amkEnsure "pw" out.secretKey (zeros 32) (zeros 24)))
    ⟨⟨hread, Set.subset_univ _, rfl⟩, fun ⟨b, hb, hne⟩ =>
      absurd (List.mem_singleton.mp hb ▸ rfl) hne⟩
  rw [Account.stepOn_of_ensuresAmk hamk] at hstep
  obtain hnone | ⟨amk', hone, -⟩ := Versions.oneAmk_of_mintingOnce xchachaCorrect xchachaCommits
    ed25519Correct hstep
  · exact absurd (hnone _ List.mem_cons_self) hne
  · exact ⟨out, amk, hout, hone.stored.eq ▸ hone⟩

end Reference

end PockCore
