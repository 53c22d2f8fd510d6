import Lmkd.Commands
import Lmkd.Registry.View

/-!
# Removal, purge and release as edits of the map from pids to records

Through `Registry.view`, `cmd_procremove` deletes the entry of its pid when
the sender may claim that record (`procremoveEntries`), `cmd_procpurge`
deletes every entry the sender may claim, its own and the unclaimed ones
(`procpurgeEntries`), and `remove_claims` turns the sender's entries into
unclaimed ones (`releaseClaims`).  Every other entry stays as it was.

On a consistent registry the view is fixed by the records on the chains
(`WellFormed.view_eq_filter`, `WellFormed.view_eq_some_iff`), so each result
comes down to which records a loop leaves on the chains.  The purge walks
every chain while it unlinks records from it; `Purged` says which records a
part of that walk has examined, and the walk of the buckets examines every
record, since each lies in the chain of its own hash.
-/

namespace Lmkd

open Registry

/-! ## What the commands do to the map -/

/-- `claim_record(procp, credPid)` succeeds: the record is `credPid`'s or
unclaimed. -/
def claimable (credPid : Int32) (p : Proc) : Bool := p.regPid == credPid || p.regPid == 0

/-- `LMK_PROCREMOVE` of `pid` from `credPid`. -/
def procremoveEntries (credPid pid : Int32) (m : Int32 → Option Proc) : Int32 → Option Proc :=
  if (m pid).any (claimable credPid) then Function.update m pid none else m

/-- `LMK_PROCPURGE` from `credPid`. -/
def procpurgeEntries (credPid : Int32) (m : Int32 → Option Proc) : Int32 → Option Proc :=
  fun pid => (m pid).filter fun p => !claimable credPid p

def releaseClaim (credPid : Int32) (p : Proc) : Proc :=
  if p.regPid = credPid then { p with regPid := 0 } else p

/-- The close of a connection whose last sender was `credPid`. -/
def releaseClaims (credPid : Int32) (m : Int32 → Option Proc) : Int32 → Option Proc :=
  fun pid => (m pid).map (releaseClaim credPid)

theorem pidHashfn_lt (x : Int32) : pidHashfn x < pidhashSz := by
  unfold pidHashfn pidhashSz
  generalize (x >>> 8) ^^^ x = y
  have hle : (y.toBitVec &&& (1023 : Int32).toBitVec).toNat ≤ 1023 := by
    rw [BitVec.toNat_and]
    exact Nat.and_le_right
  have hint : (y &&& 1023).toInt = ((y.toBitVec &&& (1023 : Int32).toBitVec).toNat : Int) := by
    rw [Int32.toInt, Int32.toBitVec_and, BitVec.toInt_eq_toNat_of_lt (by omega)]
  rw [Int32.toNatClampNeg, hint]
  omega

namespace Registry

variable {r r' : Registry} {slots slots' : Nat → List Nat}

theorem claimRecord_snd_eq (r : Registry) (a : Nat) (pid : Int32) :
    (r.claimRecord a pid).2 = claimable pid (r.procs a) := by
  dsimp only [claimRecord]
  split_ifs with h₁ h₂
  · simp [claimable, h₁]
  · simp [claimable, h₂]
  · simp [claimable, h₁, h₂]

theorem claimRecord_fst_of_snd_eq_false {a : Nat} {pid : Int32}
    (h : (r.claimRecord a pid).2 = false) : (r.claimRecord a pid).1 = r := by
  revert h
  dsimp only [claimRecord]
  split_ifs <;> simp

theorem claimRecord_procs_of_ne {a c : Nat} (hc : c ≠ a) (pid : Int32) :
    (r.claimRecord a pid).1.procs c = r.procs c := by
  dsimp only [claimRecord]
  split_ifs <;> simp [setProc_procs, hc]

theorem view_pid {pid : Int32} {p : Proc} (h : r.view pid = some p) : p.pid = pid := by
  obtain ⟨a, hl, rfl⟩ := Option.map_eq_some_iff.mp h
  exact (pidLookup_eq_some hl).2

/-! ## The view of a consistent registry -/

theorem WellFormed.view_eq_some_iff (hw : r.WellFormed slots) {pid : Int32} {p : Proc} :
    r.view pid = some p ↔ ∃ a, r.Mem a ∧ (r.procs a).pid = pid ∧ r.procs a = p := by
  constructor
  · intro h
    obtain ⟨a, hl, rfl⟩ := Option.map_eq_some_iff.mp h
    exact ⟨a, mem_of_pidLookup hl, (pidLookup_eq_some hl).2, rfl⟩
  · rintro ⟨a, ha, rfl, rfl⟩
    simp [view, hw.pidLookup_of_mem ha]

theorem WellFormed.view_eq_none_iff (hw : r.WellFormed slots) {pid : Int32} :
    r.view pid = none ↔ ∀ a, r.Mem a → (r.procs a).pid ≠ pid := by
  constructor
  · intro h a ha hpid
    have hsome := hw.view_eq_some_iff.mpr ⟨a, ha, hpid, rfl⟩
    rw [h] at hsome
    cases hsome
  · intro h
    cases hl : r.pidLookup pid with
    | none => simp [view, hl]
    | some a => exact absurd (pidLookup_eq_some hl).2 (h a (mem_of_pidLookup hl))

theorem WellFormed.view_eq_filter (hw : r.WellFormed slots) (hw' : r'.WellFormed slots')
    (keep : Proc → Bool) (hmem : ∀ a, r'.Mem a ↔ r.Mem a ∧ keep (r.procs a) = true)
    (hprocs : ∀ a, r'.Mem a → r'.procs a = r.procs a) (pid : Int32) :
    r'.view pid = (r.view pid).filter keep := by
  cases h : r.view pid with
  | none =>
    rw [Option.filter_none, hw'.view_eq_none_iff]
    intro a ha
    rw [hprocs a ha]
    exact hw.view_eq_none_iff.mp h a ((hmem a).mp ha).1
  | some p =>
    obtain ⟨a, ha, hpid, rfl⟩ := hw.view_eq_some_iff.mp h
    rw [Option.filter_some]
    split
    · rename_i hk
      have ha' : r'.Mem a := (hmem a).mpr ⟨ha, hk⟩
      exact hw'.view_eq_some_iff.mpr ⟨a, ha', by rw [hprocs a ha', hpid], hprocs a ha'⟩
    · rename_i hk
      rw [hw'.view_eq_none_iff]
      intro c hc hcpid
      obtain ⟨hc₁, hkc⟩ := (hmem c).mp hc
      have hca : c = a := hw.pid_unique c a hc₁ ha (by rw [← hprocs c hc, hcpid, hpid])
      subst hca
      exact hk hkc

theorem WellFormed.view_removeAt (hw : r.WellFormed slots) {pid : Int32} {a : Nat}
    (h : r.pidLookup pid = some a) : (r.removeAt pid a).view = Function.update r.view pid none := by
  have ha := mem_of_pidLookup h
  have hpa := (pidLookup_eq_some h).2
  have hmem : ∀ c, (r.removeAt pid a).Mem c ↔ r.Mem c ∧ ((r.procs c).pid != pid) = true := by
    intro c
    rw [hw.mem_removeAt h]
    constructor
    · rintro ⟨hc, hca⟩
      refine ⟨hc, bne_iff_ne.mpr fun hcpid => hca (hw.pid_unique c a hc ha (hcpid.trans hpa.symm))⟩
    · rintro ⟨hc, hcpid⟩
      exact ⟨hc, fun hca => bne_iff_ne.mp hcpid (hca ▸ hpa)⟩
  funext q
  rw [hw.view_eq_filter (hw.removeAt h) (fun p => p.pid != pid) hmem
    (fun c hc => removeAt_procs_of_ne r pid ((hw.mem_removeAt h).mp hc).2) q, Function.update_apply]
  cases hq : r.view q with
  | none => split <;> rfl
  | some p =>
    rw [Option.filter_some, view_pid hq]
    by_cases hqp : q = pid <;> simp [hqp]

theorem view_removeClaims (r : Registry) (pid : Int32) :
    (r.removeClaims pid).view = releaseClaims pid r.view := by
  funext q
  simp only [view, (sameShape_removeClaims r pid).pidLookup q, releaseClaims]
  cases hl : r.pidLookup q with
  | none => rfl
  | some a =>
    obtain ⟨hmem, -⟩ := pidLookup_eq_some hl
    by_cases hq : (r.procs a).regPid = pid
    · simp [removeClaims_procs_of_mem (pidHashfn_lt q) hmem hq, releaseClaim, hq]
    · simp [removeClaims_procs_of_ne hq, releaseClaim, hq]

end Registry

/-! ## `pid_remove` and `cmd_procremove` -/

theorem view_pidRemove {g : Globals} (hi : g.reg.Inv) (pid : Int32) :
    (pidRemove g pid).1.reg.view = Function.update g.reg.view pid none := by
  rw [pidRemove_reg]
  split
  · rename_i hl
    have hnone : g.reg.view pid = none := by simp [view, hl]
    exact (Function.update_eq_self_iff.mpr hnone.symm).symm
  · rename_i a hl
    obtain ⟨slots, hw⟩ := hi
    exact hw.view_removeAt hl

theorem view_cmdProcremove {g : Globals} (hi : g.reg.Inv) (cfg : Config) (params : LmkProcremove)
    (credPid : Int32) :
    (cmdProcremove cfg g params credPid).reg.view =
      if cfg.useInkernelInterface then g.reg.view else procremoveEntries credPid params.pid g.reg.view := by
  unfold cmdProcremove
  by_cases hk : cfg.useInkernelInterface
  · simp only [hk, if_true]
  · simp only [hk, Bool.false_eq_true, if_false]
    split
    · rename_i hl
      have hnone : g.reg.view params.pid = none := by simp [view, hl]
      simp [procremoveEntries, hnone]
    · rename_i a hl
      have hv : g.reg.view params.pid = some (g.reg.procs a) := by simp [view, hl]
      have hsnd := claimRecord_snd_eq g.reg a credPid
      split
      · -- the claim succeeds and the record goes
        rename_i hsucc
        have hi₁ : (g.reg.claimRecord a credPid).1.Inv := hi.of_sameShape (sameShape_claimRecord _ _ _)
        rw [view_pidRemove (g := { g with reg := (g.reg.claimRecord a credPid).1 }) hi₁,
          view_claimRecord hl, Function.update_idem, procremoveEntries, hv]
        rw [hsnd] at hsucc
        simp [hsucc]
      · -- the claim fails and nothing changes
        rename_i hfail
        have hfail' : (g.reg.claimRecord a credPid).2 = false := by simpa using hfail
        rw [claimRecord_fst_of_snd_eq_false hfail', procremoveEntries, hv]
        rw [hsnd] at hfail'
        simp [hfail']

/-! ## `cmd_procpurge` -/

/-- `r'` is `r` without the records that `credPid` may claim among those
that `s` selects; every record left is as it was. -/
structure Purged (credPid : Int32) (s : Nat → Prop) (r r' : Registry) : Prop where
  mem : ∀ x, r'.Mem x ↔ r.Mem x ∧ (s x → claimable credPid (r.procs x) = false)
  procs : ∀ x, r'.Mem x → r'.procs x = r.procs x

section Purge

variable {credPid : Int32} {s t : Nat → Prop} {r₁ r₂ r₃ : Registry}

theorem Purged.refl (r : Registry) : Purged credPid (fun _ => False) r r :=
  ⟨fun _ => by simp, fun _ _ => rfl⟩

theorem Purged.trans (h₁₂ : Purged credPid s r₁ r₂) (h₂₃ : Purged credPid t r₂ r₃) :
    Purged credPid (fun x => s x ∨ t x) r₁ r₃ := by
  refine ⟨fun x => ?_, fun x hx => ?_⟩
  · rw [h₂₃.mem, h₁₂.mem]
    constructor
    · rintro ⟨⟨hx, hs⟩, hs'⟩
      refine ⟨hx, fun h => h.elim hs fun h' => ?_⟩
      rw [← h₁₂.procs x ((h₁₂.mem x).mpr ⟨hx, hs⟩)]
      exact hs' h'
    · rintro ⟨hx, hs⟩
      have hx₂ : r₂.Mem x := (h₁₂.mem x).mpr ⟨hx, fun h => hs (.inl h)⟩
      refine ⟨⟨hx, fun h => hs (.inl h)⟩, fun h' => ?_⟩
      rw [h₁₂.procs x hx₂]
      exact hs (.inr h')
  · have hx₂ := ((h₂₃.mem x).mp hx).1
    rw [h₂₃.procs x hx, h₁₂.procs x hx₂]

theorem Purged.congr (h : Purged credPid s r₁ r₂) (hs : ∀ x, r₁.Mem x → (s x ↔ t x)) :
    Purged credPid t r₁ r₂ := by
  refine ⟨fun x => ?_, h.procs⟩
  rw [h.mem]
  constructor
  · rintro ⟨hx, h'⟩
    exact ⟨hx, fun hs' => h' ((hs x hx).mpr hs')⟩
  · rintro ⟨hx, h'⟩
    exact ⟨hx, fun hs'' => h' ((hs x hx).mp hs'')⟩

end Purge

/-- The body of the inner loop of `cmd_procpurge` at record `a`. -/
def procpurgeRound (credPid : Int32) (g : Globals) (a : Nat) : Globals :=
  let claim := g.reg.claimRecord a credPid
  let g := { g with reg := claim.1 }
  if claim.2 then (pidRemove g (claim.1.procs a).pid).1 else g

theorem procpurgeChain_cons (credPid : Int32) (g : Globals) (a : Nat) (chain : List Nat) :
    procpurgeChain credPid g (a :: chain) = procpurgeChain credPid (procpurgeRound credPid g a) chain :=
  rfl

theorem procpurgeRound_inv {g : Globals} (hi : g.reg.Inv) (credPid : Int32) (a : Nat) :
    (procpurgeRound credPid g a).reg.Inv := by
  have hclaim : (g.reg.claimRecord a credPid).1.Inv := hi.of_sameShape (sameShape_claimRecord _ _ _)
  unfold procpurgeRound
  dsimp only
  split
  · exact pidRemove_inv (g := { g with reg := _ }) hclaim _
  · exact hclaim

theorem procpurgeRound_purged {g : Globals} (hi : g.reg.Inv) {a : Nat} (ha : g.reg.Mem a)
    (credPid : Int32) : Purged credPid (· = a) g.reg (procpurgeRound credPid g a).reg := by
  have hshape := sameShape_claimRecord g.reg a credPid
  have hsnd := claimRecord_snd_eq g.reg a credPid
  unfold procpurgeRound
  dsimp only
  split
  · rename_i hsucc
    obtain ⟨slots, hw⟩ := hi.of_sameShape hshape
    have hfound : (g.reg.claimRecord a credPid).1.pidLookup
        ((g.reg.claimRecord a credPid).1.procs a).pid = some a :=
      hw.pidLookup_of_mem (hshape.mem_iff.mpr ha)
    have hreg : (pidRemove { g with reg := (g.reg.claimRecord a credPid).1 }
        ((g.reg.claimRecord a credPid).1.procs a).pid).1.reg =
          (g.reg.claimRecord a credPid).1.removeAt ((g.reg.claimRecord a credPid).1.procs a).pid a := by
      rw [pidRemove_reg]
      simp only [hfound]
    rw [hreg]
    rw [hsnd] at hsucc
    refine ⟨fun x => ?_, fun x hx => ?_⟩
    · rw [hw.mem_removeAt hfound, hshape.mem_iff]
      constructor
      · rintro ⟨hx, hxa⟩
        exact ⟨hx, fun h => absurd h hxa⟩
      · rintro ⟨hx, hxa⟩
        refine ⟨hx, fun h => ?_⟩
        subst h
        rw [hxa rfl] at hsucc
        cases hsucc
    · have hxa := ((hw.mem_removeAt hfound).mp hx).2
      rw [removeAt_procs_of_ne _ _ hxa, claimRecord_procs_of_ne hxa]
  · rename_i hfail
    have hfail' : (g.reg.claimRecord a credPid).2 = false := by simpa using hfail
    have hsame := claimRecord_fst_of_snd_eq_false hfail'
    rw [hsnd] at hfail'
    refine ⟨fun x => ?_, fun x _ => by simp only [hsame]⟩
    simp only [hsame]
    constructor
    · rintro hx
      exact ⟨hx, fun h => h ▸ hfail'⟩
    · exact fun h => h.1

theorem procpurgeChain_purged (credPid : Int32) :
    ∀ (g : Globals) (chain : List Nat), g.reg.Inv → chain.Nodup → (∀ c ∈ chain, g.reg.Mem c) →
      Purged credPid (· ∈ chain) g.reg (procpurgeChain credPid g chain).reg
  | g, [], _, _, _ => (Purged.refl g.reg).congr fun _ _ => by simp
  | g, a :: chain, hi, hnd, hmem => by
    rw [procpurgeChain_cons]
    have hround := procpurgeRound_purged hi (hmem a (List.mem_cons_self ..)) credPid
    have hrest : ∀ c ∈ chain, (procpurgeRound credPid g a).reg.Mem c := by
      intro c hc
      have hca : c ≠ a := fun h => (List.nodup_cons.mp hnd).1 (h ▸ hc)
      exact (hround.mem c).mpr ⟨hmem c (List.mem_cons_of_mem _ hc), fun h => absurd h hca⟩
    have hchain := procpurgeChain_purged credPid _ chain (procpurgeRound_inv hi credPid a)
      (List.nodup_cons.mp hnd).2 hrest
    exact (hround.trans hchain).congr fun x _ => by simp

theorem procpurgeBuckets_purged (credPid : Int32) :
    ∀ (g : Globals) (buckets : List Nat), g.reg.Inv →
      Purged credPid (fun x => pidHashfn (g.reg.procs x).pid ∈ buckets) g.reg
        (procpurgeBuckets credPid g buckets).reg
  | g, [], _ => (Purged.refl g.reg).congr fun _ _ => by simp
  | g, i :: buckets, hi => by
    obtain ⟨slots, hw⟩ := hi
    have hchain := procpurgeChain_purged credPid g (g.reg.pidhash i) ⟨slots, hw⟩ (hw.chain_nodup i)
      fun c hc => ⟨i, hc⟩
    have hrest := procpurgeBuckets_purged credPid (procpurgeChain credPid g (g.reg.pidhash i)) buckets
      (procpurgeChain_inv credPid g (g.reg.pidhash i) ⟨slots, hw⟩)
    rw [procpurgeBuckets]
    refine (hchain.trans hrest).congr fun x hx => ?_
    -- a record is in chain `i` exactly when its pid hashes to `i`
    have hbucket : x ∈ g.reg.pidhash i ↔ pidHashfn (g.reg.procs x).pid = i := by
      constructor
      · exact hw.hashed i x
      · intro hxi
        obtain ⟨b, hb⟩ := hx
        rwa [← hxi, hw.hashed b x hb]
    rw [List.mem_cons, hbucket]
    by_cases hx₁ : (procpurgeChain credPid g (g.reg.pidhash i)).reg.Mem x
    · rw [hchain.procs x hx₁]
    · -- a record the chain walk removed was in chain `i`
      have hin : x ∈ g.reg.pidhash i := by
        by_contra hnot
        exact hx₁ ((hchain.mem x).mpr ⟨hx, fun h => absurd h hnot⟩)
      have hxi := (hbucket.mp hin)
      simp [hxi]

theorem view_cmdProcpurge {g : Globals} (hi : g.reg.Inv) (cfg : Config) (credPid : Int32) :
    (cmdProcpurge cfg g credPid).reg.view =
      if cfg.useInkernelInterface then g.reg.view else procpurgeEntries credPid g.reg.view := by
  unfold cmdProcpurge
  by_cases hk : cfg.useInkernelInterface
  · simp only [hk, if_true]
  · simp only [hk, Bool.false_eq_true, if_false]
    have hpurged := (procpurgeBuckets_purged credPid g (List.range pidhashSz) hi).congr
      (t := fun _ => True) fun x _ => by simp [pidHashfn_lt]
    obtain ⟨slots, hw⟩ := hi
    obtain ⟨slots', hw'⟩ := procpurgeBuckets_inv credPid g (List.range pidhashSz) ⟨slots, hw⟩
    funext pid
    refine hw.view_eq_filter hw' (fun p => !claimable credPid p) (fun x => ?_) hpurged.procs pid
    rw [hpurged.mem]
    simp

end Lmkd
