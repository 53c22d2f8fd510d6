import Lmkd.Registry.Frame
import Lmkd.Proc
import Lmkd.Packet.Codec

/-!
# The registration commands

`register_oom_adj_proc`, `apply_proc_prio`, `cmd_procremove` and
`cmd_procpurge`.  A client's credentials are its pid `credPid`, the only
field of `ucred` these functions use for anything but a log line.

`register_oom_adj_proc` writes a memcg soft limit for apps when
`per_app_memcg` is set; only its failure to find the cgroup path, which
returns early, is observable to the rest of lmkd.  `cmd_procpurge` walks each
chain through the `pidhash_next` links it read before a removal, which are
the links of the chain as it was when the walk of that chain began: that
chain is the list the model walks.

Each command keeps the registry invariant (`Registry.Inv`); for
`register_oom_adj_proc` this needs the score check that `apply_proc_prio`
and the batched path make first.
-/

namespace Lmkd

open Registry

/-- The score `register_oom_adj_proc` stores: a launcher app (`600..699`) is
kept perceptible when per-app memcgs are in use. -/
def oomAdjScoreOf (cfg : Config) (proc : LmkProcprio) : Int32 :=
  if proc.ptype = procTypeApp ∧ cfg.perAppMemcg ∧ 600 ≤ proc.oomadj ∧ proc.oomadj < 700 then
    perceptibleAppAdj
  else proc.oomadj

/-- The record `register_oom_adj_proc` allocates for a new pid. -/
def newProc (proc : LmkProcprio) (pidfd : Int32) (credPid oomAdjScore : Int32) : Proc :=
  ⟨proc.pid, pidfd, proc.uid, oomAdjScore, credPid, true⟩

/-- The pidfd of a new record: `pidfd_open` when pidfds are supported, -1
otherwise, `none` when the call fails. -/
def openPidfd (cfg : Config) (env : ProcEnv) (pid : Int32) : Option Int32 :=
  if cfg.pidfdSupported then env.pidfdOpen pid else some (-1)

/-- The branch of `register_oom_adj_proc` for a pid with no record.  A failed
`calloc` returns with the pidfd still open. -/
def registerNew (cfg : Config) (env : ProcEnv) (g : Globals) (proc : LmkProcprio)
    (credPid : Int32) : Globals :=
  match openPidfd cfg env proc.pid with
  | none => g
  | some pidfd =>
    let g := if cfg.pidfdSupported then { g with fdLog := .pidfdOpen pidfd :: g.fdLog } else g
    if !env.callocOk then g
    else { g with reg := g.reg.insertNew (newProc proc pidfd credPid (oomAdjScoreOf cfg proc)) }

def registerExisting (cfg : Config) (g : Globals) (a : Nat) (proc : LmkProcprio)
    (credPid : Int32) : Globals :=
  let claim := g.reg.claimRecord a credPid
  if claim.2 then { g with reg := claim.1.reslot a (oomAdjScoreOf cfg proc) }
  else { g with reg := claim.1 }

def registerOomAdjProc (cfg : Config) (env : ProcEnv) (g : Globals) (proc : LmkProcprio)
    (credPid : Int32) : Globals :=
  if proc.ptype = procTypeApp ∧ cfg.perAppMemcg ∧ !env.softLimitPath proc.pid then g
  else
    match g.reg.pidLookup proc.pid with
    | none => registerNew cfg env g proc credPid
    | some a => registerExisting cfg g a proc credPid

/-- The `oom_score_adj` write of a record: recorded when it is accepted. -/
def recordAdjWrite (g : Globals) (pid oomadj : Int32) (w : FileWrite) : Globals :=
  if w = .written then { g with adjWrites := (pid, oomadj) :: g.adjWrites } else g

/-- The checks of `apply_proc_prio`: a valid score and process type. -/
def procPrioValid (params : LmkProcprio) : Prop :=
  ValidAdj params.oomadj ∧ procTypeApp ≤ params.ptype ∧ params.ptype < procTypeCount

instance (params : LmkProcprio) : Decidable (procPrioValid params) :=
  inferInstanceAs (Decidable (_ ∧ _))

def notThreadGroupLeader (status : Option (List Char)) (pid : Int32) : Bool :=
  match status with
  | some buf =>
    match parseStatusTag buf procStatusTgidField with
    | some tgid => tgid ≠ pid.toInt
    | none => false
  | none => false

def applyProcPrio (cfg : Config) (env : ProcEnv) (g : Globals) (params : LmkProcprio)
    (credPid : Int32) : Globals :=
  if ¬ procPrioValid params then g
  else if notThreadGroupLeader (readProcStatus env params.pid bufMax) params.pid then g
  else
    let w := env.oomScoreAdj params.pid
    if !writefilestring w then g
    else
      let g := recordAdjWrite g params.pid params.oomadj w
      if cfg.useInkernelInterface then
        { g with taskOps := .store params.pid (procGetName env params.pid procfsPathMax) :: g.taskOps }
      else registerOomAdjProc cfg env g params credPid

def cmdProcremove (cfg : Config) (g : Globals) (params : LmkProcremove) (credPid : Int32) :
    Globals :=
  if cfg.useInkernelInterface then { g with taskOps := .remove params.pid :: g.taskOps }
  else match g.reg.pidLookup params.pid with
    | none => g
    | some a =>
      let claim := g.reg.claimRecord a credPid
      if claim.2 then (pidRemove { g with reg := claim.1 } params.pid).1
      else { g with reg := claim.1 }

/-- The inner loop of `cmd_procpurge` over one chain. -/
def procpurgeChain (credPid : Int32) : Globals → List Nat → Globals
  | g, [] => g
  | g, a :: chain =>
    let claim := g.reg.claimRecord a credPid
    let g := { g with reg := claim.1 }
    procpurgeChain credPid (if claim.2 then (pidRemove g (claim.1.procs a).pid).1 else g) chain

/-- The outer loop of `cmd_procpurge` over the buckets. -/
def procpurgeBuckets (credPid : Int32) : Globals → List Nat → Globals
  | g, [] => g
  | g, i :: buckets => procpurgeBuckets credPid (procpurgeChain credPid g (g.reg.pidhash i)) buckets

def cmdProcpurge (cfg : Config) (g : Globals) (credPid : Int32) : Globals :=
  if cfg.useInkernelInterface then { g with taskOps := .purge :: g.taskOps }
  else procpurgeBuckets credPid g (List.range pidhashSz)

/-! ## What each command does to the registry -/

theorem registerNew_reg (cfg : Config) (env : ProcEnv) (g : Globals) (proc : LmkProcprio)
    (credPid : Int32) :
    (registerNew cfg env g proc credPid).reg = g.reg ∨ ∃ pidfd,
      (registerNew cfg env g proc credPid).reg =
        g.reg.insertNew (newProc proc pidfd credPid (oomAdjScoreOf cfg proc)) := by
  unfold registerNew
  split
  · exact .inl rfl
  · rename_i pidfd _
    have hfd : (if cfg.pidfdSupported then { g with fdLog := .pidfdOpen pidfd :: g.fdLog }
        else g).reg = g.reg := by
      split <;> rfl
    by_cases hc : env.callocOk
    · exact .inr ⟨pidfd, by simp [hc, hfd]⟩
    · exact .inl (by simp [hc, hfd])

@[simp] theorem recordAdjWrite_reg (g : Globals) (pid oomadj : Int32) (w : FileWrite) :
    (recordAdjWrite g pid oomadj w).reg = g.reg := by
  unfold recordAdjWrite
  split <;> rfl

theorem registerExisting_reg (cfg : Config) (g : Globals) (a : Nat) (proc : LmkProcprio)
    (credPid : Int32) :
    (registerExisting cfg g a proc credPid).reg = (g.reg.claimRecord a credPid).1 ∨
      (registerExisting cfg g a proc credPid).reg =
        (g.reg.claimRecord a credPid).1.reslot a (oomAdjScoreOf cfg proc) := by
  by_cases h : (g.reg.claimRecord a credPid).2
  · exact .inr (by simp [registerExisting, h])
  · exact .inl (by simp [registerExisting, h])

theorem oomAdjScoreOf_valid (cfg : Config) {proc : LmkProcprio} (h : ValidAdj proc.oomadj) :
    ValidAdj (oomAdjScoreOf cfg proc) := by
  unfold oomAdjScoreOf
  split
  · decide
  · exact h

theorem registerOomAdjProc_inv {g : Globals} (hi : g.reg.Inv) (cfg : Config)
    (env : ProcEnv) {proc : LmkProcprio} (hadj : ValidAdj proc.oomadj) (credPid : Int32) :
    (registerOomAdjProc cfg env g proc credPid).reg.Inv := by
  unfold registerOomAdjProc
  split
  · exact hi
  · split
    · rename_i hnone
      rcases registerNew_reg cfg env g proc credPid with h | ⟨pidfd, h⟩ <;> rw [h]
      · exact hi
      · exact hi.insertNew hnone (oomAdjScoreOf_valid cfg hadj)
    · rename_i a hsome
      have hshape := sameShape_claimRecord g.reg a credPid
      rcases registerExisting_reg cfg g a proc credPid with h | h <;> rw [h]
      · exact hi.of_sameShape hshape
      · exact (hi.of_sameShape hshape).reslot (hshape.mem_iff.mpr (mem_of_pidLookup hsome))
          (oomAdjScoreOf_valid cfg hadj)

/-- One of the /proc files of `pid` opened: its `oom_score_adj` for writing,
or its status file. -/
def ProcSeen (env : ProcEnv) (pid : Int32) : Prop :=
  env.oomScoreAdj pid ≠ .openFailed ∨ env.status pid ≠ .openFailed

theorem applyProcPrio_reg (cfg : Config) (env : ProcEnv) (g : Globals) (params : LmkProcprio)
    (credPid : Int32) :
    (applyProcPrio cfg env g params credPid).reg = g.reg ∨
      (procPrioValid params ∧ ProcSeen env params.pid ∧ ∃ g' : Globals, g'.reg = g.reg ∧
        (applyProcPrio cfg env g params credPid).reg =
          (registerOomAdjProc cfg env g' params credPid).reg) := by
  by_cases hv : procPrioValid params
  · by_cases hl : notThreadGroupLeader (readProcStatus env params.pid bufMax) params.pid
    · exact .inl (by simp [applyProcPrio, hv, hl])
    · by_cases hw : writefilestring (env.oomScoreAdj params.pid)
      · by_cases hk : cfg.useInkernelInterface
        · exact .inl (by simp [applyProcPrio, hv, hl, hw, hk])
        · have hseen : ProcSeen env params.pid := by
            left
            intro hfail
            simp [hfail, writefilestring] at hw
          exact .inr ⟨hv, hseen, _, recordAdjWrite_reg g params.pid params.oomadj (env.oomScoreAdj params.pid),
            by simp [applyProcPrio, hv, hl, hw, hk]⟩
      · exact .inl (by simp [applyProcPrio, hv, hl, hw])
  · exact .inl (by simp [applyProcPrio, hv])

theorem applyProcPrio_preserves (P : Registry → Prop) {cfg : Config} {env : ProcEnv}
    {credPid : Int32}
    (hreg : ∀ (g : Globals) (p : LmkProcprio), ValidAdj p.oomadj → ProcSeen env p.pid → P g.reg →
      P (registerOomAdjProc cfg env g p credPid).reg)
    {g : Globals} (h : P g.reg) (params : LmkProcprio) :
    P (applyProcPrio cfg env g params credPid).reg := by
  rcases applyProcPrio_reg cfg env g params credPid with hr | ⟨hvalid, hseen, g', hg', hr⟩
  · rw [hr]
    exact h
  · rw [hr]
    exact hreg g' params hvalid.1 hseen (hg' ▸ h)

theorem applyProcPrio_inv {g : Globals} (hi : g.reg.Inv) (cfg : Config) (env : ProcEnv)
    (params : LmkProcprio) (credPid : Int32) : (applyProcPrio cfg env g params credPid).reg.Inv :=
  applyProcPrio_preserves Registry.Inv (fun _ _ hadj _ hi => registerOomAdjProc_inv hi cfg env hadj credPid)
    hi params

theorem cmdProcremove_inv {g : Globals} (hi : g.reg.Inv) (cfg : Config)
    (params : LmkProcremove) (credPid : Int32) : (cmdProcremove cfg g params credPid).reg.Inv := by
  unfold cmdProcremove
  split
  · exact hi
  · split
    · exact hi
    · rename_i a _
      have hclaim : (g.reg.claimRecord a credPid).1.Inv :=
        hi.of_sameShape (sameShape_claimRecord _ _ _)
      by_cases hc : (g.reg.claimRecord a credPid).2
      · simpa [hc] using pidRemove_inv (g := { g with reg := _ }) hclaim params.pid
      · simpa [hc] using hclaim

theorem procpurgeChain_inv (credPid : Int32) :
    ∀ (g : Globals) (chain : List Nat), g.reg.Inv → (procpurgeChain credPid g chain).reg.Inv
  | _, [], hi => hi
  | g, a :: chain, hi => by
    rw [procpurgeChain]
    apply procpurgeChain_inv credPid
    have hclaim : (g.reg.claimRecord a credPid).1.Inv :=
      hi.of_sameShape (sameShape_claimRecord _ _ _)
    split
    · exact pidRemove_inv (g := { g with reg := _ }) hclaim _
    · exact hclaim

theorem procpurgeBuckets_inv (credPid : Int32) :
    ∀ (g : Globals) (buckets : List Nat), g.reg.Inv → (procpurgeBuckets credPid g buckets).reg.Inv
  | _, [], hi => hi
  | g, _ :: buckets, hi =>
    procpurgeBuckets_inv credPid _ buckets (procpurgeChain_inv credPid g _ hi)

theorem cmdProcpurge_inv {g : Globals} (hi : g.reg.Inv) (cfg : Config)
    (credPid : Int32) : (cmdProcpurge cfg g credPid).reg.Inv := by
  unfold cmdProcpurge
  split
  · exact hi
  · exact procpurgeBuckets_inv credPid g _ hi

/-! ## The records of other registrants

A command from `credPid` never changes or removes a record claimed by
another registrant: every path to a registered record goes through
`claim_record`, which refuses it. -/

structure ForeignRecord (r : Registry) (a : Nat) (credPid : Int32) : Prop where
  mem : r.Mem a
  claimed : (r.procs a).regPid ≠ 0
  other : (r.procs a).regPid ≠ credPid

theorem ForeignRecord.of_keeps {r r' : Registry} {a : Nat} {credPid : Int32}
    (h : ForeignRecord r a credPid) (hk : Keeps r r' a) : ForeignRecord r' a credPid :=
  ⟨hk.mem h.mem, hk.procs ▸ h.claimed, hk.procs ▸ h.other⟩

theorem registerOomAdjProc_keeps {g : Globals} {a : Nat} {credPid : Int32} (hi : g.reg.Inv)
    (hf : ForeignRecord g.reg a credPid) (cfg : Config) (env : ProcEnv) (proc : LmkProcprio) :
    Keeps g.reg (registerOomAdjProc cfg env g proc credPid).reg a := by
  unfold registerOomAdjProc
  split
  · exact Keeps.refl _ _
  · split
    · rcases registerNew_reg cfg env g proc credPid with h | ⟨pidfd, h⟩ <;> rw [h]
      · exact Keeps.refl _ _
      · obtain ⟨slots, hw⟩ := hi
        exact keeps_insertNew (hw.lt_brk a hf.mem) _
    · rename_i c _
      have hclaim := keeps_claimRecord hf.claimed c credPid
      simp only [registerExisting]
      split
      · rename_i hsucc
        exact hclaim.trans (keeps_reslot (claimRecord_ne hf.claimed hf.other hsucc) _)
      · exact hclaim

theorem applyProcPrio_keeps {g : Globals} {a : Nat} {credPid : Int32} (hi : g.reg.Inv)
    (hf : ForeignRecord g.reg a credPid) (cfg : Config) (env : ProcEnv) (params : LmkProcprio) :
    Keeps g.reg (applyProcPrio cfg env g params credPid).reg a := by
  rcases applyProcPrio_reg cfg env g params credPid with h | ⟨_, _, g', hg', h⟩
  · rw [h]
    exact Keeps.refl _ _
  · rw [h, ← hg']
    exact registerOomAdjProc_keeps (hg' ▸ hi) (hg' ▸ hf) cfg env params

theorem cmdProcremove_keeps {g : Globals} {a : Nat} {credPid : Int32}
    (hf : ForeignRecord g.reg a credPid) (cfg : Config) (params : LmkProcremove) :
    Keeps g.reg (cmdProcremove cfg g params credPid).reg a := by
  unfold cmdProcremove
  split
  · exact Keeps.refl _ _
  · split
    · exact Keeps.refl _ _
    · rename_i c hc
      have hshape := sameShape_claimRecord g.reg c credPid
      have hclaim := keeps_claimRecord hf.claimed c credPid
      by_cases hsucc : (g.reg.claimRecord c credPid).2
      · have hfound : (g.reg.claimRecord c credPid).1.pidLookup params.pid = some c := by
          rw [hshape.pidLookup, hc]
        simp only [hsucc, if_true, pidRemove_reg, hfound]
        exact hclaim.trans (keeps_removeAt hfound (claimRecord_ne hf.claimed hf.other hsucc))
      · simpa [hsucc] using hclaim

theorem procpurgeChain_keeps {a : Nat} {credPid : Int32} :
    ∀ (g : Globals) (chain : List Nat), g.reg.Inv → chain.Nodup → (∀ c ∈ chain, g.reg.Mem c) →
      ForeignRecord g.reg a credPid → Keeps g.reg (procpurgeChain credPid g chain).reg a
  | _, [], _, _, _, _ => Keeps.refl _ _
  | g, c :: chain, hi, hnd, hmem, hf => by
    rw [procpurgeChain]
    have hshape := sameShape_claimRecord g.reg c credPid
    have hclaim := keeps_claimRecord hf.claimed c credPid
    have hc : c ∉ chain := (List.nodup_cons.mp hnd).1
    have hstep : ∀ g' : Globals, g'.reg.Inv → Keeps g.reg g'.reg a →
        (∀ x, g.reg.Mem x → x ≠ c → g'.reg.Mem x) →
        Keeps g.reg (procpurgeChain credPid g' chain).reg a := by
      intro g' hi' hk' hmem'
      refine hk'.trans (procpurgeChain_keeps g' chain hi' (List.nodup_cons.mp hnd).2
        (fun x hx => hmem' x (hmem x (List.mem_cons_of_mem _ hx)) (fun h => hc (h ▸ hx)))
        (hf.of_keeps hk'))
    have hi₁ : (g.reg.claimRecord c credPid).1.Inv := hi.of_sameShape hshape
    split
    · rename_i hsucc
      obtain ⟨slots, hw⟩ := hi₁
      have hfound : (g.reg.claimRecord c credPid).1.pidLookup
          ((g.reg.claimRecord c credPid).1.procs c).pid = some c :=
        hw.pidLookup_of_mem (hshape.mem_iff.mpr (hmem c (List.mem_cons_self ..)))
      apply hstep _ (pidRemove_inv ⟨slots, hw⟩ _)
      · simp only [pidRemove_reg, hfound]
        exact hclaim.trans (keeps_removeAt hfound (claimRecord_ne hf.claimed hf.other hsucc))
      · intro x hx hxc
        simp only [pidRemove_reg, hfound]
        exact (hw.mem_removeAt hfound).mpr ⟨hshape.mem_iff.mpr hx, hxc⟩
    · exact hstep _ hi₁ hclaim fun x hx _ => hshape.mem_iff.mpr hx

theorem procpurgeBuckets_keeps {a : Nat} {credPid : Int32} :
    ∀ (g : Globals) (buckets : List Nat), g.reg.Inv → ForeignRecord g.reg a credPid →
      Keeps g.reg (procpurgeBuckets credPid g buckets).reg a
  | _, [], _, _ => Keeps.refl _ _
  | g, i :: buckets, hi, hf => by
    rw [procpurgeBuckets]
    obtain ⟨slots, hw⟩ := hi
    have hchain := procpurgeChain_keeps g (g.reg.pidhash i) ⟨slots, hw⟩ (hw.chain_nodup i)
      (fun c hc => ⟨i, hc⟩) hf
    exact hchain.trans (procpurgeBuckets_keeps _ buckets
      (procpurgeChain_inv credPid g _ ⟨slots, hw⟩) (hf.of_keeps hchain))

theorem cmdProcpurge_keeps {g : Globals} {a : Nat} {credPid : Int32} (hi : g.reg.Inv)
    (hf : ForeignRecord g.reg a credPid) (cfg : Config) :
    Keeps g.reg (cmdProcpurge cfg g credPid).reg a := by
  unfold cmdProcpurge
  split
  · exact Keeps.refl _ _
  · exact procpurgeBuckets_keeps g _ hi hf

end Lmkd
