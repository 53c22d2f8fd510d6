import Lmkd.ProcsPrio
import Lmkd.Registry.View

/-!
# Registration as an update of one pid

Seen through `Registry.view`, `register_oom_adj_proc` rewrites the entry of
its record's pid from that entry alone, the keyed update of `registerEntry`
(`view_registerOomAdjProc`).  `apply_proc_prio` either does the same or
leaves the view alone, depending only on the record and the environment, so
the sequential path of `cmd_procs_prio` is a fold of keyed updates over the
records that pass its checks (`view_procsPrioSequential`).
-/

namespace Lmkd

open Registry Reorder

/-- The entry the new-record branch of `register_oom_adj_proc` makes. -/
def newEntry (cfg : Config) (env : ProcEnv) (credPid : Int32) (proc : LmkProcprio) : Option Proc :=
  match openPidfd cfg env proc.pid with
  | none => none
  | some pidfd => if env.callocOk then some (newProc proc pidfd credPid (oomAdjScoreOf cfg proc)) else none

def existingEntry (cfg : Config) (credPid : Int32) (proc : LmkProcprio) (p : Proc) : Proc :=
  if p.regPid = credPid ∨ p.regPid = 0 then { p with regPid := credPid, oomadj := oomAdjScoreOf cfg proc }
  else p

/-- The entry of `proc.pid` after `register_oom_adj_proc`, from the entry
before. -/
def registerEntry (cfg : Config) (env : ProcEnv) (credPid : Int32) (proc : LmkProcprio)
    (old : Option Proc) : Option Proc :=
  if proc.ptype = procTypeApp ∧ cfg.perAppMemcg ∧ !env.softLimitPath proc.pid then old
  else
    match old with
    | none => newEntry cfg env credPid proc
    | some p => some (existingEntry cfg credPid proc p)

/-- The checks after which `apply_proc_prio` writes `oom_score_adj` and
registers the record. -/
def applyPasses (env : ProcEnv) (params : LmkProcprio) : Bool :=
  decide (procPrioValid params) &&
    !notThreadGroupLeader (readProcStatus env params.pid bufMax) params.pid &&
    writefilestring (env.oomScoreAdj params.pid)

/-- A registration as the write loops do it: a task name with the in-kernel
interface, `register_oom_adj_proc` otherwise. -/
def registerRecord (cfg : Config) (env : ProcEnv) (credPid : Int32) (g : Globals)
    (p : LmkProcprio) : Globals :=
  if cfg.useInkernelInterface then
    { g with taskOps := .store p.pid (procGetName env p.pid procfsPathMax) :: g.taskOps }
  else registerOomAdjProc cfg env g p credPid

/-- The entry of `p.pid` after `registerRecord`. -/
def recordEntry (cfg : Config) (env : ProcEnv) (credPid : Int32) (p : LmkProcprio)
    (old : Option Proc) : Option Proc :=
  if cfg.useInkernelInterface then old else registerEntry cfg env credPid p old

/-- The entry of `p.pid` after `apply_proc_prio`. -/
def applyEntry (cfg : Config) (env : ProcEnv) (credPid : Int32) (p : LmkProcprio)
    (old : Option Proc) : Option Proc :=
  if applyPasses env p then recordEntry cfg env credPid p old else old

/-- The pid and score of an `oom_score_adj` write. -/
def adjWriteOf (p : LmkProcprio) : Int32 × Int32 := (p.pid, p.oomadj)

/-! ## `register_oom_adj_proc` -/

theorem registerNew_view {g : Globals} (hi : g.reg.Inv) (cfg : Config) (env : ProcEnv)
    (proc : LmkProcprio) (credPid : Int32) (hnone : g.reg.pidLookup proc.pid = none) :
    (registerNew cfg env g proc credPid).reg.view =
      Function.update g.reg.view proc.pid (newEntry cfg env credPid proc) := by
  obtain ⟨slots, hw⟩ := hi
  have hold : g.reg.view proc.pid = none := by simp [view, hnone]
  unfold registerNew newEntry
  cases openPidfd cfg env proc.pid with
  | none => exact (Function.update_eq_self_iff.mpr hold.symm).symm
  | some pidfd =>
    have hlog : (if cfg.pidfdSupported then { g with fdLog := .pidfdOpen pidfd :: g.fdLog }
        else g).reg = g.reg := by
      split <;> rfl
    by_cases hc : env.callocOk
    · simp only [hc, Bool.not_true, Bool.false_eq_true, if_false, if_true]
      rw [hlog, view_insertNew hw]
      rfl
    · simp only [hc, Bool.not_false, Bool.false_eq_true, if_true, if_false, hlog]
      exact (Function.update_eq_self_iff.mpr hold.symm).symm

theorem registerExisting_view (cfg : Config) {g : Globals} {proc : LmkProcprio} {a : Nat}
    (credPid : Int32) (h : g.reg.pidLookup proc.pid = some a) :
    (registerExisting cfg g a proc credPid).reg.view =
      Function.update g.reg.view proc.pid (some (existingEntry cfg credPid proc (g.reg.procs a))) := by
  have hold : g.reg.view proc.pid = some (g.reg.procs a) := by simp [view, h]
  by_cases h₁ : (g.reg.procs a).regPid = credPid
  · have hreg : (registerExisting cfg g a proc credPid).reg =
        g.reg.reslot a (oomAdjScoreOf cfg proc) := by
      simp [registerExisting, claimRecord, h₁]
    rw [hreg, view_reslot h, existingEntry, if_pos (Or.inl h₁), ← h₁]
  · by_cases h₂ : (g.reg.procs a).regPid = 0
    · have hreg : (registerExisting cfg g a proc credPid).reg =
          (g.reg.setProc a { g.reg.procs a with regPid := credPid }).reslot a (oomAdjScoreOf cfg proc) := by
        have h₀ : ¬ (0 : Int32) = credPid := fun h => h₁ (h₂.trans h)
        simp [registerExisting, claimRecord, h₂, h₀]
      have h' : (g.reg.setProc a { g.reg.procs a with regPid := credPid }).pidLookup proc.pid = some a := by
        rw [pidLookup_setProc (p := { g.reg.procs a with regPid := credPid }) rfl]
        exact h
      rw [hreg, view_reslot h', view_setProc h (p := { g.reg.procs a with regPid := credPid }) rfl,
        Function.update_idem, setProc_procs, if_pos rfl, existingEntry, if_pos (Or.inr h₂)]
    · have hreg : (registerExisting cfg g a proc credPid).reg = g.reg := by
        simp [registerExisting, claimRecord, h₁, h₂]
      rw [hreg, existingEntry, if_neg fun h => h.elim h₁ h₂]
      exact (Function.update_eq_self_iff.mpr hold.symm).symm

theorem view_registerOomAdjProc {g : Globals} (hi : g.reg.Inv) (cfg : Config) (env : ProcEnv)
    (proc : LmkProcprio) (credPid : Int32) :
    (registerOomAdjProc cfg env g proc credPid).reg.view =
      keyedUpdate LmkProcprio.pid (registerEntry cfg env credPid) g.reg.view proc := by
  unfold registerOomAdjProc
  rw [keyedUpdate]
  split
  · rename_i hsoft
    simp only [registerEntry, if_pos hsoft, Function.update_eq_self]
  · rename_i hsoft
    split
    · rename_i hnone
      have hold : g.reg.view proc.pid = none := by simp [view, hnone]
      rw [registerNew_view hi cfg env proc credPid hnone, hold]
      simp only [registerEntry, if_neg hsoft]
    · rename_i a hsome
      have hold : g.reg.view proc.pid = some (g.reg.procs a) := by simp [view, hsome]
      rw [registerExisting_view cfg credPid hsome, hold]
      simp only [registerEntry, if_neg hsoft]

@[simp] theorem registerOomAdjProc_adjWrites (cfg : Config) (env : ProcEnv) (g : Globals)
    (proc : LmkProcprio) (credPid : Int32) :
    (registerOomAdjProc cfg env g proc credPid).adjWrites = g.adjWrites := by
  unfold registerOomAdjProc registerNew registerExisting
  split
  · rfl
  · split
    · split
      · rfl
      · split <;> split <;> rfl
    · dsimp only
      split <;> rfl

/-! ## The write loops' registration and `apply_proc_prio` -/

theorem view_registerRecord {g : Globals} (hi : g.reg.Inv) (cfg : Config) (env : ProcEnv)
    (credPid : Int32) (p : LmkProcprio) :
    (registerRecord cfg env credPid g p).reg.view =
      keyedUpdate LmkProcprio.pid (recordEntry cfg env credPid) g.reg.view p := by
  by_cases hk : cfg.useInkernelInterface
  · simp only [registerRecord, recordEntry, hk, if_true, keyedUpdate, Function.update_eq_self]
  · rw [registerRecord, if_neg hk, view_registerOomAdjProc hi]
    simp only [keyedUpdate, recordEntry, hk, Bool.false_eq_true, if_false]

theorem registerRecord_inv {g : Globals} (hi : g.reg.Inv) (cfg : Config) (env : ProcEnv)
    (credPid : Int32) {p : LmkProcprio} (hadj : ValidAdj p.oomadj) :
    (registerRecord cfg env credPid g p).reg.Inv := by
  unfold registerRecord
  split
  · exact hi
  · exact registerOomAdjProc_inv hi cfg env hadj credPid

@[simp] theorem registerRecord_adjWrites (cfg : Config) (env : ProcEnv) (credPid : Int32)
    (g : Globals) (p : LmkProcprio) : (registerRecord cfg env credPid g p).adjWrites = g.adjWrites := by
  unfold registerRecord
  split
  · rfl
  · exact registerOomAdjProc_adjWrites cfg env g p credPid

theorem applyProcPrio_eq (cfg : Config) (env : ProcEnv) (g : Globals) (p : LmkProcprio)
    (credPid : Int32) :
    applyProcPrio cfg env g p credPid =
      if applyPasses env p then
        registerRecord cfg env credPid (recordAdjWrite g p.pid p.oomadj (env.oomScoreAdj p.pid)) p
      else g := by
  by_cases hv : procPrioValid p
  · by_cases hl : notThreadGroupLeader (readProcStatus env p.pid bufMax) p.pid
    · simp [applyProcPrio, applyPasses, hv, hl]
    · by_cases hw : writefilestring (env.oomScoreAdj p.pid)
      · simp [applyProcPrio, applyPasses, registerRecord, hv, hl, hw]
      · simp [applyProcPrio, applyPasses, hv, hl, hw]
  · simp [applyProcPrio, applyPasses, hv]

theorem view_applyProcPrio {g : Globals} (hi : g.reg.Inv) (cfg : Config) (env : ProcEnv)
    (p : LmkProcprio) (credPid : Int32) :
    (applyProcPrio cfg env g p credPid).reg.view =
      keyedUpdate LmkProcprio.pid (applyEntry cfg env credPid) g.reg.view p := by
  rw [applyProcPrio_eq]
  by_cases hp : applyPasses env p
  · have hi' : (recordAdjWrite g p.pid p.oomadj (env.oomScoreAdj p.pid)).reg.Inv := by
      rwa [recordAdjWrite_reg]
    rw [if_pos hp, view_registerRecord hi', recordAdjWrite_reg]
    simp only [keyedUpdate, applyEntry, hp, if_true]
  · rw [if_neg hp]
    simp only [keyedUpdate, applyEntry, hp, Bool.false_eq_true, if_false, Function.update_eq_self]

theorem adjWrites_applyProcPrio (cfg : Config) (env : ProcEnv) (g : Globals) (p : LmkProcprio)
    (credPid : Int32) :
    (applyProcPrio cfg env g p credPid).adjWrites =
      if applyPasses env p ∧ env.oomScoreAdj p.pid = .written then adjWriteOf p :: g.adjWrites
      else g.adjWrites := by
  rw [applyProcPrio_eq]
  by_cases hp : applyPasses env p
  · by_cases hw : env.oomScoreAdj p.pid = .written
    · simp [hp, hw, recordAdjWrite, adjWriteOf]
    · simp [hp, hw, recordAdjWrite]
  · simp [hp]

/-! ## The sequential path -/

theorem procsPrioSequential_eq_foldl (cfg : Config) (env : ProcEnv) (credPid : Int32) :
    ∀ (g : Globals) (procs : List LmkProcprio),
      procsPrioSequential cfg env credPid g procs = procs.foldl (fun g p => applyProcPrio cfg env g p credPid) g
  | _, [] => rfl
  | g, p :: ps => procsPrioSequential_eq_foldl cfg env credPid (applyProcPrio cfg env g p credPid) ps

theorem view_procsPrioSequential {g : Globals} (hi : g.reg.Inv) (cfg : Config) (env : ProcEnv)
    (credPid : Int32) (procs : List LmkProcprio) :
    (procsPrioSequential cfg env credPid g procs).reg.view =
      procs.foldl (keyedUpdate LmkProcprio.pid (applyEntry cfg env credPid)) g.reg.view := by
  rw [procsPrioSequential_eq_foldl]
  exact (foldl_simulation (fun g : Globals => g.reg.Inv) (fun g => g.reg.view) procs
    (fun g' p _ hi' => ⟨applyProcPrio_inv hi' cfg env p credPid, view_applyProcPrio hi' cfg env p credPid⟩)
    g hi).2

theorem adjWrites_procsPrioSequential (cfg : Config) (env : ProcEnv) (credPid : Int32) :
    ∀ (g : Globals) (procs : List LmkProcprio),
      (procsPrioSequential cfg env credPid g procs).adjWrites =
        ((procs.filter fun p => applyPasses env p && env.oomScoreAdj p.pid == .written).map
          adjWriteOf).reverse ++ g.adjWrites
  | _, [] => rfl
  | g, p :: ps => by
    rw [procsPrioSequential, adjWrites_procsPrioSequential cfg env credPid _ ps,
      adjWrites_applyProcPrio]
    by_cases hp : applyPasses env p && env.oomScoreAdj p.pid == .written
    · have hp' : applyPasses env p ∧ env.oomScoreAdj p.pid = .written := by simpa using hp
      rw [if_pos hp', List.filter_cons, if_pos hp]
      simp
    · have hp' : ¬ (applyPasses env p ∧ env.oomScoreAdj p.pid = .written) := by simpa using hp
      rw [if_neg hp', List.filter_cons]
      simp only [hp, Bool.false_eq_true, if_false]

end Lmkd
