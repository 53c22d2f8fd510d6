import Lmkd.ProcsPrio.Batch
import Lmkd.System.KillWait

/-!
# The two paths of `LMK_PROCS_PRIO`

`cmd_procs_prio` hands a batch to `handle_io_uring_procs_prio` when io_uring
is supported and to `apply_proc_prio`, record by record, otherwise.  The two
do not agree in general: the batch drops a record whose status file does not
open, where `apply_proc_prio` skips only the thread-group-leader check and
registers it (`procsPrio_unopenedStatus_diverges`); a failed read or write
completion stays at the head of the queue and starves the others; and the
batch registers in completion order, so a repeated pid ends with the score
of whichever write completed last.

They agree when every completion succeeds and the pids are distinct: the
registry maps the same pids to the same records, and the same scores are
written in the same order, for every order of the completions
(`procsPrio_batch_agrees`).
-/

namespace Lmkd

open Registry Reorder

theorem view_handleIoUringProcsPrio {cfg : Config} {env : ProcEnv} {uenv : UringEnv}
    {g : Globals} {procs : List LmkProcprio} {credPid : Int32} (hi : g.reg.Inv)
    (hpids : (procs.map LmkProcprio.pid).Nodup) (hok : BatchOk env procs)
    (hinit : uenv.queueInitOk = true) (hread : uenv.readSubmitOk = true)
    (hwrite : uenv.writeSubmitOk = true) :
    (handleIoUringProcsPrio cfg env uenv g procs credPid).reg.view =
      (procs.filter (applyPasses env)).foldl (keyedUpdate LmkProcprio.pid (recordEntry cfg env credPid))
        g.reg.view := by
  have horder := permuteBy_perm uenv.writeOrder (batchWrites env procs)
  have hi₁ : (recordBatchWrites env procs (fdsAfterRead env procs) g (batchWrites env procs)).reg.Inv := by
    rwa [recordBatchWrites_reg]
  have hstep : ∀ (g' : Globals) (i : Nat), i ∈ permuteBy uenv.writeOrder (batchWrites env procs) →
      g'.reg.Inv →
      (registerRecord cfg env credPid g' (procs.getD i default)).reg.Inv ∧
        (registerRecord cfg env credPid g' (procs.getD i default)).reg.view =
          keyedUpdate LmkProcprio.pid (recordEntry cfg env credPid) g'.reg.view (procs.getD i default) := by
    intro g' i hi' hinv
    have hpass := (mem_batchWrites.mp (horder.subset hi')).2
    have hv : procPrioValid (procs.getD i default) := by
      simp only [applyPasses, Bool.and_eq_true, decide_eq_true_eq] at hpass
      exact hpass.1.1
    exact ⟨registerRecord_inv hinv cfg env credPid hv.1, view_registerRecord hinv cfg env credPid _⟩
  have hsim := foldl_simulation (fun g : Globals => g.reg.Inv) (fun g => g.reg.view)
    (G := fun m i => keyedUpdate LmkProcprio.pid (recordEntry cfg env credPid) m (procs.getD i default))
    _ hstep _ hi₁
  have hnd : (((procs.filter (applyPasses env))).map LmkProcprio.pid).Nodup :=
    List.Nodup.sublist (List.filter_sublist.map _) hpids
  have hmap : (permuteBy uenv.writeOrder (batchWrites env procs)).foldl
      (fun m i => keyedUpdate LmkProcprio.pid (recordEntry cfg env credPid) m (procs.getD i default))
        g.reg.view =
      ((permuteBy uenv.writeOrder (batchWrites env procs)).map fun i => procs.getD i default).foldl
        (keyedUpdate LmkProcprio.pid (recordEntry cfg env credPid)) g.reg.view := by
    rw [List.foldl_map]
  rw [handleIoUringProcsPrio_eq hok hinit hread hwrite, hsim.2, recordBatchWrites_reg, hmap,
    ← map_getD_batchWrites env procs]
  refine (foldl_keyedUpdate_perm LmkProcprio.pid _ (horder.map _).symm ?_ _).symm
  rwa [map_getD_batchWrites]

/-- Under `BatchOk`, with distinct pids and every io_uring call succeeding,
the batch and the sequential path leave the same registry view and the same
`oom_score_adj` writes, whatever order the kernel completes the requests
in. -/
theorem procsPrio_batch_agrees {cfg : Config} {env : ProcEnv} {uenv : UringEnv} {g : Globals}
    {procs : List LmkProcprio} {credPid : Int32} (hi : g.reg.Inv)
    (hpids : (procs.map LmkProcprio.pid).Nodup) (hok : BatchOk env procs)
    (hinit : uenv.queueInitOk = true) (hread : uenv.readSubmitOk = true)
    (hwrite : uenv.writeSubmitOk = true) :
    (handleIoUringProcsPrio cfg env uenv g procs credPid).reg.view =
        (procsPrioSequential cfg env credPid g procs).reg.view ∧
      (handleIoUringProcsPrio cfg env uenv g procs credPid).adjWrites =
        (procsPrioSequential cfg env credPid g procs).adjWrites := by
  have hentry : ∀ p ∈ procs.filter (applyPasses env), applyEntry cfg env credPid p = recordEntry cfg env credPid p := by
    intro p hp
    funext old
    rw [applyEntry, if_pos (List.of_mem_filter hp)]
  have hskip : ∀ p, applyPasses env p = false → ∀ x, applyEntry cfg env credPid p x = x := by
    intro p hp x
    rw [applyEntry, hp]
    rfl
  have hwritten : (procs.filter fun p => applyPasses env p && env.oomScoreAdj p.pid == .written) =
      procs.filter (applyPasses env) := by
    apply List.filter_congr
    intro p hp
    cases hpass : applyPasses env p
    · rfl
    · simp [written_of_applyPasses hok hp hpass]
  refine ⟨?_, ?_⟩
  · rw [view_handleIoUringProcsPrio hi hpids hok hinit hread hwrite, view_procsPrioSequential hi,
      foldl_keyedUpdate_filter LmkProcprio.pid _ (applyPasses env) hskip,
      foldl_keyedUpdate_congr LmkProcprio.pid _ _ hentry]
  · rw [handleIoUringProcsPrio_eq hok hinit hread hwrite, adjWrites_foldl_registerRecord,
      recordBatchWrites_adjWrites env procs _ _ _ fun i hi' => batchWrite_ok hok hi',
      adjWrites_procsPrioSequential, hwritten, ← map_getD_batchWrites env procs, List.map_map]
    rfl

def uringOk (readOrder writeOrder : List Nat) : UringEnv := ⟨true, true, true, readOrder, writeOrder⟩

def twoAppsBatch : List LmkProcprio := [⟨100, 10100, 900, procTypeApp⟩, ⟨101, 10101, 800, procTypeApp⟩]

theorem procsPrio_batch_agrees_twoApps :
    Globals.boot.reg.Inv ∧ (twoAppsBatch.map LmkProcprio.pid).Nodup ∧
      BatchOk (appsProcEnv 4000) twoAppsBatch ∧ (uringOk [1] [1]).queueInitOk = true ∧
      (uringOk [1] [1]).readSubmitOk = true ∧ (uringOk [1] [1]).writeSubmitOk = true ∧
      (handleIoUringProcsPrio exampleConfig (appsProcEnv 4000) (uringOk [1] [1]) Globals.boot
          twoAppsBatch 1).reg.view =
        (procsPrioSequential exampleConfig (appsProcEnv 4000) 1 Globals.boot twoAppsBatch).reg.view ∧
      (handleIoUringProcsPrio exampleConfig (appsProcEnv 4000) (uringOk [1] [1]) Globals.boot
          twoAppsBatch 1).adjWrites =
        (procsPrioSequential exampleConfig (appsProcEnv 4000) 1 Globals.boot twoAppsBatch).adjWrites :=
  have hi : Globals.boot.reg.Inv := ⟨_, Registry.wellFormed_initial⟩
  have hpids : (twoAppsBatch.map LmkProcprio.pid).Nodup := by decide
  have hok : BatchOk (appsProcEnv 4000) twoAppsBatch := by
    intro p hp _
    simp only [twoAppsBatch, List.mem_cons, List.not_mem_nil, or_false] at hp
    rcases hp with rfl | rfl
    · exact ⟨⟨_, rfl⟩, by decide, by decide⟩
    · exact ⟨⟨_, rfl⟩, by decide, by decide⟩
  ⟨hi, hpids, hok, rfl, rfl, rfl, procsPrio_batch_agrees hi hpids hok rfl rfl rfl⟩

def unopenedStatusEnv : ProcEnv := { appsProcEnv 4000 with status := fun _ => .openFailed }

/-- The batch skips app 100 and writes nothing; `apply_proc_prio` writes its
score and registers it. -/
theorem procsPrio_unopenedStatus_diverges :
    (handleIoUringProcsPrio exampleConfig unopenedStatusEnv (uringOk [] []) Globals.boot
        [⟨100, 10100, 900, procTypeApp⟩] 1).reg.view 100 = none ∧
      (handleIoUringProcsPrio exampleConfig unopenedStatusEnv (uringOk [] []) Globals.boot
        [⟨100, 10100, 900, procTypeApp⟩] 1).adjWrites = [] ∧
      (procsPrioSequential exampleConfig unopenedStatusEnv 1 Globals.boot
        [⟨100, 10100, 900, procTypeApp⟩]).reg.view 100 = some ⟨100, 30, 10100, 900, 1, true⟩ ∧
      (procsPrioSequential exampleConfig unopenedStatusEnv 1 Globals.boot
        [⟨100, 10100, 900, procTypeApp⟩]).adjWrites = [(100, 900)] := by
  decide

end Lmkd
