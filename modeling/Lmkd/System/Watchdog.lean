import Lmkd.System.Trims
import Lmkd.ProcsPrio.Refine
import Lmkd.Kill.Watchdog
import Mathlib

/-!
# No record of pid 0, and the watchdog's scan on every reachable state

The watchdog's scan is the one of `watchdogCallback_spec` on a consistent
registry in which no record has pid 0.  lmkd registers a pid only after one
of its /proc files opened: `apply_proc_prio` returns when it cannot open
`/proc/<pid>/oom_score_adj`, and the batched path submits no status read,
and so no write, for a record whose status file does not open
(`ProcSeen`).  Every other action only removes entries or releases claims
(`lmkdStep_trims`).

So a pid whose /proc files are absent from the environment of every command
is never registered (`lmkdStep_view_absent`).  The kernel has no /proc/0:
pid 0 is the idle task, which procfs does not list.  Every state lmkd
reaches under that environment has no record of pid 0
(`lmkdSystem_view_pidZero`), and on each the scan behaves as
`WatchdogScan` says, whatever `reaper.kill` answers
(`lmkdSystem_watchdogScan`).
-/

namespace Lmkd

open Registry Transition

/-- `pid` has no files in /proc: neither its status nor its `oom_score_adj`
opens. -/
def ProcEnv.Absent (env : ProcEnv) (pid : Int32) : Prop :=
  env.status pid = .openFailed ∧ env.oomScoreAdj pid = .openFailed

instance (env : ProcEnv) (pid : Int32) : Decidable (env.Absent pid) :=
  inferInstanceAs (Decidable (_ ∧ _))

theorem ProcEnv.Absent.ne {env : ProcEnv} {q pid : Int32} (hq : env.Absent q)
    (hseen : ProcSeen env pid) : q ≠ pid := by
  rintro rfl
  rcases hseen with h | h
  · exact h hq.2
  · exact h hq.1

/-- The /proc the commands of an action read has no files of `pid`; only a
data connection's input runs commands. -/
def Action.procAbsent (pid : Int32) : Action → Bool
  | .event (.dataSock _) _ _ env => decide (env.cmd.proc.Absent pid)
  | _ => true

/-! ## A pid that /proc does not show is not registered -/

section Absent

variable {q : Int32}

theorem registerOomAdjProc_view_absent {cfg : Config} {env : ProcEnv} {credPid : Int32}
    (hq : env.Absent q) (g : Globals) (p : LmkProcprio) (hadj : ValidAdj p.oomadj)
    (hseen : ProcSeen env p.pid) (h : g.reg.Inv ∧ g.reg.view q = none) :
    (registerOomAdjProc cfg env g p credPid).reg.Inv ∧
      (registerOomAdjProc cfg env g p credPid).reg.view q = none := by
  refine ⟨registerOomAdjProc_inv h.1 cfg env hadj credPid, ?_⟩
  rw [view_registerOomAdjProc h.1, Reorder.keyedUpdate_apply, if_neg (hq.ne hseen)]
  exact h.2

theorem procremoveEntries_eq_none {credPid pid : Int32} {m : Int32 → Option Proc}
    (hm : m q = none) : procremoveEntries credPid pid m q = none := by
  unfold procremoveEntries
  split
  · by_cases hqp : q = pid
    · rw [hqp, Function.update_self]
    · rw [Function.update_of_ne hqp, hm]
  · exact hm

theorem ctrlCommand_view_absent {g : Globals} (hi : g.reg.Inv) (cfg : Config) {env : CmdEnv}
    (hq : env.proc.Absent q) (i : Fin maxDataConn) (len : Nat) (packet : Nat → UInt32)
    (credPid : Int32) (hv : g.reg.view q = none) :
    (ctrlCommand cfg env g i len packet credPid).reg.view q = none := by
  rcases ctrlCommand_reg cfg env g i len packet credPid with
    h | ⟨params, h⟩ | ⟨params, h⟩ | h | ⟨procs?, h⟩ <;> rw [h]
  · exact hv
  · exact (applyProcPrio_preserves (fun r => r.Inv ∧ r.view q = none)
      (registerOomAdjProc_view_absent hq) ⟨hi, hv⟩ params).2
  · rw [view_cmdProcremove hi]
    split
    · exact hv
    · exact procremoveEntries_eq_none hv
  · rw [view_cmdProcpurge hi]
    split
    · exact hv
    · simp [procpurgeEntries, hv]
  · exact (cmdProcsPrio_preserves (fun r => r.Inv ∧ r.view q = none)
      (registerOomAdjProc_view_absent hq) env.uring procs? ⟨hi, hv⟩).2

theorem ctrlCommandHandler_view_absent {g : Globals} (hi : g.reg.Inv) (cfg : Config) {env : CmdEnv}
    (hq : env.proc.Absent q) (i : Fin maxDataConn) (recv : Recv) (hv : g.reg.view q = none) :
    (ctrlCommandHandler cfg env i recv g).reg.view q = none := by
  -- the read itself only closes the connection, which releases claims
  have hread : (ctrlDataRead g i recv).1.reg.view q = none := by
    unfold ctrlDataRead
    split
    · exact hv
    · split
      · exact hv
      · split
        · exact (ctrlDataClose_trims g i).eq_none hv
        · exact hv
  simp only [ctrlCommandHandler]
  split
  · exact hread
  · exact ctrlCommand_view_absent (ctrlDataRead_inv hi i recv) cfg hq i _ _ _ hread

theorem lmkdStep_view_absent {cfg : Config} {g g' : Globals} {a : Action} (hi : g.reg.Inv)
    (ha : a.procAbsent q = true) (hv : g.reg.view q = none) (h : lmkdStep cfg g a = some g') :
    g'.reg.view q = none := by
  cases hmsg : a.readsMessage
  · exact (lmkdStep_trims hi hmsg h).eq_none hv
  -- only input on a data connection reads a message
  · obtain ⟨i, events, contNow, env, rfl⟩ : ∃ i events contNow env,
        a = .event (.dataSock i) events contNow env := by
      rcases a with _ | _ | _ | ⟨_ | i | _ | _ | _ | _ | _, events, contNow, env⟩ <;>
        first | exact ⟨i, events, contNow, env, rfl⟩ | cases hmsg
    have hq : env.cmd.proc.Absent q := of_decide_eq_true ha
    simp only [lmkdStep] at h
    split at h
    · cases h
    · cases h
      simp only [handleEvent, callHandler_reg, runHandler]
      split
      · exact ctrlCommandHandler_view_absent (g := { g with poll := { g.poll with update := .doNotChange } })
          hi cfg hq i env.recv hv
      · exact hv

end Absent

/-! ## Every reachable state -/

theorem lmkdSystem_view_pidZero {cfg : Config} {ienv : InitEnv} {g₀ : Globals}
    (h₀ : lmkdInit cfg ienv = some g₀) {g : Globals}
    (hg : ((lmkdSystem cfg g₀).restrict fun _ a => a.procAbsent 0 = true).Reachable g) :
    g.reg.Inv ∧ g.reg.view 0 = none := by
  refine System.Reachable.induction _ (P := fun s => s.reg.Inv ∧ s.reg.view 0 = none) ?_
    (fun s a s' hs hstep => ?_) hg
  · show g₀.reg.Inv ∧ g₀.reg.view 0 = none
    rw [lmkdInit_reg h₀]
    exact ⟨⟨_, wellFormed_initial⟩, rfl⟩
  · simp only [System.restrict] at hstep
    split at hstep
    · rename_i ha
      exact ⟨lmkdStep_inv hstep hs.1, lmkdStep_view_absent hs.1 ha hs.2 hstep⟩
    · cases hstep

/-- On every state lmkd reaches while /proc shows no pid 0 to the commands,
and whatever `reaper.kill` answers: the registry is well formed, and
`watchdog_callback` tries the records from score 1000 down to 0, each slot
from its tail, none twice, up to the first valid one whose kill succeeds;
it ends there, having invalidated that record and changed nothing else, and
when no kill succeeds it ends after every record of non-negative score with
the registry unchanged. -/
theorem lmkdSystem_watchdogScan {cfg : Config} {ienv : InitEnv} {g₀ : Globals}
    (h₀ : lmkdInit cfg ienv = some g₀) {g : Globals}
    (hg : ((lmkdSystem cfg g₀).restrict fun _ a => a.procAbsent 0 = true).Reachable g)
    (kill : Proc → Int) : ∃ slots, g.reg.WellFormed slots ∧ WatchdogScan g.reg slots kill := by
  obtain ⟨⟨slots, hw⟩, hnone⟩ := lmkdSystem_view_pidZero h₀ hg
  exact ⟨slots, hw, watchdogCallback_spec g.reg slots kill hw (hw.view_eq_none_iff.mp hnone)⟩

set_option maxRecDepth 100000 in
/-- After client 1 registers apps 100 and 101 on a /proc that holds only
them, the watchdog kills app 100, the record at score 1000, first. -/
theorem lmkdSystem_watchdogScan_twoApps :
    ∃ g₀ g, lmkdInit exampleConfig exampleInitEnv = some g₀ ∧
      ((lmkdSystem exampleConfig g₀).restrict fun _ a => a.procAbsent 0 = true).Reachable g ∧
      (∃ slots, g.reg.WellFormed slots ∧ WatchdogScan g.reg slots fun _ => 0) ∧
      (watchdogCallback g.reg fun _ => 0).2.1.map (fun a => (g.reg.procs a).pid) = [100] := by
  have hrun : ((lmkdInit exampleConfig exampleInitEnv).bind fun g₀ =>
      ((lmkdSystem exampleConfig g₀).runFrom g₀ registerTwoApps).map fun g =>
        (watchdogCallback g.reg fun _ => 0).2.1.map (fun a => (g.reg.procs a).pid)) = some [100] := by
    decide +kernel
  obtain ⟨g₀, h₀, h⟩ := Option.bind_eq_some_iff.mp hrun
  obtain ⟨g, hrun', hobs⟩ := Option.map_eq_some_iff.mp h
  have hok : ∀ a ∈ registerTwoApps, a.procAbsent 0 = true := by decide
  have hg : ((lmkdSystem exampleConfig g₀).restrict fun _ a => a.procAbsent 0 = true).Reachable g := by
    apply System.reachable_of_run
    rw [System.run, System.runFrom_restrict _ _ _ fun a ha _ => hok a ha]
    exact hrun'
  exact ⟨g₀, g, h₀, hg, lmkdSystem_watchdogScan h₀ hg _, hobs⟩

end Lmkd
