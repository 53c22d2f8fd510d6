import Lmkd.System.Registry
import Mathlib

/-!
# Kills and the kill wait over runs

`mp_event_psi` kills only when no earlier kill is pending or the pending
one timed out (`mpEventPsi_kill_guard`).  That guard is checked once per
handler call, while `find_and_kill_process` goes on to the next slot after
every kill that reports 0 freed pages: a victim whose `VmRSS` is below one
page is killed, and the next victim is killed in the same call, at the same
instant, before the first death can be noticed.  `start_wait_for_proc_kill`
drops the first wait to start the second.

The kill path also closes a pidfd twice when the reaper fails:
`stop_wait_for_proc_kill` closes the descriptor of the wait it ends and
resets `last_kill_pid_or_fd`, so the `pid_remove` that follows no longer
sees the descriptor as the wait's and closes it again.

Both runs start from a successful start-up, register two apps through a
data connection and then deliver one critical PSI event.
-/

namespace Lmkd

open Transition

/-! ## What leaves the kill log alone -/

@[simp] theorem mpEventPsiNoKill_kills (cfg : Config) (level : Nat) (events : UInt32)
    (swapIsLow : Bool) (reclaim : Reclaim) (g : Globals) :
    (mpEventPsiNoKill cfg level events swapIsLow reclaim g).kills = g.kills := by
  simp only [mpEventPsiNoKill]
  split
  · rfl
  · split
    · split
      · rfl
      · split <;> rfl
    · rfl

theorem mpEventPsi_kill_guard {cfg : Config} {kenv : KillEnv} {level : Nat} {events : UInt32}
    {sample : PsiSample} {g : Globals} (h : (mpEventPsi cfg kenv level events sample g).kills ≠ g.kills) :
    ∃ currTm, sample.now = some currTm ∧ (isKillPending cfg kenv g = true →
      cfg.killTimeoutMs ≠ 0 ∧ (cfg.killTimeoutMs : Int) ≤ getTimeDiffMs g.lastKillTm currTm) := by
  cases hnow : sample.now with
  | none => simp [mpEventPsi, hnow] at h
  | some currTm =>
    refine ⟨currTm, rfl, fun hpending => ?_⟩
    by_contra hlate
    have hguard : isKillPending cfg kenv g = true ∧
        (cfg.killTimeoutMs = 0 ∨ getTimeDiffMs g.lastKillTm currTm < cfg.killTimeoutMs) := by
      refine ⟨hpending, ?_⟩
      omega
    apply h
    simp only [mpEventPsi, hnow]
    rw [if_pos hguard, mpEventPsiNoKill_kills]

/-! ## A critical event after two registrations -/

def criticalPsiSample : PsiSample :=
  ⟨some ⟨20, 0⟩, true, true, .directReclaim, false, false, ⟨true, some 999, false⟩,
    ⟨true, some 999, false⟩⟩

def criticalPsiEvent (kenv : KillEnv) : Action :=
  .event (.vmpressure vmpressLevelCritical) 0 ⟨20, 0⟩
    { idleCallEnv with psi := criticalPsiSample, kill := kenv }

theorem exists_run_step {cfg : Config} {ienv : InitEnv} {acts : List Action} {a : Action}
    {β : Type} {f : Globals → Globals → β} {b : β}
    (h : ((lmkdInit cfg ienv).bind fun g₀ => ((lmkdSystem cfg g₀).runFrom g₀ acts).bind fun g =>
      (lmkdStep cfg g a).map (f g)) = some b) :
    ∃ g₀ g g', lmkdInit cfg ienv = some g₀ ∧ (lmkdSystem cfg g₀).Reachable g ∧
      lmkdStep cfg g a = some g' ∧ f g g' = b := by
  obtain ⟨g₀, h₀, h⟩ := Option.bind_eq_some_iff.mp h
  obtain ⟨g, hrun, h⟩ := Option.bind_eq_some_iff.mp h
  obtain ⟨g', hstep, hf⟩ := Option.map_eq_some_iff.mp h
  exact ⟨g₀, g, g', h₀, (lmkdSystem cfg g₀).reachable_of_run hrun, hstep, hf⟩

/-- One critical PSI event kills app 100 and then app 101, both at 20 s: the
first kill frees `0 / page_k` pages, which `find_and_kill_process` reads as
no kill, so it goes on to score 999 while the first kill is pending (no
notification can run inside the call, and 0 ms is below the 100 ms
timeout). -/
theorem psiEvent_kills_twice :
    ∃ g₀ g g', lmkdInit exampleConfig exampleInitEnv = some g₀ ∧
      (lmkdSystem exampleConfig g₀).Reachable g ∧
      lmkdStep exampleConfig g (criticalPsiEvent (appsKillEnv 0 true)) = some g' ∧
      g'.kills = (101, ⟨20, 0⟩) :: (100, ⟨20, 0⟩) :: g.kills ∧
      getTimeDiffMs ⟨20, 0⟩ ⟨20, 0⟩ < exampleConfig.killTimeoutMs := by
  have hrun : ((lmkdInit exampleConfig exampleInitEnv).bind fun g₀ =>
      ((lmkdSystem exampleConfig g₀).runFrom g₀ registerTwoApps).bind fun g =>
        (lmkdStep exampleConfig g (criticalPsiEvent (appsKillEnv 0 true))).map
          fun g' => (g.kills, g'.kills)) = some ([], [(101, ⟨20, 0⟩), (100, ⟨20, 0⟩)]) := by
    decide +kernel
  obtain ⟨g₀, g, g', h₀, hg, hstep, hkills⟩ := exists_run_step hrun
  rw [Prod.mk.injEq] at hkills
  refine ⟨g₀, g, g', h₀, hg, hstep, ?_, by decide⟩
  rw [hkills.1, hkills.2]

/-! ## A failed kill closes the victim's pidfd twice -/

/-- With the reaper failing, app 100's pidfd 30, opened once at
registration, is closed twice by the critical event: by
`stop_wait_for_proc_kill` and then by `pid_remove`. -/
theorem failedKill_closes_pidfd_twice :
    ∃ g₀ g g', lmkdInit exampleConfig exampleInitEnv = some g₀ ∧
      (lmkdSystem exampleConfig g₀).Reachable g ∧
      lmkdStep exampleConfig g (criticalPsiEvent (appsKillEnv 0 false)) = some g' ∧
      g'.fdLog.count (.pidfdOpen 30) = 1 ∧ g'.fdLog.count (.close 30) = 2 := by
  have hrun : ((lmkdInit exampleConfig exampleInitEnv).bind fun g₀ =>
      ((lmkdSystem exampleConfig g₀).runFrom g₀ registerTwoApps).bind fun g =>
        (lmkdStep exampleConfig g (criticalPsiEvent (appsKillEnv 0 false))).map
          fun g' => (g'.fdLog.count (.pidfdOpen 30), g'.fdLog.count (.close 30))) =
      some (1, 2) := by
    decide +kernel
  obtain ⟨g₀, g, g', h₀, hg, hstep, hcount⟩ := exists_run_step hrun
  rw [Prod.mk.injEq] at hcount
  exact ⟨g₀, g, g', h₀, hg, hstep, hcount.1, hcount.2⟩

end Lmkd
