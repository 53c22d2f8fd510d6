import Lmkd.Kill

/-!
# `mp_event_psi`

The pressure handler as far as it decides whether to kill and how to poll:
the check for a kill in progress, the end of a finished wait, the jump back
to `update_watermarks` before the first kill, the call of
`find_and_kill_process`, and the polling update after `no_kill`.  Also
`check_cont_lmkd_events`, which `mainloop` runs before the medium and
critical handlers.

What the handler reads from `/proc` and concludes from it is a `PsiSample`:
whether each file parses, the reclaim state, whether the system is idle, and
for each pass from `update_watermarks` the kill decision, as the
`min_score_adj` of a kill reason when there is one.  The decision chain is
the subject of `Lmkd.Psi.Decision`, which makes these passes
(`decisionPasses`); the thrashing estimate is in `Lmkd.Psi.Thrashing`, and
the zone watermarks in `Lmkd.Watermarks`.
-/

namespace Lmkd

inductive Reclaim where
  | noReclaim
  | kswapdReclaim
  | directReclaim
  | directReclaimThrottle
deriving DecidableEq, Repr

/-- What one pass from `update_watermarks` finds. -/
structure PsiPass where
  zoneinfoOk : Bool
  /-- `min_score_adj` when the decision chain sets a kill reason -/
  kill : Option Int32
  /-- `critical_stall` after the pass -/
  criticalStall : Bool

/-- What `mp_event_psi` reads and decides. -/
structure PsiSample where
  /-- `clock_gettime` -/
  now : Option Timespec
  vmstatOk : Bool
  meminfoOk : Bool
  reclaim : Reclaim
  /-- no new refaults and no compaction, read when there is no reclaim -/
  idle : Bool
  swapIsLow : Bool
  pass : PsiPass
  /-- the pass after the jump back before the first kill; a pass that sets no
  reason keeps the first pass's reason and score -/
  firstKillPass : PsiPass

def psiPollPeriodShortMs : Int := 10

def psiPollPeriodLongMs : Int := 100

/-- The code after the label `no_kill`: pause polling while waiting for a
death notification, otherwise start, extend or upgrade it, and pick the
interval. -/
def mpEventPsiNoKill (cfg : Config) (level : Nat) (events : UInt32) (swapIsLow : Bool)
    (reclaim : Reclaim) (g : Globals) : Globals :=
  if isWaitingForKill cfg g then { g with poll := { g.poll with update := .pause } }
  else
    let g :=
      if events ≠ 0 ∨ g.killing ∨ reclaim = .directReclaim ∨ reclaim = .directReclaimThrottle then
        if cfg.psiContEventThresh ≤ g.countUpgradedEvent then
          { g with poll := { g.poll with update := .critUpgrade }, countUpgradedEvent := 0 }
        else if g.poll.pollHandler.all fun h => h.data ≤ (level : Int) then
          { g with poll := { g.poll with update := .start } }
        else g
      else g
    let interval :=
      if swapIsLow ∨ g.killing then psiPollPeriodShortMs
      else if level = vmpressLevelSuperCritical then cfg.psiPollPeriodScritMs
      else psiPollPeriodLongMs
    { g with poll := { g.poll with pollingIntervalMs := interval } }

/-- A pass from `update_watermarks` up to the decision: `none` when
`zoneinfo` does not parse and the handler returns. -/
def watermarkPass (level : Nat) (reclaim : Reclaim) (pass : PsiPass) (g : Globals) :
    Option Globals :=
  if !pass.zoneinfoOk then none
  else if level < vmpressLevelCritical ∧
      (reclaim = .directReclaim ∨ reclaim = .directReclaimThrottle) then
    some { g with lastEventUpgraded := true }
  else some g

def mpEventPsiKill (cfg : Config) (kenv : KillEnv) (currTm : Timespec) (minScoreAdj : Int32)
    (criticalStall : Bool) (g : Globals) : Globals :=
  let minScoreAdj := if criticalStall then 0 else minScoreAdj
  let killed := findAndKillProcess cfg { kenv with now := currTm } g minScoreAdj
  if killed.2 > 0 then { killed.1 with killing := true } else killed.1

def mpEventPsiDecide (cfg : Config) (kenv : KillEnv) (level : Nat) (events : UInt32)
    (sample : PsiSample) (currTm : Timespec) (g : Globals) : Globals :=
  match sample.pass.kill with
  | none => mpEventPsiNoKill cfg level events sample.swapIsLow sample.reclaim g
  | some minScoreAdj =>
    if g.firstKill then
      match watermarkPass level sample.reclaim sample.firstKillPass { g with firstKill := false } with
      | none => { g with firstKill := false }
      | some g =>
        mpEventPsiNoKill cfg level events sample.swapIsLow sample.reclaim
          (mpEventPsiKill cfg kenv currTm (sample.firstKillPass.kill.getD minScoreAdj)
            sample.firstKillPass.criticalStall g)
    else
      mpEventPsiNoKill cfg level events sample.swapIsLow sample.reclaim
        (mpEventPsiKill cfg kenv currTm minScoreAdj sample.pass.criticalStall g)

/-- `mp_event_psi(level, events, poll_params)`; `kenv` is what the kill path
reads. -/
def mpEventPsi (cfg : Config) (kenv : KillEnv) (level : Nat) (events : UInt32)
    (sample : PsiSample) (g : Globals) : Globals :=
  match sample.now with
  | none => g
  | some currTm =>
    let killPending := isKillPending cfg kenv g
    if killPending ∧ (cfg.killTimeoutMs = 0 ∨ getTimeDiffMs g.lastKillTm currTm < cfg.killTimeoutMs)
    then mpEventPsiNoKill cfg level events false .noReclaim g
    else
      let g := stopWaitForProcKill cfg g !killPending
      if !sample.vmstatOk ∨ !sample.meminfoOk then g
      else
        -- the reset after a kill; what it resets feeds the decision, which the sample carries
        let g := { g with killing := false }
        if sample.reclaim = .noReclaim ∧ sample.idle then
          mpEventPsiNoKill cfg level events sample.swapIsLow .noReclaim g
        else
          match watermarkPass level sample.reclaim sample.pass g with
          | none => g
          | some g => mpEventPsiDecide cfg kenv level events sample currTm g

/-- `check_cont_lmkd_events(lvl)` at time `now`: count the upgraded events
of a run of medium or critical events. -/
def checkContLmkdEvents (cfg : Config) (lvl : Nat) (now : Timespec) (g : Globals) : Globals :=
  let prev := if lvl = vmpressLevelMedium then g.tmed else g.tcrit
  let g := if lvl = vmpressLevelMedium then { g with tmed := now } else { g with tcrit := now }
  -- `(psi_window_size_ms * 3) >> 1`, the floor of the division by 2
  if getTimeDiffMs prev now < cfg.psiWindowSizeMs * 3 / 2 then
    if getTimeDiffMs g.tupgrad now > cfg.psiWindowSizeMs then
      if g.lastEventUpgraded then
        { g with countUpgradedEvent := g.countUpgradedEvent + 1, lastEventUpgraded := false,
                 tupgrad := now }
      else { g with countUpgradedEvent := 0 }
    else g
  else { g with countUpgradedEvent := 0 }

/-! ## The pressure handler keeps the registry consistent -/

@[simp] theorem mpEventPsiNoKill_reg (cfg : Config) (level : Nat) (events : UInt32)
    (swapIsLow : Bool) (reclaim : Reclaim) (g : Globals) :
    (mpEventPsiNoKill cfg level events swapIsLow reclaim g).reg = g.reg := by
  simp only [mpEventPsiNoKill]
  split
  · rfl
  · split
    · split
      · rfl
      · split <;> rfl
    · rfl

theorem watermarkPass_reg {level : Nat} {reclaim : Reclaim} {pass : PsiPass} {g g' : Globals}
    (h : watermarkPass level reclaim pass g = some g') : g'.reg = g.reg := by
  unfold watermarkPass at h
  split at h
  · cases h
  · split at h <;> (cases h; rfl)

theorem mpEventPsiKill_inv {g : Globals} (hi : g.reg.Inv) (cfg : Config) (kenv : KillEnv)
    (currTm : Timespec) (minScoreAdj : Int32) (criticalStall : Bool) :
    (mpEventPsiKill cfg kenv currTm minScoreAdj criticalStall g).reg.Inv := by
  have hkill := findAndKillProcess_inv hi cfg { kenv with now := currTm }
    (if criticalStall then 0 else minScoreAdj)
  simp only [mpEventPsiKill, apply_ite Globals.reg, ite_self]
  exact hkill

theorem mpEventPsiDecide_inv {g : Globals} (hi : g.reg.Inv) (cfg : Config) (kenv : KillEnv)
    (level : Nat) (events : UInt32) (sample : PsiSample) (currTm : Timespec) :
    (mpEventPsiDecide cfg kenv level events sample currTm g).reg.Inv := by
  unfold mpEventPsiDecide
  split
  · simpa using hi
  · split
    · split
      · exact hi
      · rename_i g' hpass
        have hg' : g'.reg.Inv := (watermarkPass_reg hpass).symm ▸ hi
        simpa using mpEventPsiKill_inv hg' cfg kenv currTm _ _
    · simpa using mpEventPsiKill_inv hi cfg kenv currTm _ _

theorem mpEventPsi_inv {g : Globals} (hi : g.reg.Inv) (cfg : Config) (kenv : KillEnv)
    (level : Nat) (events : UInt32) (sample : PsiSample) :
    (mpEventPsi cfg kenv level events sample g).reg.Inv := by
  simp only [mpEventPsi]
  split
  · exact hi
  · split
    · simpa using hi
    · split
      · simpa using hi
      · split
        · simpa using hi
        · split
          · simpa using hi
          · rename_i g' hpass
            apply mpEventPsiDecide_inv
            simpa [watermarkPass_reg hpass] using hi

@[simp] theorem checkContLmkdEvents_reg (cfg : Config) (lvl : Nat) (now : Timespec) (g : Globals) :
    (checkContLmkdEvents cfg lvl now g).reg = g.reg := by
  simp only [checkContLmkdEvents]
  split_ifs <;> rfl

end Lmkd
