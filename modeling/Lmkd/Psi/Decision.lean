import Lmkd.Psi
import Lmkd.Monitors

/-!
# The kill decision of `mp_event_psi`

After `update_watermarks`, a chain of `if`s picks a kill reason and the
lowest `oom_score_adj` to kill (`killDecisionChain`), and a cached app is
killed when no reason is set and a watermark is breached
(`killDecisionCachedApp`).  Before the first kill, `goto update_watermarks`
runs both again at the recomputed watermark, on the locals the first pass
left (`mpEventPsiKillDecision`).

Every branch of the chain sets a reason, and only the check for a cached app
tests for `NONE`: the second pass never clears the first pass's reason, and
a branch that does not set `min_score_adj` keeps the first pass's score.

The watermark of a pass is what `get_lowest_watermark` returns, and
`critical_stall` what `psi_parse_mem` gives; both are inputs of the pass
(`PassReading`).  A second pass whose `zoneinfo` does not parse returns
before the decision, as `watermarkPass` models.
-/

namespace Lmkd

/-- `enum zone_watermark`. -/
inductive ZoneWatermark where
  | wmarkMin
  | wmarkLow
  | wmarkHigh
  | wmarkNone
deriving DecidableEq, Repr

def ZoneWatermark.toNat : ZoneWatermark → Nat
  | .wmarkMin => 0
  | .wmarkLow => 1
  | .wmarkHigh => 2
  | .wmarkNone => 3

/-- The chain compares watermarks by their values in the enum. -/
instance : LT ZoneWatermark := ⟨fun a b => a.toNat < b.toNat⟩

instance : LE ZoneWatermark := ⟨fun a b => a.toNat ≤ b.toNat⟩

instance (a b : ZoneWatermark) : Decidable (a < b) := inferInstanceAs (Decidable (a.toNat < b.toNat))

instance (a b : ZoneWatermark) : Decidable (a ≤ b) := inferInstanceAs (Decidable (a.toNat ≤ b.toNat))

theorem ZoneWatermark.le_iff_toNat (a b : ZoneWatermark) : a ≤ b ↔ a.toNat ≤ b.toNat := Iff.rfl

theorem ZoneWatermark.lt_iff_toNat (a b : ZoneWatermark) : a < b ↔ a.toNat < b.toNat := Iff.rfl

/-- `enum kill_reasons`, with `NONE = -1`. -/
inductive KillReason where
  | none
  | pressureAfterKill
  | notResponding
  | lowSwapAndThrashing
  | lowMemAndSwap
  | lowMemAndThrashing
  | directReclAndThrashing
  | lowMemAndSwapUtil
  | lowFilecacheAfterThrashing
  | lowMem
  | compaction
  | directReclAndThrot
  | directReclAndLowMem
  | directReclStuck
deriving DecidableEq, Repr

/-- `CRITICAL_KILL = NOT_RESPONDING`. -/
def KillReason.criticalKill : KillReason := .notResponding

def visibleAppAdj : Int32 := 100

def perceptibleRecentForegroundAppAdj : Int32 := 50

def int32Max (a b : Int32) : Int32 := if a < b then b else a

/-- `clamp(low, high, value)`. -/
def clamp (low high value : Int32) : Int32 := int32Max (if high < value then high else value) low

theorem le_int32Max_left (a b : Int32) : a ≤ int32Max a b := by
  unfold int32Max
  split
  · exact Int32.le_of_lt ‹a < b›
  · exact Int32.le_refl a

/-- What the decision reads of the properties, as `update_props` leaves it:
`lowmem_min_oom_score` is never below `PERCEPTIBLE_APP_ADJ + 1`. -/
structure DecisionProps where
  pressureAfterKillMinScore : Int32
  thrashingLimitPct : Int32
  thrashingCriticalPct : Int32
  swapUtilMax : Int32
  directReclaimThresholdMs : Int32
  filecacheMinKb : Int64
  lowmemMinOomScore : Int32
  lowmemMinOomScore_ge : perceptibleAppAdj + 1 ≤ lowmemMinOomScore

/-- The decision's part of `update_props`, from the values `GET_LMK_PROPERTY`
returns; `direct_reclaim_threshold_ms` is read as an `int64` into an `int`. -/
def updateDecisionProps (pressureAfterKillMinScore thrashingLimit thrashingLimitCritical
    swapUtilMax : Int32) (directReclaimThresholdMs filecacheMinKb : Int64)
    (lowmemMinOomScore : Int32) : DecisionProps where
  pressureAfterKillMinScore := pressureAfterKillMinScore
  thrashingLimitPct := int32Max 0 thrashingLimit
  thrashingCriticalPct := int32Max 0 thrashingLimitCritical
  swapUtilMax := clamp 0 100 swapUtilMax
  directReclaimThresholdMs := directReclaimThresholdMs.toInt32
  filecacheMinKb := filecacheMinKb
  lowmemMinOomScore := int32Max (perceptibleAppAdj + 1) lowmemMinOomScore
  lowmemMinOomScore_ge := le_int32Max_left _ _

/-- The locals the decision writes, with the static `check_filecache`. -/
structure KillDecision where
  killReason : KillReason
  minScoreAdj : Int32
  cutThrashingLimit : Bool
  checkFilecache : Bool
deriving DecidableEq, Repr

/-- `kill_reason = NONE`, `min_score_adj = 0`, `cut_thrashing_limit = false`. -/
def KillDecision.init (checkFilecache : Bool) : KillDecision := ⟨.none, 0, false, checkFilecache⟩

structure DecisionInputs where
  cycleAfterKill : Bool
  reclaim : Reclaim
  level : Nat
  events : UInt32
  swapIsLow : Bool
  thrashing : Int64
  /-- the static `thrashing_limit` -/
  thrashingLimit : Int32
  /-- `calc_swap_utilization(&mi)` -/
  swapUtil : Int32
  directReclaimDurationMs : Int64
  /-- `(vs.field.nr_inactive_file + vs.field.nr_active_file) * page_k` -/
  fileLruKb : Int64
  inCompaction : Bool

/-- The chain of `if`s that picks the kill reason, on the locals `d`. -/
def killDecisionChain (props : DecisionProps) (inp : DecisionInputs) (wmark : ZoneWatermark)
    (d : KillDecision) : KillDecision :=
  if inp.cycleAfterKill ∧ wmark ≤ .wmarkLow then
    -- the configured score is overwritten at once
    let d := { d with minScoreAdj := props.pressureAfterKillMinScore, killReason := .pressureAfterKill }
    let d := { d with minScoreAdj := perceptibleRecentForegroundAppAdj }
    if wmark > .wmarkMin then { d with minScoreAdj := visibleAppAdj } else d
  else if inp.reclaim = .directReclaimThrottle then
    { d with killReason := .directReclAndThrot }
  else if inp.level = vmpressLevelCritical ∧ (inp.events ≠ 0 ∧ wmark ≤ .wmarkHigh) then
    { d with killReason := .criticalKill, minScoreAdj := perceptibleRecentForegroundAppAdj }
  else if inp.level = vmpressLevelSuperCritical ∧ (inp.events ≠ 0 ∧ wmark ≤ .wmarkHigh) then
    { d with killReason := .notResponding }
  else if inp.swapIsLow ∧ inp.thrashing.toInt > props.thrashingLimitPct.toInt then
    let d := { d with killReason := .lowSwapAndThrashing }
    let d :=
      if wmark > .wmarkMin ∧ inp.thrashing.toInt < props.thrashingCriticalPct.toInt then
        { d with minScoreAdj := perceptibleAppAdj + 1 }
      else d
    { d with checkFilecache := true }
  else if inp.swapIsLow ∧ wmark ≤ .wmarkHigh then
    let d := { d with killReason := .lowMemAndSwap }
    if wmark > .wmarkMin ∧ inp.thrashing.toInt < props.thrashingCriticalPct.toInt then
      { d with minScoreAdj := perceptibleAppAdj + 1 }
    else d
  else if wmark < .wmarkHigh ∧ props.swapUtilMax < 100 ∧ inp.swapUtil > props.swapUtilMax then
    { d with killReason := .lowMemAndSwapUtil }
  else if wmark ≤ .wmarkHigh ∧ inp.thrashing.toInt > inp.thrashingLimit.toInt then
    { d with killReason := .lowMemAndThrashing, cutThrashingLimit := true,
             minScoreAdj := visibleAppAdj, checkFilecache := true }
  else if inp.reclaim = .directReclaim ∧ inp.thrashing.toInt > inp.thrashingLimit.toInt then
    { d with killReason := .directReclAndThrashing, cutThrashingLimit := true,
             minScoreAdj := perceptibleAppAdj + 1, checkFilecache := true }
  else if inp.reclaim = .directReclaim ∧ props.directReclaimThresholdMs > 0 ∧
      inp.directReclaimDurationMs.toInt > props.directReclaimThresholdMs.toInt then
    { d with killReason := .directReclStuck }
  else if d.checkFilecache then
    if inp.fileLruKb < props.filecacheMinKb then
      { d with killReason := .lowFilecacheAfterThrashing, minScoreAdj := perceptibleAppAdj + 1 }
    else
      -- the file cache is big enough: stop checking
      { d with checkFilecache := false }
  else if inp.inCompaction ∧ wmark ≤ .wmarkHigh then
    { d with killReason := .compaction, minScoreAdj := visibleAppAdj }
  else d

/-- The check for a cached app after the chain. -/
def killDecisionCachedApp (props : DecisionProps) (wmark : ZoneWatermark) (d : KillDecision) :
    KillDecision :=
  if d.killReason = .none ∧ wmark < .wmarkHigh then
    { d with killReason := .lowMem, minScoreAdj := props.lowmemMinOomScore }
  else d

def killDecision (props : DecisionProps) (inp : DecisionInputs) (wmark : ZoneWatermark)
    (d : KillDecision) : KillDecision :=
  killDecisionCachedApp props wmark (killDecisionChain props inp wmark d)

/-- What a pass from `update_watermarks` reads: the watermark, and
`critical_stall`. -/
structure PassReading where
  wmark : ZoneWatermark
  criticalStall : Bool

/-- What the kill is made with: the reason, the `min_score_adj` handed to
`find_and_kill_process`, and whether the thrashing limit is cut after it. -/
structure KillRequest where
  killReason : KillReason
  minScoreAdj : Int32
  cutThrashingLimit : Bool
deriving DecidableEq, Repr

def KillDecision.request (d : KillDecision) (criticalStall : Bool) : KillRequest :=
  ⟨d.killReason, if criticalStall then 0 else d.minScoreAdj, d.cutThrashingLimit⟩

/-- From the first pass to `find_and_kill_process`, with the statics
`first_kill` and `check_filecache`: the kill if a reason is set, and the two
statics after. -/
def mpEventPsiKillDecision (props : DecisionProps) (inp : DecisionInputs)
    (firstKill checkFilecache : Bool) (pass again : PassReading) : Option KillRequest × Bool × Bool :=
  let d := killDecision props inp pass.wmark (.init checkFilecache)
  if d.killReason = .none then (none, firstKill, d.checkFilecache)
  else if firstKill then
    -- `goto update_watermarks` with the locals of the first pass
    let d := killDecision props inp again.wmark d
    if d.killReason = .none then (none, false, d.checkFilecache)
    else (some (d.request again.criticalStall), false, d.checkFilecache)
  else (some (d.request pass.criticalStall), firstKill, d.checkFilecache)

/-! ## What one pass can do -/

section Pass

variable (props : DecisionProps) (inp : DecisionInputs) (wmark : ZoneWatermark)

theorem killDecisionChain_cases {d d' : KillDecision} (h : killDecisionChain props inp wmark d = d') :
    (d'.killReason = d.killReason ∧ d'.minScoreAdj = d.minScoreAdj) ∨
    (d'.killReason = .pressureAfterKill ∧
      (d'.minScoreAdj = perceptibleRecentForegroundAppAdj ∨ d'.minScoreAdj = visibleAppAdj)) ∨
    ((d'.killReason = .lowSwapAndThrashing ∨ d'.killReason = .lowMemAndSwap) ∧
      d'.minScoreAdj =
        if wmark > .wmarkMin ∧ inp.thrashing.toInt < props.thrashingCriticalPct.toInt then
          perceptibleAppAdj + 1
        else d.minScoreAdj) ∨
    ((d'.killReason = .directReclAndThrot ∨ d'.killReason = .notResponding ∨
        d'.killReason = .lowMemAndSwapUtil ∨ d'.killReason = .directReclStuck) ∧
      d'.minScoreAdj = d.minScoreAdj) ∨
    ((d'.killReason = .notResponding ∨ d'.killReason = .lowMemAndThrashing ∨
        d'.killReason = .directReclAndThrashing ∨ d'.killReason = .lowFilecacheAfterThrashing ∨
        d'.killReason = .compaction) ∧
      (d'.minScoreAdj = perceptibleRecentForegroundAppAdj ∨ d'.minScoreAdj = visibleAppAdj ∨
        d'.minScoreAdj = perceptibleAppAdj + 1)) := by
  subst h
  fun_cases killDecisionChain props inp wmark d <;>
    simp +zetaDelta [KillReason.criticalKill, apply_ite KillDecision.killReason,
      apply_ite KillDecision.minScoreAdj, *]

theorem killDecisionCachedApp_cases {d d' : KillDecision} (h : killDecisionCachedApp props wmark d = d') :
    d' = d ∨ (d.killReason = .none ∧ d'.killReason = .lowMem ∧
      d'.minScoreAdj = props.lowmemMinOomScore) := by
  subst h
  unfold killDecisionCachedApp
  split
  · exact .inr ⟨‹_ ∧ _›.1, rfl, rfl⟩
  · exact .inl rfl

theorem killDecisionChain_reason_ne_none {d : KillDecision} (hd : d.killReason ≠ .none) :
    (killDecisionChain props inp wmark d).killReason ≠ .none := by
  rcases killDecisionChain_cases props inp wmark (d := d) rfl with
    ⟨h, -⟩ | ⟨h, -⟩ | ⟨h | h, -⟩ | ⟨h | h | h | h, -⟩ | ⟨h | h | h | h | h, -⟩ <;> simp [h, hd]

theorem killDecision_reason_ne_none {d : KillDecision} (hd : d.killReason ≠ .none) :
    (killDecision props inp wmark d).killReason ≠ .none := by
  have hchain := killDecisionChain_reason_ne_none props inp wmark hd
  rcases killDecisionCachedApp_cases props wmark (d := killDecisionChain props inp wmark d) rfl with
    h | ⟨hnone, -⟩
  · rw [killDecision, h]
    exact hchain
  · exact absurd hnone hchain

end Pass

/-! ## The scores the decision hands on -/

structure KillFloors (props : DecisionProps) (d : KillDecision) : Prop where
  lowMem : d.killReason = .lowMem → d.minScoreAdj = props.lowmemMinOomScore
  pressureAfterKill : d.killReason = .pressureAfterKill →
    d.minScoreAdj = perceptibleRecentForegroundAppAdj ∨ d.minScoreAdj = visibleAppAdj

section Floors

variable {props : DecisionProps} (inp : DecisionInputs) (wmark : ZoneWatermark)

theorem KillFloors.of_reason {d : KillDecision} (hlow : d.killReason ≠ .lowMem)
    (hafter : d.killReason ≠ .pressureAfterKill) : KillFloors props d :=
  ⟨fun h => absurd h hlow, fun h => absurd h hafter⟩

theorem killFloors_init (checkFilecache : Bool) : KillFloors props (.init checkFilecache) :=
  .of_reason (by simp [KillDecision.init]) (by simp [KillDecision.init])

theorem KillFloors.chain {d : KillDecision} (hd : KillFloors props d) :
    KillFloors props (killDecisionChain props inp wmark d) := by
  rcases killDecisionChain_cases props inp wmark (d := d) rfl with
    ⟨hr, hs⟩ | ⟨hr, hs⟩ | ⟨hr | hr, -⟩ | ⟨hr | hr | hr | hr, -⟩ | ⟨hr | hr | hr | hr | hr, -⟩
  · -- the reason and the score the pass started from
    refine ⟨fun h => ?_, fun h => ?_⟩
    · rw [hs]
      exact hd.lowMem (hr ▸ h)
    · rw [hs]
      exact hd.pressureAfterKill (hr ▸ h)
  · exact ⟨fun h => absurd (hr.symm.trans h) (by decide), fun _ => hs⟩
  all_goals exact .of_reason (by rw [hr]; decide) (by rw [hr]; decide)

theorem KillFloors.cachedApp {d : KillDecision} (hd : KillFloors props d) :
    KillFloors props (killDecisionCachedApp props wmark d) := by
  rcases killDecisionCachedApp_cases props wmark (d := d) rfl with h | ⟨-, hr, hs⟩
  · rw [h]
    exact hd
  · exact ⟨fun _ => hs, fun h => absurd (hr.symm.trans h) (by decide)⟩

theorem KillFloors.killDecision {d : KillDecision} (hd : KillFloors props d) :
    KillFloors props (killDecision props inp wmark d) :=
  (hd.chain inp wmark).cachedApp wmark

end Floors

@[simp] theorem KillDecision.request_noStall (d : KillDecision) :
    d.request false = ⟨d.killReason, d.minScoreAdj, d.cutThrashingLimit⟩ := rfl

theorem mpEventPsiKillDecision_request {props : DecisionProps} {inp : DecisionInputs}
    {firstKill checkFilecache : Bool} {pass again : PassReading} {req : KillRequest}
    (P : KillDecision → Prop) (hinit : P (.init checkFilecache))
    (hpass : ∀ d, P d → P (killDecision props inp pass.wmark d))
    (hagain : firstKill = true → ∀ d, P d → P (killDecision props inp again.wmark d))
    (h : (mpEventPsiKillDecision props inp firstKill checkFilecache pass again).1 = some req) :
    ∃ d, P d ∧ d.killReason ≠ .none ∧
      (req = d.request pass.criticalStall ∨ req = d.request again.criticalStall) := by
  have h₁ := hpass _ hinit
  unfold mpEventPsiKillDecision at h
  dsimp only at h
  split at h
  · cases h
  · rename_i hfirst
    split at h
    · have h₂ := hagain ‹_› _ h₁
      split at h
      · cases h
      · cases h
        exact ⟨_, h₂, ‹_›, .inr rfl⟩
    · cases h
      exact ⟨_, h₁, hfirst, .inl rfl⟩

theorem mpEventPsiKillDecision_floors {props : DecisionProps} {inp : DecisionInputs}
    {firstKill checkFilecache : Bool} {pass again : PassReading} {req : KillRequest}
    (hstall : pass.criticalStall = false) (hstall' : again.criticalStall = false)
    (h : (mpEventPsiKillDecision props inp firstKill checkFilecache pass again).1 = some req) :
    (req.killReason = .lowMem →
      req.minScoreAdj = props.lowmemMinOomScore ∧ perceptibleAppAdj + 1 ≤ req.minScoreAdj) ∧
    (req.killReason = .pressureAfterKill →
      req.minScoreAdj = perceptibleRecentForegroundAppAdj ∨ req.minScoreAdj = visibleAppAdj) := by
  obtain ⟨d, hd, -, hreq⟩ := mpEventPsiKillDecision_request (KillFloors props)
    (killFloors_init checkFilecache) (fun _ hd => hd.killDecision inp pass.wmark)
    (fun _ _ hd => hd.killDecision inp again.wmark) h
  rw [hstall, hstall', or_self, KillDecision.request_noStall] at hreq
  subst hreq
  refine ⟨fun hr => ?_, hd.pressureAfterKill⟩
  have hs := hd.lowMem hr
  exact ⟨hs, hs ▸ props.lowmemMinOomScore_ge⟩

def SwapFloor (d : KillDecision) : Prop :=
  d.killReason = .lowSwapAndThrashing ∨ d.killReason = .lowMemAndSwap →
    d.minScoreAdj = perceptibleAppAdj + 1

theorem swapFloor_init (checkFilecache : Bool) : SwapFloor (.init checkFilecache) := by
  simp [SwapFloor, KillDecision.init]

section SwapFloor

variable {props : DecisionProps} {inp : DecisionInputs} {wmark : ZoneWatermark}
  (hwmark : .wmarkMin < wmark) (hthrashing : inp.thrashing.toInt < props.thrashingCriticalPct.toInt)
include hwmark hthrashing

theorem SwapFloor.chain {d : KillDecision} (hd : SwapFloor d) :
    SwapFloor (killDecisionChain props inp wmark d) := by
  intro hswap
  rcases killDecisionChain_cases props inp wmark (d := d) rfl with
    ⟨hr, hs⟩ | ⟨hr, -⟩ | ⟨-, hs⟩ | ⟨hr | hr | hr | hr, -⟩ | ⟨hr | hr | hr | hr | hr, -⟩
  · rw [hs]
    exact hd (hr ▸ hswap)
  · rw [hr] at hswap
    simp at hswap
  · -- a swap branch: the condition of its score holds
    rw [hs, if_pos ⟨hwmark, hthrashing⟩]
  all_goals rw [hr] at hswap; simp at hswap

theorem SwapFloor.killDecision {d : KillDecision} (hd : SwapFloor d) :
    SwapFloor (killDecision props inp wmark d) := by
  have hchain := hd.chain hwmark hthrashing
  rcases killDecisionCachedApp_cases props wmark (d := killDecisionChain props inp wmark d) rfl with
    h | ⟨-, hr, -⟩
  · rw [Lmkd.killDecision, h]
    exact hchain
  · intro hswap
    rw [Lmkd.killDecision, hr] at hswap
    simp at hswap

end SwapFloor

theorem mpEventPsiKillDecision_swapFloor {props : DecisionProps} {inp : DecisionInputs}
    {firstKill checkFilecache : Bool} {pass again : PassReading} {req : KillRequest}
    (hwmark : .wmarkMin < pass.wmark) (hwmark' : firstKill = true → .wmarkMin < again.wmark)
    (hthrashing : inp.thrashing.toInt < props.thrashingCriticalPct.toInt)
    (hstall : pass.criticalStall = false) (hstall' : again.criticalStall = false)
    (h : (mpEventPsiKillDecision props inp firstKill checkFilecache pass again).1 = some req)
    (hswap : req.killReason = .lowSwapAndThrashing ∨ req.killReason = .lowMemAndSwap) :
    req.minScoreAdj = perceptibleAppAdj + 1 := by
  obtain ⟨d, hd, -, hreq⟩ := mpEventPsiKillDecision_request SwapFloor
    (swapFloor_init checkFilecache) (fun _ hd => hd.killDecision hwmark hthrashing)
    (fun hfirst _ hd => hd.killDecision (hwmark' hfirst) hthrashing) h
  rw [hstall, hstall', or_self, KillDecision.request_noStall] at hreq
  subst hreq
  exact hd hswap

/-! ## The re-evaluation before the first kill -/

theorem mpEventPsiKillDecision_firstKill_kills (props : DecisionProps) (inp : DecisionInputs)
    (checkFilecache : Bool) (pass again : PassReading)
    (hreason : (killDecision props inp pass.wmark (.init checkFilecache)).killReason ≠ .none) :
    ∃ req, (mpEventPsiKillDecision props inp true checkFilecache pass again).1 = some req := by
  have hagain := killDecision_reason_ne_none props inp again.wmark hreason
  unfold mpEventPsiKillDecision
  dsimp only
  rw [if_neg hreason, if_pos rfl, if_neg hagain]
  exact ⟨_, rfl⟩

/-! ## A lower watermark

Every test of the chain and of the check for a cached app that reads the
watermark asks whether it is at or below a level, so a pass that sets a
reason at a watermark sets one at every lower watermark. -/

def ChainFires (props : DecisionProps) (inp : DecisionInputs) (wmark : ZoneWatermark)
    (d : KillDecision) : Prop :=
  (inp.cycleAfterKill ∧ wmark ≤ .wmarkLow) ∨ inp.reclaim = .directReclaimThrottle ∨
    (inp.level = vmpressLevelCritical ∧ (inp.events ≠ 0 ∧ wmark ≤ .wmarkHigh)) ∨
    (inp.level = vmpressLevelSuperCritical ∧ (inp.events ≠ 0 ∧ wmark ≤ .wmarkHigh)) ∨
    (inp.swapIsLow ∧ inp.thrashing.toInt > props.thrashingLimitPct.toInt) ∨
    (inp.swapIsLow ∧ wmark ≤ .wmarkHigh) ∨
    (wmark < .wmarkHigh ∧ props.swapUtilMax < 100 ∧ inp.swapUtil > props.swapUtilMax) ∨
    (wmark ≤ .wmarkHigh ∧ inp.thrashing.toInt > inp.thrashingLimit.toInt) ∨
    (inp.reclaim = .directReclaim ∧ inp.thrashing.toInt > inp.thrashingLimit.toInt) ∨
    (inp.reclaim = .directReclaim ∧ props.directReclaimThresholdMs > 0 ∧
      inp.directReclaimDurationMs.toInt > props.directReclaimThresholdMs.toInt) ∨
    (d.checkFilecache ∧ inp.fileLruKb < props.filecacheMinKb) ∨
    (d.checkFilecache = false ∧ inp.inCompaction ∧ wmark ≤ .wmarkHigh)

section Lower

variable (props : DecisionProps) (inp : DecisionInputs)

theorem killDecisionChain_reason_ne_none_iff (wmark : ZoneWatermark) {d : KillDecision}
    (hd : d.killReason = .none) :
    (killDecisionChain props inp wmark d).killReason ≠ .none ↔ ChainFires props inp wmark d := by
  fun_cases killDecisionChain props inp wmark d <;>
    simp_all +zetaDelta [ChainFires, KillReason.criticalKill, apply_ite KillDecision.killReason]

theorem ChainFires.of_le {wmark wmark' : ZoneWatermark} {d : KillDecision} (hle : wmark ≤ wmark')
    (h : ChainFires props inp wmark' d) : ChainFires props inp wmark d := by
  -- each test that reads the watermark is at or below a level
  have hle' : ∀ c : ZoneWatermark, wmark' ≤ c → wmark ≤ c := fun c h' => by
    rw [ZoneWatermark.le_iff_toNat] at *
    omega
  have hlt' : ∀ c : ZoneWatermark, wmark' < c → wmark < c := fun c h' => by
    rw [ZoneWatermark.le_iff_toNat] at hle
    rw [ZoneWatermark.lt_iff_toNat] at *
    omega
  rcases h with h | h | h | h | h | h | h | h | h | h | h | h
  · exact .inl ⟨h.1, hle' _ h.2⟩
  · exact .inr (.inl h)
  · exact .inr (.inr (.inl ⟨h.1, h.2.1, hle' _ h.2.2⟩))
  · exact .inr (.inr (.inr (.inl ⟨h.1, h.2.1, hle' _ h.2.2⟩)))
  · exact .inr (.inr (.inr (.inr (.inl h))))
  · exact .inr (.inr (.inr (.inr (.inr (.inl ⟨h.1, hle' _ h.2⟩)))))
  · exact .inr (.inr (.inr (.inr (.inr (.inr (.inl ⟨hlt' _ h.1, h.2⟩))))))
  · exact .inr (.inr (.inr (.inr (.inr (.inr (.inr (.inl ⟨hle' _ h.1, h.2⟩)))))))
  · exact .inr (.inr (.inr (.inr (.inr (.inr (.inr (.inr (.inl h))))))))
  · exact .inr (.inr (.inr (.inr (.inr (.inr (.inr (.inr (.inr (.inl h)))))))))
  · exact .inr (.inr (.inr (.inr (.inr (.inr (.inr (.inr (.inr (.inr (.inl h))))))))))
  · exact .inr (.inr (.inr (.inr (.inr (.inr (.inr (.inr (.inr (.inr (.inr
      ⟨h.1, h.2.1, hle' _ h.2.2⟩))))))))))

theorem killDecision_reason_ne_none_iff (wmark : ZoneWatermark) {d : KillDecision}
    (hd : d.killReason = .none) :
    (killDecision props inp wmark d).killReason ≠ .none ↔
      ChainFires props inp wmark d ∨ wmark < .wmarkHigh := by
  rw [← killDecisionChain_reason_ne_none_iff props inp wmark hd]
  unfold killDecision killDecisionCachedApp
  by_cases hchain : (killDecisionChain props inp wmark d).killReason = .none
  · by_cases hw : wmark < .wmarkHigh <;> simp [hchain, hw]
  · simp [hchain]

theorem killDecision_reason_of_le {wmark wmark' : ZoneWatermark} (hle : wmark ≤ wmark')
    {d : KillDecision} (hd : d.killReason = .none)
    (h : (killDecision props inp wmark' d).killReason ≠ .none) :
    (killDecision props inp wmark d).killReason ≠ .none := by
  rw [killDecision_reason_ne_none_iff props inp _ hd] at h ⊢
  rcases h with h | h
  · exact .inl (h.of_le props inp hle)
  · rw [ZoneWatermark.le_iff_toNat] at hle
    rw [ZoneWatermark.lt_iff_toNat] at *
    exact .inr (by omega)

theorem mpEventPsiKillDecision_isSome_iff (firstKill checkFilecache : Bool) (pass again : PassReading) :
    (mpEventPsiKillDecision props inp firstKill checkFilecache pass again).1.isSome ↔
      (killDecision props inp pass.wmark (.init checkFilecache)).killReason ≠ .none := by
  by_cases hreason : (killDecision props inp pass.wmark (.init checkFilecache)).killReason = .none
  · simp [mpEventPsiKillDecision, hreason]
  · simp only [ne_eq, hreason, not_false_eq_true, iff_true]
    cases firstKill with
    | false => simp [mpEventPsiKillDecision, hreason]
    | true =>
      obtain ⟨req, hreq⟩ := mpEventPsiKillDecision_firstKill_kills props inp checkFilecache pass again hreason
      rw [hreq]
      rfl

theorem mpEventPsiKillDecision_isSome_of_le (firstKill checkFilecache : Bool) {pass pass' : PassReading}
    (hle : pass.wmark ≤ pass'.wmark) (again again' : PassReading)
    (h : (mpEventPsiKillDecision props inp firstKill checkFilecache pass' again').1.isSome) :
    (mpEventPsiKillDecision props inp firstKill checkFilecache pass again).1.isSome := by
  rw [mpEventPsiKillDecision_isSome_iff] at h ⊢
  exact killDecision_reason_of_le props inp hle rfl h

end Lower

def quietInputs : DecisionInputs :=
  ⟨false, .noReclaim, vmpressLevelLow, 1, false, 0, 30, 0, 0, 0, false⟩

def afterKillDecisionProps : DecisionProps := updateDecisionProps 200 30 90 100 0 0 701

/-- The first pass breaches the low watermark and picks a cached app; the
recomputed watermark is breached no more, and the kill is made all the
same, while a pass from fresh locals there sets no reason. -/
theorem mpEventPsiKillDecision_firstKill_stale :
    (mpEventPsiKillDecision afterKillDecisionProps quietInputs true false
        ⟨.wmarkLow, false⟩ ⟨.wmarkNone, false⟩).1 = some ⟨.lowMem, 701, false⟩ ∧
      killDecision afterKillDecisionProps quietInputs .wmarkNone (.init false) = .init false := by
  decide +kernel

/-- After a kill, with the low watermark still breached, the kill is made at
`VISIBLE_APP_ADJ`, below the configured `pressure_after_kill_min_score`. -/
theorem mpEventPsiKillDecision_pressureAfterKill_belowMinScore :
    (mpEventPsiKillDecision afterKillDecisionProps { quietInputs with cycleAfterKill := true } false
        false ⟨.wmarkLow, false⟩ ⟨.wmarkLow, false⟩).1 = some ⟨.pressureAfterKill, visibleAppAdj, false⟩ ∧
      visibleAppAdj < afterKillDecisionProps.pressureAfterKillMinScore := by
  decide +kernel

-- The kill for low memory and swap keeps score 0 after a second pass at which
-- the recomputed watermark is breached no more.
example :
    (mpEventPsiKillDecision afterKillDecisionProps { quietInputs with swapIsLow := true } true false
        ⟨.wmarkMin, false⟩ ⟨.wmarkNone, false⟩).1 = some ⟨.lowMemAndSwap, 0, false⟩ := by
  decide +kernel

/-! ## The passes of the handler's sample

`mpEventPsiDecide` reads the decision as the score of each pass
(`PsiPass.kill`).  The decision makes them: the first pass's score when it
sets a reason, and the second pass's, which always sets one.  The handler
then kills with the score of `mpEventPsiKillDecision`'s request. -/

def decisionPasses (props : DecisionProps) (inp : DecisionInputs) (checkFilecache : Bool)
    (pass again : PassReading) : PsiPass × PsiPass :=
  let d := killDecision props inp pass.wmark (.init checkFilecache)
  let d' := killDecision props inp again.wmark d
  (⟨true, if d.killReason = .none then none else some d.minScoreAdj, pass.criticalStall⟩,
    ⟨true, some d'.minScoreAdj, again.criticalStall⟩)

theorem mpEventPsiKill_criticalStall (cfg : Config) (kenv : KillEnv) (currTm : Timespec)
    (minScoreAdj : Int32) (criticalStall : Bool) (g : Globals) :
    mpEventPsiKill cfg kenv currTm minScoreAdj criticalStall g =
      mpEventPsiKill cfg kenv currTm (if criticalStall then 0 else minScoreAdj) false g := by
  cases criticalStall <;> rfl

theorem watermarkPass_of_zoneinfoOk (level : Nat) (reclaim : Reclaim) {pass : PsiPass}
    (hok : pass.zoneinfoOk = true) (g : Globals) : ∃ g', watermarkPass level reclaim pass g = some g' := by
  unfold watermarkPass
  simp only [hok, Bool.not_true, Bool.false_eq_true, if_false]
  split
  · exact ⟨_, rfl⟩
  · exact ⟨_, rfl⟩

theorem mpEventPsiDecide_decisionPasses (cfg : Config) (kenv : KillEnv) (level : Nat)
    (events : UInt32) (sample : PsiSample) (currTm : Timespec) (g : Globals)
    (props : DecisionProps) (inp : DecisionInputs) (checkFilecache : Bool) (pass again : PassReading)
    (hpasses : (sample.pass, sample.firstKillPass) = decisionPasses props inp checkFilecache pass again) :
    mpEventPsiDecide cfg kenv level events sample currTm g =
      match (mpEventPsiKillDecision props inp g.firstKill checkFilecache pass again).1 with
      | none => mpEventPsiNoKill cfg level events sample.swapIsLow sample.reclaim g
      | some req =>
        mpEventPsiNoKill cfg level events sample.swapIsLow sample.reclaim
          (mpEventPsiKill cfg kenv currTm req.minScoreAdj false
            (if g.firstKill then
              (watermarkPass level sample.reclaim sample.firstKillPass { g with firstKill := false }).getD g
            else g)) := by
  obtain ⟨hpass, hagain⟩ := Prod.mk.inj hpasses
  have hok : sample.firstKillPass.zoneinfoOk = true := by rw [hagain]
  obtain ⟨g', hg'⟩ := watermarkPass_of_zoneinfoOk level sample.reclaim hok { g with firstKill := false }
  by_cases hnone : (killDecision props inp pass.wmark (.init checkFilecache)).killReason = .none
  · have hkill : sample.pass.kill = none := by
      rw [hpass]
      exact if_pos hnone
    rw [mpEventPsiDecide, hkill, mpEventPsiKillDecision]
    simp only [hnone, if_true]
  · have hkill : sample.pass.kill =
        some (killDecision props inp pass.wmark (.init checkFilecache)).minScoreAdj := by
      rw [hpass]
      exact if_neg hnone
    have hagain' := killDecision_reason_ne_none props inp again.wmark hnone
    rw [mpEventPsiDecide, hkill, mpEventPsiKillDecision]
    simp only [hnone, if_false]
    cases hfirst : g.firstKill
    · simp only [Bool.false_eq_true, if_false, KillDecision.request]
      rw [mpEventPsiKill_criticalStall, hpass]
    · -- the second pass sets a reason, so its score is the one the handler reads
      simp only [if_true]
      rw [hg', hagain]
      simp only [Option.getD_some, if_neg hagain', KillDecision.request]
      rw [mpEventPsiKill_criticalStall]

end Lmkd
