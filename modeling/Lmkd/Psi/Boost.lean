import Lmkd.Psi.Decision
import Lmkd.Psi.Thrashing
import Lmkd.Watermarks.Lowest
import Lmkd.Lib.IntExact
import Lmkd.Lib.Transition
import Mathlib

/-!
# The boost factor and the thrashing limit

Besides the estimate of `Lmkd.Psi.Thrashing`, `mp_event_psi` keeps two
numbers from one call to the next that steer the calls after it:
`wbf_effective`, the factor by which `get_lowest_watermark` raises the low
and the high watermark, and `thrashing_limit`, the refault share over which
the decision kills.

The code assigns `wbf_effective` in four places.  It is `wmark_boost_factor`
when an event at or above the polled level comes in, when `call_handler`
ends polling, and when `update_perf_props` reads the factor.  It is
`std::min(wbf_effective + wbf_step, wmark_boost_factor)` after a kill for a
critical reason or for throttled direct reclaim, and
`std::max(wbf_effective - wbf_step, 1)` after any other kill and when
polling starts without one.  `thrashing_limit` is `thrashing_limit_pct` at
the first call and at each new thrashing window, and a kill the decision
asks for with `cut_thrashing_limit` cuts it by `thrashing_limit_decay_pct`
percent.

`mpEventPsiStatics` is the handler seen from these statics, and
`staticsSystem` the machine of the handler's calls, the property updates and
the ends of polling.  Its invariant (`PsiStatics.Inv`) is that
`wbf_effective` is the factor or lies between 1 and it, and that
`thrashing_limit` lies between 0 and `thrashingLimitMax`; then the sum and
the product the two updates compute never overflow an `int`
(`wbfRaise_toInt`, `cutThrashingLimit_toInt`).  It holds over every run
whose property readings are `Valid` (`staticsSystem_inv`).  `update_props`
clamps the decay to `[0, 100]` and the limit to at least 0, but nothing
bounds the limit from above, and the cut multiplies it by up to 100.  The
vendor `update_perf_props` that runs after it overrides the limit, the decay
and the factor, unclamped.
-/

namespace Lmkd

open Transition

/-! ## The updates -/

/-- The properties the statics read: `wmark_boost_factor`,
`thrashing_limit_pct` and `thrashing_limit_decay_pct`. -/
structure BoostProps where
  wmarkBoostFactor : Int32
  thrashingLimitPct : Int32
  thrashingLimitDecayPct : Int32
deriving DecidableEq, Repr

/-- `wbf_step`, which nothing assigns. -/
def wbfStep : Int32 := 1

def int32Min (a b : Int32) : Int32 := if b < a then b else a

/-- `std::min(wbf_effective + wbf_step, wmark_boost_factor)`. -/
def wbfRaise (factor wbf : Int32) : Int32 := int32Min (wbf + wbfStep) factor

/-- `std::max(wbf_effective - wbf_step, 1)`. -/
def wbfLower (wbf : Int32) : Int32 := int32Max (wbf - wbfStep) 1

/-- `(thrashing_limit * (100 - thrashing_limit_decay_pct)) / 100`. -/
def cutThrashingLimit (decayPct thrashingLimit : Int32) : Int32 :=
  thrashingLimit * (100 - decayPct) / 100

/-- `wbf_effective` after a kill that freed pages for `req`. -/
def wbfAfterKill (factor : Int32) (req : KillRequest) (wbf : Int32) : Int32 :=
  if req.killReason = .criticalKill ∨ req.killReason = .directReclAndThrot then wbfRaise factor wbf
  else wbfLower wbf

/-- `thrashing_limit` after a kill that freed pages for `req`. -/
def limitAfterKill (decayPct : Int32) (req : KillRequest) (thrashingLimit : Int32) : Int32 :=
  if req.cutThrashingLimit then cutThrashingLimit decayPct thrashingLimit else thrashingLimit

/-! ## One call of the handler -/

/-- How far a call of `mp_event_psi` gets, as the statics see it. -/
inductive PsiReach where
  | returned
  | killPending
  | idle
  | noZoneinfo
  | decided (req : Option KillRequest) (pagesFreed : Int)
deriving DecidableEq, Repr

/-- What a call of `mp_event_psi` reads that the statics depend on. -/
structure PsiCall where
  events : UInt32
  /-- `!poll_params->poll_handler || data >= poll_params->poll_handler->data` -/
  atPolledLevel : Bool
  /-- the clock and the vmstat counters the estimate reads -/
  thrash : ThrashSample
  reclaim : Reclaim
  reach : PsiReach
  /-- `is_waiting_for_kill()` at `no_kill` -/
  waitingForKill : Bool
  /-- `count_upgraded_event >= psi_cont_event_thresh` at `no_kill` -/
  upgrade : Bool
deriving DecidableEq, Repr

/-- `wbf_effective` after `no_kill`: polling that starts without a kill
lowers the boost. -/
def wbfNoKill (c : PsiCall) (reclaim : Reclaim) (killing : Bool) (wbf : Int32) : Int32 :=
  if c.waitingForKill then wbf
  else if c.events ≠ 0 ∨ killing ∨ reclaim = .directReclaim ∨ reclaim = .directReclaimThrottle then
    if c.upgrade then wbf
    else if c.atPolledLevel then (if killing then wbf else wbfLower wbf)
    else wbf
  else wbf

/-- The properties, and the statics of `mp_event_psi` they steer.  The
estimate's statics, `thrashing_limit` among them, are set up at the first
call. -/
structure PsiStatics where
  props : BoostProps
  wbfEffective : Int32
  thrash : Option ThrashState
  killing : Bool
deriving DecidableEq, Repr

/-- At start-up: `wmark_boost_factor = 1`, `wbf_effective = 1`, the limit and
the decay 0, and no call yet. -/
def PsiStatics.boot : PsiStatics := ⟨⟨1, 0, 0⟩, 1, none, false⟩

/-- `mp_event_psi` on its statics.  The killing flag is cleared, and the
estimate reset after a kill, once the files parse; the reclaim state is
`NO_RECLAIM` at the jumps to `no_kill` before it is computed and when the
system is idle. -/
def mpEventPsiStatics (c : PsiCall) (s : PsiStatics) : PsiStatics :=
  let p := s.props
  -- `static int thrashing_limit = thrashing_limit_pct` at the first call
  let st := s.thrash.getD (ThrashState.boot p.thrashingLimitPct)
  -- an event at or above the polled level starts from the full boost
  let wbf := if c.events ≠ 0 ∧ c.atPolledLevel then p.wmarkBoostFactor else s.wbfEffective
  let reset := if s.killing then st.resetAfterKill c.thrash else st
  let estimated := (mpEventPsiThrashing p.thrashingLimitPct reset c.thrash).1
  match c.reach with
  | .returned => ⟨p, wbf, some st, s.killing⟩
  | .killPending => ⟨p, wbfNoKill c .noReclaim s.killing wbf, some st, s.killing⟩
  | .idle => ⟨p, wbfNoKill c .noReclaim false wbf, some reset, false⟩
  | .noZoneinfo => ⟨p, wbf, some estimated, false⟩
  | .decided (some req) pagesFreed =>
    if pagesFreed > 0 then
      ⟨p, wbfNoKill c c.reclaim true (wbfAfterKill p.wmarkBoostFactor req wbf),
        some { estimated with
          thrashingLimit := limitAfterKill p.thrashingLimitDecayPct req estimated.thrashingLimit },
        true⟩
    else ⟨p, wbfNoKill c c.reclaim false wbf, some estimated, false⟩
  | .decided none _ => ⟨p, wbfNoKill c c.reclaim false wbf, some estimated, false⟩

/-- `call_handler` ends polling after the PSI window, back at the full
boost. -/
def PsiStatics.endPolling (s : PsiStatics) : PsiStatics :=
  { s with wbfEffective := s.props.wmarkBoostFactor }

/-- What `update_props` reads of the statics' properties:
`ro.lmk.thrashing_limit` and `ro.lmk.thrashing_limit_decay`, and the three
vendor values when the perf library loads. -/
structure PropsReading where
  thrashingLimit : Int32
  thrashingLimitDecay : Int32
  perf : Option BoostProps
deriving DecidableEq, Repr

/-- `update_props` and the `update_perf_props` it calls: the limit at least
0 and the decay clamped to `[0, 100]`, then, when the perf library loads,
the vendor values and `wbf_effective = wmark_boost_factor`. -/
def PsiStatics.updateProps (r : PropsReading) (s : PsiStatics) : PsiStatics :=
  match r.perf with
  | none =>
    { s with props := { s.props with thrashingLimitPct := int32Max 0 r.thrashingLimit,
                                     thrashingLimitDecayPct := clamp 0 100 r.thrashingLimitDecay } }
  | some p => { s with props := p, wbfEffective := p.wmarkBoostFactor }

inductive StaticsAction where
  | updateProps (r : PropsReading)
  | psiCall (c : PsiCall)
  | endPolling
deriving DecidableEq, Repr

def staticsStep (s : PsiStatics) : StaticsAction → PsiStatics
  | .updateProps r => s.updateProps r
  | .psiCall c => mpEventPsiStatics c s
  | .endPolling => s.endPolling

def staticsSystem : System PsiStatics StaticsAction := ⟨PsiStatics.boot, fun s a => some (staticsStep s a)⟩

/-! ## The ranges -/

/-- The limit whose cut by any decay in `[0, 100]` fits in an `int`. -/
def thrashingLimitMax : Int := 21474836

/-- Properties under which neither update overflows: a factor one below the
largest `int` or less, and not the smallest; a limit whose cut fits; a
decay in `[0, 100]`. -/
def BoostProps.Valid (p : BoostProps) : Prop :=
  (-2 ^ 31 < p.wmarkBoostFactor.toInt ∧ p.wmarkBoostFactor.toInt < 2 ^ 31 - 1) ∧
    (0 ≤ p.thrashingLimitPct.toInt ∧ p.thrashingLimitPct.toInt ≤ thrashingLimitMax) ∧
    (0 ≤ p.thrashingLimitDecayPct.toInt ∧ p.thrashingLimitDecayPct.toInt ≤ 100)

instance : DecidablePred BoostProps.Valid := fun _ => inferInstanceAs (Decidable (_ ∧ _ ∧ _))

/-- Readings that leave valid properties: an `ro.lmk.thrashing_limit` whose
cut fits, and valid vendor values. -/
def PropsReading.Valid (r : PropsReading) : Prop :=
  r.thrashingLimit.toInt ≤ thrashingLimitMax ∧ ∀ p ∈ r.perf, p.Valid

instance : DecidablePred PropsReading.Valid := fun _ => inferInstanceAs (Decidable (_ ∧ _))

def StaticsAction.Valid : StaticsAction → Prop
  | .updateProps r => r.Valid
  | _ => True

instance : DecidablePred StaticsAction.Valid := fun a =>
  match a with
  | .updateProps r => inferInstanceAs (Decidable r.Valid)
  | .psiCall _ => isTrue trivial
  | .endPolling => isTrue trivial

/-- `wbf_effective` is the factor, or between 1 and the larger of the factor
and 1. -/
def WbfInRange (factor wbf : Int32) : Prop :=
  wbf = factor ∨ (1 ≤ wbf.toInt ∧ wbf.toInt ≤ max factor.toInt 1)

def LimitInRange (thrashingLimit : Int32) : Prop :=
  0 ≤ thrashingLimit.toInt ∧ thrashingLimit.toInt ≤ thrashingLimitMax

/-- The invariant of the statics. -/
structure PsiStatics.Inv (s : PsiStatics) : Prop where
  props : s.props.Valid
  wbf : WbfInRange s.props.wmarkBoostFactor s.wbfEffective
  thrashingLimit : ∀ st, s.thrash = some st → LimitInRange st.thrashingLimit

theorem PsiStatics.inv_of {p : BoostProps} {wbf : Int32} {st : ThrashState} (killing : Bool)
    (hp : p.Valid) (hw : WbfInRange p.wmarkBoostFactor wbf) (hl : LimitInRange st.thrashingLimit) :
    PsiStatics.Inv ⟨p, wbf, some st, killing⟩ :=
  ⟨hp, hw, fun _ h => Option.some_inj.mp h ▸ hl⟩

/-! ## The arithmetic of the updates -/

theorem int32Min_toInt (a b : Int32) : (int32Min a b).toInt = min a.toInt b.toInt := by
  unfold int32Min
  split
  · have := Int32.lt_iff_toInt_lt.mp ‹b < a›
    omega
  · have := mt Int32.lt_iff_toInt_lt.mpr ‹¬b < a›
    omega

theorem int32Max_toInt (a b : Int32) : (int32Max a b).toInt = max a.toInt b.toInt := by
  unfold int32Max
  split
  · have := Int32.lt_iff_toInt_lt.mp ‹a < b›
    omega
  · have := mt Int32.lt_iff_toInt_lt.mpr ‹¬a < b›
    omega

theorem clamp_toInt (low high value : Int32) :
    (clamp low high value).toInt = max (min high.toInt value.toInt) low.toInt := by
  rw [clamp, int32Max_toInt]
  congr 1
  split
  · have := Int32.lt_iff_toInt_lt.mp ‹high < value›
    omega
  · have := mt Int32.lt_iff_toInt_lt.mpr ‹¬high < value›
    omega

theorem wbfStep_toInt : wbfStep.toInt = 1 := by decide

theorem wbfRaise_toInt {factor wbf : Int32} (hw : wbf.toInt < 2 ^ 31 - 1) :
    (wbfRaise factor wbf).toInt = min (wbf.toInt + 1) factor.toInt := by
  have hsum : (wbf + wbfStep).toInt = wbf.toInt + 1 := by
    have := wbf.le_toInt
    rw [Int32.toInt_add_of_inRange (by rw [wbfStep_toInt]; exact ⟨by omega, by omega⟩), wbfStep_toInt]
  rw [wbfRaise, int32Min_toInt, hsum]

theorem wbfLower_toInt {wbf : Int32} (hw : -2 ^ 31 < wbf.toInt) :
    (wbfLower wbf).toInt = max (wbf.toInt - 1) 1 := by
  have hdiff : (wbf - wbfStep).toInt = wbf.toInt - 1 := by
    have := wbf.toInt_lt
    rw [Int32.toInt_sub_of_inRange (by rw [wbfStep_toInt]; exact ⟨by omega, by omega⟩), wbfStep_toInt]
  rw [wbfLower, int32Max_toInt, hdiff]
  rfl

theorem cutThrashingLimit_toInt {decayPct thrashingLimit : Int32}
    (hd : 0 ≤ decayPct.toInt ∧ decayPct.toInt ≤ 100) (h : LimitInRange thrashingLimit) :
    (cutThrashingLimit decayPct thrashingLimit).toInt =
      (thrashingLimit.toInt * (100 - decayPct.toInt)).tdiv 100 := by
  have h100 : (100 : Int32).toInt = 100 := by decide
  have hkeep : (100 - decayPct).toInt = 100 - decayPct.toInt := by
    rw [Int32.toInt_sub_of_inRange (by rw [h100]; exact ⟨by omega, by omega⟩), h100]
  -- the product is at most `100 * thrashingLimitMax`, below `2^31`
  have hlo : 0 ≤ thrashingLimit.toInt * (100 - decayPct.toInt) := Int.mul_nonneg h.1 (by omega)
  have hhi : thrashingLimit.toInt * (100 - decayPct.toInt) ≤ thrashingLimit.toInt * 100 :=
    Int.mul_le_mul_of_nonneg_left (by omega) h.1
  unfold LimitInRange thrashingLimitMax at h
  have hprod : (thrashingLimit * (100 - decayPct)).toInt = thrashingLimit.toInt * (100 - decayPct.toInt) := by
    rw [Int32.toInt_mul_of_inRange (by rw [hkeep]; exact ⟨by omega, by omega⟩), hkeep]
  have hq : 0 ≤ (thrashingLimit.toInt * (100 - decayPct.toInt)).tdiv 100 := Int.tdiv_nonneg hlo (by decide)
  have hq' := Int.tdiv_le_self 100 hlo
  rw [cutThrashingLimit, Int32.toInt_div_of_inRange (by rw [hprod, h100]; exact ⟨by omega, by omega⟩),
    hprod, h100]

/-! ## The updates keep the ranges -/

section Ranges

variable {factor : Int32}

theorem wbfInRange_self (factor : Int32) : WbfInRange factor factor := Or.inl rfl

theorem WbfInRange.le {wbf : Int32} (h : WbfInRange factor wbf) : wbf.toInt ≤ max factor.toInt 1 := by
  rcases h with rfl | h
  · omega
  · exact h.2

theorem WbfInRange.raise (hf : factor.toInt < 2 ^ 31 - 1) {wbf : Int32} (h : WbfInRange factor wbf) :
    WbfInRange factor (wbfRaise factor wbf) := by
  have hle := h.le
  have hr := @wbfRaise_toInt factor wbf (by omega)
  by_cases hcap : factor.toInt ≤ wbf.toInt + 1
  · -- capped at the factor
    exact Or.inl (Int32.toInt_inj.mp (by omega))
  · -- one up, still below the factor
    refine Or.inr ⟨?_, by omega⟩
    rcases h with rfl | h
    · omega
    · omega

theorem WbfInRange.lower (hf : -2 ^ 31 < factor.toInt) {wbf : Int32} (h : WbfInRange factor wbf) :
    WbfInRange factor (wbfLower wbf) := by
  have hle := h.le
  have hw : -2 ^ 31 < wbf.toInt := by
    rcases h with rfl | h
    · exact hf
    · omega
  have hr := wbfLower_toInt hw
  exact Or.inr ⟨by omega, by omega⟩

theorem WbfInRange.afterKill (hp : -2 ^ 31 < factor.toInt ∧ factor.toInt < 2 ^ 31 - 1) (req : KillRequest)
    {wbf : Int32} (h : WbfInRange factor wbf) : WbfInRange factor (wbfAfterKill factor req wbf) := by
  unfold wbfAfterKill
  split
  · exact h.raise hp.2
  · exact h.lower hp.1

theorem WbfInRange.noKill (hf : -2 ^ 31 < factor.toInt) (c : PsiCall) (reclaim : Reclaim) (killing : Bool)
    {wbf : Int32} (h : WbfInRange factor wbf) : WbfInRange factor (wbfNoKill c reclaim killing wbf) := by
  unfold wbfNoKill
  split_ifs
  all_goals first | exact h | exact h.lower hf

theorem LimitInRange.cut {decayPct thrashingLimit : Int32} (hd : 0 ≤ decayPct.toInt ∧ decayPct.toInt ≤ 100)
    (h : LimitInRange thrashingLimit) :
    LimitInRange (cutThrashingLimit decayPct thrashingLimit) ∧
      (cutThrashingLimit decayPct thrashingLimit).toInt ≤ thrashingLimit.toInt := by
  have hc := cutThrashingLimit_toInt hd h
  have hlo : 0 ≤ thrashingLimit.toInt * (100 - decayPct.toInt) := Int.mul_nonneg h.1 (by omega)
  have hhi : thrashingLimit.toInt * (100 - decayPct.toInt) ≤ thrashingLimit.toInt * 100 :=
    Int.mul_le_mul_of_nonneg_left (by omega) h.1
  rw [Int.tdiv_eq_ediv_of_nonneg hlo] at hc
  unfold LimitInRange at *
  omega

theorem LimitInRange.afterKill {decayPct : Int32} (hd : 0 ≤ decayPct.toInt ∧ decayPct.toInt ≤ 100)
    (req : KillRequest) {thrashingLimit : Int32} (h : LimitInRange thrashingLimit) :
    LimitInRange (limitAfterKill decayPct req thrashingLimit) := by
  unfold limitAfterKill
  split
  · exact (h.cut hd).1
  · exact h

end Ranges

theorem mpEventPsiThrashing_thrashingLimit (thrashingLimitPct : Int32) (st : ThrashState) (s : ThrashSample) :
    (mpEventPsiThrashing thrashingLimitPct st s).1.thrashingLimit = st.thrashingLimit ∨
      (mpEventPsiThrashing thrashingLimitPct st s).1.thrashingLimit = thrashingLimitPct := by
  by_cases hsince : thrashingResetIntervalMs < getTimeDiffMs st.thrashingResetTm s.currTm
  · rw [mpEventPsiThrashing_of_window thrashingLimitPct st s hsince]
    exact Or.inr rfl
  · left
    simp only [mpEventPsiThrashing, if_neg hsince]

/-! ## Every step keeps the invariant -/

section Step

variable {s : PsiStatics} (hi : s.Inv)
include hi

theorem mpEventPsiStatics_inv (c : PsiCall) : (mpEventPsiStatics c s).Inv := by
  obtain ⟨hf, hpct, hd⟩ := hi.props
  have hst : LimitInRange (s.thrash.getD (ThrashState.boot s.props.thrashingLimitPct)).thrashingLimit := by
    cases hs : s.thrash with
    | none => exact hpct
    | some st => exact hi.thrashingLimit st hs
  have hreset : LimitInRange (if s.killing then (s.thrash.getD (ThrashState.boot s.props.thrashingLimitPct)).resetAfterKill c.thrash
      else s.thrash.getD (ThrashState.boot s.props.thrashingLimitPct)).thrashingLimit := by
    split
    · exact hst
    · exact hst
  have hest : LimitInRange (mpEventPsiThrashing s.props.thrashingLimitPct
      (if s.killing then (s.thrash.getD (ThrashState.boot s.props.thrashingLimitPct)).resetAfterKill c.thrash
        else s.thrash.getD (ThrashState.boot s.props.thrashingLimitPct)) c.thrash).1.thrashingLimit := by
    rcases mpEventPsiThrashing_thrashingLimit s.props.thrashingLimitPct _ c.thrash with h | h <;> rw [h]
    · exact hreset
    · exact hpct
  have hwbf : WbfInRange s.props.wmarkBoostFactor
      (if c.events ≠ 0 ∧ c.atPolledLevel then s.props.wmarkBoostFactor else s.wbfEffective) := by
    split
    · exact wbfInRange_self _
    · exact hi.wbf
  unfold mpEventPsiStatics
  rcases hc : c.reach with _ | _ | _ | _ | ⟨_ | req, pagesFreed⟩ <;> dsimp only
  · exact PsiStatics.inv_of _ hi.props hwbf hst
  · exact PsiStatics.inv_of _ hi.props (hwbf.noKill hf.1 c _ _) hst
  · exact PsiStatics.inv_of _ hi.props (hwbf.noKill hf.1 c _ _) hreset
  · exact PsiStatics.inv_of _ hi.props hwbf hest
  · exact PsiStatics.inv_of _ hi.props (hwbf.noKill hf.1 c _ _) hest
  · by_cases hp : pagesFreed > 0
    · rw [if_pos hp]
      exact PsiStatics.inv_of _ hi.props ((hwbf.afterKill hf _).noKill hf.1 c _ _) (hest.afterKill hd _)
    · rw [if_neg hp]
      exact PsiStatics.inv_of _ hi.props (hwbf.noKill hf.1 c _ _) hest

theorem endPolling_inv : s.endPolling.Inv :=
  ⟨hi.props, wbfInRange_self _, hi.thrashingLimit⟩

theorem updateProps_inv {r : PropsReading} (hr : r.Valid) : (s.updateProps r).Inv := by
  unfold PsiStatics.updateProps
  split
  · -- the clamps of `update_props` keep the decay and the lower bound
    obtain ⟨hf, -, -⟩ := hi.props
    have h0 : (0 : Int32).toInt = 0 := rfl
    refine ⟨⟨hf, ?_, ?_⟩, hi.wbf, hi.thrashingLimit⟩
    · show 0 ≤ (int32Max 0 r.thrashingLimit).toInt ∧ (int32Max 0 r.thrashingLimit).toInt ≤ thrashingLimitMax
      have := hr.1
      rw [int32Max_toInt, h0]
      unfold thrashingLimitMax at *
      omega
    · show 0 ≤ (clamp 0 100 r.thrashingLimitDecay).toInt ∧ (clamp 0 100 r.thrashingLimitDecay).toInt ≤ 100
      have h100 : (100 : Int32).toInt = 100 := by decide
      rw [clamp_toInt, h0, h100]
      omega
  · rename_i p hperf
    exact ⟨hr.2 p hperf, wbfInRange_self _, hi.thrashingLimit⟩

theorem staticsStep_inv {a : StaticsAction} (ha : a.Valid) : (staticsStep s a).Inv := by
  cases a with
  | updateProps r => exact updateProps_inv hi ha
  | psiCall c => exact mpEventPsiStatics_inv hi c
  | endPolling => exact endPolling_inv hi

end Step

theorem boot_inv : PsiStatics.boot.Inv :=
  ⟨⟨by decide, by decide, by decide⟩, wbfInRange_self _, fun _ h => absurd h (by simp [PsiStatics.boot])⟩

theorem staticsSystem_reachable_inv {s : PsiStatics}
    (h : (staticsSystem.restrict fun _ a => a.Valid).Reachable s) : s.Inv := by
  refine System.Reachable.induction _ boot_inv (fun s a s' hs hstep => ?_) h
  simp only [System.restrict, staticsSystem] at hstep
  split at hstep
  · cases hstep
    exact staticsStep_inv hs ‹_›
  · cases hstep

/-! ## What the invariant gives -/

def perfReading : PropsReading := ⟨100, 10, some ⟨3, 30, 20⟩⟩

def thrashingKillCall : PsiCall :=
  ⟨0, true, ⟨⟨5, 0⟩, 0, 0, 0⟩, .noReclaim, .decided (some ⟨.lowMemAndThrashing, 100, true⟩) 100, false, false⟩

/-- In every reachable state whose boost factor is 1 or more, the boost in
effect never hides a breach the unboosted check sees: `get_lowest_watermark`
with `wbf_effective` reports no higher a watermark than with a boost of 1,
for free pages no fewer than the CMA pages. -/
theorem staticsSystem_boost_never_hides_breach {s : PsiStatics}
    (h : (staticsSystem.restrict fun _ a => a.Valid).Reachable s) (hfactor : 1 ≤ s.props.wmarkBoostFactor.toInt)
    (env : LowestWatermarkEnv) {zmi : ZoneMeminfo} (hz : zmi.Bounded) (level : Nat) (events : UInt32)
    (inCompaction : Bool) (hc : PageCount (nrCachedPages env zmi level events inCompaction))
    (hcma : zmi.cmaFree ≤ zmi.nrFreePages) :
    getLowestWatermark { env with wbfEffective := s.wbfEffective } zmi level events inCompaction ≤
      getLowestWatermark { env with wbfEffective := 1 } zmi level events inCompaction := by
  have hw : 1 ≤ s.wbfEffective.toInt := by
    rcases (staticsSystem_reachable_inv h).wbf with heq | hr
    · rw [heq]
      exact hfactor
    · exact hr.1
  exact getLowestWatermark_antitone_wbf env hz level events inCompaction hc hcma (by decide) hw

/-- At boost 2, 1900 free pages and 250 cached ones breach the low
watermark of 2000 that they clear unboosted. -/
theorem staticsSystem_boost_never_hides_breach_thrashingKill :
    ∃ s, (staticsSystem.restrict fun _ a => a.Valid).Reachable s ∧ 1 ≤ s.props.wmarkBoostFactor.toInt ∧
      getLowestWatermark { halfCacheEnv with wbfEffective := s.wbfEffective }
          { sampleZoneMeminfo with nrFreePages := 2000 } 1 1 false = .wmarkLow ∧
      getLowestWatermark { halfCacheEnv with wbfEffective := 1 }
          { sampleZoneMeminfo with nrFreePages := 2000 } 1 1 false = .wmarkHigh ∧
      getLowestWatermark { halfCacheEnv with wbfEffective := s.wbfEffective }
          { sampleZoneMeminfo with nrFreePages := 2000 } 1 1 false ≤
        getLowestWatermark { halfCacheEnv with wbfEffective := 1 }
          { sampleZoneMeminfo with nrFreePages := 2000 } 1 1 false := by
  have hrun : ((staticsSystem.restrict fun _ a => a.Valid).run
      [.updateProps perfReading, .psiCall thrashingKillCall]).map
        (fun s => (s.wbfEffective, s.props.wmarkBoostFactor)) = some (2, 3) := by
    decide
  obtain ⟨s, hs, hobs⟩ := Option.map_eq_some_iff.mp hrun
  have hreach := System.reachable_of_run _ hs
  obtain ⟨hw, hfac⟩ := Prod.mk.inj hobs
  have hfactor : 1 ≤ s.props.wmarkBoostFactor.toInt := by
    rw [hfac]
    decide
  have hz : ({ sampleZoneMeminfo with nrFreePages := 2000 } : ZoneMeminfo).Bounded :=
    ⟨by decide, by decide, by decide, by decide, by decide⟩
  have hc : PageCount (nrCachedPages halfCacheEnv { sampleZoneMeminfo with nrFreePages := 2000 } 1 1 false) := by
    decide
  have hcma : ({ sampleZoneMeminfo with nrFreePages := 2000 } : ZoneMeminfo).cmaFree ≤ 2000 := by decide
  refine ⟨s, hreach, hfactor, by rw [hw]; decide, by decide,
    staticsSystem_boost_never_hides_breach hreach hfactor halfCacheEnv hz 1 1 false hc hcma⟩

end Lmkd
