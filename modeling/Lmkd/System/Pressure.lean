import Lmkd.System.Victims
import Lmkd.Psi.Boost
import Mathlib

/-!
# The pressure handler on the watermarks lmkd computes

The sample `mp_event_psi` decides on carries, for each pass, the score the
decision hands on (`decisionPasses`), and the decision reads the watermark
the pass found: `calc_zone_watermarks` and `get_lowest_watermark` on the
zones of `zoneinfo_parse`, both at the static `wbf_effective`
(`updateWatermarks`).

On such a sample the handler kills only when the decision asks for a kill,
and then only records it started from, at or above the request's
`min_score_adj`, each removed (`mpEventPsi_decisionPasses`).  The boost of
every reachable state of the statics is at least 1 when the factor is, so
with MGLRU off the pass reports no higher a watermark than at boost 1, and
the decision asks for a kill whenever it would at boost 1
(`mpEventPsi_boostedWatermark_kills`).
-/

namespace Lmkd

open Registry Transition

/-! ## The kill of one call -/

theorem mpEventPsiKillDecision_minScoreAdj_nonneg {props : DecisionProps} {inp : DecisionInputs}
    {firstKill checkFilecache : Bool} {pass again : PassReading} {req : KillRequest}
    (h : (mpEventPsiKillDecision props inp firstKill checkFilecache pass again).1 = some req) :
    0 ≤ req.minScoreAdj := by
  obtain ⟨d, hd, -, hreq⟩ := mpEventPsiKillDecision_request (fun d => 0 ≤ d.minScoreAdj)
    (Int32.le_refl 0) (fun _ hd => killDecision_minScoreAdj_nonneg props inp _ hd)
    (fun _ _ hd => killDecision_minScoreAdj_nonneg props inp _ hd) h
  rcases hreq with rfl | rfl <;> simp only [KillDecision.request] <;> split
  all_goals first | exact Int32.le_refl 0 | exact hd

theorem mpEventPsi_decisionPasses (cfg : Config) (kenv : KillEnv) (level : Nat) (events : UInt32)
    {sample : PsiSample} {props : DecisionProps} {inp : DecisionInputs} {checkFilecache : Bool}
    {pass again : PassReading}
    (hpasses : (sample.pass, sample.firstKillPass) = decisionPasses props inp checkFilecache pass again)
    (g : Globals) :
    SameLog g (mpEventPsi cfg kenv level events sample g) ∨
      ∃ req g₁ currTm, (mpEventPsiKillDecision props inp g.firstKill checkFilecache pass again).1 = some req ∧
        SameLog g g₁ ∧
        SameLog (mpEventPsiKill cfg kenv currTm req.minScoreAdj false g₁)
          (mpEventPsi cfg kenv level events sample g) := by
  rcases mpEventPsi_decide cfg kenv level events sample g with h | ⟨currTm, g', h₀, hfirst, heq⟩
  · exact .inl h
  · rw [heq, mpEventPsiDecide_decisionPasses cfg kenv level events sample currTm g' props inp
      checkFilecache pass again hpasses, hfirst]
    split
    · exact .inl (h₀.trans ⟨by simp, by simp⟩)
    · rename_i req hreq
      -- before the first kill, the kill is made after the second pass
      have h₁ : SameLog g' (if g.firstKill then
          (watermarkPass level sample.reclaim sample.firstKillPass
            { g' with firstKill := false }).getD g' else g') := by
        split
        · cases hw : watermarkPass level sample.reclaim sample.firstKillPass
              { g' with firstKill := false } with
          | none => exact SameLog.refl g'
          | some g'' =>
            exact SameLog.trans (⟨rfl, rfl⟩ : SameLog g' { g' with firstKill := false })
              (watermarkPass_sameLog hw)
        · exact SameLog.refl g'
      exact .inr ⟨req, _, currTm, hreq, h₀.trans h₁, ⟨by simp, by simp⟩⟩

/-! ## Every reachable state -/

/-- The pressure handler on a reachable state of lmkd on a user build, at the
`wbf_effective` of a reachable state of its statics whose factor is 1 or
more, with MGLRU off: the first pass's watermark is what
`calc_zone_watermarks` and `get_lowest_watermark` find at `wbf_effective`,
on zone totals of page counts below `2^31` with free pages no fewer than
the CMA pages, and the sample's passes are the decision's.  Then the
watermark is no higher than at boost 1, and the decision asks for a kill
whenever it would at boost 1.  The handler kills only when the decision asks
for a kill, and each process it kills was registered, had an
`oom_score_adj` at least the request's `min_score_adj`, and is no longer
registered.  Without a critical stall, a kill for a cached app kills no
process below `PERCEPTIBLE_APP_ADJ + 1`, nor does a kill for low swap when
no pass saw the min watermark and thrashing is below
`thrashing_critical_pct`. -/
theorem mpEventPsi_boostedWatermark_kills {cfg : Config} (hu : cfg.isUserdebugOrEngBuild = false)
    {ienv : InitEnv} {g₀ : Globals} (h₀ : lmkdInit cfg ienv = some g₀) {g : Globals}
    (hg : (lmkdSystem cfg g₀).Reachable g) {s : PsiStatics}
    (hs : (staticsSystem.restrict fun _ a => a.Valid).Reachable s)
    (hfactor : 1 ≤ s.props.wmarkBoostFactor.toInt) {src : WatermarkSource} (hmglru : src.mglruStatus = 0)
    {zi : Zoneinfo} {zmi : ZoneMeminfo} (hcalc : calcZoneWatermarks (src.watermarkEnv s.wbfEffective) zi = .ok zmi)
    (hz : zmi.Bounded) {level : Nat} {events : UInt32} {inCompaction : Bool}
    (hc : PageCount (nrCachedPages (src.lowestEnv s.wbfEffective) zmi level events inCompaction))
    (hcma : zmi.cmaFree ≤ zmi.nrFreePages) {props : DecisionProps} {inp : DecisionInputs}
    {checkFilecache criticalStall : Bool} {again : PassReading} {w : ZoneWatermark}
    (hw : updateWatermarks src s.wbfEffective level events inCompaction zi = .ok w) {sample : PsiSample}
    (hpasses : (sample.pass, sample.firstKillPass) =
      decisionPasses props inp checkFilecache ⟨w, criticalStall⟩ again)
    (kenv : KillEnv) :
    (∃ w₁, updateWatermarks src 1 level events inCompaction zi = .ok w₁ ∧ w ≤ w₁ ∧
      ∀ again₁ : PassReading,
        (mpEventPsiKillDecision props inp g.firstKill checkFilecache ⟨w₁, criticalStall⟩ again₁).1.isSome →
          (mpEventPsiKillDecision props inp g.firstKill checkFilecache ⟨w, criticalStall⟩ again).1.isSome) ∧
    ∃ ks, (mpEventPsi cfg kenv level events sample g).kills = ks ++ g.kills ∧
      ((mpEventPsiKillDecision props inp g.firstKill checkFilecache ⟨w, criticalStall⟩ again).1 = none →
        ks = []) ∧
      ∀ k ∈ ks, ∃ a req, g.reg.Mem a ∧ (g.reg.procs a).pid = k.1 ∧
        (mpEventPsiKillDecision props inp g.firstKill checkFilecache ⟨w, criticalStall⟩ again).1 = some req ∧
        req.minScoreAdj ≤ (g.reg.procs a).oomadj ∧ (mpEventPsi cfg kenv level events sample g).reg.view k.1 = none ∧
        (criticalStall = false → again.criticalStall = false →
          (req.killReason = .lowMem → perceptibleAppAdj + 1 ≤ (g.reg.procs a).oomadj) ∧
          ((req.killReason = .lowSwapAndThrashing ∨ req.killReason = .lowMemAndSwap) →
            .wmarkMin < w → (g.firstKill = true → .wmarkMin < again.wmark) →
            inp.thrashing.toInt < props.thrashingCriticalPct.toInt →
            perceptibleAppAdj + 1 ≤ (g.reg.procs a).oomadj)) := by
  have hi := lmkdSystem_inv h₀ hg
  have hw1 : 1 ≤ s.wbfEffective.toInt := by
    rcases (staticsSystem_reachable_inv hs).wbf with heq | hr
    · rw [heq]
      exact hfactor
    · exact hr.1
  obtain ⟨w₁, w₂, h₁, h₂, hle⟩ := updateWatermarks_antitone_wbf hmglru hcalc hz level events inCompaction
    hc hcma (by decide : 1 ≤ (1 : Int32).toInt) hw1
  obtain rfl : w₂ = w := Except.ok.inj (h₂.symm.trans hw)
  refine ⟨⟨w₁, h₁, hle, fun again₁ h =>
    mpEventPsiKillDecision_isSome_of_le props inp g.firstKill checkFilecache hle again again₁ h⟩, ?_⟩
  rcases mpEventPsi_decisionPasses cfg kenv level events hpasses g with h | ⟨req, g₁, currTm, hreq, hg₁, hkill⟩
  · exact ⟨[], by rw [h.kills, List.nil_append], fun _ => rfl, fun _ hk => absurd hk List.not_mem_nil⟩
  · obtain ⟨ks, hks, hvic⟩ := mpEventPsiKill_victims (hg₁.inv hi) hu kenv currTm
      (mpEventPsiKillDecision_minScoreAdj_nonneg hreq) false
    refine ⟨ks, by rw [hkill.kills, hks, hg₁.kills], fun hnone => absurd (hreq.symm.trans hnone) (by simp),
      fun k hk => ?_⟩
    obtain ⟨a, ha, hpid, hadj, hgone⟩ := hvic k hk
    rw [hg₁.reg] at ha hpid hadj
    rw [if_neg Bool.false_ne_true] at hadj
    refine ⟨a, req, ha, hpid, hreq, hadj, by rw [hkill.reg]; exact hgone,
      fun hstall hstall' => ⟨fun hlow => ?_, fun hswap hmin hmin' hthrashing => ?_⟩⟩
    · -- a kill for a cached app is at `lowmem_min_oom_score`
      have hfloor := ((mpEventPsiKillDecision_floors hstall hstall' hreq).1 hlow).2
      exact Int32.le_trans hfloor hadj
    · -- a kill for low swap above the min watermark is above perceptible apps
      have hfloor := mpEventPsiKillDecision_swapFloor hmin hmin' hthrashing hstall hstall' hreq hswap
      exact hfloor ▸ hadj

def boostZoneinfo : List Char :=
  ("Node 0, zone Normal\n nr_inactive_file 0\n nr_active_file 0\n nr_free_pages 1000\n" ++
    " min 300\n low 600\n high 800\n present 1\n pagesets\n").toList

def boostSource : WatermarkSource := ⟨false, 0, fun _ => 0, false, id⟩

def lowMemSample : PsiSample :=
  let p := decisionPasses afterKillDecisionProps quietInputs false ⟨.wmarkLow, false⟩ ⟨.wmarkLow, false⟩
  ⟨some ⟨20, 0⟩, true, true, .noReclaim, false, false, p.1, p.2⟩

set_option maxRecDepth 100000 in
/-- After client 1 registers apps 100 and 101, and the perf library sets
boost factor 3, a kill leaves `wbf_effective` at 2.  The zone clears the
unboosted watermarks, but at boost 2 its free pages fall below the boosted
low watermark: the decision kills a cached app, app 100 at score 1000. -/
theorem mpEventPsi_boostedWatermark_kills_lowMem :
    ∃ g₀ g s zi zmi, exampleConfig.isUserdebugOrEngBuild = false ∧
      lmkdInit exampleConfig exampleInitEnv = some g₀ ∧ (lmkdSystem exampleConfig g₀).Reachable g ∧
      (staticsSystem.restrict fun _ a => a.Valid).Reachable s ∧ 1 ≤ s.props.wmarkBoostFactor.toInt ∧
      boostSource.mglruStatus = 0 ∧ zoneinfoParse (some boostZoneinfo) = some zi ∧
      calcZoneWatermarks (boostSource.watermarkEnv s.wbfEffective) zi = .ok zmi ∧ zmi.Bounded ∧
      PageCount (nrCachedPages (boostSource.lowestEnv s.wbfEffective) zmi 1 1 false) ∧
      zmi.cmaFree ≤ zmi.nrFreePages ∧
      updateWatermarks boostSource s.wbfEffective 1 1 false zi = .ok .wmarkLow ∧
      (lowMemSample.pass, lowMemSample.firstKillPass) =
        decisionPasses afterKillDecisionProps quietInputs false ⟨.wmarkLow, false⟩ ⟨.wmarkLow, false⟩ ∧
      ((∃ w₁, updateWatermarks boostSource 1 1 1 false zi = .ok w₁ ∧ .wmarkLow ≤ w₁ ∧
        ∀ again₁ : PassReading,
          (mpEventPsiKillDecision afterKillDecisionProps quietInputs g.firstKill false
            ⟨w₁, false⟩ again₁).1.isSome →
          (mpEventPsiKillDecision afterKillDecisionProps quietInputs g.firstKill false
            ⟨.wmarkLow, false⟩ ⟨.wmarkLow, false⟩).1.isSome) ∧
      ∃ ks, (mpEventPsi exampleConfig (appsKillEnv 4000 true) 1 1 lowMemSample g).kills = ks ++ g.kills ∧
        ((mpEventPsiKillDecision afterKillDecisionProps quietInputs g.firstKill false
          ⟨.wmarkLow, false⟩ ⟨.wmarkLow, false⟩).1 = none → ks = []) ∧
        ∀ k ∈ ks, ∃ a req, g.reg.Mem a ∧ (g.reg.procs a).pid = k.1 ∧
          (mpEventPsiKillDecision afterKillDecisionProps quietInputs g.firstKill false
            ⟨.wmarkLow, false⟩ ⟨.wmarkLow, false⟩).1 = some req ∧
          req.minScoreAdj ≤ (g.reg.procs a).oomadj ∧
          (mpEventPsi exampleConfig (appsKillEnv 4000 true) 1 1 lowMemSample g).reg.view k.1 = none ∧
          (false = false → (⟨.wmarkLow, false⟩ : PassReading).criticalStall = false →
            (req.killReason = .lowMem → perceptibleAppAdj + 1 ≤ (g.reg.procs a).oomadj) ∧
            ((req.killReason = .lowSwapAndThrashing ∨ req.killReason = .lowMemAndSwap) →
              .wmarkMin < ZoneWatermark.wmarkLow →
              (g.firstKill = true → .wmarkMin < (⟨.wmarkLow, false⟩ : PassReading).wmark) →
              quietInputs.thrashing.toInt < afterKillDecisionProps.thrashingCriticalPct.toInt →
              perceptibleAppAdj + 1 ≤ (g.reg.procs a).oomadj))) ∧
      updateWatermarks boostSource 1 1 1 false zi = .ok .wmarkNone ∧
      (mpEventPsi exampleConfig (appsKillEnv 4000 true) 1 1 lowMemSample g).kills.map Prod.fst = [100] := by
  have hrun : ((lmkdInit exampleConfig exampleInitEnv).bind fun g₀ =>
      ((lmkdSystem exampleConfig g₀).runFrom g₀ registerTwoApps).bind fun g =>
        ((lmkdSystem exampleConfig g₀).runFrom g []).map fun _ =>
          (mpEventPsi exampleConfig (appsKillEnv 4000 true) 1 1 lowMemSample g).kills.map Prod.fst) =
      some [100] := by
    decide +kernel
  obtain ⟨g₀, g, -, h₀, hg, -, hkills⟩ := exists_run_then hrun
  have hsrun : ((staticsSystem.restrict fun _ a => a.Valid).run
      [.updateProps perfReading, .psiCall thrashingKillCall]).map
        (fun s => (s.wbfEffective, s.props.wmarkBoostFactor)) = some (2, 3) := by
    decide
  obtain ⟨s, hsrun', hobs⟩ := Option.map_eq_some_iff.mp hsrun
  have hs := System.reachable_of_run _ hsrun'
  obtain ⟨hwbf, hfac⟩ := Prod.mk.inj hobs
  have hfactor : 1 ≤ s.props.wmarkBoostFactor.toInt := by
    rw [hfac]
    decide
  have hparse : (zoneinfoParse (some boostZoneinfo)).map (fun zi =>
      (calcZoneWatermarks (boostSource.watermarkEnv 2) zi, updateWatermarks boostSource 2 1 1 false zi,
        updateWatermarks boostSource 1 1 1 false zi)) =
      some (.ok ⟨1000, 0, 0, 0, ⟨800, 600, 300⟩⟩, .ok .wmarkLow, .ok .wmarkNone) := by
    decide +kernel
  obtain ⟨zi, hzi, hobs'⟩ := Option.map_eq_some_iff.mp hparse
  simp only [Prod.mk.injEq] at hobs'
  obtain ⟨hcalc, hboosted, hunboosted⟩ := hobs'
  rw [← hwbf] at hcalc hboosted
  have hz : ZoneMeminfo.Bounded ⟨1000, 0, 0, 0, ⟨800, 600, 300⟩⟩ :=
    ⟨by decide, by decide, by decide, by decide, by decide⟩
  have hc : PageCount (nrCachedPages (boostSource.lowestEnv s.wbfEffective) ⟨1000, 0, 0, 0, ⟨800, 600, 300⟩⟩
      1 1 false) := by
    rw [hwbf]
    decide
  have hcma : (⟨1000, 0, 0, 0, ⟨800, 600, 300⟩⟩ : ZoneMeminfo).cmaFree ≤ 1000 := by decide
  exact ⟨g₀, g, s, zi, _, rfl, h₀, hg, hs, hfactor, rfl, hzi, hcalc, hz, hc, hcma, hboosted, rfl,
    mpEventPsi_boostedWatermark_kills rfl h₀ hg hs hfactor rfl hcalc hz hc hcma hboosted rfl _,
    hunboosted, hkills⟩

end Lmkd
