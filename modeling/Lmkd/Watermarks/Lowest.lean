import Lmkd.Watermarks
import Lmkd.Psi.Decision
import Lmkd.Lib.FirstTry
import Lmkd.Lib.IntExact
import Mathlib

/-!
# `get_lowest_watermark`

The watermark a pass of `mp_event_psi` hands to the decision is the lowest
one that the zone totals of `calc_zone_watermarks` breach: the free pages
less the CMA pages, with a share of the file pages counted as free when
`should_consider_cache_free` allows, against the min watermark, then against
the low and the high watermark boosted by `wbf_effective`.

The share is `(int64_t)(cache_percent * file_cache)`, computed in float; the
model takes it as a function of the file pages (`LowestWatermarkEnv`).

Over the integers the check is the first of three tests that the free pages
pass (`watermarkTests`), and each test a number of pages passes is passed
by every smaller number.  With page counts below `2^31` no `int64_t`
operation overflows, so the code computes that check
(`getLowestWatermark_toNat`), more free pages never give a lower
watermark (`getLowestWatermark_mono`), and a larger boost never gives a
higher one (`getLowestWatermark_antitone_wbf`).
-/

namespace Lmkd

/-- `should_consider_cache_free(events, level, in_compaction)`; `cachePercent`
is whether the float `cache_percent` is nonzero. -/
def shouldConsiderCacheFree (cachePercent : Bool) (events : UInt32) (level : Nat)
    (inCompaction : Bool) : Bool :=
  if cachePercent then
    if inCompaction then false
    else if level < vmpressLevelCritical then true
    -- polled critical events
    else if events = 0 ∧ level = vmpressLevelCritical then true
    else false
  else false

/-- What `get_lowest_watermark` reads besides its arguments. -/
structure LowestWatermarkEnv where
  /-- `cache_percent != 0` -/
  cachePercent : Bool
  /-- `(int64_t)(cache_percent * file_cache)`, computed in float -/
  cacheShare : Int64 → Int64
  wbfEffective : Int32

/-- `nr_cached_pages` of `get_lowest_watermark`: the file pages counted as
free. -/
def nrCachedPages (env : LowestWatermarkEnv) (zmi : ZoneMeminfo) (level : Nat) (events : UInt32)
    (inCompaction : Bool) : Int64 :=
  if shouldConsiderCacheFree env.cachePercent events level inCompaction then
    let fileCache := zmi.nrZoneInactiveFile + zmi.nrZoneActiveFile
    if fileCache > 0 then env.cacheShare fileCache else 0
  else 0

/-- `get_lowest_watermark(mi, zmi, level, events, in_compaction)`, which does
not read `mi`; the debug log is left out.  `wbf_effective` is an `int`,
converted to `int64_t` in each product. -/
def getLowestWatermark (env : LowestWatermarkEnv) (zmi : ZoneMeminfo) (level : Nat) (events : UInt32)
    (inCompaction : Bool) : ZoneWatermark :=
  let nrFreePages := zmi.nrFreePages - zmi.cmaFree
  let nrCachedPages := nrCachedPages env zmi level events inCompaction
  let wbf := env.wbfEffective.toInt64
  if nrFreePages + nrCachedPages < zmi.watermarks.minWmark then .wmarkMin
  else if nrFreePages + nrCachedPages * wbf < wbf * zmi.watermarks.lowWmark then .wmarkLow
  else if nrFreePages + nrCachedPages * wbf < wbf * zmi.watermarks.highWmark then .wmarkHigh
  else .wmarkNone

/-! ## The check over the integers -/

/-- The three tests of `get_lowest_watermark` on the free pages `f`, over the
integers: the min watermark against the free and cached pages, the low and
the high one boosted by `wbf`. -/
def watermarkTests (cached wbf : Int) (w : ZoneWatermarks) : List (Int → Bool) :=
  [fun f => f + cached < w.minWmark.toInt, fun f => f + cached * wbf < wbf * w.lowWmark.toInt,
    fun f => f + cached * wbf < wbf * w.highWmark.toInt]

theorem watermarkTests_antitone (cached wbf : Int) (w : ZoneWatermarks) :
    ∀ t ∈ watermarkTests cached wbf w, ∀ f f' : Int, f ≤ f' → t f' = true → t f = true := by
  intro t ht f f' hle hf'
  simp only [watermarkTests, List.mem_cons, List.not_mem_nil, or_false] at ht
  rcases ht with rfl | rfl | rfl <;> simp only [decide_eq_true_eq] at hf' ⊢ <;> omega

/-! ## The code computes the check -/

/-- A page count whose product with an `int` fits in `int64_t`. -/
def PageCount (x : Int64) : Prop := -2 ^ 31 < x.toInt ∧ x.toInt < 2 ^ 31

instance : DecidablePred PageCount := fun _ => inferInstanceAs (Decidable (_ ∧ _))

structure ZoneMeminfo.Bounded (zmi : ZoneMeminfo) : Prop where
  nrFreePages : PageCount zmi.nrFreePages
  cmaFree : PageCount zmi.cmaFree
  minWmark : PageCount zmi.watermarks.minWmark
  lowWmark : PageCount zmi.watermarks.lowWmark
  highWmark : PageCount zmi.watermarks.highWmark

theorem PageCount.mul_bounds {x : Int64} (hx : PageCount x) (w : Int32) :
    -2 ^ 62 ≤ x.toInt * w.toInt ∧ x.toInt * w.toInt < 2 ^ 62 := by
  have := w.le_toInt
  have := w.toInt_lt
  constructor <;> nlinarith [hx.1, hx.2]

theorem PageCount.toInt_mul {x : Int64} (hx : PageCount x) (w : Int32) :
    (x * w.toInt64).toInt = x.toInt * w.toInt ∧ (w.toInt64 * x).toInt = w.toInt * x.toInt := by
  have hw : w.toInt64.toInt = w.toInt := Int32.toInt_toInt64 w
  obtain ⟨hlo, hhi⟩ := hx.mul_bounds w
  constructor
  · rw [Int64.toInt_mul_of_inRange (by rw [hw]; exact ⟨by omega, by omega⟩), hw]
  · rw [Int64.toInt_mul_of_inRange (by rw [hw]; exact ⟨by linarith, by linarith⟩), hw]

section Check

variable (env : LowestWatermarkEnv) {zmi : ZoneMeminfo} (hz : zmi.Bounded) (level : Nat)
  (events : UInt32) (inCompaction : Bool)
  (hc : PageCount (nrCachedPages env zmi level events inCompaction))
include hz hc

theorem getLowestWatermark_toNat :
    (getLowestWatermark env zmi level events inCompaction).toNat =
      (watermarkTests (nrCachedPages env zmi level events inCompaction).toInt env.wbfEffective.toInt
        zmi.watermarks).findIdx fun t => t (zmi.nrFreePages.toInt - zmi.cmaFree.toInt) := by
  generalize hcv : nrCachedPages env zmi level events inCompaction = c at hc
  -- the free pages, a difference of two page counts, are below `2^32`
  have hfb : -2 ^ 32 < zmi.nrFreePages.toInt - zmi.cmaFree.toInt ∧
      zmi.nrFreePages.toInt - zmi.cmaFree.toInt < 2 ^ 32 := by
    have := hz.nrFreePages
    have := hz.cmaFree
    unfold PageCount at *
    omega
  have hf : (zmi.nrFreePages - zmi.cmaFree).toInt = zmi.nrFreePages.toInt - zmi.cmaFree.toInt :=
    Int64.toInt_sub_of_inRange ⟨by omega, by omega⟩
  have hcwb := hc.mul_bounds env.wbfEffective
  have hcw := (hc.toInt_mul env.wbfEffective).1
  have hsum : (zmi.nrFreePages - zmi.cmaFree + c).toInt =
      zmi.nrFreePages.toInt - zmi.cmaFree.toInt + c.toInt := by
    have := hc.1
    have := hc.2
    rw [Int64.toInt_add_of_inRange (by rw [hf]; exact ⟨by omega, by omega⟩), hf]
  have hsumw : (zmi.nrFreePages - zmi.cmaFree + c * env.wbfEffective.toInt64).toInt =
      zmi.nrFreePages.toInt - zmi.cmaFree.toInt + c.toInt * env.wbfEffective.toInt := by
    rw [Int64.toInt_add_of_inRange (by rw [hf, hcw]; exact ⟨by omega, by omega⟩), hf, hcw]
  simp only [getLowestWatermark, hcv, Int64.lt_iff_toInt_lt, hsum, hsumw, (hz.lowWmark.toInt_mul _).2,
    (hz.highWmark.toInt_mul _).2,
    watermarkTests, List.findIdx_cons, List.findIdx_nil, Bool.cond_decide]
  split_ifs <;> rfl

end Check

/-- More free pages never make `get_lowest_watermark` report a lower
watermark: for zone totals that differ only in their free pages, all page
counts below `2^31` in magnitude, whatever `wbf_effective`, the file pages
counted as free and the event. -/
theorem getLowestWatermark_mono (env : LowestWatermarkEnv) {zmi : ZoneMeminfo} (hz : zmi.Bounded)
    (level : Nat) (events : UInt32) (inCompaction : Bool)
    (hc : PageCount (nrCachedPages env zmi level events inCompaction)) {free : Int64}
    (hfree : PageCount free) (hle : zmi.nrFreePages ≤ free) :
    getLowestWatermark env zmi level events inCompaction ≤
      getLowestWatermark env { zmi with nrFreePages := free } level events inCompaction := by
  have hz' : ZoneMeminfo.Bounded { zmi with nrFreePages := free } :=
    ⟨hfree, hz.cmaFree, hz.minWmark, hz.lowWmark, hz.highWmark⟩
  have hc' : PageCount (nrCachedPages env { zmi with nrFreePages := free } level events inCompaction) := hc
  show (getLowestWatermark env zmi level events inCompaction).toNat ≤
    (getLowestWatermark env { zmi with nrFreePages := free } level events inCompaction).toNat
  rw [getLowestWatermark_toNat env hz level events inCompaction hc,
    getLowestWatermark_toNat env hz' level events inCompaction hc']
  exact FirstTry.findIdx_le_findIdx_of_antitone _ (watermarkTests_antitone _ _ _)
    (by have := Int64.le_iff_toInt_le.mp hle; dsimp only; omega)

theorem boosted_breach_mono {f c w w₁ w₂ : Int} (hf : 0 ≤ f) (h1 : 1 ≤ w₁) (h12 : w₁ ≤ w₂)
    (h : f + c * w₁ < w₁ * w) : f + c * w₂ < w₂ * w := by
  have e₁ : w₁ * (w - c) = w₁ * w - c * w₁ := by ring
  have e₂ : w₂ * (w - c) = w₂ * w - c * w₂ := by ring
  -- the breach is `f < w₁ * (w - c)`, so the watermark lies above the cached pages
  have hwc : 0 < w - c := by
    by_contra hn
    have : w₁ * (w - c) ≤ 0 := mul_nonpos_of_nonneg_of_nonpos (by omega) (by omega)
    linarith
  have hmono : w₁ * (w - c) ≤ w₂ * (w - c) := mul_le_mul_of_nonneg_right h12 hwc.le
  linarith

theorem getLowestWatermark_antitone_wbf (env : LowestWatermarkEnv) {zmi : ZoneMeminfo} (hz : zmi.Bounded)
    (level : Nat) (events : UInt32) (inCompaction : Bool)
    (hc : PageCount (nrCachedPages env zmi level events inCompaction)) (hcma : zmi.cmaFree ≤ zmi.nrFreePages)
    {w₁ w₂ : Int32} (h1 : 1 ≤ w₁.toInt) (h12 : w₁.toInt ≤ w₂.toInt) :
    getLowestWatermark { env with wbfEffective := w₂ } zmi level events inCompaction ≤
      getLowestWatermark { env with wbfEffective := w₁ } zmi level events inCompaction := by
  have hc₁ : PageCount (nrCachedPages { env with wbfEffective := w₁ } zmi level events inCompaction) := hc
  have hc₂ : PageCount (nrCachedPages { env with wbfEffective := w₂ } zmi level events inCompaction) := hc
  have hf : 0 ≤ zmi.nrFreePages.toInt - zmi.cmaFree.toInt := by
    have := Int64.le_iff_toInt_le.mp hcma
    omega
  show (getLowestWatermark _ zmi level events inCompaction).toNat ≤
    (getLowestWatermark _ zmi level events inCompaction).toNat
  rw [getLowestWatermark_toNat _ hz level events inCompaction hc₂,
    getLowestWatermark_toNat _ hz level events inCompaction hc₁]
  apply FirstTry.findIdx_le_findIdx_of_forall₂
  -- the min watermark is not boosted; the low and the high one are
  refine .cons id (.cons ?_ (.cons ?_ .nil)) <;> simp only [decide_eq_true_eq] <;>
    exact boosted_breach_mono hf h1 h12

/-! ## The watermark of a pass

A pass of `mp_event_psi` computes its watermark from the zones
`zoneinfo_parse` read: `calc_zone_watermarks` sums them, and
`get_lowest_watermark` compares the totals, both at `wbf_effective`.  The
boost reaches the sums only through MGLRU, which counts the file pages of a
zone whose free pages are at most its boosted high watermark; with MGLRU
off the sums do not read it, and the pass reports no higher a watermark at a
larger boost. -/

/-- What `calc_zone_watermarks` and `get_lowest_watermark` read besides the
zones, the event and `wbf_effective`. -/
structure WatermarkSource where
  debugProcessKilling : Bool
  mglruStatus : Int32
  pgskipDeltas : Fin pgskipCount → Int64
  cachePercent : Bool
  cacheShare : Int64 → Int64

def WatermarkSource.watermarkEnv (src : WatermarkSource) (wbf : Int32) : WatermarkEnv :=
  ⟨src.debugProcessKilling, src.mglruStatus, wbf, src.pgskipDeltas⟩

def WatermarkSource.lowestEnv (src : WatermarkSource) (wbf : Int32) : LowestWatermarkEnv :=
  ⟨src.cachePercent, src.cacheShare, wbf⟩

/-- `calc_zone_watermarks(&zi, &zone_mem_info, pgskip_deltas)`, then
`get_lowest_watermark(&mi, &zone_mem_info, level, events, in_compaction)`,
at the boost `wbf`. -/
def updateWatermarks (src : WatermarkSource) (wbf : Int32) (level : Nat) (events : UInt32)
    (inCompaction : Bool) (zi : Zoneinfo) : Except Int ZoneWatermark := do
  let zmi ← calcZoneWatermarks (src.watermarkEnv wbf) zi
  return getLowestWatermark (src.lowestEnv wbf) zmi level events inCompaction

section MglruOff

variable {src : WatermarkSource} (hm : src.mglruStatus = 0)
include hm

theorem calcZoneWatermarksZone_wbf (w w' : Int32) :
    calcZoneWatermarksZone (src.watermarkEnv w) = calcZoneWatermarksZone (src.watermarkEnv w') := by
  funext zone acc k
  simp [calcZoneWatermarksZone, WatermarkSource.watermarkEnv, hm]

theorem calcZoneWatermarks_wbf (w w' : Int32) (zi : Zoneinfo) :
    calcZoneWatermarks (src.watermarkEnv w) zi = calcZoneWatermarks (src.watermarkEnv w') zi := by
  have hnode : calcZoneWatermarksNode (src.watermarkEnv w) = calcZoneWatermarksNode (src.watermarkEnv w') := by
    funext zi acc nodeIdx
    simp only [calcZoneWatermarksNode, calcZoneWatermarksZone_wbf hm w w']
  simp only [calcZoneWatermarks, hnode]

theorem updateWatermarks_antitone_wbf {zi : Zoneinfo} {zmi : ZoneMeminfo} {w₁ w₂ : Int32}
    (hcalc : calcZoneWatermarks (src.watermarkEnv w₂) zi = .ok zmi) (hz : zmi.Bounded)
    (level : Nat) (events : UInt32) (inCompaction : Bool)
    (hc : PageCount (nrCachedPages (src.lowestEnv w₂) zmi level events inCompaction))
    (hcma : zmi.cmaFree ≤ zmi.nrFreePages) (h1 : 1 ≤ w₁.toInt) (h12 : w₁.toInt ≤ w₂.toInt) :
    ∃ m₁ m₂, updateWatermarks src w₁ level events inCompaction zi = .ok m₁ ∧
      updateWatermarks src w₂ level events inCompaction zi = .ok m₂ ∧ m₂ ≤ m₁ := by
  have hcalc₁ : calcZoneWatermarks (src.watermarkEnv w₁) zi = .ok zmi := by
    rw [calcZoneWatermarks_wbf hm w₁ w₂, hcalc]
  refine ⟨_, _, by rw [updateWatermarks, hcalc₁]; rfl, by rw [updateWatermarks, hcalc]; rfl, ?_⟩
  exact getLowestWatermark_antitone_wbf (src.lowestEnv w₂) hz level events inCompaction hc hcma h1 h12

end MglruOff

def halfCacheEnv : LowestWatermarkEnv := ⟨true, fun x => x / 2, 2⟩

def sampleZoneMeminfo : ZoneMeminfo := ⟨1000, 100, 200, 300, ⟨3000, 2000, 1000⟩⟩

example : getLowestWatermark halfCacheEnv sampleZoneMeminfo vmpressLevelMedium 1 false = .wmarkLow := by
  decide

/-- With 5000 free pages the medium event sees the high watermark breached,
no longer the low one. -/
theorem getLowestWatermark_mono_sample :
    sampleZoneMeminfo.Bounded ∧ PageCount (nrCachedPages halfCacheEnv sampleZoneMeminfo 1 1 false) ∧
      PageCount 5000 ∧ sampleZoneMeminfo.nrFreePages ≤ 5000 ∧
      getLowestWatermark halfCacheEnv sampleZoneMeminfo 1 1 false ≤
        getLowestWatermark halfCacheEnv { sampleZoneMeminfo with nrFreePages := 5000 } 1 1 false :=
  have hz : sampleZoneMeminfo.Bounded := ⟨by decide, by decide, by decide, by decide, by decide⟩
  have hc : PageCount (nrCachedPages halfCacheEnv sampleZoneMeminfo 1 1 false) := by decide
  have hfree : PageCount 5000 := by decide
  have hle : sampleZoneMeminfo.nrFreePages ≤ 5000 := by decide
  ⟨hz, hc, hfree, hle, getLowestWatermark_mono halfCacheEnv hz 1 1 false hc hfree hle⟩

end Lmkd
