import Lmkd.Watermarks
import Lmkd.Lib.ExceptFold

/-!
# The cursor of `calc_zone_watermarks`

The positional cursor over `pgskip_deltas` is moved by the skip over
negative entries, by every zone that is not present, by the fallback for a
zone whose name no `vmstat` field contains, and by the debug log.  Two
consequences for the code:

* on a kernel whose `vmstat` has none of the `pgskip` counters, every delta is
  -1 and the skip of the first zone runs off the end of the array
  (`calcZoneWatermarks_of_missingPgskip`);
* the debug log adds one read and one step of the cursor for each present
  zone and changes nothing else in that zone (`calcZoneWatermarksZone_debug`);
  when every present zone is found by its name, the cursor is then never
  read for a value, and the debug run, when it succeeds, gives the result of
  the run without it (`calcZoneWatermarks_debug_of_named`).  A zone that
  takes the fallback reads the cursor, and there debug logging changes the
  result.
-/

namespace Lmkd

open ExceptFold

/-! ## The skip over negative deltas -/

theorem pgskipWhileNeg_of_neg : ∀ (l : List Int64) (k : Nat), (∀ v ∈ l, v < 0) →
    pgskipWhileNeg l k = .error (k + l.length)
  | [], _, _ => rfl
  | v :: l, k, hneg => by
    rw [pgskipWhileNeg, if_pos (hneg v List.mem_cons_self),
      pgskipWhileNeg_of_neg l (k + 1) fun w hw => hneg w (List.mem_cons_of_mem v hw)]
    congr 1
    rw [List.length_cons]
    omega

theorem pgskipWhileNeg_ge : ∀ (l : List Int64) (k j : Nat), pgskipWhileNeg l k = .ok j → k ≤ j
  | [], _, _, h => by cases h
  | v :: l, k, j, h => by
    rw [pgskipWhileNeg] at h
    split at h
    · exact Nat.le_of_succ_le (pgskipWhileNeg_ge l (k + 1) j h)
    · cases h
      exact Nat.le_refl k

theorem pgskipWhileNeg_drop_mono (l : List Int64) {j' : Nat} :
    ∀ (d k : Nat), pgskipWhileNeg (l.drop (k + d)) (k + d) = .ok j' →
      ∃ j, pgskipWhileNeg (l.drop k) k = .ok j ∧ j ≤ j'
  | 0, _, h => ⟨j', h, Nat.le_refl j'⟩
  | d + 1, k, h => by
    have hlen : k < l.length := by
      by_contra hout
      rw [List.drop_eq_nil_of_le (by omega)] at h
      cases h
    rw [List.drop_eq_getElem_cons hlen, pgskipWhileNeg]
    split
    · -- the entry at `k` is negative: the skip goes on from `k + 1`
      exact pgskipWhileNeg_drop_mono l d (k + 1) (by rwa [Nat.add_right_comm, Nat.add_assoc])
    · exact ⟨k, rfl, by have := pgskipWhileNeg_ge _ _ _ h; omega⟩

/-! ## A kernel without `pgskip` counters -/

theorem fillLogPgskipStats_of_missing {mglruStatus : Int32} {vs : Fin vsFieldCount → Int64}
    (initPgskip : Fin pgskipCount → Int64) (hmglru : ¬ mglruStatus > 0)
    (hvs : ∀ i : Fin vsFieldCount, vsPgskipFirstZone ≤ i.val → i.val ≤ vsPgskipLastZone → vs i < 0)
    (k : Fin pgskipCount) : fillLogPgskipStats mglruStatus vs initPgskip k = -1 := by
  have hk : k.val < 5 := k.isLt
  have hlast : vsPgskipFirstZone + k.val ≤ vsPgskipLastZone := by
    unfold vsPgskipFirstZone vsPgskipLastZone
    omega
  have hneg := hvs ⟨vsPgskipFirstZone + k, by unfold vsFieldCount; unfold vsPgskipLastZone at hlast; omega⟩
    (Nat.le_add_right _ _) hlast
  simp only [fillLogPgskipStats, if_neg hmglru]
  exact if_neg (Int64.not_le.mpr hneg)

theorem calcZoneWatermarksZone_of_skip_error {env : WatermarkEnv} {zone : ZoneinfoZone}
    {acc : WatermarkAcc} {k : Nat} {e : Int}
    (h : pgskipWhileNeg ((List.ofFn env.pgskipDeltas).drop k) k = .error e) :
    calcZoneWatermarksZone env zone acc k = .error e := by
  rw [calcZoneWatermarksZone, h]
  rfl

theorem calcZoneWatermarksNode_of_neg {env : WatermarkEnv} (zi : Zoneinfo) (acc : WatermarkAcc)
    {nodeIdx : Nat} (hneg : ∀ k, env.pgskipDeltas k < 0) (hzone : 0 < (zi.nodes nodeIdx).zoneCount) :
    calcZoneWatermarksNode env zi acc nodeIdx = .error pgskipCount := by
  obtain ⟨n, hn⟩ : ∃ n, (zi.nodes nodeIdx).zoneCount = n + 1 := ⟨_, (Nat.succ_pred_eq_of_pos hzone).symm⟩
  have hskip : pgskipWhileNeg ((List.ofFn env.pgskipDeltas).drop 0) 0 = .error pgskipCount := by
    rw [List.drop_zero, pgskipWhileNeg_of_neg _ 0 (by simpa using hneg), List.length_ofFn]
    rfl
  rw [calcZoneWatermarksNode]
  simp only [hn, List.range_succ_eq_map, List.foldlM_cons, calcZoneWatermarksZone_of_skip_error hskip]
  rfl

theorem calcZoneWatermarks_of_neg {env : WatermarkEnv} (zi : Zoneinfo)
    (hneg : ∀ k, env.pgskipDeltas k < 0) (hnode : 0 < zi.nodeCount)
    (hzone : 0 < (zi.nodes 0).zoneCount) :
    calcZoneWatermarks env zi = .error pgskipCount := by
  obtain ⟨n, hn⟩ : ∃ n, zi.nodeCount = n + 1 := ⟨_, (Nat.succ_pred_eq_of_pos hnode).symm⟩
  rw [calcZoneWatermarks]
  simp only [hn, List.range_succ_eq_map, List.foldlM_cons, calcZoneWatermarksNode_of_neg zi _ hneg hzone]
  rfl

theorem calcZoneWatermarks_of_missingPgskip (debugProcessKilling : Bool) {mglruStatus : Int32}
    (wbfEffective : Int32) {vs : Fin vsFieldCount → Int64} (initPgskip : Fin pgskipCount → Int64)
    (zi : Zoneinfo) (hmglru : ¬ mglruStatus > 0)
    (hvs : ∀ i : Fin vsFieldCount, vsPgskipFirstZone ≤ i.val → i.val ≤ vsPgskipLastZone → vs i < 0)
    (hnode : 0 < zi.nodeCount) (hzone : 0 < (zi.nodes 0).zoneCount) :
    calcZoneWatermarks
        ⟨debugProcessKilling, mglruStatus, wbfEffective, fillLogPgskipStats mglruStatus vs initPgskip⟩ zi =
      .error pgskipCount := by
  apply calcZoneWatermarks_of_neg zi _ hnode hzone
  intro k
  show fillLogPgskipStats mglruStatus vs initPgskip k < 0
  rw [fillLogPgskipStats_of_missing initPgskip hmglru hvs k]
  decide

def normalZoneinfo : List Char :=
  ("Node 0, zone Normal\n nr_inactive_file 1\n nr_active_file 1\n nr_free_pages 1000\n" ++
    " present 1\n pagesets\n").toList

def noPgskipVmstat : List Char := "nr_free_pages 1000\nnr_inactive_file 1\nnr_active_file 1\n".toList

theorem calcZoneWatermarks_noPgskipVmstat :
    ((zoneinfoParse (some normalZoneinfo)).bind fun zi =>
        (vmstatParse (some noPgskipVmstat)).map fun vs =>
          calcZoneWatermarks ⟨false, 0, 1, fillLogPgskipStats 0 vs fun _ => 0⟩ zi) =
      some (.error 5) := by
  have hzi : (zoneinfoParse (some normalZoneinfo)).map
      (fun zi => decide (0 < zi.nodeCount ∧ 0 < (zi.nodes 0).zoneCount)) = some true := by
    decide +kernel
  have hvs : (vmstatParse (some noPgskipVmstat)).map (fun vs =>
      decide (∀ i : Fin vsFieldCount, vsPgskipFirstZone ≤ i.val → i.val ≤ vsPgskipLastZone → vs i < 0)) =
      some true := by
    decide +kernel
  obtain ⟨zi, hzi, hpos⟩ := Option.map_eq_some_iff.mp hzi
  obtain ⟨vs, hvs, hneg⟩ := Option.map_eq_some_iff.mp hvs
  obtain ⟨hnode, hzone⟩ := of_decide_eq_true hpos
  rw [hzi, hvs, Option.bind_some, Option.map_some,
    calcZoneWatermarks_of_missingPgskip false 1 _ zi (by decide) (of_decide_eq_true hneg) hnode hzone]
  rfl

/-! ## The debug log -/

theorem calcZoneWatermarksZone_debug (env : WatermarkEnv) (zone : ZoneinfoZone) (acc : WatermarkAcc)
    (k : Nat) :
    calcZoneWatermarksZone { env with debugProcessKilling := true } zone acc k =
      calcZoneWatermarksZone { env with debugProcessKilling := false } zone acc k >>= fun r =>
        if zone.fields ziZonePresent = 0 then pure r
        else readPgskip env.pgskipDeltas r.2 >>= fun _ => pure (r.1, r.2 + 1) := by
  simp only [calcZoneWatermarksZone]
  cases pgskipWhileNeg ((List.ofFn env.pgskipDeltas).drop k) k with
  | error e => rfl
  | ok j =>
    by_cases hp : zone.fields ziZonePresent = 0
    · simp [hp]
    · -- the reads before the log are the same in both runs
      cases getZonePgskipDeltasVal (strlcpy zone.name lineMax) env.pgskipDeltas with
      | error e => simp [hp]
      | ok v =>
        by_cases hfb : v = -2
        · cases hr : readPgskip env.pgskipDeltas j with
          | error e => simp [hp, hfb, hr]
          | ok w => by_cases hw : w = 0 <;> simp [hp, hfb, hr, hw]
        · by_cases hw : v = 0 <;> simp [hp, hfb, hw]

theorem calcZoneWatermarksZone_cursor_mono {env : WatermarkEnv}
    (hdebug : env.debugProcessKilling = false) {zone : ZoneinfoZone} {acc acc' : WatermarkAcc}
    {k k' j' : Nat} (hk : k ≤ k')
    (hnamed : zone.fields ziZonePresent ≠ 0 →
      getZonePgskipDeltasVal (strlcpy zone.name lineMax) env.pgskipDeltas ≠ .ok (-2))
    (h : calcZoneWatermarksZone env zone acc k' = .ok (acc', j')) :
    ∃ j, calcZoneWatermarksZone env zone acc k = .ok (acc', j) ∧ j ≤ j' := by
  rw [calcZoneWatermarksZone] at h ⊢
  obtain ⟨s', hs', hrest⟩ := bind_eq_ok h
  clear h
  obtain ⟨s, hs, hle⟩ :=
    pgskipWhileNeg_drop_mono _ (k' - k) k (by rwa [Nat.add_sub_cancel' hk])
  clear hs'
  rw [hs, ok_bind]
  by_cases hp : zone.fields ziZonePresent = 0
  · -- a zone that is not present steps past the cursor
    simp only [hp, if_true] at hrest ⊢
    cases hrest
    exact ⟨s + 1, rfl, by omega⟩
  · simp only [hp, if_false] at hrest ⊢
    obtain ⟨v, hv, hval⟩ := bind_eq_ok hrest
    have hfb : v ≠ -2 := fun hfb => hnamed hp (hfb ▸ hv)
    simp only [hv, ok_bind, hfb, if_false, hdebug, Bool.false_eq_true, pure_bind] at hval ⊢
    split at hval
    · rename_i hw
      cases hval
      exact ⟨s, by rw [if_pos hw]; rfl, hle⟩
    · rename_i hw
      cases hval
      exact ⟨s, by rw [if_neg hw]; rfl, hle⟩

theorem calcZoneWatermarksZone_debug_step {env : WatermarkEnv} {zone : ZoneinfoZone}
    (hnamed : zone.fields ziZonePresent ≠ 0 →
      getZonePgskipDeltasVal (strlcpy zone.name lineMax) env.pgskipDeltas ≠ .ok (-2))
    {acc acc' : WatermarkAcc} {k k' j' : Nat} (hk : k ≤ k')
    (h : calcZoneWatermarksZone { env with debugProcessKilling := true } zone acc k' = .ok (acc', j')) :
    ∃ j, calcZoneWatermarksZone { env with debugProcessKilling := false } zone acc k = .ok (acc', j) ∧
      j ≤ j' := by
  rw [calcZoneWatermarksZone_debug] at h
  obtain ⟨⟨acc₁, j₁⟩, hrun, h⟩ := bind_eq_ok h
  obtain ⟨j, hj, hle⟩ :=
    @calcZoneWatermarksZone_cursor_mono { env with debugProcessKilling := false } rfl _ _ _ _ _ _ hk
      hnamed hrun
  have hres : acc' = acc₁ ∧ j₁ ≤ j' := by
    split at h
    · cases h
      exact ⟨rfl, Nat.le_refl _⟩
    · obtain ⟨_, -, h⟩ := bind_eq_ok h
      cases h
      exact ⟨rfl, Nat.le_succ _⟩
  obtain ⟨rfl, hj₁⟩ := hres
  exact ⟨j, hj, Nat.le_trans hle hj₁⟩

theorem calcZoneWatermarksNode_debug {env : WatermarkEnv} {zi : Zoneinfo} {nodeIdx : Nat}
    (hnamed : ∀ z < (zi.nodes nodeIdx).zoneCount,
      ((zi.nodes nodeIdx).zones z).fields ziZonePresent ≠ 0 →
        getZonePgskipDeltasVal (strlcpy ((zi.nodes nodeIdx).zones z).name lineMax) env.pgskipDeltas ≠
          .ok (-2))
    {acc acc' : WatermarkAcc}
    (h : calcZoneWatermarksNode { env with debugProcessKilling := true } zi acc nodeIdx = .ok acc') :
    calcZoneWatermarksNode { env with debugProcessKilling := false } zi acc nodeIdx = .ok acc' := by
  rw [calcZoneWatermarksNode] at h ⊢
  obtain ⟨⟨acc₁, j₁⟩, hfold, h⟩ := bind_eq_ok h
  -- over the zones, both runs keep one accumulator, the debug run's cursor ahead
  have hstep : ∀ z ∈ List.range (zi.nodes nodeIdx).zoneCount, ∀ (a b b' : WatermarkAcc × Nat),
      a.1 = b.1 ∧ a.2 ≤ b.2 →
      calcZoneWatermarksZone { env with debugProcessKilling := true } ((zi.nodes nodeIdx).zones z)
          b.1 b.2 = .ok b' →
      ∃ a', calcZoneWatermarksZone { env with debugProcessKilling := false }
          ((zi.nodes nodeIdx).zones z) a.1 a.2 = .ok a' ∧ a'.1 = b'.1 ∧ a'.2 ≤ b'.2 := by
    rintro z hz ⟨a, k⟩ ⟨b, k'⟩ ⟨b', j'⟩ ⟨hab, hk⟩ hrun
    obtain ⟨j, hj, hle⟩ :=
      calcZoneWatermarksZone_debug_step (hnamed z (List.mem_range.mp hz)) hk (hab ▸ hrun)
    exact ⟨(b', j), hj, rfl, hle⟩
  obtain ⟨⟨acc₂, j₂⟩, hfold', hacc, -⟩ := foldlM_rel (fun a b => a.1 = b.1 ∧ a.2 ≤ b.2) _ hstep
    (acc, 0) (acc, 0) (acc₁, j₁) ⟨rfl, Nat.le_refl 0⟩ hfold
  cases hacc
  rw [hfold', ok_bind]
  exact h

theorem calcZoneWatermarks_debug_of_named (env : WatermarkEnv) (zi : Zoneinfo) (zmi : ZoneMeminfo)
    (hnamed : ∀ n < zi.nodeCount, ∀ z < (zi.nodes n).zoneCount,
      ((zi.nodes n).zones z).fields ziZonePresent ≠ 0 →
        getZonePgskipDeltasVal (strlcpy ((zi.nodes n).zones z).name lineMax) env.pgskipDeltas ≠ .ok (-2))
    (h : calcZoneWatermarks { env with debugProcessKilling := true } zi = .ok zmi) :
    calcZoneWatermarks { env with debugProcessKilling := false } zi = .ok zmi := by
  rw [calcZoneWatermarks] at h ⊢
  obtain ⟨acc, hfold, h⟩ := bind_eq_ok h
  have hstep : ∀ n ∈ List.range zi.nodeCount, ∀ (a b b' : WatermarkAcc), a = b →
      calcZoneWatermarksNode { env with debugProcessKilling := true } zi b n = .ok b' →
      ∃ a', calcZoneWatermarksNode { env with debugProcessKilling := false } zi a n = .ok a' ∧
        a' = b' := by
    rintro n hn a b b' rfl hnode
    exact ⟨b', calcZoneWatermarksNode_debug (hnamed n (List.mem_range.mp hn)) hnode, rfl⟩
  obtain ⟨acc', hfold', rfl⟩ := foldlM_rel Eq _ hstep _ _ acc rfl hfold
  rw [hfold', ok_bind]
  exact h

def normalHighMemZoneinfo : List Char :=
  ("Node 0, zone Normal\n nr_inactive_file 1\n nr_active_file 1\n nr_free_pages 1000\n" ++
    " present 1\n pagesets\nNode 0, zone HighMem\n nr_free_pages 500\n present 1\n pagesets\n").toList

def highPgskipVmstat : List Char := "pgskip_normal 100\npgskip_high 107\npgskip_movable 0\n".toList

def prevPgskip : Fin pgskipCount → Int64 := fun k => if k.val = 2 ∨ k.val = 3 then 100 else 0

/-- HighMem is found by no `vmstat` field name and takes its delta at the
cursor: 0 without the debug log, 7 with it. -/
theorem calcZoneWatermarks_debug_changes_freePages :
    ((zoneinfoParse (some normalHighMemZoneinfo)).bind fun zi =>
        (vmstatParse (some highPgskipVmstat)).map fun vs =>
          ((calcZoneWatermarks ⟨true, 0, 1, fillLogPgskipStats 0 vs prevPgskip⟩ zi).map
              ZoneMeminfo.nrFreePages,
            (calcZoneWatermarks ⟨false, 0, 1, fillLogPgskipStats 0 vs prevPgskip⟩ zi).map
              ZoneMeminfo.nrFreePages)) =
      some (.ok 1000, .ok 1500) := by
  decide +kernel

end Lmkd
