import Lmkd.Kill
import Lmkd.Monitors
import Mathlib

/-!
# The kill counters

`inc_killcnt` keeps a two-level index: `killcnt_idx` names, for each slot
with kills, an entry of `killcnt`, and the entries are handed out in order
by `killcnt_free_idx`.  Over kills at valid scores that use at most
`MAX_DISTINCT_OOM_ADJ` scores, with fewer than 65536 kills of each, the index
names distinct entries below `killcnt_free_idx`, and each named entry is the
number of kills at its slot (`KillcntInv`).  `get_killcnt` over a range that
starts at `-1000` or above then counts the kills whose score is in the range
(`getKillcnt_eq_countP`).

The loop of `get_killcnt` clips only the upper end of the range: from a
`min_oomadj` below `-1000` it reads the slots before the table.
-/

namespace Lmkd

/-- The counters after the kills at scores `ks`. -/
structure KillcntInv (g : Globals) (ks : List Int32) : Prop where
  valid : ∀ a ∈ ks, ValidAdj a
  distinct : ks.toFinset.card ≤ maxDistinctOomAdj
  free : g.killcntFreeIdx = Int32.ofNat ks.toFinset.card
  unused : ∀ s : Int, 0 ≤ s → s < adjToSlotCount →
    (g.killcntIdx s = killcntInvalidIdx ↔ ∀ a ∈ ks, a.toInt + 1000 ≠ s)
  idx_lt : ∀ s : Int, 0 ≤ s → s < adjToSlotCount → g.killcntIdx s ≠ killcntInvalidIdx →
    (g.killcntIdx s).toNat < ks.toFinset.card
  idx_inj : ∀ s s' : Int, 0 ≤ s → s < adjToSlotCount → 0 ≤ s' → s' < adjToSlotCount →
    g.killcntIdx s ≠ killcntInvalidIdx → g.killcntIdx s = g.killcntIdx s' → s = s'
  count : ∀ s : Int, 0 ≤ s → s < adjToSlotCount → g.killcntIdx s ≠ killcntInvalidIdx →
    (g.killcnt (g.killcntIdx s).toNat).toNat = ks.countP (fun a => a.toInt + 1000 = s)
  total : g.killcntTotal.toNat = ks.length % 2 ^ 32

theorem killcntInv_boot : KillcntInv Globals.boot [] where
  valid _ h := absurd h List.not_mem_nil
  distinct := by decide
  free := rfl
  unused s h₀ h₁ := by simp [Globals.boot, killcntInvalidIdx, h₀, h₁]
  idx_lt s h₀ h₁ h := by simp [Globals.boot, killcntInvalidIdx, h₀, h₁] at h
  idx_inj s _ h₀ h₁ _ _ h := by simp [Globals.boot, killcntInvalidIdx, h₀, h₁] at h
  count s h₀ h₁ h := by simp [Globals.boot, killcntInvalidIdx, h₀, h₁] at h
  total := rfl

/-! ## One kill -/

theorem slot_of_validAdj {a : Int32} (ha : ValidAdj a) :
    0 ≤ a.toInt + 1000 ∧ a.toInt + 1000 < adjToSlotCount := by
  rw [validAdj_iff] at ha
  unfold adjToSlotCount
  omega

theorem freeIdx_toUInt8 {n : Nat} (hn : n < 32) :
    ((Int32.ofNat n).toUInt32.toUInt8).toNat = n ∧ (Int32.ofNat n).toNatClampNeg = n := by
  have h : ∀ m : Fin 32, ((Int32.ofNat m).toUInt32.toUInt8).toNat = m ∧
      (Int32.ofNat m).toNatClampNeg = m := by decide
  exact h ⟨n, hn⟩

theorem countP_cons_slot (ks : List Int32) (a : Int32) (s : Int) :
    (a :: ks).countP (fun b => b.toInt + 1000 = s) =
      ks.countP (fun b => b.toInt + 1000 = s) + if a.toInt + 1000 = s then 1 else 0 := by
  rw [List.countP_cons]
  simp

theorem KillcntInv.total_succ {g : Globals} {ks : List Int32} (h : KillcntInv g ks) (a : Int32) :
    (g.killcntTotal + 1).toNat = (a :: ks).length % 2 ^ 32 := by
  rw [UInt32.toNat_add, h.total, List.length_cons]
  simp [Nat.add_mod]

theorem KillcntInv.incKillcnt_old {g : Globals} {ks : List Int32} (h : KillcntInv g ks)
    {a : Int32} (ha : ValidAdj a) (hold : g.killcntIdx (a.toInt + 1000) ≠ killcntInvalidIdx)
    (hcount : (a :: ks).countP (fun b => b = a) < 65536) :
    KillcntInv (incKillcnt g a) (a :: ks) := by
  obtain ⟨h₀, h₁⟩ := slot_of_validAdj ha
  have hmem : a ∈ ks := by
    by_contra hnot
    apply hold
    rw [h.unused _ h₀ h₁]
    intro b hb hba
    have hab : b = a := Int32.toInt_inj.mp (by omega)
    exact hnot (hab ▸ hb)
  have hcard : (a :: ks).toFinset.card = ks.toFinset.card := by
    rw [List.toFinset_cons, Finset.insert_eq_of_mem (List.mem_toFinset.mpr hmem)]
  have hat : ks.countP (fun b => b.toInt + 1000 = a.toInt + 1000) = ks.countP (fun b => b = a) := by
    apply List.countP_congr
    intro b _
    simp [Int32.toInt_inj]
  have hlt : (g.killcnt (g.killcntIdx (a.toInt + 1000)).toNat).toNat < 65535 := by
    rw [h.count _ h₀ h₁ hold, hat]
    rw [List.countP_cons] at hcount
    simp at hcount
    omega
  have hg : incKillcnt g a = { g with
      killcnt := Function.update g.killcnt (g.killcntIdx (a.toInt + 1000)).toNat
        (g.killcnt (g.killcntIdx (a.toInt + 1000)).toNat + 1)
      killcntTotal := g.killcntTotal + 1 } := by
    simp only [incKillcnt, if_neg hold]
  rw [hg]
  refine ⟨List.forall_mem_cons.mpr ⟨ha, h.valid⟩, hcard ▸ h.distinct, hcard ▸ h.free,
    fun s hs₀ hs₁ => ?_, fun s hs₀ hs₁ hs => hcard ▸ h.idx_lt s hs₀ hs₁ hs, h.idx_inj,
    fun s hs₀ hs₁ hs => ?_, h.total_succ a⟩
  · -- `a` is among the kills already
    rw [h.unused s hs₀ hs₁, List.forall_mem_cons]
    exact ⟨fun hall => ⟨hall a hmem, hall⟩, And.right⟩
  · dsimp only
    rw [countP_cons_slot, ← h.count s hs₀ hs₁ hs]
    by_cases hsa : a.toInt + 1000 = s
    · subst hsa
      rw [if_pos rfl, Function.update_self, UInt16.toNat_add]
      simp only [UInt16.toNat_one]
      omega
    · have hne : (g.killcntIdx s).toNat ≠ (g.killcntIdx (a.toInt + 1000)).toNat := by
        intro heq
        exact hsa (h.idx_inj _ _ h₀ h₁ hs₀ hs₁ hold (UInt8.toNat_inj.mp heq.symm))
      rw [if_neg hsa, Function.update_of_ne hne, Nat.add_zero]

theorem KillcntInv.incKillcnt_new {g : Globals} {ks : List Int32} (h : KillcntInv g ks)
    {a : Int32} (ha : ValidAdj a) (hnew : g.killcntIdx (a.toInt + 1000) = killcntInvalidIdx)
    (hdistinct : (a :: ks).toFinset.card ≤ maxDistinctOomAdj) :
    KillcntInv (incKillcnt g a) (a :: ks) := by
  obtain ⟨h₀, h₁⟩ := slot_of_validAdj ha
  have hnone := (h.unused _ h₀ h₁).mp hnew
  have hmem : a ∉ ks := fun hmem => hnone a hmem rfl
  have hcard : (a :: ks).toFinset.card = ks.toFinset.card + 1 := by
    rw [List.toFinset_cons, Finset.card_insert_of_notMem (fun h' => hmem (List.mem_toFinset.mp h'))]
  have hn : ks.toFinset.card < 32 := by
    unfold maxDistinctOomAdj at hdistinct
    omega
  obtain ⟨hidx, hclamp⟩ := freeIdx_toUInt8 hn
  have hfree : (Int32.ofNat ks.toFinset.card).toInt < maxDistinctOomAdj := by
    rw [Int32.toInt_ofNat_of_lt (by omega)]
    unfold maxDistinctOomAdj
    omega
  have hg : incKillcnt g a = { g with
      killcntIdx := Function.update g.killcntIdx (a.toInt + 1000)
        (Int32.ofNat ks.toFinset.card).toUInt32.toUInt8
      killcnt := Function.update g.killcnt (Int32.ofNat ks.toFinset.card).toNatClampNeg 1
      killcntFreeIdx := Int32.ofNat ks.toFinset.card + 1
      killcntTotal := g.killcntTotal + 1 } := by
    simp only [incKillcnt, if_pos hnew, h.free, if_pos hfree]
  have hnewIdx : (Int32.ofNat ks.toFinset.card).toUInt32.toUInt8 ≠ killcntInvalidIdx := by
    intro heq
    have := congrArg UInt8.toNat heq
    rw [hidx] at this
    unfold killcntInvalidIdx at this
    simp at this
    omega
  have hother : ∀ s : Int, 0 ≤ s → s < adjToSlotCount → g.killcntIdx s ≠ killcntInvalidIdx →
      (g.killcntIdx s).toNat ≠ ks.toFinset.card := fun s hs₀ hs₁ hs =>
    Nat.ne_of_lt (h.idx_lt s hs₀ hs₁ hs)
  rw [hg]
  refine ⟨List.forall_mem_cons.mpr ⟨ha, h.valid⟩, hdistinct, by rw [hcard, Int32.ofNat_add]; rfl,
    fun s hs₀ hs₁ => ?_, fun s hs₀ hs₁ hs => ?_, fun s s' hs₀ hs₁ hs₀' hs₁' hs hss' => ?_,
    fun s hs₀ hs₁ hs => ?_, h.total_succ a⟩
  · dsimp only
    by_cases hsa : s = a.toInt + 1000
    · subst hsa
      rw [Function.update_self]
      exact ⟨fun heq => absurd heq hnewIdx, fun hall => absurd rfl (hall a List.mem_cons_self)⟩
    · rw [Function.update_of_ne hsa, h.unused s hs₀ hs₁, List.forall_mem_cons]
      exact ⟨fun hall => ⟨fun hbs => hsa hbs.symm, hall⟩, And.right⟩
  · dsimp only at hs ⊢
    rw [hcard]
    by_cases hsa : s = a.toInt + 1000
    · subst hsa
      rw [Function.update_self, hidx]
      omega
    · rw [Function.update_of_ne hsa] at hs ⊢
      exact Nat.lt_succ_of_lt (h.idx_lt s hs₀ hs₁ hs)
  · dsimp only at hs hss'
    by_cases hsa : s = a.toInt + 1000 <;> by_cases hsa' : s' = a.toInt + 1000
    · rw [hsa, hsa']
    · rw [hsa, Function.update_self, Function.update_of_ne hsa'] at hss'
      have hs' : g.killcntIdx s' ≠ killcntInvalidIdx := hss' ▸ hnewIdx
      exact absurd (by rw [← hss', hidx]) (hother s' hs₀' hs₁' hs')
    · rw [hsa', Function.update_self, Function.update_of_ne hsa] at hss'
      rw [Function.update_of_ne hsa] at hs
      exact absurd (by rw [hss', hidx]) (hother s hs₀ hs₁ hs)
    · rw [Function.update_of_ne hsa, Function.update_of_ne hsa'] at hss'
      rw [Function.update_of_ne hsa] at hs
      exact h.idx_inj s s' hs₀ hs₁ hs₀' hs₁' hs hss'
  · dsimp only at hs ⊢
    rw [countP_cons_slot]
    by_cases hsa : s = a.toInt + 1000
    · subst hsa
      rw [Function.update_self, hidx, hclamp, Function.update_self, if_pos rfl,
        List.countP_eq_zero.mpr fun b hb hbs => hnone b hb (of_decide_eq_true hbs)]
      rfl
    · rw [Function.update_of_ne hsa] at hs ⊢
      rw [hclamp, Function.update_of_ne (hother s hs₀ hs₁ hs), h.count s hs₀ hs₁ hs,
        if_neg (Ne.symm hsa), Nat.add_zero]

theorem KillcntInv.after_incKillcnt {g : Globals} {ks : List Int32} (h : KillcntInv g ks) {a : Int32}
    (ha : ValidAdj a) (hdistinct : (a :: ks).toFinset.card ≤ maxDistinctOomAdj)
    (hcount : (a :: ks).countP (fun b => b = a) < 65536) :
    KillcntInv (incKillcnt g a) (a :: ks) := by
  by_cases hnew : g.killcntIdx (a.toInt + 1000) = killcntInvalidIdx
  · exact h.incKillcnt_new ha hnew hdistinct
  · exact h.incKillcnt_old ha hnew hcount

/-! ## A sequence of kills -/

theorem KillcntInv.foldl_incKillcnt :
    ∀ (adjs ks : List Int32) (g : Globals), KillcntInv g ks → (∀ a ∈ adjs, ValidAdj a) →
      (adjs.reverse ++ ks).toFinset.card ≤ maxDistinctOomAdj →
      (∀ a, (adjs.reverse ++ ks).countP (fun b => b = a) < 65536) →
      KillcntInv (adjs.foldl incKillcnt g) (adjs.reverse ++ ks)
  | [], _, _, h, _, _, _ => h
  | a :: adjs, ks, g, h, hvalid, hdistinct, hcount => by
    -- the history of the first kill is a suffix of the whole history
    have hsuffix : (a :: ks).Sublist ((a :: adjs).reverse ++ ks) := by
      rw [List.reverse_cons, List.append_assoc, List.singleton_append]
      exact List.sublist_append_right _ _
    have h₁ := h.after_incKillcnt (hvalid a List.mem_cons_self)
      (Nat.le_trans (Finset.card_le_card fun x hx =>
        List.mem_toFinset.mpr (hsuffix.subset (List.mem_toFinset.mp hx))) hdistinct)
      (Nat.lt_of_le_of_lt hsuffix.countP_le (hcount a))
    have hrev : (a :: adjs).reverse ++ ks = adjs.reverse ++ (a :: ks) := by
      rw [List.reverse_cons, List.append_assoc, List.singleton_append]
    rw [List.foldl_cons, hrev]
    exact KillcntInv.foldl_incKillcnt adjs (a :: ks) _ h₁
      (fun b hb => hvalid b (List.mem_cons_of_mem _ hb)) (hrev ▸ hdistinct) (hrev ▸ hcount)

theorem killcntInv_run (adjs : List Int32) (hvalid : ∀ a ∈ adjs, ValidAdj a)
    (hdistinct : adjs.toFinset.card ≤ maxDistinctOomAdj)
    (hcount : ∀ a, adjs.countP (fun b => b = a) < 65536) :
    KillcntInv (adjs.foldl incKillcnt Globals.boot) adjs.reverse := by
  have h := KillcntInv.foldl_incKillcnt adjs [] _ killcntInv_boot hvalid
    (by rw [List.append_nil, List.toFinset_reverse]; exact hdistinct)
    (fun a => by rw [List.append_nil, List.countP_reverse]; exact hcount a)
  rwa [List.append_nil] at h

theorem KillcntInv.killcntTotal_toInt {g : Globals} {ks : List Int32} (h : KillcntInv g ks) :
    g.killcntTotal.toInt32.toInt = (ks.length : Int).bmod (2 ^ 32) := by
  rw [Int32.toInt, UInt32.toBitVec_toInt32, BitVec.toInt_eq_toNat_bmod, UInt32.toNat_toBitVec,
    h.total, Int.natCast_emod, Int.emod_bmod]

/-! ## The range query -/

/-- The body of the loop of `get_killcnt` at one slot. -/
def killcntAdd (g : Globals) (count slot : Int) : Int :=
  if g.killcntIdx slot ≠ killcntInvalidIdx then count + (g.killcnt (g.killcntIdx slot).toNat).toNat
  else count

theorem getKillcntLoop_eq_foldl (g : Globals) (maxOomadj : Int) :
    ∀ (fuel : Nat) (minOomadj count : Int), getKillcntLoop g maxOomadj fuel minOomadj count =
      (getKillcntLoopSlots maxOomadj fuel minOomadj).foldl (killcntAdd g) count
  | 0, _, _ => rfl
  | fuel + 1, minOomadj, count => by
    simp only [getKillcntLoop, getKillcntLoopSlots]
    split
    · rw [List.foldl_cons, getKillcntLoop_eq_foldl g maxOomadj fuel]
      rfl
    · rfl

theorem KillcntInv.killcntAdd_slot {g : Globals} {ks : List Int32} (h : KillcntInv g ks) {m : Int}
    (hm₀ : -1000 ≤ m) (hm₁ : m ≤ 1000) (count : Int) :
    killcntAdd g count (m + 1000) = count + ks.countP (fun a => a.toInt = m) := by
  have h₀ : 0 ≤ m + 1000 := by omega
  have h₁ : m + 1000 < adjToSlotCount := by unfold adjToSlotCount; omega
  have hslot : ks.countP (fun a => a.toInt + 1000 = m + 1000) = ks.countP (fun a => a.toInt = m) := by
    apply List.countP_congr
    intro a _
    simp
  unfold killcntAdd
  split
  · rename_i hidx
    rw [h.count _ h₀ h₁ hidx, hslot]
  · rename_i hidx
    have hnone := (h.unused _ h₀ h₁).mp (not_not.mp hidx)
    rw [List.countP_eq_zero.mpr fun a ha hm => hnone a ha (by simpa using hm)]
    simp

theorem countP_range_split (ks : List Int32) {m hi : Int} (hm : m ≤ hi) :
    ks.countP (fun a => m ≤ a.toInt ∧ a.toInt ≤ hi) =
      ks.countP (fun a => a.toInt = m) + ks.countP (fun a => m + 1 ≤ a.toInt ∧ a.toInt ≤ hi) := by
  induction ks with
  | nil => rfl
  | cons a ks ih =>
    simp only [List.countP_cons, ih]
    by_cases ha : a.toInt = m
    · have hlt : ¬ m + 1 ≤ m := by omega
      simp [ha, hm, hlt]
      omega
    · by_cases hlo : m ≤ a.toInt
      · by_cases hhi : a.toInt ≤ hi
        · have hlt : m + 1 ≤ a.toInt := by omega
          simp [ha, hlo, hhi, hlt]
          omega
        · simp [ha, hhi]
      · have hlt : ¬ m + 1 ≤ a.toInt := by omega
        simp [ha, hlo, hlt]

theorem KillcntInv.loop_eq_countP {g : Globals} {ks : List Int32} (h : KillcntInv g ks)
    (maxOomadj : Int) :
    ∀ (fuel : Nat) (m count : Int), -1000 ≤ m → (min maxOomadj 1000 - m + 1).toNat ≤ fuel →
      getKillcntLoop g maxOomadj fuel m count =
        count + ks.countP (fun a => m ≤ a.toInt ∧ a.toInt ≤ maxOomadj)
  | fuel, m, count, hm, hfuel => by
    have hdone : (m > maxOomadj ∨ m > 1000) →
        ks.countP (fun a => m ≤ a.toInt ∧ a.toInt ≤ maxOomadj) = 0 := by
      intro hout
      apply List.countP_eq_zero.mpr
      intro a ha hin
      have hv := (validAdj_iff a).mp (h.valid a ha)
      simp only [decide_eq_true_eq] at hin
      omega
    cases fuel with
    | zero =>
      rw [hdone (by omega)]
      simp only [getKillcntLoop]
      omega
    | succ fuel =>
      simp only [getKillcntLoop]
      split
      · rename_i hin
        have hm₁ : m ≤ 1000 := by unfold adjToSlotCount at hin; omega
        have hstep := h.killcntAdd_slot hm hm₁ count
        unfold killcntAdd at hstep
        rw [hstep, h.loop_eq_countP maxOomadj fuel (m + 1) _ (by omega) (by omega),
          countP_range_split ks hin.1]
        omega
      · rename_i hout
        rw [hdone (by unfold adjToSlotCount at hout; omega)]
        omega

theorem KillcntInv.getKillcnt_eq_countP {g : Globals} {ks : List Int32} (h : KillcntInv g ks)
    {minOomadj maxOomadj : Int32} (hlo : -1000 ≤ minOomadj.toInt) (hle : minOomadj ≤ maxOomadj) :
    (minOomadj ≤ oomScoreAdjMax →
      getKillcnt g minOomadj maxOomadj =
        ks.countP (fun a => minOomadj.toInt ≤ a.toInt ∧ a.toInt ≤ maxOomadj.toInt)) ∧
      (oomScoreAdjMax < minOomadj →
        getKillcnt g minOomadj maxOomadj = (ks.length : Int).bmod (2 ^ 32)) := by
  have hmax : oomScoreAdjMax.toInt = 1000 := by decide
  have hnle : ¬ minOomadj > maxOomadj := Int32.not_lt.mpr hle
  refine ⟨fun hmin => ?_, fun hmin => ?_⟩
  · have hnot : ¬ minOomadj > oomScoreAdjMax := Int32.not_lt.mpr hmin
    rw [Int32.le_iff_toInt_le, hmax] at hmin
    simp only [getKillcnt, if_neg hnle, if_neg hnot]
    rw [h.loop_eq_countP _ _ _ 0 hlo (by omega), Int.zero_add]
  · simp only [getKillcnt, if_neg hnle, if_pos hmin]
    exact h.killcntTotal_toInt

/-- One kill at score 900, then a query for `[-1001, -1001]`: the kills with
a score in `[-1000, -1001]` number 0, but `get_killcnt` reads slot `-1`,
before `killcnt_idx`, and counts the kills of entry 0 found there. -/
theorem getKillcnt_reads_below_table :
    KillcntInv (incKillcnt Globals.boot 900) [900] ∧
      getKillcntSlots (-1001) (-1001) = [-1] ∧
      getKillcnt (incKillcnt Globals.boot 900) (-1001) (-1001) = 1 ∧
      [(900 : Int32)].countP (fun a => -1000 ≤ a.toInt ∧ a.toInt ≤ -1001) = 0 :=
  have hvalid : ∀ a ∈ [(900 : Int32)], ValidAdj a := by
    intro a ha
    rw [List.mem_singleton.mp ha]
    exact ⟨by decide, by decide⟩
  ⟨killcntInv_run [900] hvalid (by decide)
      (fun _ => Nat.lt_of_le_of_lt List.countP_le_length (by decide)),
    by decide, by decide, by decide⟩

end Lmkd
