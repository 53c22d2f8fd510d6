import Lmkd.Control
import Mathlib.Algebra.BigOperators.Group.Finset.Piecewise
import Mathlib.Algebra.Order.BigOperators.Group.Finset
import Mathlib.Algebra.BigOperators.Ring.Finset

/-!
# `prop_log_lmk_kill_occurred`

After each kill `kill_one_process` counts the victim in `lmk_count`, one
counter per 50 points of `oom_score_adj`, and every tenth kill prints the 21
counters as `"%d,"` pieces into `lmk_count_str[PROPERTY_VALUE_MAX]` with
`sprintf`, which writes the pieces and a NUL after the last.

For a victim with a score in `[0, 1000]`, which `find_and_kill_process`
guarantees, the index is in `[0, 20]` (`propLogAdjIndex_mem`).  The pieces
take one character per digit and one for the comma, so the text grows with
the counters: every report of a run of fewer than 9300 kills fits in the
buffer (`propLogRun_fits`), and the run of 9300 kills that puts 1000 kills in
each of the first eight counters and 100 in each of the others writes 93
bytes into the 92 of `lmk_count_str` (`propLogRun_overflowRun`).
-/

namespace Lmkd

def adjMax : Int32 := 1000

def adjDivisor : Int32 := 50

def propReportFreq : Int32 := 10

/-- `sizeof(lmk_count) / sizeof(lmk_count[0])`, that is `ADJ_MAX / ADJ_DIVISOR + 1`. -/
def lmkCountSize : Nat := 21

/-- The statics of `prop_log_lmk_kill_occurred`: `lmk_count`, indexed by
`adj_index`, with the entries outside `[0, ADJ_MAX / ADJ_DIVISOR]` the memory
around the array, and `counter`. -/
structure PropLog where
  lmkCount : Int → UInt32
  counter : Int32

def PropLog.boot : PropLog := ⟨fun _ => 0, 0⟩

/-- `adj_index` for a victim of score `oomScore`: the division truncates
towards zero, and an index past `ADJ_MAX / ADJ_DIVISOR` is capped. -/
def propLogAdjIndex (oomScore : Int32) : Int32 :=
  let adjIndex := oomScore / adjDivisor
  if adjIndex > adjMax / adjDivisor then adjMax / adjDivisor else adjIndex

/-- The characters the loop of `sprintf(ptr, "%d,", lmk_count[i])` writes from
`lmk_count_str[0]`, the NUL after the last piece included.  `%d` reads the
`unsigned int` as an `int`. -/
def lmkCountText (lmkCount : Int → UInt32) : List Char :=
  ((List.range lmkCountSize).flatMap fun (i : Nat) =>
    (toString (lmkCount i).toInt32.toInt).toList ++ [',']) ++ ['\x00']

/-- `prop_log_lmk_kill_occurred` for a victim of score `oomScore`: the new
statics, and the text written into `lmk_count_str` when this kill is the
tenth since the last report. -/
def propLogLmkKillOccurred (s : PropLog) (oomScore : Int32) : PropLog × Option (List Char) :=
  let adjIndex := (propLogAdjIndex oomScore).toInt
  let lmkCount := Function.update s.lmkCount adjIndex (s.lmkCount adjIndex + 1)
  let counter := s.counter + 1
  if counter ≠ propReportFreq then (⟨lmkCount, counter⟩, none)
  else (⟨lmkCount, 0⟩, some (lmkCountText lmkCount))

def propLogRun : PropLog → List Int32 → PropLog × List (List Char)
  | s, [] => (s, [])
  | s, x :: xs =>
    let r := propLogLmkKillOccurred s x
    let rest := propLogRun r.1 xs
    (rest.1, r.2.toList ++ rest.2)

/-! ## The index -/

theorem propLogAdjIndex_mem {oomScore : Int32} (h₀ : 0 ≤ oomScore.toInt)
    (h₁ : oomScore.toInt ≤ 1000) :
    0 ≤ (propLogAdjIndex oomScore).toInt ∧ (propLogAdjIndex oomScore).toInt < lmkCountSize := by
  have hdiv : (oomScore / adjDivisor).toInt = oomScore.toInt / 50 := by
    rw [Int32.toInt_div_of_ne_right _ _ (by decide)]
    simp [adjDivisor, Int.tdiv_eq_ediv_of_nonneg h₀]
  have hcap : (adjMax / adjDivisor).toInt = 20 := by decide
  unfold propLogAdjIndex
  simp only
  split
  · rw [hcap]
    unfold lmkCountSize
    omega
  · rw [hdiv]
    unfold lmkCountSize
    omega

/-! ## The run -/

theorem propLogLmkKillOccurred_lmkCount (s : PropLog) (x : Int32) :
    (propLogLmkKillOccurred s x).1.lmkCount =
      Function.update s.lmkCount (propLogAdjIndex x).toInt
        (s.lmkCount (propLogAdjIndex x).toInt + 1) := by
  unfold propLogLmkKillOccurred
  dsimp only
  split <;> rfl

theorem propLogLmkKillOccurred_counter (s : PropLog) (x : Int32) (h₀ : 0 ≤ s.counter.toInt)
    (h₁ : s.counter.toInt < 10) :
    (propLogLmkKillOccurred s x).1.counter.toInt = (s.counter.toInt + 1) % 10 ∧
      ((propLogLmkKillOccurred s x).2 =
        if s.counter.toInt = 9 then some (lmkCountText (propLogLmkKillOccurred s x).1.lmkCount)
        else none) := by
  have hadd : (s.counter + 1).toInt = s.counter.toInt + 1 := by
    rw [Int32.toInt_add, Int.bmod_eq_of_le] <;> simp <;> omega
  have hfreq : propReportFreq.toInt = 10 := rfl
  unfold propLogLmkKillOccurred
  simp only
  by_cases hc : s.counter + 1 = propReportFreq
  · have h9 : s.counter.toInt = 9 := by
      have := congrArg Int32.toInt hc
      omega
    rw [if_neg (not_not.mpr hc), if_pos h9]
    exact ⟨by rw [h9]; rfl, rfl⟩
  · have h9 : s.counter.toInt ≠ 9 := fun h9 => hc (Int32.toInt_inj.mp (by omega))
    rw [if_pos hc, if_neg h9]
    refine ⟨?_, rfl⟩
    show (s.counter + 1).toInt = _
    rw [hadd, Int.emod_eq_of_lt (by omega) (by omega)]

theorem propLogRun_lmkCount :
    ∀ (s : PropLog) (xs : List Int32) (i : Int), (propLogRun s xs).1.lmkCount i =
      s.lmkCount i + UInt32.ofNat (xs.countP fun x => (propLogAdjIndex x).toInt = i)
  | s, [], i => by simp [propLogRun]
  | s, x :: xs, i => by
    simp only [propLogRun]
    rw [propLogRun_lmkCount _ xs i, propLogLmkKillOccurred_lmkCount, List.countP_cons]
    by_cases hx : (propLogAdjIndex x).toInt = i
    · subst hx
      simp only [Function.update_self, decide_true, if_true, UInt32.ofNat_add]
      rw [show UInt32.ofNat 1 = 1 from rfl]
      ac_rfl
    · rw [Function.update_of_ne (Ne.symm hx)]
      simp [hx]

theorem propLogRun_reports :
    ∀ (s : PropLog) (xs : List Int32), ∀ r ∈ (propLogRun s xs).2,
      ∃ p, p <+: xs ∧ r = lmkCountText fun i =>
        s.lmkCount i + UInt32.ofNat (p.countP fun x => (propLogAdjIndex x).toInt = i)
  | s, [], r, hr => by simp [propLogRun] at hr
  | s, x :: xs, r, hr => by
    simp only [propLogRun, List.mem_append] at hr
    rcases hr with hr | hr
    · -- the report of this kill: the counters after it alone
      refine ⟨[x], List.cons_prefix_cons.mpr ⟨rfl, List.nil_prefix⟩, ?_⟩
      unfold propLogLmkKillOccurred at hr
      simp only at hr
      split at hr
      · simp at hr
      · simp only [Option.toList_some, List.mem_singleton] at hr
        rw [hr]
        congr 1
        funext i
        by_cases hx : (propLogAdjIndex x).toInt = i
        · subst hx
          simp
        · rw [Function.update_of_ne (Ne.symm hx)]
          simp [hx]
    · obtain ⟨p, hp, hr⟩ := propLogRun_reports _ xs r hr
      refine ⟨x :: p, List.cons_prefix_cons.mpr ⟨rfl, hp⟩, ?_⟩
      rw [hr]
      congr 1
      funext i
      rw [propLogLmkKillOccurred_lmkCount, List.countP_cons]
      by_cases hx : (propLogAdjIndex x).toInt = i
      · subst hx
        simp only [Function.update_self, decide_true, if_true, UInt32.ofNat_add]
        rw [show UInt32.ofNat 1 = 1 from rfl]
        ac_rfl
      · rw [Function.update_of_ne (Ne.symm hx)]
        simp [hx]

/-! ## The length of a report -/

theorem mul_nine_hundred_le_ten_pow (e : Nat) : 900 * e ≤ 10 ^ e + 1700 := by
  match e with
  | 0 => decide
  | 1 => decide
  | e + 2 =>
    induction e with
    | zero => decide
    | succ e ih =>
      have hpow : 100 ≤ 10 ^ (e + 2) :=
        calc 100 = 10 ^ 2 := rfl
          _ ≤ 10 ^ (e + 2) := Nat.pow_le_pow_right (by decide) (by omega)
      rw [show e + 1 + 2 = e + 2 + 1 by omega, Nat.pow_succ]
      omega

theorem repr_length_le (n : Nat) : 900 * ((Nat.repr n).length - 1) ≤ n + 1700 := by
  rw [← String.length_toList, Nat.toList_repr]
  by_cases hw : (Nat.toDigits 10 n).length ≤ 1
  · omega
  · -- `n` has more than `w - 1` digits, so it is at least `10 ^ (w - 1)`
    have hlarge : 10 ^ ((Nat.toDigits 10 n).length - 1) ≤ n := by
      have hnot : ¬(Nat.toDigits 10 n).length ≤ (Nat.toDigits 10 n).length - 1 := by omega
      rw [Nat.length_toDigits_le_iff (by decide) (by omega)] at hnot
      omega
    have := mul_nine_hundred_le_ten_pow ((Nat.toDigits 10 n).length - 1)
    omega

theorem length_flatMap_range {α : Type} (f : Nat → List α) (n : Nat) :
    ((List.range n).flatMap f).length = ∑ i ∈ Finset.range n, (f i).length := by
  induction n with
  | zero => simp
  | succ n ih => simp [List.range_succ, Finset.sum_range_succ, ih]

theorem lmkCountText_length (c : Int → UInt32) :
    (lmkCountText c).length =
      ∑ i ∈ Finset.range lmkCountSize, ((toString (c i).toInt32.toInt).length + 1) + 1 := by
  rw [lmkCountText, List.length_append, length_flatMap_range]
  simp [String.length_toList]

theorem toInt_toInt32_ofNat {n : Nat} (h : n < 2 ^ 31) : (UInt32.ofNat n).toInt32.toInt = n := by
  rw [UInt32.toInt32_ofNat', Int32.toInt_ofNat',
    Int.bmod_eq_of_le (by simp only [Int32.size]; omega) (by simp only [Int32.size]; omega)]

theorem lmkCountText_fits (c : Int → UInt32) (n : Nat → Nat)
    (hc : ∀ i < lmkCountSize, c i = UInt32.ofNat (n i))
    (hsum : ∑ i ∈ Finset.range lmkCountSize, n i < 9300) :
    (lmkCountText c).length ≤ propertyValueMax := by
  have hwidth : ∀ i ∈ Finset.range lmkCountSize,
      (toString (c i).toInt32.toInt).length = (Nat.repr (n i)).length := by
    intro i hi
    have hi := Finset.mem_range.mp hi
    have hle : n i ≤ ∑ j ∈ Finset.range lmkCountSize, n j :=
      Finset.single_le_sum (fun _ _ => Nat.zero_le _) (Finset.mem_range.mpr hi)
    rw [hc i hi, toInt_toInt32_ofNat (by omega)]
    rfl
  have hpos : ∀ i, 1 ≤ (Nat.repr (n i)).length := fun i => by
    rw [← String.length_toList, Nat.toList_repr]
    exact Nat.length_toDigits_pos
  have hextra : 900 * ∑ i ∈ Finset.range lmkCountSize, ((Nat.repr (n i)).length - 1) ≤
      ∑ i ∈ Finset.range lmkCountSize, n i + lmkCountSize * 1700 := by
    calc 900 * ∑ i ∈ Finset.range lmkCountSize, ((Nat.repr (n i)).length - 1)
        = ∑ i ∈ Finset.range lmkCountSize, 900 * ((Nat.repr (n i)).length - 1) := Finset.mul_sum ..
      _ ≤ ∑ i ∈ Finset.range lmkCountSize, (n i + 1700) :=
          Finset.sum_le_sum fun i _ => repr_length_le (n i)
      _ = ∑ i ∈ Finset.range lmkCountSize, n i + lmkCountSize * 1700 := by
          rw [Finset.sum_add_distrib, Finset.sum_const_nat fun _ _ => rfl, Finset.card_range]
  have hpieces : ∑ i ∈ Finset.range lmkCountSize, ((toString (c i).toInt32.toInt).length + 1) =
      ∑ i ∈ Finset.range lmkCountSize, ((Nat.repr (n i)).length - 1) + lmkCountSize * 2 := by
    calc ∑ i ∈ Finset.range lmkCountSize, ((toString (c i).toInt32.toInt).length + 1)
        = ∑ i ∈ Finset.range lmkCountSize, (((Nat.repr (n i)).length - 1) + 2) := by
          apply Finset.sum_congr rfl
          intro i hi
          rw [hwidth i hi]
          have := hpos i
          omega
      _ = ∑ i ∈ Finset.range lmkCountSize, ((Nat.repr (n i)).length - 1) + lmkCountSize * 2 := by
          rw [Finset.sum_add_distrib, Finset.sum_const_nat fun _ _ => rfl, Finset.card_range]
  rw [lmkCountText_length, hpieces]
  unfold lmkCountSize propertyValueMax at *
  omega

/-! ## Runs -/

theorem sum_countP_le_length (f : Int32 → Int) (m : Nat) :
    ∀ p : List Int32, ∑ i ∈ Finset.range m, p.countP (fun x => f x = (i : Int)) ≤ p.length
  | [] => by simp
  | x :: p => by
    have ih := sum_countP_le_length f m p
    have hone : ∑ i ∈ Finset.range m, (if f x = (i : Int) then 1 else 0) ≤ 1 := by
      rw [Finset.sum_boole]
      apply Finset.card_le_one.mpr
      intro a ha b hb
      simp only [Finset.mem_filter] at ha hb
      omega
    simp only [List.countP_cons, decide_eq_true_eq, Finset.sum_add_distrib, List.length_cons]
    omega

theorem propLogRun_fits (xs : List Int32) (hlen : xs.length < 9300) :
    ∀ r ∈ (propLogRun PropLog.boot xs).2, r.length ≤ propertyValueMax := by
  intro r hr
  obtain ⟨p, hp, rfl⟩ := propLogRun_reports PropLog.boot xs r hr
  apply lmkCountText_fits _ fun i => p.countP fun x => (propLogAdjIndex x).toInt = (i : Int)
  · intro i _
    simp [PropLog.boot]
  · calc ∑ i ∈ Finset.range lmkCountSize, p.countP (fun x => (propLogAdjIndex x).toInt = (i : Int))
        ≤ p.length := sum_countP_le_length _ _ p
      _ ≤ xs.length := hp.length_le
      _ < 9300 := hlen

theorem propLogRun_counter :
    ∀ (s : PropLog) (xs : List Int32), 0 ≤ s.counter.toInt → s.counter.toInt < 10 →
      (propLogRun s xs).1.counter.toInt = (s.counter.toInt + xs.length) % 10
  | s, [], h₀, h₁ => by simp [propLogRun, Int.emod_eq_of_lt h₀ h₁]
  | s, x :: xs, h₀, h₁ => by
    obtain ⟨hc, -⟩ := propLogLmkKillOccurred_counter s x h₀ h₁
    simp only [propLogRun]
    rw [propLogRun_counter _ xs (by omega) (by omega), hc, List.length_cons]
    omega

theorem propLogRun_last_report :
    ∀ (s : PropLog) (xs : List Int32), 0 ≤ s.counter.toInt → s.counter.toInt < 10 → xs ≠ [] →
      (s.counter.toInt + xs.length) % 10 = 0 →
      lmkCountText (propLogRun s xs).1.lmkCount ∈ (propLogRun s xs).2
  | _, [], _, _, hne, _ => absurd rfl hne
  | s, x :: xs, h₀, h₁, _, hmod => by
    obtain ⟨hc, hrep⟩ := propLogLmkKillOccurred_counter s x h₀ h₁
    simp only [propLogRun, List.mem_append]
    cases xs with
    | nil =>
      -- the only kill is the tenth: it reports the counters after it
      have h9 : s.counter.toInt = 9 := by simp at hmod; omega
      rw [hrep, if_pos h9]
      exact .inl (by simp [propLogRun])
    | cons y ys =>
      refine .inr (propLogRun_last_report _ (y :: ys) (by omega) (by omega) (List.cons_ne_nil _ _) ?_)
      rw [hc]
      simp only [List.length_cons] at hmod ⊢
      omega

def overflowRun : List Int32 :=
  (List.range lmkCountSize).flatMap fun j =>
    List.replicate (if j < 8 then 1000 else 100) (Int32.ofNat (50 * j))

/-- The 9300 kills of `overflowRun` have scores in `[0, 1000]`, and the report
at the last of them prints eight counters of 1000 and thirteen of 100: 92
characters and the NUL, one byte more than `lmk_count_str` holds. -/
theorem propLogRun_overflowRun :
    overflowRun.length = 9300 ∧ (∀ x ∈ overflowRun, 0 ≤ x.toInt ∧ x.toInt ≤ 1000) ∧
      ∃ r ∈ (propLogRun PropLog.boot overflowRun).2, r.length = propertyValueMax + 1 := by
  have hlen : overflowRun.length = 9300 := by
    rw [overflowRun, length_flatMap_range]
    simp only [List.length_replicate]
    decide
  refine ⟨hlen, ?_, ?_⟩
  · intro x hx
    simp only [overflowRun, List.mem_flatMap, List.mem_range, List.mem_replicate] at hx
    obtain ⟨j, hj, -, rfl⟩ := hx
    have hscore : ∀ j < lmkCountSize, 0 ≤ (Int32.ofNat (50 * j)).toInt ∧
        (Int32.ofNat (50 * j)).toInt ≤ 1000 := by decide
    exact hscore j hj
  · refine ⟨_, propLogRun_last_report PropLog.boot overflowRun (by decide) (by decide)
      (List.ne_nil_of_length_pos (by omega)) (by rw [hlen]; decide), ?_⟩
    rw [show (propLogRun PropLog.boot overflowRun).1.lmkCount = fun i =>
      PropLog.boot.lmkCount i + UInt32.ofNat (overflowRun.countP fun x => (propLogAdjIndex x).toInt = i)
      from funext (propLogRun_lmkCount PropLog.boot overflowRun)]
    simp only [overflowRun, List.countP_flatMap, Function.comp_def, List.countP_replicate]
    decide +kernel

end Lmkd
