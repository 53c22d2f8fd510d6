import Lmkd.State
import Lmkd.Lib.SignedShift

/-!
# The thrashing estimate of `mp_event_psi`

`mp_event_psi` measures thrashing as the share of the file-backed page cache
that refaulted since the last reset, in percent.  Once more than
`THRASHING_RESET_INTERVAL_MS` has passed since the reset it starts a new
window, and carries the growth of the old one into later events, halved for
every window passed: `prev_thrash_growth >>= windows_passed`.

`windows_passed` is the time since the reset in seconds, with no bound: it
is 64 or more after any quiet period of 64 seconds, and at the first event
after boot whenever that comes 64 seconds or more after boot, since the reset
time starts at zero.  C leaves the shift of an `int64_t` by 64 or more
undefined.  The model shifts as arm64 does, by the count modulo 64
(`decayShift`): below 64 that is the floor of the division by
`2^windows_passed` (`decayShift_toInt`), and at 64 windows the growth comes
back undecayed (`mpEventPsiThrashing_boot_undecayed`).

`max_thrashing`, which only the kill statistics read, is left out.
-/

namespace Lmkd

def thrashingResetIntervalMs : Int := 1000

/-- The static counters of `mp_event_psi` behind the estimate. -/
structure ThrashState where
  initWsRefault : Int64
  baseFileLru : Int64
  thrashingResetTm : Timespec
  prevThrashGrowth : Int64
  thrashingLimit : Int32
deriving DecidableEq, Repr

/-- At boot every static counter is zero, and `thrashing_limit` is
`thrashing_limit_pct`. -/
def ThrashState.boot (thrashingLimitPct : Int32) : ThrashState :=
  ⟨0, 0, ⟨0, 0⟩, 0, thrashingLimitPct⟩

/-- What the estimate reads of one event: the time, the
`workingset_refault_file` counter and the file LRU sizes of `/proc/vmstat`. -/
structure ThrashSample where
  currTm : Timespec
  workingsetRefaultFile : Int64
  nrInactiveFile : Int64
  nrActiveFile : Int64
deriving DecidableEq, Repr

/-- `(workingset_refault_file - init_ws_refault) * 100 / (base_file_lru + 1)`
in `int64_t`. -/
def thrashingGrowth (st : ThrashState) (workingsetRefaultFile : Int64) : Int64 :=
  (workingsetRefaultFile - st.initWsRefault) * 100 / (st.baseFileLru + 1)

/-- `prev_thrash_growth >>= windows_passed`, an `int64_t` shifted by a
`long`, with the count taken modulo 64. -/
def decayShift (prevThrashGrowth : Int64) (windowsPassed : Int) : Int64 :=
  prevThrashGrowth >>> Int64.ofInt windowsPassed

def ThrashState.resetAfterKill (st : ThrashState) (s : ThrashSample) : ThrashState :=
  { st with
    baseFileLru := s.nrInactiveFile + s.nrActiveFile
    initWsRefault := s.workingsetRefaultFile
    thrashingResetTm := s.currTm
    prevThrashGrowth := 0 }

/-- The block from `since_thrashing_reset_ms` to
`thrashing += prev_thrash_growth`: the new counters and `thrashing`. -/
def mpEventPsiThrashing (thrashingLimitPct : Int32) (st : ThrashState) (s : ThrashSample) :
    ThrashState × Int64 :=
  let sinceThrashingResetMs := getTimeDiffMs st.thrashingResetTm s.currTm
  let (st, thrashing) :=
    if sinceThrashingResetMs > thrashingResetIntervalMs then
      let prevThrashGrowth := thrashingGrowth st s.workingsetRefaultFile
      let windowsPassed := sinceThrashingResetMs.tdiv thrashingResetIntervalMs
      -- over the limit in the window just crossed, the growth is kept whole
      let prevThrashGrowth :=
        if windowsPassed > 1 ∨ prevThrashGrowth.toInt < st.thrashingLimit.toInt then
          decayShift prevThrashGrowth windowsPassed
        else prevThrashGrowth
      ({ st with
          prevThrashGrowth
          baseFileLru := s.nrInactiveFile + s.nrActiveFile
          initWsRefault := s.workingsetRefaultFile
          thrashingResetTm := s.currTm
          thrashingLimit := thrashingLimitPct }, (0 : Int64))
    else (st, thrashingGrowth st s.workingsetRefaultFile)
  (st, thrashing + st.prevThrashGrowth)

/-! ## The decay -/

section Decay

variable (prevThrashGrowth : Int64) {windowsPassed : Int}

theorem decayShift_toInt (h0 : 0 ≤ windowsPassed) (h1 : windowsPassed < 2 ^ 63) :
    (decayShift prevThrashGrowth windowsPassed).toInt =
      prevThrashGrowth.toInt / 2 ^ (windowsPassed.toNat % 64) := by
  rw [decayShift, Int64.toInt_shiftRight_of_nonneg _ _ (Int64.toInt_ofInt_nonneg _ h0 h1),
    Int64.toNat_toBitVec_ofInt _ h0 h1]

theorem decayShift_toInt_of_lt (h0 : 0 ≤ windowsPassed) (h64 : windowsPassed < 64) :
    (decayShift prevThrashGrowth windowsPassed).toInt =
      prevThrashGrowth.toInt / 2 ^ windowsPassed.toNat := by
  rw [decayShift_toInt prevThrashGrowth h0 (by omega), Nat.mod_eq_of_lt (by omega)]

theorem decayShift_add_64 (h0 : 0 ≤ windowsPassed) (h1 : windowsPassed + 64 < 2 ^ 63) :
    decayShift prevThrashGrowth (windowsPassed + 64) = decayShift prevThrashGrowth windowsPassed := by
  apply Int64.toInt_inj.mp
  rw [decayShift_toInt prevThrashGrowth (by omega) h1, decayShift_toInt prevThrashGrowth h0 (by omega),
    show (windowsPassed + 64).toNat % 64 = windowsPassed.toNat % 64 by omega]

theorem decayShift_le (hx : 0 ≤ prevThrashGrowth.toInt) (h0 : 0 ≤ windowsPassed)
    (h1 : windowsPassed < 2 ^ 63) :
    (decayShift prevThrashGrowth windowsPassed).toInt ≤ prevThrashGrowth.toInt :=
  Int64.toInt_shiftRight_le _ _ hx (Int64.toInt_ofInt_nonneg _ h0 h1)

end Decay

/-! ## A new window -/

section Window

variable (thrashingLimitPct : Int32) (st : ThrashState) (s : ThrashSample)
  (hsince : thrashingResetIntervalMs < getTimeDiffMs st.thrashingResetTm s.currTm)
include hsince

theorem mpEventPsiThrashing_of_window :
    mpEventPsiThrashing thrashingLimitPct st s =
      let windowsPassed := (getTimeDiffMs st.thrashingResetTm s.currTm).tdiv thrashingResetIntervalMs
      let prevThrashGrowth :=
        if windowsPassed > 1 ∨ (thrashingGrowth st s.workingsetRefaultFile).toInt < st.thrashingLimit.toInt
        then decayShift (thrashingGrowth st s.workingsetRefaultFile) windowsPassed
        else thrashingGrowth st s.workingsetRefaultFile
      (⟨s.workingsetRefaultFile, s.nrInactiveFile + s.nrActiveFile, s.currTm, prevThrashGrowth,
        thrashingLimitPct⟩, prevThrashGrowth) := by
  simp only [mpEventPsiThrashing, if_pos hsince, Int64.zero_add]

theorem mpEventPsiThrashing_decay (hlong : getTimeDiffMs st.thrashingResetTm s.currTm < 2 ^ 63) :
    let growth := thrashingGrowth st s.workingsetRefaultFile
    let windowsPassed := (getTimeDiffMs st.thrashingResetTm s.currTm).tdiv thrashingResetIntervalMs
    (mpEventPsiThrashing thrashingLimitPct st s).1.prevThrashGrowth =
        (mpEventPsiThrashing thrashingLimitPct st s).2 ∧
      ((mpEventPsiThrashing thrashingLimitPct st s).2 = growth ∨
        (mpEventPsiThrashing thrashingLimitPct st s).2.toInt =
          growth.toInt / 2 ^ (windowsPassed.toNat % 64)) ∧
      (0 ≤ growth.toInt → (mpEventPsiThrashing thrashingLimitPct st s).2.toInt ≤ growth.toInt) := by
  intro growth windowsPassed
  have hpos : 0 ≤ getTimeDiffMs st.thrashingResetTm s.currTm := by
    unfold thrashingResetIntervalMs at hsince
    omega
  have hdiv : windowsPassed = getTimeDiffMs st.thrashingResetTm s.currTm / 1000 :=
    Int.tdiv_eq_ediv_of_nonneg hpos
  have hw0 : 0 ≤ windowsPassed := by omega
  have hw1 : windowsPassed < 2 ^ 63 := by omega
  rw [mpEventPsiThrashing_of_window thrashingLimitPct st s hsince]
  dsimp only
  split
  · exact ⟨rfl, .inr (decayShift_toInt _ hw0 hw1), fun hx => decayShift_le _ hx hw0 hw1⟩
  · exact ⟨rfl, .inl rfl, fun _ => Int.le_refl _⟩

end Window

/-- The first event after boot to reach the block comes 64 seconds after
boot, after 5000 refaults of a file cache that boot recorded as empty: 64
windows have passed, and the growth of 500000 %, whose floor of the division
by `2^64` is 0, comes back whole as `thrashing`. -/
theorem mpEventPsiThrashing_boot_undecayed :
    (getTimeDiffMs (ThrashState.boot 30).thrashingResetTm ⟨64, 0⟩).tdiv thrashingResetIntervalMs = 64 ∧
      (mpEventPsiThrashing 30 (ThrashState.boot 30) ⟨⟨64, 0⟩, 5000, 60000, 40000⟩).2 = 500000 ∧
      (thrashingGrowth (ThrashState.boot 30) 5000).toInt / 2 ^ 64 = 0 := by
  decide

end Lmkd
