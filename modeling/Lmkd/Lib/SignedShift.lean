import Mathlib.Data.Int.Bitwise

/-!
# Arithmetic right shifts of 64-bit integers

C defines `a >> n` on an `int64_t` for counts in `[0, 63]` only, as the
floor of `a / 2^n`.  Lean's `Int64` shift takes the count modulo 64, as the
arm64 `asr` instruction does; on a non-negative count it is the floor of the
division by two to the count modulo 64 (`toInt_shiftRight_of_nonneg`).
-/

namespace Int64

theorem toNat_smod_of_nonneg (c : Int64) (hc : 0 ≤ c.toInt) :
    (c.toBitVec.smod 64).toNat = c.toBitVec.toNat % 64 := by
  have hmsb : c.toBitVec.msb = false := by
    rw [BitVec.msb_eq_false_iff_two_mul_lt]
    have hint := Int64.toInt_toBitVec c
    rw [BitVec.toInt_eq_toNat_cond] at hint
    split at hint <;> omega
  rw [BitVec.toNat_smod, hmsb, show BitVec.msb (64 : BitVec 64) = false by decide]
  exact BitVec.toNat_umod

theorem toInt_shiftRight_of_nonneg (x c : Int64) (hc : 0 ≤ c.toInt) :
    (x >>> c).toInt = x.toInt / 2 ^ (c.toBitVec.toNat % 64) := by
  rw [← Int64.toInt_toBitVec, Int64.toBitVec_shiftRight, BitVec.sshiftRight_eq',
    BitVec.toInt_sshiftRight, toNat_smod_of_nonneg c hc, Int.shiftRight_eq_div_pow,
    Int64.toInt_toBitVec]
  push_cast
  rfl

theorem toInt_shiftRight_le (x c : Int64) (hx : 0 ≤ x.toInt) (hc : 0 ≤ c.toInt) :
    (x >>> c).toInt ≤ x.toInt := by
  rw [toInt_shiftRight_of_nonneg x c hc]
  exact Int.ediv_le_self _ hx

theorem toNat_toBitVec_ofInt (w : Int) (h0 : 0 ≤ w) (h1 : w < 2 ^ 63) :
    (Int64.ofInt w).toBitVec.toNat = w.toNat := by
  rw [Int64.toBitVec_ofInt, BitVec.toNat_ofInt]
  omega

theorem toInt_ofInt_nonneg (w : Int) (h0 : 0 ≤ w) (h1 : w < 2 ^ 63) : 0 ≤ (Int64.ofInt w).toInt := by
  rw [Int64.toInt_ofInt_of_le (by omega) h1]
  exact h0

end Int64
