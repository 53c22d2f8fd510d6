import Mathlib

/-!
# Fixed-width arithmetic that does not overflow

An `Int64` or `Int32` sum, difference, product or quotient whose integer
value lies in the range of the type is that value, and comparisons are those
of the values: a computation whose intermediate values stay in range is the
same computation over the integers.  Division truncates, as in C.
-/

namespace Int64

/-- An integer that an `int64_t` holds. -/
def InRange (x : Int) : Prop := -2 ^ 63 ≤ x ∧ x < 2 ^ 63

theorem bmod_of_inRange {x : Int} (h : InRange x) : x.bmod (2 ^ 64) = x :=
  Int.bmod_eq_of_le (by have := h.1; omega) (by have := h.2; omega)

theorem toInt_add_of_inRange {a b : Int64} (h : InRange (a.toInt + b.toInt)) :
    (a + b).toInt = a.toInt + b.toInt := by
  rw [toInt_add]
  exact bmod_of_inRange h

theorem toInt_sub_of_inRange {a b : Int64} (h : InRange (a.toInt - b.toInt)) :
    (a - b).toInt = a.toInt - b.toInt := by
  rw [toInt_sub]
  exact bmod_of_inRange h

theorem toInt_mul_of_inRange {a b : Int64} (h : InRange (a.toInt * b.toInt)) :
    (a * b).toInt = a.toInt * b.toInt := by
  rw [toInt_mul]
  exact bmod_of_inRange h

end Int64

namespace Int32

/-- An integer that an `int` holds. -/
def InRange (x : Int) : Prop := -2 ^ 31 ≤ x ∧ x < 2 ^ 31

theorem bmod_of_inRange {x : Int} (h : InRange x) : x.bmod (2 ^ 32) = x :=
  Int.bmod_eq_of_le (by have := h.1; omega) (by have := h.2; omega)

theorem toInt_add_of_inRange {a b : Int32} (h : InRange (a.toInt + b.toInt)) :
    (a + b).toInt = a.toInt + b.toInt := by
  rw [toInt_add]
  exact bmod_of_inRange h

theorem toInt_sub_of_inRange {a b : Int32} (h : InRange (a.toInt - b.toInt)) :
    (a - b).toInt = a.toInt - b.toInt := by
  rw [toInt_sub]
  exact bmod_of_inRange h

theorem toInt_mul_of_inRange {a b : Int32} (h : InRange (a.toInt * b.toInt)) :
    (a * b).toInt = a.toInt * b.toInt := by
  rw [toInt_mul]
  exact bmod_of_inRange h

theorem toInt_div_of_inRange {a b : Int32} (h : InRange (a.toInt.tdiv b.toInt)) :
    (a / b).toInt = a.toInt.tdiv b.toInt := by
  rw [toInt_div]
  exact bmod_of_inRange h

end Int32
