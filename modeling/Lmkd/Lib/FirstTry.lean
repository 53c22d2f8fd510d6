import Mathlib.Data.List.Basic
import Mathlib.Order.Defs.PartialOrder
import Mathlib.Data.List.Forall2

/-!
# Trying candidates in turn

`tryFirst ok found xs k` tries the candidates `xs` in order and stops at the
first one that `ok` accepts, reporting it with `found`; when it accepts none
the run goes on as `k`.  The first component lists every candidate tried,
the second how the run ended.  A loop that walks several lists one after the
other and stops at the first success is `tryFirst` of their concatenation
(`tryFirst_append`); what it tries is the `takeWhile` of the failures and
the `find?` of the success (`tryFirst_eq`), and no more than its candidates
(`tryFirst_sublist`).

A chain of tests on one value reports the index of the first test the value
passes (`List.findIdx`).  When every test that a value passes is passed by
each smaller value, that index moves up with the value
(`findIdx_le_findIdx_of_antitone`); a chain whose tests are each implied by
those of another is passed no later (`findIdx_le_findIdx_of_forall₂`).
-/

namespace FirstTry

variable {α β : Type}

def tryFirst (ok : α → Bool) (found : α → β) : List α → List α × Option β → List α × Option β
  | [], k => k
  | x :: xs, k =>
    if ok x then ([x], some (found x))
    else (x :: (tryFirst ok found xs k).1, (tryFirst ok found xs k).2)

variable {ok : α → Bool} {found : α → β}

@[simp] theorem tryFirst_nil (k : List α × Option β) : tryFirst ok found [] k = k := rfl

theorem tryFirst_cons_of_ok {x : α} (hx : ok x = true) (xs : List α) (k : List α × Option β) :
    tryFirst ok found (x :: xs) k = ([x], some (found x)) := by
  simp [tryFirst, hx]

theorem tryFirst_cons_of_not_ok {x : α} (hx : ok x = false) (xs : List α)
    (k : List α × Option β) :
    tryFirst ok found (x :: xs) k =
      (x :: (tryFirst ok found xs k).1, (tryFirst ok found xs k).2) := by
  simp [tryFirst, hx]

theorem tryFirst_append (xs ys : List α) (k : List α × Option β) :
    tryFirst ok found (xs ++ ys) k = tryFirst ok found xs (tryFirst ok found ys k) := by
  induction xs with
  | nil => rfl
  | cons x xs ih =>
    cases hx : ok x
    · rw [List.cons_append, tryFirst_cons_of_not_ok hx, tryFirst_cons_of_not_ok hx, ih]
    · rw [List.cons_append, tryFirst_cons_of_ok hx, tryFirst_cons_of_ok hx]

theorem tryFirst_eq (xs : List α) (k : List α × Option β) :
    tryFirst ok found xs k =
      (xs.takeWhile (fun x => !ok x) ++ ((xs.find? ok).map fun x => [x]).getD k.1,
        ((xs.find? ok).map found).or k.2) := by
  induction xs with
  | nil => simp
  | cons x xs ih =>
    cases hx : ok x
    · rw [tryFirst_cons_of_not_ok hx, ih, List.takeWhile_cons_of_pos (by simp [hx]),
        List.find?_cons_of_neg (by simp [hx])]
      rfl
    · rw [tryFirst_cons_of_ok hx, List.takeWhile_cons_of_neg (by simp [hx]),
        List.find?_cons_of_pos hx]
      rfl

theorem tryFirst_sublist (xs : List α) (k : List α × Option β) :
    List.Sublist (tryFirst ok found xs k).1 (xs ++ k.1) := by
  induction xs with
  | nil => exact List.Sublist.refl _
  | cons x xs ih =>
    cases hx : ok x
    · rw [tryFirst_cons_of_not_ok hx]
      exact ih.cons_cons x
    · rw [tryFirst_cons_of_ok hx]
      exact (List.nil_sublist _).cons_cons x

/-! ## The first test passed -/

theorem findIdx_le_findIdx_of_forall₂ {p q : α → Bool} {xs ys : List α}
    (h : List.Forall₂ (fun x y => p x = true → q y = true) xs ys) : ys.findIdx q ≤ xs.findIdx p := by
  induction h with
  | nil => exact Nat.le_refl _
  | @cons x y xs ys hxy _ ih =>
    rw [List.findIdx_cons, List.findIdx_cons]
    cases hx : p x
    · cases q y
      · -- neither passes the head: compare the rest
        simpa using ih
      · simp
    · rw [hxy hx]
      simp

theorem findIdx_le_findIdx_of_antitone [Preorder α] (tests : List (α → Bool))
    (hanti : ∀ t ∈ tests, ∀ x y, x ≤ y → t y = true → t x = true) {x y : α} (hxy : x ≤ y) :
    tests.findIdx (fun t => t x) ≤ tests.findIdx (fun t => t y) :=
  findIdx_le_findIdx_of_forall₂ (List.forall₂_same.mpr fun t ht => hanti t ht x y hxy)

end FirstTry
