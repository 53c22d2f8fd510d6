import Mathlib.Data.List.Basic

/-!
# Buffers and fixed-size record layouts

A receive buffer is a total function from cell index to cell: a read of the
cells `ws` into a buffer fills its first `ws.length` cells and leaves the
others as they were (`ofList`).  An encoder lays out records of `k` cells
each one after another (`layout`); a decoder reads record `i` from the `k`
cells at `base + i * k` (`readRecords`).  `readRecords_layout` is the round
trip: a decoder that inverts the record encoding on its `k` cells gets every
record back, whatever precedes, follows or was stale in the buffer.
-/

namespace WordArray

variable {α β : Type}

/-- The buffer after `ws` was read into a buffer that held `stale`. -/
def ofList (ws : List α) (stale : Nat → α) (i : Nat) : α := ws[i]?.getD (stale i)

theorem ofList_of_lt {ws : List α} {i : Nat} (h : i < ws.length) (stale : Nat → α) :
    ofList ws stale i = ws[i] := by
  simp [ofList, List.getElem?_eq_getElem h]

/-- Records laid out one after another. -/
def layout (enc : β → List α) : List β → List α
  | [] => []
  | b :: bs => enc b ++ layout enc bs

/-- Decode `n` records of `k` cells from `buf`, the first at cell `base`. -/
def readRecords (dec : (Nat → α) → β) (k base : Nat) (buf : Nat → α) (n : Nat) : List β :=
  (List.range n).map fun i => dec fun j => buf (base + i * k + j)

section Layout

variable {enc : β → List α} {k : Nat}

theorem length_layout (henc : ∀ b, (enc b).length = k) :
    ∀ bs : List β, (layout enc bs).length = bs.length * k
  | [] => by simp [layout]
  | b :: bs => by
    rw [layout, List.length_append, henc, length_layout henc bs, List.length_cons, Nat.succ_mul,
      Nat.add_comm]

theorem getElem?_layout (henc : ∀ b, (enc b).length = k) :
    ∀ (bs : List β) (i : Nat) (hi : i < bs.length) {j : Nat}, j < k →
      (layout enc bs)[i * k + j]? = (enc bs[i])[j]?
  | [], _, hi, _, _ => absurd hi (Nat.not_lt_zero _)
  | b :: bs, 0, _, j, hj => by
    rw [layout, Nat.zero_mul, Nat.zero_add, List.getElem?_append_left (by rw [henc]; exact hj)]
    rfl
  | b :: bs, i + 1, hi, j, hj => by
    have hle : (enc b).length ≤ (i + 1) * k + j := by
      rw [henc, Nat.succ_mul]
      omega
    rw [layout, List.getElem?_append_right hle, henc]
    have hidx : (i + 1) * k + j - k = i * k + j := by
      rw [Nat.succ_mul]
      omega
    rw [hidx, getElem?_layout henc bs i (Nat.lt_of_succ_lt_succ hi) hj]
    rfl

theorem readRecords_layout (henc : ∀ b, (enc b).length = k) (dec : (Nat → α) → β)
    (hdec : ∀ (b : β) (buf : Nat → α), (∀ j < k, some (buf j) = (enc b)[j]?) → dec buf = b)
    (pre : List α) (bs : List β) (post : List α) (stale : Nat → α) :
    readRecords dec k pre.length (ofList (pre ++ layout enc bs ++ post) stale) bs.length = bs := by
  apply List.ext_getElem
  · simp [readRecords]
  · intro i hi _
    simp only [readRecords, List.getElem_map, List.getElem_range]
    apply hdec
    intro j hj
    have hlen : (layout enc bs).length = bs.length * k := length_layout henc bs
    have hi' : i < bs.length := by simpa [readRecords] using hi
    have hcell : i * k + j < (layout enc bs).length := by
      rw [hlen]
      calc i * k + j < i * k + k := Nat.add_lt_add_left hj _
        _ = (i + 1) * k := (Nat.succ_mul i k).symm
        _ ≤ bs.length * k := Nat.mul_le_mul_right k hi'
    have hin : pre.length + i * k + j < (pre ++ layout enc bs ++ post).length := by
      simp only [List.length_append]
      omega
    rw [ofList_of_lt hin, ← List.getElem?_eq_getElem hin, List.append_assoc,
      List.getElem?_append_right (by omega), Nat.add_assoc, Nat.add_sub_cancel_left,
      List.getElem?_append_left hcell, getElem?_layout henc bs i hi' hj]

end Layout

end WordArray
