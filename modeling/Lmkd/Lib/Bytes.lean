import Lmkd.Lib.ByteOrder
import Mathlib

/-!
# Bytes of words, and byte memories

`leBytes w x` are the `w` bytes of `x` from the least significant up, what a
little-endian store of the word leaves in memory; `beBytes` is the other
order, that of `DataOutput` and of the network.  `leValue` and `beValue` read
a word back (`leValue_leBytes`, `beValue_beBytes`).  `byteSwap w` is the
`htons`/`htonl`/`htonq` of a little-endian host: its little-endian bytes are
the big-endian bytes of its argument (`leBytes_byteSwap`).

A byte memory is a function from addresses to bytes.  `writeBytes` stores a
list of bytes at consecutive addresses, `readBytes` reads a run of them.  Two
adjacent writes are one write of the concatenation (`writeBytes_append`); a
write leaves the bytes outside it alone and reads back as what was written.
-/

namespace Bytes

def leBytes : Nat → Nat → List UInt8
  | 0, _ => []
  | w + 1, x => UInt8.ofNat (x % 256) :: leBytes w (x / 256)

def beBytes (w x : Nat) : List UInt8 := (leBytes w x).reverse

def leValue : List UInt8 → Nat
  | [] => 0
  | b :: bs => b.toNat + 256 * leValue bs

def beValue (bs : List UInt8) : Nat := leValue bs.reverse

/-- The `w`-byte word with the bytes of `x` in the other order. -/
def byteSwap (w x : Nat) : Nat := leValue (beBytes w x)

/-! ## Words -/

@[simp] theorem length_leBytes : ∀ w x, (leBytes w x).length = w
  | 0, _ => rfl
  | w + 1, x => by rw [leBytes, List.length_cons, length_leBytes w]

@[simp] theorem length_beBytes (w x : Nat) : (beBytes w x).length = w := by
  rw [beBytes, List.length_reverse, length_leBytes]

theorem leValue_leBytes : ∀ w x, leValue (leBytes w x) = x % 256 ^ w
  | 0, x => by simp [leBytes, leValue, Nat.mod_one]
  | w + 1, x => by
    have hbyte : (UInt8.ofNat (x % 256)).toNat = x % 256 := by simp
    rw [leBytes, leValue, leValue_leBytes w, hbyte, Nat.pow_succ', Nat.mod_mul]

theorem leValue_lt : ∀ bs : List UInt8, leValue bs < 256 ^ bs.length
  | [] => by simp [leValue]
  | b :: bs => by
    have hb := b.toNat_lt
    have ih := leValue_lt bs
    rw [leValue, List.length_cons, Nat.pow_succ']
    omega

theorem leBytes_leValue : ∀ bs : List UInt8, leBytes bs.length (leValue bs) = bs
  | [] => rfl
  | b :: bs => by
    have hb := b.toNat_lt
    have hmod : (b.toNat + 256 * leValue bs) % 256 = b.toNat := by omega
    have hdiv : (b.toNat + 256 * leValue bs) / 256 = leValue bs := by omega
    rw [List.length_cons, leValue, leBytes, hmod, hdiv, leBytes_leValue bs, UInt8.ofNat_toNat]

theorem beValue_beBytes (w x : Nat) : beValue (beBytes w x) = x % 256 ^ w := by
  rw [beValue, beBytes, List.reverse_reverse, leValue_leBytes]

theorem beValue_lt (bs : List UInt8) : beValue bs < 256 ^ bs.length := by
  rw [beValue, ← List.length_reverse]
  exact leValue_lt _

theorem byteSwap_lt (w x : Nat) : byteSwap w x < 256 ^ w := by
  have := leValue_lt (beBytes w x)
  rwa [length_beBytes] at this

theorem leBytes_byteSwap (w x : Nat) : leBytes w (byteSwap w x) = beBytes w x := by
  have := leBytes_leValue (beBytes w x)
  rwa [length_beBytes] at this

theorem swap32Nat_eq_byteSwap (n : Nat) : ByteOrder.swap32Nat n = byteSwap 4 n := by
  simp only [byteSwap, beBytes, leBytes, List.reverse_cons, List.reverse_nil, List.nil_append,
    List.cons_append, leValue, UInt8.toNat_ofNat', ByteOrder.swap32Nat, Nat.div_div_eq_div_mul,
    Nat.reduceMul, Nat.reducePow, Nat.mod_mod]
  omega

theorem length_flatMap_of_length {α β : Type} {f : α → List β} {w : Nat}
    (hf : ∀ x, (f x).length = w) (xs : List α) : (xs.flatMap f).length = w * xs.length := by
  rw [List.length_flatMap, List.map_congr_left fun x _ => hf x, List.map_const', List.sum_replicate,
    smul_eq_mul, Nat.mul_comm]

/-! ## Byte memories -/

def writeBytes : (Nat → UInt8) → Nat → List UInt8 → Nat → UInt8
  | mem, _, [] => mem
  | mem, off, b :: bs => writeBytes (Function.update mem off b) (off + 1) bs

def readBytes (mem : Nat → UInt8) (off len : Nat) : List UInt8 :=
  (List.range len).map fun i => mem (off + i)

@[simp] theorem length_readBytes (mem : Nat → UInt8) (off len : Nat) :
    (readBytes mem off len).length = len := by
  simp [readBytes]

theorem writeBytes_append :
    ∀ (mem : Nat → UInt8) (off : Nat) (a b : List UInt8),
      writeBytes mem off (a ++ b) = writeBytes (writeBytes mem off a) (off + a.length) b
  | _, _, [], _ => rfl
  | mem, off, x :: a, b => by
    rw [List.cons_append, writeBytes, writeBytes, writeBytes_append _ (off + 1) a b,
      List.length_cons, Nat.add_assoc, Nat.add_comm 1]

theorem writeBytes_of_outside :
    ∀ (mem : Nat → UInt8) (off : Nat) (bs : List UInt8) {i : Nat},
      i < off ∨ off + bs.length ≤ i → writeBytes mem off bs i = mem i
  | _, _, [], _, _ => rfl
  | mem, off, b :: bs, i, hi => by
    rw [writeBytes, writeBytes_of_outside _ _ bs (by simp only [List.length_cons] at hi; omega),
      Function.update_of_ne (by simp only [List.length_cons] at hi; omega)]

theorem writeBytes_inside :
    ∀ (mem : Nat → UInt8) (off : Nat) (bs : List UInt8) {j : Nat} (hj : j < bs.length),
      writeBytes mem off bs (off + j) = bs[j]
  | _, _, [], _, hj => absurd hj (Nat.not_lt_zero _)
  | mem, off, b :: bs, 0, _ => by
    rw [writeBytes, writeBytes_of_outside _ _ bs (by omega), Nat.add_zero, Function.update_self,
      List.getElem_cons_zero]
  | mem, off, b :: bs, j + 1, hj => by
    rw [writeBytes, show off + (j + 1) = off + 1 + j by omega,
      writeBytes_inside _ _ bs (by simpa using hj), List.getElem_cons_succ]

theorem readBytes_writeBytes (mem : Nat → UInt8) (off : Nat) (bs : List UInt8) {i k : Nat}
    (h : i + k ≤ bs.length) : readBytes (writeBytes mem off bs) (off + i) k = (bs.drop i).take k := by
  apply List.ext_getElem
  · simp
    omega
  · intro j hj _
    rw [length_readBytes] at hj
    simp only [readBytes, List.getElem_map, List.getElem_range]
    rw [Nat.add_assoc, writeBytes_inside _ _ _ (by omega), List.getElem_take, List.getElem_drop]

end Bytes
