/-!
# Byte order of 32-bit words

On a little-endian host `htonl` and `ntohl` both reverse the four bytes of a
word.  The reversal is written on the numeric value, byte by byte, so that
`omega` can see through it once a value is split into its bytes
(`eq_bytes`); `swap32_swap32` is the fact that every codec round trip over a
network-order word rests on.
-/

namespace ByteOrder

def swap32Nat (n : Nat) : Nat :=
  n % 256 * 16777216 + n / 256 % 256 * 65536 + n / 65536 % 256 * 256 + n / 16777216 % 256

/-- Reverse the bytes of a 32-bit word. -/
def swap32 (x : UInt32) : UInt32 := UInt32.ofNat (swap32Nat x.toNat)

theorem swap32Nat_lt (n : Nat) : swap32Nat n < 4294967296 := by
  unfold swap32Nat
  omega

theorem swap32Nat_bytes (c₀ c₁ c₂ c₃ : Nat) (h₀ : c₀ < 256) (h₁ : c₁ < 256) (h₂ : c₂ < 256)
    (h₃ : c₃ < 256) :
    swap32Nat (c₀ + 256 * c₁ + 65536 * c₂ + 16777216 * c₃) =
      c₃ + 256 * c₂ + 65536 * c₁ + 16777216 * c₀ := by
  unfold swap32Nat
  omega

theorem eq_bytes (n : Nat) (h : n < 4294967296) :
    n = n % 256 + 256 * (n / 256 % 256) + 65536 * (n / 65536 % 256) +
      16777216 * (n / 16777216 % 256) := by
  omega

theorem swap32Nat_swap32Nat (n : Nat) (h : n < 4294967296) : swap32Nat (swap32Nat n) = n := by
  rw [eq_bytes n h, swap32Nat_bytes _ _ _ _ (by omega) (by omega) (by omega) (by omega),
    swap32Nat_bytes _ _ _ _ (by omega) (by omega) (by omega) (by omega)]

theorem toNat_swap32 (x : UInt32) : (swap32 x).toNat = swap32Nat x.toNat := by
  rw [swap32, UInt32.toNat_ofNat', Nat.mod_eq_of_lt (swap32Nat_lt _)]

@[simp] theorem swap32_swap32 (x : UInt32) : swap32 (swap32 x) = x := by
  apply UInt32.toNat_inj.mp
  rw [toNat_swap32, toNat_swap32, swap32Nat_swap32Nat _ x.toNat_lt]

theorem swap32_injective : Function.Injective swap32 := fun x y h => by
  rw [← swap32_swap32 x, h, swap32_swap32]

end ByteOrder
