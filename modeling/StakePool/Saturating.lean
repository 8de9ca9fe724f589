/-!
# Arithmetic that stops at the ends

Sums of machine words that stay at the largest word instead of wrapping, and differences that stay at
zero.
-/

namespace StakePool

namespace Saturating

def add32 (a b : UInt32) : UInt32 := UInt32.ofNat (min (a.toNat + b.toNat) (UInt32.size - 1))

def add64 (a b : UInt64) : UInt64 := UInt64.ofNat (min (a.toNat + b.toNat) (UInt64.size - 1))

def sub32 (a b : UInt32) : UInt32 := if b ≤ a then a - b else 0

def sub64 (a b : UInt64) : UInt64 := if b ≤ a then a - b else 0

@[simp] theorem toNat_add32 (a b : UInt32) :
    (add32 a b).toNat = min (a.toNat + b.toNat) (UInt32.size - 1) :=
  UInt32.toNat_ofNat_of_lt' (by simp only [UInt32.size]; omega)

@[simp] theorem toNat_add64 (a b : UInt64) :
    (add64 a b).toNat = min (a.toNat + b.toNat) (UInt64.size - 1) :=
  UInt64.toNat_ofNat_of_lt' (by simp only [UInt64.size]; omega)

@[simp] theorem toNat_sub32 (a b : UInt32) : (sub32 a b).toNat = a.toNat - b.toNat := by
  unfold sub32
  split
  · next h => exact UInt32.toNat_sub_of_le _ _ h
  · next h =>
    rw [UInt32.le_iff_toNat_le] at h
    simp
    omega

@[simp] theorem toNat_sub64 (a b : UInt64) : (sub64 a b).toNat = a.toNat - b.toNat := by
  unfold sub64
  split
  · next h => exact UInt64.toNat_sub_of_le _ _ h
  · next h =>
    rw [UInt64.le_iff_toNat_le] at h
    simp
    omega

end Saturating

end StakePool
