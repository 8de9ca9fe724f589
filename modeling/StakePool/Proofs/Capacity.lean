import Mathlib.Order.Bounds.Defs
import StakePool.Proofs.Records
/-!
# Space and capacity

A capacity takes up some space, and an account of some size has room for some capacity. The two are
adjoint, as `space_withCapacity_le_iff` says, and that is all there is to know of them: an account
has room for the largest capacity that fits, and one that was made for a capacity has room for just
that. Spaces are computed in words of 64 bits and capacities in words of 32. The product of an item
size and a capacity stays so far below the end of the wider word that the header fits as well, and a
quotient that is too large for the narrower word is cut to its largest value, which no capacity
exceeds.
-/

namespace StakePool

namespace RegistryShape

variable {shape : RegistryShape} {size : Nat}

/-- A registry of the same records with another capacity. -/
def withCapacity (shape : RegistryShape) (capacity : UInt32) : RegistryShape :=
  { shape with capacity }

@[simp] theorem withCapacity_self (shape : RegistryShape) :
    shape.withCapacity shape.capacity = shape := rfl

theorem toNat_capacityFor (hitem : shape.itemSize ≠ 0) (size : Nat) :
    (shape.capacityFor size).toNat
      = min ((size - RegistryHeader.size) / shape.itemSize.toNat) (UInt32.size - 1) := by
  rw [capacityFor, if_neg hitem]
  apply UInt32.toNat_ofNat_of_lt'
  simp only [UInt32.size]
  omega

/-- A capacity fits into a size exactly if the size has room for it. -/
theorem space_withCapacity_le_iff (hitem : shape.itemSize ≠ 0)
    (hheader : RegistryHeader.size ≤ size) (capacity : UInt32) :
    (shape.withCapacity capacity).space.toNat ≤ size ↔ capacity ≤ shape.capacityFor size := by
  have hword := capacity.toNat_lt
  have hspace : (shape.withCapacity capacity).space.toNat
      = RegistryHeader.size + capacity.toNat * shape.itemSize.toNat := by
    rw [toNat_space, Nat.mul_comm]
    rfl
  have hquotient : capacity.toNat ≤ (size - RegistryHeader.size) / shape.itemSize.toNat
      ↔ capacity.toNat * shape.itemSize.toNat ≤ size - RegistryHeader.size :=
    Nat.le_div_iff_mul_le (toNat_pos hitem)
  rw [UInt32.le_iff_toNat_le, toNat_capacityFor hitem, hspace, UInt32.size]
  omega

theorem capacityFor_space (shape : RegistryShape) (hitem : shape.itemSize ≠ 0) :
    shape.capacityFor shape.space.toNat = shape.capacity := by
  have hword := shape.capacity.toNat_lt
  rw [← UInt32.toNat_inj, toNat_capacityFor hitem, toNat_space, Nat.add_sub_cancel_left,
    Nat.mul_div_cancel_left _ (toNat_pos hitem), UInt32.size]
  omega

theorem capacityFor_ne (hitem : shape.itemSize ≠ 0) (hheader : RegistryHeader.size ≤ size)
    (hshort : size < shape.space.toNat) : shape.capacityFor size ≠ shape.capacity := by
  intro heq
  have hfits := (space_withCapacity_le_iff hitem hheader shape.capacity).mpr
    (heq ▸ UInt32.le_refl _)
  rw [withCapacity_self] at hfits
  omega

theorem capacityFor_space_sub_one (hitem : shape.itemSize ≠ 0) (hcapacity : shape.capacity ≠ 0) :
    shape.capacityFor (shape.space - 1).toNat = shape.capacity - 1 := by
  have hword := shape.capacity.toNat_lt
  have hheader := shape.size_le_space
  have hproduct := Nat.mul_pos (toNat_pos hitem) (toNat_pos hcapacity)
  have hbytes : (shape.space - 1).toNat - RegistryHeader.size
      = shape.itemSize.toNat * shape.capacity.toNat - (0 + 1) := by
    have hone : (1 : UInt64) ≤ shape.space := by
      rw [UInt64.le_iff_toNat_le]
      exact Nat.le_trans (by decide) hheader
    rw [UInt64.toNat_sub_of_le _ _ hone, toNat_space]
    change _ - 1 - _ = _
    omega
  have hone : (1 : UInt32) ≤ shape.capacity := UInt32.le_iff_toNat_le.mpr (toNat_pos hcapacity)
  rw [← UInt32.toNat_inj, toNat_capacityFor hitem, hbytes, Nat.mul_sub_div _ _ _ hproduct,
    Nat.zero_div, UInt32.toNat_sub_of_le _ _ hone, UInt32.size]
  change _ = shape.capacity.toNat - 1
  omega

/-- **Space and capacity are adjoint.** Given a size that the header fits into, a capacity fits as
well exactly if it is at most the capacity for that size, so the capacity for a size is the largest
that fits. What was made for a capacity has room for that capacity, and with one byte less for one
record less. All of this is computed exactly: no product and no sum is too large for 64 bits, and
the records are counted as far as 32 bits go. -/
theorem space_capacityFor_adjoint (shape : RegistryShape) (hitem : shape.itemSize ≠ 0) :
    (∀ (capacity : UInt32) (size : UInt64), RegistryHeader.size ≤ size.toNat →
        ((shape.withCapacity capacity).space ≤ size ↔ capacity ≤ shape.capacityFor size.toNat))
      ∧ (∀ size : UInt64, RegistryHeader.size ≤ size.toNat →
        IsGreatest {capacity | (shape.withCapacity capacity).space ≤ size}
          (shape.capacityFor size.toNat))
      ∧ shape.capacityFor shape.space.toNat = shape.capacity
      ∧ (shape.capacity ≠ 0 → shape.capacityFor (shape.space - 1).toNat = shape.capacity - 1)
      ∧ (shape.itemSize.toUInt64 * shape.capacity.toUInt64).toNat
        = shape.itemSize.toNat * shape.capacity.toNat
      ∧ shape.space.toNat = RegistryHeader.size + shape.itemSize.toNat * shape.capacity.toNat
      ∧ ∀ size : UInt64, (shape.capacityFor size.toNat).toNat
        = min ((size.toNat - RegistryHeader.size) / shape.itemSize.toNat) (UInt32.size - 1) := by
  have hadjoint (capacity : UInt32) (size : UInt64) (hheader : RegistryHeader.size ≤ size.toNat) :
      (shape.withCapacity capacity).space ≤ size ↔ capacity ≤ shape.capacityFor size.toNat := by
    rw [UInt64.le_iff_toNat_le]
    exact space_withCapacity_le_iff hitem hheader capacity
  refine ⟨hadjoint, fun size hheader => ⟨?_, ?_⟩, capacityFor_space shape hitem,
    capacityFor_space_sub_one hitem, shape.toNat_itemSize_mul_capacity, shape.toNat_space,
    fun size => toNat_capacityFor hitem size.toNat⟩
  · exact (hadjoint _ size hheader).mpr (UInt32.le_refl _)
  · intro capacity hfits
    exact (hadjoint capacity size hheader).mp hfits

/-- The largest records that there are, as many as can be counted. The largest account has room for
one more, which is not counted. -/
theorem space_capacityFor_adjoint_largest :
    let shape : RegistryShape := ⟨Block.zero 8, 4294967295, 4294967295, 0⟩
    shape.itemSize ≠ 0 ∧ shape.space = 18446744065119617113
      ∧ shape.capacityFor shape.space.toNat = 4294967295
      ∧ shape.capacityFor (shape.space - 1).toNat = 4294967294
      ∧ IsGreatest {capacity | (shape.withCapacity capacity).space ≤ 18446744073709551615}
        4294967295
      ∧ ¬ (shape.withCapacity 2).space ≤ 8589934677 := by
  intro shape
  have hitem : shape.itemSize ≠ 0 := by decide
  obtain ⟨hadjoint, hgreatest, hwhole, hless, -⟩ := space_capacityFor_adjoint shape hitem
  have hlargest := hgreatest 18446744073709551615 (by decide)
  have hcut : shape.capacityFor (18446744073709551615 : UInt64).toNat = 4294967295 := by
    decide +kernel
  rw [hcut] at hlargest
  refine ⟨hitem, by decide, hwhole, (hless (by decide)).trans (by decide), hlargest,
    fun hfits => ?_⟩
  exact absurd ((hadjoint 2 8589934677 (by decide)).mp hfits) (by decide +kernel)

end RegistryShape

end StakePool
