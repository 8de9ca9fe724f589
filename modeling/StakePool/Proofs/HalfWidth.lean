import StakePool.HalfWidth
import StakePool.Proofs.Bounds
import StakePool.Proofs.Capacity
import StakePool.Proofs.Fee
/-!
# Half the width is enough

The arithmetic at half the width was written a second time, with other words, other casts and other
ways to stop at the ends. On amounts of 32 bits it gives the results of the pool's own arithmetic:
fees because a valid fee is no larger than the amount, spaces because the product of two words of 32
bits fits into one of 64, capacities because a quotient is no larger than what is divided. Whether
parameters are valid is decided there by one conjunction. So what has been found out about the half
width is so at the full width, as far as the half width goes.
-/

namespace StakePool

namespace HalfWidth

variable {basisPoints : UInt32}

theorem feeIsValid_iff : FeeIsValid basisPoints ↔ (Fee.mk basisPoints).IsValid := Iff.rfl

theorem toNat_applyFee (h : FeeIsValid basisPoints) (amount : UInt32) :
    (applyFee basisPoints amount).toNat = (Fee.mk basisPoints).share amount.toNat := by
  have hamount := amount.toNat_lt
  have hpoints := basisPoints.toNat_lt
  have hproduct : amount.toNat * basisPoints.toNat ≤ (2 ^ 32 - 1) * (2 ^ 32 - 1) :=
    Nat.mul_le_mul (by omega) (by omega)
  have hshare : (Fee.mk basisPoints).share amount.toNat < 2 ^ 32 :=
    Nat.lt_of_le_of_lt (Fee.share_le (feeIsValid_iff.mp h) _) hamount
  rw [applyFee, UInt64.toNat_toUInt32, UInt64.toNat_div, UInt64.toNat_mul,
    UInt32.toNat_toUInt64, UInt32.toNat_toUInt64,
    Nat.mod_eq_of_lt (by omega : amount.toNat * basisPoints.toNat < 2 ^ 64)]
  exact Nat.mod_eq_of_lt hshare

theorem applyFee_eq (h : FeeIsValid basisPoints) (amount : UInt32) :
    (applyFee basisPoints amount).toUInt64 = (Fee.mk basisPoints).apply amount.toUInt64 := by
  rw [← UInt64.toNat_inj, UInt32.toNat_toUInt64, toNat_applyFee h,
    Fee.toNat_apply (feeIsValid_iff.mp h), UInt32.toNat_toUInt64]

theorem registrySpace_eq (shape : RegistryShape) :
    registrySpace shape.itemSize shape.capacity = shape.space := rfl

theorem capacityFor_eq (shape : RegistryShape) (size : UInt32) :
    capacityFor shape.itemSize size = shape.capacityFor size.toNat := by
  rw [capacityFor]
  split
  · next hitem => rw [RegistryShape.capacityFor, if_pos hitem]
  · next hitem =>
    have hword := size.toNat_lt
    have hrecords : (size.toNat - RegistryHeader.size) / shape.itemSize.toNat ≤ size.toNat :=
      Nat.le_trans (Nat.div_le_self ..) (Nat.sub_le ..)
    rw [← UInt32.toNat_inj, RegistryShape.toNat_capacityFor hitem, UInt32.toNat_div,
      Saturating.toNat_sub32, UInt32.size]
    change (size.toNat - RegistryHeader.size) / shape.itemSize.toNat = _
    omega

theorem registriesFit_iff (p : Parameters) :
    RegistriesFit p.stakeRecordSpare p.validatorRecordSpare
      ↔ p.stakeList.space ≤ StakePool.maxCreatedSpace
        ∧ p.validatorList.space ≤ StakePool.maxCreatedSpace := Iff.rfl

theorem isValid_iff (p : Parameters) :
    p.IsValid ↔
      FeesAreValid p.rewardFee.basisPoints p.lpMaxFee.basisPoints p.lpMinFee.basisPoints
          p.lpTreasuryCut.basisPoints
        ∧ RegistriesFit p.stakeRecordSpare p.validatorRecordSpare
        ∧ Parameters.minStakeLimit ≤ p.minStake
        ∧ Parameters.minDeltaWindow ≤ p.stakeDeltaWindow := by
  rw [Parameters.isValid_iff, registriesFit_iff]
  constructor
  · rintro ⟨hreward, hmax, hmin, hcrossed, hcut, hstake, hwindow, hspaces⟩
    exact ⟨⟨hreward, hmax, hmin, hcrossed, hcut⟩, hspaces, hstake, hwindow⟩
  · rintro ⟨⟨hreward, hmax, hmin, hcrossed, hcut⟩, hspaces, hstake, hwindow⟩
    exact ⟨hreward, hmax, hmin, hcrossed, hcut, hstake, hwindow, hspaces⟩

/-- **The half width agrees with the full width.** A fee is valid at one exactly if it is at the
other, and a valid fee is the same on every amount of 32 bits. For whatever size of a record, spare
bytes, capacity and size of an account, the item size, the space and the capacity of a registry are
the same; the two registries of a pool are registries of that kind. Parameters are valid exactly if
their fees are valid and their registries fit at half the width, and the least stake and the window
keep their limits. -/
theorem agrees_at_full_width :
    (∀ basisPoints, FeeIsValid basisPoints ↔ (Fee.mk basisPoints).IsValid)
      ∧ (∀ basisPoints amount, FeeIsValid basisPoints →
        (applyFee basisPoints amount).toUInt64 = (Fee.mk basisPoints).apply amount.toUInt64)
      ∧ (∀ discriminator record capacity spare size,
        let shape := RegistryShape.ofRecord discriminator record capacity spare
        itemSize record spare = shape.itemSize
          ∧ registrySpace (itemSize record spare) capacity = shape.space
          ∧ capacityFor (itemSize record spare) size = shape.capacityFor size.toNat)
      ∧ (∀ spare,
        RegistryShape.stakeList spare = .ofRecord RegistryShape.stakeListDiscriminator
            stakeRecordSize stakeListCapacity spare
          ∧ RegistryShape.validatorList spare = .ofRecord RegistryShape.validatorListDiscriminator
            validatorRecordSize validatorListCapacity spare)
      ∧ ∀ p : Parameters, p.IsValid ↔
        FeesAreValid p.rewardFee.basisPoints p.lpMaxFee.basisPoints p.lpMinFee.basisPoints
            p.lpTreasuryCut.basisPoints
          ∧ RegistriesFit p.stakeRecordSpare p.validatorRecordSpare
          ∧ Parameters.minStakeLimit ≤ p.minStake
          ∧ Parameters.minDeltaWindow ≤ p.stakeDeltaWindow := by
  refine ⟨fun _ => feeIsValid_iff, fun _ amount h => applyFee_eq h amount, ?_, fun spare => ?_,
    isValid_iff⟩
  · intro discriminator record capacity spare size shape
    exact ⟨rfl, registrySpace_eq shape, capacityFor_eq shape size⟩
  · exact ⟨RegistryShape.stakeList_eq_ofRecord spare,
      RegistryShape.validatorList_eq_ofRecord spare⟩

/-- The largest amount. A fee that is not valid may not fit into half the width. -/
theorem agrees_at_full_width_largest :
    (applyFee 9999 4294967295).toUInt64 = (Fee.mk 9999).apply 4294967295
      ∧ (Fee.mk 9999).apply 4294967295 = 4294537798
      ∧ (applyFee 10001 4294967295).toUInt64 ≠ (Fee.mk 10001).apply 4294967295 :=
  ⟨agrees_at_full_width.2.1 9999 4294967295 (by decide), by decide, by decide⟩

end HalfWidth

end StakePool
