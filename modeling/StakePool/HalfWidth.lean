import StakePool.Saturating
/-!
# Pool arithmetic at half the width

The pool's arithmetic on fees and registries over amounts of 32 bits, with 64 bits between. It is small
enough to be searched exhaustively by bit-level tools.
-/

namespace StakePool

namespace HalfWidth

def maxBasisPoints : UInt32 := 10000

def headerSize : UInt32 := 88

def stakeRecordSize : UInt32 := 49

def validatorRecordSize : UInt32 := 53

def stakeListCapacity : UInt32 := 128

def validatorListCapacity : UInt32 := 64

def maxCreatedSpace : UInt64 := 10240

def FeeIsValid (basisPoints : UInt32) : Prop := basisPoints ≤ maxBasisPoints

instance (basisPoints : UInt32) : Decidable (FeeIsValid basisPoints) :=
  inferInstanceAs (Decidable (_ ≤ _))

/-- The fee on an amount, rounded down. -/
def applyFee (basisPoints amount : UInt32) : UInt32 :=
  (amount.toUInt64 * basisPoints.toUInt64 / maxBasisPoints.toUInt64).toUInt32

def itemSize (record spare : UInt32) : UInt32 := Saturating.add32 record spare

def registrySpace (itemSize capacity : UInt32) : UInt64 :=
  headerSize.toUInt64 + itemSize.toUInt64 * capacity.toUInt64

def capacityFor (itemSize space : UInt32) : UInt32 :=
  if itemSize = 0 then 0 else Saturating.sub32 space headerSize / itemSize

/-- Every fee is bounded, and the least liquidity fee is not above the largest. -/
def FeesAreValid (reward lpMax lpMin cut : UInt32) : Prop :=
  FeeIsValid reward ∧ FeeIsValid lpMax ∧ FeeIsValid lpMin ∧ lpMin ≤ lpMax ∧ FeeIsValid cut

instance (reward lpMax lpMin cut : UInt32) : Decidable (FeesAreValid reward lpMax lpMin cut) :=
  inferInstanceAs (Decidable (_ ∧ _))

/-- Both registries can be created in one go. -/
def RegistriesFit (stakeSpare validatorSpare : UInt32) : Prop :=
  registrySpace (itemSize stakeRecordSize stakeSpare) stakeListCapacity ≤ maxCreatedSpace
    ∧ registrySpace (itemSize validatorRecordSize validatorSpare) validatorListCapacity
      ≤ maxCreatedSpace

instance (stakeSpare validatorSpare : UInt32) : Decidable (RegistriesFit stakeSpare validatorSpare) :=
  inferInstanceAs (Decidable (_ ∧ _))

end HalfWidth

end StakePool
