import StakePool.Fee
import StakePool.Registry
/-!
# The parameters of a new pool

What the founder of a pool decides, the bounds it has to keep, and its byte form. The bounds are
checked in a fixed order before any account is touched, and only the first breach is reported.
-/

namespace StakePool

structure Parameters where
  admin : Key
  validatorManager : Key
  pauser : Key
  minStake : UInt64
  rewardFee : Fee
  /-- Liquidity at which the unstaking fee has fallen to `lpMinFee`. -/
  lpLiquidityTarget : UInt64
  lpMaxFee : Fee
  lpMinFee : Fee
  /-- The treasury's share of the unstaking fees. -/
  lpTreasuryCut : Fee
  /-- Spare bytes in every stake record. -/
  stakeRecordSpare : UInt32
  /-- Spare bytes in every validator record. -/
  validatorRecordSpare : UInt32
  /-- Slots between two runs of the stake delta. -/
  stakeDeltaWindow : UInt64
deriving DecidableEq

/-- The most data an account can be created with in one go. -/
def maxCreatedSpace : UInt64 := 10240

namespace Parameters

/-- A hundredth of a SOL. -/
def minStakeLimit : UInt64 := 10000000

def minDeltaWindow : UInt64 := 3000

def layout : Layout Parameters :=
  (Key.layout.pair <| Key.layout.pair <| Key.layout.pair <| Layout.word64.pair <|
    Fee.layout.pair <| Layout.word64.pair <| Fee.layout.pair <| Fee.layout.pair <|
    Fee.layout.pair <| Layout.word32.pair <| Layout.word32.pair <| Layout.word64).map
    (fun (admin, validatorManager, pauser, minStake, rewardFee, lpLiquidityTarget, lpMaxFee,
        lpMinFee, lpTreasuryCut, stakeRecordSpare, validatorRecordSpare, stakeDeltaWindow) =>
      { admin, validatorManager, pauser, minStake, rewardFee, lpLiquidityTarget, lpMaxFee,
        lpMinFee, lpTreasuryCut, stakeRecordSpare, validatorRecordSpare, stakeDeltaWindow })
    (fun p => (p.admin, p.validatorManager, p.pauser, p.minStake, p.rewardFee, p.lpLiquidityTarget,
      p.lpMaxFee, p.lpMinFee, p.lpTreasuryCut, p.stakeRecordSpare, p.validatorRecordSpare,
      p.stakeDeltaWindow))
    (fun _ => rfl) (fun _ => rfl)

def size : Nat := layout.width

theorem size_eq : size = 144 := rfl

def encode (p : Parameters) : Bytes := layout.encode p

/-- Reads the front of a byte string and leaves the rest alone. -/
def decode? (bytes : Bytes) : Option Parameters := layout.readFront? bytes

def stakeList (p : Parameters) : RegistryShape := .stakeList p.stakeRecordSpare

def validatorList (p : Parameters) : RegistryShape := .validatorList p.validatorRecordSpare

/-- A bound that the parameters do not keep. -/
inductive Breach where
  | rewardFeeTooHigh (fee : Fee)
  | lpMaxFeeTooHigh (fee : Fee)
  | lpMinFeeTooHigh (fee : Fee)
  | lpFeesCrossed (min max : Fee)
  | treasuryCutTooHigh (fee : Fee)
  | minStakeTooLow (lamports : UInt64)
  | deltaWindowTooShort (slots : UInt64)
  | stakeListTooLarge (space : UInt64)
  | validatorListTooLarge (space : UInt64)
deriving DecidableEq

namespace Breach

def message : Breach → String
  | rewardFeeTooHigh fee => s!"reward fee {fee} above 100%"
  | lpMaxFeeTooHigh fee => s!"lp max fee {fee} above 100%"
  | lpMinFeeTooHigh fee => s!"lp min fee {fee} above 100%"
  | lpFeesCrossed min max => s!"lp min fee {min} greater than lp max fee {max}"
  | treasuryCutTooHigh fee => s!"treasury cut {fee} above 100%"
  | minStakeTooLow lamports => s!"min stake {lamports} below 0.01 SOL"
  | deltaWindowTooShort slots => s!"slots for stake delta {slots} below 3000"
  | stakeListTooLarge space => s!"stake list of {space} bytes exceeds the 10240 byte creation limit"
  | validatorListTooLarge space =>
    s!"validator list of {space} bytes exceeds the 10240 byte creation limit"

end Breach

/-- The first bound that is broken. -/
def breach? (p : Parameters) : Option Breach :=
  if ¬ p.rewardFee.IsValid then some (.rewardFeeTooHigh p.rewardFee)
  else if ¬ p.lpMaxFee.IsValid then some (.lpMaxFeeTooHigh p.lpMaxFee)
  else if ¬ p.lpMinFee.IsValid then some (.lpMinFeeTooHigh p.lpMinFee)
  else if p.lpMaxFee.basisPoints < p.lpMinFee.basisPoints then
    some (.lpFeesCrossed p.lpMinFee p.lpMaxFee)
  else if ¬ p.lpTreasuryCut.IsValid then some (.treasuryCutTooHigh p.lpTreasuryCut)
  else if p.minStake < minStakeLimit then some (.minStakeTooLow p.minStake)
  else if p.stakeDeltaWindow < minDeltaWindow then some (.deltaWindowTooShort p.stakeDeltaWindow)
  else if maxCreatedSpace < p.stakeList.space then some (.stakeListTooLarge p.stakeList.space)
  else if maxCreatedSpace < p.validatorList.space then
    some (.validatorListTooLarge p.validatorList.space)
  else none

/-- All bounds are kept. -/
def IsValid (p : Parameters) : Prop := p.breach? = none

instance (p : Parameters) : Decidable p.IsValid := inferInstanceAs (Decidable (_ = _))

end Parameters

end StakePool
