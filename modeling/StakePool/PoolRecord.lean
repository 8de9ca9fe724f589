import StakePool.AddressBook
import StakePool.Parameters
/-!
# The configuration record

The record at the pool's own address. It is written last, by a single write, and its discriminator is
what tells a finished pool from one that is still being set up.
-/

namespace StakePool

/-- The part of the record that describes the liquidity pool. -/
structure LiquidityRecord where
  lpMint : Key
  stLeg : Key
  lpLiquidityTarget : UInt64
  lpSupply : UInt64
  /-- SOL that the reserve has borrowed from the sol leg. -/
  lentFromSolLeg : UInt64
  liquiditySolCap : UInt64
  lpMaxFee : Fee
  lpMinFee : Fee
  treasuryCut : Fee
  lpMintAuthorityBump : UInt8
  solLegBump : UInt8
  stLegAuthorityBump : UInt8
  padding : UInt8
deriving DecidableEq

namespace LiquidityRecord

def layout : Layout LiquidityRecord :=
  (Key.layout.pair <| Key.layout.pair <| Layout.word64.pair <| Layout.word64.pair <|
    Layout.word64.pair <| Layout.word64.pair <| Fee.layout.pair <| Fee.layout.pair <|
    Fee.layout.pair <| Layout.byte.pair <| Layout.byte.pair <| Layout.byte.pair <| Layout.byte).map
    (fun (lpMint, stLeg, lpLiquidityTarget, lpSupply, lentFromSolLeg, liquiditySolCap, lpMaxFee,
        lpMinFee, treasuryCut, lpMintAuthorityBump, solLegBump, stLegAuthorityBump, padding) =>
      { lpMint, stLeg, lpLiquidityTarget, lpSupply, lentFromSolLeg, liquiditySolCap, lpMaxFee,
        lpMinFee, treasuryCut, lpMintAuthorityBump, solLegBump, stLegAuthorityBump, padding })
    (fun r => (r.lpMint, r.stLeg, r.lpLiquidityTarget, r.lpSupply, r.lentFromSolLeg,
      r.liquiditySolCap, r.lpMaxFee, r.lpMinFee, r.treasuryCut, r.lpMintAuthorityBump,
      r.solLegBump, r.stLegAuthorityBump, r.padding))
    (fun _ => rfl) (fun _ => rfl)

def size : Nat := layout.width

theorem size_eq : size = 112 := rfl

end LiquidityRecord

structure PoolRecord where
  discriminator : Block 8
  /-- The root key the pool was derived from. -/
  root : Key
  admin : Key
  validatorManager : Key
  pauser : Key
  stMint : Key
  treasury : Key
  stakeList : Key
  validatorList : Key
  minStake : UInt64
  stakeDeltaWindow : UInt64
  /-- The largest word until the stake delta has run for the first time. -/
  lastStakeDeltaEpoch : UInt64
  /-- The balance pinned into the reserve and the sol leg. -/
  tokenAccountRent : UInt64
  availableReserve : UInt64
  stSupply : UInt64
  /-- SOL per staked token, in units of one `priceOne`-th. -/
  stPrice : UInt64
  minDeposit : UInt64
  minWithdraw : UInt64
  stakingSolCap : UInt64
  totalActiveBalance : UInt64
  rewardFee : Fee
  maxStakeMovedPerEpoch : Fee
  totalValidatorScore : UInt32
  configBump : UInt8
  reserveBump : UInt8
  stMintAuthorityBump : UInt8
  depositAuthorityBump : UInt8
  withdrawAuthorityBump : UInt8
  paused : UInt8
  padding : Block 6
  liquidity : LiquidityRecord
  reserved : Block 64
deriving DecidableEq

namespace PoolRecord

def layout : Layout PoolRecord :=
  ((Layout.block 8).pair <| Key.layout.pair <| Key.layout.pair <| Key.layout.pair <|
    Key.layout.pair <| Key.layout.pair <| Key.layout.pair <| Key.layout.pair <| Key.layout.pair <|
    Layout.word64.pair <| Layout.word64.pair <| Layout.word64.pair <| Layout.word64.pair <|
    Layout.word64.pair <| Layout.word64.pair <| Layout.word64.pair <| Layout.word64.pair <|
    Layout.word64.pair <| Layout.word64.pair <| Layout.word64.pair <| Fee.layout.pair <|
    Fee.layout.pair <| Layout.word32.pair <| Layout.byte.pair <| Layout.byte.pair <|
    Layout.byte.pair <| Layout.byte.pair <| Layout.byte.pair <| Layout.byte.pair <|
    (Layout.block 6).pair <| LiquidityRecord.layout.pair <| Layout.block 64).map
    (fun (discriminator, root, admin, validatorManager, pauser, stMint, treasury, stakeList,
        validatorList, minStake, stakeDeltaWindow, lastStakeDeltaEpoch, tokenAccountRent,
        availableReserve, stSupply, stPrice, minDeposit, minWithdraw, stakingSolCap,
        totalActiveBalance, rewardFee, maxStakeMovedPerEpoch, totalValidatorScore, configBump,
        reserveBump, stMintAuthorityBump, depositAuthorityBump, withdrawAuthorityBump, paused,
        padding, liquidity, reserved) =>
      { discriminator, root, admin, validatorManager, pauser, stMint, treasury, stakeList,
        validatorList, minStake, stakeDeltaWindow, lastStakeDeltaEpoch, tokenAccountRent,
        availableReserve, stSupply, stPrice, minDeposit, minWithdraw, stakingSolCap,
        totalActiveBalance, rewardFee, maxStakeMovedPerEpoch, totalValidatorScore, configBump,
        reserveBump, stMintAuthorityBump, depositAuthorityBump, withdrawAuthorityBump, paused,
        padding, liquidity, reserved })
    (fun r => (r.discriminator, r.root, r.admin, r.validatorManager, r.pauser, r.stMint,
      r.treasury, r.stakeList, r.validatorList, r.minStake, r.stakeDeltaWindow,
      r.lastStakeDeltaEpoch, r.tokenAccountRent, r.availableReserve, r.stSupply, r.stPrice,
      r.minDeposit, r.minWithdraw, r.stakingSolCap, r.totalActiveBalance, r.rewardFee,
      r.maxStakeMovedPerEpoch, r.totalValidatorScore, r.configBump, r.reserveBump,
      r.stMintAuthorityBump, r.depositAuthorityBump, r.withdrawAuthorityBump, r.paused, r.padding,
      r.liquidity, r.reserved))
    (fun _ => rfl) (fun _ => rfl)

def size : Nat := layout.width

theorem size_eq : size = 552 := rfl

def encode (record : PoolRecord) : Bytes := layout.encode record

def writtenDiscriminator : Block 8 := ⟨.ascii "stkpool1", rfl⟩

def IsWritten (record : PoolRecord) : Prop := record.discriminator = writtenDiscriminator

instance (record : PoolRecord) : Decidable record.IsWritten := inferInstanceAs (Decidable (_ = _))

/-- The record in an account's data, once it has been written. -/
def ofData? (data : Bytes) : Option PoolRecord := (layout.read? data).filter (·.IsWritten)

/-- The price of one SOL per staked token. -/
def priceOne : UInt64 := 0x100000000

/-- The record of a new pool. -/
def initial (book : AddressBook) (p : Parameters) (tokenAccountRent : UInt64) : PoolRecord where
  discriminator := writtenDiscriminator
  root := book.root
  admin := p.admin
  validatorManager := p.validatorManager
  pauser := p.pauser
  stMint := book.address .stMint
  treasury := book.address .treasury
  stakeList := book.address .stakeList
  validatorList := book.address .validatorList
  minStake := p.minStake
  stakeDeltaWindow := p.stakeDeltaWindow
  lastStakeDeltaEpoch := -1
  tokenAccountRent
  availableReserve := 0
  stSupply := 0
  stPrice := priceOne
  minDeposit := 1
  minWithdraw := 1
  stakingSolCap := -1
  totalActiveBalance := 0
  rewardFee := p.rewardFee
  maxStakeMovedPerEpoch := ⟨Fee.maxBasisPoints⟩
  totalValidatorScore := 0
  configBump := book.config.bump
  reserveBump := book.bump .reserve
  stMintAuthorityBump := book.bump .stMintAuthority
  depositAuthorityBump := book.bump .depositAuthority
  withdrawAuthorityBump := book.bump .withdrawAuthority
  paused := 0
  padding := Block.zero 6
  liquidity := {
    lpMint := book.address .lpMint
    stLeg := book.address .stLeg
    lpLiquidityTarget := p.lpLiquidityTarget
    lpSupply := 0
    lentFromSolLeg := 0
    liquiditySolCap := -1
    lpMaxFee := p.lpMaxFee
    lpMinFee := p.lpMinFee
    treasuryCut := p.lpTreasuryCut
    lpMintAuthorityBump := book.bump .lpMintAuthority
    solLegBump := book.bump .solLeg
    stLegAuthorityBump := book.bump .stLegAuthority
    padding := 0 }
  reserved := Block.zero 64

end PoolRecord

end StakePool
