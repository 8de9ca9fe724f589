import StakePool.Key.Base58
import StakePool.Role
/-!
# Audit findings

What an audit can find wrong with a pool, each finding about one slot.
-/

namespace StakePool

inductive Finding where
  | missingAccount (slot : Slot) (address : Key)
  | wrongOwner (slot : Slot) (expected actual : Key)
  | malformedAccount (slot : Slot)
  | notInitialized
  | underivable
  | addressMismatch (slot : Slot) (expected actual : Key)
  | bumpMismatch (slot : Slot) (expected actual : UInt8)
  | authorityOnCurve (slot : Slot) (address : Key)
  | mintAuthority (slot : Slot) (expected : Key) (actual : Option Key)
  | nonZeroSupply (slot : Slot) (supply : UInt64)
  | freezeAuthoritySet (slot : Slot) (authority : Key)
  | wrongDecimals (slot : Slot) (expected actual : UInt8)
  | tokenOwner (slot : Slot) (expected actual : Key)
  | tokenMint (slot : Slot) (expected actual : Key)
  | wrongDiscriminator (slot : Slot)
  | registryPool (slot : Slot) (actual : Key)
  | registryNotEmpty (slot : Slot) (count : UInt32)
  | registryCapacity (slot : Slot) (itemSize capacity : UInt32) (space : Nat)
  | unexpectedData (slot : Slot) (size : Nat)
  | notRentExempt (slot : Slot) (lamports minimum : UInt64)
deriving DecidableEq

namespace Finding

def slot : Finding → Slot
  | missingAccount slot _ | wrongOwner slot .. | malformedAccount slot | addressMismatch slot ..
  | bumpMismatch slot .. | authorityOnCurve slot _ | mintAuthority slot .. | nonZeroSupply slot _
  | freezeAuthoritySet slot _ | wrongDecimals slot .. | tokenOwner slot .. | tokenMint slot ..
  | wrongDiscriminator slot | registryPool slot _ | registryNotEmpty slot _
  | registryCapacity slot .. | unexpectedData slot _ | notRentExempt slot .. => slot
  | notInitialized | underivable => .config

/-- An optional key, with its presence spelled out. -/
def optionText : Option Key → String
  | some key => s!"Some({key})"
  | none => "None"

def message : Finding → String
  | missingAccount slot address => s!"{slot}: account {address} missing"
  | wrongOwner slot expected actual => s!"{slot}: owned by {actual}, expected {expected}"
  | malformedAccount slot => s!"{slot}: malformed account data"
  | notInitialized => "pool config not initialized"
  | underivable => "no program address for the stored root"
  | addressMismatch slot expected actual => s!"{slot}: stored address {actual}, derived {expected}"
  | bumpMismatch slot expected actual => s!"{slot}: stored bump {actual}, derived {expected}"
  | authorityOnCurve slot address => s!"{slot}: {address} is on curve"
  | mintAuthority slot expected actual =>
    let actual := optionText actual
    s!"{slot}: mint authority {actual}, expected {expected}"
  | nonZeroSupply slot supply => s!"{slot}: supply {supply}, expected 0"
  | freezeAuthoritySet slot authority => s!"{slot}: freeze authority {authority} set"
  | wrongDecimals slot expected actual => s!"{slot}: {actual} decimals, expected {expected}"
  | tokenOwner slot expected actual => s!"{slot}: token owner {actual}, expected {expected}"
  | tokenMint slot expected actual => s!"{slot}: token mint {actual}, expected {expected}"
  | wrongDiscriminator slot => s!"{slot}: wrong registry discriminator"
  | registryPool slot actual => s!"{slot}: registry belongs to {actual}"
  | registryNotEmpty slot count => s!"{slot}: registry holds {count} records, expected none"
  | registryCapacity slot itemSize capacity space =>
    s!"{slot}: item size {itemSize}, capacity {capacity} do not fit {space} bytes"
  | unexpectedData slot size => s!"{slot}: system account carries {size} bytes of data"
  | notRentExempt slot lamports minimum =>
    s!"{slot}: {lamports} lamports below rent-exempt minimum {minimum}"

end Finding

end StakePool
