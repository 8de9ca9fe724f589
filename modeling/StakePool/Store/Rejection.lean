import StakePool.Fault
import StakePool.Key.Base58
/-!
# Rejections

Why a store refuses a batch.
-/

namespace StakePool

/-- Why a store does not take batches at all, or not this one. -/
inductive Outage where
  | injected
  | overLimit (count limit : Nat)
  | other (reason : String)
deriving DecidableEq

def Outage.text : Outage → String
  | injected => "injected failure"
  | overLimit count limit => s!"unit of {count} operations exceeds limit {limit}"
  | other reason => reason

instance : ToString Outage := ⟨Outage.text⟩

inductive Rejection where
  | accountInUse (address : Key)
  | insufficientFunds (payer : Key) (needed available : UInt64)
  | notRentExempt (address : Key)
  | tokenAlreadyInitialized (address : Key)
  | invalidAccountOwner (address : Key)
  | invalidAccountData (address : Key)
  | unavailable (outage : Outage)
deriving DecidableEq

namespace Rejection

def fault : Rejection → Fault
  | accountInUse _ => .accountAlreadyInitialized
  | insufficientFunds .. => .insufficientFunding
  | notRentExempt _ => .notRentExempt
  | tokenAlreadyInitialized _ => .tokenAlreadyInitialized
  | invalidAccountOwner _ => .invalidAccountOwner
  | invalidAccountData _ => .invalidAccountData
  | unavailable _ => .storeFailure

/-- The account to blame. -/
def address? : Rejection → Option Key
  | accountInUse address => some address
  | insufficientFunds payer .. => some payer
  | notRentExempt address => some address
  | tokenAlreadyInitialized address => some address
  | invalidAccountOwner address => some address
  | invalidAccountData address => some address
  | unavailable _ => none

def message : Rejection → String
  | accountInUse address => s!"account {address} already in use"
  | insufficientFunds payer needed available =>
    s!"payer {payer} has {available} lamports, needs {needed}"
  | notRentExempt address => s!"account {address} is not rent exempt"
  | tokenAlreadyInitialized address => s!"token account {address} already initialized"
  | invalidAccountOwner address => s!"account {address} has an unexpected owner"
  | invalidAccountData address => s!"account {address} has unexpected data"
  | unavailable outage => s!"ledger unavailable: {outage}"

instance : ToString Rejection := ⟨message⟩

end Rejection

end StakePool
