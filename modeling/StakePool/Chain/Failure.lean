import StakePool.Plan
/-!
# Failed instructions

Why an instruction of the stake pool program fails, the error it returns for that, and the line it
leaves in the log.
-/

namespace StakePool

namespace Chain

inductive Failure where
  | malformedRequest
  | missingAccounts
  | payerNotSigner
  | invalidParameters (breach : Parameters.Breach)
  | underivable
  | wrongAddress (slot : Slot) (actual expected : Key)
  | poolExists
  | wrongTokenProgram (actual : Key)
  | wrongSystemProgram (actual : Key)
  | rentUnavailable
  | unplannable (fault : PlanFault)
  | notListed (address : Key)
  | accountInUse (address : Key)
  | notPlain (address : Key)
  | wrongSize (address : Key)
  /-- A program that was invoked failed. -/
  | invocation (error : ChainError)
deriving DecidableEq

namespace Failure

def error : Failure → ChainError
  | malformedRequest => .invalidInstructionData
  | missingAccounts => .notEnoughAccountKeys
  | payerNotSigner => .missingRequiredSignature
  | invalidParameters _ => Fault.invalidConfig.toChainError
  | underivable => Fault.derivationExhausted.toChainError
  | wrongAddress .. => Fault.invalidAddress.toChainError
  | poolExists => Fault.accountAlreadyInitialized.toChainError
  | wrongTokenProgram _ => Fault.invalidTokenProgram.toChainError
  | wrongSystemProgram _ => Fault.invalidSystemProgram.toChainError
  | rentUnavailable => .unsupportedSysvar
  | unplannable fault => fault.fault.toChainError
  | notListed _ => .notEnoughAccountKeys
  | accountInUse _ => Fault.accountAlreadyInitialized.toChainError
  | notPlain _ => Fault.accountAlreadyInitialized.toChainError
  | wrongSize _ => Fault.invalidAccountData.toChainError
  | invocation error => error

def notice? : Failure → Option String
  | invalidParameters breach => some ("Error: invalid config: " ++ breach.message)
  | wrongAddress slot actual expected => some s!"Error: {slot} is {actual}, expected {expected}"
  | wrongTokenProgram actual => some s!"Error: invalid token program {actual}"
  | wrongSystemProgram actual => some s!"Error: invalid system program {actual}"
  | unplannable fault => fault.notice?
  | accountInUse address => some s!"Error: {address} already in use"
  | notPlain address => some s!"Error: {address} is not a plain system account"
  | malformedRequest | missingAccounts | payerNotSigner | underivable | poolExists
  | rentUnavailable | notListed _ | wrongSize _ | invocation _ => none

end Failure

end Chain

end StakePool
