/-!
# Faults

The numbered ways in which setting up a pool goes wrong, as its users are told of them, and the wider
set of errors with which a program run can end on the chain.
-/

namespace StakePool

inductive Fault where
  | invalidConfig
  | derivationExhausted
  | accountAlreadyInitialized
  | insufficientFunding
  | storeFailure
  | notRentExempt
  | tokenAlreadyInitialized
  | invalidAddress
  | authorityNotDerived
  | invalidAccountOwner
  | invalidAccountData
  | invalidTokenProgram
  | invalidSystemProgram
deriving DecidableEq

namespace Fault

/-- In the order of their numbers, from zero. -/
def all : List Fault :=
  [invalidConfig, derivationExhausted, accountAlreadyInitialized, insufficientFunding,
    storeFailure, notRentExempt, tokenAlreadyInitialized, invalidAddress,
    authorityNotDerived, invalidAccountOwner, invalidAccountData, invalidTokenProgram,
    invalidSystemProgram]

def number : Fault → UInt32
  | invalidConfig => 0
  | derivationExhausted => 1
  | accountAlreadyInitialized => 2
  | insufficientFunding => 3
  | storeFailure => 4
  | notRentExempt => 5
  | tokenAlreadyInitialized => 6
  | invalidAddress => 7
  | authorityNotDerived => 8
  | invalidAccountOwner => 9
  | invalidAccountData => 10
  | invalidTokenProgram => 11
  | invalidSystemProgram => 12

def ofNumber? (number : Nat) : Option Fault := all[number]?

theorem ofNumber?_number (fault : Fault) : ofNumber? fault.number.toNat = some fault := by
  cases fault <;> rfl

def message : Fault → String
  | invalidConfig => "invalid initialization config"
  | derivationExhausted => "program address derivation exhausted"
  | accountAlreadyInitialized => "account already initialized"
  | insufficientFunding => "insufficient funding"
  | storeFailure => "external ledger failure"
  | notRentExempt => "account not rent exempt"
  | tokenAlreadyInitialized => "token account already initialized"
  | invalidAddress => "invalid program derived address"
  | authorityNotDerived => "authority is not a derived address"
  | invalidAccountOwner => "invalid account owner"
  | invalidAccountData => "invalid account data"
  | invalidTokenProgram => "invalid token program"
  | invalidSystemProgram => "invalid system program"

end Fault

/-- How a program run that failed is reported to its caller. -/
inductive ChainError where
  /-- An error of the program's own numbering. -/
  | custom (number : UInt32)
  | invalidArgument
  | invalidInstructionData
  | invalidAccountData
  | accountDataTooSmall
  | insufficientFunds
  | incorrectProgramId
  | missingRequiredSignature
  | accountAlreadyInitialized
  | uninitializedAccount
  | notEnoughAccountKeys
  | accountBorrowFailed
  | maxSeedLengthExceeded
  | invalidSeeds
  | borshIo (reason : String)
  | accountNotRentExempt
  | unsupportedSysvar
  | illegalOwner
  | maxAccountsDataAllocationsExceeded
  | invalidRealloc
  | maxInstructionTraceLengthExceeded
  | builtinProgramsMustConsumeComputeUnits
  | invalidAccountOwner
  | arithmeticOverflow
  | immutable
  | incorrectAuthority
deriving DecidableEq

namespace ChainError

def upperHalf (number : UInt64) : UInt64 := number <<< 32

/-- The word a program returns. Custom numbers fill its lower half, the shared errors its upper half;
since zero means success, the custom number zero has a word of its own in the upper half. -/
def code : ChainError → UInt64
  | custom number => if number = 0 then upperHalf 1 else number.toUInt64
  | invalidArgument => upperHalf 2
  | invalidInstructionData => upperHalf 3
  | invalidAccountData => upperHalf 4
  | accountDataTooSmall => upperHalf 5
  | insufficientFunds => upperHalf 6
  | incorrectProgramId => upperHalf 7
  | missingRequiredSignature => upperHalf 8
  | accountAlreadyInitialized => upperHalf 9
  | uninitializedAccount => upperHalf 10
  | notEnoughAccountKeys => upperHalf 11
  | accountBorrowFailed => upperHalf 12
  | maxSeedLengthExceeded => upperHalf 13
  | invalidSeeds => upperHalf 14
  | borshIo _ => upperHalf 15
  | accountNotRentExempt => upperHalf 16
  | unsupportedSysvar => upperHalf 17
  | illegalOwner => upperHalf 18
  | maxAccountsDataAllocationsExceeded => upperHalf 19
  | invalidRealloc => upperHalf 20
  | maxInstructionTraceLengthExceeded => upperHalf 21
  | builtinProgramsMustConsumeComputeUnits => upperHalf 22
  | invalidAccountOwner => upperHalf 23
  | arithmeticOverflow => upperHalf 24
  | immutable => upperHalf 25
  | incorrectAuthority => upperHalf 26

def hexadecimal (number : UInt32) : String := String.ofList (Nat.toDigits 16 number.toNat)

def message : ChainError → String
  | custom number => "Custom program error: 0x" ++ hexadecimal number
  | invalidArgument => "The arguments provided to a program instruction were invalid"
  | invalidInstructionData => "An instruction's data contents was invalid"
  | invalidAccountData => "An account's data contents was invalid"
  | accountDataTooSmall => "An account's data was too small"
  | insufficientFunds => "An account's balance was too small to complete the instruction"
  | incorrectProgramId => "The account did not have the expected program id"
  | missingRequiredSignature => "A signature was required but not found"
  | accountAlreadyInitialized =>
    "An initialize instruction was sent to an account that has already been initialized"
  | uninitializedAccount => "An attempt to operate on an account that hasn't been initialized"
  | notEnoughAccountKeys => "The instruction expected additional account keys"
  | accountBorrowFailed => "Failed to borrow a reference to account data, already borrowed"
  | maxSeedLengthExceeded => "Length of the seed is too long for address generation"
  | invalidSeeds => "Provided seeds do not result in a valid address"
  | borshIo reason => "IO Error: " ++ reason
  | accountNotRentExempt => "An account does not have enough lamports to be rent-exempt"
  | unsupportedSysvar => "Unsupported sysvar"
  | illegalOwner => "Provided owner is not allowed"
  | maxAccountsDataAllocationsExceeded =>
    "Accounts data allocations exceeded the maximum allowed per transaction"
  | invalidRealloc => "Account data reallocation was invalid"
  | maxInstructionTraceLengthExceeded =>
    "Instruction trace length exceeded the maximum allowed per transaction"
  | builtinProgramsMustConsumeComputeUnits => "Builtin programs must consume compute units"
  | invalidAccountOwner => "Invalid account owner"
  | arithmeticOverflow => "Program arithmetic overflowed"
  | immutable => "Account is immutable"
  | incorrectAuthority => "Incorrect authority provided"

end ChainError

def Fault.toChainError (fault : Fault) : ChainError := .custom fault.number

end StakePool
