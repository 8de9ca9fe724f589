import StakePool.Account
import StakePool.Audit.Finding
import StakePool.Plan
import StakePool.PoolRecord
import StakePool.Token.Mint
import StakePool.Token.TokenAccount
/-!
# Auditing a pool

An audit derives every address of a pool again from the root that its record names, and checks the
record and the pool's accounts against them. It only reads, and it reports all it finds; only when
there is no record to start from, that is the one finding.
-/

namespace StakePool

namespace Audit

variable (scheme : AddressScheme) (reader : Reader) (programId : Key)

/-- The finding, if there is cause for it. -/
def report (cause : Prop) [Decidable cause] (finding : Finding) : List Finding :=
  if cause then [finding] else []

/-- The record at a pool's address. -/
def loadRecord (pool : Key) : Except Finding PoolRecord :=
  match reader pool with
  | none => .error (.missingAccount .config pool)
  | some account =>
    if account.owner ≠ programId then .error (.wrongOwner .config programId account.owner)
    else if account.data.length ≠ PoolRecord.size then .error (.malformedAccount .config)
    else match PoolRecord.ofData? account.data with
      | none => .error .notInitialized
      | some record => .ok record

/-- What the record says of the pool's addresses. -/
def storedAddresses (pool : Key) (record : PoolRecord) : List (Slot × Key) := [
  (.config, pool),
  (.role .stMint, record.stMint),
  (.role .lpMint, record.liquidity.lpMint),
  (.role .stLeg, record.liquidity.stLeg),
  (.role .treasury, record.treasury),
  (.role .stakeList, record.stakeList),
  (.role .validatorList, record.validatorList)]

/-- What the record says of the bumps. -/
def storedBumps (record : PoolRecord) : List (Slot × UInt8) := [
  (.config, record.configBump),
  (.role .reserve, record.reserveBump),
  (.role .stMintAuthority, record.stMintAuthorityBump),
  (.role .depositAuthority, record.depositAuthorityBump),
  (.role .withdrawAuthority, record.withdrawAuthorityBump),
  (.role .lpMintAuthority, record.liquidity.lpMintAuthorityBump),
  (.role .solLeg, record.liquidity.solLegBump),
  (.role .stLegAuthority, record.liquidity.stLegAuthorityBump)]

variable (book : AddressBook)

def checkAddresses (pool : Key) (record : PoolRecord) : List Finding :=
  (storedAddresses pool record).flatMap (fun (slot, actual) =>
      let expected := (book.slot slot).address
      report (actual ≠ expected) (.addressMismatch slot expected actual))
    ++ (storedBumps record).flatMap fun (slot, actual) =>
      let expected := (book.slot slot).bump
      report (actual ≠ expected) (.bumpMismatch slot expected actual)

/-- The slots that sign: the pool itself, which owns the treasury, and the authorities. -/
def signingSlots : List Slot := .config :: (Role.all.filter Role.isAuthority).map .role

def checkAuthorities : List Finding :=
  signingSlots.flatMap fun slot =>
    let address := (book.slot slot).address
    report (¬ scheme.OffCurve address) (.authorityOnCurve slot address)

/-- Check the account of a role, once it is there and has the right owner. -/
def checkAccount (role : Role) (owner : Key) (check : Account → List Finding) : List Finding :=
  let slot := Slot.role role
  let address := book.address role
  match reader address with
  | none => [.missingAccount slot address]
  | some account =>
    if account.owner ≠ owner then [.wrongOwner slot owner account.owner] else check account

def checkMint (role authorityRole : Role) (decimals : UInt8) : List Finding :=
  checkAccount reader book role .tokenProgram fun account =>
    let slot := Slot.role role
    match Mint.initialized? account.data with
    | none => [.malformedAccount slot]
    | some mint =>
      let expected := book.address authorityRole
      report (mint.authority ≠ some expected) (.mintAuthority slot expected mint.authority)
        ++ report (mint.supply ≠ 0) (.nonZeroSupply slot mint.supply)
        ++ mint.freezeAuthority.toList.map (.freezeAuthoritySet slot ·)
        ++ report (mint.decimals ≠ decimals) (.wrongDecimals slot decimals mint.decimals)

def checkTokenAccount (role : Role) (owner : Key) : List Finding :=
  checkAccount reader book role .tokenProgram fun account =>
    let slot := Slot.role role
    match TokenAccount.initialized? account.data with
    | none => [.malformedAccount slot]
    | some tokens =>
      let mint := book.address .stMint
      report (tokens.owner ≠ owner) (.tokenOwner slot owner tokens.owner)
        ++ report (tokens.mint ≠ mint) (.tokenMint slot mint tokens.mint)

def checkRegistry (role : Role) (shapeFor : (spare : UInt32) → RegistryShape) : List Finding :=
  checkAccount reader book role programId fun account =>
    let slot := Slot.role role
    match RegistryHeader.ofData? account.data with
    | none => [.malformedAccount slot]
    | some header =>
      let shape := shapeFor header.spare
      if header.discriminator ≠ shape.discriminator then
        [.wrongDiscriminator slot]
      else
        let space := account.data.length
        report (header.pool ≠ book.pool) (.registryPool slot header.pool)
          ++ report (header.count ≠ 0) (.registryNotEmpty slot header.count)
          ++ report (header.itemSize ≠ shape.itemSize ∨ header.capacity ≠ shape.capacityFor space)
            (.registryCapacity slot header.itemSize header.capacity space)

def checkLamports (role : Role) (minimum : UInt64) : List Finding :=
  checkAccount reader book role .systemProgram fun account =>
    let slot := Slot.role role
    report (account.data ≠ []) (.unexpectedData slot account.data.length)
      ++ report (account.lamports < minimum) (.notRentExempt slot account.lamports minimum)

/-- All checks on a pool whose record and addresses are known. -/
def checks (pool : Key) (record : PoolRecord) : List Finding :=
  checkAddresses book pool record
    ++ checkAuthorities scheme book
    ++ checkMint reader book .stMint .stMintAuthority Plan.stDecimals
    ++ checkMint reader book .lpMint .lpMintAuthority Plan.lpDecimals
    ++ checkTokenAccount reader book .stLeg (book.address .stLegAuthority)
    ++ checkTokenAccount reader book .treasury book.pool
    ++ checkRegistry reader programId book .stakeList .stakeList
    ++ checkRegistry reader programId book .validatorList .validatorList
    ++ checkLamports reader book .reserve record.tokenAccountRent
    ++ checkLamports reader book .solLeg record.tokenAccountRent

end Audit

/-- Everything that is wrong with the pool at an address. -/
def audit (scheme : AddressScheme) (reader : Reader) (programId pool : Key) : List Finding :=
  match Audit.loadRecord reader programId pool with
  | .error finding => [finding]
  | .ok record =>
    match AddressBook.derive? scheme programId record.root with
    | none => [.underivable]
    | some book => Audit.checks scheme reader programId book pool record

end StakePool
