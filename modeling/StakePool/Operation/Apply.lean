import StakePool.Accounts
import StakePool.Operation
import StakePool.Rent
import StakePool.Saturating
import StakePool.Store.Rejection
import StakePool.Token.Mint
import StakePool.Token.TokenAccount
/-!
# What operations do to accounts

Every operation has a function on accounts, which says when it is refused and what it changes
otherwise. `Operation.apply` picks the function and `Batch.apply` goes through a batch. All of them
only compute the accounts that would result; a store decides whether to keep them.
-/

namespace StakePool

namespace Accounts

variable (accounts : Accounts) (rent : Rent) (programId payer : Key)

/-- Take lamports from the payer. -/
def charge (amount : UInt64) : Except Rejection Accounts :=
  let account := accounts.get payer
  if amount = 0 then .ok accounts
  else if account.lamports < amount then
    .error (.insufficientFunds payer amount account.lamports)
  else
    .ok (accounts.insert payer { account with lamports := account.lamports - amount })

/-- An account that may hold lamports already is brought up to `lamports` and allocated. -/
def createAccount (address : Key) (space lamports : UInt64) (owner : Key) :
    Except Rejection Accounts :=
  let current := accounts.get address
  let balance := max current.lamports lamports
  if ¬ current.IsVacant then .error (.accountInUse address)
  else if ¬ rent.IsExempt balance space.toNat then .error (.notRentExempt address)
  else
    (accounts.charge payer (balance - current.lamports)).map
      (·.insert address ⟨balance, Bytes.zeros space.toNat, owner⟩)

def fund (address : Key) (lamports : UInt64) : Except Rejection Accounts :=
  let current := accounts.get address
  if ¬ current.IsVacant then .error (.accountInUse address)
  else if lamports ≤ current.lamports then .ok accounts
  else (accounts.charge payer (lamports - current.lamports)).map (·.insert address (.plain lamports))

/-- The account at an address, provided that `owner` owns it. -/
def owned (owner address : Key) : Except Rejection Account :=
  match accounts.find? address with
  | none => .error (.invalidAccountData address)
  | some account =>
    if account.owner = owner then .ok account else .error (.invalidAccountOwner address)

/-- The token program's account at an address, provided that it has a given size and is exempt. -/
def tokenOwned (address : Key) (size : Nat) : Except Rejection Account :=
  match accounts.owned .tokenProgram address with
  | .error rejection => .error rejection
  | .ok account =>
    if account.data.length ≠ size then .error (.invalidAccountData address)
    else if ¬ rent.IsExempt account.lamports account.data.length then
      .error (.notRentExempt address)
    else .ok account

def openMint (mint : Key) (decimals : UInt8) (authority : Key) (freezeAuthority : Option Key) :
    Except Rejection Accounts :=
  match accounts.tokenOwned rent mint Mint.size with
  | .error rejection => .error rejection
  | .ok account =>
    match Mint.ofData? account.data with
    | none => .error (.invalidAccountData mint)
    | some state =>
      if state.isInitialized then .error (.tokenAlreadyInitialized mint)
      else
        let data := (Mint.opened decimals authority freezeAuthority).writeOver account.data
        .ok (accounts.insert mint { account with data })

/-- There is a mint in use at an address. -/
def HasMint (address : Key) : Prop :=
  (accounts.get address).owner = .tokenProgram
    ∧ (Mint.initialized? (accounts.get address).data).isSome

instance (address : Key) : Decidable (accounts.HasMint address) :=
  inferInstanceAs (Decidable (_ ∧ _))

def openTokenAccount (address mint owner : Key) : Except Rejection Accounts :=
  if ¬ accounts.HasMint mint then .error (.invalidAccountData mint)
  else match accounts.tokenOwned rent address TokenAccount.size with
    | .error rejection => .error rejection
    | .ok account =>
      match TokenAccount.ofData? account.data with
      | none => .error (.invalidAccountData address)
      | some state =>
        if state.state ≠ .uninitialized then .error (.tokenAlreadyInitialized address)
        else
          let data := (TokenAccount.opened mint owner).writeOver account.data
          .ok (accounts.insert address { account with data })

/-- Only a blank header is written over. -/
def writeRegistry (address : Key) (header : RegistryHeader) : Except Rejection Accounts :=
  match accounts.owned programId address with
  | .error rejection => .error rejection
  | .ok account =>
    if account.data.length < RegistryHeader.size then .error (.invalidAccountData address)
    else if ¬ Bytes.IsBlank (account.data.take RegistryHeader.size) then
      .error (.accountInUse address)
    else
      .ok (accounts.insert address
        { account with data := Bytes.overwrite header.encode account.data })

/-- Only a blank record is written over. -/
def writeRecord (address : Key) (record : PoolRecord) : Except Rejection Accounts :=
  match accounts.owned programId address with
  | .error rejection => .error rejection
  | .ok account =>
    if account.data.length ≠ PoolRecord.size then .error (.invalidAccountData address)
    else if ¬ Bytes.IsBlank account.data then .error (.accountInUse address)
    else .ok (accounts.insert address { account with data := record.encode })

end Accounts

/-- The accounts after an operation, or why it is refused. -/
def Operation.apply (rent : Rent) (programId payer : Key) (op : Operation) (accounts : Accounts) :
    Except Rejection Accounts :=
  match op with
  | .createAccount _ address space lamports owner =>
    accounts.createAccount rent payer address space lamports owner
  | .fund address lamports => accounts.fund payer address lamports
  | .openMint mint decimals authority freezeAuthority =>
    accounts.openMint rent mint decimals authority freezeAuthority
  | .openTokenAccount address mint owner => accounts.openTokenAccount rent address mint owner
  | .writeRegistry address header => accounts.writeRegistry programId address header
  | .writeRecord address record => accounts.writeRecord programId address record

/-- Operations to be executed together, on behalf of a program and at one payer's expense. -/
structure Batch where
  programId : Key
  payer : Key
  operations : List Operation
deriving DecidableEq

/-- The accounts after all operations of a batch, or why the first that is refused is refused. -/
def Batch.apply (rent : Rent) (batch : Batch) (accounts : Accounts) : Except Rejection Accounts :=
  batch.operations.foldlM (fun accounts op => op.apply rent batch.programId batch.payer accounts)
    accounts

end StakePool
