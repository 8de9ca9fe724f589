import StakePool.Fault
import StakePool.Key.Base58
import StakePool.Operation
import StakePool.Rent
import StakePool.Token.Mint
import StakePool.Token.TokenAccount
/-!
# The plan of a new pool

All operations that make up a new pool, in order: first every account is created or funded and the
registries get their headers, then the mints and the token accounts are opened, and last the
configuration record is written. Every created account gets exactly the balance that exempts it from
rent, and only derived addresses are made authorities.
-/

namespace StakePool

/-- Why there is no plan. -/
inductive PlanFault where
  | spaceTooLarge
  | mintAuthorityOnCurve (key : Key)
  | freezeAuthorityOnCurve (key : Key)
  | tokenOwnerOnCurve (key : Key)
deriving DecidableEq

namespace PlanFault

def fault : PlanFault → Fault
  | spaceTooLarge => .invalidConfig
  | mintAuthorityOnCurve _ | freezeAuthorityOnCurve _ | tokenOwnerOnCurve _ => .authorityNotDerived

/-- What the log says of it. -/
def notice? : PlanFault → Option String
  | spaceTooLarge => none
  | mintAuthorityOnCurve key => some s!"Error: mint authority {key} is on curve"
  | freezeAuthorityOnCurve key => some s!"Error: freeze authority {key} is on curve"
  | tokenOwnerOnCurve key => some s!"Error: token account owner {key} is on curve"

end PlanFault

namespace Plan

def stDecimals : UInt8 := 9

def lpDecimals : UInt8 := 9

/-- Create a slot's account, exempt from rent. -/
def create (book : AddressBook) (rent : Rent) (slot : Slot) (space : UInt64) (owner : Key) :
    Operation :=
  .createAccount slot (book.slot slot).address space (rent.minimumBalance space.toNat) owner

/-- The balance pinned into the reserve and the sol leg, enough for a token account. -/
def pinned (rent : Rent) : UInt64 := rent.minimumBalance TokenAccount.size

/-- The accounts of a pool and the headers of its registries. -/
def accountOperations (book : AddressBook) (p : Parameters) (rent : Rent) : List Operation := [
  create book rent .config (UInt64.ofNat PoolRecord.size) book.programId,
  .fund (book.address .reserve) (pinned rent),
  .fund (book.address .solLeg) (pinned rent),
  create book rent (.role .stakeList) p.stakeList.space book.programId,
  create book rent (.role .validatorList) p.validatorList.space book.programId,
  .writeRegistry (book.address .stakeList) (p.stakeList.header book.pool),
  .writeRegistry (book.address .validatorList) (p.validatorList.header book.pool),
  create book rent (.role .stMint) (UInt64.ofNat Mint.size) .tokenProgram,
  create book rent (.role .lpMint) (UInt64.ofNat Mint.size) .tokenProgram,
  create book rent (.role .stLeg) (UInt64.ofNat TokenAccount.size) .tokenProgram,
  create book rent (.role .treasury) (UInt64.ofNat TokenAccount.size) .tokenProgram]

/-- The operation creates no account of more than the permitted size. -/
def IsCreatable : Operation → Prop
  | .createAccount _ _ space _ _ => space ≤ maxCreatedSpace
  | _ => True

instance : DecidablePred IsCreatable
  | .createAccount _ _ space _ _ => inferInstanceAs (Decidable (space ≤ maxCreatedSpace))
  | .fund .. | .openMint .. | .openTokenAccount .. | .writeRegistry .. | .writeRecord .. =>
    inferInstanceAs (Decidable True)

def provision (book : AddressBook) (p : Parameters) (rent : Rent) :
    Except PlanFault (List Operation) :=
  let operations := accountOperations book p rent
  if ∀ op ∈ operations, IsCreatable op then .ok operations else .error .spaceTooLarge

variable (scheme : AddressScheme)

/-- Open a mint. Its authorities have to be derived addresses. -/
def openMint (mint : Key) (decimals : UInt8) (authority : Key) (freezeAuthority : Option Key) :
    Except PlanFault Operation := do
  if ¬ scheme.OffCurve authority then throw (.mintAuthorityOnCurve authority)
  if let some freeze := freezeAuthority then
    if ¬ scheme.OffCurve freeze then throw (.freezeAuthorityOnCurve freeze)
  return .openMint mint decimals authority freezeAuthority

/-- Open a token account. Its owner has to be a derived address. -/
def openTokenAccount (account mint owner : Key) : Except PlanFault Operation := do
  if ¬ scheme.OffCurve owner then throw (.tokenOwnerOnCurve owner)
  return .openTokenAccount account mint owner

/-- The mints, which come first because a token account needs its mint, and the token accounts. -/
def bootstrap (book : AddressBook) : Except PlanFault (List Operation) := do
  return [
    ← openMint scheme (book.address .stMint) stDecimals (book.address .stMintAuthority) none,
    ← openMint scheme (book.address .lpMint) lpDecimals (book.address .lpMintAuthority) none,
    ← openTokenAccount scheme (book.address .stLeg) (book.address .stMint)
      (book.address .stLegAuthority),
    ← openTokenAccount scheme (book.address .treasury) (book.address .stMint) book.pool]

/-- The last operation, after which the pool exists. -/
def recordWrite (book : AddressBook) (p : Parameters) (rent : Rent) : Operation :=
  .writeRecord book.pool (.initial book p (pinned rent))

def operations (book : AddressBook) (p : Parameters) (rent : Rent) :
    Except PlanFault (List Operation) := do
  let accounts ← provision book p rent
  let tokens ← bootstrap scheme book
  return accounts ++ tokens ++ [recordWrite book p rent]

end Plan

end StakePool
