import StakePool.Chain.Invocation
import StakePool.Rent
import StakePool.Token.Mint
import StakePool.Token.TokenAccount
/-!
# The system program and the token program

How the two programs answer the calls made on them. Before a call is answered its accounts are looked
up among the handles passed along, and every account that has to sign must either have signed the
instruction or be the address that some of the passed seeds derive.

What the programs leave to the ledger is not checked here but in `Runtime.guarded`: who may take
lamports from an account or write to it, and how much it may grow. So `Runtime.programs` is what the
two programs compute, and `Runtime.faithful` is what comes of calling them.
-/

namespace StakePool

namespace Chain

variable (scheme : AddressScheme) (programId : Key)

namespace Invocation

variable (invocation : Invocation)

/-- The seeds derive the key, so the program may sign for it. -/
def SignsFor (key : Key) : Prop :=
  ∃ seeds ∈ invocation.seeds, scheme.create? seeds programId = some key

instance (key : Key) : Decidable (invocation.SignsFor scheme programId key) :=
  inferInstanceAs (Decidable (∃ seeds ∈ _, _))

/-- The handle that an access is granted through. -/
def grant (access : Access) : Except ChainError Handle :=
  match invocation.handle? access.key with
  | none => .error .notEnoughAccountKeys
  | some handle =>
    if access.isSigner ∧ ¬ handle.isSigner
        ∧ ¬ invocation.SignsFor scheme programId access.key then
      .error .missingRequiredSignature
    else
      .ok handle

end Invocation

namespace Cells

variable (cells : Cells)

/-- The most data that an account can have. -/
def maxSpace : UInt64 := 10485760

/-- Give a vacant account blank data. -/
def allocate (target : Handle) (space : UInt64) : Except ChainError Cells :=
  let account := cells.get target
  if ¬ account.IsVacant then
    .error (.custom 0)
  else if maxSpace < space then
    .error (.custom 3)
  else
    .ok (cells.put target { account with data := Bytes.zeros space.toNat })

def assign (target : Handle) (owner : Key) : Cells :=
  cells.put target { cells.get target with owner }

/-- Move lamports from an account without data. Source and target may be the same account. -/
def transfer (source target : Handle) (lamports : UInt64) : Except ChainError Cells :=
  let account := cells.get source
  if account.data ≠ [] then
    .error .invalidArgument
  else if account.lamports < lamports then
    .error (.custom 1)
  else
    let taken := cells.put source { account with lamports := account.lamports - lamports }
    let account := taken.get target
    if UInt64.size ≤ account.lamports.toNat + lamports.toNat then
      .error .arithmeticOverflow
    else
      .ok (taken.put target { account with lamports := account.lamports + lamports })

def createAccount (source target : Handle) (lamports space : UInt64) (owner : Key) :
    Except ChainError Cells :=
  if (cells.get target).lamports ≠ 0 then
    .error (.custom 0)
  else do
    let allocated ← cells.allocate target space
    (allocated.assign target owner).transfer source target lamports

variable (rent : Rent)

/-- Open a mint. An unopened mint may record a supply already, and keeps it. -/
def openMint (target : Handle) (decimals : UInt8) (authority : Key)
    (freezeAuthority : Option Key) : Except ChainError Cells :=
  let account := cells.get target
  match Mint.ofData? account.data with
  | none => .error .invalidAccountData
  | some mint =>
    if mint.isInitialized then .error (.custom 6)
    else if ¬ rent.IsExempt account.lamports account.data.length then .error (.custom 0)
    else
      let opened := { Mint.opened decimals authority freezeAuthority with supply := mint.supply }
      let data := opened.writeOver account.data
      .ok (cells.put target { account with data })

def openTokenAccount (target mintHandle : Handle) (owner : Key) : Except ChainError Cells :=
  let account := cells.get target
  match TokenAccount.ofData? account.data with
  | none => .error .invalidAccountData
  | some tokens =>
    if tokens.state ≠ .uninitialized then .error (.custom 6)
    else if ¬ rent.IsExempt account.lamports account.data.length then .error (.custom 0)
    else if mintHandle.key = .nativeMint then
      let reserve := rent.minimumBalance account.data.length
      let opened := TokenAccount.openedNative owner account.lamports reserve
      .ok (cells.put target { account with data := opened.writeOver account.data })
    else
      let mint := cells.get mintHandle
      if mint.owner ≠ .tokenProgram then .error .incorrectProgramId
      else if (Mint.initialized? mint.data).isNone then .error (.custom 2)
      else
        let opened := TokenAccount.opened mintHandle.key owner
        .ok (cells.put target { account with data := opened.writeOver account.data })

end Cells

/-- The answer to a call, given the handles on its accounts. -/
def Call.answer (rent : Rent) (cells : Cells) :
    (call : Call) → (granted : List Handle) → Except ChainError Cells
  | createAccount _ _ lamports space owner, [source, target] =>
    cells.createAccount source target lamports space owner
  | assign _ owner, [target] => .ok (cells.assign target owner)
  | transfer _ _ lamports, [source, target] => cells.transfer source target lamports
  | allocate _ space, [target] => cells.allocate target space
  | openMint _ decimals authority freezeAuthority, [target] =>
    cells.openMint rent target decimals authority freezeAuthority
  | openTokenAccount _ _ owner, [target, mint] => cells.openTokenAccount rent target mint owner
  | _, _ => .error .notEnoughAccountKeys

/-- The two programs on their own. -/
def Runtime.programs (rent : Rent) : Runtime where
  run _ invocation cells := do
    if invocation.program ≠ invocation.call.program then throw .incorrectProgramId
    let granted ← invocation.call.accesses.mapM (invocation.grant scheme programId)
    invocation.call.answer rent cells granted

end Chain

end StakePool
