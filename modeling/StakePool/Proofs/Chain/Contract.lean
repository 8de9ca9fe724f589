import StakePool.Address
import StakePool.Proofs.Chain.Mirror
import StakePool.Rent
import StakePool.Token.Mint
import StakePool.Token.TokenAccount
/-!
# What the program relies on

The system program and the token program are not the pool's own, so what it knows of them is what
they are documented to do. `Runtime.IsFaithful` has it call by call: what comes of a call that is
accepted, under which circumstances it can be accepted at all, and what has to be allowed for it to
be accepted then. The last is where the ledger comes in, by which a program takes lamports only from
accounts that it owns itself and writes only to accounts that it is allowed to write to. Nothing else
is known of the two programs where a plan is executed.

So a payer that belongs to another program cannot pay (`owner_of_createAccount`,
`owner_of_transfer`).
-/

namespace StakePool

namespace Chain

/-- The system program may take lamports from the account. -/
structure Handle.IsChargeable (payer : Handle) (account : Account) : Prop where
  signed : payer.isSigner
  writable : payer.isWritable
  data_eq : account.data = []
  owner_eq : account.owner = .systemProgram

/-- An answer that can only have one effect, and only under a condition. If it is allowed, the
condition is all that it takes. -/
structure Answers (answer : Except ChainError Cells) (allowed condition : Prop) (effect : Cells) :
    Prop where
  given : allowed → condition → answer = .ok effect
  only : ∀ after, answer = .ok after → condition ∧ after = effect

/-- The runtime answers the calls of the program as the two programs are documented to do. -/
structure Runtime.IsFaithful (scheme : AddressScheme) (programId : Key) (rent : Rent)
    (runtime : Runtime) : Prop where
  owner_of_charged {past : List Invocation} {invocation : Invocation} {cells after : Cells}
    {access : Access} {handle : Handle} (h : runtime.run past invocation cells = .ok after)
    (haccess : access ∈ invocation.call.accesses)
    (hhandle : invocation.handle? access.key = some handle)
    (hcharged : (after.get handle).lamports < (cells.get handle).lamports) :
    (cells.get handle).owner = invocation.program
  createAccount (past : List Invocation) {cells : Cells} {payer target : Handle} (system : Handle)
    (lamports space : UInt64) (owner : Key) (seeds : List Bytes)
    (hapart : cells.HoldsApart [payer, target]) (hempty : (cells.get target).lamports = 0) :
    Answers (runtime.run past (.createAccount payer target system lamports space owner seeds) cells)
      (payer.IsChargeable (cells.get payer) ∧ target.isWritable
        ∧ scheme.create? seeds programId = some target.key ∧ space ≤ maxCreatedSpace)
      ((cells.get target).IsVacant ∧ lamports ≤ (cells.get payer).lamports)
      ((cells.charge payer lamports).put target ⟨lamports, Bytes.zeros space.toNat, owner⟩)
  transfer (past : List Invocation) {cells : Cells} {payer target : Handle} (system : Handle)
    {lamports : UInt64} (hapart : cells.HoldsApart [payer, target])
    (hroom : (cells.get target).lamports.toNat + lamports.toNat < UInt64.size) :
    Answers (runtime.run past (.transfer payer target system lamports) cells)
      (payer.IsChargeable (cells.get payer) ∧ target.isWritable)
      (lamports ≤ (cells.get payer).lamports)
      ((cells.charge payer lamports).put target
        { cells.get target with lamports := (cells.get target).lamports + lamports })
  allocate (past : List Invocation) {cells : Cells} {target : Handle} (system : Handle)
    (space : UInt64) (seeds : List Bytes) (hcell : target.cell < cells.length) :
    Answers (runtime.run past (.allocate target system space seeds) cells)
      (target.isWritable ∧ scheme.create? seeds programId = some target.key
        ∧ space ≤ maxCreatedSpace)
      (cells.get target).IsVacant
      (cells.put target { cells.get target with data := Bytes.zeros space.toNat })
  assign (past : List Invocation) {cells : Cells} {target : Handle} (system : Handle) (owner : Key)
    (seeds : List Bytes) (hcell : target.cell < cells.length) :
    Answers (runtime.run past (.assign target system owner seeds) cells)
      (target.isWritable ∧ scheme.create? seeds programId = some target.key
        ∧ (cells.get target).owner = .systemProgram ∧ (cells.get target).data.IsBlank)
      True
      (cells.put target { cells.get target with owner })
  openMint (past : List Invocation) {cells : Cells} {mint token : Handle} (decimals : UInt8)
    (authority : Key) (freezeAuthority : Option Key) {lamports : UInt64}
    (htoken : token.key = .tokenProgram) (hcell : mint.cell < cells.length)
    (hblank : cells.get mint = ⟨lamports, Bytes.zeros Mint.size, .tokenProgram⟩)
    (hexempt : rent.IsExempt lamports Mint.size) :
    Answers (runtime.run past (.openMint mint token decimals authority freezeAuthority) cells)
      mint.isWritable True
      (cells.put mint { cells.get mint with
        data := (Mint.opened decimals authority freezeAuthority).writeOver (cells.get mint).data })
  openTokenAccount (past : List Invocation) {cells : Cells} {account mint token : Handle}
    (owner : Key) {lamports : UInt64} (htoken : token.key = .tokenProgram)
    (hnative : mint.key ≠ .nativeMint) (hapart : cells.HoldsApart [account, mint])
    (hblank : cells.get account = ⟨lamports, Bytes.zeros TokenAccount.size, .tokenProgram⟩)
    (hexempt : rent.IsExempt lamports TokenAccount.size) :
    Answers (runtime.run past (.openTokenAccount account mint token owner) cells)
      account.isWritable
      ((cells.get mint).owner = .tokenProgram ∧ (Mint.initialized? (cells.get mint).data).isSome)
      (cells.put account { cells.get account with
        data := (TokenAccount.opened mint.key owner).writeOver (cells.get account).data })

namespace Runtime.IsFaithful

variable {scheme : AddressScheme} {programId : Key} {rent : Rent} {runtime : Runtime}
  {past : List Invocation} {cells after : Cells} {payer target system : Handle}
  {lamports : UInt64} (hfaithful : runtime.IsFaithful scheme programId rent)
  (hapart : cells.HoldsApart [payer, target]) (hpositive : lamports ≠ 0)
include hfaithful hapart hpositive

theorem owner_of_charge {invocation : Invocation} {account : Account}
    (hreach : lamports ≤ (cells.get payer).lamports)
    (haccess : ⟨payer.key, true, true⟩ ∈ invocation.call.accesses)
    (hhandle : invocation.handle? payer.key = some payer)
    (hrun : runtime.run past invocation cells
      = .ok ((cells.charge payer lamports).put target account)) :
    (cells.get payer).owner = invocation.program := by
  refine hfaithful.owner_of_charged hrun haccess hhandle ?_
  have hpos : 0 < lamports := UInt64.pos_iff_ne_zero.mpr hpositive
  rw [(hapart.get_charged lamports account).1]
  rw [UInt64.lt_iff_toNat_lt, UInt64.toNat_zero] at hpos
  rw [UInt64.lt_iff_toNat_lt, UInt64.toNat_sub_of_le _ _ hreach]
  rw [UInt64.le_iff_toNat_le] at hreach
  omega

theorem owner_of_createAccount {space : UInt64} {owner : Key} {seeds : List Bytes}
    (hempty : (cells.get target).lamports = 0)
    (hrun : runtime.run past (.createAccount payer target system lamports space owner seeds) cells
      = .ok after) : (cells.get payer).owner = .systemProgram := by
  obtain ⟨⟨-, hreach⟩, rfl⟩ := (hfaithful.createAccount past system lamports space owner seeds
    hapart hempty).only after hrun
  refine hfaithful.owner_of_charge hapart hpositive hreach ?_ ?_ hrun
  · simp [Invocation.createAccount, Call.accesses]
  · simp [Invocation.createAccount, Invocation.handle?]

theorem owner_of_transfer
    (hroom : (cells.get target).lamports.toNat + lamports.toNat < UInt64.size)
    (hrun : runtime.run past (.transfer payer target system lamports) cells = .ok after) :
    (cells.get payer).owner = .systemProgram := by
  obtain ⟨hreach, rfl⟩ := (hfaithful.transfer past system hapart hroom).only after hrun
  refine hfaithful.owner_of_charge hapart hpositive hreach ?_ ?_ hrun
  · simp [Invocation.transfer, Call.accesses]
  · simp [Invocation.transfer, Invocation.handle?]

end Runtime.IsFaithful

end Chain

end StakePool
