import StakePool.Account
import StakePool.Address
import StakePool.Fault
import StakePool.Request
/-!
# Invocations

A program that runs on the chain holds its accounts by handles and leaves most of the work to two other
programs, the system program and the token program. A `Call` is what it asks of them; an `Invocation`
is the call together with the handles it passes on and the seeds it signs with.
-/

namespace StakePool

namespace Chain

/-- The accounts of a running instruction. -/
abbrev Cells := List Account

/-- One entry of an instruction's account list. Entries may share a cell. -/
structure Handle where
  key : Key
  isSigner : Bool
  isWritable : Bool
  cell : Nat
deriving DecidableEq

namespace Cells

variable (cells : Cells)

def get (handle : Handle) : Account := cells.getD handle.cell (.plain 0)

def put (handle : Handle) (account : Account) : Cells := cells.set handle.cell account

end Cells

inductive Call where
  | createAccount (payer target : Key) (lamports space : UInt64) (owner : Key)
  | assign (target owner : Key)
  | transfer (payer target : Key) (lamports : UInt64)
  | allocate (target : Key) (space : UInt64)
  | openMint (mint : Key) (decimals : UInt8) (authority : Key) (freezeAuthority : Option Key)
  | openTokenAccount (account mint owner : Key)
deriving DecidableEq

namespace Call

/-- The program that answers the call. -/
def program : Call → Key
  | createAccount .. | assign .. | transfer .. | allocate .. => .systemProgram
  | openMint .. | openTokenAccount .. => .tokenProgram

def accesses : Call → List Access
  | createAccount payer target .. => [⟨payer, true, true⟩, ⟨target, true, true⟩]
  | assign target _ => [⟨target, true, true⟩]
  | transfer payer target _ => [⟨payer, true, true⟩, ⟨target, false, true⟩]
  | allocate target _ => [⟨target, true, true⟩]
  | openMint mint .. => [⟨mint, false, true⟩]
  | openTokenAccount account mint _ => [⟨account, false, true⟩, ⟨mint, false, false⟩]

/-- The account that lamports are taken from. -/
def source? : Call → Option Key
  | createAccount payer .. => some payer
  | transfer payer .. => some payer
  | _ => none

/-- The call as the answering program reads it: the system program's calls have a tag of four bytes,
the token program's a tag of one. -/
def data : Call → Bytes
  | createAccount _ _ lamports space owner =>
    Layout.word32.encode 0 ++ Layout.word64.encode lamports ++ Layout.word64.encode space
      ++ owner.bytes
  | assign _ owner => Layout.word32.encode 1 ++ owner.bytes
  | transfer _ _ lamports => Layout.word32.encode 2 ++ Layout.word64.encode lamports
  | allocate _ space => Layout.word32.encode 8 ++ Layout.word64.encode space
  | openMint _ decimals authority freezeAuthority =>
    [20, decimals] ++ authority.bytes ++
      match freezeAuthority with
      | some freeze => 1 :: freeze.bytes
      | none => [0]
  | openTokenAccount _ _ owner => 18 :: owner.bytes

end Call

structure Invocation where
  program : Key
  call : Call
  handles : List Handle
  /-- One list of seeds for every derived address that the invocation signs for. -/
  seeds : List (List Bytes)
deriving DecidableEq

namespace Invocation

variable (invocation : Invocation)

/-- The handle that is passed along for an account. -/
def handle? (key : Key) : Option Handle := invocation.handles.find? (·.key = key)

/-! The invocations that the program makes. A new account has to sign, which the program does for it
with its seeds. -/

def createAccount (payer target system : Handle) (lamports space : UInt64) (owner : Key)
    (seeds : List Bytes) : Invocation where
  program := .systemProgram
  call := .createAccount payer.key target.key lamports space owner
  handles := [payer, target, system]
  seeds := [seeds]

def transfer (payer target system : Handle) (lamports : UInt64) : Invocation where
  program := .systemProgram
  call := .transfer payer.key target.key lamports
  handles := [payer, target, system]
  seeds := []

def allocate (target system : Handle) (space : UInt64) (seeds : List Bytes) : Invocation where
  program := .systemProgram
  call := .allocate target.key space
  handles := [target, system]
  seeds := [seeds]

def assign (target system : Handle) (owner : Key) (seeds : List Bytes) : Invocation where
  program := .systemProgram
  call := .assign target.key owner
  handles := [target, system]
  seeds := [seeds]

def openMint (mint token : Handle) (decimals : UInt8) (authority : Key)
    (freezeAuthority : Option Key) : Invocation where
  program := token.key
  call := .openMint mint.key decimals authority freezeAuthority
  handles := [mint, token]
  seeds := []

def openTokenAccount (account mint token : Handle) (owner : Key) : Invocation where
  program := token.key
  call := .openTokenAccount account.key mint.key owner
  handles := [account, mint, token]
  seeds := []

end Invocation

/-- What an invocation does to the accounts, given the invocations before it. -/
structure Runtime where
  run : (past : List Invocation) → Invocation → Cells → Except ChainError Cells

end Chain

end StakePool
