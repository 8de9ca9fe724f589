import StakePool.Accounts
import StakePool.Chain.Execution
import StakePool.Chain.Listing
/-!
# Instructions in a row

The chain executes the instructions that are sent to the program one after another. It loads the
accounts that an instruction lists, lets the program run, and writes the accounts back; when the
program fails, all accounts stay as they were.
-/

namespace StakePool

namespace Chain

/-- What is sent to the program. -/
structure Instruction where
  accesses : List Access
  data : Bytes
deriving DecidableEq

namespace Instruction

/-- A request as it is meant to be sent. -/
def ofRequest (book : AddressBook) (payer : Key) (request : Request) : Instruction where
  accesses := Request.accesses book payer
  data := request.encode

variable (instruction : Instruction)

/-- The account at whose expense the program works, provided that it signs. -/
def payer? : Option Key :=
  match instruction.accesses with
  | [] => none
  | access :: _ => if access.isSigner then some access.key else none

/-- The root of the pool that is asked for. -/
def root? : Option Key := (Request.decode? instruction.data).map (·.root)

end Instruction

/-- The account list of an instruction. Accounts with the keys `seen` have been listed before. -/
def Listed.ofAccesses (accounts : Accounts) (seen : List Key) : List Access → List Listed
  | [] => []
  | ⟨key, isSigner, isWritable⟩ :: rest =>
    let entry :=
      match seen.idxOf? key with
      | some index => again index
      | none => first key (accounts.get key) isSigner isWritable
    entry :: ofAccesses accounts (seen ++ [key]) rest

/-- Write the accounts of an instruction back. -/
def Cells.settle (cells : Cells) (handles : List Handle) (accounts : Accounts) : Accounts :=
  handles.foldl (fun accounts handle => accounts.insert handle.key (cells.get handle)) accounts

variable (scheme : AddressScheme) (programId : Key) (runtime : Runtime) (rent : Rent)

/-- The accounts after an instruction, if it succeeds. -/
def execute? (accounts : Accounts) (instruction : Instruction) : Option Accounts := do
  let (handles, cells) ← Listed.load? (Listed.ofAccesses accounts [] instruction.accesses)
  let verdict := process scheme programId runtime (some rent) handles cells instruction.data
  match verdict.result with
  | .ok () => some (verdict.machine.cells.settle handles accounts)
  | .error _ => none

/-- The accounts after an instruction, whether it succeeds or not. -/
def next (accounts : Accounts) (instruction : Instruction) : Accounts :=
  (execute? scheme programId runtime rent accounts instruction).getD accounts

def run (instructions : List Instruction) (accounts : Accounts) : Accounts :=
  instructions.foldl (next scheme programId runtime rent) accounts

end Chain

end StakePool
