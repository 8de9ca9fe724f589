import StakePool.Chain.Programs
/-!
# The rules of the ledger

A program computes what becomes of the accounts that it is called with, and the ledger has the last
word. The caller can only let an account be written to that it may write to itself. Only the owner of
an account takes from its lamports, changes its data or gives it away, and what is given away is
blank. And nothing grows by more than so much at a time. An invocation that breaks a rule fails.

The ledger ends the whole transaction then, with errors that programs have no names for; here they go
by the names that come closest.
-/

namespace StakePool

/-- The rule of the ledger that a program breaks when it makes one account out of another. -/
def Account.breach? (program : Key) (isWritable : Bool) (before after : Account) :
    Option ChainError :=
  if ¬ isWritable ∧ after ≠ before then
    some .immutable
  else if before.owner ≠ program ∧ (after.lamports < before.lamports ∨ after.data ≠ before.data
      ∨ after.owner ≠ before.owner) then
    some .illegalOwner
  else if after.owner ≠ before.owner ∧ ¬ after.data.IsBlank then
    some .illegalOwner
  else if before.data.length + maxCreatedSpace.toNat < after.data.length then
    some .invalidRealloc
  else
    none

namespace Chain

namespace Invocation

variable (invocation : Invocation)

/-- The call asks for more than the handles allow. -/
def Escalates : Prop :=
  ∃ access ∈ invocation.call.accesses, access.isWritable
    ∧ ∃ handle ∈ invocation.handle? access.key, ¬ handle.isWritable

instance : Decidable invocation.Escalates :=
  inferInstanceAs (Decidable (∃ access ∈ invocation.call.accesses, access.isWritable
    ∧ ∃ handle ∈ invocation.handle? access.key, ¬ handle.isWritable))

/-- The rule that is broken with one of the accounts of the call. -/
def breach? (before after : Cells) : Option ChainError :=
  invocation.call.accesses.findSome? fun access => do
    let handle ← invocation.handle? access.key
    Account.breach? invocation.program access.isWritable (before.get handle) (after.get handle)

end Invocation

namespace Runtime

/-- The invoked programs under the rules of the ledger. -/
def guarded (runtime : Runtime) : Runtime where
  run past invocation cells := do
    if invocation.Escalates then throw .immutable
    let after ← runtime.run past invocation cells
    match invocation.breach? cells after with
    | some error => throw error
    | none => return after

/-- The system program and the token program as they are on the chain. -/
def faithful (scheme : AddressScheme) (programId : Key) (rent : Rent) : Runtime :=
  (programs scheme programId rent).guarded

/-- A fixed answer to an invocation. -/
inductive Answer where
  /-- Success, without doing anything. -/
  | skip
  | fail (number : UInt32)
deriving DecidableEq

/-- A runtime in which some invocations, counted from zero, are answered without being executed. -/
def override (answers : List (Nat × Answer)) (runtime : Runtime) : Runtime where
  run past invocation cells :=
    match answers.lookup past.length with
    | some .skip => .ok cells
    | some (.fail number) => .error (.custom number)
    | none => runtime.run past invocation cells

end Runtime

end Chain

end StakePool
