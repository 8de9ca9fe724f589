import StakePool.Chunks
import StakePool.Operation.Status
import StakePool.Setup.Failure
import StakePool.Store
/-!
# Setting up a pool

A setup goes through four steps: it derives the addresses, drafts the operations on accounts, drafts
those on tokens, and commits the draft together with the final record to the store. The first three
only read. Operations whose effect is already there are left out of the draft, so that a setup which
was interrupted between two batches is resumed by running it again; anything else in the way of an
operation ends the setup before the store has been touched.
-/

namespace StakePool

structure Setup where
  programId : Key
  payer : Key
  root : Key
  parameters : Parameters
deriving DecidableEq

namespace Setup

/-- The operations decided on so far. -/
structure Draft where
  book : AddressBook
  operations : List Operation
deriving DecidableEq

inductive Phase where
  | unstarted
  | addressesDerived (draft : Draft)
  | accountsProvisioned (draft : Draft)
  | tokensBootstrapped (draft : Draft)
  /-- The pool exists; its batches were accepted under these numbers. -/
  | written (pool : Key) (transactions : List UInt64)
  | aborted (failure : Failure)
deriving DecidableEq

def Phase.IsTerminal : Phase → Prop
  | .written .. | .aborted _ => True
  | _ => False

instance : DecidablePred Phase.IsTerminal
  | .written .. | .aborted _ => inferInstanceAs (Decidable True)
  | .unstarted | .addressesDerived _ | .accountsProvisioned _ | .tokensBootstrapped _ =>
    inferInstanceAs (Decidable False)

/-- The terms under which a store says that it takes batches. -/
structure Quote where
  rent : Rent
  limit : Option Nat

end Setup

def Store.quote (store : Store) : Setup.Quote := ⟨store.rent, store.limit⟩

namespace Setup

variable (scheme : AddressScheme) (setup : Setup)

/-- Leave out what is there already, and stop at whatever is in the way. -/
def pending (stage : Stage) (reader : Reader) : List Operation → Except Failure (List Operation)
  | [] => .ok []
  | op :: rest =>
    match op.status reader setup.programId with
    | .pending => (op :: ·) <$> pending stage reader rest
    | .applied => pending stage reader rest
    | .conflict => .error (.occupied stage op.target)

/-- The program's record of a finished pool is at an address. -/
def PoolExists (reader : Reader) (pool : Key) : Prop :=
  ∃ account, reader pool = some account ∧ account.owner = setup.programId
    ∧ (PoolRecord.ofData? account.data).isSome

instance (reader : Reader) (pool : Key) : Decidable (setup.PoolExists reader pool) :=
  match h : reader pool with
  | none => isFalse (by simp [PoolExists, h])
  | some account =>
    decidable_of_iff (account.owner = setup.programId ∧ (PoolRecord.ofData? account.data).isSome)
      (by simp [PoolExists, h])

def derive (reader : Reader) : Except Failure Draft :=
  match setup.parameters.breach? with
  | some breach => .error (.invalidParameters breach)
  | none =>
    match AddressBook.derive? scheme setup.programId setup.root with
    | none => .error .underivable
    | some book =>
      if setup.PoolExists reader book.pool then .error (.poolExists book.pool)
      else .ok ⟨book, []⟩

/-- Append those of the planned operations that are still to be done. -/
def extend (stage : Stage) (reader : Reader) (draft : Draft)
    (planned : Except PlanFault (List Operation)) : Except Failure Draft :=
  match planned with
  | .error fault => .error (.unplannable stage fault)
  | .ok operations =>
    (setup.pending stage reader operations).map fun pending =>
      { draft with operations := draft.operations ++ pending }

def provision (rent : Rent) (reader : Reader) (draft : Draft) : Except Failure Draft :=
  setup.extend .provision reader draft (Plan.provision draft.book setup.parameters rent)

def bootstrap (reader : Reader) (draft : Draft) : Except Failure Draft :=
  setup.extend .bootstrap reader draft (Plan.bootstrap scheme draft.book)

def complete (rent : Rent) (reader : Reader) (draft : Draft) : Except Failure Draft :=
  setup.extend .commit reader draft (.ok [Plan.recordWrite draft.book setup.parameters rent])

/-- What the payer has to put up for all operations, as things stand. -/
def fundingNeeded (reader : Reader) (operations : List Operation) : UInt64 :=
  operations.foldl (fun sum op => Saturating.add64 sum (op.fundingNeeded reader)) 0

/-- The finished draft, provided that the payer can afford it. -/
def afford (reader : Reader) (draft : Draft) : Except Failure Draft :=
  let needed := fundingNeeded reader draft.operations
  let available := reader.lamports setup.payer
  if available < needed then .error (.underfunded setup.payer available needed) else .ok draft

/-- The operations cut into batches that keep a limit. -/
def batches (limit : Option Nat) (operations : List Operation) : List Batch :=
  (chunks (limit.getD operations.length) operations).map fun operations =>
    { programId := setup.programId, payer := setup.payer, operations }

/-- Where a step or a run has led. -/
structure Outcome where
  phase : Phase
  store : Store
  log : List String

def Outcome.abort (failure : Failure) (store : Store) : Outcome :=
  ⟨.aborted failure, store, failure.log⟩

/-- The outcome of a step that only drafts. -/
def Outcome.ofDraft (store : Store) (phase : Draft → Phase) (log : Draft → List String) :
    Except Failure Draft → Outcome
  | .ok draft => ⟨phase draft, store, log draft⟩
  | .error failure => .abort failure store

/-- The lines that the log gets for accepted batches. -/
def submittedLog (accepted : List Batch) : List String :=
  accepted.mapIdx fun index batch =>
    let count := batch.operations.length
    s!"Submitted stage {index} ({count} operations)"

/-- Submit the draft in batches. -/
def submit (limit : Option Nat) (draft : Draft) (store : Store) : Outcome :=
  let submission := store.submitAll (setup.batches limit draft.operations)
  let log := submittedLog submission.accepted
  match submission.rejection? with
  | some rejection =>
    let failure := .rejected submission.accepted.length rejection
    ⟨.aborted failure, submission.store, log ++ failure.log⟩
  | none =>
    let pool := draft.book.pool
    ⟨.written pool submission.numbers, submission.store, log ++ [s!"Pool {pool} initialized"]⟩

def commit (quote : Quote) (draft : Draft) (store : Store) : Outcome :=
  let reader := store.accounts.find?
  match setup.complete quote.rent reader draft >>= setup.afford reader with
  | .error failure => .abort failure store
  | .ok draft => setup.submit quote.limit draft store

def derivedLog (draft : Draft) : List String :=
  let pool := draft.book.pool
  let root := draft.book.root
  [s!"Derived pool {pool} for root {root}"]

/-- One step. A setup that has ended stays as it is. -/
def step (quote : Quote) (phase : Phase) (store : Store) : Outcome :=
  let reader := store.accounts.find?
  match phase with
  | .unstarted =>
    .ofDraft store .addressesDerived derivedLog (setup.derive scheme reader)
  | .addressesDerived draft =>
    .ofDraft store .accountsProvisioned (fun _ => []) (setup.provision quote.rent reader draft)
  | .accountsProvisioned draft =>
    .ofDraft store .tokensBootstrapped (fun _ => []) (setup.bootstrap scheme reader draft)
  | .tokensBootstrapped draft => setup.commit quote draft store
  | .written .. | .aborted _ => ⟨phase, store, []⟩

/-- Go on from an outcome by a number of steps. -/
def proceed (quote : Quote) : (steps : Nat) → Outcome → Outcome
  | 0, outcome => outcome
  | steps + 1, outcome =>
    let next := setup.step scheme quote outcome.phase outcome.store
    proceed quote steps { next with log := outcome.log ++ next.log }

/-- Step until the setup has ended, which four steps bring about from any phase. -/
def run (quote : Quote) (phase : Phase) (store : Store) : Outcome :=
  setup.proceed scheme quote 4 ⟨phase, store, []⟩

/-- A whole setup, on the terms of the store itself. -/
def execute (store : Store) : Outcome := setup.run scheme store.quote .unstarted store

end Setup

end StakePool
